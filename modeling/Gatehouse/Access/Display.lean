import Gatehouse.Access.Basic
import Gatehouse.Field
import Gatehouse.Text.BaseLetter
import Gatehouse.Text.Blank

/-!
# Display lines

A reader shows one line of at most 40 printable characters of the basic alphabet. `line` makes any
text fit: letters lose their marks, everything else that cannot be shown is dropped, and so are the
delimiters of the bus.
-/

namespace Gatehouse.Access.Display

def width : Nat := 40

def isShown (character : Char) : Bool :=
  0x20 ≤ character.toNat && character.toNat < 0x7f && !Field.delimiters.contains character

def lineOf (characters : List Char) : List Char :=
  Text.trimBack ((Text.trimList ((characters.flatMap Text.baseOf).filter isShown)).take width)

def line (text : String) : String :=
  String.ofList (lineOf text.toList)

def granted : String := "Acesso liberado"

def denied : String := "Acesso negado"

def methodDenied : Reader → String
  | .card => "Acesso por cartao nao permitido"
  | .biometric => "Acesso biometrico nao permitido"
  | .keypad => "Acesso por teclado nao permitido"

def ofDenial (reader : Reader) : Denial → String
  | .cardNotFound => "Cartao nao cadastrado"
  | .codeNotFound => "Codigo nao cadastrado"
  | .cardInactive => "Cartao inativo"
  | .cardExpired => "Cartao fora do periodo de validade"
  | .userNotFound => "Usuario nao encontrado"
  | .userInactive => "Usuario inativo"
  | .userExpired => "Usuario fora do periodo de validade"
  | .methodNotPermitted => methodDenied reader
  | .antiPassback => "Bloqueio por anti-dupla"
  | .remoteDenied | .malformedRequest | .validationError => denied

def table : List (String × String) := [
  ("CARD_NOT_FOUND", ofDenial .card .cardNotFound),
  ("CODE_NOT_FOUND", ofDenial .card .codeNotFound),
  ("CARD_INACTIVE", ofDenial .card .cardInactive),
  ("CARD_EXPIRED", ofDenial .card .cardExpired),
  ("USER_NOT_FOUND", ofDenial .card .userNotFound),
  ("USER_INACTIVE", ofDenial .card .userInactive),
  ("USER_EXPIRED", ofDenial .card .userExpired),
  ("CARD_ACCESS_DENIED", methodDenied .card),
  ("BIO_ACCESS_DENIED", methodDenied .biometric),
  ("KEYPAD_ACCESS_DENIED", methodDenied .keypad),
  ("ANTI_PASSBACK", ofDenial .card .antiPassback),
  ("ACCESS_GRANTED", granted),
  ("ACCESS_DENIED", denied)]

theorem line_ofDenial (reader : Reader) (denial : Denial) :
    line (ofDenial reader denial) = ofDenial reader denial := by
  cases denial <;> cases reader <;> decide +kernel

example : line " Olá, [São] José+ \u00a0" = "Ola, Sao Jose" := by decide +kernel

end Gatehouse.Access.Display
