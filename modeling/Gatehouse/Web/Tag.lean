import Gatehouse.Digest
import Gatehouse.Json.Order
import Gatehouse.Text.Base64
import Gatehouse.Text.Blank
import Gatehouse.Web.Request

/-!
# Tags of answers

Each document that is sent has a tag made of its size and its digest. Who has seen a document may
ask for it again with its tag, and need not be sent it once more while the tag is the same. The
tags are weak: whether a tag is marked as weak does not matter.
-/

namespace Gatehouse.Web

namespace Tag

def width : Nat := 27

def weakMark : String := "W/"

def ofText (text : String) : String :=
  let bytes := text.toList.flatMap String.utf8EncodeChar
  let size := String.ofList (Nat.toDigits 16 bytes.length)
  let letters := String.ofList ((Text.Base64.encode (Digest.ofBytes bytes)).take width)
  weakMark ++ "\"" ++ size ++ "-" ++ letters ++ "\""

def ofDocument (document : Json) : String :=
  ofText (Json.write document.settled)

def parts (text : String) : List (List Char) :=
  text.toList.splitBy (fun left right => left != ',' && right != ',') |>.filter (· != [','])

def trimSpaces (text : List Char) : List Char :=
  ((text.dropWhile (· == ' ')).reverse.dropWhile (· == ' ')).reverse

def isSame (tag : String) (known : List Char) : Bool :=
  let known := String.ofList known
  known == tag || known == weakMark ++ tag || weakMark ++ known == tag

def isKnown (tag known : String) : Bool :=
  known == "*" || (parts known).any fun part => isSame tag (trimSpaces part)

def isForced (headers : Headers) : Bool :=
  match headers.filled? "cache-control" with
  | some wishes =>
      (parts wishes).any fun wish => String.ofList (Text.trimList wish) == "no-cache"
  | none => false

/-- Whether a document need not be sent again. Documents have no date, so who asks by date is sent
them. -/
def isFresh (headers : Headers) (document : Json) : Bool :=
  match headers.filled? "if-none-match" with
  | some known =>
      !isForced headers && (headers.filled? "if-modified-since").isNone &&
        isKnown (ofDocument document) known
  | none => false

example : ofDocument (.object [("status", .text "ok")]) =
    "W/\"f-VaSQ4oDUiZblZNAEkkN+sX+q3Sg\"" := by decide +kernel
example : isKnown "W/\"1\"" "\"0\" ,  \"1\" " = true := by decide +kernel
example : isForced [("Cache-Control", "max-age=0,\tno-cache")] = true := by decide +kernel

end Tag

end Gatehouse.Web
