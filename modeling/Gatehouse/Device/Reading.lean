import Gatehouse.Fault
import Gatehouse.Number.Reading
import Gatehouse.Text.Blank

/-!
# Reading device addresses

An address comes as a number or as one to three digits with blanks around them.
-/

namespace Gatehouse.Device

def ofNumber (number : Number) : Except Fault Device :=
  match number.toInt? with
  | some whole =>
      match ofNat? whole.toNat with
      | some device => .ok device
      | none => .error (.message (.deviceOutOfRange number))
  | none => .error (.message (.deviceOutOfRange number))

def isShortCode (characters : List Char) : Bool :=
  1 ≤ characters.length && characters.length ≤ 3 && characters.all Number.isDigit

def read (text : String) : Except Fault Device :=
  let characters := Text.trimList text.toList
  if isShortCode characters then ofNumber (.ofNat (Number.digitsValue characters))
  else .error (.message (.unreadableDevice text))

theorem ofNumber_number (device : Device) :
    ofNumber (.ofNat device.number) = .ok device := by
  simp [ofNumber]

end Gatehouse.Device
