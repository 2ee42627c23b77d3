/-!
# Devices

Each reader on the bus has an address from 1 to 99, written with two digits.
-/

namespace Gatehouse

structure Device where
  number : Nat
  inRange : 1 ≤ number ∧ number ≤ 99
  deriving DecidableEq

namespace Device

def ofNat? (number : Nat) : Option Device :=
  if inRange : 1 ≤ number ∧ number ≤ 99 then some ⟨number, inRange⟩ else none

def digits (device : Device) : List Char :=
  [Nat.digitChar (device.number / 10), Nat.digitChar (device.number % 10)]

def text (device : Device) : String :=
  String.ofList device.digits

theorem ext_number {left right : Device} (equal : left.number = right.number) : left = right := by
  cases left
  cases right
  simp_all

@[simp] theorem ofNat?_number (device : Device) : ofNat? device.number = some device := by
  simp [ofNat?, device.inRange]

example : (Device.mk 7 (by decide)).text = "07" := by decide +kernel

end Device

end Gatehouse
