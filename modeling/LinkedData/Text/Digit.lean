/-!
# Decimal digits of every script

* `digitZeros`: the code points of the zeros; each script's ten digits follow its zero in order;
* `digitValue?`: the value of a decimal digit of any script;
* `readNat?`: the number that a non-empty run of such digits denotes in base ten;
* `digitLimit`: numbers of more digits are neither read nor written.

Superscripts, fractions, circled and Roman numerals have a numeric value and are no decimal digits.
-/

namespace LinkedData.Text

/-- The zero of every script that has decimal digits. -/
def digitZeros : List Nat :=
  [0x0030, 0x0660, 0x06F0, 0x07C0, 0x0966, 0x09E6, 0x0A66, 0x0AE6, 0x0B66, 0x0BE6,
   0x0C66, 0x0CE6, 0x0D66, 0x0DE6, 0x0E50, 0x0ED0, 0x0F20, 0x1040, 0x1090, 0x17E0,
   0x1810, 0x1946, 0x19D0, 0x1A80, 0x1A90, 0x1B50, 0x1BB0, 0x1C40, 0x1C50, 0xA620,
   0xA8D0, 0xA900, 0xA9D0, 0xA9F0, 0xAA50, 0xABF0, 0xFF10, 0x104A0, 0x10D30, 0x11066,
   0x110F0, 0x11136, 0x111D0, 0x112F0, 0x11450, 0x114D0, 0x11650, 0x116C0, 0x11730, 0x118E0,
   0x11950, 0x11C50, 0x11D50, 0x11DA0, 0x16A60, 0x16AC0, 0x16B50, 0x1D7CE, 0x1D7D8, 0x1D7E2,
   0x1D7EC, 0x1D7F6, 0x1E140, 0x1E2F0, 0x1E950, 0x1FBF0]

/-- The value of a decimal digit. -/
def digitValue? (c : Char) : Option Nat :=
  (digitZeros.find? fun z => z ≤ c.toNat && c.toNat < z + 10).map (c.toNat - ·)

/-- A decimal digit of some script. -/
def isDecimal (c : Char) : Bool := (digitValue? c).isSome

/-- The greatest number of digits that a number in base ten is read from or written with. -/
def digitLimit : Nat := 4300

/-- The digits of `cs` appended to the number `n`. -/
def appendDigits? (n : Nat) : List Char → Option Nat
  | [] => some n
  | c :: cs => (digitValue? c).bind fun d => appendDigits? (10 * n + d) cs

/-- The number written by `cs`, if `cs` is a non-empty run of decimal digits. -/
def readNat? (cs : List Char) : Option Nat :=
  if cs.isEmpty then none else appendDigits? 0 cs

theorem appendDigits?_isSome (n : Nat) (cs : List Char) :
    (appendDigits? n cs).isSome = cs.all isDecimal := by
  induction cs generalizing n with
  | nil => rfl
  | cons c cs ih =>
    cases h : digitValue? c with
    | none => simp [appendDigits?, isDecimal, h]
    | some d => simp [appendDigits?, isDecimal, h, ih]

/-- A text is read exactly if it is not empty and all its characters are decimal digits. -/
theorem readNat?_isSome (cs : List Char) : (readNat? cs).isSome = (!cs.isEmpty && cs.all isDecimal) := by
  unfold readNat?
  split <;> simp_all [appendDigits?_isSome]

end LinkedData.Text
