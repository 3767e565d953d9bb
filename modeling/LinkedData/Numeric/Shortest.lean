import LinkedData.Numeric.Binary64

/-!
# The shortest decimal that reads back

A positive finite number is written with the fewest digits such that reading them gives the number again, and of
those decimals with the nearest one.

* `Digits`: a coefficient and a power of ten;
* `shortest`: the digits of a rank; for 1, 2, … 17 digits it tries the two neighbours on the grid of that many digits;
* `toBinary64_of_onGrid?`: whatever the search finds reads back.
-/

namespace LinkedData.Numeric

/-- The decimal `coefficient * 10 ^ exponent`. -/
structure Digits where
  coefficient : Nat
  exponent : Int
deriving DecidableEq, Inhabited

namespace Digits

/-- `d` without its trailing zeros, at most `fuel` of them. -/
def stripZeros : Nat → Digits → Digits
  | 0, d => d
  | fuel + 1, d =>
    if d.coefficient ≠ 0 ∧ d.coefficient % 10 = 0 then
      stripZeros fuel ⟨d.coefficient / 10, d.exponent + 1⟩
    else d

/-- `d` without its trailing zeros; zero has exponent zero. -/
def normalize (d : Digits) : Digits :=
  if d.coefficient = 0 then ⟨0, 0⟩ else stripZeros (Binary64.digitCount d.coefficient) d

/-- The binary64 number nearest to `d`. -/
def toBinary64 (d : Digits) : Binary64 := Binary64.ofDecimal false d.coefficient d.exponent

end Digits

namespace Binary64

/-- The position of the decimal point of `n` units: the power of ten next above them. -/
def pointOf (n : Nat) : Int :=
  if unitsPerOne ≤ n then digitCount (n / unitsPerOne)
  else 1 - (digitCount ((unitsPerOne + n - 1) / n - 1) : Int)

/-- The fraction `n` units times `10 ^ -exponent`, as numerator and denominator. -/
def scaled (n : Nat) (exponent : Int) : Nat × Nat :=
  match exponent with
  | .ofNat e => (n, unitsPerOne * Nat.pow 10 e)
  | .negSucc e => (n * Nat.pow 10 (e + 1), unitsPerOne)

/-- The decimal on the grid of `count` digits that reads back as the given rank: the nearer of the two neighbours
if both do. -/
def onGrid? (rank count : Nat) : Option Digits :=
  let n := units rank
  let exponent := pointOf n - count
  let ratio := scaled n exponent
  let low : Digits := ⟨ratio.1 / ratio.2, exponent⟩
  let high : Digits := ⟨ratio.1 / ratio.2 + 1, exponent⟩
  let lowFirst := 2 * (ratio.1 % ratio.2) < ratio.2 ∨ 2 * (ratio.1 % ratio.2) = ratio.2 ∧ low.coefficient % 2 = 0
  (if lowFirst then [low, high] else [high, low]).find? fun d => d.toBinary64 = ofRank false rank

/-- All digits of a rank's magnitude. -/
def exactDigits (rank : Nat) : Digits := ⟨units rank * Nat.pow 5 1074, -1074⟩

/-- The shortest digits that read back as the given rank. -/
def shortest (rank : Nat) : Digits :=
  (((List.range 17).findSome? fun k => onGrid? rank (k + 1)).getD (exactDigits rank)).normalize

theorem toBinary64_of_onGrid? {rank count : Nat} {d : Digits} (h : onGrid? rank count = some d) :
    d.toBinary64 = ofRank false rank := by
  simpa using List.find?_some h

end Binary64

end LinkedData.Numeric
