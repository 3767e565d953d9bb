import LinkedData.Numeric.FloatText

/-!
# Decimal numbers of any size

* `Decimal`: a sign, a coefficient and a power of ten, or a special value; trailing zeros are kept;
* `Decimal.text`: the scientific notation of decimal arithmetic;
* `Number`: what integers, binary64 numbers and decimals have in common, by which they are compared.
-/

namespace LinkedData.Numeric

/-- A decimal number. A NaN may be signaling, may carry digits, and has an identity. -/
inductive Decimal where
  | finite (negative : Bool) (coefficient : Nat) (exponent : Int)
  | infinity (negative : Bool)
  | nan (negative signaling : Bool) (payload identity : Nat)
deriving DecidableEq, Inhabited

namespace Decimal

/-! ### text -/

/-- The minus sign of a negative number. -/
def signText (negative : Bool) : List Char := if negative then ['-'] else []

/-- A decimal number in scientific notation: without an exponent unless the point would stand more than five zeros
before the digits or beyond them. -/
def text : Decimal → List Char
  | .finite negative coefficient exponent =>
    let ds := natText coefficient
    let point : Int := ds.length + exponent
    let shown : Int := if exponent ≤ 0 ∧ -6 < point then point else 1
    let digits :=
      if shown ≤ 0 then '0' :: '.' :: List.replicate (-shown).toNat '0' ++ ds
      else if ds.length ≤ shown then ds ++ List.replicate (shown.toNat - ds.length) '0'
      else ds.take shown.toNat ++ '.' :: ds.drop shown.toNat
    let rest := point - shown
    signText negative ++ digits ++
      (if rest = 0 then [] else 'E' :: (if rest < 0 then '-' else '+') :: natText rest.natAbs)
  | .infinity negative => signText negative ++ "Infinity".toList
  | .nan negative signaling payload _ =>
    signText negative ++ (if signaling then "sNaN".toList else "NaN".toList) ++
      (if payload = 0 then [] else natText payload)

/-- Positive and negative zero. -/
def isZero : Decimal → Bool
  | .finite _ coefficient _ => coefficient = 0
  | _ => false

end Decimal

/-! ### comparison -/

/-- A number up to its notation: a decimal without trailing zeros, or an infinity. -/
inductive Number where
  | finite (negative : Bool) (digits : Digits)
  | infinity (negative : Bool)
deriving DecidableEq

namespace Number

/-- A decimal without its trailing zeros; zero has no sign. -/
def ofDigits (negative : Bool) (d : Digits) : Number :=
  .finite (negative && d.coefficient ≠ 0) d.normalize

/-- The number that an integer is. -/
def ofInt (n : Int) : Number := ofDigits (n < 0) ⟨n.natAbs, 0⟩

/-- The number that a binary64 number is; a NaN is none. -/
def ofBinary64? : Binary64 → Option Number
  | .finite negative rank => some (ofDigits negative (Binary64.exactDigits rank.val))
  | .infinity negative => some (.infinity negative)
  | .nan _ => none

/-- The number that a decimal is; a NaN is none. -/
def ofDecimal? : Decimal → Option Number
  | .finite negative coefficient exponent => some (ofDigits negative ⟨coefficient, exponent⟩)
  | .infinity negative => some (.infinity negative)
  | .nan _ _ _ _ => none

end Number

end LinkedData.Numeric
