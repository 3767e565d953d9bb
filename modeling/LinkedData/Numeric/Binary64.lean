/-!
# Binary64 numbers

A finite number is a sign and a *rank*: its position among the non-negative finite numbers in increasing order, which
is also its bit pattern without the sign. All magnitudes are whole multiples of the least positive one, 2 ^ -1074,
and `units` gives that multiple.

* `Binary64.units`: the magnitude of a rank, in units of 2 ^ -1074;
* `Binary64.ofRatio`: the number nearest to a fraction of units, ties going to the even rank;
* `Binary64.ofDecimal`: the number nearest to `coefficient * 10 ^ exponent`;
* `Binary64.integer?`: the integer that an integral number equals.
-/

namespace LinkedData.Numeric

/-- The number of ranks from one power of two to the next. -/
abbrev binade : Nat := Nat.pow 2 52

/-- The ranks below the first one whose magnitude is not finite. -/
abbrev rankBound : Nat := 2047 * binade

/-- A binary64 number. NaNs differ by their identity only, which is not seen in calculations or texts. -/
inductive Binary64 where
  /-- The number of the given sign and rank. -/
  | finite (negative : Bool) (rank : Fin rankBound)
  /-- An infinity. -/
  | infinity (negative : Bool)
  /-- Not a number. -/
  | nan (identity : Nat)
deriving DecidableEq, Inhabited

namespace Binary64

/-! ### magnitudes -/

/-- The magnitude of a rank, as a multiple of 2 ^ -1074. -/
def units (rank : Nat) : Nat :=
  if rank / binade = 0 then rank % binade else (binade + rank % binade) * Nat.pow 2 (rank / binade - 1)

/-- The number of units in one. -/
def unitsPerOne : Nat := Nat.pow 2 1074

/-- Neither infinite nor NaN. -/
def isFinite : Binary64 → Bool
  | .finite _ _ => true
  | _ => false

/-- Positive and negative zero. -/
def isZero : Binary64 → Bool
  | .finite _ rank => rank.val = 0
  | _ => false

/-- The integer with the given sign and magnitude. -/
def signed (negative : Bool) (magnitude : Nat) : Int :=
  if negative then -(magnitude : Int) else magnitude

/-- The integer that a finite number without fractional part equals. -/
def integer? : Binary64 → Option Int
  | .finite negative rank =>
    if units rank % unitsPerOne = 0 then some (signed negative (units rank / unitsPerOne)) else none
  | _ => none

/-! ### rounding -/

/-- `n / d` rounded to a natural number, a half to the even neighbour. -/
def roundHalfEven (n d : Nat) : Nat :=
  let q := n / d
  let r := n % d
  if 2 * r < d then q else if d < 2 * r then q + 1 else q + q % 2

/-- The finite number of a rank, infinity beyond the last one. -/
def ofRank (negative : Bool) (rank : Nat) : Binary64 :=
  if h : rank < rankBound then .finite negative ⟨rank, h⟩ else .infinity negative

/-- The rank nearest to `n / d` units: beyond 2 ^ 53 units the ranks of one binade are `2 ^ s` units apart. -/
def rankOfRatio (n d : Nat) : Nat :=
  let s := Nat.log2 (n / d) - 52
  s * binade + roundHalfEven n (d * Nat.pow 2 s)

/-- The number nearest to `n / d` units. -/
def ofRatio (negative : Bool) (n d : Nat) : Binary64 := ofRank negative (rankOfRatio n d)

/-- The number of decimal digits of `n`; zero has none. -/
def digitCount (n : Nat) : Nat := if n = 0 then 0 else (Nat.toDigits 10 n).length

/-- The number nearest to `coefficient * 10 ^ exponent`. Decimals of more than 310 integer digits are beyond the
finite numbers and those below 10 ^ -400 nearest to zero, so their powers of ten are not computed. -/
def ofDecimal (negative : Bool) (coefficient : Nat) (exponent : Int) : Binary64 :=
  let point := digitCount coefficient + exponent
  if coefficient = 0 ∨ point < -400 then ofRank negative 0
  else if 310 < point then .infinity negative
  else match exponent with
    | .ofNat e => ofRatio negative (coefficient * Nat.pow 10 e * unitsPerOne) 1
    | .negSucc e => ofRatio negative (coefficient * unitsPerOne) (Nat.pow 10 (e + 1))

/-- The number nearest to an integer. -/
def ofInt (n : Int) : Binary64 := ofDecimal (n < 0) n.natAbs 0

end Binary64

end LinkedData.Numeric
