import LinkedData.Numeric.Shortest

/-!
# The text of a binary64 number

* `Style`: where positional notation ends and how an exponent is written;
* `Binary64.text`: the shortest digits in that notation, `nan`, `inf` or `-inf`;
* `Decimal.read?`: a decimal literal with sign, fraction and exponent, and `Binary64.read?`, the number it denotes.
-/

namespace LinkedData.Numeric

/-! ### writing -/

/-- The decimal digits of a natural number. -/
def natText (n : Nat) : List Char := Nat.toDigits 10 n

/-- The decimal digits of an integer, after a minus sign if it is negative. -/
def intText (n : Int) : List Char := if n < 0 then '-' :: natText n.natAbs else natText n.natAbs

/-- The notation of numbers. -/
structure Style where
  /-- The least position of the decimal point that is written without an exponent. -/
  leastPoint : Int
  /-- The greatest such position. -/
  greatestPoint : Int
  /-- The number of digits to which an exponent is filled up with zeros. -/
  exponentDigits : Nat

/-- Numbers from 0.0001 up to 10 ^ 16 are written without an exponent; an exponent has a sign and two digits. -/
def Style.plain : Style := ⟨-3, 16, 2⟩

/-- An exponent with its sign, filled up with zeros. -/
def Style.exponentText (style : Style) (e : Int) : List Char :=
  let digits := natText e.natAbs
  (if e < 0 then '-' else '+') :: List.replicate (style.exponentDigits - digits.length) '0' ++ digits

/-- The digits `ds` with the decimal point after `point` of them, with a zero on a side that has none. -/
def positional (ds : List Char) (point : Int) : List Char :=
  if point ≤ 0 then '0' :: '.' :: List.replicate (-point).toNat '0' ++ ds
  else if point < ds.length then ds.take point.toNat ++ '.' :: ds.drop point.toNat
  else ds ++ List.replicate (point.toNat - ds.length) '0' ++ ['.', '0']

/-- The digits `ds` with an exponent, a point after the first digit if more follow. -/
def scientific (style : Style) (ds : List Char) (point : Int) : List Char :=
  let mantissa := match ds with
    | d :: e :: rest => d :: '.' :: e :: rest
    | short => short
  mantissa ++ 'e' :: style.exponentText (point - 1)

/-- A decimal in the notation of `style`. -/
def Digits.text (style : Style) (d : Digits) : List Char :=
  let ds := natText d.coefficient
  let point : Int := ds.length + d.exponent
  if style.leastPoint ≤ point ∧ point ≤ style.greatestPoint then positional ds point
  else scientific style ds point

/-- The text of a number: the shortest digits that read back. -/
def Binary64.text : Binary64 → List Char
  | .finite negative rank =>
    let digits := (Binary64.shortest rank.val).text Style.plain
    if negative then '-' :: digits else digits
  | .infinity negative => if negative then "-inf".toList else "inf".toList
  | .nan _ => "nan".toList

/-! ### reading -/

/-- Splits off a sign; the flag tells whether it is a minus. -/
def readSign : List Char → Bool × List Char
  | '-' :: cs => (true, cs)
  | '+' :: cs => (false, cs)
  | cs => (false, cs)

/-- The integer with an optional sign that `cs` writes. -/
def readExponent? (cs : List Char) : Option Int :=
  let (negative, ds) := readSign cs
  if ds.isEmpty || !ds.all Char.isDigit then none
  else some (Binary64.signed negative (Nat.ofDigitChars 10 ds 0))

/-- The sign and digits of a decimal literal: a sign, digits with at most one point among them, and an exponent. -/
def readDecimal? (cs : List Char) : Option (Bool × Digits) :=
  let (negative, body) := readSign cs
  let whole := body.takeWhile Char.isDigit
  let afterWhole := body.dropWhile Char.isDigit
  let (fraction, afterFraction) := match afterWhole with
    | '.' :: rest => (rest.takeWhile Char.isDigit, rest.dropWhile Char.isDigit)
    | rest => ([], rest)
  let digits := whole ++ fraction
  let exponent? := match afterFraction with
    | [] => some 0
    | 'e' :: rest => readExponent? rest
    | 'E' :: rest => readExponent? rest
    | _ => none
  if digits.isEmpty then none
  else exponent?.map fun e => (negative, ⟨Nat.ofDigitChars 10 digits 0, e - fraction.length⟩)

/-- The number that a text denotes. -/
def Binary64.read? (cs : List Char) : Option Binary64 :=
  if cs = "nan".toList then some (.nan 0)
  else if cs = "inf".toList then some (.infinity false)
  else if cs = "-inf".toList then some (.infinity true)
  else (readDecimal? cs).map fun (negative, d) => Binary64.ofDecimal negative d.coefficient d.exponent

end LinkedData.Numeric
