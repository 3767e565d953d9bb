/-!
# Characters written by their code points

* `readHex?`: the number that a fixed number of hexadecimal digits writes;
* `readHexChar?`: the character whose code point is written so; a code point without a character is refused.
-/

namespace LinkedData.Text

/-- The value of a hexadecimal digit. -/
def hexValue? (c : Char) : Option Nat :=
  if c.isDigit then some (c.toNat - '0'.toNat)
  else if 'a' ≤ c ∧ c ≤ 'f' then some (c.toNat - 'a'.toNat + 10)
  else if 'A' ≤ c ∧ c ≤ 'F' then some (c.toNat - 'A'.toNat + 10)
  else none

/-- The number that the digits `cs` write after the digits of `n`. -/
def appendHex? (n : Nat) : List Char → Option Nat
  | [] => some n
  | c :: cs => (hexValue? c).bind fun d => appendHex? (16 * n + d) cs

/-- The number written by the first `width` digits, and what follows them. -/
def readHex? (width : Nat) (cs : List Char) : Option (Nat × List Char) :=
  if (cs.take width).length = width then (appendHex? 0 (cs.take width)).map fun n => (n, cs.drop width) else none

/-- The character written by the first `width` digits, and what follows them. -/
def readHexChar? (width : Nat) (cs : List Char) : Option (Char × List Char) :=
  (readHex? width cs).bind fun (n, rest) => if h : n.isValidChar then some (Char.ofNatAux n h, rest) else none

end LinkedData.Text
