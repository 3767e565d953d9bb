import LinkedData.Text.Half
import LinkedData.Text.Printable

/-!
# Quoted texts in messages

* `quoted`: a text between quotes, characters that are not printable by their code points;
* `quotedBytes`: octets between quotes after a `b`, those outside printable ASCII by their codes.

Single quotes are used, double ones for a text that holds a single quote and no double one.
-/

namespace LinkedData.Text

/-- The hexadecimal digits of `n`, filled up with zeros to `width`. -/
def hexPadded (width n : Nat) : List Char :=
  let digits := Nat.toDigits 16 n
  List.replicate (width - digits.length) '0' ++ digits

/-- The quote that a text is put in. -/
def quoteFor (cs : List Char) : Char :=
  if cs.contains '\x27' && !cs.contains '\x22' then '\x22' else '\x27'

/-- The escape of a code: two, four or eight hexadecimal digits. -/
def codeEscape (code : Nat) : List Char :=
  if code < 0x100 then '\\' :: 'x' :: hexPadded 2 code
  else if code < 0x10000 then '\\' :: 'u' :: hexPadded 4 code
  else '\\' :: 'U' :: hexPadded 8 code

/-- A character inside of `quote`s. -/
def quotedChar (quote : Char) (c : Char) : List Char :=
  if c = quote ∨ c = '\\' then ['\\', c]
  else if c = '\n' then ['\\', 'n']
  else if c = '\r' then ['\\', 'r']
  else if c = '\t' then ['\\', 't']
  else if isPrintable c then [c]
  else codeEscape c.toNat

/-- A character or a half inside of `quote`s. -/
def quotedUnit (quote : Char) : TextUnit → List Char
  | .char c => quotedChar quote c
  | .half code => codeEscape code

/-- A text between quotes. -/
def quoted (cs : List Char) : List Char :=
  let quote := quoteFor cs
  quote :: (unitsOf cs).flatMap (quotedUnit quote) ++ [quote]

/-- An octet inside of `quote`s. -/
def quotedByte (quote : Char) (b : UInt8) : List Char :=
  if 0x20 ≤ b.toNat && b.toNat < 0x7F then quotedChar quote (Char.ofNat b.toNat)
  else if b = 9 ∨ b = 10 ∨ b = 13 then quotedChar quote (Char.ofNat b.toNat)
  else '\\' :: 'x' :: hexPadded 2 b.toNat

/-- Octets between quotes, after a `b`. -/
def quotedBytes (bytes : List UInt8) : List Char :=
  let quote := quoteFor (bytes.map fun b => Char.ofNat b.toNat)
  'b' :: quote :: bytes.flatMap (quotedByte quote) ++ [quote]

end LinkedData.Text
