/-!
# Halves of characters

The codes from U+D800 to U+DFFF stand for no characters: two of them in a row are one way to encode a character beyond
U+FFFF. An escape can write a single one, a *half*. A text keeps a half as two characters: U+10FFFE, which stands for
nothing and is not used between programs, and a private one. So it can be compared, looked up and shown; but no file
and no stream takes a text that holds one. A text that has these two characters itself, from U+100000 to U+1007FF the
second one, is taken for one with a half.

* `textOfCode?`: the text of a code, a half included;
* `unitsOf`: the characters and halves of a text, which leads back to the code (`unitsOf_of_textOfCode?`);
* `holdsHalf`: a text that can not be written.
-/

namespace LinkedData.Text

/-! ### units -/

/-- A character or a half. -/
inductive TextUnit where
  | char (c : Char)
  | half (code : Nat)
deriving DecidableEq

namespace TextUnit

/-- The code of a unit. -/
def code : TextUnit → Nat
  | char c => c.toNat
  | half n => n

/-- The unit is a half. -/
def isHalf : TextUnit → Bool
  | char _ => false
  | half _ => true

end TextUnit

/-! ### kept halves -/

/-- The first code of a half. -/
def firstHalf : Nat := 0xD800

/-- The number of halves. -/
def halfCount : Nat := 0x800

/-- The code of the private character that keeps the first half; the others follow in order. -/
def firstKeeper : Nat := 0x100000

/-- What stands before a character that keeps a half. -/
def halfMark : Char := Char.ofNat 0x10FFFE

/-- The half that a character keeps after the mark. -/
def keptHalf? (c : Char) : Option Nat :=
  if firstKeeper ≤ c.toNat ∧ c.toNat < firstKeeper + halfCount then some (c.toNat - firstKeeper + firstHalf) else none

/-- The text of a code. Codes from U+110000 on have none. -/
def textOfCode? (n : Nat) : Option (List Char) :=
  if firstHalf ≤ n ∧ n < firstHalf + halfCount then some [halfMark, Char.ofNat (n - firstHalf + firstKeeper)]
  else if h : n.isValidChar then some [Char.ofNatAux n h] else none

/-- The characters and halves of a text. -/
def unitsOf : List Char → List TextUnit
  | [] => []
  | c :: cs =>
    match cs with
    | [] => [.char c]
    | d :: rest =>
      match if c = halfMark then keptHalf? d else none with
      | some n => .half n :: unitsOf rest
      | none => .char c :: unitsOf (d :: rest)

/-- The text holds a half, or the two characters that keep one, and can not be written. -/
def holdsHalf (cs : List Char) : Bool := (unitsOf cs).any (·.isHalf)

/-- The mark and a character that keeps a half are that half. -/
theorem unitsOf_halfMark {d : Char} {n : Nat} (h : keptHalf? d = some n) : unitsOf [halfMark, d] = [.half n] := by
  simp only [unitsOf, if_true, h]

/-- The half that is kept by the character for it. -/
theorem keptHalf?_ofNat {n : Nat} (hn : firstHalf ≤ n ∧ n < firstHalf + halfCount) :
    keptHalf? (Char.ofNat (n - firstHalf + firstKeeper)) = some n := by
  generalize hk : n - firstHalf + firstKeeper = k
  have hb : firstKeeper ≤ k ∧ k < firstKeeper + halfCount := by omega
  have hv : k.isValidChar := Or.inr (by unfold firstKeeper halfCount at hb; omega)
  have hc : (Char.ofNat k).toNat = k := by
    rw [Char.ofNat, dif_pos hv]
    rfl
  have hn' : k - firstKeeper + firstHalf = n := by omega
  rw [keptHalf?, hc, if_pos hb, hn']

/-- The text of a code is one unit, which has the code. -/
theorem unitsOf_of_textOfCode? {n : Nat} {cs : List Char} (h : textOfCode? n = some cs) :
    (unitsOf cs).map TextUnit.code = [n] := by
  unfold textOfCode? at h
  by_cases hn : firstHalf ≤ n ∧ n < firstHalf + halfCount
  · rw [if_pos hn] at h
    obtain rfl := Option.some.inj h
    rw [unitsOf_halfMark (keptHalf?_ofNat hn)]
    rfl
  · rw [if_neg hn] at h
    by_cases hv : n.isValidChar
    · rw [dif_pos hv] at h
      obtain rfl := Option.some.inj h
      rfl
    · rw [dif_neg hv] at h
      cases h

end LinkedData.Text
