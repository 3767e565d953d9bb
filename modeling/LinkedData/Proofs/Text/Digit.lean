import Mathlib.Data.List.Forall2
import Mathlib.Data.Nat.Digits.Lemmas
import LinkedData.Text.Digit

/-!
# Numbers that digits denote

* `Denotes`: decimal digits of any scripts that write a number in base ten;
* `readNat?_eq_some_iff`: this is the number that is read.
-/

namespace LinkedData.Text

variable {cs : List Char} {m n : Nat}

/-- The characters are decimal digits, at least one, of any scripts, that write the number in base ten. -/
def Denotes (cs : List Char) (n : Nat) : Prop :=
  ∃ digits : List Nat, digits ≠ [] ∧ List.Forall₂ (fun c d => digitValue? c = some d) cs digits ∧
    n = Nat.ofDigits 10 digits.reverse

theorem ofDigits_reverse_cons (d : Nat) (digits : List Nat) :
    Nat.ofDigits 10 (d :: digits).reverse = d * 10 ^ digits.length + Nat.ofDigits 10 digits.reverse := by
  rw [List.reverse_cons, Nat.ofDigits_append, Nat.ofDigits_singleton, List.length_reverse]
  ring

theorem appendDigits?_eq_some_iff :
    appendDigits? m cs = some n ↔ ∃ digits, List.Forall₂ (fun c d => digitValue? c = some d) cs digits ∧
      n = m * 10 ^ digits.length + Nat.ofDigits 10 digits.reverse := by
  induction cs generalizing m with
  | nil =>
    constructor
    · intro h
      obtain rfl := Option.some.inj h
      exact ⟨[], List.Forall₂.nil, by simp⟩
    · rintro ⟨digits, hdigits, rfl⟩
      cases hdigits
      simp [appendDigits?]
  | cons c cs ih =>
    have hshift : ∀ (d : Nat) (digits : List Nat),
        (10 * m + d) * 10 ^ digits.length + Nat.ofDigits 10 digits.reverse =
          m * 10 ^ (d :: digits).length + Nat.ofDigits 10 (d :: digits).reverse := by
      intro d digits
      rw [ofDigits_reverse_cons, List.length_cons]
      ring
    constructor
    · intro h
      obtain ⟨d, hd, hrest⟩ := Option.bind_eq_some_iff.mp h
      obtain ⟨digits, hdigits, hn⟩ := ih.mp hrest
      exact ⟨d :: digits, List.Forall₂.cons hd hdigits, hn.trans (hshift d digits)⟩
    · rintro ⟨digits, hdigits, hn⟩
      cases hdigits with
      | @cons _ d _ digits hd hdigits =>
        have hrest := ih.mpr ⟨digits, hdigits, hn.trans (hshift d digits).symm⟩
        exact Option.bind_eq_some_iff.mpr ⟨d, hd, hrest⟩

/-- The number that is read is the one that the digits denote. -/
theorem readNat?_eq_some_iff : readNat? cs = some n ↔ Denotes cs n := by
  cases cs with
  | nil =>
    constructor
    · rintro ⟨⟩
    · rintro ⟨digits, hne, hdigits, _⟩
      cases hdigits
      exact absurd rfl hne
  | cons c cs =>
    show appendDigits? 0 (c :: cs) = some n ↔ Denotes (c :: cs) n
    rw [appendDigits?_eq_some_iff]
    constructor
    · rintro ⟨digits, hdigits, hn⟩
      refine ⟨digits, ?_, hdigits, by rw [hn, Nat.zero_mul, Nat.zero_add]⟩
      rintro rfl
      cases hdigits
    · rintro ⟨digits, _, hdigits, hn⟩
      exact ⟨digits, hdigits, by rw [hn, Nat.zero_mul, Nat.zero_add]⟩

theorem exists_denotes_iff : (∃ n, Denotes cs n) ↔ cs ≠ [] ∧ cs.all isDecimal = true := by
  simp only [← readNat?_eq_some_iff, ← Option.isSome_iff_exists, readNat?_isSome]
  simp

end LinkedData.Text
