import Mathlib.Data.List.Chain
import LinkedData.Text.Half

/-!
# Properties of texts that plain characters keep apart

Escapes, brackets and commas are plain characters. A property of texts that looks at single characters that are not
plain, or at pairs of neighbours that are not plain, can be told from the texts between the plain characters.

* `IsPlain`: a character of ASCII;
* `Separable`: a property of a text that is one of the parts before and behind a plain character;
* `Separable.flatMap_iff`: escaping characters by plain ones changes no such property;
* `Separable.intercalate_iff`: nor does putting plain characters between texts;
* `separable_forall_mem`, `separable_holdsHalf`: that all characters are of some kind, and that no half is held.
-/

namespace LinkedData.Text

/-! ### plain characters -/

/-- A character of ASCII. -/
def IsPlain (c : Char) : Prop := c.toNat < 128

instance : DecidablePred IsPlain := fun c => Nat.decLt c.toNat 128

theorem plain_of_all {cs : List Char} (h : cs.all (IsPlain ·) = true) : ∀ d ∈ cs, IsPlain d := by
  intro d hd
  exact of_decide_eq_true (List.all_eq_true.mp h d hd)

/-- A function on characters that writes some plain characters as several plain ones and no character otherwise. -/
def IsEscape (f : Char → List Char) : Prop := ∀ c, f c = [c] ∨ IsPlain c ∧ f c ≠ [] ∧ ∀ d ∈ f c, IsPlain d

/-- A property of a text that its parts before and behind a plain character decide on. -/
structure Separable (F : List Char → Prop) : Prop where
  nil : F []
  split : ∀ {c : Char}, IsPlain c → ∀ as bs, F (as ++ c :: bs) ↔ F as ∧ F bs
  cons : ∀ (b : Char) {c : Char} {xs ys : List Char}, (F (c :: xs) ↔ F (c :: ys)) →
    (F (b :: c :: xs) ↔ F (b :: c :: ys))

namespace Separable

variable {F : List Char → Prop} {c : Char} {cs ds : List Char}

theorem cons_iff (hF : Separable F) (hc : IsPlain c) (cs : List Char) : F (c :: cs) ↔ F cs := by
  have h := hF.split hc [] cs
  rw [List.nil_append] at h
  rw [h]
  exact and_iff_right hF.nil

theorem plain_append_iff (hF : Separable F) (hds : ∀ d ∈ ds, IsPlain d) (cs : List Char) : F (ds ++ cs) ↔ F cs := by
  induction ds with
  | nil => rw [List.nil_append]
  | cons d ds ih =>
    obtain ⟨hd, hmore⟩ := List.forall_mem_cons.mp hds
    rw [List.cons_append, hF.cons_iff hd, ih hmore]

/-- A text of plain characters has the property. -/
theorem of_plain (hF : Separable F) (hds : ∀ d ∈ ds, IsPlain d) : F ds := by
  have h := (hF.plain_append_iff hds []).mpr hF.nil
  rwa [List.append_nil] at h

/-- Plain characters around a text make no difference. -/
theorem enclosed_iff (hF : Separable F) {first last : Char} (hfirst : IsPlain first) (hlast : IsPlain last)
    (cs : List Char) : F (first :: cs ++ [last]) ↔ F cs := by
  rw [hF.split hlast, hF.cons_iff hfirst]
  exact and_iff_left hF.nil

theorem cons_flatMap_iff (hF : Separable F) {f : Char → List Char} (hf : IsEscape f) (b : Char) :
    F (b :: cs.flatMap f) ↔ F (b :: cs) := by
  induction cs generalizing b with
  | nil => rw [List.flatMap_nil]
  | cons c cs ih =>
    rw [List.flatMap_cons]
    rcases hf c with hsame | ⟨hc, hne, hplain⟩
    · rw [hsame, List.singleton_append]
      exact hF.cons b (ih c)
    · -- what is written for a plain character keeps its neighbours apart as it does itself
      obtain ⟨d, ds, hfc⟩ := List.exists_cons_of_ne_nil hne
      rw [hfc] at hplain
      obtain ⟨hd, hds⟩ := List.forall_mem_cons.mp hplain
      have hrest : F (cs.flatMap f) ↔ F cs := by
        have h := ih c
        rwa [hF.cons_iff hc, hF.cons_iff hc] at h
      have hwritten := hF.split hd [b] (ds ++ cs.flatMap f)
      have hself := hF.split hc [b] cs
      rw [List.singleton_append] at hwritten hself
      rw [hfc, List.cons_append, hwritten, hself, hF.plain_append_iff hds, hrest]

/-- Escapes make no difference. -/
theorem flatMap_iff (hF : Separable F) {f : Char → List Char} (hf : IsEscape f) (cs : List Char) :
    F (cs.flatMap f) ↔ F cs := by
  have h : F (' ' :: cs.flatMap f) ↔ F (' ' :: cs) := hF.cons_flatMap_iff hf ' '
  have hblank : IsPlain ' ' := by decide
  rwa [hF.cons_iff hblank, hF.cons_iff hblank] at h

/-- Texts with a plain character between them have the property if each of them has it. -/
theorem intercalate_iff (hF : Separable F) (hc : IsPlain c) (parts : List (List Char)) :
    F ([c].intercalate parts) ↔ ∀ part ∈ parts, F part := by
  induction parts with
  | nil => exact iff_of_true hF.nil (List.forall_mem_nil _)
  | cons part more ih =>
    cases more with
    | nil => rw [List.intercalate_singleton, List.forall_mem_singleton]
    | cons next more =>
      rw [List.intercalate_cons_cons, List.append_assoc, List.singleton_append, hF.split hc, ih,
        List.forall_mem_cons (a := part)]

end Separable

/-! ### characters of some kind -/

theorem separable_forall_mem {P : Char → Prop} (hP : ∀ c, IsPlain c → P c) : Separable fun cs => ∀ c ∈ cs, P c where
  nil := List.forall_mem_nil P
  split := by
    intro c hc as bs
    rw [List.forall_mem_append, List.forall_mem_cons]
    exact and_congr_right fun _ => and_iff_right (hP c hc)
  cons := by
    intro b c xs ys h
    rw [List.forall_mem_cons (a := b), List.forall_mem_cons (a := b), h]

/-! ### halves -/

/-- The two characters do not keep a half. -/
def Apart (c d : Char) : Prop := c = halfMark → keptHalf? d = none

/-- A text holds no half if no two neighbours in it keep one. -/
theorem holdsHalf_eq_false_iff (cs : List Char) : holdsHalf cs = false ↔ cs.IsChain Apart := by
  induction cs with
  | nil => exact iff_of_true rfl List.IsChain.nil
  | cons c cs ih =>
    cases cs with
    | nil => exact iff_of_true rfl (List.IsChain.singleton c)
    | cons d cs =>
      rw [List.isChain_cons_cons, ← ih, holdsHalf, holdsHalf, unitsOf]
      by_cases hc : c = halfMark
      · cases hd : keptHalf? d with
        | none => simp [hc, hd, Apart, TextUnit.isHalf]
        | some n => simp [hc, hd, Apart, TextUnit.isHalf]
      · simp [hc, Apart, TextUnit.isHalf]

theorem apart_of_plain_left {c : Char} (hc : IsPlain c) (d : Char) : Apart c d := by
  rintro rfl
  exact absurd hc (by decide)

theorem apart_of_plain_right {d : Char} (hd : IsPlain d) (c : Char) : Apart c d := by
  intro _
  unfold IsPlain at hd
  refine if_neg fun hkeeper => ?_
  have hfirst : firstKeeper = 0x100000 := rfl
  omega

theorem separable_holdsHalf : Separable fun cs => holdsHalf cs = false where
  nil := rfl
  split := by
    intro c hc as bs
    simp only [holdsHalf_eq_false_iff]
    rw [List.isChain_append, List.isChain_cons]
    constructor
    · rintro ⟨has, ⟨_, hbs⟩, _⟩
      exact ⟨has, hbs⟩
    · rintro ⟨has, hbs⟩
      refine ⟨has, ⟨fun d _ => apart_of_plain_left hc d, hbs⟩, fun b _ d hd => ?_⟩
      obtain rfl := Option.mem_some_iff.mp hd
      exact apart_of_plain_right hc b
  cons := by
    intro b c xs ys h
    simp only [holdsHalf_eq_false_iff] at h ⊢
    rw [List.isChain_cons_cons, List.isChain_cons_cons, h]

end LinkedData.Text
