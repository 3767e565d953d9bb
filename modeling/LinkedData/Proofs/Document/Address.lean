import LinkedData.Document.Injection

/-!
# Places in a document

* `Element.induct`: induction over what an element is made of;
* `Element.at?`: the element at an address, which tells the way down to it by the numbers of the children. Addresses
  are in the order of the document if they are in the lexicographic order;
* `Element.IsFirst`, `Element.IsOnly`: the first and the only element of a tree that has a property;
* `Element.any_iff`: some element has a property if it is found at some address.
-/

namespace LinkedData.Element

/-! ### induction -/

/-- What holds of an element if it holds of all its children holds of every element. -/
@[elab_as_elim]
theorem induct {P : Element → Prop}
    (step : ∀ kind attributes text children tail, (∀ c ∈ children, P c) → P (.mk kind attributes text children tail)) :
    ∀ e, P e
  | .mk kind attributes text children tail => step kind attributes text children tail fun c _ => induct step c

/-! ### addresses -/

/-- The way down to an element: the numbers of the children on it. -/
abbrev Address := List Nat

/-- The element at an address. -/
def at? : Element → Address → Option Element
  | e, [] => some e
  | e, i :: a => e.children[i]?.bind (at? · a)

section Address

variable {p : Element → Bool} {e x : Element} {i : Nat} {a : Address}

theorem at?_cons_eq_some : e.at? (i :: a) = some x ↔ ∃ c, e.children[i]? = some c ∧ c.at? a = some x := by
  rw [at?, Option.bind_eq_some_iff]

theorem any_eq (p : Element → Bool) (e : Element) : any p e = (p e || anyL p e.children) := by
  cases e
  rfl

theorem any_eq_false_iff : any p e = false ↔ p e = false ∧ anyL p e.children = false := by
  rw [any_eq, Bool.or_eq_false_iff]

theorem anyL_eq_false_iff {es : List Element} : anyL p es = false ↔ ∀ e ∈ es, any p e = false := by
  rw [anyL_eq, List.any_eq_false]
  simp only [Bool.not_eq_true]

theorem anyL_append (p : Element → Bool) (es fs : List Element) : anyL p (es ++ fs) = (anyL p es || anyL p fs) := by
  simp only [anyL_eq, List.any_append]

theorem any_iff : any p e = true ↔ ∃ a x, e.at? a = some x ∧ p x = true := by
  induction e using induct with
  | step kind attributes text children tail ih =>
    rw [any_eq, Bool.or_eq_true, anyL_eq, List.any_eq_true]
    constructor
    · rintro (h | ⟨c, hc, h⟩)
      · exact ⟨[], _, rfl, h⟩
      · obtain ⟨a, x, hx, hp⟩ := (ih c hc).mp h
        obtain ⟨i, hi⟩ := List.mem_iff_getElem?.mp hc
        exact ⟨i :: a, x, at?_cons_eq_some.mpr ⟨c, hi, hx⟩, hp⟩
    · rintro ⟨a, x, hx, hp⟩
      cases a with
      | nil =>
        obtain rfl := Option.some.inj hx
        exact Or.inl hp
      | cons i a =>
        obtain ⟨c, hi, hx⟩ := at?_cons_eq_some.mp hx
        have hc : c ∈ children := List.mem_of_getElem? hi
        exact Or.inr ⟨c, hc, (ih c hc).mpr ⟨a, x, hx, hp⟩⟩

theorem eq_false_of_any_eq_false (h : any p e = false) (hx : e.at? a = some x) : p x = false := by
  rw [Bool.eq_false_iff]
  intro hp
  rw [any_iff.mpr ⟨a, x, hx, hp⟩] at h
  cases h

end Address

/-! ### the first and the only element -/

/-- The element `x` at `a` is the first one in the order of the document that has the property. -/
structure IsFirst (p : Element → Bool) (e : Element) (a : Address) (x : Element) : Prop where
  at_eq : e.at? a = some x
  holds : p x = true
  not_before : ∀ b y, List.Lex (· < ·) b a → e.at? b = some y → p y = false

/-- The element `x` at `a` is the only one that has the property. -/
structure IsOnly (p : Element → Bool) (e : Element) (a : Address) (x : Element) : Prop where
  at_eq : e.at? a = some x
  holds : p x = true
  eq_of_holds : ∀ b y, e.at? b = some y → p y = true → b = a

section Children

variable {p : Element → Bool} {e c x : Element} {a : Address} {before after : List Element}

theorem at?_child (hchildren : e.children = before ++ c :: after) : e.at? (before.length :: a) = c.at? a := by
  rw [at?, hchildren, List.getElem?_append_right (Nat.le_refl _), Nat.sub_self]
  rfl

theorem IsFirst.root (h : p e = true) : IsFirst p e [] e :=
  ⟨rfl, h, fun _ _ hb => nomatch hb⟩

/-- The first element of the first child that has one is the first element. -/
theorem IsFirst.child (he : p e = false) (hchildren : e.children = before ++ c :: after)
    (hbefore : anyL p before = false) (h : IsFirst p c a x) : IsFirst p e (before.length :: a) x := by
  refine ⟨(at?_child hchildren).trans h.at_eq, h.holds, fun b y hb hy => ?_⟩
  cases hb with
  | nil =>
    obtain rfl := Option.some.inj hy
    exact he
  | cons hb => exact h.not_before _ y hb ((at?_child hchildren).symm.trans hy)
  | rel hi =>
    obtain ⟨d, hd, hy⟩ := at?_cons_eq_some.mp hy
    rw [hchildren, List.getElem?_append_left hi] at hd
    exact eq_false_of_any_eq_false (anyL_eq_false_iff.mp hbefore d (List.mem_of_getElem? hd)) hy

/-- What an address below the root says about the first element. -/
theorem IsFirst.of_cons {i : Nat} (h : IsFirst p e (i :: a) x) :
    p e = false ∧ ∃ before c after, e.children = before ++ c :: after ∧ before.length = i ∧
      anyL p before = false ∧ IsFirst p c a x := by
  obtain ⟨c, hc, hx⟩ := at?_cons_eq_some.mp h.at_eq
  obtain ⟨hi, hget⟩ := List.getElem?_eq_some_iff.mp hc
  have hsplit : e.children = e.children.take i ++ c :: e.children.drop (i + 1) := by
    rw [← hget, ← List.drop_eq_getElem_cons hi, List.take_append_drop]
  have hlength : (e.children.take i).length = i := List.length_take_of_le (Nat.le_of_lt hi)
  refine ⟨h.not_before [] e List.Lex.nil rfl, _, c, _, hsplit, hlength, ?_, hx, h.holds, fun b y hb hy => ?_⟩
  · refine anyL_eq_false_iff.mpr fun d hd => Bool.eq_false_iff.mpr fun hany => ?_
    obtain ⟨b, y, hy, hp⟩ := any_iff.mp hany
    obtain ⟨j, hj, hjd⟩ := List.mem_take_iff_getElem.mp hd
    have hd' : e.children[j]? = some d := List.getElem?_eq_some_iff.mpr ⟨by omega, hjd⟩
    have hnone := h.not_before (j :: b) y (List.Lex.rel (by omega)) (at?_cons_eq_some.mpr ⟨d, hd', hy⟩)
    rw [hp] at hnone
    cases hnone
  · exact h.not_before (i :: b) y (List.Lex.cons hb) (at?_cons_eq_some.mpr ⟨c, hc, hy⟩)

theorem exists_isFirst (h : any p e = true) : ∃ a x, IsFirst p e a x := by
  induction e using induct with
  | step kind attributes text children tail ih =>
    by_cases hp : p (mk kind attributes text children tail) = true
    · exact ⟨[], _, IsFirst.root hp⟩
    have hp := Bool.eq_false_iff.mpr hp
    rw [any_eq, hp, Bool.false_or, anyL_eq, List.any_eq_true, ← List.find?_isSome] at h
    obtain ⟨c, hc⟩ := Option.isSome_iff_exists.mp h
    obtain ⟨hany, before, after, hchildren, hbefore⟩ := List.find?_eq_some_iff_append.mp hc
    obtain ⟨a, x, hx⟩ := ih c (List.mem_of_find?_eq_some hc) hany
    refine ⟨before.length :: a, x, IsFirst.child hp hchildren (anyL_eq_false_iff.mpr fun d hd => ?_) hx⟩
    exact Bool.not_eq_true' _ ▸ hbefore d hd

theorem IsOnly.root (h : p e = true) (hchildren : anyL p e.children = false) : IsOnly p e [] e := by
  refine ⟨rfl, h, fun b y hy hp => ?_⟩
  cases b with
  | nil => rfl
  | cons i b =>
    obtain ⟨d, hd, hy⟩ := at?_cons_eq_some.mp hy
    have hnone := eq_false_of_any_eq_false (anyL_eq_false_iff.mp hchildren d (List.mem_of_getElem? hd)) hy
    rw [hp] at hnone
    cases hnone

theorem IsOnly.child (he : p e = false) (hchildren : e.children = before ++ c :: after)
    (hbefore : anyL p before = false) (hafter : anyL p after = false) (h : IsOnly p c a x) :
    IsOnly p e (before.length :: a) x := by
  refine ⟨(at?_child hchildren).trans h.at_eq, h.holds, fun b y hy hp => ?_⟩
  cases b with
  | nil =>
    obtain rfl := Option.some.inj hy
    rw [hp] at he
    cases he
  | cons i b =>
    obtain ⟨d, hd, hy'⟩ := at?_cons_eq_some.mp hy
    have hany : any p d = true := any_iff.mpr ⟨b, y, hy', hp⟩
    rw [hchildren] at hd
    rcases Nat.lt_trichotomy i before.length with hi | rfl | hi
    · rw [List.getElem?_append_left hi] at hd
      rw [anyL_eq_false_iff.mp hbefore d (List.mem_of_getElem? hd)] at hany
      cases hany
    · rw [at?_child hchildren] at hy
      rw [h.eq_of_holds b y hy hp]
    · obtain ⟨k, rfl⟩ : ∃ k, i = before.length + (k + 1) := ⟨i - before.length - 1, by omega⟩
      rw [List.getElem?_append_right (by omega), Nat.add_sub_cancel_left, List.getElem?_cons_succ] at hd
      rw [anyL_eq_false_iff.mp hafter d (List.mem_of_getElem? hd)] at hany
      cases hany

end Children

end LinkedData.Element
