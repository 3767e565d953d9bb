import LinkedData.Page

/-!
# Several pages, one after the other

* `countPages_of_all`: where no page fails, every page is changed, and those that it applied to are counted;
* `countPages_of_first`: the first page that fails ends it with its failure, and no page behind it is looked at;
* `countPages_cases`: there is no third case, so the outcome tells which one it was (`countPages_eq_ok_iff`,
  `countPages_eq_error_iff`);
* `countPages_of_settled`: pages that are already changed may take the place of the pages they were, if changing them
  again changes nothing more.
-/

namespace LinkedData

/-- Nothing fails on the page. -/
def Passes (act : Page → Except Failure Bool × Page) (p : Page) : Prop := ∃ applied, (act p).1 = .ok applied

/-- Nothing fails on the page, and it is one that the count includes. -/
def applies (act : Page → Except Failure Bool × Page) (p : Page) : Bool := (act p).1.toOption.getD false

section CountPages

variable {act : Page → Except Failure Bool × Page} {pages after pages' : List Page} {p : Page} {e : Failure} {n : Nat}

theorem applies_of_ok {applied : Bool} (h : (act p).1 = .ok applied) : applies act p = applied := by
  rw [applies, h]
  rfl

theorem countPages_cons_of_passes {applied : Bool} (h : (act p).1 = .ok applied) (pages : List Page) :
    countPages act (p :: pages) =
      ((countPages act pages).1.map ((if applied then 1 else 0) + ·), (act p).2 :: (countPages act pages).2) := by
  have hact : act p = (.ok applied, (act p).2) := by rw [← h]
  rw [countPages, hact]
  cases hrest : countPages act pages with
  | mk result pages' =>
    cases result with
    | error e => rfl
    | ok n => rfl

theorem countPages_cons_of_fails (h : (act p).1 = .error e) (pages : List Page) :
    countPages act (p :: pages) = (.error e, (act p).2 :: pages) := by
  have hact : act p = (.error e, (act p).2) := by rw [← h]
  rw [countPages, hact]

/-- Where no page fails, every page is changed, and those that it applied to are counted. -/
theorem countPages_of_all (h : ∀ p ∈ pages, Passes act p) :
    countPages act pages = (.ok (pages.countP (applies act)), pages.map fun p => (act p).2) := by
  induction pages with
  | nil => rfl
  | cons p pages ih =>
    obtain ⟨⟨applied, hp⟩, hmore⟩ := List.forall_mem_cons.mp h
    rw [countPages_cons_of_passes hp, ih hmore, List.map_cons, List.countP_cons, applies_of_ok hp, Nat.add_comm]
    rfl

/-- The first page that fails ends it, and the pages behind it stay as they are. -/
theorem countPages_of_first {before : List Page} (hbefore : ∀ q ∈ before, Passes act q) (hp : (act p).1 = .error e)
    (after : List Page) :
    countPages act (before ++ p :: after) = (.error e, before.map (fun q => (act q).2) ++ (act p).2 :: after) := by
  induction before with
  | nil => exact countPages_cons_of_fails hp after
  | cons q before ih =>
    obtain ⟨⟨applied, hq⟩, hmore⟩ := List.forall_mem_cons.mp hbefore
    rw [List.cons_append, countPages_cons_of_passes hq, ih hmore]
    rfl

/-- Operations that do the same to every page do the same to all pages. -/
theorem countPages_congr {act' : Page → Except Failure Bool × Page} (h : ∀ p ∈ pages, act p = act' p) :
    countPages act pages = countPages act' pages := by
  induction pages with
  | nil => rfl
  | cons p pages ih =>
    obtain ⟨hp, hmore⟩ := List.forall_mem_cons.mp h
    rw [countPages, countPages, hp, ih hmore]

/-- Either no page fails or there is a first one that does. -/
theorem countPages_cases (act : Page → Except Failure Bool × Page) (pages : List Page) :
    (∀ p ∈ pages, Passes act p) ∨
      ∃ before p after e, pages = before ++ p :: after ∧ (∀ q ∈ before, Passes act q) ∧ (act p).1 = .error e := by
  induction pages with
  | nil => exact Or.inl (List.forall_mem_nil _)
  | cons p pages ih =>
    cases hp : (act p).1 with
    | error e => exact Or.inr ⟨[], p, pages, e, rfl, List.forall_mem_nil _, hp⟩
    | ok applied =>
      rcases ih with hall | ⟨before, q, after, e, rfl, hbefore, hq⟩
      · exact Or.inl (List.forall_mem_cons.mpr ⟨⟨applied, hp⟩, hall⟩)
      · exact Or.inr ⟨p :: before, q, after, e, rfl, List.forall_mem_cons.mpr ⟨⟨applied, hp⟩, hbefore⟩, hq⟩

/-- Pages that are changed and that a second time changes no more count as the pages that they were. -/
theorem countPages_of_settled {before : List Page} (h : ∀ q ∈ before, Passes act q ∧ act (act q).2 = act q)
    (after : List Page) :
    countPages act (before.map (fun q => (act q).2) ++ after) = countPages act (before ++ after) := by
  induction before with
  | nil => rfl
  | cons q before ih =>
    obtain ⟨⟨⟨applied, hq⟩, hagain⟩, hmore⟩ := List.forall_mem_cons.mp h
    have hchanged : (act (act q).2).1 = .ok applied := by rw [hagain, hq]
    rw [List.map_cons, List.cons_append, List.cons_append, countPages_cons_of_passes hchanged,
      countPages_cons_of_passes hq, hagain, ih hmore]

/-- What is kept of every page is kept of all pages. -/
theorem forall_countPages {P : Page → Prop} (hact : ∀ p, P p → P (act p).2) (h : ∀ p ∈ pages, P p) :
    ∀ p ∈ (countPages act pages).2, P p := by
  have hchanged : ∀ qs : List Page, (∀ q ∈ qs, P q) → ∀ p ∈ qs.map fun q => (act q).2, P p := by
    intro qs hqs p hp
    obtain ⟨q, hq, rfl⟩ := List.mem_map.mp hp
    exact hact q (hqs q hq)
  rcases countPages_cases act pages with hall | ⟨before, p, after, e, rfl, hbefore, hp⟩
  · rw [countPages_of_all hall]
    exact hchanged pages h
  · rw [countPages_of_first hbefore hp]
    obtain ⟨hfirst, hrest⟩ := List.forall_mem_append.mp h
    obtain ⟨hpage, hafter⟩ := List.forall_mem_cons.mp hrest
    exact List.forall_mem_append.mpr ⟨hchanged before hfirst, List.forall_mem_cons.mpr ⟨hact p hpage, hafter⟩⟩

theorem countPages_eq_ok_iff : countPages act pages = (.ok n, pages') ↔
    (∀ p ∈ pages, Passes act p) ∧ n = pages.countP (applies act) ∧
      pages' = pages.map fun p => (act p).2 := by
  rcases countPages_cases act pages with hall | ⟨before, p, after, e, rfl, hbefore, hp⟩
  · rw [countPages_of_all hall, Prod.mk.injEq, Except.ok.injEq]
    constructor
    · rintro ⟨rfl, rfl⟩
      exact ⟨hall, rfl, rfl⟩
    · rintro ⟨_, rfl, rfl⟩
      exact ⟨rfl, rfl⟩
  · rw [countPages_of_first hbefore hp]
    refine iff_of_false (fun h => nomatch h) fun ⟨hall, _⟩ => ?_
    obtain ⟨applied, hpasses⟩ := hall p (List.mem_append_right before List.mem_cons_self)
    rw [hp] at hpasses
    cases hpasses

theorem countPages_eq_error_iff : countPages act pages = (.error e, pages') ↔
    ∃ before p after, pages = before ++ p :: after ∧ (∀ q ∈ before, Passes act q) ∧ (act p).1 = .error e ∧
      pages' = before.map (fun q => (act q).2) ++ (act p).2 :: after := by
  constructor
  · intro h
    rcases countPages_cases act pages with hall | ⟨before, p, after, e', rfl, hbefore, hp⟩
    · rw [countPages_of_all hall] at h
      cases h
    · rw [countPages_of_first hbefore hp] at h
      obtain ⟨herror, rfl⟩ := Prod.mk.inj h
      obtain rfl := Except.error.inj herror
      exact ⟨before, p, after, rfl, hbefore, hp, rfl⟩
  · rintro ⟨before, p, after, rfl, hbefore, hp, rfl⟩
    exact countPages_of_first hbefore hp after

end CountPages

end LinkedData
