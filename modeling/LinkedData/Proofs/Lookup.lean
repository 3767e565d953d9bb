import LinkedData.Lookup
import LinkedData.Proofs.Outcome
import LinkedData.Proofs.Value.Parts

/-!
# What lookups yield and how they fail

* `itemAt?_in_step`, `lookup?_in_step`: what a segment names in two lists or mappings that are in step;
* `Value.Steps`, `Value.Misses`, `extractFrom_cons_cases`: a step along a path leads on or fails;
* `Value.Leads`, `extractFrom_eq_ok`, `extractFrom_eq_error`: a path leads to its end or fails at one of its segments;
* `extract_mem_parts`, `Value.Leads.ne_null`: a path leads to a part of the data, and never to null;
* `extract_eq_error`: it is a fault if it does not, or there is an index with too many digits;
* `Entries.valueOf`, `extract_map_cons`: a path in a mapping goes on from the value under its first segment.
-/

namespace LinkedData

open Numeric

/-! ### paths -/

section Paths

variable {v w : Value} {path rest : List String} {segment : String} {e : Failure}

theorem Entries.mem_of_lookup? {es : Entries} {name : String} (h : Entries.lookup? es name = some w) :
    ∃ f ∈ es, f.2 = w := Entries.mem_of_get? h

theorem mem_of_itemAt? {items : List Value} (h : itemAt? items segment = some w) : w ∈ items := by
  obtain ⟨n, _, hn⟩ := Option.bind_eq_some_iff.mp h
  exact List.mem_of_getElem? hn

theorem child?_mem_parts (h : v.child? segment = some w) : w ∈ v.parts := by
  cases v with
  | map es =>
    obtain ⟨f, hf, rfl⟩ := Entries.mem_of_lookup? h
    exact Value.mem_parts_of_map hf
  | list items => exact Value.mem_parts_of_list (mem_of_itemAt? h)
  | tuple items => exact Value.mem_parts_of_tuple (mem_of_itemAt? h)
  | scalar _ | set _ => cases h

theorem itemAt?_in_step {R : Value → Value → Prop} {items ws : List Value} (h : List.Forall₂ R items ws)
    (hu : itemAt? items segment = some u) : ∃ y, itemAt? ws segment = some y ∧ R u y := by
  obtain ⟨n, hn, hu⟩ := Option.bind_eq_some_iff.mp hu
  obtain ⟨y, hy, hR⟩ := exists_right_of_getElem? h hu
  exact ⟨y, Option.bind_eq_some_iff.mpr ⟨n, hn, hy⟩, hR⟩

theorem lookup?_in_step {R : Value → Value → Prop} {es ws : Entries}
    (h : List.Forall₂ (fun e f => f.1 = e.1 ∧ R e.2 f.2) es ws) (hu : Entries.lookup? es segment = some u) :
    ∃ y, Entries.lookup? ws segment = some y ∧ R u y := by
  induction h with
  | nil => cases hu
  | @cons e f es ws he _ ih =>
    obtain ⟨k, v⟩ := e
    obtain ⟨l, w⟩ := f
    obtain ⟨rfl, hR⟩ := he
    rw [Entries.lookup?_cons] at hu ⊢
    by_cases hl : l = .str segment
    · rw [if_pos hl] at hu ⊢
      obtain rfl := Option.some.inj hu
      exact ⟨w, rfl, hR⟩
    · rw [if_neg hl] at hu ⊢
      exact ih hu

/-- The segment leads from the first value to the second one: it names this part, which is not null, and does not have
too many digits for an index. -/
def Value.Steps (v : Value) (segment : String) (u : Value) : Prop :=
  (v.isSequence && isOverlongIndex segment) = false ∧ v.child? segment = some u ∧ u ≠ .null

/-- How a step along a path fails: from a value without parts, with an index that has too many digits, or because there
is no such part, or it is null. -/
inductive Value.Misses (path : List String) (v : Value) (segment : String) : Failure → Prop
  | bare : v.isContainer = false → Misses path v segment (.fault (.notAnObject path segment))
  | overlong : v.isSequence = true → isOverlongIndex segment = true → Misses path v segment .overlongIndex
  | absent : v.isContainer = true → (v.isSequence && isOverlongIndex segment) = false →
      (v.child? segment).getD .null = .null → Misses path v segment (.fault (.notFound path))

theorem isContainer_of_child? (h : v.child? segment = some w) : v.isContainer = true := by
  cases v with
  | map _ | list _ | tuple _ => rfl
  | scalar _ | set _ => cases h

theorem isContainer_of_isSequence (h : v.isSequence = true) : v.isContainer = true := by
  cases v with
  | list _ | tuple _ => rfl
  | map _ | scalar _ | set _ => cases h

theorem Value.Misses.not_steps {u : Value} (h : v.Misses path segment e) : ¬ v.Steps segment u := by
  rintro ⟨hindex, hchild, hu⟩
  cases h with
  | bare hbare =>
    rw [isContainer_of_child? hchild] at hbare
    cases hbare
  | overlong hsequence hoverlong =>
    rw [hsequence, hoverlong] at hindex
    cases hindex
  | absent _ _ hnull =>
    rw [hchild] at hnull
    exact hu hnull

theorem Value.Steps.unique {u u' : Value} (h : v.Steps segment u) (h' : v.Steps segment u') : u = u' :=
  Option.some.inj (h.2.1.symm.trans h'.2.1)

theorem Value.Misses.unique {e' : Failure} (h : v.Misses path segment e) (h' : v.Misses path segment e') : e = e' := by
  cases h with
  | bare hbare =>
    cases h' with
    | bare _ => rfl
    | overlong hsequence _ => simp [isContainer_of_isSequence hsequence] at hbare
    | absent hcontainer _ _ => simp [hcontainer] at hbare
  | overlong hsequence hoverlong =>
    cases h' with
    | bare hbare => simp [isContainer_of_isSequence hsequence] at hbare
    | overlong _ _ => rfl
    | absent _ hindex _ => simp [hsequence, hoverlong] at hindex
  | absent hcontainer hindex _ =>
    cases h' with
    | bare hbare => simp [hcontainer] at hbare
    | overlong hsequence hoverlong => simp [hsequence, hoverlong] at hindex
    | absent _ _ _ => rfl

/-- What one step along a path can do. -/
theorem extractFrom_cons_cases (path : List String) (v : Value) (segment : String) (rest : List String) :
    (∃ u, v.Steps segment u ∧ extractFrom path v (segment :: rest) = extractFrom path u rest) ∨
      ∃ e, v.Misses path segment e ∧ extractFrom path v (segment :: rest) = .error e := by
  rw [extractFrom]
  split
  · next hbare => exact Or.inr ⟨_, Value.Misses.bare (by simpa using hbare), rfl⟩
  · next hcontainer =>
    have hcontainer : v.isContainer = true := by simpa using hcontainer
    split
    · next hindex =>
      obtain ⟨hsequence, hoverlong⟩ := Bool.and_eq_true_iff.mp hindex
      exact Or.inr ⟨_, Value.Misses.overlong hsequence hoverlong, rfl⟩
    · next hindex =>
      have hindex := Bool.eq_false_iff.mpr hindex
      split
      · next hchild => exact Or.inr ⟨_, Value.Misses.absent hcontainer hindex (by rw [hchild, Option.getD_none]), rfl⟩
      · next hchild => exact Or.inr ⟨_, Value.Misses.absent hcontainer hindex (by rw [hchild, Option.getD_some]), rfl⟩
      · next u hu hchild => exact Or.inl ⟨u, ⟨hindex, hchild, hu⟩, rfl⟩

theorem extractFrom_of_steps {u : Value} (hu : v.Steps segment u) :
    extractFrom path v (segment :: rest) = extractFrom path u rest := by
  rcases extractFrom_cons_cases path v segment rest with ⟨u', hu', hstep⟩ | ⟨e, he, _⟩
  · obtain rfl := hu.unique hu'
    exact hstep
  · exact absurd hu he.not_steps

theorem extractFrom_of_misses (he : v.Misses path segment e) :
    extractFrom path v (segment :: rest) = .error e := by
  rcases extractFrom_cons_cases path v segment rest with ⟨u, hu, _⟩ | ⟨e', he', hstep⟩
  · exact absurd hu he.not_steps
  · obtain rfl := he.unique he'
    exact hstep

theorem extractFrom_cons_eq_ok :
    extractFrom path v (segment :: rest) = .ok w ↔ ∃ u, v.Steps segment u ∧ extractFrom path u rest = .ok w := by
  constructor
  · intro h
    rcases extractFrom_cons_cases path v segment rest with ⟨u, hu, hstep⟩ | ⟨e, _, hstep⟩
    · exact ⟨u, hu, hstep.symm.trans h⟩
    · cases hstep.symm.trans h
  · rintro ⟨u, hu, h⟩
    exact (extractFrom_of_steps hu).trans h

theorem extractFrom_cons_eq_error :
    extractFrom path v (segment :: rest) = .error e ↔
      v.Misses path segment e ∨ ∃ u, v.Steps segment u ∧ extractFrom path u rest = .error e := by
  constructor
  · intro h
    rcases extractFrom_cons_cases path v segment rest with ⟨u, hu, hstep⟩ | ⟨e', he, hstep⟩
    · exact Or.inr ⟨u, hu, hstep.symm.trans h⟩
    · obtain rfl := Except.error.inj (hstep.symm.trans h)
      exact Or.inl he
  · rintro (he | ⟨u, hu, h⟩)
    · exact extractFrom_of_misses he
    · exact (extractFrom_of_steps hu).trans h

/-- The path leads from the first value to the second one, one step after the other. -/
inductive Value.Leads : Value → List String → Value → Prop
  | here (v : Value) : Leads v [] v
  | step {v u w : Value} {segment : String} {rest : List String} :
      v.Steps segment u → Leads u rest w → Leads v (segment :: rest) w

theorem extractFrom_eq_ok : extractFrom path v rest = .ok w ↔ v.Leads rest w := by
  constructor
  · intro h
    induction rest generalizing v with
    | nil =>
      obtain rfl := Except.ok.inj h
      exact Value.Leads.here v
    | cons segment rest ih =>
      obtain ⟨u, hu, hrest⟩ := extractFrom_cons_eq_ok.mp h
      exact Value.Leads.step hu (ih hrest)
  · intro h
    induction h with
    | here v => rfl
    | step hu _ ih => exact extractFrom_cons_eq_ok.mpr ⟨_, hu, ih⟩

/-- A path fails at the first of its segments that leads no further. -/
theorem extractFrom_eq_error :
    extractFrom path v rest = .error e ↔
      ∃ before segment after u, rest = before ++ segment :: after ∧ v.Leads before u ∧ u.Misses path segment e := by
  constructor
  · intro h
    induction rest generalizing v with
    | nil => cases h
    | cons segment rest ih =>
      rcases extractFrom_cons_eq_error.mp h with hmisses | ⟨u, hu, hrest⟩
      · exact ⟨[], segment, rest, v, rfl, Value.Leads.here v, hmisses⟩
      · obtain ⟨before, other, after, w, rfl, hleads, hmisses⟩ := ih hrest
        exact ⟨segment :: before, other, after, w, rfl, Value.Leads.step hu hleads, hmisses⟩
  · rintro ⟨before, segment, after, u, rfl, hleads, hmisses⟩
    induction hleads with
    | here v => exact extractFrom_cons_eq_error.mpr (Or.inl hmisses)
    | step hu _ ih => exact extractFrom_cons_eq_error.mpr (Or.inr ⟨_, hu, ih hmisses⟩)

theorem Value.Leads.mem_parts (h : v.Leads path w) : w ∈ v.parts := by
  induction h with
  | here v => exact Value.mem_parts_self v
  | step hu _ ih => exact Value.mem_parts_trans (child?_mem_parts hu.2.1) ih

theorem extractFrom_mem_parts (h : extractFrom path v rest = .ok w) : w ∈ v.parts := (extractFrom_eq_ok.mp h).mem_parts

/-- A path leads to a part of the data. -/
theorem extract_mem_parts (h : extract v path = .ok w) : w ∈ v.parts := extractFrom_mem_parts h

/-- A path does not lead to null, unless it is empty. -/
theorem Value.Leads.ne_null (h : v.Leads path w) (hv : v ≠ .null) : w ≠ .null := by
  induction h with
  | here v => exact hv
  | step hu _ ih => exact ih hu.2.2

/-- The value under a key, or null if there is none. -/
def Entries.valueOf (es : Entries) (k : Key) : Value := (Entries.get? es k).getD .null

/-- A path that begins in a mapping goes on from the value under its first segment. -/
theorem extract_map_cons (es : Entries) (segment : String) (rest : List String) :
    extract (.map es) (segment :: rest) =
      if es.valueOf (.str segment) = .null then .error (.fault (.notFound (segment :: rest)))
      else extractFrom (segment :: rest) (es.valueOf (.str segment)) rest := by
  rcases extractFrom_cons_cases (segment :: rest) (.map es) segment rest with
    ⟨u, ⟨_, hchild, hu⟩, hstep⟩ | ⟨e, he, hstep⟩
  · have hvalue : es.valueOf (.str segment) = u := congrArg (Option.getD · Value.null) hchild
    rw [hvalue, if_neg hu]
    exact hstep
  · cases he with
    | bare hbare => cases hbare
    | overlong hsequence _ => cases hsequence
    | absent _ _ hnull =>
      have hvalue : es.valueOf (.str segment) = .null := hnull
      rw [if_pos hvalue]
      exact hstep

/-- What it leads to is part of that value. -/
theorem extract_map_mem_parts {es : Entries} (h : extract (.map es) (segment :: rest) = .ok w) :
    w ∈ (es.valueOf (.str segment)).parts := by
  rw [extract_map_cons] at h
  split at h
  · cases h
  · exact extractFrom_mem_parts h

/-- A path that leads nowhere is a fault, unless it has an index with too many digits. -/
theorem extract_eq_error (h : extract v path = .error e) :
    (∃ f, e = .fault f) ∨ e = .overlongIndex ∧ ∃ segment ∈ path, isOverlongIndex segment = true := by
  obtain ⟨before, segment, after, u, hpath, _, hmisses⟩ := extractFrom_eq_error.mp h
  cases hmisses with
  | bare _ | absent _ _ _ => exact Or.inl ⟨_, rfl⟩
  | overlong _ hlong =>
    refine Or.inr ⟨rfl, segment, ?_, hlong⟩
    rw [hpath]
    exact List.mem_append_right before List.mem_cons_self

end Paths

end LinkedData
