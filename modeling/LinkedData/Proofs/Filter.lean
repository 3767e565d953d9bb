import LinkedData.Filter
import LinkedData.Proofs.Outcome

/-!
# What filters make of values

* `Registry.apply_cons`, `Registry.apply_cons_of_none`: the first of the filters, and the others on what it yields;
* `Registry.standard_apply_eq_ok`: the standard filters leave a value as it is or make a duration of it;
* `Registry.MakesNoNull`: filters that make no null, as the standard ones do (`Registry.standard_makesNoNull`);
* `Registry.standard_apply_eq_error`: they fail with a fault, or for an integer that is too long;
* `Registry.Extends`: a registry that has the filters of another one;
* `Registry.extends_of_extendAll`: extending a registry, one time after the other, by names that it does not have;
* `Conserves`: an outcome that is another one, unless this is for the want of a filter;
* `Registry.Extends.apply`: the filters of a registry that is extended conserve outcomes;
* `Registry.RaisesItself`, `Registry.apply_eq_error`: filters fail with what one of them raises, or for the want of one;
* `Registry.Reports`, `Registry.apply_eq_unknownFilter`: what they report for the want of a filter.
-/

namespace LinkedData

variable {v w : Value} {filters : List String} {e : Failure}

namespace Registry

variable {reg reg' : Registry} {name : String} {f : Filter}

/-! ### one filter after the other -/

theorem apply_cons (hf : reg.get? name = some f) :
    reg.apply v (name :: filters) = f v >>= fun u => reg.apply u filters := by
  simp only [apply, hf]
  cases f v with
  | error e => rfl
  | ok u => rfl

theorem apply_cons_of_none (hname : reg.get? name = none) :
    reg.apply v (name :: filters) = .error (.fault (.unknownFilter name reg.sortedNames)) := by
  rw [apply, hname]

end Registry

/-! ### standard filters -/

theorem minutes_eq_ok (h : minutes v = .ok w) : ∃ number, w = .str (durationText number) := by
  unfold minutes at h
  split at h
  · split at h
    · exact ⟨_, (Except.ok.inj h).symm⟩
    · cases h
  · split at h
    · split at h
      · exact ⟨_, (Except.ok.inj h).symm⟩
      · exact ⟨_, (Except.ok.inj h).symm⟩
    · cases h
  · cases h

theorem scalar_of_minutes (h : minutes v = .ok w) : ∃ s, v = .scalar s := by
  unfold minutes at h
  split at h
  · exact ⟨_, rfl⟩
  · exact ⟨_, rfl⟩
  · cases h

/-- A value that is no number of minutes can be worded if it can be written. -/
theorem minutes_eq_error (h : minutes v = .error e) :
    (∃ expected, e = .fault (.filterType minutesName expected v)) ∨ e = .overlongInteger ∧ v.isWritable = false := by
  unfold minutes at h
  split at h
  · next n =>
    split at h
    · cases h
    · next hn => exact Or.inr ⟨(Except.error.inj h).symm, Bool.eq_false_iff.mpr hn⟩
  · split at h
    · split at h <;> cases h
    · exact Or.inl ⟨_, (Except.error.inj h).symm⟩
  · obtain rfl := Except.error.inj h
    rw [Failure.ofFault]
    split
    · exact Or.inl ⟨_, rfl⟩
    · next hfault => exact Or.inr ⟨rfl, Bool.eq_false_iff.mpr hfault⟩

namespace Registry

theorem standard_get? (name : String) :
    Registry.standard.get? name = if name = minutesName then some minutes else none := by
  rw [get?, standard, List.lookup_cons, List.lookup_nil]
  by_cases h : name = minutesName
  · rw [if_pos h, beq_iff_eq.mpr h]
  · rw [if_neg h, beq_eq_false_iff_ne.mpr h]

theorem eq_minutes_of_standard_get? {name : String} {f : Filter} (h : Registry.standard.get? name = some f) :
    f = minutes := by
  rw [standard_get?] at h
  split at h
  · exact (Option.some.inj h).symm
  · cases h

/-- The standard filters leave a value as it is or make a duration of it. -/
theorem standard_apply_eq_ok (h : Registry.standard.apply v filters = .ok w) :
    w = v ∨ ∃ number, w = .str (durationText number) := by
  induction filters generalizing v with
  | nil => exact Or.inl (Except.ok.inj h).symm
  | cons name filters ih =>
    cases hf : Registry.standard.get? name with
    | none =>
      rw [apply_cons_of_none hf] at h
      cases h
    | some f =>
      obtain rfl := eq_minutes_of_standard_get? hf
      rw [apply_cons hf, bind_eq_ok] at h
      obtain ⟨u, hu, happly⟩ := h
      obtain ⟨number, rfl⟩ := minutes_eq_ok hu
      rcases ih happly with rfl | hduration
      · exact Or.inr ⟨number, rfl⟩
      · exact Or.inr hduration

/-- No filter makes null of another value. -/
def MakesNoNull (reg : Registry) : Prop := ∀ name f, reg.get? name = some f → ∀ u, u ≠ .null → f u ≠ .ok .null

theorem standard_makesNoNull : Registry.standard.MakesNoNull := by
  intro name f hf u _ hnull
  rw [eq_minutes_of_standard_get? hf] at hnull
  obtain ⟨_, htext⟩ := minutes_eq_ok hnull
  cases htext

theorem MakesNoNull.apply {reg : Registry} (h : reg.MakesNoNull) (hv : v ≠ .null) (filters : List String) :
    reg.apply v filters ≠ .ok .null := by
  induction filters generalizing v with
  | nil => exact fun hnull => hv (Except.ok.inj hnull)
  | cons name filters ih =>
    cases hf : reg.get? name with
    | none =>
      rw [apply_cons_of_none hf]
      exact fun hnull => nomatch hnull
    | some f =>
      rw [apply_cons hf]
      intro hnull
      obtain ⟨u, hu, happly⟩ := bind_eq_ok.mp hnull
      exact ih (fun hzero => h name f hf v hv (hzero ▸ hu)) happly

/-- The standard filters take scalars only. -/
theorem scalar_of_standard_apply {name : String} (h : Registry.standard.apply v (name :: filters) = .ok w) :
    ∃ s, v = .scalar s := by
  cases hf : Registry.standard.get? name with
  | none =>
    rw [apply_cons_of_none hf] at h
    cases h
  | some f =>
    obtain rfl := eq_minutes_of_standard_get? hf
    rw [apply_cons hf, bind_eq_ok] at h
    obtain ⟨u, hu, _⟩ := h
    exact scalar_of_minutes hu

/-- The standard filters fail with a fault, or for an integer that is too long. -/
theorem standard_apply_eq_error (h : Registry.standard.apply v filters = .error e) :
    (∃ f, e = .fault f) ∨ e = .overlongInteger ∧ v.isWritable = false := by
  induction filters generalizing v with
  | nil => cases h
  | cons name filters ih =>
    cases hf : Registry.standard.get? name with
    | none =>
      rw [apply_cons_of_none hf] at h
      exact Or.inl ⟨_, (Except.error.inj h).symm⟩
    | some f =>
      obtain rfl := eq_minutes_of_standard_get? hf
      rw [apply_cons hf, bind_eq_error] at h
      rcases h with hminutes | ⟨u, hu, happly⟩
      · rcases minutes_eq_error hminutes with ⟨expected, hfault⟩ | hlong
        · exact Or.inl ⟨_, hfault⟩
        · exact Or.inr hlong
      · obtain ⟨number, rfl⟩ := minutes_eq_ok hu
        rcases ih happly with hfault | ⟨_, htext⟩
        · exact Or.inl hfault
        · cases htext

/-! ### more filters -/

variable {reg reg' : Registry} {name : String} {f : Filter}

theorem get?_eq_none_iff : reg.get? name = none ↔ name ∉ reg.names := by
  rw [get?, names, List.lookup_eq_none_iff, List.mem_map]
  constructor
  · rintro h ⟨e, he, rfl⟩
    exact bne_iff_ne.mp (h e he) rfl
  · intro h e he
    refine bne_iff_ne.mpr ?_
    rintro rfl
    exact h ⟨e, he, rfl⟩

theorem mem_names_of_get? (h : reg.get? name = some f) : name ∈ reg.names := by
  by_contra hname
  rw [get?_eq_none_iff.mpr hname] at h
  cases h

/-- A filter is found under the name that it is registered by, and the others are found as before. -/
theorem lookup_register {α : Type} (fs : List (String × α)) (name other : String) (a : α) :
    (register fs other a).lookup name = if name = other then some a else fs.lookup name := by
  induction fs with
  | nil =>
    rw [register, List.lookup_cons, List.lookup_nil]
    by_cases hname : name = other
    · rw [if_pos hname, beq_iff_eq.mpr hname]
    · rw [if_neg hname, beq_eq_false_iff_ne.mpr hname]
  | cons e fs ih =>
    obtain ⟨first, b⟩ := e
    rw [register]
    split
    · next hfirst =>
      subst hfirst
      rw [List.lookup_cons, List.lookup_cons]
      by_cases hname : name = first
      · rw [if_pos hname, beq_iff_eq.mpr hname]
      · rw [if_neg hname, beq_eq_false_iff_ne.mpr hname]
    · next hfirst =>
      rw [List.lookup_cons, List.lookup_cons]
      by_cases hname : name = first
      · rw [if_neg (hname ▸ hfirst), beq_iff_eq.mpr hname]
      · rw [beq_eq_false_iff_ne.mpr hname]
        exact ih

/-- What an extension yields: the filters, one registered after the other. -/
theorem extend_eq_ok {more : List (String × Filter)} (h : reg.extend more = .ok reg') :
    reg' = ⟨more.foldl (fun acc e => register acc e.1 e.2) reg.filters⟩ := by
  rw [extend] at h
  split at h
  · cases h
  · exact (Except.ok.inj h).symm

theorem extendAll_cons {more : List (String × Filter)} {steps : List (List (String × Filter))} :
    reg.extendAll (more :: steps) = .ok reg' ↔ ∃ extended, reg.extend more = .ok extended ∧
      extended.extendAll steps = .ok reg' :=
  bind_eq_ok

theorem get?_of_extend {more : List (String × Filter)} (h : reg.extend more = .ok reg')
    (hmore : ∀ e ∈ more, name ≠ e.1) : reg'.get? name = reg.get? name := by
  rw [extend_eq_ok h]
  clear h
  induction more generalizing reg with
  | nil => rfl
  | cons e more ih =>
    obtain ⟨he, hmore⟩ := List.forall_mem_cons.mp hmore
    have hfirst : (Registry.mk (register reg.filters e.1 e.2)).get? name = reg.get? name :=
      (lookup_register ..).trans (if_neg he)
    exact (ih hmore).trans hfirst

theorem get?_of_extendAll {steps : List (List (String × Filter))} (h : reg.extendAll steps = .ok reg')
    (hsteps : ∀ more ∈ steps, ∀ e ∈ more, name ≠ e.1) : reg'.get? name = reg.get? name := by
  induction steps generalizing reg with
  | nil => rw [Except.ok.inj h]
  | cons more steps ih =>
    obtain ⟨hmore, hsteps⟩ := List.forall_mem_cons.mp hsteps
    obtain ⟨extended, hfirst, hrest⟩ := extendAll_cons.mp h
    exact (ih hrest hsteps).trans (get?_of_extend hfirst hmore)

/-- The second registry has all filters of the first one, under the same names. -/
def Extends (reg reg' : Registry) : Prop := ∀ name f, reg.get? name = some f → reg'.get? name = some f

/-- However often a registry is extended by filters under other names, it keeps those that it had. -/
theorem extends_of_extendAll {steps : List (List (String × Filter))} (h : reg.extendAll steps = .ok reg')
    (hnew : ∀ more ∈ steps, ∀ e ∈ more, e.1 ∉ reg.names) : reg.Extends reg' := by
  intro name f hf
  have hname := mem_names_of_get? hf
  have hne : ∀ more ∈ steps, ∀ e ∈ more, name ≠ e.1 := by
    rintro more hmore e he rfl
    exact hnew more hmore e he hname
  exact (get?_of_extendAll h hne).trans hf

end Registry

/-! ### what is conserved -/

/-- The failure is for the want of a filter. -/
def Failure.WantsFilter (e : Failure) : Prop := ∃ name available, e = .fault (.unknownFilter name available)

/-- The second outcome is the first one, unless this is a failure for the want of a filter. -/
structure Conserves {α : Type} (o o' : Except Failure α) : Prop where
  ok : ∀ a, o = .ok a → o' = .ok a
  error : ∀ e, o = .error e → ¬ e.WantsFilter → o' = .error e

theorem Conserves.of_wants {α : Type} {o' : Except Failure α} (h : e.WantsFilter) : Conserves (.error e) o' where
  ok := fun _ ha => nomatch ha
  error := by
    intro e' he hnot
    obtain rfl := Except.error.inj he
    exact absurd h hnot

theorem conserves_lasting : Lasting Conserves where
  refl := fun o => ⟨fun _ h => h, fun _ h _ => h⟩
  bind := by
    intro α β o o' f g h hfg
    cases o with
    | ok a =>
      rw [h.ok a rfl]
      exact hfg a rfl
    | error e =>
      by_cases he : e.WantsFilter
      · exact Conserves.of_wants he
      · rw [h.error e rfl he]
        exact ⟨fun _ h => h, fun _ h _ => h⟩

/-- Filters that a registry has do in a larger one what they did. -/
theorem Registry.Extends.apply {reg reg' : Registry} (h : reg.Extends reg') (filters : List String) (v : Value) :
    Conserves (reg.apply v filters) (reg'.apply v filters) := by
  induction filters generalizing v with
  | nil => exact conserves_lasting.refl _
  | cons name filters ih =>
    cases hf : reg.get? name with
    | none =>
      rw [apply_cons_of_none hf]
      exact Conserves.of_wants ⟨_, _, rfl⟩
    | some f =>
      rw [apply_cons hf, apply_cons (h name f hf)]
      exact conserves_lasting.bind (conserves_lasting.refl _) fun u _ => ih u

/-! ### what is reported -/

namespace Registry

variable {reg : Registry} {name : String} {available : List String}

theorem sortedNames_perm : reg.sortedNames.Perm reg.names := List.mergeSort_perm _ _

theorem sortedNames_pairwise : reg.sortedNames.Pairwise (· ≤ ·) := by
  have htrans : ∀ a b c : String, (!decide (b < a)) = true → (!decide (c < b)) = true → (!decide (c < a)) = true := by
    simp only [Bool.not_eq_true', decide_eq_false_iff_not, String.not_lt]
    exact fun a b c => String.le_trans
  have htotal : ∀ a b : String, (!decide (b < a) || !decide (a < b)) = true := by
    simp only [Bool.or_eq_true, Bool.not_eq_true', decide_eq_false_iff_not, String.not_lt]
    exact String.le_total
  have hsorted := List.pairwise_mergeSort htrans htotal reg.names
  refine hsorted.imp fun hab => ?_
  simpa only [Bool.not_eq_true', decide_eq_false_iff_not, String.not_lt] using hab

/-- The registry does not have the name, and these are the names that it has, in order. -/
structure Reports (reg : Registry) (name : String) (available : List String) : Prop where
  unknown : name ∉ reg.names
  all : available.Perm reg.names
  sorted : available.Pairwise (· ≤ ·)

/-- One of the filters itself fails so. -/
def RaisesItself (reg : Registry) (e : Failure) : Prop := ∃ f ∈ reg.filters, ∃ v, f.2 v = .error e

/-- The standard filter fails with nothing else than a complaint of its own about a value, or an integer that is too
long. -/
theorem standard_raisesItself (h : Registry.standard.RaisesItself e) :
    (∃ expected v, e = .fault (.filterType minutesName expected v)) ∨ e = .overlongInteger := by
  obtain ⟨f, hf, v, hfails⟩ := h
  obtain rfl := List.mem_singleton.mp hf
  rcases minutes_eq_error hfails with ⟨expected, hfault⟩ | ⟨hlong, _⟩
  · exact Or.inl ⟨expected, v, hfault⟩
  · exact Or.inr hlong

/-- Values that are sent through filters fail for the want of one, or as one of them does. -/
theorem apply_eq_error (h : reg.apply v filters = .error e) :
    (∃ name ∉ reg.names, e = .fault (.unknownFilter name reg.sortedNames)) ∨ reg.RaisesItself e := by
  induction filters generalizing v with
  | nil => cases h
  | cons first filters ih =>
    cases hf : reg.get? first with
    | none =>
      rw [apply_cons_of_none hf] at h
      exact Or.inl ⟨first, get?_eq_none_iff.mp hf, (Except.error.inj h).symm⟩
    | some f =>
      rw [apply_cons hf, bind_eq_error] at h
      rcases h with hraises | ⟨u, _, happly⟩
      · obtain ⟨before, after, hfilters, _⟩ := List.lookup_eq_some_iff.mp hf
        refine Or.inr ⟨(first, f), ?_, v, hraises⟩
        rw [hfilters]
        exact List.mem_append_right before List.mem_cons_self
      · exact ih happly

/-- A failure for the want of a filter is about one that the registry does not have, unless one of its own filters
raises it. -/
theorem apply_eq_unknownFilter (h : reg.apply v filters = .error (.fault (.unknownFilter name available))) :
    reg.Reports name available ∨ reg.RaisesItself (.fault (.unknownFilter name available)) := by
  refine (apply_eq_error h).imp_left ?_
  rintro ⟨_, hname, hfault⟩
  obtain ⟨rfl, rfl⟩ := Fault.unknownFilter.inj (Failure.fault.inj hfault)
  exact ⟨hname, sortedNames_perm, sortedNames_pairwise⟩

end Registry

end LinkedData
