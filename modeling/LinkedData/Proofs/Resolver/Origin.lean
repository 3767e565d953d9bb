import LinkedData.Proofs.Resolver.Cycle

/-!
# Where lookups come from

The standard filters write no lookup of their own: they leave a value as it is or make a duration of it. So every
lookup that a resolution with them comes to is written in the tree or in the page data.

* `Value.lookups`: the lookups that are leaves of a value, as a list;
* `duration_no_lookup`: a duration is no lookup;
* `Resolver.looksUp_of_filters`, `Resolver.looksUp_of_fetch`: what the value of a lookup looks up is looked up by the
  value that was found, which is part of the page data.
-/

namespace LinkedData

/-! ### lookups of a value -/

/-- The lookup that a value stands for, if it stands for one. -/
def Value.ref? : Value → Option DataRef
  | .scalar s => s.ref?
  | _ => none

/-- The lookups that the leaves of a value stand for. -/
def Value.lookups (v : Value) : List DataRef := v.parts.filterMap Value.ref?

theorem Value.mem_lookups {v : Value} {ref : DataRef} : ref ∈ v.lookups ↔ v.LooksUp ref := by
  rw [lookups, List.mem_filterMap]
  constructor
  · rintro ⟨x, hx, href⟩
    cases x with
    | scalar s => exact ⟨s, hx, href⟩
    | set _ | list _ | tuple _ | map _ => cases href
  · rintro ⟨s, hs, href⟩
    exact ⟨.scalar s, hs, href⟩

/-! ### values of lookups -/

/-- A duration begins with a capital letter and is no lookup. -/
theorem duration_no_lookup (number : List Char) (ref : DataRef) : ¬ (Value.str (durationText number)).LooksUp ref := by
  have hplain : (Reference.ofText (durationText number)).isReference = false := by
    refine Bool.eq_false_iff.mpr fun href => ?_
    rw [Reference.isReference_iff, durationText, String.toList_ofList] at href
    rcases href with href | href
    · exact absurd (List.cons_prefix_cons.mp href).1 (by decide)
    · exact absurd (List.cons_prefix_cons.mp href).1 (by decide)
  rintro ⟨s, hs, href⟩
  obtain rfl := Value.scalar.inj (Value.mem_parts_scalar.mp hs)
  rw [Scalar.ref?, Reference.plain_of_not_isReference hplain] at href
  cases href

namespace Resolver

variable {r : Resolver} {ctx : PageContext} {ref next : DataRef} {u : Value}

theorem looksUp_of_filters {v : Value} {filters : List String} (h : Registry.standard.apply v filters = .ok u)
    (hnext : u.LooksUp next) : v.LooksUp next := by
  rcases Registry.standard_apply_eq_ok h with rfl | ⟨number, rfl⟩
  · exact hnext
  · exact absurd hnext (duration_no_lookup number next)

/-- The value of a lookup with the standard filters looks up nothing that the page data does not. -/
theorem looksUp_of_fetch (hstandard : r.registry = .standard) (h : r.fetch ctx ref = .ok u) (hnext : u.LooksUp next) :
    (Value.map ctx.data).LooksUp next := by
  obtain ⟨found, hfound, happly⟩ := bind_eq_ok.mp h
  rw [hstandard] at happly
  exact (looksUp_of_filters happly hnext).of_part (extract_mem_parts hfound)

end Resolver

end LinkedData
