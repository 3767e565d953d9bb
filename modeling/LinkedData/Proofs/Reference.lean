import Mathlib.Data.List.Basic
import LinkedData.Proofs.Text.Blank
import LinkedData.Proofs.Text.Pieces
import LinkedData.Reference

/-!
# Lookups as they are written

* `DataRef.IsWritten`: a lookup that a text can write: its path has a segment, no segment has a dot or a bar in it, and
  no filter has a bar;
* `Reference.isWritten_of_ofText`: the lookups that texts stand for are of this kind;
* `DataRef.describe_inj`: two of them that are described in the same way are the same.
-/

namespace LinkedData

open Text

/-! ### lookups that texts write -/

/-- A lookup of the form that reading a text gives. -/
structure DataRef.IsWritten (ref : DataRef) : Prop where
  path_ne_nil : ref.path ≠ []
  segments : ∀ s ∈ ref.path, '.' ∉ s.toList ∧ '|' ∉ s.toList
  filters : ∀ f ∈ ref.filters, '|' ∉ f.toList

theorem DataRef.isWritten_ofChars (cs : List Char) : (DataRef.ofChars cs).IsWritten := by
  have hparts : ∀ part ∈ (cs.splitOn '|').map trim, '|' ∉ part := by
    intro part hpart hbar
    obtain ⟨piece, hpiece, rfl⟩ := List.mem_map.mp hpart
    exact (mem_of_mem_splitOn hpiece _ (mem_of_mem_trim hbar)).2 rfl
  have hfirst : '|' ∉ ((cs.splitOn '|').map trim).headD [] := by
    cases hsplit : (cs.splitOn '|').map trim with
    | nil => exact List.not_mem_nil
    | cons first rest => exact hparts first (hsplit ▸ List.mem_cons_self)
  refine ⟨?_, fun s hs => ?_, fun f hf => ?_⟩
  · rw [DataRef.ofChars]
    exact fun h => List.splitOn_ne_nil '.' _ (List.map_eq_nil_iff.mp h)
  · obtain ⟨segment, hsegment, rfl⟩ := List.mem_map.mp hs
    rw [String.toList_ofList]
    refine ⟨fun hdot => (mem_of_mem_splitOn hsegment _ hdot).2 rfl, fun hbar => hfirst ?_⟩
    exact List.mem_of_mem_drop (mem_of_mem_splitOn hsegment _ hbar).1
  · obtain ⟨part, hpart, rfl⟩ := List.mem_map.mp hf
    rw [String.toList_ofList]
    exact hparts part (List.mem_of_mem_tail hpart)

theorem Reference.isWritten_of_ofText {text : String} {ref : DataRef} (h : (Reference.ofText text).ref? = some ref) :
    ref.IsWritten := by
  simp only [Reference.ofText] at h
  split at h
  · cases h
  · split at h
    · cases h
    · split at h
      · obtain rfl := Option.some.inj h
        exact DataRef.isWritten_ofChars _
      · cases h

/-! ### descriptions -/

namespace DataRef

variable {a b : DataRef}

theorem toList_dotted (path : List String) : (dotted path).toList = ['.'].intercalate (path.map String.toList) :=
  String.toList_intercalate

theorem bar_not_mem_dotted (h : a.IsWritten) : '|' ∉ (dotted a.path).toList := by
  rw [toList_dotted]
  intro hbar
  rcases mem_of_mem_intercalate hbar with hdot | ⟨s, hs, hbar⟩
  · exact absurd hdot (by decide)
  · obtain ⟨segment, hsegment, rfl⟩ := List.mem_map.mp hs
    exact (h.segments segment hsegment).2 hbar

/-- The path of a lookup can be told from how it is written with dots. -/
theorem path_of_dotted (ha : a.IsWritten) (hb : b.IsWritten) (h : dotted a.path = dotted b.path) : a.path = b.path := by
  have hsegments : ∀ {ref : DataRef}, ref.IsWritten → ∀ s ∈ ref.path.map String.toList, '.' ∉ s := by
    intro ref href s hs
    obtain ⟨segment, hsegment, rfl⟩ := List.mem_map.mp hs
    exact (href.segments segment hsegment).1
  have hjoined := congrArg String.toList h
  rw [toList_dotted, toList_dotted] at hjoined
  have hpaths := intercalate_inj [] [] List.not_mem_nil (hsegments ha) (hsegments hb)
    (mt List.map_eq_nil_iff.mp ha.path_ne_nil) (mt List.map_eq_nil_iff.mp hb.path_ne_nil) hjoined
  exact List.map_injective_iff.mpr (fun _ _ => String.toList_inj.mp) hpaths

/-- Of lookups that texts write, no two have the same description. -/
theorem describe_inj (ha : a.IsWritten) (hb : b.IsWritten) (h : a.describe = b.describe) : a = b := by
  have hparts : ∀ {ref : DataRef}, ref.IsWritten →
      ∀ p ∈ (dotted ref.path :: ref.filters).map String.toList, '|' ∉ p := by
    intro ref href p hp
    obtain ⟨part, hpart, rfl⟩ := List.mem_map.mp hp
    rcases List.mem_cons.mp hpart with rfl | hfilter
    · exact bar_not_mem_dotted href
    · exact href.filters part hfilter
  have hjoined := congrArg String.toList h
  rw [describe, describe, String.toList_intercalate, String.toList_intercalate] at hjoined
  have hlists := intercalate_inj [' '] [' '] (by decide) (hparts ha) (hparts hb)
    (List.cons_ne_nil _ _) (List.cons_ne_nil _ _) hjoined
  have hsame := List.map_injective_iff.mpr (fun _ _ => String.toList_inj.mp) hlists
  obtain ⟨hdotted, hfilters⟩ := List.cons.inj hsame
  obtain ⟨path, filters⟩ := a
  obtain ⟨path', filters'⟩ := b
  exact congrArg₂ DataRef.mk (path_of_dotted ha hb hdotted) hfilters

end DataRef

end LinkedData
