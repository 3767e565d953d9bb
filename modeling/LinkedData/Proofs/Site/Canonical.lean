import LinkedData.Proofs.Site.Path

/-!
# Paths with the same normal form

* `Site.stackReading_joinSegments`, `Site.endsInSlash_joinSegments`: a joined path tells what it is joined from;
* `Site.keepsLastSlash`: a path ends in a slash and some segment is left of it;
* `Site.stackReading_below`: what is left of a path below another one depends on what is left of that one;
* `Site.normalizePath_canonical`: the normal form of a path is given by the segments that are left of it and by its last
  slash, and gives them.
-/

namespace LinkedData.Site

variable {path other : List Char} {kept : List (List Char)}

/-! ### what a joined path tells -/

theorem stackReading_joinSegments (h : ∀ s ∈ kept, IsKept s) (slash : Bool) :
    stackReading (joinSegments kept slash) = kept := by
  have hfilled : kept.filter (!·.isEmpty) = kept := by
    refine List.filter_eq_self.mpr fun s hs => ?_
    rw [List.isEmpty_eq_false_iff.mpr (h s hs).filled]
    rfl
  have hsegments : segments (joinSegments kept slash) = _ := segments_joinSegments h
  have hundotted := (isNormal_joinSegments h slash).undotted
  have hread : stackReading (joinSegments kept slash) =
      ((segments (joinSegments kept slash)).foldl pushSegment []).reverse := by
    obtain ⟨rest, hrest, _⟩ := (isNormal_joinSegments h slash).rooted
    rw [hrest, stackReading_slash]
    rfl
  rw [hread, foldl_pushSegment _ hundotted, List.append_nil, List.reverse_reverse, hsegments]
  cases kept with
  | nil => rfl
  | cons s more =>
    rw [List.isEmpty_cons, if_neg Bool.false_ne_true, List.filter_append, hfilled]
    cases slash <;> simp

/-- Joined segments end in a character of the last one. -/
theorem getLast?_intercalate (h : ∀ s ∈ kept, IsKept s) (hkept : kept ≠ []) :
    ∃ c, (['/'].intercalate kept).getLast? = some c ∧ c ≠ '/' := by
  induction kept with
  | nil => exact absurd rfl hkept
  | cons s more ih =>
    obtain ⟨hs, hmore⟩ := List.forall_mem_cons.mp h
    cases more with
    | nil =>
      rw [List.intercalate_singleton]
      refine ⟨s.getLast hs.filled, List.getLast?_eq_some_getLast hs.filled, fun hslash => hs.whole ?_⟩
      rw [← hslash]
      exact List.getLast_mem hs.filled
    | cons next more =>
      obtain ⟨c, hc, hne⟩ := ih hmore (List.cons_ne_nil next more)
      refine ⟨c, ?_, hne⟩
      rw [List.intercalate_cons_cons, List.getLast?_append, hc]
      rfl

theorem endsInSlash_joinSegments (h : ∀ s ∈ kept, IsKept s) (slash : Bool) :
    endsInSlash (joinSegments kept slash) = (slash || kept.isEmpty) := by
  rw [endsInSlash, joinSegments, List.getLast?_append, List.getLast?_cons]
  cases kept with
  | nil => cases slash <;> rfl
  | cons s more =>
    obtain ⟨c, hc, hne⟩ := getLast?_intercalate h (List.cons_ne_nil s more)
    cases slash with
    | true => rfl
    | false => simp [hc, hne]

/-! ### normal forms -/

/-- The path ends in a slash that its normal form has, too. -/
def keepsLastSlash (path : List Char) : Bool := endsInSlash path && !(stackReading path).isEmpty

theorem stackReading_normalizePath (path : List Char) : stackReading (normalizePath path) = stackReading path := by
  rw [normalizePath_eq]
  exact stackReading_joinSegments (fun s hs => (stackReading_kept path s hs).1) _

theorem endsInSlash_normalizePath (path : List Char) :
    endsInSlash (normalizePath path) = (endsInSlash path || (stackReading path).isEmpty) := by
  rw [normalizePath_eq]
  exact endsInSlash_joinSegments (fun s hs => (stackReading_kept path s hs).1) _

theorem keepsLastSlash_normalizePath (path : List Char) :
    keepsLastSlash (normalizePath path) = keepsLastSlash path := by
  rw [keepsLastSlash, keepsLastSlash, stackReading_normalizePath, endsInSlash_normalizePath]
  cases endsInSlash path <;> cases (stackReading path).isEmpty <;> rfl

theorem normalizePath_eq_iff : normalizePath path = normalizePath other ↔
    stackReading path = stackReading other ∧ keepsLastSlash path = keepsLastSlash other := by
  constructor
  · intro h
    have hread := congrArg stackReading h
    have hslash := congrArg keepsLastSlash h
    rw [stackReading_normalizePath, stackReading_normalizePath] at hread
    rw [keepsLastSlash_normalizePath, keepsLastSlash_normalizePath] at hslash
    exact ⟨hread, hslash⟩
  · rintro ⟨hread, hslash⟩
    rw [keepsLastSlash, keepsLastSlash] at hslash
    rw [normalizePath_eq, normalizePath_eq, joinSegments, joinSegments, hslash, hread]

theorem normalizePath_normalizePath (path : List Char) : normalizePath (normalizePath path) = normalizePath path :=
  normalizePath_eq_iff.mpr ⟨stackReading_normalizePath path, keepsLastSlash_normalizePath path⟩

/-! ### paths below others -/

/-- What is left of a path below another one: its segments are put on top of those that are left of the other one. -/
theorem stackReading_below (path below : List Char) : stackReading (path ++ '/' :: below) =
    ((below.splitOn '/').foldl pushSegment (stackReading path).reverse).reverse := by
  rw [stackReading, List.splitOn_append_cons_self, List.foldl_append, stackReading, List.reverse_reverse]

theorem endsInSlash_below (path below : List Char) :
    endsInSlash (path ++ '/' :: below) = endsInSlash ('/' :: below) := by
  rw [endsInSlash, endsInSlash, List.getLast?_append, List.getLast?_cons]
  rfl

/-- **Normal forms are canonical.** The normal form of a path is a slash and the segments that are left of the path, with
slashes between them and one behind them if the path ends in a slash and some segment is left. So it is its own normal
form, paths have the same one just if the same segments are left of them and both or none of them keep their last slash,
and a path may be replaced by its normal form where it stands above another one. -/
theorem normalizePath_canonical (path : List Char) :
    normalizePath path =
        '/' :: ['/'].intercalate (stackReading path) ++ (if keepsLastSlash path then ['/'] else []) ∧
      normalizePath (normalizePath path) = normalizePath path ∧
      (∀ other, normalizePath path = normalizePath other ↔
        stackReading path = stackReading other ∧ keepsLastSlash path = keepsLastSlash other) ∧
      ∀ below, normalizePath (path ++ '/' :: below) = normalizePath (normalizePath path ++ '/' :: below) := by
  refine ⟨normalizePath_eq path, normalizePath_normalizePath path, fun other => normalizePath_eq_iff, fun below => ?_⟩
  rw [normalizePath_eq, normalizePath_eq, stackReading_below, stackReading_below, stackReading_normalizePath,
    endsInSlash_below, endsInSlash_below]

example : normalizePath "a/../".toList = "/".toList ∧ normalizePath "/../a//./b/..//c/".toList = "/a/c/".toList := by
  decide +kernel

end LinkedData.Site
