import LinkedData.Proofs.Text.Pieces
import LinkedData.Site.Path

/-!
# Normal forms of paths

* `Site.stackReading`: the segments that are left of a path that is read on a stack, and `Site.joinSegments`, the path of
  such segments below one slash;
* `Site.normalizePath_eq`: the normal form of a path is joined from what is left of it;
* `Site.segments`: what stands between the slashes of a path that begins with one;
* `Site.IsKept`: a segment that stays, and `Site.stackReading_kept`: no others are left of a path;
* `Site.IsNormal`: a single slash at the beginning, and no empty segment before the last and no dots in the place of
  one; `Site.normalizePath_isNormal`: so are the normal forms of all paths;
* `Site.stackReading_append`: a normal path stays below every path that it is put behind.
-/

namespace LinkedData.Site

open Text

variable {path above normal segment : List Char} {kept more : List (List Char)} {slash : Bool}

/-! ### paths read on a stack -/

/-- One more segment on the stack of those kept so far, the last one first. -/
def pushSegment (kept : List (List Char)) (segment : List Char) : List (List Char) :=
  if segment = [] ∨ segment = ['.'] then kept
  else if segment = ['.', '.'] then kept.tail
  else segment :: kept

/-- The segments that are left of a path. -/
def stackReading (path : List Char) : List (List Char) :=
  ((path.splitOn '/').foldl pushSegment []).reverse

/-- The path of the given segments below one slash, with a slash behind the last one if there is to be one. -/
def joinSegments (segments : List (List Char)) (lastSlash : Bool) : List Char :=
  '/' :: List.intercalate ['/'] segments ++ (if lastSlash && !segments.isEmpty then ['/'] else [])

/-! ### segments -/

/-- The segments of a path after its first slash. -/
def segments (path : List Char) : List (List Char) := (path.drop 1).splitOn '/'

/-! ### segments that stay -/

/-- A segment that is neither skipped nor drops another one. -/
structure IsKept (segment : List Char) : Prop where
  filled : segment ≠ []
  undotted : segment ≠ ['.'] ∧ segment ≠ ['.', '.']
  whole : '/' ∉ segment

theorem pushSegment_nil (kept : List (List Char)) : pushSegment kept [] = kept := by
  rw [pushSegment, if_pos (Or.inl rfl)]

/-- One more segment leaves nothing on the stack but what is kept and comes from the path. -/
theorem forall_pushSegment {P : List Char → Prop} (hkept : ∀ s ∈ kept, IsKept s ∧ P s) (hwhole : '/' ∉ segment)
    (hsegment : P segment) : ∀ s ∈ pushSegment kept segment, IsKept s ∧ P s := by
  rw [pushSegment]
  split
  · exact hkept
  · next hfilled =>
    split
    · exact fun s hs => hkept s (List.mem_of_mem_tail hs)
    · next hdots =>
      obtain ⟨hempty, hdot⟩ := not_or.mp hfilled
      exact List.forall_mem_cons.mpr ⟨⟨⟨hempty, ⟨hdot, hdots⟩, hwhole⟩, hsegment⟩, hkept⟩

/-- All segments that are left of a path are such as stay, and they are segments of it. -/
theorem stackReading_kept (path : List Char) : ∀ s ∈ stackReading path, IsKept s ∧ s ∈ path.splitOn '/' := by
  have hread : ∀ (rest kept : List (List Char)), (∀ s ∈ rest, s ∈ path.splitOn '/') →
      (∀ s ∈ kept, IsKept s ∧ s ∈ path.splitOn '/') →
      ∀ s ∈ rest.foldl pushSegment kept, IsKept s ∧ s ∈ path.splitOn '/' := by
    intro rest
    induction rest with
    | nil => exact fun kept _ hkept => hkept
    | cons segment rest ih =>
      intro kept hrest hkept
      obtain ⟨hsegment, hrest⟩ := List.forall_mem_cons.mp hrest
      have hwhole : '/' ∉ segment := fun h => (mem_of_mem_splitOn hsegment _ h).2 rfl
      exact ih _ hrest (forall_pushSegment hkept hwhole hsegment)
  intro s hs
  exact hread _ [] (fun s hs => hs) (List.forall_mem_nil _) s (List.mem_reverse.mp hs)

/-! ### collapsed paths -/

/-- Below a root no `..` is ever kept, and so none is kept for being behind another one. -/
theorem foldl_keepSegment (more : List (List Char)) :
    ∀ kept, (∀ s ∈ kept, s ≠ ['.', '.']) → more.foldl (keepSegment true) kept = more.foldl pushSegment kept := by
  induction more with
  | nil => exact fun kept _ => rfl
  | cons segment more ih =>
    intro kept hkept
    have hhead : kept.head? ≠ some ['.', '.'] := fun h => hkept _ (List.mem_of_head? h) rfl
    have hstep : keepSegment true kept segment = pushSegment kept segment := by
      rw [keepSegment, pushSegment]
      by_cases hdots : segment = ['.', '.']
      · simp [hdots, hhead]
      · simp [hdots]
    have hpush : ∀ s ∈ pushSegment kept segment, s ≠ ['.', '.'] := by
      rw [pushSegment]
      split
      · exact hkept
      · split
        · exact fun s hs => hkept s (List.mem_of_mem_tail hs)
        · next hdots => exact List.forall_mem_cons.mpr ⟨hdots, hkept⟩
    rw [List.foldl_cons, List.foldl_cons, hstep, ih _ hpush]

/-- A slash at the beginning leaves no segment. -/
theorem stackReading_slash (path : List Char) : stackReading ('/' :: path) = stackReading path := by
  have hsplit : ('/' :: path).splitOn '/' = [] :: path.splitOn '/' := List.splitOn_append_cons_self [] path
  rw [stackReading, hsplit, List.foldl_cons, pushSegment_nil, stackReading]

theorem stackReading_dropWhile (path : List Char) : stackReading (path.dropWhile (· == '/')) = stackReading path := by
  induction path with
  | nil => rfl
  | cons c path ih =>
    by_cases hc : c = '/'
    · rw [hc, List.dropWhile_cons_of_pos (p := (· == '/')) rfl, ih, stackReading_slash]
    · rw [List.dropWhile_cons_of_neg (by simpa using hc)]

theorem rootSlashes_single (h : path.head? ≠ some '/') : rootSlashes ('/' :: path) = ['/'] := by
  unfold rootSlashes
  split
  · next heq => exact absurd (by rw [(List.cons.inj heq).2]; rfl) h
  · next heq => exact absurd (by rw [(List.cons.inj heq).2]; rfl) h
  · rfl
  · next hnone => exact absurd rfl (hnone path)

/-- Below one slash a path collapses to what is left of it. -/
theorem collapse_rooted (h : path.head? ≠ some '/') : collapse ('/' :: path) = joinSegments (stackReading path) false := by
  have hkept : (path.splitOn '/').foldl (keepSegment true) [] = (path.splitOn '/').foldl pushSegment [] :=
    foldl_keepSegment _ [] (List.forall_mem_nil _)
  rw [collapse, rootSlashes_single h]
  simp only [List.length_singleton, List.drop_one, List.tail_cons, List.isEmpty_cons, Bool.not_false, hkept,
    List.singleton_append, Bool.false_eq_true, if_false, joinSegments, Bool.false_and, List.append_nil, stackReading]

theorem joinSegments_eq_root_iff (h : ∀ s ∈ kept, s ≠ []) : joinSegments kept false = ['/'] ↔ kept = [] := by
  constructor
  · intro hroot
    cases kept with
    | nil => rfl
    | cons s rest =>
      obtain ⟨c, cs, rfl⟩ := List.exists_cons_of_ne_nil (h s List.mem_cons_self)
      cases rest <;> simp [joinSegments] at hroot
  · rintro rfl
    rfl

/-- The normal form of a path is joined from the segments that are left of it; that it is collapsed after its first
slashes are dropped, and that its last slash is told from the path as it was, makes no difference. -/
theorem normalizePath_eq (path : List Char) :
    normalizePath path = joinSegments (stackReading path) (endsInSlash path) := by
  have hfirst : (path.dropWhile (· == '/')).head? ≠ some '/' := by
    intro h
    have hnot := List.head?_dropWhile_not (· == '/') path
    rw [h] at hnot
    simp at hnot
  have hfilled : ∀ s ∈ stackReading path, s ≠ [] := fun s hs => (stackReading_kept path s hs).1.filled
  cases path with
  | nil => rfl
  | cons c cs =>
    rw [normalizePath, collapse_rooted hfirst, stackReading_dropWhile]
    by_cases hroot : stackReading (c :: cs) = []
    · simp [joinSegments, hroot]
    · have hbelow : (joinSegments (stackReading (c :: cs)) false != ['/']) = true :=
        bne_iff_ne.mpr (mt (joinSegments_eq_root_iff hfilled).mp hroot)
      simp only [List.isEmpty_cons, Bool.false_eq_true, if_false, hbelow, Bool.and_true]
      cases endsInSlash (c :: cs) with
      | false => rfl
      | true => simp [joinSegments, hroot]

/-! ### normal paths -/

/-- One slash at the beginning and one between any two segments; only the last segment may be empty, and none consists
of one dot or two. -/
structure IsNormal (path : List Char) : Prop where
  rooted : ∃ rest, path = '/' :: rest ∧ rest.head? ≠ some '/'
  filled : ∀ s ∈ (segments path).dropLast, s ≠ []
  undotted : ∀ s ∈ segments path, s ≠ ['.'] ∧ s ≠ ['.', '.']

/-- The segments of a joined path are those it is joined from, with an empty one behind them after a last slash. -/
theorem segments_joinSegments (h : ∀ s ∈ kept, IsKept s) :
    segments (joinSegments kept slash) = if kept.isEmpty then [[]] else kept ++ (if slash then [[]] else []) := by
  rw [segments, joinSegments, List.cons_append, List.drop_one, List.tail_cons]
  cases hkept : kept with
  | nil => cases slash <;> rfl
  | cons s rest =>
    have hsplit : ((['/'] : List Char).intercalate (s :: rest)).splitOn '/' = s :: rest :=
      List.splitOn_intercalate '/' (fun l hl => (h l (hkept ▸ hl)).whole) (List.cons_ne_nil s rest)
    cases slash with
    | false => simpa using hsplit
    | true => simp [List.splitOn_append_cons_self, hsplit]

theorem isNormal_joinSegments (h : ∀ s ∈ kept, IsKept s) (slash : Bool) : IsNormal (joinSegments kept slash) := by
  have hsegments : segments (joinSegments kept slash) = [[]] ∨ segments (joinSegments kept slash) = kept ∨
      segments (joinSegments kept slash) = kept ++ [[]] := by
    rw [segments_joinSegments h]
    cases kept with
    | nil => exact Or.inl rfl
    | cons s rest => cases slash <;> simp
  have hfilled : ∀ s ∈ (segments (joinSegments kept slash)).dropLast, s ≠ [] := by
    intro s hs
    rcases hsegments with hjoined | hjoined | hjoined
    · rw [hjoined] at hs
      cases hs
    · rw [hjoined] at hs
      exact (h s (List.dropLast_subset kept hs)).filled
    · rw [hjoined, List.dropLast_concat] at hs
      exact (h s hs).filled
  refine ⟨⟨_, rfl, fun hslash => ?_⟩, hfilled, fun s hs => ?_⟩
  · -- a second slash would leave an empty segment before the last
    obtain ⟨rest, hrest⟩ := List.head?_eq_some_iff.mp hslash
    have hsplit : segments (joinSegments kept slash) = [] :: rest.splitOn '/' := by
      rw [segments, joinSegments]
      exact (congrArg (List.splitOn '/') hrest).trans (List.splitOn_append_cons_self [] rest)
    refine hfilled [] ?_ rfl
    rw [hsplit, List.dropLast_cons_of_ne_nil (List.splitOn_ne_nil '/' rest)]
    exact List.mem_cons_self
  · rcases hsegments with hjoined | hjoined | hjoined
    · rw [hjoined, List.mem_singleton] at hs
      rw [hs]
      decide
    · rw [hjoined] at hs
      exact (h s hs).undotted
    · rw [hjoined] at hs
      rcases List.mem_append.mp hs with hs | hs
      · exact (h s hs).undotted
      · rw [List.mem_singleton.mp hs]
        decide

/-- The normal form of every path is normal. -/
theorem normalizePath_isNormal (path : List Char) : IsNormal (normalizePath path) := by
  rw [normalizePath_eq]
  exact isNormal_joinSegments (fun s hs => (stackReading_kept path s hs).1) _

/-- A normal form has no characters but slashes and those of the path. -/
theorem mem_of_mem_normalizePath {c : Char} (h : c ∈ normalizePath path) : c = '/' ∨ c ∈ path := by
  rw [normalizePath_eq, joinSegments, List.cons_append, List.mem_cons, List.mem_append] at h
  rcases h with h | h | h
  · exact Or.inl h
  · refine (mem_of_mem_intercalate h).imp List.mem_singleton.mp fun ⟨s, hs, hc⟩ => ?_
    exact (mem_of_mem_splitOn (stackReading_kept path s hs).2 c hc).1
  · split at h
    · exact Or.inl (List.mem_singleton.mp h)
    · cases h

/-! ### paths below others -/

/-- Segments without dots are all put on the stack, except for empty ones. -/
theorem foldl_pushSegment (more : List (List Char)) (h : ∀ s ∈ more, s ≠ ['.'] ∧ s ≠ ['.', '.']) :
    ∀ kept, more.foldl pushSegment kept = (more.filter (!·.isEmpty)).reverse ++ kept := by
  induction more with
  | nil => exact fun kept => rfl
  | cons s more ih =>
    intro kept
    obtain ⟨hs, hmore⟩ := List.forall_mem_cons.mp h
    rw [List.foldl_cons, ih hmore]
    cases s with
    | nil => rw [pushSegment_nil]; rfl
    | cons c cs =>
      rw [pushSegment, if_neg (not_or.mpr ⟨List.cons_ne_nil c cs, hs.1⟩), if_neg hs.2]
      simp

/-- A normal path stays below the path it is put behind: it drops none of the segments that are left of it. -/
theorem stackReading_append (h : IsNormal normal) (above : List Char) :
    stackReading (above ++ normal) = stackReading above ++ stackReading normal := by
  obtain ⟨rest, rfl, _⟩ := h.rooted
  have hrest : ∀ s ∈ rest.splitOn '/', s ≠ ['.'] ∧ s ≠ ['.', '.'] := h.undotted
  have hread : ∀ kept, (rest.splitOn '/').foldl pushSegment kept =
      ((rest.splitOn '/').filter (!·.isEmpty)).reverse ++ kept := foldl_pushSegment _ hrest
  have hbelow : ('/' :: rest).splitOn '/' = [] :: rest.splitOn '/' :=
    List.splitOn_append_cons_self [] rest
  rw [stackReading, List.splitOn_append_cons_self, List.foldl_append, hread, List.reverse_append, stackReading,
    stackReading, hbelow, List.foldl_cons, pushSegment_nil, hread, List.append_nil]

end LinkedData.Site
