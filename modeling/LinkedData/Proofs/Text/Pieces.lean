import LinkedData.Proofs.Text.Ascii

/-!
# Texts in pieces

* `mem_of_mem_splitOn`: the pieces of a text hold no separator, and nothing that is not in the text;
* `mem_of_mem_intercalate`: joined pieces hold nothing but what they and the separator hold;
* `append_intercalate`: what stands before joined pieces belongs to the first one;
* `intercalate_inj`: pieces that are joined with a mark that is in none of them can be told from the joined text, also
  if the mark has other characters around it.
-/

namespace LinkedData.Text

variable {cs piece : List Char} {mark : Char} {ps qs : List (List Char)}

/-! ### dividing -/

theorem mem_of_mem_splitOn (h : piece ∈ cs.splitOn mark) : ∀ c ∈ piece, c ∈ cs ∧ c ≠ mark := by
  induction cs generalizing piece with
  | nil =>
    obtain rfl := List.mem_singleton.mp h
    exact List.forall_mem_nil _
  | cons c cs ih =>
    have hlater : ∀ s ∈ cs.splitOn mark, ∀ d ∈ s, d ∈ c :: cs ∧ d ≠ mark := fun s hs d hd =>
      ⟨List.mem_cons_of_mem c (ih hs d hd).1, (ih hs d hd).2⟩
    rw [List.splitOn_cons_eq_if_modifyHead] at h
    by_cases hc : c = mark
    · rw [if_pos (beq_iff_eq.mpr hc)] at h
      rcases List.mem_cons.mp h with rfl | h
      · exact List.forall_mem_nil _
      · exact hlater piece h
    · rw [if_neg (by simpa using hc)] at h
      cases hsplit : cs.splitOn mark with
      | nil => exact absurd hsplit (List.splitOn_ne_nil mark cs)
      | cons first rest =>
        rw [hsplit, List.modifyHead_cons] at h
        rw [hsplit] at hlater
        rcases List.mem_cons.mp h with rfl | h
        · exact List.forall_mem_cons.mpr ⟨⟨List.mem_cons_self, hc⟩, hlater first List.mem_cons_self⟩
        · exact hlater piece (List.mem_cons_of_mem first h)

/-! ### joining -/

theorem mem_of_mem_intercalate {separator : List Char} {c : Char} (h : c ∈ separator.intercalate ps) :
    c ∈ separator ∨ ∃ p ∈ ps, c ∈ p := by
  induction ps with
  | nil => cases h
  | cons p ps ih =>
    cases ps with
    | nil =>
      rw [List.intercalate_singleton] at h
      exact Or.inr ⟨p, List.mem_cons_self, h⟩
    | cons next ps =>
      rw [List.intercalate_cons_cons, List.mem_append, List.mem_append] at h
      rcases h with (h | h) | h
      · exact Or.inr ⟨p, List.mem_cons_self, h⟩
      · exact Or.inl h
      · exact (ih h).imp_right fun ⟨q, hq, hc⟩ => ⟨q, List.mem_cons_of_mem p hq, hc⟩

/-- Characters before the first piece belong to it. -/
theorem append_intercalate (cs separator : List Char) :
    cs ++ separator.intercalate (piece :: ps) = separator.intercalate ((cs ++ piece) :: ps) := by
  cases ps with
  | nil => rw [List.intercalate_singleton, List.intercalate_singleton]
  | cons p ps => simp only [List.intercalate_cons_cons, List.append_assoc]

/-- What stands before the first mark of a text, and what stands behind it, can be told from the text. -/
theorem before_mark_inj {left right left' right' : List Char} (hleft : mark ∉ left) (hleft' : mark ∉ left')
    (h : left ++ mark :: right = left' ++ mark :: right') : left = left' ∧ right = right' := by
  have hplain : ∀ {ds : List Char}, mark ∉ ds → ∀ c ∈ ds, (c != mark) = true := by
    intro ds hds c hc
    rw [bne_iff_ne]
    rintro rfl
    exact hds hc
  have hends : ∀ {rest : List Char}, ∀ c ∈ (mark :: rest).head?, (c != mark) = false := by
    intro rest c hc
    obtain rfl := Option.some.inj hc
    exact bne_self_eq_false mark
  have hbefore := congrArg (List.takeWhile (· != mark)) h
  rw [takeWhile_run (hplain hleft) hends, takeWhile_run (hplain hleft') hends] at hbefore
  have hafter := congrArg (List.dropWhile (· != mark)) h
  rw [dropWhile_run (hplain hleft) hends, dropWhile_run (hplain hleft') hends] at hafter
  exact ⟨hbefore, (List.cons.inj hafter).2⟩

theorem intercalate_inj (before after : List Char) (hbefore : mark ∉ before) (hps : ∀ p ∈ ps, mark ∉ p)
    (hqs : ∀ q ∈ qs, mark ∉ q) (hps' : ps ≠ []) (hqs' : qs ≠ [])
    (h : (before ++ mark :: after).intercalate ps = (before ++ mark :: after).intercalate qs) : ps = qs := by
  induction ps generalizing qs with
  | nil => exact absurd rfl hps'
  | cons p ps ih =>
    obtain ⟨q, qs, rfl⟩ := List.exists_cons_of_ne_nil hqs'
    obtain ⟨hp, hmore⟩ := List.forall_mem_cons.mp hps
    obtain ⟨hq, hmore'⟩ := List.forall_mem_cons.mp hqs
    have hholds : ∀ first rest : List Char, mark ∈ first ++ (before ++ mark :: after) ++ rest := by simp
    cases ps with
    | nil =>
      cases qs with
      | nil => rwa [List.intercalate_singleton, List.intercalate_singleton, ← List.singleton_inj] at h
      | cons q' qs =>
        -- only one of the joined texts holds the mark
        rw [List.intercalate_singleton, List.intercalate_cons_cons] at h
        exact absurd (hholds _ _) (h ▸ hp)
    | cons p' ps =>
      cases qs with
      | nil =>
        rw [List.intercalate_singleton, List.intercalate_cons_cons] at h
        exact absurd (hholds _ _) (h.symm ▸ hq)
      | cons q' qs =>
        have hmark : ∀ first rest : List Char, first ++ (before ++ mark :: after) ++ rest =
            (first ++ before) ++ mark :: (after ++ rest) := by simp
        rw [List.intercalate_cons_cons, List.intercalate_cons_cons, hmark, hmark] at h
        obtain ⟨hfirst, hrest⟩ := before_mark_inj (List.not_mem_append hp hbefore) (List.not_mem_append hq hbefore) h
        obtain rfl := List.append_cancel_right hfirst
        rw [ih hmore hmore' (List.cons_ne_nil p' ps) (List.cons_ne_nil q' qs) (List.append_cancel_left hrest)]

end LinkedData.Text
