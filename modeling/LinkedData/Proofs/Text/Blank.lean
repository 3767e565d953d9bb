import LinkedData.Text.Blank

/-!
# What trimming drops

* `exists_trim`, `exists_trimEnd`: a text is its trim with blanks around it, or behind it (`mem_of_mem_trim`);
* `trim_blanks`, `trimEnd_blanks`: blanks around a text, or behind it, do not change its trim;
* `trim_trim`, `trimEnd_trimEnd`: nothing is left to be dropped;
* `trimEnd_append`: only the end of a text is trimmed if what stands before it has no blanks at its own end.
-/

namespace LinkedData.Text

/-- The text has white space only. -/
def Blank (cs : List Char) : Prop := ∀ c ∈ cs, isBlank c = true

variable {cs before after : List Char}

theorem blank_takeWhile (cs : List Char) : Blank (cs.takeWhile isBlank) := by
  intro c hc
  exact List.all_eq_true.mp List.all_takeWhile c hc

theorem Blank.reverse (h : Blank cs) : Blank cs.reverse := fun c hc => h c (List.mem_reverse.mp hc)

/-! ### blanks at one end -/

theorem trimStart_blanks (h : Blank before) (cs : List Char) : trimStart (before ++ cs) = trimStart cs :=
  List.dropWhile_append_of_pos h

theorem trimEnd_blanks (h : Blank after) (cs : List Char) : trimEnd (cs ++ after) = trimEnd cs := by
  rw [trimEnd, trimEnd, List.reverse_append, List.dropWhile_append_of_pos h.reverse]

theorem exists_trimEnd (cs : List Char) : ∃ after, Blank after ∧ cs = trimEnd cs ++ after := by
  refine ⟨(cs.reverse.takeWhile isBlank).reverse, (blank_takeWhile _).reverse, ?_⟩
  rw [trimEnd, ← List.reverse_append, List.takeWhile_append_dropWhile, List.reverse_reverse]

theorem trimEnd_trimEnd (cs : List Char) : trimEnd (trimEnd cs) = trimEnd cs := by
  obtain ⟨after, hafter, hcs⟩ := exists_trimEnd cs
  have hsame := congrArg trimEnd hcs
  rw [trimEnd_blanks hafter] at hsame
  exact hsame.symm

theorem trimEnd_append (h : trimEnd cs = cs) (ds : List Char) : trimEnd (cs ++ ds) = cs ++ trimEnd ds := by
  rw [trimEnd, trimEnd, List.reverse_append, List.dropWhile_append]
  split
  · next hempty =>
    rw [List.isEmpty_iff.mp hempty, List.reverse_nil, List.append_nil]
    exact h
  · rw [List.reverse_append, List.reverse_reverse]

/-! ### blanks at both ends -/

theorem exists_trim (cs : List Char) :
    ∃ before after, Blank before ∧ Blank after ∧ cs = before ++ trim cs ++ after := by
  obtain ⟨after, hafter, hend⟩ := exists_trimEnd (trimStart cs)
  refine ⟨cs.takeWhile isBlank, after, blank_takeWhile cs, hafter, ?_⟩
  rw [trim, List.append_assoc, ← hend, trimStart, List.takeWhile_append_dropWhile]

theorem mem_of_mem_trim {c : Char} (h : c ∈ trim cs) : c ∈ cs := by
  obtain ⟨before, after, _, _, hcs⟩ := exists_trim cs
  have hmem := List.mem_append_left after (List.mem_append_right before h)
  rwa [← hcs] at hmem

theorem trim_blanks (hbefore : Blank before) (hafter : Blank after) (cs : List Char) :
    trim (before ++ cs ++ after) = trim cs := by
  rw [trim, trim, List.append_assoc, trimStart_blanks hbefore, trimStart, trimStart, List.dropWhile_append]
  split
  · next hempty =>
    -- a text of blanks, and those behind it
    have hall : (after ++ []).dropWhile isBlank = [] := trimStart_blanks hafter []
    rw [← List.append_nil after, hall, List.isEmpty_iff.mp hempty]
  · exact trimEnd_blanks hafter _

theorem trim_trim (cs : List Char) : trim (trim cs) = trim cs := by
  obtain ⟨before, after, hbefore, hafter, hcs⟩ := exists_trim cs
  have hsame := congrArg trim hcs
  rw [trim_blanks hbefore hafter] at hsame
  exact hsame.symm

end LinkedData.Text
