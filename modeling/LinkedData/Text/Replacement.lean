/-!
# Replacing a part of a text

* `replaceAll`: a text with every occurrence of a part replaced, from left to right;
* `replaceAll_append`, `replaceAll_self`: only what follows its first occurrence is changed.
-/

namespace LinkedData.Text

/-- `cs` after its first `skipped` characters, with `old` replaced by `new` wherever it occurs. -/
def replaceFrom (old new : List Char) : Nat → List Char → List Char
  | _, [] => []
  | skipped + 1, _ :: cs => replaceFrom old new skipped cs
  | 0, c :: cs =>
    if old.isPrefixOf (c :: cs) then new ++ replaceFrom old new (old.length - 1) cs
    else c :: replaceFrom old new 0 cs

/-- `cs` with every occurrence of `old`, which is not empty, replaced by `new`. -/
def replaceAll (old new cs : List Char) : List Char := replaceFrom old new 0 cs

variable {c : Char} {old new cs : List Char}

theorem replaceFrom_length (old new cs : List Char) : replaceFrom old new cs.length cs = [] := by
  induction cs with
  | nil => rfl
  | cons c cs ih => rw [List.length_cons, replaceFrom, ih]

theorem replaceAll_self (c : Char) (old new : List Char) : replaceAll (c :: old) new (c :: old) = new := by
  have hprefix : (c :: old).isPrefixOf (c :: old) = true := List.isPrefixOf_iff_prefix.mpr (List.prefix_refl _)
  rw [replaceAll, replaceFrom, if_pos hprefix, List.length_cons, Nat.add_sub_cancel, replaceFrom_length,
    List.append_nil]

/-- What does not have the first character of a part is not changed. -/
theorem replaceAll_append (hc : c ∉ cs) (rest : List Char) :
    replaceAll (c :: old) new (cs ++ rest) = cs ++ replaceAll (c :: old) new rest := by
  induction cs with
  | nil => rfl
  | cons d cs ih =>
    obtain ⟨hd, hcs⟩ := not_or.mp (mt List.mem_cons.mpr hc)
    have hno : (c :: old).isPrefixOf (d :: (cs ++ rest)) = false := by
      rw [List.isPrefixOf_cons_cons, beq_eq_false_iff_ne.mpr hd, Bool.false_and]
    rw [List.cons_append, List.cons_append, ← ih hcs, replaceAll, replaceFrom, hno, if_neg Bool.false_ne_true]
    rfl

end LinkedData.Text
