import LinkedData.Document.Markup

/-!
# Where texts end in markup

The texts of comments, scripts and other elements without elements in them end at the first place that some test holds
at, which in scripts depends on what stands before. All of these tests look at no more than a few characters.

* `Markup.seek?`: what comes before the first such place, which is how all of these texts are split off
  (`Markup.splitBefore?_eq`, `Markup.splitRaw?_eq`, `Markup.splitScript?_eq`);
* `Markup.HasWindow`: how many characters a test looks at;
* `Markup.seek?_ending`: a text that was split off from what followed it is split off from anything else that begins
  in the same way and ends the text.
-/

namespace LinkedData.Markup

/-! ### splitting at the first place -/

/-- What comes before the first place that `stops` holds at, and what comes from there on, for the state that `next`
makes of the first one on the way. -/
def seek? {σ : Type} (stops : σ → List Char → Bool) (next : σ → List Char → σ) :
    σ → List Char → Option (List Char × List Char)
  | _, [] => none
  | s, c :: cs =>
    if stops s (c :: cs) then some ([], c :: cs)
    else (seek? stops next (next s (c :: cs)) cs).map fun (before, after) => (c :: before, after)

theorem splitBefore?_eq (mark cs : List Char) :
    splitBefore? mark cs = seek? (fun (_ : Unit) cs => mark.isPrefixOf cs) (fun _ _ => ()) () cs := by
  induction cs with
  | nil => rfl
  | cons c cs ih => rw [splitBefore?, seek?, ih]

theorem splitRaw?_eq (name cs : List Char) :
    splitRaw? name cs = seek? (fun (_ : Unit) cs => beginsTag ['<', '/'] name cs) (fun _ _ => ()) () cs := by
  induction cs with
  | nil => rfl
  | cons c cs ih => rw [splitRaw?, seek?, ih]

/-- The end tag of a script begins, and it counts. -/
def endsScript (depth : ScriptDepth) (cs : List Char) : Bool :=
  decide (depth ≠ .inNested) && beginsTag ['<', '/'] "script".toList cs

theorem splitScript?_eq (depth : ScriptDepth) (cs : List Char) :
    splitScript? depth cs = seek? endsScript ScriptDepth.after depth cs := by
  induction cs generalizing depth with
  | nil => rfl
  | cons c cs ih =>
    rw [splitScript?, seek?, ih]
    simp only [endsScript, Bool.and_eq_true, decide_eq_true_eq]

/-! ### windows -/

section Window

variable {σ : Type} {stops : σ → List Char → Bool} {next : σ → List Char → σ} {n : Nat} {s : σ}
  {cs ds before after ending : List Char}

/-- The test and the next state depend on no more than the first character and so many after it. -/
def HasWindow (stops : σ → List Char → Bool) (next : σ → List Char → σ) (n : Nat) : Prop :=
  ∀ s c cs ds, cs.take n = ds.take n → stops s (c :: cs) = stops s (c :: ds) ∧ next s (c :: cs) = next s (c :: ds)

theorem isPrefixOf_take {mark : List Char} (h : mark.length ≤ n) :
    mark.isPrefixOf (cs.take n) = mark.isPrefixOf cs := by
  rw [Bool.eq_iff_iff, List.isPrefixOf_iff_prefix, List.isPrefixOf_iff_prefix, List.prefix_take_iff]
  exact and_iff_left h

theorem beginsTag_take {mark name : List Char} (h : mark.length + name.length < n) :
    beginsTag mark name (cs.take n) = beginsTag mark name cs := by
  simp only [beginsTag, List.take_take, Nat.min_eq_left (Nat.le_of_lt h), List.getElem?_take_of_lt h]

/-- What depends on the first characters alone has a window. -/
theorem eq_of_take_eq {α : Type} {f : List Char → α} (hf : ∀ cs, f (cs.take (n + 1)) = f cs) (c : Char)
    (h : cs.take n = ds.take n) : f (c :: cs) = f (c :: ds) := by
  rw [← hf (c :: cs), List.take_succ_cons, h, ← List.take_succ_cons, hf]

theorem hasWindow_mark {mark : List Char} (h : mark.length ≤ n + 1) :
    HasWindow (fun (_ : Unit) cs => mark.isPrefixOf cs) (fun _ _ => ()) n :=
  fun _ c _ _ hsame => ⟨eq_of_take_eq (f := mark.isPrefixOf) (fun _ => isPrefixOf_take h) c hsame, rfl⟩

theorem hasWindow_tag {name : List Char} (h : 2 + name.length ≤ n) :
    HasWindow (fun (_ : Unit) cs => beginsTag ['<', '/'] name cs) (fun _ _ => ()) n := by
  have hwidth : ['<', '/'].length + name.length < n + 1 := Nat.lt_succ_of_le h
  exact fun _ c _ _ hsame =>
    ⟨eq_of_take_eq (f := beginsTag ['<', '/'] name) (fun _ => beginsTag_take hwidth) c hsame, rfl⟩

theorem after_take (depth : ScriptDepth) (cs : List Char) : depth.after (cs.take 9) = depth.after cs := by
  cases depth with
  | outside => rw [ScriptDepth.after, ScriptDepth.after, isPrefixOf_take (by decide)]
  | inComment =>
    rw [ScriptDepth.after, ScriptDepth.after, isPrefixOf_take (by decide), beginsTag_take (by decide)]
  | inNested =>
    rw [ScriptDepth.after, ScriptDepth.after, isPrefixOf_take (by decide), beginsTag_take (by decide)]

theorem hasWindow_script : HasWindow endsScript ScriptDepth.after 8 := by
  have hends : ∀ depth cs, endsScript depth (cs.take 9) = endsScript depth cs := fun depth cs => by
    rw [endsScript, endsScript, beginsTag_take (by decide)]
  exact fun depth c _ _ hsame => ⟨eq_of_take_eq (hends depth) c hsame, eq_of_take_eq (after_take depth) c hsame⟩

/-! ### other endings -/

theorem seek?_eq_append (h : seek? stops next s cs = some (before, after)) : cs = before ++ after := by
  induction cs generalizing s before with
  | nil => cases h
  | cons c cs ih =>
    rw [seek?] at h
    split at h
    · obtain ⟨rfl, rfl⟩ := Prod.mk.inj (Option.some.inj h)
      rfl
    · obtain ⟨⟨more, rest⟩, hmore, heq⟩ := Option.map_eq_some_iff.mp h
      obtain ⟨rfl, rfl⟩ := Prod.mk.inj heq
      rw [List.cons_append, ← ih hmore]

theorem stops_of_seek? (h : seek? stops next s cs = some (before, after)) : ∃ s', stops s' after = true := by
  induction cs generalizing s before with
  | nil => cases h
  | cons c cs ih =>
    rw [seek?] at h
    split at h
    · next hstops =>
      obtain ⟨rfl, rfl⟩ := Prod.mk.inj (Option.some.inj h)
      exact ⟨s, hstops⟩
    · obtain ⟨⟨more, rest⟩, hmore, heq⟩ := Option.map_eq_some_iff.mp h
      obtain ⟨rfl, rfl⟩ := Prod.mk.inj heq
      exact ih hmore

/-- A text that was split off from what followed it is split off from any other ending that begins in the same way. -/
theorem seek?_ending (hwindow : HasWindow stops next n) (h : seek? stops next s cs = some (before, after))
    (hsame : after.take n = ending.take n) (hne : ending ≠ [])
    (hending : ∀ s, stops s after = true → stops s ending = true) :
    seek? stops next s (before ++ ending) = some (before, ending) := by
  induction cs generalizing s before with
  | nil => cases h
  | cons c cs ih =>
    rw [seek?] at h
    split at h
    · next hstops =>
      obtain ⟨rfl, rfl⟩ := Prod.mk.inj (Option.some.inj h)
      obtain ⟨d, ds, rfl⟩ := List.exists_cons_of_ne_nil hne
      rw [List.nil_append, seek?, if_pos (hending s hstops)]
    · next hstops =>
      obtain ⟨⟨more, rest⟩, hmore, heq⟩ := Option.map_eq_some_iff.mp h
      obtain ⟨rfl, rfl⟩ := Prod.mk.inj heq
      -- in front of the ending, the test sees the same characters as before
      have hseen : cs.take n = (more ++ ending).take n := by
        have hshorter : ∀ k ≤ n, rest.take k = ending.take k := by
          intro k hk
          have htake := congrArg (List.take k) hsame
          rwa [List.take_take, List.take_take, Nat.min_eq_left hk] at htake
        rw [seek?_eq_append hmore, List.take_append, List.take_append, hshorter _ (Nat.sub_le n more.length)]
      obtain ⟨hsameStop, hsameNext⟩ := hwindow s c cs (more ++ ending) hseen
      rw [List.cons_append, seek?, if_neg (hsameStop ▸ hstops), ← hsameNext, ih hmore]
      rfl

end Window

end LinkedData.Markup
