import LinkedData.Proofs.Value.Entries

/-!
# Keys that are the same

Sameness of keys is no equality: `1`, `1.0` and `true` are the same key, and so are two times with an offset that are
the same instant. It is an equivalence all the same.

* `Key.same_trans`: what is the same as the same key is the same;
* `Key.same_self`: a key is the same as itself;
* `Entries.get?_of_same`, `Entries.get?_insert`: the same key finds the same value, and what was set under it;
* `Entries.Distinct.get?_of_mem`: in a mapping every key that is the same as one of its keys finds that entry.
-/

namespace LinkedData

open Calendar Numeric

/-! ### sameness of scalars -/

theorem Calendar.DateTime.sameMoment_trans {s t u : DateTime} (hst : s.sameMoment t = true)
    (htu : t.sameMoment u = true) : s.sameMoment u = true := by
  unfold DateTime.sameMoment at *
  cases hs : s.offset <;> cases ht : t.offset <;> cases hu : u.offset <;> simp_all

theorem Calendar.DateTime.sameMoment_self (t : DateTime) : t.sameMoment t = true := by
  unfold DateTime.sameMoment
  cases t.offset <;> simp

namespace Scalar

/-- A scalar that is a number is the same as what is the same number. -/
theorem same_iff_of_number {s t : Scalar} {m : Number} (hs : s.number? = some m) :
    s.same t = true ↔ t.number? = some m := by
  rw [same, hs]
  · cases t.number? with
    | none => exact iff_of_false Bool.false_ne_true (Option.some_ne_none m).symm
    | some n => rw [beq_iff_eq, Option.some.injEq, eq_comm]
  -- a number is no moment
  · rintro a b rfl rfl
    cases hs

/-- Scalars are the same if they are equal, moments of time that are, or numbers that are. -/
theorem same_cases {s t : Scalar} (h : s.same t = true) :
    t = s ∨ (∃ a b, s = .datetime a ∧ t = .datetime b ∧ a.sameMoment b = true) ∨
      ∃ m, s.number? = some m ∧ t.number? = some m := by
  fun_cases Scalar.same s t with
  | case1 a b => exact Or.inr (Or.inl ⟨a, b, rfl, rfl, h⟩)
  | case2 _ _ _ m _ _ hm => exact Or.inr (Or.inr ⟨m, hm, (same_iff_of_number hm).mp h⟩)
  | case3 _ _ hnot ht hs =>
    rw [same, hs, ht] at h
    · exact Or.inl (beq_iff_eq.mp h).symm
    · exact hnot
  | case4 _ _ hnot hsome hnone =>
    rw [same] at h
    · split at h
      · next m n hm hn => exact absurd hn (hsome m n hm)
      · next hm hn => exact absurd hn (hnone hm)
      · cases h
    · exact hnot

theorem same_trans {s t u : Scalar} (hst : s.same t = true) (htu : t.same u = true) : s.same u = true := by
  rcases same_cases hst with rfl | ⟨a, b, rfl, rfl, hab⟩ | ⟨m, hs, ht⟩
  · exact htu
  · rcases same_cases htu with rfl | ⟨b', c, hb, rfl, hbc⟩ | ⟨m, hb, _⟩
    · exact hst
    · obtain rfl := Scalar.datetime.inj hb
      exact DateTime.sameMoment_trans hab hbc
    · cases hb
  · exact (same_iff_of_number hs).mpr ((same_iff_of_number ht).mp htu)

theorem same_self (s : Scalar) : s.same s = true := by
  cases hs : s.number? with
  | some m => exact (same_iff_of_number hs).mpr hs
  | none =>
    cases s with
    | bool _ | int _ => cases hs
    | datetime t => exact DateTime.sameMoment_self t
    | null | float _ | str _ | bytes _ | date _ | time _ | decimal _ =>
      rw [same, hs]
      · exact BEq.rfl
      all_goals
        intros
        contradiction

end Scalar

/-! ### sameness of keys -/

mutual
theorem Key.same_trans : ∀ {k l m : Key}, k.same l = true → l.same m = true → k.same m = true
  | .scalar _, .scalar _, .scalar _, hkl, hlm => Scalar.same_trans hkl hlm
  | .tuple _, .tuple _, .tuple _, hkl, hlm => Key.sameL_trans hkl hlm
  | .scalar _, .tuple _, _, hkl, _ | .tuple _, .scalar _, _, hkl, _ => nomatch hkl
  | _, .scalar _, .tuple _, _, hlm | _, .tuple _, .scalar _, _, hlm => nomatch hlm
theorem Key.sameL_trans : ∀ {ks ls ms : List Key},
    Key.sameL ks ls = true → Key.sameL ls ms = true → Key.sameL ks ms = true
  | [], [], [], _, _ => rfl
  | k :: ks, l :: ls, m :: ms, hkl, hlm => by
    rw [Key.sameL, Bool.and_eq_true] at hkl hlm ⊢
    exact ⟨Key.same_trans hkl.1 hlm.1, Key.sameL_trans hkl.2 hlm.2⟩
  | [], _ :: _, _, hkl, _ | _ :: _, [], _, hkl, _ => nomatch hkl
  | _, [], _ :: _, _, hlm | _, _ :: _, [], _, hlm => nomatch hlm
end

mutual
theorem Key.same_self : ∀ k : Key, k.same k = true
  | .scalar s => Scalar.same_self s
  | .tuple ks => Key.sameL_self ks
theorem Key.sameL_self : ∀ ks : List Key, Key.sameL ks ks = true
  | [] => rfl
  | k :: ks => by rw [Key.sameL, Key.same_self k, Key.sameL_self ks, Bool.and_self]
end

/-- Keys that are the same are the same as the same keys. -/
theorem Key.same_congr {k l : Key} (h : k.same l = true) (m : Key) : m.same k = m.same l := by
  rw [Bool.eq_iff_iff]
  exact ⟨fun hk => Key.same_trans hk h, fun hl => Key.same_trans hl (Key.same_comm k l ▸ h)⟩

/-! ### what a key finds -/

namespace Entries

variable {es : Entries} {k l : Key}

theorem get?_eq_none_iff : get? es k = none ↔ ∀ e ∈ es, e.1.same k = false := by
  rw [get?, Option.map_eq_none_iff, List.find?_eq_none]
  simp only [Bool.not_eq_true]

theorem get?_of_same (h : k.same l = true) (es : Entries) : get? es k = get? es l := by
  unfold get?
  rw [funext fun e : Key × Value => Key.same_congr h e.1]

/-- The value that was set is found under the keys that are the same. -/
theorem get?_insert (es : Entries) (k : Key) (v : Value) (l : Key) :
    get? (insert es k v) l = if k.same l then some v else get? es l := by
  induction es with
  | nil => rw [insert, get?_cons]
  | cons e es ih =>
    obtain ⟨n, w⟩ := e
    rw [insert]
    by_cases hn : n.same k = true
    · have hsame : k.same l = n.same l := by
        rw [Key.same_comm k l, Key.same_comm n l, Key.same_congr hn l]
      rw [if_pos hn, get?_cons, get?_cons, hsame]
      split <;> rfl
    · rw [if_neg hn, get?_cons, get?_cons, ih]
      by_cases hk : k.same l = true
      · have hl : ¬ n.same l = true := Key.same_congr hk n ▸ hn
        rw [if_neg hl, if_pos hk, if_pos hk]
      · rw [if_neg hk, if_neg hk]

theorem Distinct.get?_of_mem {e : Key × Value} (h : Distinct es) (he : e ∈ es) (hk : e.1.same k = true) :
    get? es k = some e.2 := by
  induction es with
  | nil => cases he
  | cons f es ih =>
    obtain ⟨n, w⟩ := f
    obtain ⟨hn, hes⟩ := distinct_cons.mp h
    rw [get?_cons]
    rcases List.mem_cons.mp he with rfl | he
    · exact if_pos hk
    · rw [if_neg, ih hes he]
      rw [← Key.same_congr hk n, hn e he]
      exact Bool.false_ne_true

/-- What is set under a key that is there already takes the place of what stood there. -/
theorem Distinct.insert_of_found {u : Value} (h : Distinct es) (hk : get? es k = some u) (v : Value) :
    Entries.insert es k v = es.map fun e => if e.1.same k then (e.1, v) else e := by
  induction es with
  | nil => cases hk
  | cons e es ih =>
    obtain ⟨l, w⟩ := e
    obtain ⟨hl, hes⟩ := distinct_cons.mp h
    rw [get?_cons] at hk
    rw [Entries.insert, List.map_cons]
    by_cases hsame : l.same k = true
    · have hrest : ∀ f ∈ es, f.1.same k ≠ true := by
        intro f hf
        rw [← Key.same_congr hsame f.1, Key.same_comm, hl f hf]
        exact Bool.false_ne_true
      have hmap : es.map (fun e => if e.1.same k then (e.1, v) else e) = es.map id :=
        List.map_congr_left fun f hf => if_neg (hrest f hf)
      rw [if_pos hsame, if_pos hsame, hmap, List.map_id]
    · rw [if_neg hsame] at hk ⊢
      rw [if_neg hsame, ih hes hk]

end Entries

end LinkedData
