import LinkedData.Value.Mapping

/-!
# What setting entries does to a mapping

* `Key.same_comm`: sameness of keys is symmetric, so distinct keys stay so in any order (`Entries.Distinct.perm`);
* `Entries.forall_insert`, `Entries.forall_update`: setting entries brings in no other keys and values than theirs;
* `Entries.Distinct.insert`, `Entries.Distinct.update`: it keeps keys distinct, so `Entries.ofList` is a mapping
  whatever entries it is made of (`Entries.distinct_ofList`);
* `Entries.update_of_distinct`, `Entries.ofList_of_distinct`: entries with new and distinct keys are added in order;
* `Entries.mem_update`: entries whose keys are distinct texts are all there after they are set;
* `Entries.insert_of_get?`: to set a value where it already stands changes nothing;
* `Entries.lookup?_update`: of the entries that are set under a text the last one counts;
* `Entries.lookup?_eq_some_iff`: what stands under a text is the first entry for it;
* `Entries.lookup?_of_perm`: what stands under a text does not depend on the order.
-/

namespace LinkedData

open Calendar Numeric

/-! ### sameness of keys -/

theorem Calendar.DateTime.sameMoment_comm (s t : DateTime) : s.sameMoment t = t.sameMoment s := by
  unfold DateTime.sameMoment
  cases s.offset <;> cases t.offset <;> simp [eq_comm]

theorem Scalar.same_comm (s t : Scalar) : s.same t = t.same s := by
  fun_cases Scalar.same s t with
  | case1 s t => exact DateTime.sameMoment_comm s t
  | case2 s t _ m n ht hs =>
    rw [Scalar.same]
    · simp only [hs, ht]
      exact BEq.comm
    -- the other way round the two are no pair of moments either
    all_goals grind
  | case3 s t _ ht hs =>
    rw [Scalar.same]
    · simp only [hs, ht]
      exact BEq.comm
    all_goals grind
  | case4 s t _ hsome hnone =>
    rw [Scalar.same]
    · split
      · next m n hm hn => exact absurd hm (hsome n m hn)
      · next hm hn => exact absurd hm (hnone hn)
      · rfl
    all_goals grind

mutual
theorem Key.same_comm : ∀ k l : Key, k.same l = l.same k
  | .scalar s, .scalar t => Scalar.same_comm s t
  | .tuple ks, .tuple ls => Key.sameL_comm ks ls
  | .scalar _, .tuple _ | .tuple _, .scalar _ => rfl
theorem Key.sameL_comm : ∀ ks ls : List Key, Key.sameL ks ls = Key.sameL ls ks
  | [], [] => rfl
  | k :: ks, l :: ls => by rw [Key.sameL, Key.sameL, Key.same_comm k l, Key.sameL_comm ks ls]
  | [], _ :: _ | _ :: _, [] => rfl
end

namespace Entries

instance (es : Entries) : Decidable es.Distinct := inferInstanceAs (Decidable (es.Pairwise _))

/-! ### what is in a mapping -/

section Members

variable {P : Key → Prop} {Q : Value → Prop}

theorem forall_insert {es : Entries} {k : Key} {v : Value} (h : ∀ e ∈ es, P e.1 ∧ Q e.2) (hk : P k) (hv : Q v) :
    ∀ e ∈ insert es k v, P e.1 ∧ Q e.2 := by
  induction es with
  | nil =>
    intro e he
    obtain rfl := List.mem_singleton.mp he
    exact ⟨hk, hv⟩
  | cons e es ih =>
    obtain ⟨l, w⟩ := e
    obtain ⟨⟨hl, hw⟩, hes⟩ := List.forall_mem_cons.mp h
    rw [insert]
    split
    · exact List.forall_mem_cons.mpr ⟨⟨hl, hv⟩, hes⟩
    · exact List.forall_mem_cons.mpr ⟨⟨hl, hw⟩, ih hes⟩

theorem forall_update {es new : Entries} (h : ∀ e ∈ es, P e.1 ∧ Q e.2) (hnew : ∀ e ∈ new, P e.1 ∧ Q e.2) :
    ∀ e ∈ update es new, P e.1 ∧ Q e.2 := by
  induction new generalizing es with
  | nil => exact h
  | cons e new ih =>
    obtain ⟨⟨hk, hv⟩, hnew⟩ := List.forall_mem_cons.mp hnew
    exact ih (forall_insert h hk hv) hnew

theorem forall_ofList {es : List (Key × Value)} (h : ∀ e ∈ es, P e.1 ∧ Q e.2) :
    ∀ e ∈ ofList es, P e.1 ∧ Q e.2 :=
  forall_update (List.forall_mem_nil _) h

end Members

/-! ### distinct keys -/

theorem distinct_nil : Distinct [] := List.Pairwise.nil

theorem distinct_cons {k : Key} {v : Value} {es : Entries} :
    Distinct ((k, v) :: es) ↔ (∀ e ∈ es, k.same e.1 = false) ∧ Distinct es :=
  List.pairwise_cons

/-- Whether keys are distinct depends on nothing but the keys. -/
theorem distinct_congr {es ws : Entries} (h : es.map Prod.fst = ws.map Prod.fst) : Distinct es ↔ Distinct ws := by
  have key : ∀ xs : Entries, Distinct xs ↔ (xs.map Prod.fst).Pairwise fun k l => k.same l = false := by
    intro xs
    rw [List.pairwise_map]
    rfl
  rw [key es, key ws, h]

/-- Distinct keys stay distinct in another order. -/
theorem Distinct.perm {es ws : Entries} (h : Distinct es) (hperm : es.Perm ws) : Distinct ws := by
  refine (hperm.pairwise_iff ?_).mp h
  intro a b hab
  rwa [Key.same_comm]

theorem Distinct.insert {es : Entries} (h : Distinct es) (k : Key) (v : Value) : Distinct (insert es k v) := by
  induction es with
  | nil => exact distinct_cons.mpr ⟨List.forall_mem_nil _, distinct_nil⟩
  | cons e es ih =>
    obtain ⟨l, w⟩ := e
    obtain ⟨hl, hes⟩ := distinct_cons.mp h
    rw [Entries.insert]
    by_cases hk : l.same k = true
    · rw [if_pos hk]
      exact distinct_cons.mpr ⟨hl, hes⟩
    · rw [if_neg hk]
      have hk : l.same k = false := Bool.eq_false_iff.mpr hk
      have hall : ∀ e ∈ Entries.insert es k v, l.same e.1 = false ∧ True :=
        forall_insert (P := fun k' => l.same k' = false) (Q := fun _ => True)
          (fun e he => ⟨hl e he, trivial⟩) hk trivial
      exact distinct_cons.mpr ⟨fun e he => (hall e he).1, ih hes⟩

theorem Distinct.update {es : Entries} (h : Distinct es) (new : Entries) : Distinct (update es new) := by
  induction new generalizing es with
  | nil => exact h
  | cons e new ih => exact ih (h.insert e.1 e.2)

theorem distinct_ofList (es : List (Key × Value)) : Distinct (ofList es) := distinct_nil.update es

/-! ### new keys -/

theorem insert_of_new {es : Entries} {k : Key} (h : ∀ e ∈ es, e.1.same k = false) (v : Value) :
    insert es k v = es ++ [(k, v)] := by
  induction es with
  | nil => rfl
  | cons e es ih =>
    obtain ⟨l, w⟩ := e
    obtain ⟨hl, hes⟩ := List.forall_mem_cons.mp h
    rw [insert, if_neg (Bool.eq_false_iff.mp hl), ih hes, List.cons_append]

theorem update_of_distinct {es new : Entries} (h : Distinct (es ++ new)) : update es new = es ++ new := by
  induction new generalizing es with
  | nil => exact (List.append_nil es).symm
  | cons e new ih =>
    obtain ⟨k, v⟩ := e
    have hsplit : es ++ (k, v) :: new = (es ++ [(k, v)]) ++ new := by simp
    have hk : ∀ e ∈ es, e.1.same k = false := fun e he =>
      (List.pairwise_append.mp h).2.2 e he (k, v) List.mem_cons_self
    have hstep : update es ((k, v) :: new) = update (insert es k v) new := rfl
    rw [hstep, insert_of_new hk, hsplit, ih (hsplit ▸ h)]

theorem ofList_of_distinct {es : Entries} (h : Distinct es) : ofList es = es := by
  have hnil : update [] es = [] ++ es := update_of_distinct h
  exact hnil

/-! ### what stays in a mapping -/

theorem insert_of_get? {es : Entries} {k : Key} {v : Value} (h : get? es k = some v) : insert es k v = es := by
  induction es with
  | nil => cases h
  | cons e es ih =>
    obtain ⟨l, w⟩ := e
    rw [get?_cons] at h
    rw [insert]
    by_cases hl : l.same k = true
    · rw [if_pos hl] at h
      rw [if_pos hl, Option.some.inj h]
    · rw [if_neg hl] at h
      rw [if_neg hl, ih h]

theorem mem_insert_str (es : Entries) (name : String) (v : Value) : (.str name, v) ∈ insert es (.str name) v := by
  induction es with
  | nil => exact List.mem_cons_self
  | cons e es ih =>
    obtain ⟨l, w⟩ := e
    rw [insert]
    by_cases hl : l = .str name
    · rw [Key.same_str, if_pos (decide_eq_true hl), hl]
      exact List.mem_cons_self
    · rw [Key.same_str, if_neg (by simpa using hl)]
      exact List.mem_cons_of_mem _ ih

theorem mem_insert_of_mem {es : Entries} {e : Key × Value} {k : Key} (he : e ∈ es) (hk : e.1.same k = false)
    (v : Value) : e ∈ insert es k v := by
  induction es with
  | nil => cases he
  | cons f es ih =>
    obtain ⟨l, w⟩ := f
    rw [insert]
    rcases List.mem_cons.mp he with rfl | he
    · rw [if_neg (Bool.eq_false_iff.mp hk)]
      exact List.mem_cons_self
    · split
      · exact List.mem_cons_of_mem _ he
      · exact List.mem_cons_of_mem _ (ih he)

theorem mem_update_of_mem {es new : Entries} {e : Key × Value} (he : e ∈ es)
    (hnew : ∀ f ∈ new, e.1.same f.1 = false) : e ∈ update es new := by
  induction new generalizing es with
  | nil => exact he
  | cons f new ih =>
    obtain ⟨hf, hnew⟩ := List.forall_mem_cons.mp hnew
    exact ih (mem_insert_of_mem he hf f.2) hnew

/-- Entries that are set stay as they are if no later one has the same key. -/
theorem mem_update {es new : Entries} (htext : ∀ e ∈ new, ∃ name, e.1 = .str name) (h : Distinct new) :
    ∀ e ∈ new, e ∈ update es new := by
  induction new generalizing es with
  | nil => exact List.forall_mem_nil _
  | cons e new ih =>
    obtain ⟨k, v⟩ := e
    obtain ⟨⟨name, hk⟩, hnew⟩ := List.forall_mem_cons.mp htext
    obtain rfl : k = .str name := hk
    obtain ⟨hfirst, hdistinct⟩ := distinct_cons.mp h
    have hstep : update es ((.str name, v) :: new) = update (insert es (.str name) v) new := rfl
    rw [hstep]
    exact List.forall_mem_cons.mpr ⟨mem_update_of_mem (mem_insert_str es name v) hfirst, ih hnew hdistinct⟩

/-! ### what is found in a mapping -/

theorem mem_of_get? {es : Entries} {k : Key} {v : Value} (h : get? es k = some v) : ∃ e ∈ es, e.2 = v := by
  obtain ⟨e, he, rfl⟩ := Option.map_eq_some_iff.mp h
  exact ⟨e, List.mem_of_find?_eq_some he, rfl⟩

theorem lookup?_insert_of_ne {other name : String} (h : other ≠ name) (es : Entries) (v : Value) :
    lookup? (insert es (.str other) v) name = lookup? es name := by
  have hkey : Key.str other ≠ .str name := fun hsame => h (by injection hsame with hs; injection hs)
  induction es with
  | nil => rw [insert, lookup?_cons, if_neg hkey]
  | cons e es ih =>
    obtain ⟨l, w⟩ := e
    rw [insert, Key.same_str]
    by_cases hl : l = .str other
    · rw [if_pos (decide_eq_true hl), hl, lookup?_cons, lookup?_cons, if_neg hkey, if_neg hkey]
    · rw [if_neg (by simpa using hl), lookup?_cons, lookup?_cons, ih]

/-- Under a text stands the last entry that is set for it, or else what stood there before. -/
theorem lookup?_update {es new : Entries} (htext : ∀ e ∈ new, ∃ name, e.1 = .str name) (name : String) :
    lookup? (update es new) name = ((new.reverse.find? fun e => e.1 = .str name).map Prod.snd).or (lookup? es name) := by
  induction new generalizing es with
  | nil => rfl
  | cons e new ih =>
    obtain ⟨k, v⟩ := e
    obtain ⟨⟨other, hk⟩, hnew⟩ := List.forall_mem_cons.mp htext
    obtain rfl : k = .str other := hk
    have hstep : update es ((.str other, v) :: new) = update (insert es (.str other) v) new := rfl
    rw [hstep, ih hnew, List.reverse_cons, List.find?_append]
    cases hlast : new.reverse.find? fun e => e.1 = .str name with
    | some e => rfl
    | none =>
      by_cases hname : other = name
      · rw [hname, lookup?_insert_str]
        simp
      · rw [lookup?_insert_of_ne hname]
        simp [hname]

/-- What stands under a text is the first entry for it. -/
theorem lookup?_eq_some_iff {es : Entries} {name : String} {v : Value} :
    lookup? es name = some v ↔
      ∃ before after, es = before ++ (.str name, v) :: after ∧ ∀ f ∈ before, f.1 ≠ .str name := by
  have hsame : ∀ f : Key × Value, f.1.same (.str name) = true ↔ f.1 = .str name := by
    intro f
    rw [Key.same_str, decide_eq_true_iff]
  constructor
  · intro h
    obtain ⟨⟨k, u⟩, hfind, rfl⟩ := Option.map_eq_some_iff.mp h
    obtain ⟨hk, before, after, rfl, hbefore⟩ := List.find?_eq_some_iff_append.mp hfind
    obtain rfl : k = .str name := (hsame _).mp hk
    refine ⟨before, after, rfl, fun f hf heq => ?_⟩
    have hother := hbefore f hf
    rw [(hsame f).mpr heq] at hother
    cases hother
  · rintro ⟨before, after, rfl, hbefore⟩
    refine Option.map_eq_some_iff.mpr ⟨(.str name, v), ?_, rfl⟩
    refine List.find?_eq_some_iff_append.mpr ⟨(hsame _).mpr rfl, before, after, rfl, fun f hf => ?_⟩
    rw [Bool.not_eq_true', Bool.eq_false_iff]
    exact mt (hsame f).mp (hbefore f hf)

/-- With distinct keys it is the only one. -/
theorem Distinct.lookup?_eq_some_iff {es : Entries} (h : Distinct es) {name : String} {v : Value} :
    lookup? es name = some v ↔ (.str name, v) ∈ es := by
  rw [Entries.lookup?_eq_some_iff]
  constructor
  · rintro ⟨before, after, rfl, _⟩
    exact List.mem_append_right before List.mem_cons_self
  · intro hv
    obtain ⟨before, after, rfl⟩ := List.append_of_mem hv
    refine ⟨before, after, rfl, fun f hf hname => ?_⟩
    have hother := (List.pairwise_append.mp h).2.2 f hf _ List.mem_cons_self
    rw [Key.same_str, decide_eq_false_iff_not] at hother
    exact hother hname

/-- In another order the same stands under a text. -/
theorem lookup?_of_perm {es ws : Entries} (h : Distinct es) (hperm : es.Perm ws) (name : String) :
    lookup? ws name = lookup? es name := by
  apply Option.ext
  intro v
  rw [h.lookup?_eq_some_iff, (h.perm hperm).lookup?_eq_some_iff]
  exact hperm.mem_iff.symm

theorem lookup?_eq_none {es : Entries} {name : String} (h : ∀ e ∈ es, e.1 ≠ .str name) : lookup? es name = none := by
  rw [lookup?, get?, Option.map_eq_none_iff, List.find?_eq_none]
  intro e he
  rw [Key.same_str, decide_eq_true_iff]
  exact h e he

end Entries

end LinkedData
