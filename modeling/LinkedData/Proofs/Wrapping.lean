import LinkedData.Proofs.Json.Obstacle
import LinkedData.Wrapping

/-!
# What a context leaves as it is

* `Value.IsWrappable`: an object, or a list or tuple of objects, which are what a context is attached to;
* `Value.nonObject?` and `wrap_failsBy`: what is no object where one has to be is the only thing in the way;
* `attachContext_isEncodable`: what can be encoded still can be with a context, and no integer is lost or added;
* `wrapObjects_eq_ok`, `wrapObjects_inStep`: what a list of objects becomes is in step with it;
* `wrap_isEncodable`: the same of all objects of a list; `wrap_isJson`: a value of JSON stays one;
* `wrap_keeps_texts`, `wrap_texts_iff`: the texts of a tree are those of the tree with a context, but for the context
  itself.
-/

namespace LinkedData

/-! ### objects -/

/-- A mapping. -/
def Value.IsObject (v : Value) : Prop := ∃ es, v = .map es

/-- A mapping, or a list or tuple of mappings. -/
def Value.IsWrappable : Value → Prop
  | .map _ => True
  | .list items | .tuple items => ∀ v ∈ items, v.IsObject
  | .scalar _ | .set _ => False

instance : DecidablePred Value.IsObject
  | .map es => isTrue ⟨es, rfl⟩
  | .scalar _ | .set _ | .list _ | .tuple _ => isFalse fun ⟨_, h⟩ => nomatch h

/-- What is no object where a context asks for one: the first such item of a list or tuple, or the value itself. -/
def Value.nonObject? : Value → Option Value
  | .map _ => none
  | .list items | .tuple items => items.find? fun v => ¬ v.IsObject
  | .scalar s => some (.scalar s)
  | .set members => some (.set members)

theorem Value.nonObject?_eq_none_iff {v : Value} : v.nonObject? = none ↔ v.IsWrappable := by
  cases v with
  | map es => exact iff_of_true rfl trivial
  | list items | tuple items =>
    rw [nonObject?, List.find?_eq_none, IsWrappable]
    simp only [decide_eq_true_eq, not_not]
  | scalar _ | set _ => exact iff_of_false (fun h => nomatch h) id

theorem wrapObject_of_not_isObject {v : Value} (context : String) (h : ¬ v.IsObject) :
    wrapObject context v = .error (.ofFault (.unsupported v)) := by
  cases v with
  | map es => exact absurd ⟨es, rfl⟩ h
  | scalar _ | set _ | list _ | tuple _ => rfl

theorem wrapObjects_failsBy (context : String) (items : List Value) :
    FailsBy (fun e => ∃ x, items.find? (fun v => ¬ v.IsObject) = some x ∧ e = .ofFault (.unsupported x))
      (wrapObjects context items) := by
  induction items with
  | nil => exact FailsBy.ok _ fun e ⟨_, hfind, _⟩ => nomatch hfind
  | cons v items ih =>
    by_cases hv : v.IsObject
    · rw [List.find?_cons_of_neg (by simpa using hv)]
      obtain ⟨es, rfl⟩ := hv
      exact ih.map (Value.map (attachContext context es) :: ·)
    · rw [List.find?_cons_of_pos (by simpa using hv), wrapObjects, wrapObject_of_not_isObject context hv]
      exact FailsBy.error _ ⟨v, rfl, rfl⟩

/-- A context is attached to all trees but those with something that is no object in its way. -/
theorem wrap_failsBy (context : String) (v : Value) :
    FailsBy (fun e => ∃ x, v.nonObject? = some x ∧ e = .ofFault (.unsupported x)) (wrap context v) := by
  cases v with
  | map es => exact FailsBy.ok _ fun e ⟨_, hnone, _⟩ => nomatch hnone
  | list items | tuple items => exact (wrapObjects_failsBy context items).map Value.list
  | scalar s => exact FailsBy.error _ ⟨_, rfl, rfl⟩
  | set members => exact FailsBy.error _ ⟨_, rfl, rfl⟩

/-- A context is attached to a tree, or something is in its way, but not both. -/
theorem wrap_eq_ok_iff_nonObject? {context : String} {v : Value} :
    (∃ w, wrap context v = .ok w) ↔ v.nonObject? = none := by
  rw [(wrap_failsBy context v).ok_iff]
  constructor
  · exact fun h => Option.eq_none_iff_forall_not_mem.mpr fun x hx => h _ ⟨x, hx, rfl⟩
  · rintro h e ⟨x, hx, _⟩
    rw [h] at hx
    cases hx

theorem wrap_eq_error {context : String} {v : Value} {e : Failure} :
    wrap context v = .error e ↔ ∃ x, v.nonObject? = some x ∧ e = .ofFault (.unsupported x) := by
  have hfails := wrap_failsBy context v
  constructor
  · intro h
    rw [h] at hfails
    exact hfails.of_error
  · rintro ⟨x, hx, rfl⟩
    obtain ⟨e', he'⟩ := hfails.error_iff.mpr ⟨_, x, hx, rfl⟩
    rw [he'] at hfails
    obtain ⟨x', hx', rfl⟩ := hfails.of_error
    obtain rfl := Option.some.inj (hx'.symm.trans hx)
    exact he'

/-! ### one object -/

theorem Value.isWritableE_of_texts {es : Entries} (hkeys : ∀ e ∈ es, e.1.isText = true) :
    Value.isWritableE es = true ↔ ∀ e ∈ es, e.2.isWritable = true := by
  rw [Value.isWritableE_iff]
  refine forall₂_congr fun e he => and_iff_right ?_
  obtain ⟨name, hname⟩ := Key.isText_iff.mp (hkeys e he)
  rw [hname]
  rfl

/-- A context leaves an object encodable, and its integers as they are. -/
theorem attachContext_isEncodable {es : Entries} (context : String) (h : (Value.map es).IsEncodable) :
    (Value.map (attachContext context es)).IsEncodable ∧
      (Value.map (attachContext context es)).isWritable = (Value.map es).isWritable := by
  obtain ⟨⟨hdistinct, hkeys⟩, hes⟩ := Value.forall_parts_map.mp h
  have hcontext : Entries.Distinct [(contextKey, .str context)] :=
    Entries.distinct_cons.mpr ⟨List.forall_mem_nil _, Entries.distinct_nil⟩
  have hall : ∀ e ∈ attachContext context es, e.1.isText = true ∧ (e.2 = .str context ∨ ∃ f ∈ es, f.2 = e.2) := by
    refine Entries.forall_update (P := fun k => k.isText = true)
      (Q := fun v => v = .str context ∨ ∃ f ∈ es, f.2 = v) (List.forall_mem_cons.mpr ⟨?_, List.forall_mem_nil _⟩) ?_
    · exact ⟨rfl, Or.inl rfl⟩
    · exact fun e he => ⟨hkeys e he, Or.inr ⟨e, he, rfl⟩⟩
  have hstays : ∀ e ∈ es, e ∈ attachContext context es :=
    Entries.mem_update (fun e he => Key.isText_iff.mp (hkeys e he)) hdistinct
  refine ⟨Value.forall_parts_map.mpr ⟨⟨hcontext.update es, fun e he => (hall e he).1⟩, fun e he => ?_⟩, ?_⟩
  · rcases (hall e he).2 with hval | ⟨f, hf, hval⟩
    · rw [hval]
      exact Value.forall_parts_scalar.mpr rfl
    · exact hval ▸ hes f hf
  · rw [Value.isWritable, Value.isWritable, Bool.eq_iff_iff, Value.isWritableE_of_texts hkeys,
      Value.isWritableE_of_texts fun e he => (hall e he).1]
    constructor
    · exact fun h e he => h e (hstays e he)
    · intro h e he
      rcases (hall e he).2 with hval | ⟨f, hf, hval⟩
      · rw [hval]
        rfl
      · exact hval ▸ h f hf

/-- An object of JSON stays one with a context. -/
theorem attachContext_isJson {es : Entries} (context : String) (h : (Value.map es).IsJson) :
    (Value.map (attachContext context es)).IsJson := by
  have hform := (attachContext_isEncodable context h.isEncodable).1 _ (Value.mem_parts_self _)
  refine Value.forall_parts_map.mpr ⟨⟨hform, rfl⟩, fun e he => ?_⟩
  obtain ⟨⟨⟨_, hkeys⟩, _⟩, hes⟩ := Value.forall_parts_map.mp h
  have hcontext : (Value.str context).IsJson := Value.forall_parts_scalar.mpr ⟨rfl, rfl⟩
  exact (Entries.forall_update (P := fun k => k.isText = true) (Q := Value.IsJson)
    (List.forall_mem_singleton.mpr ⟨rfl, hcontext⟩) (fun e he => ⟨hkeys e he, hes e he⟩) e he).2

/-! ### lists of objects -/

theorem wrapObject_eq_ok {context : String} {v w : Value} :
    wrapObject context v = .ok w ↔ ∃ es, v = .map es ∧ w = .map (attachContext context es) := by
  cases v with
  | map es =>
    constructor
    · exact fun h => ⟨es, rfl, (Except.ok.inj h).symm⟩
    · rintro ⟨es', hes, rfl⟩
      rw [Value.map.inj hes]
      rfl
  | scalar _ | set _ | list _ | tuple _ => exact iff_of_false (fun h => nomatch h) fun ⟨_, h, _⟩ => nomatch h

/-- A context is attached to objects one by one. -/
theorem wrapObjects_eq_ok {context : String} {items ws : List Value} :
    wrapObjects context items = .ok ws ↔ List.Forall₂ (fun v w => wrapObject context v = .ok w) items ws := by
  induction items generalizing ws with
  | nil =>
    rw [List.forall₂_nil_left_iff, wrapObjects, Except.ok.injEq]
    exact eq_comm
  | cons v items ih =>
    simp only [wrapObjects, bind_eq_ok, List.forall₂_cons_left_iff, ih]
    constructor
    · rintro ⟨w, hw, more, hmore, h⟩
      exact ⟨w, more, hw, hmore, (Except.ok.inj h).symm⟩
    · rintro ⟨w, more, hw, hmore, rfl⟩
      exact ⟨w, hw, more, hmore, rfl⟩

/-- What a list becomes with a context is in step with it. -/
theorem wrapObjects_inStep {context : String} {items ws : List Value} (h : wrapObjects context items = .ok ws) :
    List.Forall₂ (fun v w => ∃ es, v = .map es ∧ w = .map (attachContext context es)) items ws :=
  (wrapObjects_eq_ok.mp h).imp fun _ _ => wrapObject_eq_ok.mp

theorem wrapObjects_isEncodable {items : List Value} (context : String) (hobjects : ∀ v ∈ items, v.IsObject)
    (h : ∀ v ∈ items, v.IsEncodable) :
    ∃ ws, wrapObjects context items = .ok ws ∧ (∀ w ∈ ws, w.IsEncodable) ∧
      Value.isWritableL ws = Value.isWritableL items := by
  induction items with
  | nil => exact ⟨[], rfl, List.forall_mem_nil _, rfl⟩
  | cons v items ih =>
    obtain ⟨⟨es, rfl⟩, hmore⟩ := List.forall_mem_cons.mp hobjects
    obtain ⟨hv, hitems⟩ := List.forall_mem_cons.mp h
    obtain ⟨ws, hws, hjson, hwritable⟩ := ih hmore hitems
    obtain ⟨hfirst, hfirstWritable⟩ := attachContext_isEncodable context hv
    refine ⟨.map (attachContext context es) :: ws, ?_, List.forall_mem_cons.mpr ⟨hfirst, hjson⟩, ?_⟩
    · rw [wrapObjects, hws]
      rfl
    · rw [Value.isWritableL, Value.isWritableL, hfirstWritable, hwritable]

theorem wrap_isEncodable {v : Value} (context : String) (hv : v.IsEncodable) (hwrap : v.IsWrappable) :
    ∃ w, wrap context v = .ok w ∧ w.IsEncodable ∧ w.isWritable = v.isWritable := by
  cases v with
  | map es =>
    obtain ⟨hencodable, hwritable⟩ := attachContext_isEncodable context hv
    exact ⟨_, rfl, hencodable, hwritable⟩
  | list items =>
    obtain ⟨_, hitems⟩ := Value.forall_parts_list.mp hv
    obtain ⟨ws, hws, hencodable, hwritable⟩ := wrapObjects_isEncodable context hwrap hitems
    exact ⟨.list ws, map_eq_ok.mpr ⟨ws, hws, rfl⟩, Value.forall_parts_list.mpr ⟨trivial, hencodable⟩, hwritable⟩
  | tuple items =>
    obtain ⟨_, hitems⟩ := Value.forall_parts_tuple.mp hv
    obtain ⟨ws, hws, hencodable, hwritable⟩ := wrapObjects_isEncodable context hwrap hitems
    exact ⟨.list ws, map_eq_ok.mpr ⟨ws, hws, rfl⟩, Value.forall_parts_list.mpr ⟨trivial, hencodable⟩, hwritable⟩
  | scalar s => exact hwrap.elim
  | set members => exact hwrap.elim

theorem wrapObjects_isJson {context : String} {items ws : List Value} (h : ∀ v ∈ items, v.IsJson)
    (hws : wrapObjects context items = .ok ws) : ∀ w ∈ ws, w.IsJson := by
  intro w hw
  obtain ⟨v, hv, es, rfl, rfl⟩ := exists_left_of_mem (wrapObjects_inStep hws) hw
  exact attachContext_isJson context (h _ hv)

/-- A value of JSON stays one with a context. -/
theorem wrap_isJson {context : String} {v w : Value} (hv : v.IsJson) (hw : wrap context v = .ok w) : w.IsJson := by
  cases v with
  | map es =>
    obtain rfl := Except.ok.inj hw
    exact attachContext_isJson context hv
  | list items =>
    obtain ⟨ws, hws, rfl⟩ := map_eq_ok.mp hw
    exact Value.forall_parts_list.mpr ⟨⟨trivial, rfl⟩, wrapObjects_isJson (Value.forall_parts_list.mp hv).2 hws⟩
  | tuple items => exact absurd (hv _ (Value.mem_parts_self _)).2 (by simp [Value.isTuple])
  | scalar _ | set _ => cases hw

/-! ### texts -/

section Texts

variable {context : String} {Q : String → Prop}

/-- All texts of an object are in it with a context, too. -/
theorem attachContext_keeps_texts {es : Entries} (h : (Value.map es).IsEncodable)
    (hall : ∀ x ∈ (Value.map (attachContext context es)).parts, ∀ s ∈ x.texts, Q s) :
    ∀ x ∈ (Value.map es).parts, ∀ s ∈ x.texts, Q s := by
  obtain ⟨⟨hdistinct, hkeys⟩, _⟩ := Value.forall_parts_map.mp h
  rw [Value.forall_texts_map] at hall ⊢
  exact fun e he => hall e (Entries.mem_update (fun e he => Key.isText_iff.mp (hkeys e he)) hdistinct e he)

theorem wrapObjects_keeps_texts {items ws : List Value} (hitems : ∀ v ∈ items, v.IsEncodable)
    (hws : wrapObjects context items = .ok ws) (hall : ∀ w ∈ ws, ∀ x ∈ w.parts, ∀ s ∈ x.texts, Q s) :
    ∀ v ∈ items, ∀ x ∈ v.parts, ∀ s ∈ x.texts, Q s := by
  intro v hv
  obtain ⟨w, hw, es, rfl, rfl⟩ := exists_right_of_mem (wrapObjects_inStep hws) hv
  exact attachContext_keeps_texts (hitems _ hv) (hall _ hw)

theorem attachContext_texts_iff {es : Entries} (h : (Value.map es).IsEncodable) (hkey : Q "@context")
    (hcontext : Q context) :
    (∀ x ∈ (Value.map (attachContext context es)).parts, ∀ s ∈ x.texts, Q s) ↔
      ∀ x ∈ (Value.map es).parts, ∀ s ∈ x.texts, Q s := by
  refine ⟨attachContext_keeps_texts h, fun hall => ?_⟩
  rw [Value.forall_texts_map] at hall ⊢
  refine Entries.forall_update (P := fun k => ∀ s ∈ k.text?, Q s)
    (Q := fun v => ∀ x ∈ v.parts, ∀ s ∈ x.texts, Q s) (List.forall_mem_singleton.mpr ⟨?_, ?_⟩) hall
  · intro s hs
    obtain rfl := Option.mem_some_iff.mp hs
    exact hkey
  · exact Value.forall_parts_scalar.mpr (List.forall_mem_singleton.mpr hcontext)

theorem wrapObjects_texts_iff {items ws : List Value} (hitems : ∀ v ∈ items, v.IsEncodable) (hkey : Q "@context")
    (hcontext : Q context) (hws : wrapObjects context items = .ok ws) :
    (∀ w ∈ ws, ∀ x ∈ w.parts, ∀ s ∈ x.texts, Q s) ↔ ∀ v ∈ items, ∀ x ∈ v.parts, ∀ s ∈ x.texts, Q s := by
  refine ⟨wrapObjects_keeps_texts hitems hws, fun hall w hw => ?_⟩
  obtain ⟨v, hv, es, rfl, rfl⟩ := exists_left_of_mem (wrapObjects_inStep hws) hw
  exact (attachContext_texts_iff (hitems _ hv) hkey hcontext).mpr (hall _ hv)

/-- The texts of a tree with a context are those of the tree, and maybe the context. -/
theorem wrap_texts_iff {v w : Value} (hv : v.IsEncodable) (hkey : Q "@context") (hcontext : Q context)
    (hw : wrap context v = .ok w) :
    (∀ x ∈ w.parts, ∀ s ∈ x.texts, Q s) ↔ ∀ x ∈ v.parts, ∀ s ∈ x.texts, Q s := by
  cases v with
  | map es =>
    obtain rfl := Except.ok.inj hw
    exact attachContext_texts_iff hv hkey hcontext
  | list items =>
    obtain ⟨ws, hws, rfl⟩ := map_eq_ok.mp hw
    rw [Value.forall_parts_list, Value.forall_parts_list,
      wrapObjects_texts_iff (Value.forall_parts_list.mp hv).2 hkey hcontext hws]
    rfl
  | tuple items =>
    obtain ⟨ws, hws, rfl⟩ := map_eq_ok.mp hw
    rw [Value.forall_parts_list, Value.forall_parts_tuple,
      wrapObjects_texts_iff (Value.forall_parts_tuple.mp hv).2 hkey hcontext hws]
    rfl
  | scalar _ | set _ => cases hw

end Texts

end LinkedData
