import LinkedData.Page
import LinkedData.Proofs.Resolver.Failure
import LinkedData.Proofs.Wrapping

/-!
# Resolved pages

* `Page.resolve_eq_ok`: a page is resolved if its tree is and a context can be attached to the result, which takes the
  place of the tree;
* `Page.IsResolved` and `Page.resolve_isResolved`: what a resolved page declares;
* `Page.resolve_failure_named`: which failures of a resolution name the page.
-/

namespace LinkedData.Page

variable {p p' : Page} {r : Resolver} {normalize : UrlNormalizer} {tree v : Value} {e : Failure} {answer : Bool}

/-! ### the declared tree -/

theorem lookup?_of_declared? (h : p.declared? = some v) : Entries.lookup? p.data declaredKey = some v := by
  rw [declared?] at h
  split at h
  · cases h
  · exact h

theorem declared?_set (p : Page) (hv : v ≠ .null) : (p.set declaredKey v).declared? = some v := by
  have hlookup : Entries.lookup? (p.set declaredKey v).data declaredKey = some v :=
    Entries.lookup?_insert_str p.data declaredKey v
  rw [declared?, hlookup]
  split
  · next hnull => exact absurd (Option.some.inj hnull) hv
  · rfl

theorem ne_null_of_isWrappable (h : v.IsWrappable) : v ≠ .null := by
  rintro rfl
  exact h

/-! ### outcomes -/

theorem resolved_eq_ok : p.resolved r normalize tree = .ok v ↔
    r.resolve ⟨p.url, p.data, normalize⟩ tree = .ok v ∧ v.IsWrappable := by
  simp only [resolved, bind_eq_ok]
  constructor
  · rintro ⟨v', hv', w, hw, h⟩
    obtain rfl := Except.ok.inj h
    exact ⟨hv', Value.nonObject?_eq_none_iff.mp (wrap_eq_ok_iff_nonObject?.mp ⟨w, hw⟩)⟩
  · rintro ⟨hv, hwrappable⟩
    obtain ⟨w, hw⟩ := wrap_eq_ok_iff_nonObject?.mpr (Value.nonObject?_eq_none_iff.mpr hwrappable)
    exact ⟨v, hv, w, hw, rfl⟩

/-- A tree is not resolved if its resolution fails or if what it yields is nothing that a context can be attached to. -/
theorem resolved_eq_error : p.resolved r normalize tree = .error e ↔
    r.resolve ⟨p.url, p.data, normalize⟩ tree = .error e ∨
      ∃ v x, r.resolve ⟨p.url, p.data, normalize⟩ tree = .ok v ∧ v.nonObject? = some x ∧ e = .ofFault (.unsupported x) := by
  have hattach : ∀ v : Value, (wrap standardContext v >>= fun _ => (pure v : Except Failure Value)) = .error e ↔
      ∃ x, v.nonObject? = some x ∧ e = .ofFault (.unsupported x) := by
    intro v
    rw [bind_eq_error, ← wrap_eq_error]
    exact or_iff_left fun ⟨_, _, h⟩ => nomatch h
  rw [resolved, bind_eq_error]
  refine or_congr_right (exists_congr fun v => ?_)
  rw [exists_and_left]
  exact and_congr_right fun _ => hattach v

theorem resolve_eq_ok (htree : p.declared? = some tree) : p.resolve r normalize = (.ok answer, p') ↔
    ∃ v, r.resolve ⟨p.url, p.data, normalize⟩ tree = .ok v ∧ v.IsWrappable ∧ answer = true ∧ p.set declaredKey v = p' := by
  rw [resolve, htree]
  cases hresolved : p.resolved r normalize tree with
  | error e =>
    simp only [hresolved]
    refine iff_of_false (fun h => nomatch h) fun ⟨v, hv, hwrappable, _⟩ => ?_
    rw [resolved_eq_ok.mpr ⟨hv, hwrappable⟩] at hresolved
    cases hresolved
  | ok v =>
    obtain ⟨hv, hwrappable⟩ := resolved_eq_ok.mp hresolved
    simp only [hresolved, Prod.mk.injEq, Except.ok.injEq]
    constructor
    · rintro ⟨rfl, rfl⟩
      exact ⟨v, hv, hwrappable, rfl, rfl⟩
    · rintro ⟨v', hv', _, rfl, rfl⟩
      obtain rfl := Except.ok.inj (hv'.symm.trans hv)
      exact ⟨rfl, rfl⟩

/-- A page that is not resolved stays as it is. -/
theorem resolve_eq_error (htree : p.declared? = some tree) : p.resolve r normalize = (.error e, p') ↔
    ∃ e', p.resolved r normalize tree = .error e' ∧ e = e'.onPage p.url ∧ p' = p := by
  rw [resolve, htree]
  cases hresolved : p.resolved r normalize tree with
  | ok v =>
    simp only [hresolved]
    exact iff_of_false (fun h => nomatch h) fun ⟨_, h, _⟩ => nomatch h
  | error e' =>
    simp only [hresolved, Prod.mk.injEq, Except.error.injEq]
    constructor
    · rintro ⟨rfl, rfl⟩
      exact ⟨e', rfl, rfl, rfl⟩
    · rintro ⟨_, rfl, rfl, rfl⟩
      exact ⟨rfl, rfl⟩

/-- What a resolution does to a page: nothing if it fails, else it changes no more than the data. -/
theorem resolve_cases (r : Resolver) (normalize : UrlNormalizer) (p : Page) :
    (∃ e, p.resolve r normalize = (.error e, p)) ∨
      ∃ answer data, p.resolve r normalize = (.ok answer, { p with data := data }) := by
  rw [resolve]
  cases htree : p.declared? with
  | none => exact Or.inr ⟨false, p.data, rfl⟩
  | some tree =>
    cases hresolved : p.resolved r normalize tree with
    | error e =>
      simp only [hresolved]
      exact Or.inl ⟨_, rfl⟩
    | ok v =>
      simp only [hresolved]
      exact Or.inr ⟨true, _, rfl⟩

/-- The answer of a resolution tells whether the page declares a tree. -/
theorem resolve_answer (h : p.resolve r normalize = (.ok answer, p')) : answer = p.declares := by
  cases htree : p.declared? with
  | none =>
    rw [resolve, htree] at h
    rw [declares, htree, Option.isSome_none, Except.ok.inj (Prod.mk.inj h).1]
  | some tree =>
    obtain ⟨_, _, _, rfl, _⟩ := (resolve_eq_ok htree).mp h
    rw [declares, htree, Option.isSome_some]

/-! ### resolved pages -/

/-- A context can be attached to the declared tree, if there is one, and the tree is a value of JSON. -/
def IsResolved (p : Page) : Prop := ∀ tree, p.declared? = some tree → tree.IsJson ∧ tree.IsWrappable

/-- A page is resolved once its resolution succeeds, and it declares a tree if it did so before. -/
theorem resolve_isResolved (h : p.resolve r normalize = (.ok answer, p')) :
    p'.IsResolved ∧ p'.declares = p.declares ∧ p'.document = p.document := by
  cases htree : p.declared? with
  | none =>
    rw [resolve, htree] at h
    obtain ⟨_, rfl⟩ := Prod.mk.inj h
    refine ⟨fun tree hsome => ?_, rfl, rfl⟩
    rw [htree] at hsome
    cases hsome
  | some tree =>
    obtain ⟨v, hv, hwrappable, _, rfl⟩ := (resolve_eq_ok htree).mp h
    have hset : (p.set declaredKey v).declared? = some v := declared?_set p (ne_null_of_isWrappable hwrappable)
    refine ⟨fun tree' htree' => ?_, ?_, rfl⟩
    · obtain rfl := Option.some.inj (hset.symm.trans htree')
      exact ⟨Resolver.resolve_isJson hv, hwrappable⟩
    · rw [declares, declares, hset, htree, Option.isSome_some, Option.isSome_some]

/-! ### which failures name the page -/

theorem declared?_mem_parts (htree : p.declared? = some tree) : tree ∈ (Value.map p.data).parts := by
  obtain ⟨f, hf, rfl⟩ := Entries.mem_of_lookup? (lookup?_of_declared? htree)
  exact Value.mem_parts_of_map hf

theorem nonObject?_mem_parts {x : Value} (h : v.nonObject? = some x) : x ∈ v.parts := by
  cases v with
  | map es => cases h
  | list items => exact Value.mem_parts_of_list (List.mem_of_find?_eq_some h)
  | tuple items => exact Value.mem_parts_of_tuple (List.mem_of_find?_eq_some h)
  | scalar _ | set _ =>
    obtain rfl := Option.some.inj h
    exact Value.mem_parts_self _

/-- With the standard filters, the tree of a page is not resolved for a fault, or for a failure that is none. -/
theorem resolved_eq_error_of_standard (hstandard : r.registry = .standard)
    (h : p.resolved r normalize tree = .error e) :
    (∃ f, e = .fault f) ∨ r.Escapes ⟨p.url, p.data, normalize⟩ tree e := by
  rcases resolved_eq_error.mp h with hresolve | ⟨v, x, hv, hx, rfl⟩
  · exact Resolver.resolve_eq_error hstandard hresolve
  · rcases ofFault_cases (.unsupported x) with hfault | ⟨hbare, hlong⟩
    · exact Or.inl ⟨_, hfault⟩
    · rw [hbare]
      refine Or.inr (Resolver.Escapes.overlongInteger (by_contra fun hboth => ?_))
      rw [not_or, Bool.not_eq_false, Bool.not_eq_false] at hboth
      have hwritable : v.isWritable = true := Resolver.isWritable_of_resolve hstandard hboth.2 hboth.1 hv
      rw [Value.overlong_of_mem_parts (nonObject?_mem_parts hx) hlong] at hwritable
      cases hwritable

/-- **Failures of a resolution.** With the standard filters, whatever the data holds, a page whose resolution fails
declares a tree, and the failure names the page and is a fault of structured data, unless the resolution reaches a time
that lies outside of the years 1 to 9999 in UTC, or a lookup with an index of too many digits, or the limit or an
integer of the data has more digits than are written. -/
theorem resolve_failure_named (hstandard : r.registry = .standard) (h : p.resolve r normalize = (.error e, p')) :
    ∃ tree, p.declared? = some tree ∧
      (e.Names p.url ∨
        (e = .outsideCalendar ∧
          ∃ t, r.Reaches ⟨p.url, p.data, normalize⟩ tree (.datetime t) ∧ t.OutsideCalendar) ∨
        (e = .overlongIndex ∧ ∃ s ref, r.Reaches ⟨p.url, p.data, normalize⟩ tree s ∧ s.ref? = some ref ∧
          ∃ segment ∈ ref.path, isOverlongIndex segment = true) ∨
        (e = .overlongInteger ∧ (isWritable r.maxDepth = false ∨ (Value.map p.data).isWritable = false))) := by
  cases htree : p.declared? with
  | none =>
    rw [resolve, htree] at h
    cases (Prod.mk.inj h).1
  | some tree =>
    obtain ⟨e', he', rfl, _⟩ := (resolve_eq_error htree).mp h
    refine ⟨tree, rfl, ?_⟩
    rcases resolved_eq_error_of_standard hstandard he' with ⟨f, rfl⟩ | hescapes
    · exact Or.inl ⟨f, rfl⟩
    · cases hescapes with
      | @outsideCalendar t hreach houtside => exact Or.inr (Or.inl ⟨rfl, t, hreach, houtside⟩)
      | @overlongIndex s ref segment hreach href hsegment hlong =>
        exact Or.inr (Or.inr (Or.inl ⟨rfl, s, ref, hreach, href, segment, hsegment, hlong⟩))
      | overlongLimit hlimit => exact Or.inr (Or.inr (Or.inr ⟨rfl, Or.inl hlimit⟩))
      | overlongInteger hinteger =>
        refine Or.inr (Or.inr (Or.inr ⟨rfl, Or.inr ?_⟩))
        exact hinteger.elim (Value.overlong_of_mem_parts (declared?_mem_parts htree)) id

/-- A page whose tree has a lookup that leads nowhere. -/
def brokenPage : Page := ⟨"/broken/", [(.str declaredKey, .map [(.str "name", .str "lume-data:title")])], none⟩

theorem brokenPage_failure_named : ∃ e p',
    brokenPage.resolve .standard exampleSite.url = (.error e, p') ∧ e.Names brokenPage.url := by
  have h : brokenPage.resolve .standard exampleSite.url =
      (.error (.page "/broken/" (.notFound ["title"])), brokenPage) := by decide +kernel
  obtain ⟨tree, _, hnamed | ⟨hbare, _⟩ | ⟨hbare, _⟩ | ⟨hbare, _⟩⟩ := resolve_failure_named rfl h
  · exact ⟨_, _, h, hnamed⟩
  · cases hbare
  · cases hbare
  · cases hbare

/-- The beginning of the first day of year 1 an hour east of UTC, where it still is the year before. -/
def earlyMoment : Calendar.DateTime := { Calendar.Date.midnight default with offset := Calendar.Offset.of? 3600 }

/-- A page with this moment. -/
def earlyPage : Page :=
  ⟨"/early/", [(.str declaredKey, .map [(.str "datePublished", .scalar (.datetime earlyMoment))])], none⟩

theorem earlyPage_failure_unnamed : ¬ ∀ e p',
    earlyPage.resolve .standard exampleSite.url = (.error e, p') → e.Names earlyPage.url := by
  intro hall
  have h : earlyPage.resolve .standard exampleSite.url = (.error .outsideCalendar, earlyPage) := by
    decide +kernel
  obtain ⟨f, hf⟩ := hall _ _ h
  cases hf

end LinkedData.Page
