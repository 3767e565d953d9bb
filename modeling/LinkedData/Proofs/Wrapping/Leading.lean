import LinkedData.Proofs.Page.Resolution

/-!
# The leading context

A tree with a context has one `@context` in each of its objects, before all other keys. The value is that of the author,
if there is one, and so a context that is attached once more changes nothing.

* `attachContext_eq`: the entries of an object with a context, and their order;
* `attachContext_again`: a second context changes nothing;
* `wrap_again`: the same for a tree;
* `wrap_items_eq_ok`: a list is wrapped item by item;
* `wrap_leads`: what wrapping does to a tree, and that a resolved page can be wrapped with every context.
-/

namespace LinkedData

/-! ### one object -/

/-- The entries of an object that are no context, in their order. -/
def Entries.withoutContext (es : Entries) : Entries := es.filter fun e => e.1 ≠ contextKey

section Object

variable {es acc : Entries} {k : Key}

theorem Entries.withoutContext_cons_self (v : Value) (es : Entries) :
    withoutContext ((contextKey, v) :: es) = es.withoutContext :=
  List.filter_cons_of_neg (by simp)

theorem Entries.withoutContext_cons_of_ne (hk : k ≠ contextKey) (v : Value) (es : Entries) :
    withoutContext ((k, v) :: es) = (k, v) :: es.withoutContext :=
  List.filter_cons_of_pos (by simpa using hk)

theorem Entries.withoutContext_again (es : Entries) : es.withoutContext.withoutContext = es.withoutContext := by
  rw [withoutContext, withoutContext, List.filter_filter]
  simp only [Bool.and_self]

/-- Entries that are set behind a leading context: one of them with the same key gives it another value, the others
follow. -/
theorem update_leading {u : Value} (hacc : ∀ e ∈ acc, e.1 ≠ contextKey) (h : Entries.Distinct (acc ++ es)) :
    Entries.update ((contextKey, u) :: acc) es =
      (contextKey, (Entries.lookup? es "@context").getD u) :: (acc ++ es.withoutContext) := by
  induction es generalizing acc u with
  | nil => exact congrArg _ (List.append_nil acc).symm
  | cons e es ih =>
    obtain ⟨k, v⟩ := e
    obtain ⟨hdistinct, hes, hcross⟩ := List.pairwise_append.mp h
    obtain ⟨hfirst, hrest⟩ := Entries.distinct_cons.mp hes
    have hstep : Entries.update ((contextKey, u) :: acc) ((k, v) :: es) =
        Entries.update (Entries.insert ((contextKey, u) :: acc) k v) es := rfl
    rw [hstep, Entries.insert, Key.same_comm, contextKey, Key.same_str, Entries.lookup?_cons]
    by_cases hk : k = .str "@context"
    · -- the keys are distinct, so that no later entry is the author's context again
      have hnone : Entries.lookup? es "@context" = none := by
        refine Entries.lookup?_eq_none fun e he hkey => ?_
        have hother := hfirst e he
        rw [hk, hkey, Key.same_str, decide_eq_false_iff_not] at hother
        exact hother rfl
      have hremaining : Entries.Distinct (acc ++ es) :=
        List.pairwise_append.mpr ⟨hdistinct, hrest, fun a ha b hb => hcross a ha b (List.mem_cons_of_mem _ hb)⟩
      rw [if_pos (decide_eq_true hk), if_pos hk, hk, ← contextKey, ih hacc hremaining, hnone,
        Entries.withoutContext_cons_self]
      rfl
    · have hnew : ∀ e ∈ acc, e.1.same k = false := fun e he => hcross e he (k, v) List.mem_cons_self
      rw [if_neg (by simpa using hk), if_neg hk, Entries.insert_of_new hnew, ← contextKey, ih ?_ ?_,
        Entries.withoutContext_cons_of_ne hk, List.append_assoc, List.singleton_append]
      · exact List.forall_mem_append.mpr ⟨hacc, List.forall_mem_singleton.mpr hk⟩
      · rwa [List.append_assoc, List.singleton_append]

/-- An object with a context: the context leads, with the author's value if there is one, and all else follows. -/
theorem attachContext_eq (h : es.Distinct) (context : String) :
    attachContext context es =
      (contextKey, (Entries.lookup? es "@context").getD (.str context)) :: es.withoutContext :=
  update_leading (List.forall_mem_nil _) h

theorem attachContext_again (h : es.Distinct) (context other : String) :
    attachContext other (attachContext context es) = attachContext context es := by
  have hdistinct : (attachContext context es).Distinct :=
    Entries.Distinct.update (Entries.distinct_cons.mpr ⟨List.forall_mem_nil _, Entries.distinct_nil⟩) es
  have hkey : contextKey = .str "@context" := rfl
  rw [attachContext_eq hdistinct, attachContext_eq h, Entries.lookup?_cons, if_pos hkey, Option.getD_some,
    Entries.withoutContext_cons_self, Entries.withoutContext_again]

end Object

/-! ### trees -/

section Trees

variable {context : String} {v w : Value}

theorem wrapObject_eq_ok_iff : wrapObject context v = .ok w ↔ v.IsObject ∧ wrap context v = .ok w := by
  cases v with
  | map es => exact (and_iff_right ⟨es, rfl⟩).symm
  | scalar _ | set _ | list _ | tuple _ =>
    constructor
    · intro h
      cases h
    · rintro ⟨⟨_, h⟩, _⟩
      cases h

theorem wrap_eq_ok_iff_isWrappable : (∃ w, wrap context v = .ok w) ↔ v.IsWrappable :=
  wrap_eq_ok_iff_nonObject?.trans Value.nonObject?_eq_none_iff

/-- The items of a list or tuple. -/
def Value.items? : Value → Option (List Value)
  | .list items | .tuple items => some items
  | _ => none

/-- A list or tuple is wrapped item by item, and each item is an object. -/
theorem wrap_items_eq_ok {items : List Value} (hitems : v.items? = some items) : wrap context v = .ok w ↔
    ∃ ws, w = .list ws ∧ List.Forall₂ (fun u w => u.IsObject ∧ wrap context u = .ok w) items ws := by
  have hwrap : wrap context v = (wrapObjects context items).map .list := by
    cases v with
    | list _ | tuple _ => cases hitems; rfl
    | scalar _ | set _ | map _ => cases hitems
  simp only [hwrap, map_eq_ok, wrapObjects_eq_ok, wrapObject_eq_ok_iff]
  exact exists_congr fun ws => ⟨fun ⟨h, hw⟩ => ⟨hw.symm, h⟩, fun ⟨hw, h⟩ => ⟨h, hw.symm⟩⟩

theorem wrapObject_again (hv : v.KeysDistinct) (h : wrapObject context v = .ok w) (other : String) :
    wrapObject other w = .ok w := by
  obtain ⟨es, rfl, rfl⟩ := wrapObject_eq_ok.mp h
  rw [wrapObject, attachContext_again hv.distinct]

theorem wrapObjects_again {items ws : List Value} (hitems : ∀ v ∈ items, v.KeysDistinct)
    (h : wrapObjects context items = .ok ws) (other : String) : wrapObjects other ws = .ok ws := by
  refine wrapObjects_eq_ok.mpr (List.forall₂_same.mpr fun w hw => ?_)
  obtain ⟨v, hv, hwrap⟩ := exists_left_of_mem (wrapObjects_eq_ok.mp h) hw
  exact wrapObject_again (hitems v hv) hwrap other

/-- A tree with a context stays as it is with another one. -/
theorem wrap_again (hv : v.KeysDistinct) (h : wrap context v = .ok w) (other : String) : wrap other w = .ok w := by
  cases v with
  | map es =>
    obtain rfl := Except.ok.inj h
    exact wrapObject_again hv rfl other
  | list items =>
    obtain ⟨ws, hws, rfl⟩ := map_eq_ok.mp h
    exact map_eq_ok.mpr ⟨ws, wrapObjects_again (Value.forall_parts_list.mp hv).2 hws other, rfl⟩
  | tuple items =>
    obtain ⟨ws, hws, rfl⟩ := map_eq_ok.mp h
    exact map_eq_ok.mpr ⟨ws, wrapObjects_again (Value.forall_parts_tuple.mp hv).2 hws other, rfl⟩
  | scalar _ | set _ => cases h

end Trees

/-- **A context leads.** Whether a tree can be wrapped does not depend on the context. An object gets one `@context`
before its other entries, with the author's value if there is one, be it null; a list is wrapped item by item; and what
is wrapped stays as it is with another context. So the tree of a resolved page can be wrapped with every context. -/
theorem wrap_leads (v : Value) (hv : v.KeysDistinct) :
    (∀ context, (∃ w, wrap context v = .ok w) ↔ v.IsWrappable) ∧
      (∀ context (es : Entries), v = .map es → wrap context v =
        .ok (.map ((contextKey, (Entries.lookup? es "@context").getD (.str context)) :: es.withoutContext))) ∧
      (∀ context items w, v.items? = some items → (wrap context v = .ok w ↔
        ∃ ws, w = .list ws ∧ List.Forall₂ (fun u w => u.IsObject ∧ wrap context u = .ok w) items ws)) ∧
      (∀ context other w, wrap context v = .ok w → wrap other w = .ok w) ∧
      ∀ (r : Resolver) (normalize : UrlNormalizer) (p p' : Page) (answer : Bool), p.resolve r normalize = (.ok answer, p') →
        ∀ tree, p'.declared? = some tree → ∀ context, ∃ w, wrap context tree = .ok w := by
  refine ⟨fun context => wrap_eq_ok_iff_isWrappable, ?_, fun context items w => wrap_items_eq_ok,
    fun context other w h => wrap_again hv h other, ?_⟩
  · rintro context es rfl
    have hmap : wrap context (.map es) = .ok (.map (attachContext context es)) := rfl
    rw [hmap, attachContext_eq hv.distinct]
  · intro r normalize p p' answer h tree htree context
    have hresolved := (Page.resolve_isResolved h).1 tree htree
    exact wrap_eq_ok_iff_isWrappable.mpr hresolved.2

/-- Objects of which one has a null context behind another key, one has none, and one has its own in front. -/
def credits : Value :=
  .list [.map [(.str "name", .str "A"), (.str "@context", .null)], .map [(.str "name", .str "B")],
    .map [(.str "@context", .str "https://example.com/terms"), (.str "name", .str "C")]]

/-- The same with a context. -/
def wrappedCredits : Value :=
  .list [.map [(contextKey, .null), (.str "name", .str "A")],
    .map [(contextKey, .str "https://schema.org"), (.str "name", .str "B")],
    .map [(contextKey, .str "https://example.com/terms"), (.str "name", .str "C")]]

/-- A page that declares them. -/
def creditsPage : Page := ⟨"/", [(.str declaredKey, credits)], none⟩

theorem credits_lead : credits.KeysDistinct ∧ wrap standardContext credits = .ok wrappedCredits ∧
    (∀ other, wrap other wrappedCredits = .ok wrappedCredits) ∧
    creditsPage.resolve .standard exampleSite.url = (.ok true, creditsPage) ∧
    ∀ context, ∃ w, wrap context credits = .ok w := by
  have hdistinct : credits.KeysDistinct := by decide +kernel
  have hwrap : wrap standardContext credits = .ok wrappedCredits := by decide +kernel
  have hresolve : creditsPage.resolve .standard exampleSite.url = (.ok true, creditsPage) := by
    decide +kernel
  obtain ⟨_, _, _, hagain, hpage⟩ := wrap_leads credits hdistinct
  exact ⟨hdistinct, hwrap, fun other => hagain _ other _ hwrap, hresolve,
    hpage _ _ _ _ _ hresolve credits (by decide +kernel)⟩

end LinkedData
