import LinkedData.Proofs.Json.Encode
import LinkedData.Proofs.Resolver.Basic

/-!
# What resolution yields

* `Resolver.resolve_induct`: induction over a resolution that succeeds, through the tree and through the values of
  lookups;
* `Resolver.resolve_isJson`: the result is a value of JSON, whatever the page data and the filters hold;
* `SameShape`: the result has the lists, mappings and numbers of the tree, with anything in place of its texts and
  dates;
* `Resolver.resolve_encodable`: a result is of this form and can be encoded.
-/

namespace LinkedData

/-! ### induction -/

section Induction

variable {ctx : PageContext} {P : Value → Value → Prop}
  (leaf : ∀ s w, s.ref? = none → resolveLeaf ctx s = .ok w → P (.scalar s) w)
  (list : ∀ items ws, List.Forall₂ P items ws → P (.list items) (.list ws))
  (tuple : ∀ items ws, List.Forall₂ P items ws → P (.tuple items) (.list ws))
  (map : ∀ es ws : Entries, List.Forall₂ (fun e f => e.1.isText = true ∧ f.1 = e.1 ∧ P e.2 f.2) es ws →
    P (.map es) (.map (Entries.ofList ws)))
include leaf list tuple map

theorem resolveTree_induct {follow : DataRef → Except Failure Value}
    (ref : ∀ s ref w, s.ref? = some ref → follow ref = .ok w → P (.scalar s) w) :
    ∀ v w, resolveTree follow ctx v = .ok w → P v w := by
  intro v
  induction v using Value.induct with
  | scalar s =>
    intro w hw
    rw [resolveTree] at hw
    cases hs : s.ref? with
    | none =>
      rw [resolveScalar_leaf hs] at hw
      exact leaf s w hs hw
    | some target =>
      rw [resolveScalar_ref hs] at hw
      exact ref s target w hs hw
  | set members =>
    intro w hw
    rw [resolveTree] at hw
    cases hw
  | list items ih =>
    intro w hw
    rw [resolveTree, map_eq_ok] at hw
    obtain ⟨ws, hws, rfl⟩ := hw
    exact list items ws (forall₂_imp_mem (resolveTreeL_eq_ok.mp hws) ih)
  | tuple items ih =>
    intro w hw
    rw [resolveTree, map_eq_ok] at hw
    obtain ⟨ws, hws, rfl⟩ := hw
    exact tuple items ws (forall₂_imp_mem (resolveTreeL_eq_ok.mp hws) ih)
  | map es ih =>
    intro w hw
    rw [resolveTree, map_eq_ok] at hw
    obtain ⟨ws, hws, rfl⟩ := hw
    have hentries := forall₂_imp_mem (resolveTreeE_eq_ok.mp hws) fun e he f hf =>
      And.intro hf.1 (And.intro hf.2.1 (ih e he f.2 hf.2.2))
    exact map es ws hentries

variable {r : Resolver}
  (lookup : ∀ s ref v w, s.ref? = some ref → r.fetch ctx ref = .ok v → P v w → P (.scalar s) w)
include lookup

/-- The value of a lookup satisfies what its leaf has to satisfy. The induction is on what is left of the limit. -/
theorem Resolver.follow_induct (left : Nat) : ∀ chain s ref w, s.ref? = some ref →
    r.follow ctx left chain ref = .ok w → P (.scalar s) w := by
  induction left with
  | zero =>
    intro chain s ref w _ hw
    cases hw
  | succ left ih =>
    intro chain s ref w hs hw
    obtain ⟨_, v, hv, hw⟩ := follow_succ_eq_ok.mp hw
    exact lookup s ref v w hs hv (resolveTree_induct leaf list tuple map (ih (chain ++ [ref])) v w hw)

/-- What holds of every tree and its result holds of the tree of every lookup, too. -/
theorem Resolver.resolve_induct {v w : Value} (h : r.resolve ctx v = .ok w) : P v w :=
  resolveTree_induct leaf list tuple map (follow_induct leaf list tuple map lookup r.maxDepth []) v w h

end Induction

/-! ### leaves -/

/-- A leaf that resolution puts something in place of. -/
def Scalar.isReplaced : Scalar → Bool
  | .str _ | .date _ | .datetime _ => true
  | _ => false

namespace Resolver

variable {r : Resolver} {ctx : PageContext} {v w : Value}

/-- A leaf that is no lookup resolves to a leaf that JSON has, and to itself unless it is a text or a date. -/
theorem resolveLeaf_ok {s : Scalar} (h : resolveLeaf ctx s = .ok w) :
    ∃ t : Scalar, w = .scalar t ∧ t.isJson = true ∧ (s.isReplaced = true ∨ t = s) := by
  cases s with
  | str _ => exact ⟨_, (Except.ok.inj h).symm, rfl, Or.inl rfl⟩
  | null | bool _ | int _ => exact ⟨_, (Except.ok.inj h).symm, rfl, Or.inr rfl⟩
  | float x =>
    rw [resolveLeaf] at h
    split at h
    · next hx => exact ⟨_, (Except.ok.inj h).symm, hx, Or.inr rfl⟩
    · cases h
  | date _ | datetime _ =>
    obtain ⟨cs, _, rfl⟩ := resolveMoment_eq_ok.mp h
    exact ⟨_, rfl, rfl, Or.inl rfl⟩
  | bytes _ | time _ | decimal _ => cases h

/-- Only null resolves to null without a lookup. -/
theorem null_of_resolveLeaf {s : Scalar} (h : resolveLeaf ctx s = .ok .null) : s = .null := by
  obtain ⟨t, ht, _, hreplaced | rfl⟩ := resolveLeaf_ok h
  · cases s with
    | str _ => cases h
    | date _ | datetime _ =>
      obtain ⟨cs, _, htext⟩ := resolveMoment_eq_ok.mp h
      cases htext
    | null | bool _ | int _ | float _ | bytes _ | time _ | decimal _ => cases hreplaced
  · exact (Value.scalar.inj ht).symm

/-! ### values of JSON -/

theorem isJson_of_resolveLeaf {s : Scalar} (h : resolveLeaf ctx s = .ok w) : w.IsJson := by
  obtain ⟨t, rfl, hjson, _⟩ := resolveLeaf_ok h
  exact Value.forall_parts_scalar.mpr ⟨hjson, rfl⟩

theorem isJson_list {items : List Value} (h : ∀ v ∈ items, v.IsJson) : (Value.list items).IsJson :=
  Value.forall_parts_list.mpr ⟨⟨trivial, rfl⟩, h⟩

/-- Entries that are set one after the other make up an object. -/
theorem isJson_ofList {es : Entries} (h : ∀ e ∈ es, e.1.isText = true ∧ e.2.IsJson) :
    (Value.map (Entries.ofList es)).IsJson := by
  have hall : ∀ e ∈ Entries.ofList es, e.1.isText = true ∧ e.2.IsJson :=
    Entries.forall_ofList (P := fun k => k.isText = true) (Q := Value.IsJson) h
  have hform : (Value.map (Entries.ofList es)).HasForm :=
    ⟨Entries.distinct_ofList es, fun e he => (hall e he).1⟩
  exact Value.forall_parts_map.mpr ⟨⟨hform, rfl⟩, fun e he => (hall e he).2⟩

/-- A result is a value of JSON. -/
theorem resolve_isJson (h : r.resolve ctx v = .ok w) : w.IsJson := by
  have items_isJson : ∀ vs ws : List Value, List.Forall₂ (fun _ w => w.IsJson) vs ws → (Value.list ws).IsJson := by
    intro vs ws hws
    refine isJson_list fun w hw => ?_
    obtain ⟨_, _, hjson⟩ := exists_left_of_mem hws hw
    exact hjson
  refine resolve_induct (P := fun _ w => w.IsJson) (fun s w _ hw => isJson_of_resolveLeaf hw)
    items_isJson items_isJson (fun es ws hws => isJson_ofList fun f hf => ?_) (fun _ _ _ _ _ _ hw => hw) h
  obtain ⟨e, _, htext, hkey, hjson⟩ := exists_left_of_mem hws hf
  exact ⟨hkey ▸ htext, hjson⟩

end Resolver

/-! ### shapes -/

/-- The second value has the lists and mappings of the first, the latter with the same keys in the same order, and the
same leaves but for texts and dates, in place of which anything may stand. -/
inductive SameShape : Value → Value → Prop
  | replaced {s : Scalar} {w : Value} : s.isReplaced = true → SameShape (.scalar s) w
  | kept (s : Scalar) : SameShape (.scalar s) (.scalar s)
  | list {vs ws : List Value} : List.Forall₂ SameShape vs ws → SameShape (.list vs) (.list ws)
  | tuple {vs ws : List Value} : List.Forall₂ SameShape vs ws → SameShape (.tuple vs) (.list ws)
  | map {es ws : Entries} : es.map Prod.fst = ws.map Prod.fst →
      List.Forall₂ (fun e f => SameShape e.2 f.2) es ws → SameShape (.map es) (.map ws)

namespace Resolver

variable {r : Resolver} {ctx : PageContext} {v w : Value}

theorem sameShape_of_resolveLeaf {s : Scalar} (h : resolveLeaf ctx s = .ok w) : SameShape (.scalar s) w := by
  obtain ⟨t, rfl, _, hreplaced | rfl⟩ := resolveLeaf_ok h
  · exact SameShape.replaced hreplaced
  · exact SameShape.kept t

theorem isReplaced_of_ref? {s : Scalar} {ref : DataRef} (h : s.ref? = some ref) : s.isReplaced = true := by
  cases s with
  | str _ => rfl
  | _ => cases h

/-- A result has the shape of the tree. -/
theorem resolve_sameShape (hv : v.KeysDistinct) (h : r.resolve ctx v = .ok w) : SameShape v w := by
  have shapes : ∀ vs ws : List Value, (∀ v ∈ vs, v.KeysDistinct) →
      List.Forall₂ (fun v w => v.KeysDistinct → SameShape v w) vs ws → List.Forall₂ SameShape vs ws := by
    intro vs ws hvs hws
    exact forall₂_imp_mem hws fun v hv w hshape => hshape (hvs v hv)
  refine resolve_induct (P := fun v w => v.KeysDistinct → SameShape v w)
    (fun s w _ hw _ => sameShape_of_resolveLeaf hw) (fun vs ws hws hvs => ?_) (fun vs ws hws hvs => ?_)
    (fun es ws hws hes => ?_) (fun s ref _ _ hs _ _ _ => SameShape.replaced (isReplaced_of_ref? hs)) h hv
  · exact SameShape.list (shapes vs ws (Value.forall_parts_list.mp hvs).2 hws)
  · exact SameShape.tuple (shapes vs ws (Value.forall_parts_tuple.mp hvs).2 hws)
  · obtain ⟨hdistinct, hes⟩ := Value.forall_parts_map.mp hes
    have hkeys := keys_eq (hws.imp fun e f h => h.2.1)
    rw [Entries.ofList_of_distinct ((Entries.distinct_congr hkeys).mp hdistinct)]
    exact SameShape.map hkeys (forall₂_imp_mem hws fun e he f hf => hf.2.2 (hes e he))

/-- **A result is JSON of the shape of the tree.** What resolution yields is null, truth values, integers, finite
numbers, texts, lists and mappings whose keys are texts and distinct. It can be encoded, unless it holds an integer with
more digits than are written. Where the tree has a mapping, it has one with the same keys in the same order, where the
tree has a list or tuple, a list of the same length, and it keeps all leaves but texts and dates. -/
theorem resolve_encodable (r : Resolver) (ctx : PageContext) (v w : Value) (h : r.resolve ctx v = .ok w) :
    w.IsJson ∧
    (if w.isWritable then ∃ text, Json.serialize w = .ok text else Json.serialize w = .error .overlongInteger) ∧
    (v.KeysDistinct → SameShape v w) :=
  have hw := resolve_isJson h
  ⟨hw, Json.writesIf_iff.mp (Json.serialize_writesIf hw.isEncodable), fun hv => resolve_sameShape hv h⟩

/-- A page with a date, a duration and a text that is itself a lookup. -/
def examplePage : PageContext :=
  ⟨"/posts/first/",
    [(.str "title", .str "First"), (.str "date", .scalar (.date ⟨2024, 1, 1, by decide⟩)),
     (.str "reading", .map [(.str "minutes", .int 5)]), (.str "headline", .str "lume-data:title")],
    exampleSite.url⟩

/-- A tree with a lookup of each of them. -/
def exampleReview : Value :=
  .map [(.str "headline", .str "lume-data:headline"), (.str "dates", .tuple [.str "lume-data:date", .null]),
    (.str "timeRequired", .str "lume-data:reading.minutes | iso8601minutes")]

theorem examplePage_encodable :
    ∃ w, Resolver.standard.resolve examplePage exampleReview = .ok w ∧ w.IsJson ∧
      (∃ text, Json.serialize w = .ok text) ∧ SameShape exampleReview w := by
  have h : Resolver.standard.resolve examplePage exampleReview =
      .ok (.map [(.str "headline", .str "First"),
        (.str "dates", .list [.str "2024-01-01T00:00:00.000Z", .null]), (.str "timeRequired", .str "PT5M")]) := by
    decide +kernel
  obtain ⟨hjson, hwrites, hshape⟩ := resolve_encodable .standard examplePage _ _ h
  exact ⟨_, h, hjson, hwrites, hshape (by decide +kernel)⟩

theorem resolve_int (r : Resolver) (ctx : PageContext) (n : Int) : r.resolve ctx (.int n) = .ok (.int n) := by
  rw [resolve, resolveWithin, resolveTree, resolveScalar_leaf rfl, resolveLeaf]

/-- An integer with too many digits is resolved and can not be encoded. -/
theorem leastOverlong_unencoded :
    Resolver.standard.resolve examplePage (.int leastOverlong) = .ok (.int leastOverlong) ∧
      ¬ ∃ text, Json.serialize (.int leastOverlong) = .ok text := by
  refine ⟨resolve_int .standard examplePage leastOverlong, Json.not_serialized ?_ ?_⟩
  · exact Value.forall_parts_scalar.mpr rfl
  · rw [Value.isWritable, Scalar.isWritable, leastOverlong_not_writable]

end Resolver

end LinkedData
