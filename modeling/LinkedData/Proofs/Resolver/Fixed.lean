import LinkedData.Proofs.Lookup
import LinkedData.Proofs.Reference.Spelling
import LinkedData.Proofs.Resolver.Survivors

/-!
# Trees that resolve to themselves

* `Value.holdsReference_iff_scheme`: a value without references is one whose texts have no reserved scheme; keys may;
* `DataRef.ofKey`, `Reference.ofText_key`: how an entry of the page data is looked up by its key;
* `Resolver.resolve_lookup_of_fixed`: a lookup of a value that resolves to itself yields this value;
* `Resolver.plain_trees_are_fixed`: trees without reserved schemes resolve to themselves, also by a lookup.
-/

namespace LinkedData

open Text

/-! ### texts without a reserved scheme -/

theorem Value.holdsReference_iff_scheme {v : Value} :
    v.HoldsReference ↔ ∃ text, .str text ∈ v.parts ∧ (siteScheme <+: text.toList ∨ dataScheme <+: text.toList) := by
  simp only [holdsReference_iff, Reference.isReference_iff]

/-! ### keys that a lookup spells -/

theorem Text.trimEnd_of_getLast {cs : List Char} (h : ∀ c ∈ cs.getLast?, isBlank c = false) : trimEnd cs = cs := by
  rcases List.eq_nil_or_concat cs with rfl | ⟨front, c, rfl⟩
  · rfl
  · have hc : isBlank c = false := h c (by simp)
    rw [List.concat_eq_append, trimEnd_concat, if_neg (Bool.eq_false_iff.mp hc)]

/-- The lookup of an entry by its key. -/
def DataRef.ofKey (key : String) : DataRef := ⟨[key], []⟩

theorem DataRef.dotted_ofKey (key : String) : dotted (ofKey key).path = key := String.intercalate_singleton

/-- A key without dots and bars, and without white space at its end, is the path of a lookup as it stands. -/
theorem Reference.ofText_key {key : String} (hdot : '.' ∉ key.toList) (hbar : '|' ∉ key.toList)
    (hend : ∀ c ∈ key.toList.getLast?, isBlank c = false) : ofText ("lume-data:" ++ key) = .data (.ofKey key) := by
  have hcanonical : (DataRef.ofKey key).IsCanonical := by
    refine ⟨⟨List.cons_ne_nil _ _, List.forall_mem_singleton.mpr ⟨hdot, hbar⟩, List.forall_mem_nil _⟩, ?_,
      List.forall_mem_nil _⟩
    rw [DataRef.dotted_ofKey]
    exact trimEnd_of_getLast hend
  refine ofText_of_spells hcanonical ⟨[], ?_, SpellsFilters.done (List.forall_mem_nil _)⟩
  rw [DataRef.dotted_ofKey]
  exact String.append_empty.symm

/-! ### lookups of fixed trees -/

namespace Resolver

variable {r : Resolver} {ctx : PageContext} {v : Value} {key : String}

theorem fetch_ofKey (r : Resolver) (hv : v ≠ .null) (hkey : Entries.lookup? ctx.data key = some v) :
    r.fetch ctx (.ofKey key) = .ok v := by
  have hextract : extract (.map ctx.data) [key] = .ok v :=
    extractFrom_eq_ok.mpr (Value.Leads.step ⟨rfl, hkey, hv⟩ (Value.Leads.here v))
  exact bind_eq_ok.mpr ⟨v, hextract, rfl⟩

/-- A lookup yields its value if that resolves to itself, whatever other lookups there are. -/
theorem resolve_lookup_of_fixed {s : Scalar} {ref : DataRef} (hs : s.ref? = some ref) (hfetch : r.fetch ctx ref = .ok v)
    (hfixed : ∀ follow, resolveTree follow ctx v = .ok v) : r.resolve ctx (.scalar s) = .ok v := by
  obtain ⟨left, hleft⟩ := Nat.exists_eq_succ_of_ne_zero (Nat.ne_of_gt r.maxDepth_pos)
  rw [resolve, resolveWithin, resolveTree, resolveScalar_ref hs, List.length_nil, Nat.sub_zero, hleft,
    follow_succ List.not_mem_nil]
  exact bind_eq_ok.mpr ⟨v, hfetch, hfixed _⟩

/-- **Plain trees are fixed.** A tree of nulls, truth values, integers, finite numbers, texts without a reserved scheme,
lists and mappings with texts for keys resolves to itself, its keys in their order, on every page and with all filters
and limits. If it is no null and stands in the page data under a key without dots and bars, and without white space at
the end, then a lookup of the key resolves to it. -/
theorem plain_trees_are_fixed (v : Value) (hv : v.IsJson)
    (hplain : ∀ text, .str text ∈ v.parts → ¬ siteScheme <+: text.toList ∧ ¬ dataScheme <+: text.toList) :
    (∀ (r : Resolver) (ctx : PageContext), r.resolve ctx v = .ok v) ∧
      ∀ (r : Resolver) (ctx : PageContext) (key : String), v ≠ .null → Entries.lookup? ctx.data key = some v →
        '.' ∉ key.toList → '|' ∉ key.toList → (∀ c ∈ key.toList.getLast?, isBlank c = false) →
          r.resolve ctx (.str ("lume-data:" ++ key)) = .ok v := by
  have href : ¬ v.HoldsReference := by
    rw [Value.holdsReference_iff_scheme]
    rintro ⟨text, htext, hscheme⟩
    exact hscheme.elim (hplain text htext).1 (hplain text htext).2
  refine ⟨resolve_of_no_reference hv href, fun r ctx key hnull hkey hdot hbar hend => ?_⟩
  have hs : (Scalar.str ("lume-data:" ++ key)).ref? = some (.ofKey key) :=
    Scalar.ref?_eq_some_iff.mpr ⟨_, rfl, Reference.ofText_key hdot hbar hend⟩
  exact resolve_lookup_of_fixed hs (fetch_ofKey r hnull hkey) fun follow =>
    resolveTree_of_no_reference hv href follow ctx

/-- A plain tree in which keys have reserved schemes, and texts have them behind a blank. -/
def plainTree : Value :=
  .map [(.str "lume-data:title", .list [.null, .bool true, .int 3, .str " site-url:self"]),
    (.str "site-url:", .map [(.str "b", .str "lume-data"), (.str "a", .list [])])]

/-- A page with this tree under a key of several words. -/
def plainPage : PageContext :=
  ⟨"/", [(.str "title", .str "First"), (.str " a: plain tree", plainTree)], exampleSite.url⟩

theorem plainTree_fixed :
    plainTree.IsJson ∧
      (∀ text, .str text ∈ plainTree.parts → ¬ siteScheme <+: text.toList ∧ ¬ dataScheme <+: text.toList) ∧
      (∀ (r : Resolver) (ctx : PageContext), r.resolve ctx plainTree = .ok plainTree) ∧
      ∀ r : Resolver, r.resolve plainPage (.str "lume-data: a: plain tree") = .ok plainTree := by
  have hjson : plainTree.IsJson := by decide +kernel
  have hplain : ∀ text, .str text ∈ plainTree.parts → ¬ siteScheme <+: text.toList ∧ ¬ dataScheme <+: text.toList := by
    have hno : ¬ plainTree.HoldsReference := by decide +kernel
    rw [Value.holdsReference_iff_scheme] at hno
    exact fun text htext => not_or.mp fun hscheme => hno ⟨text, htext, hscheme⟩
  obtain ⟨hfixed, hlookup⟩ := plain_trees_are_fixed plainTree hjson hplain
  have hkey : Entries.lookup? plainPage.data " a: plain tree" = some plainTree := by decide +kernel
  have hspelled : '.' ∉ " a: plain tree".toList ∧ '|' ∉ " a: plain tree".toList := by decide +kernel
  have hlast : " a: plain tree".toList.getLast? = some 'e' := by decide +kernel
  have hend : ∀ c ∈ " a: plain tree".toList.getLast?, isBlank c = false := by
    rw [hlast]
    rintro c ⟨⟩
    decide +kernel
  exact ⟨hjson, hplain, hfixed, fun r =>
    hlookup r plainPage _ (fun hnull => nomatch hnull) hkey hspelled.1 hspelled.2 hend⟩

end Resolver

end LinkedData
