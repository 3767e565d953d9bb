import LinkedData.Proofs.Page.Batch
import LinkedData.Proofs.Page.Resolution
import LinkedData.Proofs.Resolver.Survivors

/-!
# Resolving pages again

A resolved page declares the resolved tree in the place of the one that it was resolved from. So when it is resolved
again, lookups in that tree find other values than they did before.

* `Page.FreeOfReferences`: no text of the declared tree is a reference;
* `Page.resolve_of_isResolved`: a resolved page without references stays as it is, whatever it is resolved with;
* `IsFirstFailing`: the page at which an operation on several pages stops;
* `preprocess_again`: after a failure, the pages can be resolved again with the failing page replaced, and after a
  success, without any effect.
-/

namespace LinkedData

namespace Page

variable {p p' : Page} {r : Resolver} {normalize : UrlNormalizer} {v : Value} {answer : Bool}

/-- No text of the declared tree, if there is one, is a reference. -/
def FreeOfReferences (p : Page) : Prop := ∀ tree ∈ p.declared?, ¬ tree.HoldsReference

instance (p : Page) : Decidable p.FreeOfReferences := inferInstanceAs (Decidable (∀ tree ∈ p.declared?, _))

/-- A page that already declares the tree stays as it is when the tree is set. -/
theorem set_of_declared? (h : p.declared? = some v) : p.set declaredKey v = p := by
  rw [set, Entries.insert_of_get? (lookup?_of_declared? h)]

/-- A resolved page without references is left as it is by every resolution, on every site. -/
theorem resolve_of_isResolved (hresolved : p.IsResolved) (hfree : p.FreeOfReferences) (r : Resolver) (normalize : UrlNormalizer) :
    p.resolve r normalize = (.ok p.declares, p) := by
  cases htree : p.declared? with
  | none => rw [resolve, declares, htree, Option.isSome_none]
  | some tree =>
    obtain ⟨hjson, hwrappable⟩ := hresolved tree htree
    have hsame : r.resolve ⟨p.url, p.data, normalize⟩ tree = .ok tree :=
      Resolver.resolve_of_no_reference hjson (hfree tree htree) r _
    rw [resolve_eq_ok htree]
    exact ⟨tree, hsame, hwrappable, by rw [declares, htree, Option.isSome_some], set_of_declared? htree⟩

/-- A page that resolution leaves without references is not changed when it is resolved again. -/
theorem resolve_resolve (hpasses : Passes (resolve r normalize) p) (hfree : (p.resolve r normalize).2.FreeOfReferences) :
    (p.resolve r normalize).2.resolve r normalize = p.resolve r normalize := by
  obtain ⟨answer, hanswer⟩ := hpasses
  have h : p.resolve r normalize = (.ok answer, (p.resolve r normalize).2) := Prod.ext hanswer rfl
  obtain ⟨hresolved, hdeclares, _⟩ := resolve_isResolved h
  rw [resolve_of_isResolved hresolved hfree, hdeclares, ← resolve_answer h]
  exact h.symm

end Page

/-! ### all pages -/

/-- The page of the number is there and fails, and no page before it does. -/
def IsFirstFailing (act : Page → Except Failure Bool × Page) (pages : List Page) (k : Nat) : Prop :=
  (∀ p ∈ pages.take k, Passes act p) ∧ ∃ p e, pages[k]? = some p ∧ (act p).1 = .error e

/-- What is left of pages that fail at some page: those before it changed, and those behind it as they were. -/
theorem IsFirstFailing.left_eq {act : Page → Except Failure Bool × Page} {pages left : List Page} {k : Nat}
    {e : Failure} (h : IsFirstFailing act pages k) (hcount : countPages act pages = (.error e, left)) :
    ∃ before p after, k = before.length ∧ pages = before ++ p :: after ∧ (∀ q ∈ before, Passes act q) ∧
      left = before.map (fun q => (act q).2) ++ (act p).2 :: after := by
  obtain ⟨hbefore, p, e', hpage, hp⟩ := h
  obtain ⟨hk, rfl⟩ := List.getElem?_eq_some_iff.mp hpage
  have hsplit : pages = pages.take k ++ pages[k] :: pages.drop (k + 1) := by
    rw [List.getElem_cons_drop, List.take_append_drop]
  refine ⟨pages.take k, pages[k], pages.drop (k + 1), ?_, hsplit, hbefore, ?_⟩
  · rw [List.length_take, Nat.min_eq_left (Nat.le_of_lt hk)]
  · have hstops := countPages_of_first hbefore hp (pages.drop (k + 1))
    rw [← hsplit, hcount] at hstops
    exact (Prod.mk.inj hstops).2

/-- **Resolving again.** If the resolution of several pages fails at one of them, this page may be replaced by any
other and all of them resolved again: if no reference is left in the pages that were resolved before it, the outcome and
the pages are the same as if all pages, with this one replaced, had been resolved only once. If it succeeds and leaves
no reference in the pages, to resolve them again has the same answer and changes nothing. -/
theorem preprocess_again (r : Resolver) (normalize : UrlNormalizer) :
    (∀ (pages left : List Page) (e : Failure) (k : Nat), preprocess r normalize pages = (.error e, left) →
      IsFirstFailing (Page.resolve r normalize) pages k → (∀ p ∈ left.take k, p.FreeOfReferences) →
      ∀ q : Page, preprocess r normalize (left.set k q) = preprocess r normalize (pages.set k q)) ∧
    ∀ (pages pages' : List Page) (n : Nat), preprocess r normalize pages = (.ok n, pages') →
      (∀ p ∈ pages', p.FreeOfReferences) → preprocess r normalize pages' = (.ok n, pages') := by
  constructor
  · intro pages left e k h hfirst hfree q
    obtain ⟨before, p, after, rfl, rfl, hbefore, rfl⟩ := hfirst.left_eq h
    have hlength : before.length = (before.map fun q => (q.resolve r normalize).2).length := (List.length_map _).symm
    have hsettled : ∀ q ∈ before, Passes (Page.resolve r normalize) q ∧
        (q.resolve r normalize).2.resolve r normalize = q.resolve r normalize := by
      intro q hq
      refine ⟨hbefore q hq, Page.resolve_resolve (hbefore q hq) (hfree _ ?_)⟩
      rw [List.take_left' hlength.symm]
      exact List.mem_map_of_mem hq
    rw [List.set_append_right _ _ (Nat.le_refl _), Nat.sub_self, List.set_cons_zero,
      List.set_append_right _ _ (Nat.le_of_eq hlength.symm), ← hlength, Nat.sub_self, List.set_cons_zero]
    exact countPages_of_settled hsettled (q :: after)
  · intro pages pages' n h hfree
    obtain ⟨hall, _, rfl⟩ := countPages_eq_ok_iff.mp h
    have hsettled : ∀ q ∈ pages, Passes (Page.resolve r normalize) q ∧
        (q.resolve r normalize).2.resolve r normalize = q.resolve r normalize :=
      fun q hq => ⟨hall q hq, Page.resolve_resolve (hall q hq) (hfree _ (List.mem_map_of_mem hq))⟩
    have hagain := countPages_of_settled hsettled []
    rw [List.append_nil, List.append_nil] at hagain
    exact hagain.trans h

/-- A page whose tree looks up a value in this very tree. -/
def selfReferringPage : Page :=
  ⟨"/self/", [(.str declaredKey, .map [(.str "url", .str "site-url:self"), (.str "name", .str "Self"),
    (.str "headline", .str "lume-data:structured_data.name")])], none⟩

/-- This page, and one behind it that is not resolved. -/
def unrepairedPages : List Page := [selfReferringPage, Page.brokenPage]

theorem unrepairedPages_again :
    preprocess .standard exampleSite.url unrepairedPages =
        (.error (.page "/broken/" (.notFound ["title"])),
          (preprocess .standard exampleSite.url unrepairedPages).2) ∧
      preprocess .standard exampleSite.url
          ((preprocess .standard exampleSite.url unrepairedPages).2.set 1 selfReferringPage) =
        preprocess .standard exampleSite.url (unrepairedPages.set 1 selfReferringPage) := by
  have hfails : (preprocess .standard exampleSite.url unrepairedPages).1 =
      .error (.page "/broken/" (.notFound ["title"])) := by decide +kernel
  have hfirst : IsFirstFailing (Page.resolve .standard exampleSite.url) unrepairedPages 1 := by
    refine ⟨List.forall_mem_singleton.mpr ⟨true, ?_⟩,
      Page.brokenPage, .page "/broken/" (.notFound ["title"]), rfl, ?_⟩
    · decide +kernel
    · decide +kernel
  have hfree : ∀ p ∈ (preprocess .standard exampleSite.url unrepairedPages).2.take 1,
      p.FreeOfReferences := by decide +kernel
  have h : preprocess .standard exampleSite.url unrepairedPages =
      (.error (.page "/broken/" (.notFound ["title"])),
        (preprocess .standard exampleSite.url unrepairedPages).2) := by rw [← hfails]
  exact ⟨h, (preprocess_again .standard exampleSite.url).1 _ _ _ 1 h hfirst hfree selfReferringPage⟩

end LinkedData
