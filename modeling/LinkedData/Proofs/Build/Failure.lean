import LinkedData.Build
import LinkedData.Proofs.Page.Batch
import LinkedData.Proofs.Page.Failure
import LinkedData.Proofs.Page.Resolution

/-!
# What a failed step leaves

* `Build.Reachable`: the builds that steps lead to, none of which makes a script of linked data the root of a document;
* `Build.ownSteps`: the steps that do to one page after the other what a step on all pages does;
* `Build.StopsAt`: a step on all pages ends as the steps on the pages before a certain one do, and with the failure of
  that page;
* `Build.failed_step`: a failed step on one page leaves the build as it was, and one on all pages stops at the first
  page that fails.
-/

namespace LinkedData

/-! ### reachable builds -/

/-- The step makes no script of linked data the root of a document. -/
def Step.RootStays : Step → Prop
  | .setDocument _ document => ∀ root ∈ document, root.isDataScript = false
  | _ => True

namespace Build

/-- The builds that begin without pages, and those that steps make of them. -/
inductive Reachable : Build → Prop
  | start (normalize : UrlNormalizer) (resolver : Resolver) : Reachable ⟨normalize, resolver, []⟩
  | step {b : Build} {s : Step} : Reachable b → s.RootStays → Reachable (b.step s).2

section Roots

variable {b : Build} {act : Page → Except Failure Bool × Page} {P : Page → Prop}

theorem onPage_of_none {number : Nat} (h : b.pages[number]? = none) :
    b.onPage number act = (.error .noSuchPage, b) := by
  rw [onPage]
  simp only [h]

theorem onPage_of_some {number : Nat} {p : Page} (h : b.pages[number]? = some p) :
    b.onPage number act = ((act p).1.map .flag, { b with pages := b.pages.set number (act p).2 }) := by
  rw [onPage]
  simp only [h]

/-- What an operation keeps of every page, it keeps of all pages when it is done to one of them. -/
theorem forall_onPage (hact : ∀ p, P p → P (act p).2) (h : ∀ p ∈ b.pages, P p) (number : Nat) :
    ∀ p ∈ (b.onPage number act).2.pages, P p := by
  cases hpage : b.pages[number]? with
  | none =>
    rw [onPage_of_none hpage]
    exact h
  | some q =>
    rw [onPage_of_some hpage]
    intro p hp
    rcases List.mem_or_eq_of_mem_set hp with hp | rfl
    · exact h p hp
    · exact hact q (h q (List.mem_of_getElem? hpage))

theorem rootStays_resolve (r : Resolver) (normalize : UrlNormalizer) {p : Page} (h : p.RootStays) :
    (p.resolve r normalize).2.RootStays := by
  rcases p.resolve_cases r normalize with ⟨e, hresolve⟩ | ⟨answer, data, hresolve⟩
  · rw [hresolve]
    exact h
  · rw [hresolve]
    exact h

theorem rootStays_inject (context : String) {p : Page} (h : p.RootStays) : (p.inject context).2.RootStays := by
  rcases Page.inject_cases h context with ⟨e, hinject⟩ | ⟨answer, document, hinject, hdocument⟩
  · rw [hinject]
    exact h
  · rw [hinject]
    exact hdocument

theorem rootStays_process (context : String) {p : Page} (h : p.RootStays) : (p.process context).2.RootStays := by
  rw [Page.process]
  split
  · exact rootStays_inject context h
  · exact h

/-- No step makes a script of linked data the root of a document. -/
theorem rootStays_step (h : ∀ p ∈ b.pages, p.RootStays) {s : Step} (hs : s.RootStays) :
    ∀ p ∈ (b.step s).2.pages, p.RootStays := by
  cases s with
  | create url data =>
    refine List.forall_mem_append.mpr ⟨h, List.forall_mem_singleton.mpr fun root hroot => ?_⟩
    cases hroot
  | resolve number => exact forall_onPage (fun p hp => rootStays_resolve _ _ hp) h number
  | inject number context => exact forall_onPage (fun p hp => rootStays_inject context hp) h number
  | preprocess => exact forall_countPages (fun p hp => rootStays_resolve _ _ hp) h
  | process context => exact forall_countPages (fun p hp => rootStays_process context hp) h
  | set number key value => exact forall_onPage (fun p hp => hp) h number
  | unset number key => exact forall_onPage (fun p hp => hp) h number
  | rename number url => exact forall_onPage (fun p hp => hp) h number
  | setDocument number document => exact forall_onPage (fun p _ => hs) h number

theorem Reachable.rootStays (h : b.Reachable) : ∀ p ∈ b.pages, p.RootStays := by
  induction h with
  | start => exact List.forall_mem_nil _
  | step _ hs ih => exact rootStays_step ih hs

end Roots

/-! ### page by page -/

/-- The build after several steps. -/
def after (b : Build) (steps : List Step) : Build := steps.foldl (fun b s => (b.step s).2) b

/-- The steps `own` for those of the pages that take part, with the numbers of the pages counted from `first`. -/
def ownSteps (own : Nat → Step) (takesPart : Page → Bool) (first : Nat) (pages : List Page) : List Step :=
  ((pages.zipIdx first).filter fun q => takesPart q.1).map fun q => own q.2

section OwnSteps

variable {own : Nat → Step} {takesPart : Page → Bool} {first : Nat} {p : Page} {pages : List Page}

theorem ownSteps_cons_of_takesPart (h : takesPart p = true) :
    ownSteps own takesPart first (p :: pages) = own first :: ownSteps own takesPart (first + 1) pages := by
  simp only [ownSteps, List.zipIdx_cons, List.filter_cons, h, if_true, List.map_cons]

theorem ownSteps_cons_of_not_takesPart (h : takesPart p = false) :
    ownSteps own takesPart first (p :: pages) = ownSteps own takesPart (first + 1) pages := by
  simp only [ownSteps, List.zipIdx_cons, List.filter_cons, h, Bool.false_eq_true, if_false]

variable {normalize : UrlNormalizer} {resolver : Resolver} {act each : Page → Except Failure Bool × Page}

/-- The operation `act` does `each` to the pages that take part, which is what the steps `own` do to single pages. -/
structure Refines (normalize : UrlNormalizer) (resolver : Resolver) (act each : Page → Except Failure Bool × Page)
    (own : Nat → Step) (takesPart : Page → Bool) : Prop where
  act_eq : ∀ p, act p = if takesPart p then each p else (.ok false, p)
  step_eq : ∀ pages number, step ⟨normalize, resolver, pages⟩ (own number) = onPage ⟨normalize, resolver, pages⟩ number each

/-- A page that fails takes part, and it fails in its own step. -/
theorem Refines.of_error (h : Refines normalize resolver act each own takesPart) {e : Failure} (hp : (act p).1 = .error e) :
    takesPart p = true ∧ act p = each p := by
  have hact := h.act_eq p
  cases htakesPart : takesPart p with
  | false =>
    rw [hact, htakesPart] at hp
    cases hp
  | true =>
    rw [htakesPart, if_pos rfl] at hact
    exact ⟨rfl, hact⟩

theorem refines_resolve (normalize : UrlNormalizer) (resolver : Resolver) :
    Refines normalize resolver (Page.resolve resolver normalize) (Page.resolve resolver normalize) .resolve fun _ => true where
  act_eq := fun _ => (if_pos rfl).symm
  step_eq := fun _ _ => rfl

theorem refines_process (normalize : UrlNormalizer) (resolver : Resolver) (context : String) :
    Refines normalize resolver (Page.process context) (Page.inject context) (.inject · context)
      fun p => p.document.isSome where
  act_eq := fun _ => rfl
  step_eq := fun _ _ => rfl

/-- Steps on single pages do to pages that do not fail what an operation on all of them does. The induction is on the
pages that are left, behind those that are done. -/
theorem after_ownSteps (h : Refines normalize resolver act each own takesPart) (todo : List Page) :
    ∀ done rest : List Page, (∀ q ∈ todo, Passes act q) →
      after ⟨normalize, resolver, done ++ todo ++ rest⟩ (ownSteps own takesPart done.length todo) =
        ⟨normalize, resolver, done ++ todo.map (fun q => (act q).2) ++ rest⟩ ∧
      ∀ o ∈ run ⟨normalize, resolver, done ++ todo ++ rest⟩ (ownSteps own takesPart done.length todo),
        ∃ answer, o.1 = .ok answer := by
  induction todo with
  | nil => exact fun done rest _ => ⟨rfl, List.forall_mem_nil _⟩
  | cons q todo ih =>
    intro done rest hall
    obtain ⟨⟨applied, hq⟩, hmore⟩ := List.forall_mem_cons.mp hall
    have hact := h.act_eq q
    obtain ⟨hafter, hrun⟩ := ih (done ++ [(act q).2]) rest hmore
    rw [List.length_append, List.length_singleton] at hafter hrun
    rw [List.append_assoc done [_] todo, List.singleton_append] at hafter hrun
    rw [List.map_cons]
    cases htakesPart : takesPart q with
    | false =>
      rw [htakesPart, if_neg Bool.false_ne_true] at hact
      rw [ownSteps_cons_of_not_takesPart htakesPart]
      rw [hact] at hafter hrun ⊢
      refine ⟨hafter.trans ?_, hrun⟩
      rw [List.append_assoc done [q], List.singleton_append]
    | true =>
      rw [htakesPart, if_pos rfl] at hact
      have hpage : (done ++ q :: todo ++ rest)[done.length]? = some q := by
        rw [List.append_assoc, List.getElem?_append_right (Nat.le_refl _), Nat.sub_self]
        rfl
      have hset : (done ++ q :: todo ++ rest).set done.length (act q).2 = done ++ (act q).2 :: todo ++ rest := by
        rw [List.append_assoc, List.set_append_right _ _ (Nat.le_refl _), Nat.sub_self, List.append_assoc]
        rfl
      have hstep : step ⟨normalize, resolver, done ++ q :: todo ++ rest⟩ (own done.length) =
          (.ok (.flag applied), ⟨normalize, resolver, done ++ (act q).2 :: todo ++ rest⟩) := by
        rw [h.step_eq, onPage_of_some hpage, ← hact, hq, hset]
        rfl
      rw [ownSteps_cons_of_takesPart htakesPart]
      constructor
      · show after (step _ (own done.length)).2 _ = _
        rw [hstep, hafter, List.append_assoc done [_], List.singleton_append]
      · refine List.forall_mem_cons.mpr ⟨⟨_, congrArg Prod.fst hstep⟩, ?_⟩
        rw [hstep]
        exact hrun

end OwnSteps

/-! ### failed steps -/

/-- A step on all pages of the build `b`, which does `own` to each page that takes part, stops at the page `k`: it fails
with `e` and leaves the build `b'`. -/
structure StopsAt (b : Build) (own : Nat → Step) (takesPart : Page → Bool) (e : Failure) (b' : Build) (k : Nat) :
    Prop where
  /-- The page is there and takes part. -/
  page : ∃ p, b.pages[k]? = some p ∧ takesPart p = true
  /-- The failure is that of the page's own step. -/
  fails : b.step (own k) = (.error e, b)
  /-- No page that takes part fails before it. -/
  first : ∀ i < k, ∀ p, b.pages[i]? = some p → takesPart p = true → ∃ answer, (b.step (own i)).1 = .ok answer
  /-- The build is what the own steps of the pages before it make of it. -/
  state : b' = b.after (ownSteps own takesPart 0 (b.pages.take k))
  /-- None of these steps fails. -/
  succeed : ∀ o ∈ b.run (ownSteps own takesPart 0 (b.pages.take k)), ∃ answer, o.1 = .ok answer
  /-- The page and all behind it are untouched. -/
  untouched : b'.pages.drop k = b.pages.drop k

section Failed

variable {b b' : Build} {e : Failure} {number : Nat} {each : Page → Except Failure Bool × Page}

theorem set_of_getElem? {l : List Page} {p : Page} (h : l[number]? = some p) : l.set number p = l := by
  obtain ⟨hnumber, rfl⟩ := List.getElem?_eq_some_iff.mp h
  exact List.set_getElem_self hnumber

/-- An operation on one page that leaves the page as it was if it fails leaves the build as it was. -/
theorem onPage_eq_error (hkeeps : ∀ p ∈ b.pages, ∀ e, (each p).1 = .error e → (each p).2 = p)
    (h : b.onPage number each = (.error e, b')) : b' = b := by
  cases hpage : b.pages[number]? with
  | none =>
    rw [onPage_of_none hpage] at h
    exact (Prod.mk.inj h).2.symm
  | some p =>
    rw [onPage_of_some hpage] at h
    obtain ⟨hanswer, rfl⟩ := Prod.mk.inj h
    have hsame : (each p).2 = p := hkeeps p (List.mem_of_getElem? hpage) e (map_eq_error.mp hanswer)
    rw [hsame, set_of_getElem? hpage]

theorem edit_eq_error {change : Page → Page} (h : b.edit number change = (.error e, b')) : b' = b :=
  onPage_eq_error (fun _ _ _ he => by cases he) h

theorem keeps_resolve (r : Resolver) (normalize : UrlNormalizer) (p : Page) (e : Failure) (h : (p.resolve r normalize).1 = .error e) :
    (p.resolve r normalize).2 = p := by
  rcases p.resolve_cases r normalize with ⟨e', hresolve⟩ | ⟨answer, data, hresolve⟩
  · rw [hresolve]
  · rw [hresolve] at h
    cases h

theorem keeps_inject (context : String) {p : Page} (hroot : p.RootStays) (e : Failure)
    (h : (p.inject context).1 = .error e) : (p.inject context).2 = p := by
  rcases Page.inject_cases hroot context with ⟨e', hinject⟩ | ⟨answer, document, hinject, _⟩
  · rw [hinject]
  · rw [hinject] at h
    cases h

/-- An operation on all pages that fails stops at a page. -/
theorem stopsAt_of_countPages {normalize : UrlNormalizer} {resolver : Resolver} {act : Page → Except Failure Bool × Page}
    {own : Nat → Step} {takesPart : Page → Bool} {pages pages' : List Page}
    (h : Refines normalize resolver act each own takesPart)
    (hkeeps : ∀ p ∈ pages, ∀ e, (each p).1 = .error e → (each p).2 = p)
    (hcount : countPages act pages = (.error e, pages')) :
    ∃ k, StopsAt ⟨normalize, resolver, pages⟩ own takesPart e ⟨normalize, resolver, pages'⟩ k := by
  obtain ⟨before, p, after, rfl, hbefore, hp, rfl⟩ := countPages_eq_error_iff.mp hcount
  have hpage : (before ++ p :: after)[before.length]? = some p := by
    rw [List.getElem?_append_right (Nat.le_refl _), Nat.sub_self]
    rfl
  have htake : (before ++ p :: after).take before.length = before := List.take_left
  obtain ⟨htakesPart, hact⟩ := h.of_error hp
  have hsame : (act p).2 = p := by
    rw [hact] at hp ⊢
    exact hkeeps p (List.mem_of_getElem? hpage) e hp
  obtain ⟨hafter, hrun⟩ := after_ownSteps h before [] (p :: after) hbefore
  refine ⟨before.length, ⟨p, hpage, htakesPart⟩, ?_, ?_, ?_, ?_, ?_⟩
  · rw [h.step_eq, onPage_of_some hpage, ← hact, hp, hsame, set_of_getElem? hpage]
    rfl
  · intro i hi q hq hpart
    have hqbefore : before[i]? = some q := by rwa [List.getElem?_append_left hi] at hq
    obtain ⟨applied, hpasses⟩ := hbefore q (List.mem_of_getElem? hqbefore)
    rw [h.act_eq, if_pos hpart] at hpasses
    refine ⟨.flag applied, ?_⟩
    rw [h.step_eq, onPage_of_some hq, hpasses]
    rfl
  · rw [htake, hsame]
    exact hafter.symm
  · rw [htake]
    exact hrun
  · rw [hsame, List.drop_left]
    have hlength : before.length = (before.map fun q => (act q).2).length := List.length_map _ |>.symm
    rw [hlength, List.drop_left]

end Failed

/-- **What a failed step leaves.** A step on one page of a reachable build that fails leaves the build as it was. A step
on all pages that fails stops at a page: the own steps of the pages before it succeed and lead to the build that is
left, and the failure is that of the page's own step. -/
theorem failed_step {b b' : Build} {s : Step} {e : Failure} (hb : b.Reachable) (h : b.step s = (.error e, b')) :
    match s with
    | .preprocess => ∃ k, StopsAt b .resolve (fun _ => true) e b' k
    | .process context => ∃ k, StopsAt b (.inject · context) (fun p => p.document.isSome) e b' k
    | _ => b' = b := by
  have hroots := hb.rootStays
  cases s with
  | create url data => cases (Prod.mk.inj h).1
  | resolve number => exact onPage_eq_error (fun p _ => keeps_resolve b.resolver b.normalize p) h
  | inject number context => exact onPage_eq_error (fun p hp => keeps_inject context (hroots p hp)) h
  | preprocess =>
    obtain ⟨hanswer, rfl⟩ := Prod.mk.inj h
    have hcount := map_eq_error.mp hanswer
    exact stopsAt_of_countPages (refines_resolve b.normalize b.resolver)
      (fun p _ => keeps_resolve b.resolver b.normalize p) (Prod.ext hcount rfl)
  | process context =>
    obtain ⟨hanswer, rfl⟩ := Prod.mk.inj h
    have hcount := map_eq_error.mp hanswer
    exact stopsAt_of_countPages (refines_process b.normalize b.resolver context)
      (fun p hp => keeps_inject context (hroots p hp)) (Prod.ext hcount rfl)
  | set number key value => exact edit_eq_error h
  | unset number key => exact edit_eq_error h
  | rename number url => exact edit_eq_error h
  | setDocument number document => exact edit_eq_error h

/-- A build with a page that is resolved, one that declares no tree, and one with a lookup that leads nowhere. -/
def brokenBuild : Build :=
  after ⟨exampleSite.url, .standard, []⟩ [
    .create "/first/" [(.str declaredKey, .map [(.str "url", .str "site-url:self")])],
    .create "/second/" [],
    .create "/broken/" Page.brokenPage.data]

theorem brokenBuild_stops : brokenBuild.Reachable ∧ ∃ b' k,
    brokenBuild.step .preprocess = (.error (.page "/broken/" (.notFound ["title"])), b') ∧
      StopsAt brokenBuild .resolve (fun _ => true) (.page "/broken/" (.notFound ["title"])) b' k := by
  have hreachable : brokenBuild.Reachable :=
    Reachable.step (Reachable.step (Reachable.step (Reachable.start _ _) trivial) trivial) trivial
  have hfails : (brokenBuild.step .preprocess).1 = .error (.page "/broken/" (.notFound ["title"])) := by
    decide +kernel
  have h : brokenBuild.step .preprocess =
      (.error (.page "/broken/" (.notFound ["title"])), (brokenBuild.step .preprocess).2) := Prod.ext hfails rfl
  obtain ⟨k, hstops⟩ := failed_step hreachable h
  exact ⟨hreachable, _, k, h, hstops⟩

end Build

end LinkedData
