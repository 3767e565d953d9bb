import Mathlib.Data.List.Nodup
import LinkedData.Proofs.Build.Failure

/-!
# The order of the steps of a build

Every page is resolved, and then its metadata is put into its document. Pages have nothing in common, so it makes no
difference how the steps for several of them follow each other.

* `Build.Task`: the two things that are done to each page, and `Build.IsSchedule`: an order of them that resolves every
  page before its metadata is put into its document;
* `Build.stage`: what the pages are once some tasks are done, whatever the order was; `Build.step_stage` is one task,
  `Build.run_stage` any number of them;
* `Build.Completes`: both steps on all pages succeed, and `Build.completes_iff`: what that takes of the single pages;
* `Build.schedules_agree`: all schedules succeed together, with the same pages and the same counts.
-/

namespace LinkedData.Build

/-! ### schedules -/

/-- What is done to a page of a build that is rendered. -/
inductive Task where
  /-- Resolves the metadata of a page. -/
  | resolve (page : Nat)
  /-- Puts the metadata of a page into its document. -/
  | inject (page : Nat)
deriving DecidableEq

namespace Task

/-- The number of the page. -/
def page : Task → Nat
  | resolve i => i
  | inject i => i

/-- The page is resolved. -/
def isResolve : Task → Bool
  | resolve _ => true
  | inject _ => false

/-- The step of a build that does the task. -/
def step (context : String) : Task → Step
  | resolve i => .resolve i
  | inject i => .inject i context

/-- All that is done to so many pages. -/
def all (n : Nat) : List Task := (List.range n).map resolve ++ (List.range n).map inject

end Task

/-- The tasks are all those of so many pages, in an order in which every page is resolved before its metadata is put
into its document. -/
structure IsSchedule (n : Nat) (tasks : List Task) : Prop where
  complete : tasks.Perm (Task.all n)
  ordered : ∀ i < n, tasks.idxOf (.resolve i) < tasks.idxOf (.inject i)

section Schedules

variable {n i : Nat} {tasks done todo : List Task} {t : Task}

theorem Task.mem_all : t ∈ Task.all n ↔ t.page < n := by
  cases t with
  | resolve i => simp [Task.all, Task.page]
  | inject i => simp [Task.all, Task.page]

theorem Task.nodup_all (n : Nat) : (Task.all n).Nodup := by
  refine List.nodup_append.mpr ⟨?_, ?_, ?_⟩
  · exact List.Nodup.map (fun _ _ h => Task.resolve.inj h) List.nodup_range
  · exact List.Nodup.map (fun _ _ h => Task.inject.inj h) List.nodup_range
  · intro t ht u hu
    obtain ⟨_, _, rfl⟩ := List.mem_map.mp ht
    obtain ⟨_, _, rfl⟩ := List.mem_map.mp hu
    exact Task.noConfusion

/-- The task is not done yet, and its page is as far as the task asks for. -/
def Task.Ready (done : List Task) : Task → Prop
  | .resolve i => .resolve i ∉ done ∧ .inject i ∉ done
  | .inject i => .resolve i ∈ done ∧ .inject i ∉ done

/-- Every task of a schedule is ready when it is its turn. -/
theorem IsSchedule.ready (h : IsSchedule n (done ++ t :: todo)) : t.Ready done := by
  have hnodup : (done ++ t :: todo).Nodup := h.complete.nodup_iff.mpr (Task.nodup_all n)
  have hnew : t ∉ done := fun ht => (List.nodup_append.mp hnodup).2.2 t ht t List.mem_cons_self rfl
  have hpage : t.page < n := Task.mem_all.mp (h.complete.mem_iff.mp (List.mem_append_right _ List.mem_cons_self))
  have hindex : (done ++ t :: todo).idxOf t = done.length := by
    rw [List.idxOf_append_of_notMem hnew, List.idxOf_cons_self, Nat.add_zero]
  have hordered := h.ordered t.page hpage
  cases t with
  | resolve i =>
    refine ⟨hnew, fun hdone => ?_⟩
    rw [Task.page, hindex, List.idxOf_append_of_mem hdone] at hordered
    exact absurd (List.idxOf_lt_length_of_mem hdone) (Nat.not_lt_of_lt hordered)
  | inject i =>
    refine ⟨by_contra fun hdone => ?_, hnew⟩
    rw [Task.page, hindex, List.idxOf_append_of_notMem hdone] at hordered
    exact absurd hordered (Nat.not_lt.mpr (Nat.le_add_right _ _))

end Schedules

/-! ### what is done to the pages -/

section Stages

variable {b : Build} {context : String} {done todo tasks : List Task} {t : Task} {p : Page}

/-- A page of the build as a task finds it if all that the task asks for is done. -/
def given (b : Build) (p : Page) : Task → Page
  | .resolve _ => p
  | .inject _ => (p.resolve b.resolver b.normalize).2

/-- What a task does to a page as it finds it. -/
def act (b : Build) (context : String) : Task → Page → Except Failure Bool × Page
  | .resolve _ => Page.resolve b.resolver b.normalize
  | .inject _ => Page.inject context

/-- The answer to a task of the build, which the other pages and the tasks for them have no part in. -/
def answer (b : Build) (context : String) (t : Task) : Except Failure Answer :=
  match b.pages[t.page]? with
  | none => .error .noSuchPage
  | some p => (b.act context t (b.given p t)).1.map .flag

/-- A page of the build when it is resolved and its metadata is in its document. -/
def finished (b : Build) (context : String) (p : Page) : Page := ((p.resolve b.resolver b.normalize).2.inject context).2

/-- What the page of a number is once the tasks are done. -/
def progress (b : Build) (context : String) (done : List Task) (i : Nat) (p : Page) : Page :=
  if .inject i ∈ done then b.finished context p
  else if .resolve i ∈ done then (p.resolve b.resolver b.normalize).2
  else p

/-- The build once the tasks are done. -/
def stage (b : Build) (context : String) (done : List Task) : Build :=
  { b with pages := b.pages.mapIdx (b.progress context done) }

theorem stage_nil : b.stage context [] = b := by
  have hpages : b.pages.mapIdx (b.progress context []) = b.pages := by
    refine List.ext_getElem? fun i => ?_
    rw [List.getElem?_mapIdx]
    cases b.pages[i]? with
    | none => rfl
    | some p => rfl
  rw [stage, hpages]

/-- A task that is ready finds its page as far as it asks for. -/
theorem progress_of_ready (h : t.Ready done) : b.progress context done t.page p = b.given p t := by
  cases t with
  | resolve i => rw [Task.page, progress, if_neg h.2, if_neg h.1, given]
  | inject i =>
    rw [Task.page, progress, if_neg h.2, if_pos h.1]
    rfl

/-- The page of a task that was ready is what the task made of it. -/
theorem progress_concat (h : t.Ready done) :
    b.progress context (done ++ [t]) t.page p = (b.act context t (b.given p t)).2 := by
  cases t with
  | resolve i =>
    have hinject : .inject i ∉ done ++ [.resolve i] := by simpa using h.2
    rw [Task.page, progress, if_neg hinject, if_pos (List.mem_append_right _ List.mem_cons_self)]
    rfl
  | inject i =>
    rw [Task.page, progress, if_pos (List.mem_append_right _ List.mem_cons_self)]
    rfl

/-- A task does nothing to other pages. -/
theorem progress_concat_of_ne {i : Nat} (h : t.page ≠ i) :
    b.progress context (done ++ [t]) i p = b.progress context done i p := by
  have hkeep : ∀ u : Task, u.page = i → (u ∈ done ++ [t] ↔ u ∈ done) := by
    rintro u rfl
    rw [List.mem_append, List.mem_singleton]
    exact or_iff_left fun hu => h (congrArg Task.page hu.symm)
  rw [progress, progress, if_congr (hkeep (.inject i) rfl) rfl rfl, if_congr (hkeep (.resolve i) rfl) rfl rfl]

/-- One task that is ready: its answer depends on its page alone, and no other page is changed. -/
theorem step_stage (b : Build) (context : String) (h : t.Ready done) :
    (b.stage context done).step (t.step context) = (b.answer context t, b.stage context (done ++ [t])) := by
  have hstep : (b.stage context done).step (t.step context) =
      (b.stage context done).onPage t.page (b.act context t) := by
    cases t with
    | resolve i => rfl
    | inject i => rfl
  have hothers : ∀ i, t.page ≠ i → (b.stage context (done ++ [t])).pages[i]? = (b.stage context done).pages[i]? := by
    intro i hi
    rw [stage, stage, List.getElem?_mapIdx, List.getElem?_mapIdx]
    exact Option.map_congr fun p _ => progress_concat_of_ne hi
  rw [hstep, answer]
  cases hpage : b.pages[t.page]? with
  | none =>
    have hnone : (b.stage context done).pages[t.page]? = none := by
      rw [stage, List.getElem?_mapIdx, hpage, Option.map_none]
    have hsame : (b.stage context (done ++ [t])).pages = (b.stage context done).pages := by
      refine List.ext_getElem? fun i => ?_
      by_cases hi : t.page = i
      · rw [← hi, hnone, stage, List.getElem?_mapIdx, hpage, Option.map_none]
      · exact hothers i hi
    rw [onPage_of_none hnone]
    exact Prod.ext rfl (congrArg (fun pages => { b with pages := pages }) hsame.symm)
  | some p =>
    have hsome : (b.stage context done).pages[t.page]? = some (b.given p t) := by
      rw [stage, List.getElem?_mapIdx, hpage, Option.map_some, progress_of_ready h]
    have hset : (b.stage context done).pages.set t.page (b.act context t (b.given p t)).2 =
        (b.stage context (done ++ [t])).pages := by
      refine List.ext_getElem? fun i => ?_
      by_cases hi : t.page = i
      · rw [← hi, List.getElem?_set_self (List.getElem?_eq_some_iff.mp hsome).1, stage, List.getElem?_mapIdx, hpage,
          Option.map_some, progress_concat h]
      · rw [List.getElem?_set_ne hi, hothers i hi]
    rw [onPage_of_some hsome, hset]
    rfl

/-- Any number of tasks that are ready in their turn. The induction is on the tasks that are left, behind those that are
done. -/
theorem run_stage (b : Build) (context : String) (todo : List Task) :
    ∀ done, (∀ before t after, todo = before ++ t :: after → t.Ready (done ++ before)) →
      ((b.stage context done).run (todo.map (Task.step context))).map Prod.fst = todo.map (b.answer context) ∧
        (b.stage context done).after (todo.map (Task.step context)) = b.stage context (done ++ todo) := by
  induction todo with
  | nil => exact fun done _ => ⟨rfl, by rw [List.append_nil]; rfl⟩
  | cons t todo ih =>
    intro done hready
    have hfirst : t.Ready done := by simpa using hready [] t todo rfl
    obtain ⟨hanswers, hafter⟩ := ih (done ++ [t]) fun before u after h => by
      rw [List.append_assoc]
      exact hready (t :: before) u after (by rw [h, List.cons_append])
    have hstep := step_stage b context hfirst
    constructor
    · rw [List.map_cons, run, hstep, List.map_cons, List.map_cons, hanswers]
    · rw [List.map_cons, after, List.foldl_cons, hstep]
      rw [List.append_assoc, List.singleton_append] at hafter
      exact hafter

end Stages

/-! ### all schedules -/

section Outcomes

variable {b b' : Build} {context : String} {tasks : List Task} {n m : Nat}

/-- The answers to the steps of the tasks, one after the other. -/
def answers (b : Build) (context : String) (tasks : List Task) : List (Except Failure Answer) :=
  (b.run (tasks.map (Task.step context))).map Prod.fst

/-- How many of the tasks of a kind are answered with yes. -/
def countYes (b : Build) (context : String) (tasks : List Task) (kind : Task → Bool) : Nat :=
  (tasks.zip (b.answers context tasks)).countP fun o => kind o.1 && decide (o.2 = .ok (.flag true))

/-- First all pages are resolved, then the metadata of all is put into their documents: both succeed, with the counts
`n` and `m`, and lead to the build `b'`. -/
def Completes (b : Build) (context : String) (n m : Nat) (b' : Build) : Prop :=
  ∃ resolved, b.step .preprocess = (.ok (.count n), resolved) ∧ resolved.step (.process context) = (.ok (.count m), b')

/-- Nothing fails when the page is resolved and its metadata is put into its document. -/
def PageCompletes (b : Build) (context : String) (p : Page) : Prop :=
  Passes (Page.resolve b.resolver b.normalize) p ∧ Passes (Page.inject context) (p.resolve b.resolver b.normalize).2

/-- What a schedule answers and leads to. -/
theorem run_of_isSchedule (context : String) (h : IsSchedule b.pages.length tasks) :
    b.answers context tasks = tasks.map (b.answer context) ∧
      b.after (tasks.map (Task.step context)) = { b with pages := b.pages.map (b.finished context) } := by
  obtain ⟨hanswers, hafter⟩ := run_stage b context tasks []
    fun before t after hsplit => IsSchedule.ready (hsplit ▸ h)
  rw [stage_nil] at hanswers hafter
  refine ⟨hanswers, hafter.trans ?_⟩
  have hpages : b.pages.mapIdx (b.progress context tasks) = b.pages.map (b.finished context) := by
    refine List.ext_getElem? fun i => ?_
    rw [List.getElem?_mapIdx, List.getElem?_map]
    refine Option.map_congr fun p hp => ?_
    have hlt : i < b.pages.length := (List.getElem?_eq_some_iff.mp hp).1
    have hdone : .inject i ∈ tasks := h.complete.mem_iff.mpr (Task.mem_all.mpr hlt)
    rw [progress, if_pos hdone]
  rw [List.nil_append, stage, hpages]

/-! ### what completes -/

theorem onAll_eq_ok {result : Except Failure Nat × List Page} :
    b.onAll result = (.ok (.count n), b') ↔ ∃ pages, result = (.ok n, pages) ∧ { b with pages := pages } = b' := by
  obtain ⟨answer, pages⟩ := result
  rw [onAll, Prod.mk.injEq, map_eq_ok]
  constructor
  · rintro ⟨⟨n', rfl, hn⟩, rfl⟩
    obtain rfl := Answer.count.inj hn
    exact ⟨pages, rfl, rfl⟩
  · rintro ⟨_, hresult, rfl⟩
    obtain ⟨rfl, rfl⟩ := Prod.mk.inj hresult
    exact ⟨⟨n, rfl, rfl⟩, rfl⟩

theorem process_of_document {p : Page} (h : p.document.isSome = true) (r : Resolver) (normalize : UrlNormalizer) :
    (p.resolve r normalize).2.process context = (p.resolve r normalize).2.inject context := by
  have hdocument : (p.resolve r normalize).2.document = p.document := by
    rcases p.resolve_cases r normalize with ⟨e, hresolve⟩ | ⟨answer, data, hresolve⟩
    · rw [hresolve]
    · rw [hresolve]
  rw [Page.process, hdocument, if_pos h]

/-- Both steps on all pages succeed if nothing fails on any page, and this is where they lead. -/
theorem completes_iff (hdocuments : ∀ p ∈ b.pages, p.document.isSome = true) : b.Completes context n m b' ↔
    (∀ p ∈ b.pages, b.PageCompletes context p) ∧
      n = b.pages.countP (applies (Page.resolve b.resolver b.normalize)) ∧
      m = b.pages.countP (fun p => applies (Page.inject context) (p.resolve b.resolver b.normalize).2) ∧
      { b with pages := b.pages.map (b.finished context) } = b' := by
  have hinject : processDocuments context (b.pages.map fun p => (p.resolve b.resolver b.normalize).2) =
      countPages (Page.inject context) (b.pages.map fun p => (p.resolve b.resolver b.normalize).2) := by
    refine countPages_congr fun q hq => ?_
    obtain ⟨p, hp, rfl⟩ := List.mem_map.mp hq
    exact process_of_document (hdocuments p hp) _ _
  have hsecond : ∀ pages, countPages (Page.inject context) (b.pages.map fun p => (p.resolve b.resolver b.normalize).2) =
      (.ok m, pages) ↔ (∀ p ∈ b.pages, Passes (Page.inject context) (p.resolve b.resolver b.normalize).2) ∧
        m = b.pages.countP (fun p => applies (Page.inject context) (p.resolve b.resolver b.normalize).2) ∧
        pages = b.pages.map (b.finished context) := by
    intro pages
    rw [countPages_eq_ok_iff, List.forall_mem_map, List.countP_map, List.map_map]
    rfl
  constructor
  · rintro ⟨resolved, hfirst, hthen⟩
    obtain ⟨pages, hpreprocess, rfl⟩ := onAll_eq_ok.mp hfirst
    obtain ⟨pages', hprocess, rfl⟩ := onAll_eq_ok.mp hthen
    obtain ⟨hresolves, hn, rfl⟩ := countPages_eq_ok_iff.mp hpreprocess
    obtain ⟨hinjects, hm, rfl⟩ := (hsecond pages').mp (hinject.symm.trans hprocess)
    exact ⟨fun p hp => ⟨hresolves p hp, hinjects p hp⟩, hn, hm, rfl⟩
  · rintro ⟨hall, hn, hm, rfl⟩
    have hpreprocess := countPages_eq_ok_iff.mpr ⟨fun p hp => (hall p hp).1, hn, rfl⟩
    have hprocess := (hsecond _).mpr ⟨fun p hp => (hall p hp).2, hm, rfl⟩
    exact ⟨_, onAll_eq_ok.mpr ⟨_, hpreprocess, rfl⟩, onAll_eq_ok.mpr ⟨_, hinject.trans hprocess, rfl⟩⟩

/-! ### what a schedule answers -/

theorem answer_of_page {t : Task} {p : Page} (h : b.pages[t.page]? = some p) :
    b.answer context t = (b.act context t (b.given p t)).1.map .flag := by
  rw [answer, h]

/-- All answers of a schedule are right if nothing fails on any page. -/
theorem answers_ok_iff (context : String) (h : IsSchedule b.pages.length tasks) :
    (∀ a ∈ b.answers context tasks, ∃ answer, a = .ok answer) ↔ ∀ p ∈ b.pages, b.PageCompletes context p := by
  have hanswered : ∀ (t : Task) (p : Page), b.pages[t.page]? = some p →
      ((∃ answer, b.answer context t = .ok answer) ↔ Passes (b.act context t) (b.given p t)) := by
    intro t p hp
    rw [answer_of_page hp]
    constructor
    · rintro ⟨answer, hanswer⟩
      obtain ⟨applied, happlied, _⟩ := map_eq_ok.mp hanswer
      exact ⟨applied, happlied⟩
    · rintro ⟨applied, happlied⟩
      exact ⟨.flag applied, map_eq_ok.mpr ⟨applied, happlied, rfl⟩⟩
  rw [(run_of_isSchedule context h).1, List.forall_mem_map]
  constructor
  · intro hall p hp
    obtain ⟨i, hi⟩ := List.getElem?_of_mem hp
    have hlt : i < b.pages.length := (List.getElem?_eq_some_iff.mp hi).1
    have hmem : ∀ t : Task, t.page = i → t ∈ tasks := by
      rintro t rfl
      exact h.complete.mem_iff.mpr (Task.mem_all.mpr hlt)
    exact ⟨(hanswered (.resolve i) p hi).mp (hall _ (hmem _ rfl)),
      (hanswered (.inject i) p hi).mp (hall _ (hmem _ rfl))⟩
  · intro hall t ht
    have hlt : t.page < b.pages.length := Task.mem_all.mp (h.complete.mem_iff.mp ht)
    obtain ⟨hresolves, hinjects⟩ := hall b.pages[t.page] (List.getElem_mem hlt)
    refine (hanswered t _ (List.getElem?_eq_getElem hlt)).mpr ?_
    cases t with
    | resolve i => exact hresolves
    | inject i => exact hinjects

theorem countP_range (pages : List Page) {f : Nat → Bool} {g : Page → Bool}
    (h : ∀ i p, pages[i]? = some p → f i = g p) : (List.range pages.length).countP f = pages.countP g := by
  have hfst : pages = pages.zipIdx.map Prod.fst := (List.zipIdx_map_fst 0 pages).symm
  have hsnd : List.range pages.length = pages.zipIdx.map Prod.snd := by
    rw [List.zipIdx_map_snd, List.range_eq_range']
  conv_rhs => rw [hfst]
  rw [hsnd, List.countP_map, List.countP_map]
  refine List.countP_congr fun q hq => ?_
  have hq : pages[q.2]? = some q.1 := List.mem_zipIdx_iff_getElem?.mp hq
  rw [Function.comp, Function.comp, h q.2 q.1 hq]

theorem yes_eq_applies {act : Page → Except Failure Bool × Page} (p : Page) :
    decide ((act p).1.map Answer.flag = .ok (.flag true)) = applies act p := by
  rw [applies]
  cases (act p).1 with
  | error e => rfl
  | ok applied => cases applied <;> rfl

/-- The answers of a schedule count the pages that the tasks apply to. -/
theorem countYes_of_isSchedule (context : String) (h : IsSchedule b.pages.length tasks) :
    b.countYes context tasks Task.isResolve = b.pages.countP (applies (Page.resolve b.resolver b.normalize)) ∧
      b.countYes context tasks (fun t => !t.isResolve) =
        b.pages.countP (fun p => applies (Page.inject context) (p.resolve b.resolver b.normalize).2) := by
  have hcount : ∀ kind : Task → Bool, b.countYes context tasks kind =
      (List.range b.pages.length).countP
          (fun i => kind (.resolve i) && decide (b.answer context (.resolve i) = .ok (.flag true))) +
        (List.range b.pages.length).countP
          (fun i => kind (.inject i) && decide (b.answer context (.inject i) = .ok (.flag true))) := by
    intro kind
    rw [countYes, (run_of_isSchedule context h).1, ← List.map_prod_left_eq_zip, List.countP_map, h.complete.countP_eq,
      Task.all, List.countP_append, List.countP_map, List.countP_map]
    rfl
  have hresolve : ∀ i p, b.pages[i]? = some p → decide (b.answer context (.resolve i) = .ok (.flag true)) =
      applies (Page.resolve b.resolver b.normalize) p := by
    intro i p hp
    rw [answer_of_page (t := .resolve i) hp]
    exact yes_eq_applies p
  have hinject : ∀ i p, b.pages[i]? = some p → decide (b.answer context (.inject i) = .ok (.flag true)) =
      applies (Page.inject context) (p.resolve b.resolver b.normalize).2 := by
    intro i p hp
    rw [answer_of_page (t := .inject i) hp]
    exact yes_eq_applies (p.resolve b.resolver b.normalize).2
  constructor
  · simp only [hcount, Task.isResolve, Bool.true_and, Bool.false_and, List.countP_false, Function.const_apply,
      Nat.add_zero, countP_range b.pages hresolve]
  · simp only [hcount, Task.isResolve, Bool.not_true, Bool.not_false, Bool.true_and, Bool.false_and,
      List.countP_false, Function.const_apply, Nat.zero_add, countP_range b.pages hinject]

/-! ### agreement -/

/-- **All schedules agree.** Let every page have a document. If every page is resolved before its metadata is put into
its document, in whatever order this is done, all of the steps succeed if and only if both steps on all pages succeed,
and then the pages are the same, and so are the numbers of pages that the steps apply to. If the pages are listed in
another order, this has no effect on what is made of each of them. -/
theorem schedules_agree (b : Build) (context : String) (tasks : List Task)
    (hdocuments : ∀ p ∈ b.pages, p.document.isSome = true) (h : IsSchedule b.pages.length tasks) :
    ((∀ a ∈ b.answers context tasks, ∃ answer, a = .ok answer) ↔ ∃ n m b', b.Completes context n m b') ∧
    ∀ n m b', b.Completes context n m b' →
      b.after (tasks.map (Task.step context)) = b' ∧
      b.countYes context tasks Task.isResolve = n ∧
      b.countYes context tasks (fun t => !t.isResolve) = m ∧
      ∀ pages, pages.Perm b.pages → ∃ pages',
        Completes { b with pages := pages } context n m { b with pages := pages' } ∧
        (pages.zip pages').Perm (b.pages.zip b'.pages) := by
  constructor
  · rw [answers_ok_iff context h]
    constructor
    · exact fun hall => ⟨_, _, _, (completes_iff hdocuments).mpr ⟨hall, rfl, rfl, rfl⟩⟩
    · rintro ⟨n, m, b', hcompletes⟩
      exact ((completes_iff hdocuments).mp hcompletes).1
  · intro n m b' hcompletes
    obtain ⟨hall, rfl, rfl, rfl⟩ := (completes_iff hdocuments).mp hcompletes
    obtain ⟨hresolves, hinjects⟩ := countYes_of_isSchedule context h
    refine ⟨(run_of_isSchedule context h).2, hresolves, hinjects, fun pages hperm => ?_⟩
    refine ⟨pages.map (b.finished context), ?_, ?_⟩
    · refine (completes_iff (b := { b with pages := pages }) fun p hp => hdocuments p (hperm.mem_iff.mp hp)).mpr ?_
      exact ⟨fun p hp => hall p (hperm.mem_iff.mp hp), (hperm.countP_eq _).symm, (hperm.countP_eq _).symm, rfl⟩
    · rw [← List.map_prod_left_eq_zip, ← List.map_prod_left_eq_zip]
      exact hperm.map _

/-- A page with metadata and one without, both with a document. -/
def renderedBuild : Build where
  normalize := exampleSite.url
  resolver := .standard
  pages := [
    ⟨"/first/", [(.str declaredKey, .map [(.str "url", .str "site-url:self")])], some Page.bareDocument⟩,
    ⟨"/second/", [], some Page.bareDocument⟩]

theorem renderedBuild_agrees : ∃ b', renderedBuild.Completes standardContext 1 1 b' ∧
    renderedBuild.after [.resolve 1, .inject 1 standardContext, .resolve 0, .inject 0 standardContext] = b' := by
  have hdocuments : ∀ p ∈ renderedBuild.pages, p.document.isSome = true := by decide
  have hschedule : IsSchedule renderedBuild.pages.length [.resolve 1, .inject 1, .resolve 0, .inject 0] :=
    ⟨by decide, by decide⟩
  have hanswers : renderedBuild.answers standardContext [.resolve 1, .inject 1, .resolve 0, .inject 0] =
      [.ok (.flag false), .ok (.flag false), .ok (.flag true), .ok (.flag true)] := by decide +kernel
  obtain ⟨hsucceeds, hagrees⟩ := schedules_agree renderedBuild standardContext _ hdocuments hschedule
  obtain ⟨n, m, b', hcompletes⟩ := hsucceeds.mp (by rw [hanswers]; simp)
  obtain ⟨hafter, hn, hm, _⟩ := hagrees n m b' hcompletes
  rw [countYes, hanswers] at hn hm
  obtain rfl : 1 = n := hn
  obtain rfl : 1 = m := hm
  exact ⟨b', hcompletes, hafter⟩

end Outcomes

end LinkedData.Build
