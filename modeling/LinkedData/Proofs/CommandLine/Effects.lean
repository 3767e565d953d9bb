import LinkedData.CommandLine.Standard
import LinkedData.Proofs.Outcome

/-!
# What runs do, and when

A run does everything that may fail before it prints or writes anything.

* `Action.Tells`: the action has no output, it only tells lines about the run;
* `Action.EndsWithOutput`: its last effect may be an output, which it does not have if it ends with a problem;
* `Action.EndsWithOutput.after`: an action with this property after one without output has it, too;
* `Invocation.perform_endsWithOutput`: so has every invocation, stage by stage;
* `run_all_or_nothing`: a run with an exit code other than 0 changes nothing.
-/

namespace LinkedData.CommandLine

open Files

/-! ### actions without output and with a last one -/

namespace Action

variable {α β : Type} {x : Action α} {f : α → Action β} {p : Problem}

/-- The action has no effects but lines about the run. -/
def Tells (x : Action α) : Prop := ∃ lines : List String, x.effects = lines.map Effect.tell

/-- The action tells lines about the run, and then it may have one output, unless it ends with a problem. -/
def EndsWithOutput (x : Action α) : Prop :=
  ∃ (lines : List String) (out : List Effect), x.effects = lines.map Effect.tell ++ out ∧ out.length ≤ 1 ∧
    ∀ p, x.result = .error p → out = []

theorem of_error_bind (p : Problem) (f : α → Action β) : of (.error p) >>= f = of (.error p) := rfl

theorem tells_of (r : Except Problem α) : (of r).Tells := ⟨[], rfl⟩

theorem tells_tell (line : String) : (perform (.tell line)).Tells := ⟨[line], rfl⟩

theorem Tells.endsWithOutput (h : x.Tells) : x.EndsWithOutput := by
  obtain ⟨lines, hlines⟩ := h
  exact ⟨lines, [], by rw [hlines, List.append_nil], Nat.zero_le 1, fun _ _ => rfl⟩

/-- A single effect that does not fail may be an output. -/
theorem endsWithOutput_perform (e : Effect) : (perform e).EndsWithOutput :=
  ⟨[], [e], rfl, Nat.le_refl 1, by rintro _ ⟨⟩⟩

/-- After an action without output, an action keeps its output as the last effect. -/
theorem EndsWithOutput.after (hf : ∀ a, (f a).EndsWithOutput) (hx : x.Tells) : (x >>= f).EndsWithOutput := by
  obtain ⟨told, htold⟩ := hx
  show (x.andThen f).EndsWithOutput
  rw [andThen]
  cases hresult : x.result with
  | error p => exact ⟨told, [], by rw [htold, List.append_nil], Nat.zero_le 1, fun _ _ => rfl⟩
  | ok a =>
    obtain ⟨lines, out, heffects, hout, hfails⟩ := hf a
    refine ⟨told ++ lines, out, ?_, hout, hfails⟩
    show x.effects ++ (f a).effects = _
    rw [htold, heffects, List.map_append, List.append_assoc]

/-- So does it after a computation. -/
theorem EndsWithOutput.computed (hf : ∀ a, (f a).EndsWithOutput) (r : Except Problem α) :
    (of r >>= f).EndsWithOutput :=
  EndsWithOutput.after hf (tells_of r)

end Action

/-! ### tasks -/

theorem printLine_endsWithOutput (tk : Toolkit) (text : String) : (printLine tk text).EndsWithOutput :=
  Action.EndsWithOutput.computed (fun shown => Action.endsWithOutput_perform (.print shown)) _

theorem writeFile_endsWithOutput (d : Directory) (path : Path) (text : String) :
    (writeFile d path text).EndsWithOutput :=
  Action.EndsWithOutput.computed (fun place => Action.endsWithOutput_perform (.write place text)) _

theorem printTree_endsWithOutput (tk : Toolkit) (s : Settings) (wrapped : Bool) (tree : Value) :
    (printTree tk s wrapped tree).EndsWithOutput :=
  Action.EndsWithOutput.computed (printLine_endsWithOutput tk) _

theorem deliver_endsWithOutput (tk : Toolkit) (d : Directory) (output : Option Path) (text : String) :
    (deliver tk d output text).EndsWithOutput := by
  cases output with
  | none => exact printLine_endsWithOutput tk text
  | some path => exact writeFile_endsWithOutput d path text

theorem embedTree_endsWithOutput (tk : Toolkit) (d : Directory) (s : Settings) (page : Page) (document : Path)
    (output : Option Path) : (embedTree tk d s page document output).EndsWithOutput := by
  refine Action.EndsWithOutput.computed (fun text => ?_) _
  exact Action.EndsWithOutput.computed (fun (result, _) => deliver_endsWithOutput tk d output result) _

namespace Invocation

theorem tellUndeclared_tells (i : Invocation) (tk : Toolkit) : (i.tellUndeclared tk).Tells := by
  rw [tellUndeclared, tellNotice]
  cases (tk.notice noticeStyle ("No structured data declared in " ++ i.page.text)).mapError Problem.failure with
  | error p => exact Action.tells_of (.error p)
  | ok shown => exact Action.tells_tell shown

theorem carryOut_endsWithOutput (i : Invocation) (tk : Toolkit) (d : Directory) (s : Settings) (page : Page) :
    (i.carryOut tk d s page).EndsWithOutput := by
  rw [carryOut]
  split
  · split
    · exact (i.tellUndeclared_tells tk).endsWithOutput
    · exact printTree_endsWithOutput tk s _ _
  · split
    · exact embedTree_endsWithOutput tk d s page _ _
    · exact Action.EndsWithOutput.after (fun _ => embedTree_endsWithOutput tk d s page _ _) (i.tellUndeclared_tells tk)

/-- Settings, data and resolution have no effects, so an invocation ends with its output. -/
theorem perform_endsWithOutput (i : Invocation) (tk : Toolkit) (d : Directory) (env : Environment) :
    (i.perform tk d env).EndsWithOutput :=
  Action.EndsWithOutput.computed (fun (s, page) => i.carryOut_endsWithOutput tk d s page) _

end Invocation

/-! ### stages before the task -/

namespace Invocation

variable {i : Invocation} {tk : Toolkit} {d : Directory} {env : Environment} {s : Settings} {page : Page} {p : Problem}

/-- Settings, data or resolution fail with a problem. -/
inductive FailsBeforehand (i : Invocation) (tk : Toolkit) (d : Directory) (env : Environment) : Prop
  | settings {p : Problem} : i.settings tk d env = .error p → FailsBeforehand i tk d env
  | data {p : Problem} : i.readPage tk d = .error p → FailsBeforehand i tk d env
  | resolution {s : Settings} {page : Page} {e : Failure} : i.settings tk d env = .ok s → i.readPage tk d = .ok page →
      (page.resolve s.resolver s.site.url).1 = .error e → FailsBeforehand i tk d env

/-- What is ready for the task: settings, and a page that is resolved. -/
theorem prepare_eq_ok : i.prepare tk d env = .ok (s, page) ↔
    i.settings tk d env = .ok s ∧ i.configureLog s env = .ok () ∧ ∃ before declared, i.readPage tk d = .ok before ∧
      before.resolve s.resolver s.site.url = (.ok declared, page) := by
  rw [prepare, bind_eq_ok]
  constructor
  · rintro ⟨s', hsettings, h⟩
    obtain ⟨⟨⟩, hlog, h⟩ := bind_eq_ok.mp h
    obtain ⟨before, hread, h⟩ := bind_eq_ok.mp h
    split at h
    · cases h
    · next declared resolved hresolve =>
      obtain ⟨rfl, rfl⟩ := Prod.mk.inj (Except.ok.inj h)
      exact ⟨hsettings, hlog, before, declared, hread, hresolve⟩
  · rintro ⟨hsettings, hlog, before, declared, hread, hresolve⟩
    refine ⟨s, hsettings, bind_eq_ok.mpr ⟨(), hlog, bind_eq_ok.mpr ⟨before, hread, ?_⟩⟩⟩
    rw [hresolve]
    rfl

theorem prepare_of_failsBeforehand (h : i.FailsBeforehand tk d env) : ∃ p, i.prepare tk d env = .error p := by
  cases hprepare : i.prepare tk d env with
  | error p => exact ⟨p, rfl⟩
  | ok prepared =>
    obtain ⟨s, page⟩ := prepared
    obtain ⟨hsettings, _, before, declared, hread, hresolve⟩ := prepare_eq_ok.mp hprepare
    cases h with
    | settings hfails =>
      rw [hsettings] at hfails
      cases hfails
    | data hfails =>
      rw [hread] at hfails
      cases hfails
    | resolution hs hpage hfails =>
      obtain rfl := Except.ok.inj (hsettings.symm.trans hs)
      obtain rfl := Except.ok.inj (hread.symm.trans hpage)
      rw [hresolve] at hfails
      cases hfails

theorem perform_of_prepare (h : i.prepare tk d env = .error p) : i.perform tk d env = .of (.error p) := by
  rw [perform, h, Action.of_error_bind]

end Invocation

/-! ### runs -/

section Runs

variable {tk : Toolkit} {debug : Bool} {a : Action Unit} {p : Problem} {line : String} {d : Directory} {env : Environment}
  {arguments : List String} {i : Invocation}

theorem Action.outcome_of_ok (h : a.result = .ok ()) (tk : Toolkit) (debug : Bool) :
    a.outcome tk debug = ⟨a.effects, .finished⟩ := by
  simp only [Action.outcome, h]

/-- A problem adds nothing but its line. -/
theorem Action.outcome_of_error (h : a.result = .error p) (tk : Toolkit) (debug : Bool) :
    ∃ lines : List String, (a.outcome tk debug).effects = a.effects ++ lines.map Effect.tell ∧
      (a.outcome tk debug).exitCode = 1 := by
  simp only [Action.outcome, h]
  split
  · next line _ => exact ⟨[line], rfl, rfl⟩
  · exact ⟨[], (List.append_nil a.effects).symm, rfl⟩
  · exact ⟨[], (List.append_nil a.effects).symm, rfl⟩

theorem run_of_invocation (h : tk.request d arguments = .run i) (env : Environment) :
    run tk d env arguments = (i.perform tk d env).outcome tk i.debug := by
  rw [run, h]

theorem filterMap_printed?_tell (lines : List String) : (lines.map Effect.tell).filterMap Effect.printed? = [] := by
  rw [List.filterMap_map]
  exact List.filterMap_eq_nil_iff.mpr fun _ _ => rfl

theorem filterMap_written?_tell (lines : List String) : (lines.map Effect.tell).filterMap Effect.written? = [] := by
  rw [List.filterMap_map]
  exact List.filterMap_eq_nil_iff.mpr fun _ _ => rfl

/-- Lines about a run are no output. -/
theorem Outcome.silent_of_tells {o : Outcome} {lines : List String} (h : o.effects = lines.map Effect.tell) :
    o.printed = "" ∧ o.written = [] := by
  rw [Outcome.printed, Outcome.written, h, filterMap_printed?_tell, filterMap_written?_tell]
  exact ⟨rfl, rfl⟩

/-- A run tells lines, and then it may have one output, if its exit code is 0. -/
theorem run_effects (tk : Toolkit) (d : Directory) (env : Environment) (arguments : List String) :
    ∃ (lines : List String) (out : List Effect), (run tk d env arguments).effects = lines.map Effect.tell ++ out ∧
      out.length ≤ 1 ∧ ((run tk d env arguments).exitCode ≠ 0 → out = []) := by
  cases hrequest : tk.request d arguments with
  | misuse =>
    rw [run, hrequest]
    exact ⟨[], [], rfl, Nat.zero_le 1, fun _ => rfl⟩
  | help text =>
    rw [run, hrequest]
    exact ⟨[], [.print text], rfl, Nat.le_refl 1, fun h => absurd rfl h⟩
  | run i =>
    rw [run_of_invocation hrequest]
    obtain ⟨lines, out, heffects, hout, hfails⟩ := i.perform_endsWithOutput tk d env
    cases hresult : (i.perform tk d env).result with
    | ok u =>
      rw [Action.outcome_of_ok hresult]
      exact ⟨lines, out, heffects, hout, fun h => absurd rfl h⟩
    | error p =>
      obtain ⟨more, hmore, _⟩ := Action.outcome_of_error hresult tk i.debug
      -- the action had no output, and the line about the problem is none
      obtain rfl := hfails p hresult
      refine ⟨lines ++ more, [], ?_, hout, fun _ => rfl⟩
      rw [hmore, heffects, List.append_nil, List.append_nil, List.map_append]

/-- **A run does all or nothing**, whatever the libraries do that it is built on. A run tells lines and has at most one
output, which comes last. If its exit code is not 0, then it prints nothing and writes nothing, whatever it failed at. If
settings, data or resolution fail, then the exit code is 1, and a problem that has a line is told, unless the run is to
show problems as they are. -/
theorem run_all_or_nothing (tk : Toolkit) (d : Directory) (env : Environment) (arguments : List String) :
    (∃ (lines : List String) (out : List Effect),
      (run tk d env arguments).effects = lines.map Effect.tell ++ out ∧ out.length ≤ 1) ∧
    ((run tk d env arguments).exitCode ≠ 0 →
      (run tk d env arguments).printed = "" ∧ (run tk d env arguments).written = [] ∧
        (run tk d env arguments).directory d = d) ∧
    ∀ i, tk.request d arguments = .run i →
      (i.FailsBeforehand tk d env → (run tk d env arguments).exitCode = 1) ∧
      ∀ p line, i.prepare tk d env = .error p → tk.line? p = some (.ok line) → i.debug = false →
        run tk d env arguments = ⟨[.tell line], .reported line⟩ := by
  obtain ⟨lines, out, heffects, hout, hfails⟩ := run_effects tk d env arguments
  refine ⟨⟨lines, out, heffects, hout⟩, fun hcode => ?_, fun i hi => ⟨fun hbefore => ?_, ?_⟩⟩
  · obtain rfl := hfails hcode
    rw [List.append_nil] at heffects
    obtain ⟨hprinted, hwritten⟩ := Outcome.silent_of_tells heffects
    refine ⟨hprinted, hwritten, ?_⟩
    rw [Outcome.directory, hwritten]
    rfl
  · obtain ⟨p, hp⟩ := Invocation.prepare_of_failsBeforehand hbefore
    rw [run_of_invocation hi, Invocation.perform_of_prepare hp]
    obtain ⟨_, _, hcode⟩ := Action.outcome_of_error (a := Action.of (.error p)) rfl tk i.debug
    exact hcode
  · intro p line hp hline hdebug
    rw [run_of_invocation hi, Invocation.perform_of_prepare hp, hdebug]
    simp only [Action.outcome, Action.of, hline]
    rfl

/-- A page that looks up what it does not have. -/
def lackingDirectory : Directory :=
  Directory.ofList [("page.yml", .file (.text "structured_data:\n  name: lume-data:title\n"))]

/-- What is told about it. -/
def lackingLine : String := "Structured data error: Invalid structured data in page '/': Value not found: title"

/-- A run on this page. -/
def lackingRun : Outcome := run .standard lackingDirectory [] ["resolve", "page.yml"]

theorem lackingDirectory_stays : lackingRun.exitCode = 1 ∧ lackingRun.told = [lackingLine] ∧
    lackingRun.directory lackingDirectory = lackingDirectory := by
  have hcode : lackingRun.exitCode = 1 := by decide +kernel
  have htold : lackingRun.told = [lackingLine] := by decide +kernel
  have hnothing := (run_all_or_nothing .standard lackingDirectory [] ["resolve", "page.yml"]).2.1
  exact ⟨hcode, htold, (hnothing (by rw [← lackingRun, hcode]; decide)).2.2⟩

end Runs

end LinkedData.CommandLine
