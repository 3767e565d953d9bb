import LinkedData.LogLevel
import LinkedData.Proofs.Text.Ascii

/-!
# Logs that are configured again and again

However often a log is configured, with whatever names, it has one handler afterwards, and it has the level that was
asked for last, unless the name is one of the two that are refused.

* `EqualUpToCase`: texts that are the same in upper case, as those are that only differ in the case of letters
  (`equalUpToCase_of_letters`);
* `mem_levels_iff`: the names and numbers of levels;
* `LogCall`, `LogCall.Names`, `LogCall.AsksFor`: a call that configures a log, and the level that it asks for;
* `LogCall.levelNumber_cases`: a name is that of the format, or of the styles, or it asks for a level;
* `Log.after`, `Log.handlers_after`: the log after any number of calls, which has one handler at most;
* `Log.configured_again`: what one more call does.
-/

namespace LinkedData

/-! ### names in any case -/

/-- The two texts are equal but for the case of their letters. -/
def EqualUpToCase (a b : String) : Prop := upperName a = upperName b

theorem upperChar_toUpper (c : Char) : upperChar c.toUpper = upperChar c := by
  by_cases hc : c.toNat < 123
  · have hall : ∀ n < 123, upperChar (Char.ofNat n).toUpper = upperChar (Char.ofNat n) := by decide +kernel
    exact Text.forall_char_lt (P := fun c => upperChar c.toUpper = upperChar c) hall hc
  · -- behind the letter z nothing has an upper case in ASCII
    have hsame : c.toUpper = c := by
      refine dif_neg fun hlower => hc ?_
      have hle : c.toNat ≤ 122 := UInt32.le_iff_toNat_le.mp hlower.2
      exact Nat.lt_succ_of_le hle
    rw [hsame]

/-- Texts that only differ in the case of ASCII letters are equal up to case. -/
theorem equalUpToCase_of_letters {a b : String} (h : a.toList.map Char.toUpper = b.toList.map Char.toUpper) :
    EqualUpToCase a b := by
  have hupper : ∀ cs : List Char, cs.flatMap upperChar = (cs.map Char.toUpper).flatMap upperChar := by
    intro cs
    simp only [List.flatMap_map, upperChar_toUpper]
  rw [EqualUpToCase, upperName, upperName, hupper, h, ← hupper]

/-! ### levels -/

theorem mem_levels_iff {name : String} {n : Nat} : (name, n) ∈ levels ↔ levels.lookup name = some n := by
  constructor
  · intro h
    have hall : ∀ e ∈ levels, levels.lookup e.1 = some e.2 := by decide
    exact hall (name, n) h
  · intro h
    obtain ⟨before, after, hsplit, _⟩ := List.lookup_eq_some_iff.mp h
    rw [hsplit]
    exact List.mem_append_right before List.mem_cons_self

/-- The names of levels are in upper case. -/
theorem upperName_of_mem_levels {name : String} {n : Nat} (h : (name, n) ∈ levels) : upperName name = name := by
  have hall : ∀ e ∈ levels, upperName e.1 = e.1 := by decide +kernel
  exact hall (name, n) h

/-! ### calls -/

/-- A call that configures a log: its argument, and the setting of the environment at the time. -/
structure LogCall where
  argument : Option String
  setting : Option String

namespace LogCall

/-- The name of the level: the argument, if there is one that is not empty, else the setting, if there is one. -/
def name (call : LogCall) : String := ((call.argument.filter (· ≠ "")).or call.setting).getD "INFO"

/-- The call gives a name, in any case. -/
def Names (call : LogCall) (name : String) : Prop := EqualUpToCase call.name name

/-- The call asks for the level of the number: that of the name which it gives, or `INFO` if it gives that of none. -/
inductive AsksFor (call : LogCall) : Nat → Prop
  | level {name : String} {n : Nat} : (name, n) ∈ levels → call.Names name → AsksFor call n
  | other {n : Nat} : ("INFO", n) ∈ levels → (∀ e ∈ levels, ¬ call.Names e.1) → AsksFor call n

variable (call : LogCall)

theorem levelName_eq : levelName call.argument call.setting = call.name := by
  obtain ⟨_ | argument, setting⟩ := call
  · rfl
  · rw [levelName, name, Option.filter_some]
    by_cases hempty : argument = ""
    · subst hempty
      rfl
    · rw [if_neg (mt String.isEmpty_iff.mp hempty), if_pos (decide_eq_true hempty)]
      rfl

theorem asksFor_iff {n : Nat} : call.AsksFor n ↔ (levels.lookup (upperName call.name)).getD standardLevel = n := by
  have hinfo : levels.lookup "INFO" = some standardLevel := by decide
  constructor
  · intro h
    cases h with
    | level hlevel hname =>
      have hupper : upperName call.name = _ := hname.trans (upperName_of_mem_levels hlevel)
      rw [hupper, mem_levels_iff.mp hlevel, Option.getD_some]
    | other hlevel hnone =>
      have hlookup : levels.lookup (upperName call.name) = none := by
        refine Option.eq_none_iff_forall_ne_some.mpr fun m hm => ?_
        have hmem := mem_levels_iff.mpr hm
        exact hnone _ hmem (upperName_of_mem_levels hmem).symm
      rw [hlookup, Option.getD_none]
      exact Option.some.inj (hinfo.symm.trans (mem_levels_iff.mp hlevel))
  · rintro rfl
    cases hlookup : levels.lookup (upperName call.name) with
    | none =>
      refine AsksFor.other (mem_levels_iff.mpr hinfo) fun e he hname => ?_
      have hupper : upperName call.name = e.1 := hname.trans (upperName_of_mem_levels he)
      rw [hupper, mem_levels_iff.mp he] at hlookup
      cases hlookup
    | some m =>
      have hmem := mem_levels_iff.mpr hlookup
      exact AsksFor.level hmem (upperName_of_mem_levels hmem).symm

/-- What a call asks for: the format or the styles, both of which are refused, or a level. -/
theorem levelNumber_cases :
    call.Names "BASIC_FORMAT" ∧ levelNumber call.name = .error .levelIsFormat ∨
      call.Names "_STYLES" ∧ levelNumber call.name = .error .levelIsStyles ∨
        ¬ call.Names "BASIC_FORMAT" ∧ ¬ call.Names "_STYLES" ∧
          ∃ n, levelNumber call.name = .ok n ∧ ∀ m, n = m ↔ call.AsksFor m := by
  have hformat : upperName "BASIC_FORMAT" = "BASIC_FORMAT" := by decide +kernel
  have hstyles : upperName "_STYLES" = "_STYLES" := by decide +kernel
  rw [Names, Names, EqualUpToCase, EqualUpToCase, hformat, hstyles, levelNumber]
  by_cases hisFormat : upperName call.name = "BASIC_FORMAT"
  · exact Or.inl ⟨hisFormat, if_pos hisFormat⟩
  · by_cases hisStyles : upperName call.name = "_STYLES"
    · exact Or.inr (Or.inl ⟨hisStyles, (if_neg hisFormat).trans (if_pos hisStyles)⟩)
    · refine Or.inr (Or.inr ⟨hisFormat, hisStyles, _, (if_neg hisFormat).trans (if_neg hisStyles), fun m => ?_⟩)
      exact (asksFor_iff call).symm

end LogCall

/-! ### logs -/

namespace Log

variable {log : Log}

/-- The log after it was configured by one call after the other, refused ones among them. -/
def after (log : Log) (calls : List LogCall) : Log :=
  calls.foldl (fun log call => (log.configure call.argument call.setting).2) log

section Configure

variable (h : log.handlers ≤ 1) (call : LogCall)
include h

theorem handlers_eq : (if log.handlers = 0 then 1 else log.handlers) = 1 := by
  split <;> omega

theorem configure_of_ok {n : Nat} (hlevel : levelNumber call.name = .ok n) :
    log.configure call.argument call.setting = (.ok (), ⟨n, 1⟩) := by
  simp only [configure, call.levelName_eq, hlevel, handlers_eq h]

/-- The log has its handler also if the level is refused. -/
theorem configure_of_error {e : Failure} (hlevel : levelNumber call.name = .error e) :
    log.configure call.argument call.setting = (.error e, ⟨log.level, 1⟩) := by
  simp only [configure, call.levelName_eq, hlevel, handlers_eq h]

theorem handlers_configure : (log.configure call.argument call.setting).2.handlers = 1 := by
  cases hlevel : levelNumber call.name with
  | ok n => rw [configure_of_ok h call hlevel]
  | error e => rw [configure_of_error h call hlevel]

end Configure

/-- However often a log is configured, it has one handler at most. -/
theorem handlers_after (h : log.handlers ≤ 1) (calls : List LogCall) : (log.after calls).handlers ≤ 1 := by
  induction calls generalizing log with
  | nil => exact h
  | cons call calls ih => exact ih (Nat.le_of_eq (handlers_configure h call))

/-- **A log may be configured again and again.** After any calls, one more call leaves the log with exactly one handler.
It succeeds unless it gives, in any case, the name of the format or of the styles. If it succeeds, the log has the level
whose name it gives, in any case, or `INFO` if that is the name of no level. If it is refused, the level stays. -/
theorem configured_again (log : Log) (h : log.handlers ≤ 1) (earlier : List LogCall) (call : LogCall) :
    let before := log.after earlier
    let result := before.configure call.argument call.setting
    result.2.handlers = 1 ∧
      (result.1 = .ok () ↔ ¬ call.Names "BASIC_FORMAT" ∧ ¬ call.Names "_STYLES") ∧
      (result.1 = .ok () → ∀ n, result.2.level = n ↔ call.AsksFor n) ∧
      (∀ e, result.1 = .error e → result.2.level = before.level ∧
        (call.Names "BASIC_FORMAT" ∧ e = .levelIsFormat ∨ call.Names "_STYLES" ∧ e = .levelIsStyles)) := by
  intro before result
  have hbefore : before.handlers ≤ 1 := handlers_after h earlier
  refine ⟨handlers_configure hbefore call, ?_⟩
  rcases call.levelNumber_cases with ⟨hname, hrefused⟩ | ⟨hname, hrefused⟩ | ⟨hformat, hstyles, n, hlevel, hasks⟩
  · have hresult : result = _ := configure_of_error hbefore call hrefused
    rw [hresult]
    refine ⟨iff_of_false (fun h => nomatch h) fun h => h.1 hname, (fun h => nomatch h), ?_⟩
    rintro e ⟨⟩
    exact ⟨rfl, Or.inl ⟨hname, rfl⟩⟩
  · have hresult : result = _ := configure_of_error hbefore call hrefused
    rw [hresult]
    refine ⟨iff_of_false (fun h => nomatch h) fun h => h.2 hname, (fun h => nomatch h), ?_⟩
    rintro e ⟨⟩
    exact ⟨rfl, Or.inr ⟨hname, rfl⟩⟩
  · have hresult : result = _ := configure_of_ok hbefore call hlevel
    rw [hresult]
    exact ⟨iff_of_true rfl ⟨hformat, hstyles⟩, fun _ => hasks, fun e h => nomatch h⟩

/-- Calls before the last one: one that is refused, and one whose name is that of a level in lower case. -/
def earlierCalls : List LogCall := [⟨some "_Styles", none⟩, ⟨some "debug", some "ERROR"⟩]

/-- An empty argument leaves it to the environment, and a name with a dotless letter is that of a level. -/
theorem warning_after_earlierCalls :
    initial.handlers ≤ 1 ∧ initial.after earlierCalls = ⟨10, 1⟩ ∧
      ((initial.after earlierCalls).configure (some "") (some "Warnıng")).1 = .ok () ∧
      ((initial.after earlierCalls).configure (some "") (some "Warnıng")).2 = ⟨30, 1⟩ ∧
      LogCall.AsksFor ⟨some "", some "Warnıng"⟩ 30 ∧
      ¬ LogCall.AsksFor ⟨some "", some "Warnıng"⟩ standardLevel := by
  have hhandlers : initial.handlers ≤ 1 := Nat.zero_le 1
  have hresult : (initial.after earlierCalls).configure (some "") (some "Warnıng") = (.ok (), ⟨30, 1⟩) := by
    rfl
  have hok := congrArg Prod.fst hresult
  have hlog := congrArg Prod.snd hresult
  obtain ⟨_, _, hasks, _⟩ := configured_again initial hhandlers earlierCalls ⟨some "", some "Warnıng"⟩
  refine ⟨hhandlers, by decide +kernel, hok, hlog, (hasks hok 30).mp (congrArg level hlog), fun hinfo => ?_⟩
  cases ((hasks hok standardLevel).mpr hinfo).symm.trans (congrArg level hlog)

/-- The name of the format is that of no level, but it is refused, and the level stays. -/
theorem format_refused :
    LogCall.AsksFor ⟨some "basic_format", none⟩ standardLevel ∧
      initial.configure (some "basic_format") none = (.error .levelIsFormat, ⟨30, 1⟩) := by
  constructor
  · exact (LogCall.asksFor_iff _).mpr (by decide +kernel)
  · rfl

end Log

end LinkedData
