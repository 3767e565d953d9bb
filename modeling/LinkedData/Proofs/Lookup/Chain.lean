import LinkedData.Proofs.Lookup
import LinkedData.Proofs.Text.Digit

/-!
# Lookups meet their specification

A path leads from value to value, each the child of the one before it, or it fails at its first segment that leads no
further.

* `Value.IsChild`: what a segment names in a value, with `child?_eq_some_iff`;
* `Value.Chain`: the values along a path;
* `Value.Stops`: how a chain that ends at a segment is reported;
* `Value.MeetsOverlong`: the one way in which a lookup goes wrong, with `extract_eq_overlongIndex`;
* `extract_eq_ok_iff`, `extract_eq_error_iff`: any other lookup is a chain, or one that stops;
* `extract_append`: a path in two parts;
* `extract_meets_spec`: all of this.
-/

namespace LinkedData

open Text

variable {data u v w : Value} {path rest before after : List String} {segment : String} {e : Failure}

/-! ### one step -/

/-- What a segment names: in a mapping the value under that very text, in a list or tuple the item whose number the
digits of the segment write. -/
inductive Value.IsChild : Value → String → Value → Prop
  | entry {before after : Entries} {segment : String} {u : Value} : (∀ f ∈ before, f.1 ≠ .str segment) →
      IsChild (.map (before ++ (.str segment, u) :: after)) segment u
  | listItem {items : List Value} {segment : String} {n : Nat} {u : Value} : Denotes segment.toList n →
      items[n]? = some u → IsChild (.list items) segment u
  | tupleItem {items : List Value} {segment : String} {n : Nat} {u : Value} : Denotes segment.toList n →
      items[n]? = some u → IsChild (.tuple items) segment u

/-- An index with too many digits is applied to a list or tuple. -/
def Value.Overlong (v : Value) (segment : String) : Prop :=
  v.isSequence = true ∧ (∃ n, Denotes segment.toList n) ∧ digitLimit < segment.length

theorem itemAt?_eq_some_iff {items : List Value} :
    itemAt? items segment = some u ↔ ∃ n, Denotes segment.toList n ∧ items[n]? = some u := by
  simp only [itemAt?, Option.bind_eq_some_iff, readNat?_eq_some_iff]

theorem child?_eq_some_iff : v.child? segment = some u ↔ v.IsChild segment u := by
  cases v with
  | scalar _ | set _ =>
    constructor
    · rintro ⟨⟩
    · rintro ⟨⟩
  | map es =>
    show Entries.lookup? es segment = some u ↔ _
    rw [Entries.lookup?_eq_some_iff]
    constructor
    · rintro ⟨before, after, rfl, hbefore⟩
      exact Value.IsChild.entry hbefore
    · rintro ⟨hbefore⟩
      exact ⟨_, _, rfl, hbefore⟩
  | list items =>
    show itemAt? items segment = some u ↔ _
    rw [itemAt?_eq_some_iff]
    constructor
    · rintro ⟨n, hn, hitem⟩
      exact Value.IsChild.listItem hn hitem
    · rintro (_ | ⟨hn, hitem⟩)
      exact ⟨_, hn, hitem⟩
  | tuple items =>
    show itemAt? items segment = some u ↔ _
    rw [itemAt?_eq_some_iff]
    constructor
    · rintro ⟨n, hn, hitem⟩
      exact Value.IsChild.tupleItem hn hitem
    · rintro (_ | _ | ⟨hn, hitem⟩)
      exact ⟨_, hn, hitem⟩

theorem overlong_iff : (v.isSequence && isOverlongIndex segment) = true ↔ v.Overlong segment := by
  rw [Value.Overlong, exists_denotes_iff, Bool.and_eq_true, isOverlongIndex, Bool.and_eq_true, decide_eq_true_iff]
  constructor
  · rintro ⟨hsequence, hdigits, hlong⟩
    refine ⟨hsequence, ⟨?_, hdigits⟩, hlong⟩
    intro hempty
    rw [String.length, hempty] at hlong
    cases hlong
  · rintro ⟨hsequence, ⟨_, hdigits⟩, hlong⟩
    exact ⟨hsequence, hdigits, hlong⟩

theorem steps_iff : v.Steps segment u ↔ ¬ v.Overlong segment ∧ v.IsChild segment u ∧ u ≠ .null := by
  rw [Value.Steps, child?_eq_some_iff, ← overlong_iff, Bool.not_eq_true]

/-! ### chains -/

/-- Along the path each value is the child of the one before it, and none but the first is null. -/
inductive Value.Chain : Value → List String → Value → Prop
  | nil (v : Value) : Chain v [] v
  | cons {v u w : Value} {segment : String} {rest : List String} :
      v.IsChild segment u → u ≠ .null → Chain u rest w → Chain v (segment :: rest) w

/-- How a path is reported that leads to a value, but not on from there: the value has no children, or it has none of
that name other than null. -/
inductive Value.Stops (path : List String) (v : Value) (segment : String) : Failure → Prop
  | bare : v.isContainer = false → Stops path v segment (.fault (.notAnObject path segment))
  | absent : v.isContainer = true → (∀ u, v.IsChild segment u → u = .null) →
      Stops path v segment (.fault (.notFound path))

/-- The path comes to a list or tuple with an index that has too many digits. -/
def Value.MeetsOverlong (v : Value) (path : List String) : Prop :=
  ∃ before segment after u, path = before ++ segment :: after ∧ v.Chain before u ∧ u.Overlong segment

theorem Value.Leads.chain (h : v.Leads path w) : v.Chain path w := by
  induction h with
  | here v => exact Value.Chain.nil v
  | step hu _ ih =>
    obtain ⟨_, hchild, hnull⟩ := steps_iff.mp hu
    exact Value.Chain.cons hchild hnull ih

theorem Value.Chain.leads (h : v.Chain path w) (hmeets : ¬ v.MeetsOverlong path) : v.Leads path w := by
  induction h with
  | nil v => exact Value.Leads.here v
  | @cons v u w segment rest hchild hnull hrest ih =>
    have hoverlong : ¬ v.Overlong segment := fun h =>
      hmeets ⟨[], segment, rest, v, rfl, Value.Chain.nil v, h⟩
    refine Value.Leads.step (steps_iff.mpr ⟨hoverlong, hchild, hnull⟩) (ih ?_)
    rintro ⟨before, other, after, x, rfl, hbefore, hx⟩
    exact hmeets ⟨segment :: before, other, after, x, rfl, Value.Chain.cons hchild hnull hbefore, hx⟩

/-- A part of a path does not come to such an index if the whole does not. -/
theorem Value.MeetsOverlong.append (h : v.MeetsOverlong path) (after : List String) :
    v.MeetsOverlong (path ++ after) := by
  obtain ⟨before, segment, rest, u, rfl, hchain, hu⟩ := h
  exact ⟨before, segment, rest ++ after, u, by simp, hchain, hu⟩

theorem absent_iff :
    (v.child? segment).getD .null = .null ↔ ∀ u, v.IsChild segment u → u = .null := by
  cases hchild : v.child? segment with
  | none =>
    refine iff_of_true rfl fun u hu => ?_
    rw [← child?_eq_some_iff, hchild] at hu
    cases hu
  | some u =>
    simp only [← child?_eq_some_iff, hchild, Option.getD_some, Option.some.injEq]
    constructor
    · rintro rfl x rfl
      rfl
    · intro h
      exact h u rfl

/-! ### lookups -/

/-- A lookup along a chain that comes to an index with too many digits fails for that, if not at one before it. -/
theorem extractFrom_overlong (h : v.Chain before u) (hu : u.Overlong segment) :
    extractFrom path v (before ++ segment :: after) = .error .overlongIndex := by
  have hmisses : ∀ {x : Value} {s : String}, x.Overlong s → x.Misses path s .overlongIndex := by
    intro x s hx
    obtain ⟨hsequence, hindex⟩ := Bool.and_eq_true_iff.mp (overlong_iff.mpr hx)
    exact Value.Misses.overlong hsequence hindex
  induction h with
  | nil v => exact extractFrom_of_misses (hmisses hu)
  | @cons v x w s rest hchild hnull _ ih =>
    by_cases hx : v.Overlong s
    · exact extractFrom_of_misses (hmisses hx)
    · exact (extractFrom_of_steps (steps_iff.mpr ⟨hx, hchild, hnull⟩)).trans (ih hu)

theorem extract_eq_overlongIndex : extract data path = .error .overlongIndex ↔ data.MeetsOverlong path := by
  constructor
  · intro h
    obtain ⟨before, segment, after, u, hpath, hleads, hmisses⟩ := extractFrom_eq_error.mp h
    refine ⟨before, segment, after, u, hpath, hleads.chain, ?_⟩
    cases hmisses with
    | overlong hsequence hindex => exact overlong_iff.mp (Bool.and_eq_true_iff.mpr ⟨hsequence, hindex⟩)
  · rintro ⟨before, segment, after, u, rfl, hchain, hu⟩
    exact extractFrom_overlong hchain hu

theorem extract_eq_ok_iff (h : ¬ data.MeetsOverlong path) : extract data path = .ok w ↔ data.Chain path w := by
  constructor
  · intro hw
    exact (extractFrom_eq_ok.mp hw).chain
  · intro hw
    exact extractFrom_eq_ok.mpr (hw.leads h)

theorem extract_eq_error_iff (h : ¬ data.MeetsOverlong path) :
    extract data path = .error e ↔
      ∃ before segment after u, path = before ++ segment :: after ∧ data.Chain before u ∧ u.Stops path segment e := by
  constructor
  · intro he
    obtain ⟨before, segment, after, u, hpath, hleads, hmisses⟩ := extractFrom_eq_error.mp he
    refine ⟨before, segment, after, u, hpath, hleads.chain, ?_⟩
    cases hmisses with
    | bare hbare => exact Value.Stops.bare hbare
    | overlong _ _ => exact absurd (extract_eq_overlongIndex.mp he) h
    | absent hcontainer _ hnull => exact Value.Stops.absent hcontainer (absent_iff.mp hnull)
  · rintro ⟨before, segment, after, u, hpath, hchain, hstops⟩
    have hbefore : ¬ data.MeetsOverlong before := fun hmeets => h (hpath ▸ hmeets.append (segment :: after))
    have hu : ¬ u.Overlong segment := fun hu => h ⟨before, segment, after, u, hpath, hchain, hu⟩
    refine extractFrom_eq_error.mpr ⟨before, segment, after, u, hpath, hchain.leads hbefore, ?_⟩
    cases hstops with
    | bare hbare => exact Value.Misses.bare hbare
    | absent hcontainer hnull =>
      have hindex := Bool.eq_false_iff.mpr (mt overlong_iff.mp hu)
      exact Value.Misses.absent hcontainer hindex (absent_iff.mpr hnull)

/-! ### paths in two parts -/

/-- The failure of a lookup with another path to be reported. -/
def Failure.withPath (path : List String) : Failure → Failure
  | .fault (.notFound _) => .fault (.notFound path)
  | .fault (.notAnObject _ segment) => .fault (.notAnObject path segment)
  | e => e

theorem Value.Misses.withPath (h : v.Misses path segment e) (other : List String) :
    v.Misses other segment (e.withPath other) := by
  cases h with
  | bare hbare => exact Value.Misses.bare hbare
  | overlong hsequence hindex => exact Value.Misses.overlong hsequence hindex
  | absent hcontainer hindex hnull => exact Value.Misses.absent hcontainer hindex hnull

/-- A lookup depends on the path only by what is left of it, but for how a failure is reported. -/
theorem extractFrom_withPath (path other : List String) (v : Value) (rest : List String) :
    extractFrom other v rest = (extractFrom path v rest).mapError (Failure.withPath other) := by
  cases h : extractFrom path v rest with
  | ok w => exact extractFrom_eq_ok.mpr (extractFrom_eq_ok.mp h)
  | error e =>
    obtain ⟨before, segment, after, u, hrest, hleads, hmisses⟩ := extractFrom_eq_error.mp h
    exact extractFrom_eq_error.mpr ⟨before, segment, after, u, hrest, hleads, hmisses.withPath other⟩

theorem extractFrom_append (path : List String) (v : Value) (before after : List String) :
    extractFrom path v (before ++ after) = extractFrom path v before >>= fun w => extractFrom path w after := by
  induction before generalizing v with
  | nil => rfl
  | cons segment before ih =>
    rcases extractFrom_cons_cases path v segment before with ⟨u, hu, hstep⟩ | ⟨e, he, hstep⟩
    · rw [hstep, ← ih]
      exact extractFrom_of_steps hu
    · rw [hstep]
      exact extractFrom_of_misses he

/-- A path in two parts leads on from where the first one leads, and what fails is reported with the whole path. -/
theorem extract_append (data : Value) (before after : List String) :
    extract data (before ++ after) =
      (extract data before >>= fun w => extract w after).mapError (Failure.withPath (before ++ after)) := by
  have hwhole : ∀ (x : Value) (part : List String),
      extractFrom (before ++ after) x part = (extractFrom part x part).mapError (Failure.withPath (before ++ after)) :=
    fun x part => extractFrom_withPath part (before ++ after) x part
  rw [extract, extractFrom_append]
  simp only [hwhole]
  show _ = (extractFrom before data before >>= fun w => extractFrom after w after).mapError _
  cases extractFrom before data before with
  | error e => rfl
  | ok w => rfl

/-- **A lookup meets its specification, but for one kind of index.** If the path comes to no list or tuple with an index
of more digits than are read, the lookup yields a value if a chain of children, none of them null, leads to it along the
path. Otherwise it fails at the first segment where the chain cannot go on: with that segment, if the value there is no
mapping, list or tuple, and else for want of a value. With such an index it fails with no fault at all. A path in two
parts leads to what the second part leads to from the end of the first one, and fails as the part that fails, but with
the whole path. -/
theorem extract_meets_spec (data : Value) (path : List String) :
    (extract data path = .error .overlongIndex ↔ data.MeetsOverlong path) ∧
      (¬ data.MeetsOverlong path →
        (∀ v, extract data path = .ok v ↔ data.Chain path v) ∧
        ∀ e, extract data path = .error e ↔
          ∃ before segment after u,
            path = before ++ segment :: after ∧ data.Chain before u ∧ u.Stops path segment e) ∧
      ∀ before after, path = before ++ after →
        extract data path = (extract data before >>= fun w => extract w after).mapError (Failure.withPath path) := by
  refine ⟨extract_eq_overlongIndex, fun h => ⟨fun v => extract_eq_ok_iff h, fun e => extract_eq_error_iff h⟩, ?_⟩
  rintro before after rfl
  exact extract_append data before after

/-- A list of tags, the second of which is null, and the third has parts. -/
def tagData : Value :=
  .map [(.str "tags", .list [.str "python", .null, .map [(.str "name", .str "json-ld")]])]

/-- The digits may be those of any script, with zeros before them. -/
theorem tagData_meets_spec :
    ¬ tagData.MeetsOverlong ["tags", "0٢", "name"] ∧ tagData.Chain ["tags", "0٢", "name"] (.str "json-ld") ∧
      ¬ tagData.MeetsOverlong ["tags", "1"] ∧
      (∃ before segment after u, ["tags", "1"] = before ++ segment :: after ∧ tagData.Chain before u ∧
        u.Stops ["tags", "1"] segment (.fault (.notFound ["tags", "1"]))) ∧
      extract tagData (["tags", "0"] ++ ["name"]) = .error (.fault (.notAnObject ["tags", "0", "name"] "name")) := by
  have hfound : extract tagData ["tags", "0٢", "name"] = .ok (.str "json-ld") := by decide +kernel
  have hnull : extract tagData ["tags", "1"] = .error (.fault (.notFound ["tags", "1"])) := by decide +kernel
  obtain ⟨hoverlong, hspec, _⟩ := extract_meets_spec tagData ["tags", "0٢", "name"]
  have hmeets : ¬ tagData.MeetsOverlong ["tags", "0٢", "name"] := by
    rw [← hoverlong, hfound]
    rintro ⟨⟩
  obtain ⟨hoverlong', hspec', _⟩ := extract_meets_spec tagData ["tags", "1"]
  have hmeets' : ¬ tagData.MeetsOverlong ["tags", "1"] := by
    rw [← hoverlong', hnull]
    rintro ⟨⟩
  obtain ⟨_, _, hparts⟩ := extract_meets_spec tagData ["tags", "0", "name"]
  refine ⟨hmeets, ((hspec hmeets).1 _).mp hfound, hmeets', ((hspec' hmeets').2 _).mp hnull, ?_⟩
  refine (hparts ["tags", "0"] ["name"] rfl).trans ?_
  decide +kernel

/-- An index of one digit more than are read. -/
def manyNines : String := String.ofList (List.replicate (digitLimit + 1) '9')

/-- An empty list has no item of that number, and the lookup of it does not say so. -/
theorem manyNines_not_reported :
    (Value.list []).Stops [manyNines] manyNines (.fault (.notFound [manyNines])) ∧
      extract (.list []) [manyNines] = .error .overlongIndex := by
  have hnine : isDecimal '9' = true := by decide
  have hdigits : ∀ c ∈ manyNines.toList, c = '9' := by
    intro c hc
    rw [manyNines, String.toList_ofList] at hc
    exact List.eq_of_mem_replicate hc
  have hlength : digitLimit < manyNines.length := by
    rw [manyNines, String.length_ofList, List.length_replicate]
    exact Nat.lt_succ_self digitLimit
  have hne : manyNines.toList ≠ [] := by
    intro h
    rw [String.length, h] at hlength
    cases hlength
  have hdenotes : ∃ n, Denotes manyNines.toList n :=
    exists_denotes_iff.mpr ⟨hne, List.all_eq_true.mpr fun c hc => hdigits c hc ▸ hnine⟩
  refine ⟨Value.Stops.absent rfl ?_, ?_⟩
  · rintro u (_ | ⟨_, hitem⟩)
    cases hitem
  · exact extract_eq_overlongIndex.mpr ⟨[], manyNines, [], .list [], rfl, Value.Chain.nil _, rfl, hdenotes, hlength⟩

end LinkedData
