import LinkedData.Proofs.Outcome
import LinkedData.Proofs.Site.Location
import LinkedData.Proofs.Value.Entries
import LinkedData.Proofs.Value.Merge
import LinkedData.Settings.Standard

/-!
# Which value of a setting counts

Settings come from a file and from the environment. By the order of the sources the environment goes before the file.
What counts is what the library gives to a setting after the merge of both.

* `Validation.stated?`, `Validation.counted?`: the value by the order of the sources, and the one that counts;
* `Validation.lookup?_converted`, `Entries.spelled_merge`: what the merge makes of the values of the environment;
* `Validation.counted?_cases`: a setting takes both values for the same, unless an entry of the file spells its name
  otherwise than in lower case, so that there are two entries for it after the merge (`Validation.Overlooks`);
* `Settings.ReadFrom`: settings that are read from given values, or have their defaults;
* `Settings.load_exact`: when settings are loaded, and which these are, with any library that can be relied on.
-/

namespace LinkedData

open Files

/-! ### where values come from -/

/-- The entries that spell the name of a setting. -/
def Entries.spelled (es : Entries) (name : String) : Entries := es.filter fun e => e.1.spells name

/-- At most one entry spells the name of a setting. -/
def Entries.SpellsOnce (es : Entries) (name : String) : Prop := (es.spelled name).length ≤ 1

namespace Validation

/-- The value of a setting by the order of the sources: that of the environment, or else that of the file. -/
def stated? (rules : Validation) (file : Entries) (env : Environment) (name : String) : Option Value :=
  (rules.given? [] env name).or ((file.spelled name).head?.map Prod.snd)

/-- The value of a setting that counts. -/
def counted? (rules : Validation) (file : Entries) (env : Environment) (name : String) : Option Value :=
  rules.given? (file.merge (rules.converted [] env)) env name

/-- The environment gives a value to a setting, and the file spells its name otherwise than in lower case. -/
def Overlooks (rules : Validation) (file : Entries) (env : Environment) (name : String) : Prop :=
  (∃ e ∈ file.spelled name, e.1 ≠ .str name) ∧ rules.given? [] env name ≠ none

/-- Every value that is given to a setting is valid. -/
def AllValid (rules : Validation) (given : String → Option Value) : Prop :=
  ∀ name ∈ settingNames, ∀ v ∈ given name, (rules.convert? name v).isSome = true

instance (rules : Validation) (given : String → Option Value) : Decidable (rules.AllValid given) :=
  inferInstanceAs (Decidable (∀ name ∈ settingNames, ∀ v ∈ given name, (rules.convert? name v).isSome = true))

/-- A setting takes two values for the same. -/
def Alike (rules : Validation) (name : String) (given given' : Option Value) : Prop :=
  given.map (rules.convert? name) = given'.map (rules.convert? name)

end Validation

/-! ### entries for a setting -/

section Spelled

variable {name setting : String} {es new : Entries} {v : Value}

theorem lowerName_of_mem (h : name ∈ settingNames) : lowerName name = name := by
  have hall : ∀ setting ∈ settingNames, lowerName setting = setting := by decide
  exact hall name h

/-- In lower case, the name of a setting is spelled in one way. -/
theorem Key.spells_of_mem (h : setting ∈ settingNames) (name : String) :
    (Key.str setting).spells name = decide (setting = name) := by
  rw [spells, lowerName_of_mem h]

namespace Entries

theorem spelled_cons (e : Key × Value) (es : Entries) (name : String) :
    spelled (e :: es) name = if e.1.spells name then e :: spelled es name else spelled es name :=
  List.filter_cons

theorem mem_spelled {e : Key × Value} : e ∈ es.spelled name ↔ e ∈ es ∧ e.1.spells name = true := List.mem_filter

theorem SpellsOnce.cases (h : es.SpellsOnce name) : es.spelled name = [] ∨ ∃ e, es.spelled name = [e] := by
  rw [← List.length_eq_zero_iff, ← List.length_eq_one_iff]
  exact Nat.le_one_iff_eq_zero_or_eq_one.mp h

theorem spelled_insert_of_ne (hsetting : setting ∈ settingNames) (h : setting ≠ name) (es : Entries) (v : Value) :
    (insert es (.str setting) v).spelled name = es.spelled name := by
  have hspells : (Key.str setting).spells name = false := by
    rw [Key.spells_of_mem hsetting]
    exact decide_eq_false h
  induction es with
  | nil => rw [insert, spelled_cons, if_neg (Bool.eq_false_iff.mp hspells)]
  | cons e es ih =>
    obtain ⟨l, w⟩ := e
    rw [insert, Key.same_str]
    by_cases hl : l = .str setting
    · rw [if_pos (decide_eq_true hl), spelled_cons, spelled_cons, hl, hspells]
      rfl
    · rw [if_neg (by simpa using hl), spelled_cons, spelled_cons, ih]

theorem spelled_insert (hname : name ∈ settingNames) (es : Entries) (v : Value) :
    (insert es (.str name) v).spelled name = insert (es.spelled name) (.str name) v := by
  have hspells : (Key.str name).spells name = true := by
    rw [Key.spells_of_mem hname]
    exact decide_eq_true rfl
  induction es with
  | nil =>
    rw [insert, spelled_cons, if_pos hspells]
    rfl
  | cons e es ih =>
    obtain ⟨l, w⟩ := e
    rw [insert, Key.same_str]
    by_cases hl : l = .str name
    · rw [if_pos (decide_eq_true hl), spelled_cons, spelled_cons, hl, if_pos hspells, if_pos hspells, insert,
        Key.same_str, if_pos (decide_eq_true rfl)]
    · rw [if_neg (by simpa using hl), spelled_cons, spelled_cons, ih]
      by_cases hother : l.spells name = true
      · rw [if_pos hother, if_pos hother, insert, Key.same_str, if_neg (by simpa using hl)]
      · rw [if_neg hother, if_neg hother]

/-- Values of settings are set, of which no two are of one setting. -/
theorem spelled_merge (hname : name ∈ settingNames)
    (hnew : ∀ e ∈ new, (∃ setting ∈ settingNames, e.1 = .str setting) ∧ ∀ ws, e.2 ≠ .map ws)
    (hdistinct : Distinct new) (es : Entries) :
    (es.merge new).spelled name =
      match lookup? new name with
      | some v => insert (es.spelled name) (.str name) v
      | none => es.spelled name := by
  induction new generalizing es with
  | nil => rfl
  | cons e new ih =>
    obtain ⟨k, v⟩ := e
    obtain ⟨⟨⟨setting, hsetting, hk⟩, hv⟩, hrest⟩ := List.forall_mem_cons.mp hnew
    obtain rfl : k = .str setting := hk
    obtain ⟨hfirst, hdistinct⟩ := distinct_cons.mp hdistinct
    rw [merge_cons, Value.merge_of_no_map hv, ih hrest hdistinct, lookup?_cons]
    by_cases hequal : setting = name
    · subst hequal
      -- no later value is of the same setting, so the merge of the rest does not touch this one
      have hnone : lookup? new setting = none := by
        refine lookup?_eq_none fun e he hkey => ?_
        have hdifferent := hfirst e he
        rw [hkey, Key.same_str, decide_eq_false_iff_not] at hdifferent
        exact hdifferent rfl
      rw [hnone, if_pos rfl]
      exact spelled_insert hsetting es v
    · rw [if_neg (by simpa using hequal), spelled_insert_of_ne hsetting hequal]

end Entries

end Spelled

/-! ### values as they are converted -/

namespace Validation

variable {rules : Validation} {entries file : Entries} {env : Environment} {name : String} {v w : Value}

/-- Values are converted to scalars. -/
theorem ne_map_of_convert? (h : rules.convert? name v = some w) (ws : Entries) : w ≠ .map ws := by
  rintro rfl
  unfold convert? at h
  split at h
  · obtain ⟨_, _, hsite⟩ := Option.map_eq_some_iff.mp h
    cases hsite
  · split at h
    · obtain ⟨_, _, hdepth⟩ := Option.map_eq_some_iff.mp h
      cases hdepth
    · obtain ⟨_, _, htext⟩ := Option.map_eq_some_iff.mp h
      cases htext

theorem mem_converted {e : Key × Value} : e ∈ rules.converted entries env ↔ ∃ setting ∈ settingNames, ∃ w,
    (rules.given? entries env setting).bind (rules.convert? setting) = some w ∧ e = (.str setting, w) := by
  simp only [converted, List.mem_filterMap, Option.map_eq_some_iff, eq_comm (b := e)]

theorem distinct_converted (rules : Validation) (entries : Entries) (env : Environment) :
    Entries.Distinct (rules.converted entries env) := by
  have hnames : settingNames.Pairwise fun a b => a ≠ b := by decide
  refine List.pairwise_filterMap.mpr (hnames.imp fun {a b} hab e he f hf => ?_)
  obtain ⟨_, _, rfl⟩ := Option.map_eq_some_iff.mp he
  obtain ⟨_, _, rfl⟩ := Option.map_eq_some_iff.mp hf
  rw [Key.same_str, decide_eq_false_iff_not]
  exact fun hkey => hab (by simpa using hkey)

/-- What a setting has among the converted values. -/
theorem lookup?_converted (hname : name ∈ settingNames) :
    Entries.lookup? (rules.converted entries env) name =
      (rules.given? entries env name).bind (rules.convert? name) := by
  apply Option.ext
  intro w
  rw [(distinct_converted rules entries env).lookup?_eq_some_iff, mem_converted]
  constructor
  · rintro ⟨setting, _, w', hw, he⟩
    obtain ⟨hkey, rfl⟩ := Prod.mk.inj he
    obtain rfl : name = setting := by simpa using hkey
    exact hw
  · exact fun hw => ⟨name, hname, w, hw, rfl⟩

/-- The site at a location has that location. -/
theorem location_of_ofLocation {s : String} {site : Site} (h : Site.ofLocation s = .ok site) : site.location = s := by
  obtain ⟨_, _, _, _, rfl⟩ := Site.ofLocation_eq_ok.mp h
  rfl

theorem ofLocation_of_site? {site : Site} (h : rules.site? v = some site) :
    Site.ofLocation site.location = .ok site := by
  obtain ⟨s, _, hs⟩ := Option.bind_eq_some_iff.mp h
  cases hsite : Site.ofLocation s with
  | error e =>
    rw [hsite] at hs
    cases hs
  | ok found =>
    rw [hsite] at hs
    obtain rfl := Option.some.inj hs
    rw [location_of_ofLocation hsite, hsite]

/-- A converted value is converted to itself. -/
theorem convert?_again (hrules : rules.Documented) (h : rules.convert? name v = some w) :
    rules.convert? name w = some w := by
  unfold convert? at h ⊢
  split at h
  · next hlocation =>
    obtain ⟨site, hsite, rfl⟩ := Option.map_eq_some_iff.mp h
    have hagain : rules.site? (.str site.location) = some site := by
      rw [site?, hrules.text_str, Option.bind_some, ofLocation_of_site? hsite]
      rfl
    rw [if_pos hlocation, hagain]
    rfl
  · next hlocation =>
    rw [if_neg hlocation]
    split at h
    · next hdepth =>
      obtain ⟨⟨n, hn⟩, _, rfl⟩ := Option.map_eq_some_iff.mp h
      have hagain : rules.depth? (.int n) = some ⟨n, hn⟩ := by
        rw [depth?, hrules.integer_int, Option.bind_some, dif_pos (by simpa using hn)]
        rfl
      rw [if_pos hdepth, hagain]
      rfl
    · next hdepth =>
      obtain ⟨s, _, rfl⟩ := Option.map_eq_some_iff.mp h
      rw [if_neg hdepth, hrules.text_str]
      rfl

/-! ### which value counts -/

/-- The entries for a setting after the merge. -/
theorem spelled_merge_converted (hname : name ∈ settingNames) :
    (file.merge (rules.converted [] env)).spelled name =
      match (rules.given? [] env name).bind (rules.convert? name) with
      | some w => Entries.insert (file.spelled name) (.str name) w
      | none => file.spelled name := by
  rw [Entries.spelled_merge hname (fun e he => ?_) (distinct_converted rules [] env), lookup?_converted hname]
  obtain ⟨setting, hsetting, w, hw, rfl⟩ := mem_converted.mp he
  obtain ⟨v, _, hconvert⟩ := Option.bind_eq_some_iff.mp hw
  exact ⟨⟨setting, hsetting, rfl⟩, ne_map_of_convert? hconvert⟩

/-- If entries spell the name of a setting, then it is given the value of one of them. -/
theorem Documented.exists_of_spelled (hrules : rules.Documented) (hname : name ∈ settingNames)
    (h : entries.spelled name ≠ []) (env : Environment) :
    ∃ e ∈ entries.spelled name, rules.given? entries env name = some e.2 := by
  obtain ⟨e, he⟩ := List.exists_mem_of_ne_nil _ h
  obtain ⟨hmem, hspells⟩ := Entries.mem_spelled.mp he
  obtain ⟨f, hf, hfspells, hgiven⟩ := hrules.given_entry entries env name hname ⟨e, hmem, hspells⟩
  exact ⟨f, Entries.mem_spelled.mpr ⟨hf, hfspells⟩, hgiven⟩

/-- If none does, and the environment gives it no value, then it is given none. -/
theorem Documented.given?_eq_none (hrules : rules.Documented) (hname : name ∈ settingNames)
    (hentries : entries.spelled name = []) (hunset : rules.given? [] env name = none) :
    rules.given? entries env name = none := by
  refine hrules.given_none entries env name hname (fun e he => ?_) fun a ha => ?_
  · rw [Bool.eq_false_iff]
    intro hspells
    have hmem := Entries.mem_spelled.mpr ⟨he, hspells⟩
    rw [hentries] at hmem
    cases hmem
  · rw [Bool.eq_false_iff]
    intro hfor
    obtain ⟨b, _, _, hset⟩ := hrules.given_variable [] env name hname (List.forall_mem_nil _) ⟨a, ha, hfor⟩
    rw [hunset] at hset
    cases hset

/-- Where the environment gives no value, the one of the file counts. -/
theorem Documented.counted?_of_unset (hrules : rules.Documented) (hname : name ∈ settingNames)
    (honce : file.SpellsOnce name) (hunset : rules.given? [] env name = none) :
    rules.counted? file env name = rules.stated? file env name := by
  have hspelled : (file.merge (rules.converted [] env)).spelled name = file.spelled name := by
    rw [spelled_merge_converted hname, hunset, Option.bind_none]
  rw [stated?, hunset, Option.none_or, counted?]
  rcases honce.cases with hfile | ⟨e, hfile⟩
  · rw [hfile]
    exact hrules.given?_eq_none hname (hspelled.trans hfile) hunset
  · rw [hfile] at hspelled
    obtain ⟨f, hf, hcounted⟩ :=
      hrules.exists_of_spelled hname (by rw [hspelled]; exact List.cons_ne_nil e []) env
    rw [hspelled] at hf
    rw [hcounted, List.mem_singleton.mp hf, hfile]
    rfl

/-- Where it gives one, that counts or the one of another entry for the setting. -/
theorem Documented.counted?_of_set (hrules : rules.Documented) (file : Entries) (hname : name ∈ settingNames)
    (hset : rules.given? [] env name = some v) (hw : rules.convert? name v = some w) :
    ∃ e ∈ Entries.insert (file.spelled name) (.str name) w, rules.counted? file env name = some e.2 ∧
      (e.2 = w → rules.Alike name (rules.counted? file env name) (rules.stated? file env name)) := by
  have hspelled : (file.merge (rules.converted [] env)).spelled name =
      Entries.insert (file.spelled name) (.str name) w := by
    rw [spelled_merge_converted hname, hset, Option.bind_some, hw]
  obtain ⟨e, he, hcounted⟩ :=
    hrules.exists_of_spelled hname (by rw [hspelled]; exact Entries.insert_ne_nil _ _ _) env
  refine ⟨e, hspelled ▸ he, hcounted, fun hvalue => ?_⟩
  -- the value of the environment is found in the merge as it was converted
  rw [Alike, counted?, hcounted, stated?, hset, Option.some_or, hvalue, Option.map_some, Option.map_some, hw,
    convert?_again hrules hw]

/-- What is not overlooked counts by the order of the sources. -/
theorem Documented.counted?_cases (hrules : rules.Documented) (file : Entries)
    (hvalid : rules.AllValid (rules.given? [] env)) (hname : name ∈ settingNames) (honce : file.SpellsOnce name) :
    (¬ rules.Overlooks file env name →
      rules.Alike name (rules.counted? file env name) (rules.stated? file env name)) ∧
    (rules.Overlooks file env name → rules.counted? file env name = (file.spelled name).head?.map Prod.snd ∨
      rules.Alike name (rules.counted? file env name) (rules.stated? file env name)) := by
  have hdone (hsame : rules.Alike name (rules.counted? file env name) (rules.stated? file env name)) :
      (¬ rules.Overlooks file env name →
        rules.Alike name (rules.counted? file env name) (rules.stated? file env name)) ∧
      (rules.Overlooks file env name → rules.counted? file env name = (file.spelled name).head?.map Prod.snd ∨
        rules.Alike name (rules.counted? file env name) (rules.stated? file env name)) :=
    ⟨fun _ => hsame, fun _ => Or.inr hsame⟩
  cases hset : rules.given? [] env name with
  | none => exact hdone (congrArg (Option.map (rules.convert? name)) (hrules.counted?_of_unset hname honce hset))
  | some v =>
    obtain ⟨w, hw⟩ := Option.isSome_iff_exists.mp (hvalid name hname v hset)
    obtain ⟨f, hf, hcounted, halike⟩ := hrules.counted?_of_set file hname hset hw
    rcases honce.cases with hfile | ⟨⟨k, u⟩, hfile⟩
    · rw [hfile] at hf
      exact hdone (halike (congrArg Prod.snd (List.mem_singleton.mp hf)))
    have hinsert : Entries.insert [(k, u)] (.str name) w =
        if k = .str name then [(k, w)] else [(k, u), (.str name, w)] := by
      simp only [Entries.insert, Key.same_str, decide_eq_true_eq]
    rw [hfile, hinsert] at hf
    by_cases hk : k = .str name
    · rw [if_pos hk] at hf
      exact hdone (halike (congrArg Prod.snd (List.mem_singleton.mp hf)))
    · have hoverlooks : rules.Overlooks file env name :=
        ⟨⟨(k, u), by rw [hfile]; exact List.mem_cons_self, hk⟩, by rw [hset]; exact Option.some_ne_none v⟩
      rw [if_neg hk] at hf
      refine ⟨fun h => absurd hoverlooks h, fun _ => ?_⟩
      rcases List.mem_cons.mp hf with rfl | hf
      · exact Or.inl (by rw [hcounted, hfile]; rfl)
      · exact Or.inr (halike (congrArg Prod.snd (List.mem_singleton.mp hf)))

/-! ### validation -/

section Check

theorem mem_invalid : name ∈ rules.invalid entries env ↔
    name ∈ settingNames ∧ ∃ v, rules.given? entries env name = some v ∧ rules.convert? name v = none := by
  rw [invalid, List.mem_filter]
  cases rules.given? entries env name with
  | none => simp
  | some v => simp

theorem check_eq_ok_iff : rules.check entries env = .ok () ↔ rules.AllValid (rules.given? entries env) := by
  have hnil : rules.invalid entries env = [] ↔ rules.AllValid (rules.given? entries env) := by
    rw [List.eq_nil_iff_forall_not_mem]
    constructor
    · intro h name hname v hv
      rw [← Option.ne_none_iff_isSome]
      exact fun hinvalid => h name (mem_invalid.mpr ⟨hname, v, hv, hinvalid⟩)
    · intro h name hinvalid
      obtain ⟨hname, v, hv, hnone⟩ := mem_invalid.mp hinvalid
      have hsome := h name hname v hv
      rw [hnone] at hsome
      cases hsome
  rw [← hnil, check]
  cases rules.invalid entries env with
  | nil => exact iff_of_true rfl rfl
  | cons first names => exact iff_of_false (by rintro ⟨⟩) (List.cons_ne_nil first names)

/-- A failure of validation names settings whose values are not valid. -/
theorem of_check_eq_error {e : SettingsError} (h : rules.check entries env = .error e) :
    ∃ names, names ≠ [] ∧ e = .invalid names ∧ ∀ name ∈ names,
      name ∈ settingNames ∧ ∃ v, rules.given? entries env name = some v ∧ rules.convert? name v = none := by
  rw [check] at h
  cases hinvalid : rules.invalid entries env with
  | nil =>
    rw [hinvalid] at h
    cases h
  | cons first names =>
    rw [hinvalid] at h
    obtain rfl := Except.error.inj h
    exact ⟨first :: names, List.cons_ne_nil first names, rfl, fun name hname => mem_invalid.mp (hinvalid ▸ hname)⟩

variable {given given' : String → Option Value}

theorem AllValid.congr (h : ∀ name ∈ settingNames, rules.Alike name (given name) (given' name)) :
    rules.AllValid given ↔ rules.AllValid given' := by
  have hiff : ∀ name (found : Option Value), (∀ v ∈ found, (rules.convert? name v).isSome = true) ↔
      ∀ w ∈ found.map (rules.convert? name), w.isSome = true := by
    intro name found
    cases found <;> simp
  refine forall₂_congr fun name hname => ?_
  rw [hiff, hiff, h name hname]

end Check

end Validation

/-! ### settings and what they are read from -/

/-- A setting is what a given value is read as, or its default. -/
def IsReadFrom {α : Type} (given : Option Value) (read? : Value → Option α) (default a : α) : Prop :=
  match given with
  | some v => read? v = some a
  | none => a = default

/-- The settings are read from the given values, where there is one, and have their defaults elsewhere. -/
structure Settings.ReadFrom (s : Settings) (rules : Validation) (given : String → Option Value) : Prop where
  site : IsReadFrom (given "location") rules.site? standardSite s.site
  context : IsReadFrom (given "context") rules.text? standardContext s.context
  depth : IsReadFrom (given "max_reference_depth") rules.depth? ⟨standardDepth, standardDepth_pos⟩
    ⟨s.maxDepth, s.maxDepth_pos⟩
  logLevel : IsReadFrom (given "log_level") rules.text? "INFO" s.logLevel

section Reading

variable {α : Type} {given given' : Option Value} {read? : Value → Option α} {convert : α → Value} {default a : α}

theorem isReadFrom_settingOr (h : ∀ v ∈ given, (read? v).isSome = true) :
    IsReadFrom given read? default (Validation.settingOr given read? default) := by
  cases given with
  | none => rfl
  | some v =>
    obtain ⟨a, ha⟩ := Option.isSome_iff_exists.mp (h v rfl)
    show read? v = some ((read? v).getD default)
    rw [ha, Option.getD_some]

/-- What is read alike is read from either. -/
theorem IsReadFrom.congr (h : IsReadFrom given read? default a)
    (hsame : given.map read? = given'.map read?) : IsReadFrom given' read? default a := by
  cases given with
  | none => cases given' with
    | none => exact h
    | some v => cases hsame
  | some v => cases given' with
    | none => cases hsame
    | some w => exact (Option.some.inj hsame).symm.trans h

end Reading

namespace Validation

variable {rules : Validation} {entries : Entries} {env : Environment} {given given' : Option Value}

theorem convert?_location (rules : Validation) (v : Value) :
    rules.convert? "location" v = (rules.site? v).map fun site => .str site.location := rfl

theorem convert?_depth (rules : Validation) (v : Value) :
    rules.convert? "max_reference_depth" v = (rules.depth? v).map fun n => .int n.val := rfl

theorem convert?_context (rules : Validation) (v : Value) :
    rules.convert? "context" v = (rules.text? v).map .str := rfl

theorem convert?_logLevel (rules : Validation) (v : Value) :
    rules.convert? "log_level" v = (rules.text? v).map .str := rfl

/-- Settings that are made of valid values are read from them. -/
theorem settings_readFrom (h : rules.AllValid (rules.given? entries env)) :
    (rules.settings entries env).ReadFrom rules (rules.given? entries env) where
  site := isReadFrom_settingOr fun v hv => by
    have hvalid := h "location" (by decide) v hv
    rwa [convert?_location, Option.isSome_map] at hvalid
  context := isReadFrom_settingOr fun v hv => by
    have hvalid := h "context" (by decide) v hv
    rwa [convert?_context, Option.isSome_map] at hvalid
  depth := isReadFrom_settingOr fun v hv => by
    have hvalid := h "max_reference_depth" (by decide) v hv
    rwa [convert?_depth, Option.isSome_map] at hvalid
  logLevel := isReadFrom_settingOr fun v hv => by
    have hvalid := h "log_level" (by decide) v hv
    rwa [convert?_logLevel, Option.isSome_map] at hvalid

/-- The location of a site tells all about it. -/
theorem site?_eq_of_location {v w : Value}
    (h : (rules.site? v).map (fun site => Value.str site.location) =
      (rules.site? w).map fun site => Value.str site.location) : rules.site? v = rules.site? w := by
  cases hv : rules.site? v with
  | none =>
    rw [hv, Option.map_none, eq_comm, Option.map_eq_none_iff] at h
    exact h.symm
  | some site =>
    rw [hv, Option.map_some, eq_comm] at h
    obtain ⟨other, hw, hlocation⟩ := Option.map_eq_some_iff.mp h
    have hsame : other.location = site.location := by simpa using hlocation
    have hother := ofLocation_of_site? hw
    rw [hsame, ofLocation_of_site? hv] at hother
    rw [hw, Except.ok.inj hother]

end Validation

namespace Settings

variable {rules : Validation} {s : Settings} {given given' : String → Option Value}

/-- Settings that are read from values are read from any that are alike. -/
theorem ReadFrom.congr (hs : s.ReadFrom rules given)
    (h : ∀ name ∈ settingNames, rules.Alike name (given name) (given' name)) : s.ReadFrom rules given' := by
  have halike : ∀ {α : Type} {name : String} {read? : Value → Option α}, name ∈ settingNames →
      (∀ v w, rules.convert? name v = rules.convert? name w → read? v = read? w) →
        (given name).map read? = (given' name).map read? := by
    intro α name read? hname hread
    have hsame := h name hname
    rw [Validation.Alike] at hsame
    match hgiven : given name, hgiven' : given' name with
    | none, none => rfl
    | none, some _ =>
      rw [hgiven, hgiven'] at hsame
      exact absurd hsame.symm (Option.some_ne_none _)
    | some _, none =>
      rw [hgiven, hgiven'] at hsame
      exact absurd hsame (Option.some_ne_none _)
    | some v, some w =>
      rw [hgiven, hgiven'] at hsame
      exact congrArg some (hread v w (Option.some.inj hsame))
  have htext : ∀ v w, (rules.text? v).map Value.str = (rules.text? w).map Value.str → rules.text? v = rules.text? w :=
    fun v w => fun hvw => Option.map_injective (fun a b hab => by simpa using hab) hvw
  refine ⟨hs.site.congr (halike (by decide) fun v w hvw => Validation.site?_eq_of_location hvw),
    hs.context.congr (halike (by decide) htext), hs.depth.congr (halike (by decide) fun v w hvw => ?_),
    hs.logLevel.congr (halike (by decide) htext)⟩
  exact Option.map_injective (fun a b hab => Subtype.ext (Int.natCast_inj.mp (by simpa using hab))) hvw

/-- The site of settings is that of their location. -/
theorem ReadFrom.ofLocation_site (h : s.ReadFrom rules given) : Site.ofLocation s.site.location = .ok s.site := by
  have hsite := h.site
  unfold IsReadFrom at hsite
  split at hsite
  · exact Validation.ofLocation_of_site? hsite
  · rw [hsite]
    decide +kernel

/-- Their limit can be used with whatever filters. -/
theorem ofDepth_maxDepth (s : Settings) (registry : Registry) :
    Resolver.ofDepth registry s.maxDepth = .ok ⟨registry, s.maxDepth, s.maxDepth_pos⟩ := by
  rw [Resolver.ofDepth, dif_pos (Int.natCast_pos.mpr s.maxDepth_pos)]
  rfl

/-! ### loading -/

section Load

variable {file : Option Content} {entries : Entries} {env : Environment}

/-- The values of the environment are validated, then those that count. -/
theorem load_cases (rules : Validation) (env : Environment) (hread : fileEntries file = .ok entries) :
    (rules.AllValid (rules.given? [] env) ∧ rules.AllValid (rules.counted? entries env) ∧
      ∃ s, load rules file env = .ok s ∧ s.ReadFrom rules (rules.counted? entries env)) ∨
    ∃ names, names ≠ [] ∧ load rules file env = .error (.invalid names) ∧ ∀ name ∈ names, name ∈ settingNames ∧
      ∃ v, (rules.given? [] env name = some v ∨ rules.counted? entries env name = some v) ∧
        rules.convert? name v = none := by
  -- values of the environment are validated twice, by themselves and where they count; the file only where it counts
  cases hfirst : rules.check [] env with
  | error e =>
    obtain ⟨names, hne, rfl, hinvalid⟩ := Validation.of_check_eq_error hfirst
    refine Or.inr ⟨names, hne, ?_, fun name hname => ?_⟩
    · rw [load, hread]
      show (rules.check [] env >>= _) = _
      rw [hfirst]
      rfl
    · obtain ⟨hmem, v, hv, hnone⟩ := hinvalid name hname
      exact ⟨hmem, v, Or.inl hv, hnone⟩
  | ok u =>
    have hload : load rules file env = (rules.check (entries.merge (rules.converted [] env)) env >>= fun _ =>
        .ok (rules.settings (entries.merge (rules.converted [] env)) env)) := by
      rw [load, hread]
      show (rules.check [] env >>= _) = _
      rw [hfirst]
      rfl
    cases hsecond : rules.check (entries.merge (rules.converted [] env)) env with
    | error e =>
      obtain ⟨names, hne, rfl, hinvalid⟩ := Validation.of_check_eq_error hsecond
      refine Or.inr ⟨names, hne, by rw [hload, hsecond]; rfl, fun name hname => ?_⟩
      obtain ⟨hmem, v, hv, hnone⟩ := hinvalid name hname
      exact ⟨hmem, v, Or.inr hv, hnone⟩
    | ok u' =>
      have hvalid := Validation.check_eq_ok_iff.mp hsecond
      exact Or.inl ⟨Validation.check_eq_ok_iff.mp hfirst, hvalid, _, by rw [hload, hsecond]; rfl,
        Validation.settings_readFrom hvalid⟩

/-- Settings are loaded if all values are valid. -/
theorem load_eq_ok_iff (hread : fileEntries file = .ok entries) : (∃ s, load rules file env = .ok s) ↔
    rules.AllValid (rules.given? [] env) ∧ rules.AllValid (rules.counted? entries env) := by
  rcases load_cases rules env hread with ⟨hset, hcounted, s, hs, _⟩ | ⟨names, hne, hfails, hinvalid⟩
  · exact iff_of_true ⟨s, hs⟩ ⟨hset, hcounted⟩
  · refine iff_of_false (fun ⟨s, hs⟩ => ?_) fun ⟨hset, hcounted⟩ => ?_
    · rw [hfails] at hs
      cases hs
    · obtain ⟨name, hname⟩ := List.exists_mem_of_ne_nil names hne
      obtain ⟨hmem, v, hv, hnone⟩ := hinvalid name hname
      have hsome := hv.elim (hset name hmem v) (hcounted name hmem v)
      rw [hnone] at hsome
      cases hsome

/-- They are read from the values that count. -/
theorem readFrom_of_load (hread : fileEntries file = .ok entries) (hs : load rules file env = .ok s) :
    s.ReadFrom rules (rules.counted? entries env) := by
  rcases load_cases rules env hread with ⟨_, _, s', hs', hfrom⟩ | ⟨names, _, hfails, _⟩
  · obtain rfl := Except.ok.inj (hs'.symm.trans hs)
    exact hfrom
  · rw [hfails] at hs
    cases hs

/-- **Which settings are loaded**, with any library that can be relied on. A file that is not read is the failure. If it
is read, then settings are loaded exactly if every value of the environment and every value that counts is valid; they
are read from the values that count, and have a site and resolvers; else the failure names settings with a value that
is not valid. If no name is spelled twice in the file and nothing is overlooked, what counts is the value of the
environment or else that of the file: all is as the order of the sources has it. Of a setting that is overlooked the
value of the file may count. -/
theorem load_exact (hrules : rules.Documented) (file : Option Content) (env : Environment) :
    (∀ e, fileEntries file = .error e → load rules file env = .error e) ∧
    ∀ entries, fileEntries file = .ok entries →
      ((∃ s, load rules file env = .ok s) ↔
        rules.AllValid (rules.given? [] env) ∧ rules.AllValid (rules.counted? entries env)) ∧
      (∀ s, load rules file env = .ok s → s.ReadFrom rules (rules.counted? entries env) ∧
        Site.ofLocation s.site.location = .ok s.site ∧
        ∀ registry, Resolver.ofDepth registry s.maxDepth = .ok ⟨registry, s.maxDepth, s.maxDepth_pos⟩) ∧
      (∀ e, load rules file env = .error e → ∃ names, names ≠ [] ∧ e = .invalid names ∧ ∀ name ∈ names,
        name ∈ settingNames ∧ ∃ v,
          (rules.given? [] env name = some v ∨ rules.counted? entries env name = some v) ∧
            rules.convert? name v = none) ∧
      (rules.AllValid (rules.given? [] env) → ∀ name ∈ settingNames, entries.SpellsOnce name →
        (¬ rules.Overlooks entries env name →
          rules.Alike name (rules.counted? entries env name) (rules.stated? entries env name)) ∧
        (rules.Overlooks entries env name →
          rules.counted? entries env name = (entries.spelled name).head?.map Prod.snd ∨
            rules.Alike name (rules.counted? entries env name) (rules.stated? entries env name))) ∧
      ((∀ name ∈ settingNames, entries.SpellsOnce name ∧ ¬ rules.Overlooks entries env name) →
        ((∃ s, load rules file env = .ok s) ↔
          rules.AllValid (rules.given? [] env) ∧ rules.AllValid (rules.stated? entries env)) ∧
        ∀ s, load rules file env = .ok s → s.ReadFrom rules (rules.stated? entries env)) := by
  refine ⟨fun e he => by rw [load, he]; rfl, fun entries hread => ?_⟩
  have hcases : rules.AllValid (rules.given? [] env) → ∀ name ∈ settingNames, entries.SpellsOnce name → _ :=
    fun hset name hname honce => hrules.counted?_cases entries hset hname honce
  refine ⟨load_eq_ok_iff hread, fun s hs => ?_, fun e he => ?_, hcases, fun hstated => ?_⟩
  · have hfrom := readFrom_of_load hread hs
    exact ⟨hfrom, hfrom.ofLocation_site, s.ofDepth_maxDepth⟩
  · rcases load_cases rules env hread with ⟨_, _, s, hs, _⟩ | ⟨names, hne, hfails, hinvalid⟩
    · rw [hs] at he
      cases he
    · obtain rfl := Except.error.inj (hfails.symm.trans he)
      exact ⟨names, hne, rfl, hinvalid⟩
  · have halike : rules.AllValid (rules.given? [] env) → ∀ name ∈ settingNames,
        rules.Alike name (rules.counted? entries env name) (rules.stated? entries env name) :=
      fun hset name hname => (hcases hset name hname (hstated name hname).1).1 (hstated name hname).2
    refine ⟨?_, fun s hs => ?_⟩
    · rw [load_eq_ok_iff hread]
      exact and_congr_right fun hset => Validation.AllValid.congr (halike hset)
    · exact (readFrom_of_load hread hs).congr (halike ((load_eq_ok_iff hread).mp ⟨s, hs⟩).1)

end Load

/-! ### settings from a file and an environment -/

/-- A file that gives a location and a limit. -/
def exampleFile : Content := .text "location = \"https://file.example/\"\nMAX_REFERENCE_DEPTH = 7\n"

/-- An environment that gives another location. -/
def exampleEnvironment : Environment := [("SITEMETA_LOCATION", "https://env.example/")]

/-- The entries of the file. -/
def exampleEntries : Entries := [(.str "location", .str "https://file.example/"), (.str "MAX_REFERENCE_DEPTH", .int 7)]

theorem exampleFile_loads : fileEntries (some exampleFile) = .ok exampleEntries ∧
    (∃ s, load .standard (some exampleFile) exampleEnvironment = .ok s ∧
      s.ReadFrom .standard (Validation.standard.stated? exampleEntries exampleEnvironment)) ∧
    Validation.standard.stated? exampleEntries exampleEnvironment "location" = some (.str "https://env.example/") ∧
    Validation.standard.stated? exampleEntries exampleEnvironment "max_reference_depth" = some (.int 7) := by
  have hread : fileEntries (some exampleFile) = .ok exampleEntries := by decide +kernel
  have hvalid : Validation.standard.AllValid (Validation.standard.given? [] exampleEnvironment) ∧
      Validation.standard.AllValid (Validation.standard.stated? exampleEntries exampleEnvironment) := by
    decide +kernel
  have hstated : ∀ name ∈ settingNames, exampleEntries.SpellsOnce name ∧
      ¬ Validation.standard.Overlooks exampleEntries exampleEnvironment name := by
    simp only [Entries.SpellsOnce, Validation.Overlooks]
    decide +kernel
  obtain ⟨_, _, _, _, hexact⟩ :=
    (load_exact Validation.standard_documented (some exampleFile) exampleEnvironment).2 exampleEntries hread
  obtain ⟨hloads, hfrom⟩ := hexact hstated
  obtain ⟨s, hs⟩ := hloads.mpr hvalid
  exact ⟨hread, ⟨s, hs, hfrom s hs⟩, by decide +kernel, by decide +kernel⟩

/-- The file of a site whose location is spelled in upper case. -/
def shoutingFile : Content := .text "LOCATION = \"https://file.example/\"\n"

/-- Its location goes before that of the environment. -/
theorem shoutingFile_goes_first :
    fileEntries (some shoutingFile) = .ok [(.str "LOCATION", .str "https://file.example/")] ∧
    Validation.standard.stated? [(.str "LOCATION", .str "https://file.example/")] exampleEnvironment "location" =
      some (.str "https://env.example/") ∧
    (load .standard (some shoutingFile) exampleEnvironment).map (fun s => s.site.location) =
      .ok "https://file.example/" := by
  decide +kernel

end Settings

end LinkedData
