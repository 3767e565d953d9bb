import LinkedData.Proofs.Reference

/-!
# Reading references and writing them

What a text stands for tells how the text is spelled, up to the blanks around the bars and at the end of a lookup.

* `Reference.ofText_page`, `ofText_site`, `ofText_data`, `ofText_plain`: the four kinds of texts;
* `DataRef.IsCanonical`: the lookups that texts write;
* `DataRef.Spells`: the texts that write a lookup, with any blanks where blanks are dropped;
* `Reference.ofText_of_spells`, `DataRef.isCanonical_spells_ofChars`: these are read as the lookup, and no others are;
* `Reference.StandsFor`, `Reference.ofText_eq_iff`: what texts of all kinds stand for, told by how they are spelled;
* `Reference.ofText_describe`: the description of a lookup, behind its scheme, is read as that lookup;
* `Reference.ofText_round_trip`: texts and what they stand for tell each other.
-/

namespace LinkedData

open Text

variable {text path : String} {ref : DataRef} {q : List Char} {pieces : List (List Char)}

/-! ### the four kinds -/

namespace Reference

theorem ofText_page : ofText "site-url:self" = .pageUrl := rfl

theorem ofText_site (h : path ≠ "self") : ofText ("site-url:" ++ path) = .siteUrl path := by
  have hchars : ("site-url:" ++ path).toList = siteScheme ++ path.toList := String.toList_append
  have hself : "site-url:" ++ path ≠ pageUrlText := by
    intro hsame
    have hjoined : siteScheme ++ path.toList = siteScheme ++ "self".toList := hchars.symm.trans (congrArg _ hsame)
    exact h (String.toList_inj.mp (List.append_cancel_left hjoined))
  have hscheme : siteScheme.isPrefixOf (siteScheme ++ path.toList) = true :=
    List.isPrefixOf_iff_prefix.mpr (List.prefix_append _ _)
  simp only [ofText, hchars, if_neg hself, if_pos hscheme, List.drop_left, String.ofList_toList]

theorem ofText_data (rest : String) : ofText ("lume-data:" ++ rest) = .data (.ofChars (dataScheme ++ rest.toList)) := by
  have hchars : ("lume-data:" ++ rest).toList = dataScheme ++ rest.toList := String.toList_append
  have hself : "lume-data:" ++ rest ≠ pageUrlText := by
    intro hsame
    have hjoined : dataScheme ++ rest.toList = pageUrlText.toList := hchars.symm.trans (congrArg _ hsame)
    cases hjoined
  have hsite : ¬ siteScheme.isPrefixOf (dataScheme ++ rest.toList) = true := by
    intro hprefix
    cases hprefix
  have hscheme : dataScheme.isPrefixOf (dataScheme ++ rest.toList) = true :=
    List.isPrefixOf_iff_prefix.mpr (List.prefix_append _ _)
  simp only [ofText, hchars, if_neg hself, if_neg hsite, if_pos hscheme]

theorem ofText_plain (hsite : ∀ rest, text ≠ "site-url:" ++ rest) (hdata : ∀ rest, text ≠ "lume-data:" ++ rest) :
    ofText text = .plain text := by
  have hbegins : ∀ scheme : String, scheme.toList.isPrefixOf text.toList = true → ∃ rest, text = scheme ++ rest := by
    intro scheme h
    obtain ⟨rest, hrest⟩ := List.isPrefixOf_iff_prefix.mp h
    refine ⟨String.ofList rest, String.toList_inj.mp ?_⟩
    rw [String.toList_append, String.toList_ofList, hrest]
  have hself : text ≠ pageUrlText := hsite "self"
  have hsite' : ¬ siteScheme.isPrefixOf text.toList = true := fun h =>
    have ⟨rest, hrest⟩ := hbegins "site-url:" h
    hsite rest hrest
  have hdata' : ¬ dataScheme.isPrefixOf text.toList = true := fun h =>
    have ⟨rest, hrest⟩ := hbegins "lume-data:" h
    hdata rest hrest
  simp only [ofText, if_neg hself, if_neg hsite', if_neg hdata']

end Reference

/-! ### lookups and their spellings -/

/-- A lookup as texts write it: nothing in it would be dropped as a blank. -/
structure DataRef.IsCanonical (ref : DataRef) : Prop extends ref.IsWritten where
  path_trimmed : trimEnd (dotted ref.path).toList = (dotted ref.path).toList
  filters_trimmed : ∀ f ∈ ref.filters, trim f.toList = f.toList

/-- Filters as they stand behind a path, each after a bar, with any blanks around the bars and at the end. -/
inductive SpellsFilters : List String → List Char → Prop
  | done {blanks : List Char} : Blank blanks → SpellsFilters [] blanks
  | filter {before after rest : List Char} {f : String} {filters : List String} :
      Blank before → Blank after → SpellsFilters filters rest →
        SpellsFilters (f :: filters) (before ++ '|' :: (after ++ f.toList ++ rest))

/-- The text is the scheme of lookups, the dotted path and the filters. -/
def DataRef.Spells (ref : DataRef) (text : String) : Prop :=
  ∃ rest, text = "lume-data:" ++ dotted ref.path ++ String.ofList rest ∧ SpellsFilters ref.filters rest

theorem bar_not_mem_blank {blanks : List Char} (h : Blank blanks) : '|' ∉ blanks := by
  intro hbar
  exact absurd (h '|' hbar) (by decide)

/-! ### the pieces between the bars -/

/-- What is read from the pieces of a text. -/
theorem DataRef.ofChars_pieces (hq : '|' ∉ q) (hpieces : ∀ p ∈ pieces, '|' ∉ p) :
    DataRef.ofChars (dataScheme ++ ['|'].intercalate (q :: pieces)) =
      ⟨((trimEnd q).splitOn '.').map String.ofList, (pieces.map trim).map String.ofList⟩ := by
  have hbars : ∀ p ∈ (dataScheme ++ q) :: pieces, '|' ∉ p :=
    List.forall_mem_cons.mpr ⟨List.not_mem_append (by decide) hq, hpieces⟩
  have hsplit : (dataScheme ++ ['|'].intercalate (q :: pieces)).splitOn '|' = (dataScheme ++ q) :: pieces := by
    rw [append_intercalate]
    exact List.splitOn_intercalate '|' hbars (List.cons_ne_nil _ _)
  have hfirst : trim (dataScheme ++ q) = dataScheme ++ trimEnd q := by
    have hstart : trimStart (dataScheme ++ q) = dataScheme ++ q := rfl
    rw [trim, hstart]
    exact trimEnd_append rfl q
  simp only [DataRef.ofChars, hsplit, List.map_cons, List.headD_cons, List.tail_cons, hfirst, List.drop_left]

theorem map_ofList_toList (texts : List String) : (texts.map String.toList).map String.ofList = texts := by
  simp [Function.comp_def]

/-! ### texts that write a lookup are read as it -/

theorem SpellsFilters.exists_pieces {filters : List String} {rest : List Char} (h : SpellsFilters filters rest)
    (hbars : ∀ f ∈ filters, '|' ∉ f.toList) (htrimmed : ∀ f ∈ filters, trim f.toList = f.toList) :
    ∃ blanks pieces, Blank blanks ∧ (∀ p ∈ pieces, '|' ∉ p) ∧ pieces.map trim = filters.map String.toList ∧
      ∀ cs, cs ++ rest = ['|'].intercalate ((cs ++ blanks) :: pieces) := by
  induction h with
  | @done blanks hblanks =>
    exact ⟨blanks, [], hblanks, List.forall_mem_nil _, rfl, fun cs => List.intercalate_singleton.symm⟩
  | @filter before after rest f filters hbefore hafter _ ih =>
    obtain ⟨hbar, hbars⟩ := List.forall_mem_cons.mp hbars
    obtain ⟨htrim, htrimmed⟩ := List.forall_mem_cons.mp htrimmed
    obtain ⟨blanks, pieces, hblanks, hpieces, hfilters, hjoin⟩ := ih hbars htrimmed
    refine ⟨before, (after ++ f.toList ++ blanks) :: pieces, hbefore, ?_, ?_, fun cs => ?_⟩
    · have hstart := List.not_mem_append (bar_not_mem_blank hafter) hbar
      have hfirst := List.not_mem_append hstart (bar_not_mem_blank hblanks)
      exact List.forall_mem_cons.mpr ⟨hfirst, hpieces⟩
    · rw [List.map_cons, trim_blanks hafter hblanks, htrim, hfilters, List.map_cons]
    · rw [hjoin, List.intercalate_cons_cons]
      simp only [List.append_assoc, List.cons_append, List.nil_append]

theorem Reference.ofText_of_spells (href : ref.IsCanonical) (h : ref.Spells text) :
    Reference.ofText text = .data ref := by
  obtain ⟨rest, rfl, hfilters⟩ := h
  obtain ⟨blanks, pieces, hblanks, hpieces, htrims, hjoin⟩ := hfilters.exists_pieces href.filters href.filters_trimmed
  have hdots : ∀ s ∈ ref.path.map String.toList, '.' ∉ s := by
    intro s hs
    obtain ⟨segment, hsegment, rfl⟩ := List.mem_map.mp hs
    exact (href.segments segment hsegment).1
  have hpath : (dotted ref.path).toList.splitOn '.' = ref.path.map String.toList := by
    rw [DataRef.toList_dotted]
    exact List.splitOn_intercalate '.' hdots (mt List.map_eq_nil_iff.mp href.path_ne_nil)
  have hfirst : '|' ∉ (dotted ref.path).toList ++ blanks :=
    List.not_mem_append (DataRef.bar_not_mem_dotted href.toIsWritten) (bar_not_mem_blank hblanks)
  have hend : trimEnd ((dotted ref.path).toList ++ blanks) = (dotted ref.path).toList :=
    (trimEnd_blanks hblanks _).trans href.path_trimmed
  rw [String.append_assoc, ofText_data, String.toList_append, String.toList_ofList, hjoin,
    DataRef.ofChars_pieces hfirst hpieces, hend, hpath, htrims, map_ofList_toList, map_ofList_toList]

/-! ### lookups that are read are written -/

theorem exists_spellsFilters (q : List Char) (pieces : List (List Char)) :
    ∃ tail, ['|'].intercalate (q :: pieces) = q ++ tail ∧
      ∀ blanks, Blank blanks → SpellsFilters ((pieces.map trim).map String.ofList) (blanks ++ tail) := by
  induction pieces generalizing q with
  | nil =>
    refine ⟨[], ?_, fun blanks hblanks => ?_⟩
    · rw [List.intercalate_singleton, List.append_nil]
    · rw [List.append_nil]
      exact SpellsFilters.done hblanks
  | cons p pieces ih =>
    obtain ⟨tail, htail, hspells⟩ := ih p
    refine ⟨'|' :: (p ++ tail), ?_, fun blanks hblanks => ?_⟩
    · rw [List.intercalate_cons_cons, htail, List.append_assoc, List.singleton_append]
    · -- the blanks behind the filter go with what follows it
      obtain ⟨before, after, hbefore, hafter, hp⟩ := exists_trim p
      have hfilter := SpellsFilters.filter (f := String.ofList (trim p)) hblanks hbefore (hspells after hafter)
      rw [String.toList_ofList, ← List.append_assoc, ← hp] at hfilter
      exact hfilter

theorem DataRef.isCanonical_spells_ofChars (rest : String) :
    (DataRef.ofChars (dataScheme ++ rest.toList)).IsCanonical ∧
      (DataRef.ofChars (dataScheme ++ rest.toList)).Spells ("lume-data:" ++ rest) := by
  have hwritten := DataRef.isWritten_ofChars (dataScheme ++ rest.toList)
  obtain ⟨q, pieces, hsplit⟩ := List.exists_cons_of_ne_nil (List.splitOn_ne_nil '|' rest.toList)
  have hbars : ∀ p ∈ q :: pieces, '|' ∉ p := by
    rintro p hp hbar
    exact (mem_of_mem_splitOn (hsplit ▸ hp) _ hbar).2 rfl
  obtain ⟨hq, hpieces⟩ := List.forall_mem_cons.mp hbars
  have hrest : rest.toList = ['|'].intercalate (q :: pieces) := hsplit ▸ (List.intercalate_splitOn '|').symm
  rw [hrest, DataRef.ofChars_pieces hq hpieces] at hwritten ⊢
  have hdotted : (dotted (((trimEnd q).splitOn '.').map String.ofList)).toList = trimEnd q := by
    rw [DataRef.toList_dotted, List.map_map]
    simp [Function.comp_def, List.intercalate_splitOn]
  refine ⟨⟨hwritten, ?_, ?_⟩, ?_⟩
  · rw [hdotted]
    exact trimEnd_trimEnd q
  · intro f hf
    obtain ⟨cs, hcs, rfl⟩ := List.mem_map.mp hf
    obtain ⟨p, _, rfl⟩ := List.mem_map.mp hcs
    rw [String.toList_ofList]
    exact trim_trim p
  · obtain ⟨tail, htail, hspells⟩ := exists_spellsFilters q pieces
    obtain ⟨after, hafter, hend⟩ := exists_trimEnd q
    refine ⟨after ++ tail, String.toList_inj.mp ?_, hspells after hafter⟩
    simp only [String.toList_append, String.toList_ofList, hdotted]
    rw [hrest, htail, List.append_assoc, ← List.append_assoc (trimEnd q), ← hend]

/-! ### what texts stand for -/

namespace Reference

/-- What a text stands for, told by how it is spelled. -/
inductive StandsFor : String → Reference → Prop
  | page : StandsFor "site-url:self" .pageUrl
  | site {path : String} : path ≠ "self" → StandsFor ("site-url:" ++ path) (.siteUrl path)
  | data {text : String} {ref : DataRef} : ref.IsCanonical → ref.Spells text → StandsFor text (.data ref)
  | plain {text : String} : (∀ rest, text ≠ "site-url:" ++ rest) → (∀ rest, text ≠ "lume-data:" ++ rest) →
      StandsFor text (.plain text)

theorem standsFor_ofText (text : String) : StandsFor text (ofText text) := by
  by_cases hsite : ∃ path, text = "site-url:" ++ path
  · obtain ⟨path, rfl⟩ := hsite
    by_cases hself : path = "self"
    · subst hself
      exact StandsFor.page
    · rw [ofText_site hself]
      exact StandsFor.site hself
  · by_cases hdata : ∃ rest, text = "lume-data:" ++ rest
    · obtain ⟨rest, rfl⟩ := hdata
      obtain ⟨href, hspells⟩ := DataRef.isCanonical_spells_ofChars rest
      rw [ofText_data]
      exact StandsFor.data href hspells
    · have hplain := not_exists.mp hsite
      rw [ofText_plain hplain (not_exists.mp hdata)]
      exact StandsFor.plain hplain (not_exists.mp hdata)

theorem ofText_eq_iff {reference : Reference} : ofText text = reference ↔ StandsFor text reference := by
  constructor
  · rintro rfl
    exact standsFor_ofText text
  · intro h
    cases h with
    | page => exact ofText_page
    | site hself => exact ofText_site hself
    | data href hspells => exact ofText_of_spells href hspells
    | plain hsite hdata => exact ofText_plain hsite hdata

theorem isCanonical_of_ofText (h : ofText text = .data ref) : ref.IsCanonical := by
  cases ofText_eq_iff.mp h with
  | data href _ => exact href

/-! ### descriptions are read again -/

theorem spells_describe (ref : DataRef) : ref.Spells ("lume-data:" ++ ref.describe) := by
  have hblank : Blank [' '] := List.forall_mem_singleton.mpr rfl
  have hfilters : ∀ (filters : List String) (cs : List Char),
      ∃ tail, " | ".toList.intercalate (cs :: filters.map String.toList) = cs ++ tail ∧ SpellsFilters filters tail := by
    intro filters
    induction filters with
    | nil =>
      intro cs
      refine ⟨[], ?_, SpellsFilters.done (List.forall_mem_nil _)⟩
      rw [List.map_nil, List.intercalate_singleton, List.append_nil]
    | cons f filters ih =>
      intro cs
      obtain ⟨tail, htail, hspells⟩ := ih f.toList
      refine ⟨[' '] ++ '|' :: ([' '] ++ f.toList ++ tail), ?_, SpellsFilters.filter hblank hblank hspells⟩
      rw [List.map_cons, List.intercalate_cons_cons, htail]
      simp
  obtain ⟨tail, htail, hspells⟩ := hfilters ref.filters (dotted ref.path).toList
  refine ⟨tail, String.toList_inj.mp ?_, hspells⟩
  simp only [String.toList_append, String.toList_ofList, DataRef.describe, String.toList_intercalate, List.map_cons,
    htail, List.append_assoc]

theorem ofText_describe (href : ref.IsCanonical) : ofText ("lume-data:" ++ ref.describe) = .data ref :=
  ofText_of_spells href (spells_describe ref)

/-- **Texts and what they stand for tell each other.** A text stands for the URL of the page, for that of a path, for a
lookup or for itself just if it is spelled so. A lookup is spelled by its dotted path and its filters, with any blanks
around the bars and at the end. It has a segment and no dots or bars in a wrong place, and its path has no blanks at the
end and its filters none at either end. The description of a lookup that was read is read as the same lookup, so that no
two have the same description. -/
theorem ofText_round_trip :
    (∀ text reference, ofText text = reference ↔ StandsFor text reference) ∧
      (∀ text ref, ofText text = .data ref → ofText ("lume-data:" ++ ref.describe) = .data ref) ∧
      ∀ text text' a b, ofText text = .data a → ofText text' = .data b → a.describe = b.describe → a = b := by
  refine ⟨fun text reference => ofText_eq_iff, fun text ref h => ?_, fun text text' a b ha hb h => ?_⟩
  · exact ofText_describe (isCanonical_of_ofText h)
  · exact DataRef.describe_inj (isCanonical_of_ofText ha).toIsWritten (isCanonical_of_ofText hb).toIsWritten h

/-- Blanks before a path or a segment stay, those before a bar and around a filter do not, and a filter may be empty. -/
theorem ofText_round_trip_blanks :
    StandsFor "lume-data: a. b \t|\u00a0f | |g h  " (.data ⟨[" a", " b"], ["f", "", "g h"]⟩) ∧
      (⟨[" a", " b"], ["f", "", "g h"]⟩ : DataRef).describe = " a. b | f |  | g h" ∧
      ofText "lume-data: a. b | f |  | g h" = .data ⟨[" a", " b"], ["f", "", "g h"]⟩ := by
  have hread : ofText "lume-data: a. b \t|\u00a0f | |g h  " = .data ⟨[" a", " b"], ["f", "", "g h"]⟩ := by
    decide +kernel
  have hdescribed : (⟨[" a", " b"], ["f", "", "g h"]⟩ : DataRef).describe = " a. b | f |  | g h" := by decide +kernel
  obtain ⟨hspelled, hdescribe, _⟩ := ofText_round_trip
  have hagain := hdescribe _ _ hread
  rw [hdescribed] at hagain
  exact ⟨(hspelled _ _).mp hread, hdescribed, hagain⟩

end Reference

end LinkedData
