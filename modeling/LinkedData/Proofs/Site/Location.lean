import LinkedData.Proofs.Site.Url

/-!
# What is read of a location

* `Site.IsScheme`, `Site.IsHost`, `Site.IsBasePath`: what the parts of a location look like, and
  `Site.ofLocation_parts`: a site is made of such parts;
* `Site.splitScheme_of_isScheme`, `Site.splitHost_of_isHost`: they are read again from where they are written;
* `Site.ofLocation_below`: what is put behind the origin of a site is a location with the same origin.
-/

namespace LinkedData.Site

open Text

variable {scheme host path cs : List Char} {c : Char}

/-- A character that is not left out where a location is read. -/
def staysInLocation (c : Char) : Bool := c != '\t' && c != '\r' && c != '\n'

theorem cleaned_cons (h : 0x20 < c.toNat) (cs : List Char) : cleaned (c :: cs) = (c :: cs).filter staysInLocation := by
  have hkept : decide (c.toNat ≤ 0x20) = false := decide_eq_false (Nat.not_le_of_lt h)
  rw [cleaned, List.dropWhile_cons_of_neg (by simp [hkept])]
  rfl

theorem staysInLocation_of_mem_cleaned (h : c ∈ cleaned cs) : staysInLocation c = true := (List.mem_filter.mp h).2

/-! ### schemes -/

theorem staysInLocation_of_isSchemeChar (h : isSchemeChar c = true) : staysInLocation c = true := by
  have hne : ∀ d : Char, isSchemeChar d = false → (c != d) = true := by
    intro d hd
    refine bne_iff_ne.mpr fun hc => ?_
    rw [← hc, h] at hd
    cases hd
  rw [staysInLocation, hne '\t' (by decide), hne '\r' (by decide), hne '\n' (by decide)]
  rfl

theorem lt_toNat_of_isLetter (h : isLetter c = true) : 0x20 < c.toNat := by
  by_contra hsmall
  have hall : ∀ n < 0x21, isLetter (Char.ofNat n) = false := by decide
  have hnone : isLetter c = false :=
    forall_char_lt (P := fun c => isLetter c = false) hall (Nat.lt_succ_of_le (Nat.le_of_not_lt hsmall))
  rw [h] at hnone
  cases hnone

/-- A letter and more characters of a scheme, in lower case. -/
structure IsScheme (scheme : List Char) : Prop where
  letters : ∃ c name, scheme = c :: name ∧ isLetter c = true ∧ ∀ d ∈ name, isSchemeChar d = true
  lower : scheme.map Char.toLower = scheme

theorem hasScheme_iff : hasScheme cs = true ↔
    ∃ c name rest, cs = c :: name ++ ':' :: rest ∧ isLetter c = true ∧ ∀ d ∈ name, isSchemeChar d = true := by
  constructor
  · intro h
    cases cs with
    | nil => cases h
    | cons c cs =>
      rw [hasScheme, Bool.and_eq_true, beq_iff_eq] at h
      obtain ⟨rest, hrest⟩ := List.head?_eq_some_iff.mp h.2
      refine ⟨c, cs.takeWhile isSchemeChar, rest, ?_, h.1, fun d hd => List.mem_takeWhile_imp hd⟩
      rw [List.cons_append, ← hrest, List.takeWhile_append_dropWhile]
  · rintro ⟨c, name, rest, rfl, hc, hname⟩
    rw [List.cons_append, hasScheme, hc, List.dropWhile_append_of_pos hname]
    rfl

theorem isLetter_toLower (h : isLetter c = true) : isLetter c.toLower = true := by
  rcases toLower_cases c with hsame | hlower
  · rw [hsame, h]
  · exact Bool.or_eq_true_iff.mpr (Or.inr hlower)

theorem isSchemeChar_toLower (h : isSchemeChar c = true) : isSchemeChar c.toLower = true := by
  rcases toLower_cases c with hsame | hlower
  · rw [hsame, h]
  · have hletter : c.toLower.isAlpha = true := Bool.or_eq_true_iff.mpr (Or.inr hlower)
    simp [isSchemeChar, Char.isAlphanum, hletter]

theorem isSchemeChar_of_isLetter (h : isLetter c = true) : isSchemeChar c = true := by
  rw [isLetter] at h
  simp [isSchemeChar, Char.isAlphanum, h]

theorem colon_not_mem_of_isSchemeChar (h : ∀ d ∈ cs, isSchemeChar d = true) : ':' ∉ cs :=
  fun hmem => absurd (h ':' hmem) (by decide)

theorem IsScheme.isSchemeChar (h : IsScheme scheme) : ∀ d ∈ scheme, isSchemeChar d = true := by
  obtain ⟨c, name, rfl, hc, hname⟩ := h.letters
  exact List.forall_mem_cons.mpr ⟨isSchemeChar_of_isLetter hc, hname⟩

/-- Nothing of a scheme is left out. -/
theorem cleaned_of_isScheme (h : IsScheme scheme) (rest : List Char) :
    cleaned (scheme ++ rest) = scheme ++ rest.filter staysInLocation := by
  have hkept : scheme.filter staysInLocation = scheme :=
    List.filter_eq_self.mpr fun c hc => staysInLocation_of_isSchemeChar (h.isSchemeChar c hc)
  obtain ⟨c, name, rfl, hc, _⟩ := h.letters
  rw [List.cons_append, cleaned_cons (lt_toNat_of_isLetter hc), ← List.cons_append, List.filter_append, hkept]

/-- The scheme of a location, if it has one. -/
theorem splitScheme_cases (cs : List Char) : (splitScheme cs).1 = [] ∨ IsScheme (splitScheme cs).1 := by
  rw [splitScheme]
  split
  · next h =>
    obtain ⟨c, name, rest, rfl, hc, hname⟩ := hasScheme_iff.mp h
    have hcolon : ':' ∉ c :: name :=
      colon_not_mem_of_isSchemeChar (List.forall_mem_cons.mpr ⟨isSchemeChar_of_isLetter hc, hname⟩)
    rw [takeWhile_colon hcolon]
    refine Or.inr ⟨⟨c.toLower, name.map Char.toLower, rfl, isLetter_toLower hc, fun d hd => ?_⟩, ?_⟩
    · obtain ⟨written, hwritten, rfl⟩ := List.mem_map.mp hd
      exact isSchemeChar_toLower (hname written hwritten)
    · rw [List.map_map]
      exact List.map_congr_left fun d _ => toLower_toLower d
  · exact Or.inl rfl

theorem hasScheme_of_isScheme (h : IsScheme scheme) (rest : List Char) : hasScheme (scheme ++ ':' :: rest) = true := by
  obtain ⟨c, name, rfl, hc, hname⟩ := h.letters
  exact hasScheme_iff.mpr ⟨c, name, rest, rfl, hc, hname⟩

/-- A scheme is read again from where it is written. -/
theorem splitScheme_of_isScheme (h : IsScheme scheme) (rest : List Char) :
    splitScheme (scheme ++ ':' :: rest) = (scheme, rest) := by
  have hcolon : ':' ∉ scheme := colon_not_mem_of_isSchemeChar h.isSchemeChar
  have hbefore : ∀ d ∈ scheme, (d != ':') = true := fun d hd => bne_iff_ne.mpr fun he => hcolon (he ▸ hd)
  rw [splitScheme, if_pos (hasScheme_of_isScheme h rest), takeWhile_colon hcolon, h.lower, List.dropWhile_append_of_pos hbefore]
  rfl

/-! ### hosts -/

/-- A host that a location may have. -/
structure IsHost (host : List Char) : Prop where
  filled : host ≠ []
  wellFormed : hostIsWellFormed host = true
  inner : ∀ c ∈ host, endsHost c = false

/-- A host is read again from where it is written. -/
theorem splitHost_of_isHost (h : IsHost host) {rest : List Char} (hrest : ∀ c ∈ rest.head?, endsHost c = true) :
    splitHost ('/' :: '/' :: host ++ rest) = (host, rest) := by
  have hinner : ∀ c ∈ host, (!endsHost c) = true := fun c hc => by rw [h.inner c hc]; rfl
  have hends : ∀ c ∈ rest.head?, (!endsHost c) = false := fun c hc => by rw [hrest c hc]; rfl
  have hslashes : ['/', '/'].isPrefixOf ('/' :: '/' :: host ++ rest) = true := rfl
  have hdrop : ('/' :: '/' :: host ++ rest).drop 2 = host ++ rest := rfl
  rw [splitHost, if_pos hslashes, hdrop, takeWhile_run hinner hends, dropWhile_run hinner hends]

/-! ### sites -/

/-- A base path that a location may have: it begins with a slash, if there is one, and ends before the query. -/
structure IsBasePath (path : List Char) : Prop where
  rooted : path = [] ∨ ∃ rest, path = '/' :: rest
  plain : ∀ c ∈ path, beginsSuffix c = false

theorem mem_of_mem_splitScheme (h : c ∈ (splitScheme cs).2) : c ∈ cs := by
  rw [splitScheme] at h
  split at h
  · exact (List.dropWhile_sublist _).subset (List.mem_of_mem_drop h)
  · exact h

theorem mem_of_mem_splitHost (h : c ∈ (splitHost cs).1 ∨ c ∈ (splitHost cs).2) : c ∈ cs := by
  rw [splitHost] at h
  split at h
  · have hmem : c ∈ cs.drop 2 :=
      h.elim (fun h => (List.takeWhile_sublist _).subset h) fun h => (List.dropWhile_sublist _).subset h
    exact List.mem_of_mem_drop hmem
  · exact h.elim (fun h => nomatch h) id

theorem splitHost_inner (cs : List Char) : ∀ c ∈ (splitHost cs).1, endsHost c = false := by
  intro c hc
  rw [splitHost] at hc
  split at hc
  · have hinner : (!endsHost c) = true := List.mem_takeWhile_imp (p := (!endsHost ·)) hc
    simpa using hinner
  · cases hc

/-- A path begins behind the host with what ends it. -/
theorem splitHost_rest (h : (splitHost cs).1 ≠ []) : ∀ c ∈ (splitHost cs).2.head?, endsHost c = true := by
  intro c hc
  rw [splitHost] at h hc
  split at h
  · next hslashes =>
    rw [if_pos hslashes] at hc
    have hends := List.head?_dropWhile_not (!endsHost ·) (cs.drop 2)
    rw [hc] at hends
    simpa using hends
  · exact absurd rfl h

theorem not_beginsSuffix (c : Char) : (c != '?' && c != '#') = !beginsSuffix c := by
  rw [beginsSuffix, Bool.not_or]
  rfl

/-- What a location is split into. -/
theorem splitLocation?_eq_some {parts : Parts} : splitLocation? cs = some parts ↔
    hostIsWellFormed parts.host = true ∧ (splitScheme (cleaned cs)).1 = parts.scheme ∧
      (splitHost (splitScheme (cleaned cs)).2).1 = parts.host ∧
      (splitHost (splitScheme (cleaned cs)).2).2.takeWhile (!beginsSuffix ·) = parts.path := by
  have hsplit : splitLocation? cs =
      if hostIsWellFormed (splitHost (splitScheme (cleaned cs)).2).1 = true then
        some ⟨(splitScheme (cleaned cs)).1, (splitHost (splitScheme (cleaned cs)).2).1,
          (splitHost (splitScheme (cleaned cs)).2).2.takeWhile fun c => c != '?' && c != '#'⟩
      else none := rfl
  rw [hsplit, show (fun c : Char => c != '?' && c != '#') = fun c => !beginsSuffix c from funext not_beginsSuffix]
  by_cases hwellFormed : hostIsWellFormed (splitHost (splitScheme (cleaned cs)).2).1 = true
  · rw [if_pos hwellFormed, Option.some.injEq]
    constructor
    · rintro rfl
      exact ⟨hwellFormed, rfl, rfl, rfl⟩
    · rintro ⟨_, hscheme, hhost, hpath⟩
      rw [hscheme, hhost, hpath]
  · rw [if_neg hwellFormed]
    refine iff_of_false (fun h => nomatch h) ?_
    rintro ⟨hparts, _, hhost, _⟩
    exact hwellFormed (hhost ▸ hparts)

theorem ofLocation_eq_ok {location : String} {site : Site} : ofLocation location = .ok site ↔
    ∃ parts, splitLocation? location.toList = some parts ∧ parts.scheme ≠ [] ∧ parts.host ≠ [] ∧
      ⟨location, String.ofList (parts.scheme ++ "://".toList ++ parts.host),
        if parts.path.isEmpty then "/" else String.ofList parts.path⟩ = site := by
  unfold ofLocation
  cases splitLocation? location.toList with
  | none => exact iff_of_false (fun h => nomatch h) fun ⟨_, h, _⟩ => nomatch h
  | some parts =>
    simp only [Bool.or_eq_true, List.isEmpty_iff, Option.some.injEq, exists_eq_left']
    by_cases hempty : parts.scheme = [] ∨ parts.host = []
    · rw [if_pos hempty]
      exact iff_of_false (fun h => nomatch h) fun ⟨hscheme, hhost, _⟩ => hempty.elim hscheme hhost
    · rw [if_neg hempty, Except.ok.injEq]
      obtain ⟨hscheme, hhost⟩ := not_or.mp hempty
      exact ⟨fun h => ⟨hscheme, hhost, h⟩, fun h => h.2.2⟩

/-- A site is made of a scheme, a host and a base path, and of no characters that are left out of a location. -/
theorem ofLocation_parts {location : String} {site : Site} (h : ofLocation location = .ok site) :
    ∃ scheme host path, IsScheme scheme ∧ IsHost host ∧ IsBasePath path ∧
      (∀ c ∈ host, staysInLocation c = true) ∧ site.origin = String.ofList (scheme ++ "://".toList ++ host) ∧
      site.basePath = if path.isEmpty then "/" else String.ofList path := by
  obtain ⟨⟨scheme, host, path⟩, hparts, hscheme, hhost, rfl⟩ := ofLocation_eq_ok.mp h
  obtain ⟨hwellFormed, rfl, rfl, rfl⟩ := splitLocation?_eq_some.mp hparts
  refine ⟨_, _, _, (splitScheme_cases _).resolve_left hscheme, ⟨hhost, hwellFormed, splitHost_inner _⟩,
    ⟨?_, fun c hc => ?_⟩, fun c hc => ?_, rfl, rfl⟩
  · rcases hrest : (splitHost (splitScheme (cleaned location.toList)).2).2 with _ | ⟨c, rest⟩
    · exact Or.inl rfl
    · have hends : endsHost c = true := splitHost_rest hhost c (by rw [hrest]; rfl)
      rw [endsHost, Bool.or_eq_true, Bool.or_eq_true, beq_iff_eq, beq_iff_eq, beq_iff_eq] at hends
      rcases hends with (rfl | rfl) | rfl
      · exact Or.inr ⟨rest.takeWhile (!beginsSuffix ·), rfl⟩
      · exact Or.inl rfl
      · exact Or.inl rfl
  · have hplain : (!beginsSuffix c) = true := List.mem_takeWhile_imp (p := (!beginsSuffix ·)) hc
    simpa using hplain
  · exact staysInLocation_of_mem_cleaned (mem_of_mem_splitScheme (mem_of_mem_splitHost (Or.inl hc)))

theorem staysInLocation_of_beginsSuffix (h : beginsSuffix c = true) : staysInLocation c = true := by
  rw [beginsSuffix, Bool.or_eq_true, beq_iff_eq, beq_iff_eq] at h
  rcases h with rfl | rfl <;> rfl

/-- What is put behind the origin of a site is a location with the same origin. -/
theorem ofLocation_below {location : String} {site : Site} (h : ofLocation location = .ok site) {path query : List Char}
    (hpath : path.head? = some '/') (hplain : ∀ c ∈ path, beginsSuffix c = false)
    (hquery : ∀ c ∈ query.head?, beginsSuffix c = true) :
    ofLocation (site.origin ++ String.ofList (path ++ query)) =
      .ok ⟨site.origin ++ String.ofList (path ++ query), site.origin, String.ofList (path.filter staysInLocation)⟩ := by
  obtain ⟨scheme, host, _, hscheme, hhost, _, hstays, horigin, _⟩ := ofLocation_parts h
  obtain ⟨rest, rfl⟩ := List.head?_eq_some_iff.mp hpath
  have hcleaned : cleaned (site.origin ++ String.ofList ('/' :: rest ++ query)).toList =
      scheme ++ ':' :: ('/' :: '/' :: host ++
        (('/' :: rest).filter staysInLocation ++ query.filter staysInLocation)) := by
    have horigin : site.origin.toList = scheme ++ ("://".toList ++ host) := by
      rw [horigin, String.toList_ofList, List.append_assoc]
    rw [String.toList_append, String.toList_ofList, horigin, List.append_assoc, cleaned_of_isScheme hscheme,
      List.filter_append, List.filter_append, List.filter_append, List.filter_eq_self.mpr hstays]
    rfl
  have hbefore : ∀ c ∈ ('/' :: rest).filter staysInLocation, (!beginsSuffix c) = true := fun c hc => by
    rw [hplain c (List.mem_filter.mp hc).1]
    rfl
  have hsuffix : ∀ c ∈ (query.filter staysInLocation).head?, (!beginsSuffix c) = false := by
    intro c hc
    cases query with
    | nil => cases hc
    | cons d query =>
      have hd : beginsSuffix d = true := hquery d rfl
      rw [List.filter_cons_of_pos (staysInLocation_of_beginsSuffix hd)] at hc
      obtain rfl := Option.some.inj hc
      rw [hd]
      rfl
  refine ofLocation_eq_ok.mpr ⟨⟨scheme, host, ('/' :: rest).filter staysInLocation⟩, splitLocation?_eq_some.mpr ?_, ?_⟩
  · rw [hcleaned, splitScheme_of_isScheme hscheme, splitHost_of_isHost hhost fun c hc => ?_]
    · exact ⟨hhost.wellFormed, rfl, rfl, takeWhile_run hbefore hsuffix⟩
    · obtain rfl := Option.some.inj hc
      rfl
  · obtain ⟨c, name, rfl, _⟩ := hscheme.letters
    exact ⟨List.cons_ne_nil c name, hhost.filled, by rw [horigin]; rfl⟩

end LinkedData.Site
