import Mathlib.Data.List.TakeWhile
import LinkedData.Proofs.Text.Ascii
import LinkedData.Reference
import LinkedData.Site.Basic

/-!
# Which URLs of a site read as references

* `Reference.isReference_iff`: a text is a reference if it begins with one of the two reserved schemes;
* `Reference.plain_of_not_isReference`: any other text stands for itself;
* `Site.ofLocation_origin`: the origin of a site begins with a scheme and a colon;
* `Site.url_isReference_iff`: a URL is a reference if its path is one and passes unchanged, which all references do,
  or if the scheme of the location is a reserved one.
-/

namespace LinkedData

/-! ### schemes -/

theorem takeWhile_colon {s : List Char} (hs : ':' ∉ s) (rest : List Char) :
    (s ++ ':' :: rest).takeWhile (· != ':') = s := by
  have hall : ∀ c ∈ s, (c != ':') = true := fun c hc => bne_iff_ne.mpr fun h => hs (h ▸ hc)
  refine Text.takeWhile_run hall fun c hc => ?_
  obtain rfl := Option.some.inj hc
  rfl

/-- What stands before the first colon decides which scheme a text begins with. -/
theorem scheme_prefix_iff {name s : List Char} (hname : ':' ∉ name) (hs : ':' ∉ s) (rest : List Char) :
    name ++ [':'] <+: s ++ ':' :: rest ↔ s = name := by
  constructor
  · rintro ⟨more, hmore⟩
    rw [List.append_assoc, List.singleton_append] at hmore
    rw [← takeWhile_colon hs rest, ← hmore, takeWhile_colon hname more]
  · rintro rfl
    exact ⟨rest, by rw [List.append_assoc, List.singleton_append]⟩

namespace Reference

theorem isReference_iff {text : String} :
    (ofText text).isReference = true ↔ siteScheme <+: text.toList ∨ dataScheme <+: text.toList := by
  unfold ofText
  by_cases hpage : text = pageUrlText
  · subst hpage
    exact iff_of_true rfl (Or.inl (List.isPrefixOf_iff_prefix.mp (by decide)))
  rw [if_neg hpage]
  by_cases hsite : siteScheme.isPrefixOf text.toList = true
  · rw [if_pos hsite]
    exact iff_of_true rfl (Or.inl (List.isPrefixOf_iff_prefix.mp hsite))
  rw [if_neg hsite]
  by_cases hdata : dataScheme.isPrefixOf text.toList = true
  · rw [if_pos hdata]
    exact iff_of_true rfl (Or.inr (List.isPrefixOf_iff_prefix.mp hdata))
  rw [if_neg hdata]
  refine iff_of_false Bool.false_ne_true ?_
  rintro (h | h)
  · exact hsite (List.isPrefixOf_iff_prefix.mpr h)
  · exact hdata (List.isPrefixOf_iff_prefix.mpr h)

theorem plain_of_not_isReference {text : String} (h : (ofText text).isReference = false) :
    ofText text = .plain text := by
  unfold ofText at h ⊢
  by_cases hpage : text = pageUrlText
  · rw [if_pos hpage] at h
    cases h
  rw [if_neg hpage] at h ⊢
  by_cases hsite : siteScheme.isPrefixOf text.toList = true
  · rw [if_pos hsite] at h
    cases h
  rw [if_neg hsite] at h ⊢
  by_cases hdata : dataScheme.isPrefixOf text.toList = true
  · rw [if_pos hdata] at h
    cases h
  rw [if_neg hdata]

/-- A text with a scheme is a reference if the scheme is a reserved one. -/
theorem isReference_scheme_iff {text : String} {s rest : List Char} (hs : ':' ∉ s)
    (htext : text.toList = s ++ ':' :: rest) :
    (ofText text).isReference = true ↔ s = "site-url".toList ∨ s = "lume-data".toList := by
  have hsite : siteScheme = "site-url".toList ++ [':'] := by decide
  have hdata : dataScheme = "lume-data".toList ++ [':'] := by decide
  rw [isReference_iff, htext, hsite, hdata, scheme_prefix_iff (by decide) hs, scheme_prefix_iff (by decide) hs]

end Reference

/-! ### sites -/

namespace Site

theorem splitScheme_no_colon (cs : List Char) : ':' ∉ (splitScheme cs).1 := by
  rw [splitScheme]
  split
  · intro hmem
    obtain ⟨c, hc, hlower⟩ := List.mem_map.mp hmem
    have hne : (c != ':') = true := List.mem_takeWhile_imp (p := (· != ':')) hc
    exact Text.toLower_ne (by decide) (bne_iff_ne.mp hne) hlower
  · exact List.not_mem_nil

theorem splitLocation?_scheme {location : List Char} {parts : Parts} (h : splitLocation? location = some parts) :
    ':' ∉ parts.scheme := by
  simp only [splitLocation?] at h
  split at h
  · obtain rfl := Option.some.inj h
    exact splitScheme_no_colon (cleaned location)
  · cases h

theorem ofLocation_origin {location : String} {site : Site} (h : ofLocation location = .ok site) :
    ∃ s rest, ':' ∉ s ∧ site.origin.toList = s ++ ':' :: rest := by
  unfold ofLocation at h
  split at h
  · cases h
  · next parts hparts =>
    split at h
    · cases h
    · obtain rfl := Except.ok.inj h
      refine ⟨parts.scheme, ['/', '/'] ++ parts.host, splitLocation?_scheme hparts, ?_⟩
      rw [String.toList_ofList, List.append_assoc]
      rfl

/-- References pass unchanged. -/
theorem passes_of_isReference {path : String} (h : (Reference.ofText path).isReference = true) :
    passes path.toList = true := by
  rw [Reference.isReference_iff] at h
  rw [passes, Bool.or_eq_true]
  right
  rcases h with ⟨rest, hrest⟩ | ⟨rest, hrest⟩
  · rw [← hrest]
    rfl
  · rw [← hrest]
    rfl

theorem url_of_passes {site : Site} {path : String} (h : passes path.toList = true) (absolute : Bool) :
    site.url path absolute = path := by
  simp only [url, h, if_true]

theorem url_of_not_passes (site : Site) {path : String} (h : ¬ passes path.toList = true) :
    ∃ rest, (site.url path true).toList = site.origin.toList ++ rest := by
  simp only [url, if_neg h, if_true, String.toList_append]
  exact ⟨_, rfl⟩

theorem url_isReference_iff {location : String} {site : Site} (hsite : ofLocation location = .ok site)
    (path : String) :
    (Reference.ofText (site.url path true)).isReference = true ↔
      (Reference.ofText path).isReference = true ∨
        passes path.toList = false ∧ (Reference.ofText site.origin).isReference = true := by
  by_cases hpass : passes path.toList = true
  · rw [url_of_passes hpass, hpass]
    simp
  · have hpath : ¬ (Reference.ofText path).isReference = true := fun h => hpass (passes_of_isReference h)
    obtain ⟨s, rest, hs, horigin⟩ := ofLocation_origin hsite
    obtain ⟨more, hmore⟩ := url_of_not_passes site hpass
    rw [horigin, List.append_assoc, List.cons_append] at hmore
    rw [Reference.isReference_scheme_iff hs hmore, ← Reference.isReference_scheme_iff hs horigin,
      Bool.eq_false_iff.mpr hpass]
    simp [hpath]

end Site

end LinkedData
