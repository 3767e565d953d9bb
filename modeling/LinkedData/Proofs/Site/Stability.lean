import LinkedData.Proofs.Resolver.Basic
import LinkedData.Proofs.Site.Canonical
import LinkedData.Proofs.Site.Inside

/-!
# URLs of URLs

* `Site.passes_url`: the absolute URLs of a site pass, since its origin begins with a scheme;
* `Site.not_passes_normal`: a normal path does not, whatever its query is;
* `Resolver.resolve_siteUrl`: what a reference to the URL of a path resolves to;
* `Site.urls_stable`: an absolute URL is its own URL on every site, and so is a relative one on a site without a base
  path.
-/

namespace LinkedData

namespace Site

variable {location : String} {site : Site} {normal query : List Char}

/-! ### absolute URLs -/

/-- What is put behind the origin of a site is a whole URL. -/
theorem hasScheme_origin (hsite : ofLocation location = .ok site) (rest : List Char) :
    hasScheme (site.origin.toList ++ rest) = true := by
  obtain ⟨scheme, host, _, hscheme, _, _, _, horigin, _⟩ := ofLocation_parts hsite
  rw [horigin, String.toList_ofList, List.append_assoc, List.append_assoc]
  exact hasScheme_of_isScheme hscheme ('/' :: '/' :: (host ++ rest))

theorem passes_url (hsite : ofLocation location = .ok site) (path : String) :
    passes (site.url path true).toList = true := by
  by_cases hpath : passes path.toList = true
  · rwa [url_of_passes hpath]
  · obtain ⟨rest, hrest⟩ := url_of_not_passes site hpath
    rw [hrest, passes, hasScheme_origin hsite, Bool.or_true]

/-! ### relative URLs -/

/-- A normal path before a query is no URL, no relative path and no query, and announces no host. -/
theorem not_passes_normal (hnormal : IsNormal normal) (hquery : ∀ c ∈ query.head?, beginsSuffix c = true) :
    passes (normal ++ query) = false := by
  have hslashes : ['/', '/'].isPrefixOf (normal ++ query) = false := by
    refine Bool.eq_false_iff.mpr fun h => ?_
    have hbase : IsBasePath [] := ⟨Or.inl rfl, List.forall_mem_nil _⟩
    have hnil : ['/', '/'] <+: ([] : List Char) :=
      slashes_prefix hbase (fun h => nomatch h) hnormal hquery (List.isPrefixOf_iff_prefix.mp h)
    exact absurd (List.prefix_nil.mp hnil) (List.cons_ne_nil _ _)
  obtain ⟨rest, rfl, _⟩ := hnormal.rooted
  rw [passes, passingBeginnings, List.any_cons, List.any_cons, List.any_cons, List.any_cons, List.any_cons, hslashes]
  rfl

/-- The path ends where the query begins. -/
theorem beforeSuffix_append (hnormal : ∀ c ∈ normal, beginsSuffix c = false)
    (hquery : ∀ c ∈ query.head?, beginsSuffix c = true) : beforeSuffix (normal ++ query) = normal :=
  Text.takeWhile_run (fun c hc => by rw [hnormal c hc]; rfl) fun c hc => by rw [hquery c hc]; rfl

theorem base_of_root (hroot : site.basePath = "/") : site.base = [] := by rw [Site.base, if_pos hroot]

/-- Without a base path, a relative URL is its own URL. -/
theorem url_url_of_root (hroot : site.basePath = "/") (path : String) :
    site.url (site.url path false) false = site.url path false := by
  by_cases hpath : passes path.toList = true
  · rw [url_of_passes hpath, url_of_passes hpath]
  · have hdivided := isDivided_beforeSuffix path.toList
    have hplain := hdivided.plain_normalizePath
    have hurl : site.url path false =
        String.ofList (normalizePath (beforeSuffix path.toList) ++ suffix path.toList) := by
      rw [url, Bool.eq_false_iff.mpr hpath, base_of_root hroot]
      rfl
    have hagain : passes (site.url path false).toList = false := by
      rw [hurl, String.toList_ofList]
      exact not_passes_normal (normalizePath_isNormal _) hdivided.query
    rw [url, hagain, base_of_root hroot, hurl, String.toList_ofList, beforeSuffix_append hplain hdivided.query,
      suffix_append hplain hdivided.query, normalizePath_normalizePath]
    rfl

end Site

/-! ### references to URLs -/

/-- A text with the scheme of site URLs stands for the URL of what follows, if this is not the word for the page. -/
theorem Reference.ofText_siteUrl {path : String} (hpath : path ≠ "self") :
    Reference.ofText ("site-url:" ++ path) = .siteUrl path := by
  have hne : "site-url:" ++ path ≠ pageUrlText := by
    intro h
    have hlist : siteScheme ++ path.toList = siteScheme ++ "self".toList := by
      have := congrArg String.toList h
      rwa [String.toList_append] at this
    exact hpath (String.toList_inj.mp (List.append_cancel_left hlist))
  have hlist : ("site-url:" ++ path).toList = siteScheme ++ path.toList := String.toList_append
  have hprefix : siteScheme.isPrefixOf ("site-url:" ++ path).toList = true :=
    List.isPrefixOf_iff_prefix.mpr ⟨path.toList, hlist.symm⟩
  rw [Reference.ofText, if_neg hne, if_pos hprefix, hlist, List.drop_left, String.ofList_toList]

/-- A reference to the URL of a path resolves to that URL. -/
theorem Resolver.resolve_siteUrl (r : Resolver) (ctx : PageContext) {path : String} (hpath : path ≠ "self") :
    r.resolve ctx (.str ("site-url:" ++ path)) = .ok (.str (ctx.normalize path true)) := by
  have href : Scalar.ref? (.str ("site-url:" ++ path)) = none := by
    rw [Scalar.ref?, Reference.ofText_siteUrl hpath]
    rfl
  rw [resolve, resolveWithin, resolveTree, resolveScalar_leaf href, resolveLeaf, PageContext.expand,
    Reference.ofText_siteUrl hpath]

namespace Site

/-- **URLs of a site are stable.** The absolute URL of a path is its own absolute URL on every site, so that a reference
to it resolves to it on the pages of every site; and on a site without a base path, the relative URL of a path is its own
relative URL. -/
theorem urls_stable {location : String} {site : Site} (hsite : ofLocation location = .ok site) (path : String) :
    (∀ other : Site, other.url (site.url path true) true = site.url path true) ∧
      (site.basePath = "/" → site.url (site.url path false) false = site.url path false) ∧
      ∀ (r : Resolver) (url : String) (data : Entries) (other : Site),
        r.resolve ⟨url, data, other.url⟩ (.str ("site-url:" ++ site.url path true)) = .ok (.str (site.url path true)) := by
  have hpasses := passes_url hsite path
  refine ⟨fun other => url_of_passes hpasses true, fun hroot => url_url_of_root hroot path, fun r url data other => ?_⟩
  have hself : site.url path true ≠ "self" := by
    intro h
    rw [h] at hpasses
    exact absurd hpasses (by decide)
  rw [Resolver.resolve_siteUrl r _ hself]
  exact congrArg (Except.ok ∘ Value.str) (url_of_passes hpasses true)

/-- A site without a base path, at a location whose scheme is in upper case. -/
def plainSite : Site := ⟨"HTTP+X://user@Example.com?q", "http+x://user@Example.com", "/"⟩

theorem plainSite_stable : ofLocation plainSite.location = .ok plainSite ∧
    plainSite.url "/a/..//b/?c#d" true = "http+x://user@Example.com/b/?c#d" ∧
    (∀ other : Site,
      other.url "http+x://user@Example.com/b/?c#d" true = "http+x://user@Example.com/b/?c#d") ∧
    plainSite.url (plainSite.url "/a/..//b/?c#d" false) false = plainSite.url "/a/..//b/?c#d" false := by
  have hsite : ofLocation plainSite.location = .ok plainSite := by decide +kernel
  have hurl : plainSite.url "/a/..//b/?c#d" true = "http+x://user@Example.com/b/?c#d" := by decide +kernel
  obtain ⟨hstable, hrelative, _⟩ := urls_stable hsite "/a/..//b/?c#d"
  rw [hurl] at hstable
  exact ⟨hsite, hurl, hstable, hrelative rfl⟩

end Site

end LinkedData
