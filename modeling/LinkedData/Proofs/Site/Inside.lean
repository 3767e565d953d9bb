import LinkedData.Proofs.Site.Location
import LinkedData.Proofs.Site.Path

/-!
# URLs stay inside of the site

* `Site.IsDivided`: where the query and the fragment of a path begin;
* `Site.base_spec`, `Site.base_isBasePath`: the base path of a site without its last slashes;
* `Site.url_stays_inside`: the URL of a path that does not pass is one of the site's host and below its base path,
  whatever the path is, and its query and fragment are those of the path.
-/

namespace LinkedData.Site

variable {site : Site} {path before query normal base : List Char}

/-! ### queries -/

/-- What stands before the query and the fragment of a path, and these. -/
structure IsDivided (path before query : List Char) : Prop where
  joined : path = before ++ query
  before : ∀ c ∈ before, beginsSuffix c = false
  query : ∀ c ∈ query.head?, beginsSuffix c = true

theorem isDivided_beforeSuffix (path : List Char) : IsDivided path (beforeSuffix path) (suffix path) where
  joined := (List.takeWhile_append_dropWhile).symm
  before := by
    intro c hc
    have hbefore : (!beginsSuffix c) = true := List.mem_takeWhile_imp (p := (!beginsSuffix ·)) hc
    simpa using hbefore
  query := by
    intro c hc
    have hfirst := List.head?_dropWhile_not (!beginsSuffix ·) path
    rw [suffix] at hc
    rw [hc] at hfirst
    simpa using hfirst

/-- What a path is divided at does not get into its normal form. -/
theorem IsDivided.plain_normalizePath (h : IsDivided path before query) :
    ∀ c ∈ normalizePath before, beginsSuffix c = false := by
  intro c hc
  rcases mem_of_mem_normalizePath hc with rfl | hc
  · rfl
  · exact h.before c hc

/-- The query and the fragment begin behind everything that does not begin them. -/
theorem suffix_append (hbefore : ∀ c ∈ before, beginsSuffix c = false)
    (hquery : ∀ c ∈ query.head?, beginsSuffix c = true) :
    suffix (before ++ query) = query :=
  Text.dropWhile_run (fun c hc => by rw [hbefore c hc]; rfl) fun c hc => by rw [hquery c hc]; rfl

/-! ### base paths -/

/-- A base path is the path without its last slashes, and these. -/
theorem base_spec (site : Site) :
    (∃ n, site.basePath.toList = site.base ++ List.replicate n '/') ∧ site.base.getLast? ≠ some '/' := by
  rw [Site.base]
  split
  · next hroot => exact ⟨⟨1, by rw [hroot]; rfl⟩, fun h => nomatch h⟩
  · have hslashes : ∀ c ∈ site.basePath.toList.reverse.takeWhile (· == '/'), c = '/' :=
      fun c hc => beq_iff_eq.mp (List.mem_takeWhile_imp (p := (· == '/')) hc)
    constructor
    · refine ⟨(site.basePath.toList.reverse.takeWhile (· == '/')).length, ?_⟩
      rw [← List.reverse_inj, List.reverse_append, List.reverse_replicate, ← List.eq_replicate_of_mem hslashes,
        List.reverse_reverse, List.takeWhile_append_dropWhile]
    · rw [List.getLast?_reverse]
      intro h
      have hfirst := List.head?_dropWhile_not (· == '/') site.basePath.toList.reverse
      rw [h] at hfirst
      simp at hfirst

/-- Without its last slashes, the base path of a site is still one that a location may have. -/
theorem base_isBasePath {location : String} (h : ofLocation location = .ok site) : IsBasePath site.base := by
  obtain ⟨_, _, path, _, _, hpath, _, _, hbasePath⟩ := ofLocation_parts h
  have hall : site.basePath.toList.head? = some '/' ∧ ∀ c ∈ site.basePath.toList, beginsSuffix c = false := by
    rw [hbasePath]
    rcases hpath.rooted with rfl | ⟨rest, rfl⟩
    · exact ⟨rfl, List.forall_mem_singleton.mpr rfl⟩
    · rw [List.isEmpty_cons, if_neg Bool.false_ne_true, String.toList_ofList]
      exact ⟨rfl, hpath.plain⟩
  obtain ⟨⟨n, hslashes⟩, _⟩ := base_spec site
  rw [hslashes] at hall
  refine ⟨?_, fun c hc => hall.2 c (List.mem_append_left _ hc)⟩
  cases hbase : site.base with
  | nil => exact Or.inl rfl
  | cons c rest =>
    rw [hbase] at hall
    obtain rfl := Option.some.inj hall.1
    exact Or.inr ⟨rest, rfl⟩

/-! ### URLs -/

/-- Two slashes at the beginning, which would announce a host, come from the base path. -/
theorem slashes_prefix (hbase : IsBasePath base) (hlast : base.getLast? ≠ some '/') (hnormal : IsNormal normal)
    (hquery : ∀ c ∈ query.head?, beginsSuffix c = true) (h : ['/', '/'] <+: base ++ normal ++ query) :
    ['/', '/'] <+: base := by
  rcases hbase.rooted with rfl | ⟨rest, rfl⟩
  · obtain ⟨rest, rfl, hrest⟩ := hnormal.rooted
    rw [List.nil_append, List.cons_append, List.cons_prefix_cons] at h
    have hfirst : (rest ++ query).head? = some '/' := List.singleton_prefix_iff_head?_eq_some.mp h.2
    cases rest with
    | nil => exact absurd (hquery '/' hfirst) (by decide)
    | cons c rest => exact absurd hfirst hrest
  · cases rest with
    | nil => exact absurd rfl hlast
    | cons c rest =>
      obtain ⟨_, hsecond⟩ := List.cons_prefix_cons.mp h
      obtain ⟨rfl, _⟩ := List.cons_prefix_cons.mp hsecond
      exact ⟨rest, rfl⟩

/-- **URLs stay inside of the site.** The URL of a path that does not pass is the origin of the site, its base path
without the last slashes, a normal path, and the query and the fragment of the path as they are; the relative URL is the
same without the origin. So the path is read below the base path, of which no segment is dropped, the URL is a location
with the same origin, its query is that of the path, and the relative URL announces a host only if the base path
does. -/
theorem url_stays_inside {location : String} {site : Site} (hsite : ofLocation location = .ok site) (path : String)
    (hpath : passes path.toList = false) :
    ((∃ n, site.basePath.toList = site.base ++ List.replicate n '/') ∧ site.base.getLast? ≠ some '/') ∧
    ∃ before query normal, IsDivided path.toList before query ∧ IsNormal normal ∧
      site.url path true = site.origin ++ String.ofList (site.base ++ normal ++ query) ∧
      site.url path false = String.ofList (site.base ++ normal ++ query) ∧
      stackReading (site.base ++ normal) = stackReading site.base ++ stackReading normal ∧
      (∃ site', ofLocation (site.url path true) = .ok site' ∧ site'.origin = site.origin) ∧
      suffix (site.base ++ normal ++ query) = query ∧
      (['/', '/'] <+: site.base ++ normal ++ query → ['/', '/'] <+: site.base) := by
  have hurl : ∀ absolute, site.url path absolute =
      if absolute then
        site.origin ++ String.ofList (site.base ++ normalizePath (beforeSuffix path.toList) ++ suffix path.toList)
      else String.ofList (site.base ++ normalizePath (beforeSuffix path.toList) ++ suffix path.toList) := by
    intro absolute
    rw [url, hpath]
    rfl
  have hdivided : IsDivided path.toList (beforeSuffix path.toList) (suffix path.toList) := isDivided_beforeSuffix _
  have hnormal : IsNormal (normalizePath (beforeSuffix path.toList)) := normalizePath_isNormal _
  have hbase : IsBasePath site.base := base_isBasePath hsite
  have hplain : ∀ c ∈ site.base ++ normalizePath (beforeSuffix path.toList), beginsSuffix c = false :=
    List.forall_mem_append.mpr ⟨hbase.plain, hdivided.plain_normalizePath⟩
  have hrooted : (site.base ++ normalizePath (beforeSuffix path.toList)).head? = some '/' := by
    rcases hbase.rooted with hempty | ⟨rest, hrest⟩
    · obtain ⟨rest, hrest, _⟩ := hnormal.rooted
      rw [hempty, hrest]
      rfl
    · rw [hrest]
      rfl
  have hread : ∃ site', ofLocation (site.url path true) = .ok site' ∧ site'.origin = site.origin := by
    rw [hurl true]
    exact ⟨_, ofLocation_below hsite hrooted hplain hdivided.query, rfl⟩
  exact ⟨base_spec site, _, _, _, hdivided, hnormal, hurl true, hurl false, stackReading_append hnormal site.base,
    hread, suffix_append hplain hdivided.query, slashes_prefix hbase (base_spec site).2 hnormal hdivided.query⟩

/-- A site below a base path with two slashes at its end. -/
def blogSite : Site := ⟨"https://example.com/blog//", "https://example.com", "/blog//"⟩

theorem blogSite_stays_inside : ofLocation blogSite.location = .ok blogSite ∧
    blogSite.url "/../../a//./b/?q=../#x" true = "https://example.com/blog/a/b/?q=../#x" ∧
    ∃ before query normal, IsDivided "/../../a//./b/?q=../#x".toList before query ∧ IsNormal normal ∧
      blogSite.url "/../../a//./b/?q=../#x" true =
        blogSite.origin ++ String.ofList (blogSite.base ++ normal ++ query) := by
  have hsite : ofLocation blogSite.location = .ok blogSite := by decide +kernel
  obtain ⟨_, before, query, normal, hdivided, hnormal, hurl, _⟩ :=
    url_stays_inside hsite "/../../a//./b/?q=../#x" (by decide +kernel)
  exact ⟨hsite, by decide +kernel, before, query, normal, hdivided, hnormal, hurl⟩

end LinkedData.Site
