import LinkedData.Proofs.Resolver.TwoRuns

/-!
# More filters

A resolver that has further filters, under new names, resolves what it could resolve before to the same, and fails as it
did before, but where it wanted one of the new filters.

* `Resolver.fetch_conserves`, `Resolver.resolve_conserves`: a larger registry conserves lookups and resolutions;
* `Resolver.resolve_eq_unknownFilter`: a resolution fails for the want of a filter only as the filters do;
* `Resolver.extension_conserves`: the resolutions and the filters of a registry that is extended any number of times.
-/

namespace LinkedData.Resolver

variable {r r' : Resolver} {ctx : PageContext} {v : Value}

/-! ### larger registries -/

section Extends

variable (hextends : r.registry.Extends r'.registry)
include hextends

theorem fetch_conserves (ref : DataRef) : Conserves (r.fetch ctx ref) (r'.fetch ctx ref) :=
  conserves_lasting.bind (conserves_lasting.refl _) fun u _ => hextends.apply ref.filters u

theorem resolve_conserves (hdepth : r'.maxDepth = r.maxDepth) : Conserves (r.resolve ctx v) (r'.resolve ctx v) :=
  resolve_inStep conserves_lasting rfl rfl hdepth (fun ref (_ : True) => fetch_conserves hextends ref)
    (fun _ _ _ _ => trivial) fun _ _ => trivial

end Extends

/-! ### filters that are wanted -/

/-- A path that leads nowhere does not want a filter. -/
theorem extract_not_wantsFilter {path : List String} {e : Failure} (h : extract v path = .error e) :
    ¬ e.WantsFilter := by
  rintro ⟨name, available, rfl⟩
  obtain ⟨_, segment, _, u, _, _, hmisses⟩ := extractFrom_eq_error.mp h
  cases hmisses

theorem resolveLeaf_not_wantsFilter {s : Scalar} {e : Failure} (h : resolveLeaf ctx s = .error e) :
    ¬ e.WantsFilter := by
  rintro ⟨name, available, rfl⟩
  rcases resolveLeaf_eq_error h with ⟨x, hfault⟩ | ⟨houtside, _⟩
  · cases hfault
  · cases houtside

/-- A resolution fails for the want of a filter only as the filters do. -/
theorem resolve_eq_unknownFilter {name : String} {available : List String}
    (h : r.resolve ctx v = .error (.fault (.unknownFilter name available))) :
    r.registry.Reports name available ∨ r.registry.RaisesItself (.fault (.unknownFilter name available)) := by
  obtain ⟨u, x, _, _, hraises⟩ := raises_of_resolve h
  generalize he : Failure.fault (.unknownFilter name available) = e at hraises
  have hwants : e.WantsFilter := ⟨name, available, he.symm⟩
  cases hraises with
  | leaf href hleaf => exact absurd hwants (resolveLeaf_not_wantsFilter hleaf)
  | @fetch s ref e href hfetch =>
    rw [fetch, bind_eq_error] at hfetch
    rcases hfetch with hextract | ⟨found, _, happly⟩
    · exact absurd hwants (extract_not_wantsFilter hextract)
    · subst he
      exact Registry.apply_eq_unknownFilter happly
  | chain chain _ => cases ofFault_eq_fault he.symm
  | set members => cases ofFault_eq_fault he.symm
  | key hf => cases ofFault_eq_fault he.symm

/-! ### any number of extensions -/

/-- **More filters take nothing away.** Extend a registry any number of times by filters under names that it does not
have. Under each limit, the resolution of a tree and the application of filters to a value then have the same results as
before, and fail in the same way as before, but for the want of a filter. A failure for the want of a filter names one
that the registry does not have, and lists those that it has in order, unless one of its own filters raised that very
failure itself. -/
theorem extension_conserves (reg reg' : Registry) (steps : List (List (String × Filter)))
    (h : reg.extendAll steps = .ok reg') (hnew : ∀ more ∈ steps, ∀ e ∈ more, e.1 ∉ reg.names) :
    (∀ (limit : Nat) (hlimit : 0 < limit) (ctx : PageContext) (v : Value),
      Conserves (resolve ⟨reg, limit, hlimit⟩ ctx v) (resolve ⟨reg', limit, hlimit⟩ ctx v) ∧
        ∀ name available, resolve ⟨reg, limit, hlimit⟩ ctx v = .error (.fault (.unknownFilter name available)) →
          reg.Reports name available ∨ reg.RaisesItself (.fault (.unknownFilter name available))) ∧
    ∀ (filters : List String) (v : Value),
      Conserves (reg.apply v filters) (reg'.apply v filters) ∧
        ∀ name available, reg.apply v filters = .error (.fault (.unknownFilter name available)) →
          reg.Reports name available ∨ reg.RaisesItself (.fault (.unknownFilter name available)) := by
  have hextends : reg.Extends reg' := Registry.extends_of_extendAll h hnew
  constructor
  · intro limit hlimit ctx v
    refine ⟨resolve_conserves hextends rfl, fun name available h => ?_⟩
    exact resolve_eq_unknownFilter h
  · intro filters v
    exact ⟨hextends.apply filters v, fun name available h => Registry.apply_eq_unknownFilter h⟩

/-- The first item of a list. -/
def firstItem : Filter
  | .list (v :: _) => .ok v
  | v => .error (.fault (.filterType "first" "a list with items" v))

/-- The last item of a list. -/
def lastItem : Filter
  | .list (v :: vs) => .ok (vs.getLastD v)
  | v => .error (.fault (.filterType "last" "a list with items" v))

/-- Two extensions of the standard registry, the second of which replaces a filter of the first one. -/
def itemFilters : List (List (String × Filter)) := [[("first", firstItem)], [("last", lastItem), ("first", lastItem)]]

/-- A page with the times of some talks, the last of them that of another entry. -/
def timesPage : PageContext :=
  ⟨"/", [(.str "times", .list [.int 30, .str "lume-data:long | iso8601minutes"]), (.str "long", .int 90)],
    exampleSite.url⟩

/-- The registry that they yield. -/
def itemRegistry : Registry := ⟨[(minutesName, minutes), ("first", lastItem), ("last", lastItem)]⟩

/-- The resolver with its filters. -/
def withItemFilters : Resolver := ⟨itemRegistry, standardDepth, standardDepth_pos⟩

/-- What was wanted before the extensions is found after them, and its value resolved in turn. All else stays. -/
theorem itemFilters_conserve :
    Registry.standard.extendAll itemFilters = .ok itemRegistry ∧
      (∀ more ∈ itemFilters, ∀ e ∈ more, e.1 ∉ Registry.standard.names) ∧
      withItemFilters.resolve timesPage (.str "lume-data:times.0 | iso8601minutes") = .ok (.str "PT30M") ∧
      withItemFilters.resolve timesPage (.str "lume-data:times | iso8601minutes | first") =
        .error (.fault (.filterType "iso8601minutes" "a number"
          (.list [.int 30, .str "lume-data:long | iso8601minutes"]))) ∧
      Resolver.standard.resolve timesPage (.str "lume-data:times | first") =
        .error (.fault (.unknownFilter "first" ["iso8601minutes"])) ∧
      Registry.standard.Reports "first" ["iso8601minutes"] ∧
      withItemFilters.resolve timesPage (.str "lume-data:times | first") = .ok (.str "PT90M") := by
  have hextended : Registry.standard.extendAll itemFilters = .ok itemRegistry := rfl
  have hnew : ∀ more ∈ itemFilters, ∀ e ∈ more, e.1 ∉ Registry.standard.names := by decide +kernel
  obtain ⟨hresolve, _⟩ := extension_conserves .standard itemRegistry itemFilters hextended hnew
  have hduration : Resolver.standard.resolve timesPage (.str "lume-data:times.0 | iso8601minutes") =
      .ok (.str "PT30M") := by
    decide +kernel
  have hlist : Resolver.standard.resolve timesPage (.str "lume-data:times | iso8601minutes | first") =
      .error (.fault (.filterType "iso8601minutes" "a number"
        (.list [.int 30, .str "lume-data:long | iso8601minutes"]))) := by
    decide +kernel
  have hwants : Resolver.standard.resolve timesPage (.str "lume-data:times | first") =
      .error (.fault (.unknownFilter "first" ["iso8601minutes"])) := by
    decide +kernel
  have hkeeps := fun v => hresolve standardDepth standardDepth_pos timesPage v
  refine ⟨hextended, hnew, (hkeeps _).1.ok _ hduration, (hkeeps _).1.error _ hlist ?_, hwants, ?_, by decide +kernel⟩
  · rintro ⟨name, available, ⟨⟩⟩
  · refine ((hkeeps _).2 _ _ hwants).resolve_right fun hraises => ?_
    rcases Registry.standard_raisesItself hraises with ⟨expected, v, hfault⟩ | hlong
    · cases hfault
    · cases hlong

/-- A filter that wants another one, and says that there is none of its own name. -/
def wantingFilter : Filter := fun _ => .error (.fault (.unknownFilter "want" []))

/-- A registry with this filter. -/
def wantingRegistry : Registry := ⟨[("want", wantingFilter)]⟩

/-- A filter can itself raise a failure that names a filter which is registered, and that lists none of those that are.
And one name can not be given to a filter, though no filter has it. -/
theorem wantingFilter_raises_itself :
    Resolver.resolve ⟨wantingRegistry, standardDepth, standardDepth_pos⟩ timesPage (.str "lume-data:long | want") =
        .error (.fault (.unknownFilter "want" [])) ∧
      "want" ∈ wantingRegistry.names ∧ wantingRegistry.names ≠ [] ∧
      "self" ∉ Registry.standard.names ∧
      Registry.standard.extend [("self", firstItem)] = .error .filterNameTaken := by
  refine ⟨?_, ?_, ?_, ?_, rfl⟩ <;> decide +kernel

end LinkedData.Resolver
