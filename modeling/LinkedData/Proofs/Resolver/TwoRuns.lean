import LinkedData.Proofs.Resolver.Cycle

/-!
# Two resolutions side by side

Two resolutions of one tree, with resolvers and page data of their own, go on in step as long as the lookups that they
come to end in step. What it is to end in step may be any lasting relation of outcomes.

* `resolveTree_inStep`: trees end in step if the lookups in them do;
* `Resolver.follow_inStep`: lookups do if all that they lead to are found in step;
* `Resolver.resolve_inStep`: so do the resolutions of a tree that leads to no others;
* `resolveTree_agrees`, `Resolver.resolve_agrees`: the case of the same result, or of failures in a relation that each
  failure has to itself.
-/

namespace LinkedData

variable {R : ∀ {α : Type}, Except Failure α → Except Failure α → Prop} (hR : Lasting R) {Q : Failure → Failure → Prop}
  (hQ : ∀ e, Q e e) {ctx ctx' : PageContext} (hurl : ctx'.url = ctx.url) (hnormalize : ctx'.normalize = ctx.normalize)

/-! ### trees -/

section Trees

variable {follow follow' : DataRef → Except Failure Value}

include hurl hnormalize in
/-- Leaves that are no lookups depend on the URL and on what makes URLs only. -/
theorem resolveLeaf_congr (s : Scalar) : resolveLeaf ctx' s = resolveLeaf ctx s := by
  cases s with
  | str text => rw [resolveLeaf, resolveLeaf, PageContext.expand, PageContext.expand, hurl, hnormalize]
  | _ => rfl

include hR

theorem resolveTreeL_inStep {vs : List Value}
    (h : ∀ v ∈ vs, R (resolveTree follow ctx v) (resolveTree follow' ctx' v)) :
    R (resolveTreeL follow ctx vs) (resolveTreeL follow' ctx' vs) := by
  induction vs with
  | nil => exact hR.refl _
  | cons v vs ih =>
    obtain ⟨hv, hvs⟩ := List.forall_mem_cons.mp h
    rw [resolveTreeL_cons, resolveTreeL_cons]
    exact hR.bind hv fun w _ => hR.map (ih hvs) (w :: ·)

theorem resolveTreeE_inStep {es : Entries}
    (h : ∀ e ∈ es, R (resolveTree follow ctx e.2) (resolveTree follow' ctx' e.2)) :
    R (resolveTreeE follow ctx es) (resolveTreeE follow' ctx' es) := by
  induction es with
  | nil => exact hR.refl _
  | cons e es ih =>
    obtain ⟨k, v⟩ := e
    obtain ⟨hv, hes⟩ := List.forall_mem_cons.mp h
    rcases k.str_or_ne with ⟨name, rfl⟩ | hk
    · rw [resolveTreeE_cons, resolveTreeE_cons]
      exact hR.bind hv fun w _ => hR.map (ih hes) ((.str name, w) :: ·)
    · rw [resolveTreeE_cons_of_ne hk, resolveTreeE_cons_of_ne hk]
      exact hR.refl _

include hurl hnormalize

/-- Trees end in step if the lookups in them do. -/
theorem resolveTree_inStep {v : Value} (h : ∀ ref, v.LooksUp ref → R (follow ref) (follow' ref)) :
    R (resolveTree follow ctx v) (resolveTree follow' ctx' v) := by
  induction v using Value.induct with
  | scalar s =>
    rw [resolveTree, resolveTree]
    cases hs : s.ref? with
    | none =>
      rw [resolveScalar_leaf hs, resolveScalar_leaf hs, resolveLeaf_congr hurl hnormalize]
      exact hR.refl _
    | some ref =>
      rw [resolveScalar_ref hs, resolveScalar_ref hs]
      exact h ref ⟨s, Value.mem_parts_self _, hs⟩
  | set members =>
    rw [resolveTree, resolveTree]
    exact hR.refl _
  | list items ih =>
    rw [resolveTree, resolveTree]
    have hitems : ∀ u ∈ items, R (resolveTree follow ctx u) (resolveTree follow' ctx' u) := fun u hu =>
      ih u hu fun ref href => h ref (href.of_part (Value.mem_parts_of_list hu))
    exact hR.map (resolveTreeL_inStep hR hitems) Value.list
  | tuple items ih =>
    rw [resolveTree, resolveTree]
    have hitems : ∀ u ∈ items, R (resolveTree follow ctx u) (resolveTree follow' ctx' u) := fun u hu =>
      ih u hu fun ref href => h ref (href.of_part (Value.mem_parts_of_tuple hu))
    exact hR.map (resolveTreeL_inStep hR hitems) Value.list
  | map es ih =>
    rw [resolveTree, resolveTree]
    have hvalues : ∀ e ∈ es, R (resolveTree follow ctx e.2) (resolveTree follow' ctx' e.2) := fun e he =>
      ih e he fun ref href => h ref (href.of_part (Value.mem_parts_of_map he))
    exact hR.map (resolveTreeE_inStep hR hvalues) fun ws => Value.map (Entries.ofList ws)

omit hR

include hQ in
theorem resolveTree_agrees {v : Value} (h : ∀ ref, v.LooksUp ref → Agrees Q (follow ref) (follow' ref)) :
    Agrees Q (resolveTree follow ctx v) (resolveTree follow' ctx' v) :=
  resolveTree_inStep (Agrees.lasting hQ) hurl hnormalize h

end Trees

/-! ### lookups -/

namespace Resolver

variable {r r' : Resolver} (hdepth : r'.maxDepth = r.maxDepth) {I : DataRef → Prop}
include hurl hnormalize hdepth

section InStep

variable (hfetch : ∀ ref, I ref → R (r.fetch ctx ref) (r'.fetch ctx' ref))
  (hleads : ∀ ref next, I ref → r.LeadsTo ctx ref next → I next)
include hR hfetch hleads

/-- Lookups that are found in step, and lead to no others than such, end in step under the same lookups and limit. The
induction is on what is left of the limit. -/
theorem follow_inStep (left : Nat) (chain : List DataRef) {ref : DataRef} (href : I ref) :
    R (r.follow ctx left chain ref) (r'.follow ctx' left chain ref) := by
  induction left generalizing chain ref with
  | zero =>
    rw [follow, follow, hdepth]
    exact hR.refl _
  | succ left ih =>
    by_cases hmem : ref ∈ chain
    · rw [follow_mem hmem, follow_mem hmem, hdepth]
      exact hR.refl _
    · rw [follow_succ hmem, follow_succ hmem]
      refine hR.bind (hfetch ref href) fun u hu => resolveTree_inStep hR hurl hnormalize fun next hnext => ?_
      exact ih (chain ++ [ref]) (hleads ref next href ⟨u, hu, hnext⟩)

/-- So do trees in which all lookups are of this kind. -/
theorem resolve_inStep {v : Value} (hv : ∀ ref, v.LooksUp ref → I ref) : R (r.resolve ctx v) (r'.resolve ctx' v) := by
  rw [resolve, resolve, resolveWithin, resolveWithin, hdepth]
  exact resolveTree_inStep hR hurl hnormalize fun ref href =>
    follow_inStep hR hurl hnormalize hdepth hfetch hleads _ _ (hv ref href)

end InStep

include hQ in
theorem resolve_agrees (hfetch : ∀ ref, I ref → Agrees Q (r.fetch ctx ref) (r'.fetch ctx' ref))
    (hleads : ∀ ref next, I ref → r.LeadsTo ctx ref next → I next) {v : Value} (hv : ∀ ref, v.LooksUp ref → I ref) :
    Agrees Q (r.resolve ctx v) (r'.resolve ctx' v) :=
  resolve_inStep (Agrees.lasting hQ) hurl hnormalize hdepth hfetch hleads hv

end Resolver

end LinkedData
