import LinkedData.Proofs.Resolver.TwoRuns

/-!
# Resolution under other chains

The guard compares a lookup with the chain of those that are under way, and nothing else in a resolution does. So a
chain decides on whether a resolution is cut, and not on how it ends if it is not.

* `Resolver.Stays`: an outcome that is another one, unless this is the failure of the guard;
* `Resolver.follow_stays`, `Resolver.resolveWithin_stays`: outcomes stay if lookups of the chain are left out;
* `Resolver.follow_of_uncut`, `Resolver.resolveWithin_unique`: under any two chains the results are the same;
* `Resolver.ComesTo`: the lookups that a resolution comes to, with the chains that are under way by then;
* `Resolver.exists_value`: all of them that are the same lookup have the same value, if the resolution succeeds.
-/

namespace LinkedData.Resolver

variable {r : Resolver} {ctx : PageContext} {v w : Value} {chain chain' within : List DataRef} {ref last : DataRef}

/-! ### chains with less in them -/

/-- The second outcome is the first one, unless this is the failure of the guard. -/
def Stays (r : Resolver) {α : Type} (o o' : Except Failure α) : Prop := (∀ path, ¬ r.IsCut path o) → o' = o

theorem Stays.of_cut {α : Type} {o o' : Except Failure α} (path : List DataRef) (h : r.IsCut path o) : r.Stays o o' :=
  fun huncut => absurd h (huncut path)

theorem Stays.of_ok {α : Type} {a : α} {o : Except Failure α} (h : r.Stays (.ok a) o) : o = .ok a :=
  h fun _ hcut => nomatch hcut

theorem stays_lasting (r : Resolver) : Lasting r.Stays where
  refl := fun _ _ => rfl
  bind := by
    intro α β o o' f g h hfg huncut
    -- a first step that is cut would cut the whole
    rw [h fun path hcut => huncut path (hcut.bind f)]
    cases o with
    | error e => rfl
    | ok a => exact hfg a rfl huncut

/-- A lookup stays as it is with less under way and more left of the limit. The induction is on what is left of it. -/
theorem follow_stays (left : Nat) : ∀ {left' : Nat} {chain chain' : List DataRef} (ref : DataRef), left ≤ left' →
    chain' ⊆ chain → r.Stays (r.follow ctx left chain ref) (r.follow ctx left' chain' ref) := by
  induction left with
  | zero =>
    intro left' chain chain' ref _ _
    exact Stays.of_cut (chain ++ [ref]) rfl
  | succ left ih =>
    intro left' chain chain' ref hleft hsub
    by_cases hmem : ref ∈ chain
    · exact Stays.of_cut (chain ++ [ref]) (follow_mem hmem)
    · obtain ⟨left', rfl⟩ := Nat.exists_eq_succ_of_ne_zero (Nat.ne_zero_of_lt hleft)
      rw [follow_succ hmem, follow_succ fun hmem' => hmem (hsub hmem')]
      refine (stays_lasting r).bind ((stays_lasting r).refl _) fun u _ => ?_
      refine resolveTree_inStep (stays_lasting r) rfl rfl fun next _ => ?_
      have hsub' : chain' ++ [ref] ⊆ chain ++ [ref] :=
        List.append_subset.mpr ⟨List.subset_append_of_subset_left [ref] hsub, List.subset_append_right chain [ref]⟩
      exact ih next (Nat.le_of_succ_le_succ hleft) hsub'

/-- So does a tree under a chain that is no longer and has no other lookups. -/
theorem resolveWithin_stays (hsub : chain' ⊆ chain) (hlength : chain'.length ≤ chain.length) :
    r.Stays (r.resolveWithin ctx chain v) (r.resolveWithin ctx chain' v) :=
  resolveTree_inStep (stays_lasting r) rfl rfl fun ref _ => follow_stays _ ref (Nat.sub_le_sub_left hlength _) hsub

/-! ### any two chains -/

/-- A lookup that has a value under some chain has it under each one that does not cut it: it would have it with nothing
under way. -/
theorem follow_of_uncut {left left' : Nat} {x : Value} (h : r.follow ctx left chain ref = .ok x)
    (huncut : ∀ path, ¬ r.IsCut path (r.follow ctx left' chain' ref)) : r.follow ctx left' chain' ref = .ok x := by
  have hx : r.follow ctx (max left left') [] ref = .ok x :=
    Stays.of_ok (h ▸ follow_stays left ref (Nat.le_max_left left left') (List.nil_subset chain))
  have hsame := follow_stays left' ref (Nat.le_max_right left left') (List.nil_subset chain') huncut
  exact hsame.symm.trans hx

/-- Whatever is under way, a lookup has one value at most. -/
theorem follow_unique {left left' : Nat} {x x' : Value} (h : r.follow ctx left chain ref = .ok x)
    (h' : r.follow ctx left' chain' ref = .ok x') : x = x' := by
  have hx : r.follow ctx left' chain' ref = .ok x := follow_of_uncut h fun path hcut => nomatch h'.symm.trans hcut
  exact Except.ok.inj (hx.symm.trans h')

/-- A tree that resolves under some chain resolves to the same with nothing under way. -/
theorem resolve_of_resolveWithin (h : r.resolveWithin ctx chain v = .ok w) : r.resolve ctx v = .ok w :=
  Stays.of_ok (h ▸ resolveWithin_stays (List.nil_subset chain) (Nat.zero_le chain.length))

theorem resolveWithin_unique {w' : Value} (h : r.resolveWithin ctx chain v = .ok w)
    (h' : r.resolveWithin ctx chain' v = .ok w') : w = w' :=
  Except.ok.inj ((resolve_of_resolveWithin h).symm.trans (resolve_of_resolveWithin h'))

/-! ### lookups that a resolution comes to -/

/-- The resolution of a tree under a chain comes to a lookup under another one: the tree looks it up, or the value of a
lookup in the tree does, or of one in that value, and so on. -/
inductive ComesTo (r : Resolver) (ctx : PageContext) : List DataRef → Value → List DataRef → DataRef → Prop
  | leaf {chain : List DataRef} {v : Value} {ref : DataRef} : v.LooksUp ref → ComesTo r ctx chain v chain ref
  | lookup {chain within : List DataRef} {v u : Value} {ref last : DataRef} : v.LooksUp ref → r.fetch ctx ref = .ok u →
      ComesTo r ctx (chain ++ [ref]) u within last → ComesTo r ctx chain v within last

/-- In a tree that resolves, all lookups do. -/
theorem exists_value_of_looksUp {follow : DataRef → Except Failure Value} (h : resolveTree follow ctx v = .ok w)
    (href : v.LooksUp ref) : ∃ x, follow ref = .ok x := by
  have hparts : ∀ (vs ws : List Value),
      List.Forall₂ (fun v _ => ∀ ref, v.LooksUp ref → ∃ x, follow ref = .ok x) vs ws →
        ∀ u ∈ vs, ∀ ref, u.LooksUp ref → ∃ x, follow ref = .ok x := by
    intro vs ws hws u hu
    obtain ⟨_, _, hfollow⟩ := exists_right_of_mem hws hu
    exact hfollow
  refine resolveTree_induct (P := fun v _ => ∀ ref, v.LooksUp ref → ∃ x, follow ref = .ok x) ?_ ?_ ?_ ?_ ?_ v w h ref
    href
  · rintro s w hs _ ref ⟨t, ht, href⟩
    obtain rfl := Value.scalar.inj (Value.mem_parts_scalar.mp ht)
    cases hs.symm.trans href
  · rintro vs ws hws ref ⟨t, ht, href⟩
    obtain ⟨u, hu, ht⟩ := Value.leaf_of_list ht
    exact hparts vs ws hws u hu ref ⟨t, ht, href⟩
  · rintro vs ws hws ref ⟨t, ht, href⟩
    obtain ⟨u, hu, ht⟩ := Value.leaf_of_tuple ht
    exact hparts vs ws hws u hu ref ⟨t, ht, href⟩
  · rintro es ws hws ref ⟨t, ht, href⟩
    obtain ⟨e, he, ht⟩ := Value.leaf_of_map ht
    obtain ⟨_, _, _, _, hfollow⟩ := exists_right_of_mem hws he
    exact hfollow ref ⟨t, ht, href⟩
  · rintro s target w hs hw ref ⟨t, ht, href⟩
    obtain rfl := Value.scalar.inj (Value.mem_parts_scalar.mp ht)
    obtain rfl := Option.some.inj (hs.symm.trans href)
    exact ⟨w, hw⟩

/-- In a resolution that succeeds, every lookup that it comes to does. -/
theorem ok_of_comesTo (h : r.ComesTo ctx chain v within last) :
    ∀ w, r.resolveWithin ctx chain v = .ok w → ∃ x, r.follow ctx (r.maxDepth - within.length) within last = .ok x := by
  induction h with
  | leaf hlooks =>
    intro w hw
    exact exists_value_of_looksUp hw hlooks
  | @lookup chain within v u ref last hlooks hfetch _ ih =>
    intro w hw
    obtain ⟨x, hx⟩ := exists_value_of_looksUp hw hlooks
    have hrest : r.maxDepth - (chain ++ [ref]).length = r.maxDepth - chain.length - 1 := by
      rw [List.length_append, List.length_singleton, Nat.sub_sub]
    cases hleft : r.maxDepth - chain.length with
    | zero =>
      rw [hleft] at hx
      cases hx
    | succ left =>
      rw [hleft] at hx hrest
      obtain ⟨_, u', hfetch', hu⟩ := follow_succ_eq_ok.mp hx
      obtain rfl := Except.ok.inj (hfetch.symm.trans hfetch')
      refine ih x ?_
      rw [resolveWithin, hrest]
      exact hu

/-- Wherever a resolution that succeeds comes to a lookup, it has the same value. -/
theorem exists_value (h : r.resolveWithin ctx chain v = .ok w) (ref : DataRef) :
    ∃ x, ∀ within, r.ComesTo ctx chain v within ref →
      r.follow ctx (r.maxDepth - within.length) within ref = .ok x := by
  by_cases hcomes : ∃ within, r.ComesTo ctx chain v within ref
  · obtain ⟨within, hwithin⟩ := hcomes
    obtain ⟨x, hx⟩ := ok_of_comesTo hwithin w h
    refine ⟨x, fun within' hwithin' => ?_⟩
    obtain ⟨x', hx'⟩ := ok_of_comesTo hwithin' w h
    rw [hx', follow_unique hx hx']
  · exact ⟨.null, fun within hwithin => absurd ⟨within, hwithin⟩ hcomes⟩

end LinkedData.Resolver
