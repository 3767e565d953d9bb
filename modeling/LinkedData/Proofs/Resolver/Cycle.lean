import Mathlib.Data.List.Chain
import LinkedData.Proofs.Reference
import LinkedData.Proofs.Resolver.Failure
import LinkedData.Proofs.Resolver.Guard

/-!
# The chain of a lookup that is cut

The failure of the guard names a chain: the lookups that are under way, and the one that it does not begin with. The
chain tells how the tree comes to it.

* `Value.LooksUp`: a lookup that is a leaf of a value;
* `apply_ne_cyclic`: filters do not fail as the guard does, unless one of them raises its failure itself;
* `resolveTree_eq_cyclic`: a tree is cut where a lookup in it is;
* `Resolver.LeadsTo`: a lookup stands for a leaf of the value of another one;
* `Resolver.CutsAt`, `Resolver.follow_eq_cyclic`: what is cut below the lookups that are under way;
* `Resolver.cut_chain_leads_from_tree`: what the chain of a failure says about the tree and the page.
-/

namespace LinkedData

/-! ### lookups in values -/

/-- The lookup stands for a leaf of the value. -/
def Value.LooksUp (v : Value) (ref : DataRef) : Prop := ∃ s, .scalar s ∈ v.parts ∧ s.ref? = some ref

theorem Value.LooksUp.of_part {u v : Value} {ref : DataRef} (h : u.LooksUp ref) (hu : u ∈ v.parts) : v.LooksUp ref := by
  obtain ⟨s, hs, href⟩ := h
  exact ⟨s, Value.mem_parts_trans hu hs, href⟩

theorem Value.LooksUp.isWritten {v : Value} {ref : DataRef} (h : v.LooksUp ref) : ref.IsWritten := by
  obtain ⟨s, _, href⟩ := h
  cases s with
  | str text => exact Reference.isWritten_of_ofText href
  | _ => cases href

/-! ### failures of the guard -/

theorem ofFault_eq_fault {f g : Fault} (h : Failure.ofFault f = .fault g) : f = g := by
  rcases ofFault_cases f with hfault | ⟨hbare, _⟩
  · exact Failure.fault.inj (hfault.symm.trans h)
  · rw [hbare] at h
    cases h

section Trees

variable {follow : DataRef → Except Failure Value} {ctx : PageContext} {path : List DataRef} {limit : Nat}

theorem resolveLeaf_ne_cyclic {s : Scalar} : resolveLeaf ctx s ≠ .error (.fault (.cyclic path limit)) := by
  intro h
  rcases Resolver.resolveLeaf_eq_error h with ⟨x, hfault⟩ | ⟨houtside, _⟩
  · cases hfault
  · cases houtside

/-- A tree fails as the guard does only where a lookup in it does. -/
theorem resolveTree_eq_cyclic {v : Value} (h : resolveTree follow ctx v = .error (.fault (.cyclic path limit))) :
    ∃ ref, v.LooksUp ref ∧ follow ref = .error (.fault (.cyclic path limit)) := by
  induction v using Value.induct with
  | scalar s =>
    rw [resolveTree] at h
    cases hs : s.ref? with
    | none =>
      rw [resolveScalar_leaf hs] at h
      exact absurd h resolveLeaf_ne_cyclic
    | some ref =>
      rw [resolveScalar_ref hs] at h
      exact ⟨ref, ⟨s, Value.mem_parts_self _, hs⟩, h⟩
  | set members =>
    rw [resolveTree] at h
    cases ofFault_eq_fault (Except.error.inj h)
  | list items ih =>
    rw [resolveTree, map_eq_error] at h
    obtain ⟨u, hu, hfails⟩ := resolveTreeL_eq_error h
    obtain ⟨ref, href, hfollow⟩ := ih u hu hfails
    exact ⟨ref, href.of_part (Value.mem_parts_of_list hu), hfollow⟩
  | tuple items ih =>
    rw [resolveTree, map_eq_error] at h
    obtain ⟨u, hu, hfails⟩ := resolveTreeL_eq_error h
    obtain ⟨ref, href, hfollow⟩ := ih u hu hfails
    exact ⟨ref, href.of_part (Value.mem_parts_of_tuple hu), hfollow⟩
  | map es ih =>
    rw [resolveTree, map_eq_error] at h
    obtain ⟨f, hf, hkey | hfails⟩ := resolveTreeE_eq_error h
    · cases ofFault_eq_fault hkey.symm
    · obtain ⟨ref, href, hfollow⟩ := ih f hf hfails
      exact ⟨ref, href.of_part (Value.mem_parts_of_map hf), hfollow⟩

end Trees

/-! ### failures before the guard -/

section Lookups

variable {path rest : List String} {chain : List DataRef} {limit : Nat} {v : Value}

/-- A path that leads nowhere does not fail as the guard does. -/
theorem extract_ne_cyclic : extract v path ≠ .error (.fault (.cyclic chain limit)) := by
  intro h
  obtain ⟨_, segment, _, u, _, _, hmisses⟩ := extractFrom_eq_error.mp h
  cases hmisses

/-- Nor do filters, unless one of them raises the very failure of the guard. -/
theorem apply_ne_cyclic {reg : Registry} {filters : List String}
    (hreg : ¬ reg.RaisesItself (.fault (.cyclic chain limit))) :
    reg.apply v filters ≠ .error (.fault (.cyclic chain limit)) := by
  intro h
  rcases Registry.apply_eq_error h with ⟨name, _, hwants⟩ | hraises
  · cases hwants
  · exact hreg hraises

theorem Registry.standard_not_cyclic : ¬ Registry.standard.RaisesItself (.fault (.cyclic chain limit)) := by
  intro h
  rcases standard_raisesItself h with ⟨expected, v, hfault⟩ | hlong
  · cases hfault
  · cases hlong

end Lookups

namespace Resolver

variable {r : Resolver} {ctx : PageContext} {v : Value} {path : List DataRef} {limit : Nat}

/-- A lookup whose value is not found, or whose filters fail, does not fail as the guard does. -/
theorem fetch_ne_cyclic (hreg : ¬ r.registry.RaisesItself (.fault (.cyclic path limit))) (ref : DataRef) :
    r.fetch ctx ref ≠ .error (.fault (.cyclic path limit)) := by
  intro h
  rw [fetch, bind_eq_error] at h
  rcases h with hextract | ⟨found, _, happly⟩
  · exact extract_ne_cyclic hextract
  · exact apply_ne_cyclic hreg happly

/-! ### chains -/

/-- The value of the first lookup looks up the second one. -/
def LeadsTo (r : Resolver) (ctx : PageContext) (ref next : DataRef) : Prop :=
  ∃ u, r.fetch ctx ref = .ok u ∧ u.LooksUp next

theorem LeadsTo.isWritten {ref next : DataRef} (h : r.LeadsTo ctx ref next) : next.IsWritten := by
  obtain ⟨u, _, hnext⟩ := h
  exact hnext.isWritten

/-- What holds of the first lookup of a chain, and of all that lookups lead to, holds of the whole chain. -/
theorem forall_of_leads {P : DataRef → Prop} {first : DataRef} (hchain : path.IsChain (r.LeadsTo ctx))
    (hfirst : path.head? = some first) (h : P first) (hleads : ∀ ref next, r.LeadsTo ctx ref next → P next) :
    ∀ ref ∈ path, P ref := by
  refine hchain.induction P path (fun ref next hstep _ => hleads ref next hstep) fun hne => ?_
  obtain rfl := Option.some.inj ((List.head?_eq_some_head hne).symm.trans hfirst)
  exact h

/-- Lookups that go on from one that a text writes can be written all. -/
theorem isWritten_of_chain {first : DataRef} (hchain : path.IsChain (r.LeadsTo ctx)) (hfirst : path.head? = some first)
    (h : first.IsWritten) : ∀ ref ∈ path, ref.IsWritten :=
  forall_of_leads hchain hfirst h fun _ _ hleads => hleads.isWritten

/-- What the guard cuts below the lookups of `chain`: lookups `more` that go on from one another and do not repeat, and
the one that is cut, as it repeats one under way or as nothing is left of the limit. -/
structure CutsAt (r : Resolver) (ctx : PageContext) (left : Nat) (chain more : List DataRef) (last : DataRef) : Prop where
  leads : (more ++ [last]).IsChain (r.LeadsTo ctx)
  nodup : (chain ++ more).Nodup
  length_le : more.length ≤ left
  cut : last ∈ chain ++ more ∨ more.length = left

/-- One lookup more above it. -/
theorem CutsAt.cons {left : Nat} {chain more : List DataRef} {ref next last : DataRef}
    (h : r.CutsAt ctx left (chain ++ [ref]) more last) (hnext : (more ++ [last]).head? = some next)
    (hleads : r.LeadsTo ctx ref next) : r.CutsAt ctx (left + 1) chain (ref :: more) last := by
  have hchain : chain ++ [ref] ++ more = chain ++ ref :: more := by
    rw [List.append_assoc, List.singleton_append]
  obtain ⟨rest, hrest⟩ := List.head?_eq_some_iff.mp hnext
  refine ⟨?_, hchain ▸ h.nodup, Nat.succ_le_succ h.length_le, ?_⟩
  · rw [List.cons_append, hrest, List.isChain_cons_cons]
    exact ⟨hleads, hrest ▸ h.leads⟩
  · rw [← hchain]
    exact h.cut.imp_right (congrArg Nat.succ)

/-- A lookup that fails as the guard does: the chain of the failure goes on from it. The induction is on what is left
of the limit. -/
theorem follow_eq_cyclic (hreg : ¬ r.registry.RaisesItself (.fault (.cyclic path limit))) (left : Nat) :
    ∀ chain ref, chain.Nodup → r.follow ctx left chain ref = .error (.fault (.cyclic path limit)) →
      limit = r.maxDepth ∧ ∃ more last, path = chain ++ (more ++ [last]) ∧ (more ++ [last]).head? = some ref ∧
        r.CutsAt ctx left chain more last := by
  -- the two tests of the guard give the same failure: nothing is under way below the lookup that is cut
  have hcut : ∀ (left : Nat) (chain : List DataRef) (ref : DataRef), chain.Nodup → (ref ∈ chain ∨ left = 0) →
      Failure.ofFault (.cyclic (chain ++ [ref]) r.maxDepth) = .fault (.cyclic path limit) →
        limit = r.maxDepth ∧ ∃ more last, path = chain ++ (more ++ [last]) ∧ (more ++ [last]).head? = some ref ∧
          r.CutsAt ctx left chain more last := by
    intro left chain ref hnodup hwhy h
    obtain ⟨rfl, rfl⟩ := Fault.cyclic.inj (ofFault_eq_fault h)
    refine ⟨rfl, [], ref, rfl, rfl, List.IsChain.singleton ref, ?_, Nat.zero_le left, ?_⟩
    · rwa [List.append_nil]
    · rw [List.append_nil]
      exact hwhy.imp_right Eq.symm
  induction left with
  | zero =>
    intro chain ref hnodup h
    exact hcut 0 chain ref hnodup (Or.inr rfl) (Except.error.inj h)
  | succ left ih =>
    intro chain ref hnodup h
    by_cases hmem : ref ∈ chain
    · rw [follow_mem hmem] at h
      exact hcut (left + 1) chain ref hnodup (Or.inl hmem) (Except.error.inj h)
    · rw [follow_succ hmem, bind_eq_error] at h
      rcases h with hfetch | ⟨u, hfetch, hu⟩
      · exact absurd hfetch (fetch_ne_cyclic hreg ref)
      · obtain ⟨next, hnext, hfollow⟩ := resolveTree_eq_cyclic hu
        obtain ⟨hlimit, more, last, rfl, hhead, hcuts⟩ :=
          ih (chain ++ [ref]) next (nodup_concat.mpr ⟨hnodup, hmem⟩) hfollow
        refine ⟨hlimit, ref :: more, last, ?_, rfl, hcuts.cons hhead ⟨u, hfetch, hnext⟩⟩
        rw [List.append_assoc, List.singleton_append, List.cons_append]

/-- A lookup is not cut by itself: there is another one above it. -/
theorem CutsAt.ne_nil {more : List DataRef} {last : DataRef} (h : r.CutsAt ctx r.maxDepth [] more last) : more ≠ [] := by
  rintro rfl
  rcases h.cut with hmem | hlength
  · exact absurd hmem List.not_mem_nil
  · exact absurd r.maxDepth_pos (hlength ▸ Nat.lt_irrefl 0)

/-- **The chain of a failure leads from the tree to where it is cut.** If a resolution fails as the guard does, and no
filter raised that very failure itself, then the first lookup of the chain stands for a leaf of the tree, each one after
it stands for a leaf of the value of the one before, and none before the last is repeated. The last one is one of those
before it, or the chain is one longer than the limit, and which of the two it is can be told from the descriptions. -/
theorem cut_chain_leads_from_tree (r : Resolver) (ctx : PageContext) (v : Value) (path : List DataRef) (limit : Nat)
    (hreg : ¬ r.registry.RaisesItself (.fault (.cyclic path limit)))
    (h : r.resolve ctx v = .error (.fault (.cyclic path limit))) :
    limit = r.maxDepth ∧ 2 ≤ path.length ∧ path.length ≤ r.maxDepth + 1 ∧
      (∃ first, path.head? = some first ∧ v.LooksUp first) ∧ path.IsChain (r.LeadsTo ctx) ∧ path.dropLast.Nodup ∧
        ∃ last, path.getLast? = some last ∧ (last ∈ path.dropLast ∨ path.length = r.maxDepth + 1) ∧
          (last.describe ∈ path.dropLast.map DataRef.describe ↔ last ∈ path.dropLast) := by
  obtain ⟨first, hlooks, hfollow⟩ := resolveTree_eq_cyclic h
  obtain ⟨rfl, more, last, rfl, hfirst, hcuts⟩ :=
    follow_eq_cyclic hreg (r.maxDepth - [].length) [] first List.nodup_nil hfollow
  refine ⟨rfl, ?_⟩
  simp only [List.nil_append, List.length_nil, Nat.sub_zero] at hfirst hcuts ⊢
  have hmore : 0 < more.length := List.length_pos_of_ne_nil hcuts.ne_nil
  have hwritten := isWritten_of_chain hcuts.leads hfirst hlooks.isWritten
  have hdescribed : last.describe ∈ more.map DataRef.describe ↔ last ∈ more := by
    refine ⟨fun hmem => ?_, List.mem_map_of_mem⟩
    obtain ⟨ref, href, hsame⟩ := List.mem_map.mp hmem
    have heq := DataRef.describe_inj (hwritten ref (List.mem_append_left [last] href))
      (hwritten last (List.mem_append_right more List.mem_cons_self)) hsame
    exact heq ▸ href
  rw [List.dropLast_concat, List.getLast?_concat, List.length_append, List.length_singleton]
  exact ⟨Nat.succ_le_succ hmore, Nat.succ_le_succ hcuts.length_le, ⟨first, hfirst, hlooks⟩, hcuts.leads,
    hcuts.nodup, last, rfl, hcuts.cut.imp_right (congrArg Nat.succ), hdescribed⟩

/-- A page whose entries look each other up, one of them within a list. -/
def circularPage : PageContext :=
  ⟨"/", [(.str "a", .list [.str "lume-data:b "]), (.str "b", .str "lume-data:a")],
    exampleSite.url⟩

/-- The chain of the failure there: the lookup of the tree, the one that it leads to, and the first one again. -/
def circularChain : List DataRef := [⟨["a"], []⟩, ⟨["b"], []⟩, ⟨["a"], []⟩]

theorem circularPage_is_cut :
    Resolver.standard.resolve circularPage (.str "lume-data:a") = .error (.fault (.cyclic circularChain 32)) ∧
      circularChain.IsChain (Resolver.standard.LeadsTo circularPage) := by
  have hcut : Resolver.standard.resolve circularPage (.str "lume-data:a") =
      .error (.fault (.cyclic circularChain 32)) := by
    decide +kernel
  exact ⟨hcut, (cut_chain_leads_from_tree _ _ _ _ _ Registry.standard_not_cyclic hcut).2.2.2.2.1⟩

/-- A filter that fails as the guard does, with a chain of its own making. -/
def cuttingFilter : Filter := fun _ => .error (.fault (.cyclic [] 7))

/-- The resolver with this filter. -/
def withCuttingFilter : Resolver := ⟨⟨[("cut", cuttingFilter)]⟩, standardDepth, standardDepth_pos⟩

/-- A page with an entry that looks itself up. -/
def arrowPage : PageContext := { circularPage with data := [(.str "x -> y", .str "lume-data:x -> y")] }

/-- A page with an entry of the same name, from which lookups go on to two others. -/
def crossPage : PageContext :=
  { circularPage with
    data := [(.str "x -> y", .str "lume-data:x"), (.str "x", .str "lume-data:y"), (.str "y", .int 1)] }

/-- A filter can make up a chain without any lookup. And the message of a failure puts the descriptions in a row, which
can be divided in more than one way: under a limit of two, it is the same for a lookup that repeats an earlier one and
for lookups that are too many. -/
theorem chain_made_up_or_misread :
    withCuttingFilter.resolve circularPage (.str "lume-data:a | cut") = .error (.fault (.cyclic [] 7)) ∧
      (ofLimit 1).resolve arrowPage (.str "lume-data:x -> y") =
        .error (.fault (.cyclic [⟨["x -> y"], []⟩, ⟨["x -> y"], []⟩] 2)) ∧
      (ofLimit 1).resolve crossPage (.str "lume-data:x -> y") =
        .error (.fault (.cyclic [⟨["x -> y"], []⟩, ⟨["x"], []⟩, ⟨["y"], []⟩] 2)) ∧
      (Fault.cyclic [⟨["x -> y"], []⟩, ⟨["x -> y"], []⟩] 2).message =
        (Fault.cyclic [⟨["x -> y"], []⟩, ⟨["x"], []⟩, ⟨["y"], []⟩] 2).message := by
  refine ⟨?_, ?_, ?_, ?_⟩ <;> decide +kernel

end Resolver

end LinkedData
