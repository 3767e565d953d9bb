import Mathlib.Data.Finset.Card
import Mathlib.Data.Finset.Dedup
import LinkedData.Proofs.Resolver.Origin
import LinkedData.Proofs.Resolver.TwoRuns

/-!
# Limits that only end cycles

With the standard filters a chain of lookups has room for no more lookups than are written in the tree and in the page
data. A limit of that many leaves the guard nothing to cut but cycles.

* `PageContext.written`: the lookups that are written in a tree or in the page data;
* `mem_of_full`: a chain without repetition that is as long as there are lookups has all of them;
* `Resolver.follow_limits_agree`: lookups end alike under any two limits with room for all lookups;
* `Resolver.EndsInRepetition`, `Resolver.ample_limit_ends_cycles`: what is cut under such a limit is a cycle, and any
  other such limit would cut it at the same lookup.
-/

namespace LinkedData

/-- The lookups that are written in the tree or in the data of the page. -/
def PageContext.written (ctx : PageContext) (v : Value) : Finset DataRef :=
  (v.lookups ++ (Value.map ctx.data).lookups).toFinset

theorem PageContext.mem_written {ctx : PageContext} {v : Value} {ref : DataRef} :
    ref ∈ ctx.written v ↔ v.LooksUp ref ∨ (Value.map ctx.data).LooksUp ref := by
  rw [written, List.mem_toFinset, List.mem_append, Value.mem_lookups, Value.mem_lookups]

/-- A chain without repetition that has room for all lookups of a set has each of them. -/
theorem mem_of_full {refs : Finset DataRef} {chain : List DataRef} {ref : DataRef} (hnodup : chain.Nodup)
    (hchain : ∀ a ∈ chain, a ∈ refs) (hfull : refs.card ≤ chain.length) (href : ref ∈ refs) : ref ∈ chain := by
  have hsubset : chain.toFinset ⊆ refs := fun a ha => hchain a (List.mem_toFinset.mp ha)
  have hall : chain.toFinset = refs :=
    Finset.eq_of_subset_of_card_le hsubset (by rwa [List.toFinset_card_of_nodup hnodup])
  rwa [← hall, List.mem_toFinset] at href

namespace Resolver

variable {r r' : Resolver} {ctx : PageContext} {v : Value}

theorem written_of_leadsTo (hstandard : r.registry = .standard) {ref next : DataRef} (h : r.LeadsTo ctx ref next) :
    next ∈ ctx.written v := by
  obtain ⟨u, hfetch, hnext⟩ := h
  exact PageContext.mem_written.mpr (Or.inr (looksUp_of_fetch hstandard hfetch hnext))

/-- The last lookup of the path is one of those before it. -/
def EndsInRepetition (path : List DataRef) : Prop := ∃ chain last, path = chain ++ [last] ∧ last ∈ chain

/-! ### what is cut -/

theorem limit_of_cut {path : List DataRef} {limit : Nat} (h : r.resolve ctx v = .error (.fault (.cyclic path limit)))
    (hcycles : ¬ r.registry.RaisesItself (.fault (.cyclic path limit))) : limit = r.maxDepth := by
  obtain ⟨first, _, hfollow⟩ := resolveTree_eq_cyclic h
  exact (follow_eq_cyclic hcycles _ [] first List.nodup_nil hfollow).1

/-- With room for all lookups, a resolution is cut at a repetition only. -/
theorem endsInRepetition_of_cut (hstandard : r.registry = .standard) (hroom : (ctx.written v).card ≤ r.maxDepth)
    {path : List DataRef} {limit : Nat} (h : r.resolve ctx v = .error (.fault (.cyclic path limit))) :
    EndsInRepetition path := by
  have hcycles : ¬ r.registry.RaisesItself (.fault (.cyclic path limit)) := hstandard ▸ Registry.standard_not_cyclic
  obtain ⟨first, hlooks, hfollow⟩ := resolveTree_eq_cyclic h
  obtain ⟨_, more, last, rfl, hhead, hcuts⟩ := follow_eq_cyclic hcycles _ [] first List.nodup_nil hfollow
  simp only [List.nil_append, List.length_nil, Nat.sub_zero] at hhead hcuts ⊢
  have hfirst : first ∈ ctx.written v := PageContext.mem_written.mpr (Or.inl hlooks)
  have hwritten : ∀ ref ∈ more ++ [last], ref ∈ ctx.written v :=
    forall_of_leads hcuts.leads hhead hfirst fun _ _ => written_of_leadsTo hstandard
  refine ⟨more, last, rfl, ?_⟩
  -- cut for a repetition, or for the length of a chain that has all lookups by then
  rcases hcuts.cut with hmem | hlength
  · exact hmem
  · exact mem_of_full hcuts.nodup (fun ref href => hwritten ref (List.mem_append_left _ href)) (hlength ▸ hroom)
      (hwritten last (List.mem_append_right _ List.mem_cons_self))

/-- An evaluation that ends without a guard does not end as the guard would end it: this would be its outcome under all
higher limits, of which the failure could name one only. -/
theorem Ends.outcome_ne_cut {path : List DataRef} {limit : Nat}
    (hcycles : ¬ r.registry.RaisesItself (.fault (.cyclic path limit))) {c : Course Value} (hc : r.Ends ctx v c) :
    c.outcome ≠ .error (.fault (.cyclic path limit)) := by
  intro hcut
  obtain ⟨fuel, hfuel⟩ := hc
  have hlimit : ∀ r' : Resolver, r'.registry = r.registry → c.depth ≤ r'.maxDepth → limit = r'.maxDepth := by
    intro r' hreg hdepth
    have hends : r'.Ends ctx v c := ⟨fuel, by rwa [walk_congr hreg]⟩
    exact limit_of_cut ((resolve_of_ends hends hdepth).trans hcut) (hreg ▸ hcycles)
  -- the failure of the guard would have to name both of two limits
  have hlow : limit = c.depth + 1 := hlimit ⟨r.registry, _, Nat.succ_pos _⟩ rfl (Nat.le_succ _)
  have hhigh : limit = c.depth + 2 := hlimit ⟨r.registry, _, Nat.succ_pos _⟩ rfl (Nat.le_add_right _ 2)
  omega

/-- What is cut at a repetition would not end without a guard. -/
theorem diverges_of_cut {path : List DataRef} {limit : Nat}
    (hcycles : ¬ r.registry.RaisesItself (.fault (.cyclic path limit)))
    (h : r.resolve ctx v = .error (.fault (.cyclic path limit))) (hrepeats : EndsInRepetition path) :
    r.Diverges ctx v := by
  have hends : ∀ c, ¬ r.Ends ctx v c := by
    intro c hc
    rcases resolve_fits r ctx v with ⟨c', hc', _, hout⟩ | ⟨path', hcut, hdeep⟩
    · exact hc'.outcome_ne_cut hcycles (hout.symm.trans h)
    · obtain ⟨rfl, _⟩ := Fault.cyclic.inj (ofFault_eq_fault (Except.error.inj (hcut.symm.trans h)))
      obtain ⟨chain, last, rfl, hmem⟩ := hrepeats
      exact (nodup_concat.mp (hdeep c hc).2.1).2 hmem
  intro fuel
  cases hwalk : walkTree (r.walk ctx fuel) ctx v with
  | none => rfl
  | some c => exact absurd ⟨fuel, hwalk⟩ (hends c)

/-! ### two limits -/

/-- The failures are the same, or those of the guard for the same repetition under the two limits. -/
def AlikeUpToLimit (limit limit' : Nat) (e e' : Failure) : Prop :=
  e = e' ∨ ∃ path, EndsInRepetition path ∧ e = .ofFault (.cyclic path limit) ∧ e' = .ofFault (.cyclic path limit')

/-- Two resolvers whose limits both have room for all lookups end alike below the lookups of a chain. What is left of
the one limit is not what is left of the other, but wherever nothing is left of either, the chain has all lookups. -/
theorem follow_limits_agree (hstandard : r.registry = .standard) (hstandard' : r'.registry = .standard) (left : Nat) :
    ∀ left' chain ref, chain.Nodup → (∀ a ∈ chain, a ∈ ctx.written v) → ref ∈ ctx.written v →
      (ctx.written v).card ≤ chain.length + left → (ctx.written v).card ≤ chain.length + left' →
      Agrees (AlikeUpToLimit r.maxDepth r'.maxDepth) (r.follow ctx left chain ref) (r'.follow ctx left' chain ref) := by
  induction left with
  | zero =>
    intro left' chain ref hnodup hchain href hroom _
    -- the chain is full, so the second resolver finds the lookup in it before its own limit is asked
    have hmem : ref ∈ chain := mem_of_full hnodup hchain hroom href
    rw [follow_repeated hmem, follow_repeated hmem]
    exact Agrees.error (Or.inr ⟨_, ⟨chain, ref, rfl, hmem⟩, rfl, rfl⟩)
  | succ left ih =>
    intro left' chain ref hnodup hchain href hroom hroom'
    by_cases hmem : ref ∈ chain
    · rw [follow_repeated hmem, follow_repeated hmem]
      exact Agrees.error (Or.inr ⟨_, ⟨chain, ref, rfl, hmem⟩, rfl, rfl⟩)
    · cases left' with
      | zero => exact absurd (mem_of_full hnodup hchain hroom' href) hmem
      | succ left' =>
        have hfetch : r'.fetch ctx ref = r.fetch ctx ref := by rw [fetch, fetch, hstandard, hstandard']
        rw [follow_succ hmem, follow_succ hmem, hfetch]
        refine (Agrees.refl (fun _ => Or.inl rfl) _).bind fun u hu => ?_
        refine resolveTree_agrees (fun _ => Or.inl rfl) rfl rfl fun next hnext => ?_
        refine ih left' (chain ++ [ref]) next (nodup_concat.mpr ⟨hnodup, hmem⟩) ?_ ?_ ?_ ?_
        · exact List.forall_mem_append.mpr ⟨hchain, List.forall_mem_singleton.mpr href⟩
        · exact written_of_leadsTo hstandard ⟨u, hu, hnext⟩
        · rwa [List.length_append, List.length_singleton, Nat.add_assoc, Nat.add_comm 1]
        · rwa [List.length_append, List.length_singleton, Nat.add_assoc, Nat.add_comm 1]

/-- Under two limits with room for all lookups a tree has the same result, or it fails alike up to the limit. -/
theorem resolve_limits_agree (hstandard : r.registry = .standard) (hstandard' : r'.registry = .standard)
    (hroom : (ctx.written v).card ≤ r.maxDepth) (hroom' : (ctx.written v).card ≤ r'.maxDepth) :
    Agrees (AlikeUpToLimit r.maxDepth r'.maxDepth) (r.resolve ctx v) (r'.resolve ctx v) := by
  refine resolveTree_agrees (fun _ => Or.inl rfl) rfl rfl fun ref href => ?_
  have hwritten : ref ∈ ctx.written v := PageContext.mem_written.mpr (Or.inl href)
  refine follow_limits_agree hstandard hstandard' _ _ [] ref List.nodup_nil (List.forall_mem_nil _) hwritten ?_ ?_
  · rwa [List.length_nil, Nat.zero_add, Nat.sub_zero]
  · rwa [List.length_nil, Nat.zero_add, Nat.sub_zero]

/-- **A limit with room for all lookups ends cycles only.** If the limit is not less than the number of lookups that are
written in the tree and the page data, then the guard of a resolution with the standard filters names a chain whose last
lookup is one of those before it, and without the guard the resolution would not end. Under two such limits the results
are the same, or the failures are, up to the limit that the failure of the guard names or is too long to name. -/
theorem ample_limit_ends_cycles (r : Resolver) (ctx : PageContext) (v : Value) (hstandard : r.registry = .standard)
    (hroom : (ctx.written v).card ≤ r.maxDepth) :
    (∀ path limit, r.resolve ctx v = .error (.fault (.cyclic path limit)) →
      limit = r.maxDepth ∧ EndsInRepetition path ∧ r.Diverges ctx v) ∧
    (∀ r' : Resolver, r'.registry = .standard → (ctx.written v).card ≤ r'.maxDepth →
      Agrees (AlikeUpToLimit r.maxDepth r'.maxDepth) (r.resolve ctx v) (r'.resolve ctx v)) := by
  refine ⟨fun path limit h => ?_, fun r' hstandard' hroom' =>
    resolve_limits_agree hstandard hstandard' hroom hroom'⟩
  have hcycles : ¬ r.registry.RaisesItself (.fault (.cyclic path limit)) := hstandard ▸ Registry.standard_not_cyclic
  have hrepeats := endsInRepetition_of_cut hstandard hroom h
  exact ⟨limit_of_cut h hcycles, hrepeats, diverges_of_cut hcycles h hrepeats⟩

/-- On the page of two entries a limit of two is enough to tell the cycle. -/
theorem circularPage_needs_two :
    (circularPage.written (.str "lume-data:a")).card ≤ (ofLimit 1).maxDepth ∧
      (ofLimit 1).resolve circularPage (.str "lume-data:a") = .error (.fault (.cyclic circularChain 2)) ∧
      EndsInRepetition circularChain ∧ (ofLimit 1).Diverges circularPage (.str "lume-data:a") ∧
      Agrees (AlikeUpToLimit 2 32) ((ofLimit 1).resolve circularPage (.str "lume-data:a"))
        (Resolver.standard.resolve circularPage (.str "lume-data:a")) := by
  have hroom : (circularPage.written (.str "lume-data:a")).card ≤ 2 := by decide +kernel
  have hcut : (ofLimit 1).resolve circularPage (.str "lume-data:a") = .error (.fault (.cyclic circularChain 2)) := by
    decide +kernel
  obtain ⟨hcycle, htwo⟩ := ample_limit_ends_cycles (ofLimit 1) circularPage (.str "lume-data:a") rfl hroom
  obtain ⟨_, hrepeats, hdiverges⟩ := hcycle circularChain 2 hcut
  exact ⟨hroom, hcut, hrepeats, hdiverges, htwo .standard rfl (Nat.le_trans hroom (by decide))⟩

/-- A limit that is too long to be written has room for the only lookup, and its failure is another one. -/
theorem longLimit_fails_otherwise :
    (selfReferring.written (.str "lume-data:a")).card ≤ Resolver.standard.maxDepth ∧
      (selfReferring.written (.str "lume-data:a")).card ≤ longLimit.maxDepth ∧
      Resolver.standard.resolve selfReferring (.str "lume-data:a") =
        .error (.fault (.cyclic [⟨["a"], []⟩, ⟨["a"], []⟩] 32)) ∧
      longLimit.resolve selfReferring (.str "lume-data:a") = .error .overlongInteger := by
  have hroom : (selfReferring.written (.str "lume-data:a")).card ≤ 1 := by decide +kernel
  have hlong : ¬ isWritable longLimit.maxDepth := Bool.eq_false_iff.mp leastOverlong_not_writable
  have hcut := isCut_of_diverges (selfReferring_diverges longLimit)
  rw [isCut_iff, if_neg hlong] at hcut
  refine ⟨Nat.le_trans hroom (by decide), Nat.le_trans hroom leastOverlong_pos, ?_, hcut⟩
  decide +kernel

end Resolver

end LinkedData
