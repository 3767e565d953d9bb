import Mathlib.Data.List.Nodup
import LinkedData.Proofs.Resolver.Unguarded

/-!
# What the guard of chains of lookups changes

The guard ends a chain of lookups whose last one is under way already, or that is longer than the limit. Compared with
the evaluation without a guard it changes nothing else:

* `Resolver.IsCut`: the failure of the guard;
* `Resolver.NeedsCut`: an evaluation that a guard has to cut, as it is deeper than what is left of the limit or would
  be part of an evaluation that is no deeper than itself (`Resolver.Shallow`), which no evaluation that ends can be;
* `Resolver.Fits`: how an outcome with the guard fits an evaluation without;
* `Resolver.follow_fits`, `Resolver.resolve_fits`: lookups and trees fit;
* `Resolver.guard_ends_only_depth`: the comparison.
-/

namespace LinkedData.Resolver

/-- The failure of the guard for the lookups of `path`. -/
def IsCut {α : Type} (r : Resolver) (path : List DataRef) (o : Except Failure α) : Prop :=
  o = .error (.ofFault (.cyclic path r.maxDepth))

/-- A lookup of the chain ends without a guard and has no more than `n` lookups under way at a time. -/
def Shallow (r : Resolver) (ctx : PageContext) (chain : List DataRef) (n : Nat) : Prop :=
  ∃ ref ∈ chain, ∃ fuel c, r.walk ctx fuel ref = some c ∧ c.depth ≤ n

/-- The evaluation `u` below the lookups of `chain` has to be cut at `path`: either `path` has no lookup twice and is
longer than the limit, and `u` is deeper than what is left of it, or `path` has one twice, and `u` ends only if one
under way ends that is no deeper than `u`. -/
def NeedsCut {α : Type} (r : Resolver) (ctx : PageContext) (left : Nat) (chain path : List DataRef)
    (u : Nat → Option (Course α)) : Prop :=
  (path.Nodup ∧ path.length = chain.length + left + 1 ∧ ∀ fuel c, u fuel = some c → left < c.depth) ∨
  (¬ path.Nodup ∧ ∀ fuel c, u fuel = some c → r.Shallow ctx chain c.depth)

/-- The outcome `o` fits the evaluation `u` without a guard: it is that of `u` if `u` ends within the depth that is
left, else it is cut, which `u` needs. -/
def Fits {α : Type} (r : Resolver) (ctx : PageContext) (left : Nat) (chain : List DataRef)
    (u : Nat → Option (Course α)) (o : Except Failure α) : Prop :=
  (∃ fuel c, u fuel = some c ∧ c.depth ≤ left ∧ o = c.outcome) ∨
  ∃ path, r.IsCut path o ∧ r.NeedsCut ctx left chain path u

section Fits

variable {α β : Type} {r : Resolver} {ctx : PageContext} {left : Nat} {chain path : List DataRef}

theorem IsCut.map {o : Except Failure α} (h : r.IsCut path o) (f : α → β) : r.IsCut path (o.map f) := by
  obtain rfl : o = _ := h
  rfl

theorem IsCut.bind {o : Except Failure α} (h : r.IsCut path o) (k : α → Except Failure β) :
    r.IsCut path (o >>= k) := by
  obtain rfl : o = _ := h
  rfl

theorem Shallow.mono {n m : Nat} (h : r.Shallow ctx chain n) (hnm : n ≤ m) : r.Shallow ctx chain m := by
  obtain ⟨ref, hmem, fuel, c, hc, hn⟩ := h
  exact ⟨ref, hmem, fuel, c, hc, Nat.le_trans hn hnm⟩

/-- What contains an evaluation that has to be cut has to be cut. -/
theorem NeedsCut.of_part {u : Nat → Option (Course α)} {v : Nat → Option (Course β)}
    (h : r.NeedsCut ctx left chain path u)
    (hv : ∀ fuel d, v fuel = some d → ∃ c, u fuel = some c ∧ c.depth ≤ d.depth) :
    r.NeedsCut ctx left chain path v := by
  rcases h with ⟨hnodup, hlength, hdeep⟩ | ⟨htwice, hdeep⟩
  · refine Or.inl ⟨hnodup, hlength, fun fuel d hd => ?_⟩
    obtain ⟨c, hc, hle⟩ := hv fuel d hd
    exact Nat.lt_of_lt_of_le (hdeep fuel c hc) hle
  · refine Or.inr ⟨htwice, fun fuel d hd => ?_⟩
    obtain ⟨c, hc, hle⟩ := hv fuel d hd
    exact (hdeep fuel c hc).mono hle

theorem Fits.still (o : Except Failure α) : r.Fits ctx left chain (fun _ => some (.still o)) o :=
  Or.inl ⟨0, _, rfl, Nat.zero_le left, rfl⟩

theorem Fits.map {u : Nat → Option (Course α)} {o : Except Failure α} (h : r.Fits ctx left chain u o) (f : α → β) :
    r.Fits ctx left chain (fun n => (u n).map (Course.map f)) (o.map f) := by
  rcases h with ⟨fuel, c, hc, hdepth, rfl⟩ | ⟨path, hcut, hneeds⟩
  · refine Or.inl ⟨fuel, c.map f, ?_, hdepth, rfl⟩
    simp only [hc, Option.map_some]
  · refine Or.inr ⟨path, hcut.map f, hneeds.of_part fun fuel d hd => ?_⟩
    obtain ⟨c, hc, rfl⟩ := Option.map_eq_some_iff.mp hd
    exact ⟨c, hc, Nat.le_refl c.depth⟩

/-- One step after another fits if both do. -/
theorem Fits.andThen {u : Nat → Option (Course α)} {v : α → Nat → Option (Course β)} {o : Except Failure α}
    {k : α → Except Failure β} (hu : Steady u) (hv : ∀ a, Steady (v a)) (h : r.Fits ctx left chain u o)
    (hk : ∀ a, r.Fits ctx left chain (v a) (k a)) :
    r.Fits ctx left chain (fun n => (u n).bind (·.andThen fun a => v a n)) (o >>= k) := by
  rcases h with ⟨fuel, ⟨o, depth⟩, hc, hdepth, rfl⟩ | ⟨path, hcut, hneeds⟩
  · cases o with
    | error e =>
      refine Or.inl ⟨fuel, ⟨.error e, depth⟩, ?_, hdepth, rfl⟩
      simp only [hc, Option.bind_some, Course.andThen]
    | ok a =>
      rcases hk a with ⟨fuel', d, hd, hdepth', hout⟩ | ⟨path, hcut, hneeds⟩
      · have hc' := hu fuel (max fuel fuel') _ (Nat.le_max_left _ _) hc
        have hd' := hv a fuel' (max fuel fuel') _ (Nat.le_max_right _ _) hd
        refine Or.inl ⟨max fuel fuel', ⟨d.outcome, max depth d.depth⟩, ?_, Nat.max_le.mpr ⟨hdepth, hdepth'⟩, hout⟩
        simp only [hc', Option.bind_some, Course.andThen, hd', Option.map_some]
      · -- the first step ends, so whatever course the whole takes begins with it and goes on with the cut step
        refine Or.inr ⟨path, hcut, hneeds.of_part fun fuel' e he => ?_⟩
        obtain ⟨c', hc', he⟩ := Option.bind_eq_some_iff.mp he
        obtain rfl := hu.unique hc hc'
        obtain ⟨d, hd, rfl⟩ := Option.map_eq_some_iff.mp he
        exact ⟨d, hd, Nat.le_max_right depth d.depth⟩
  · refine Or.inr ⟨path, hcut.bind k, hneeds.of_part fun fuel e he => ?_⟩
    obtain ⟨⟨outcome, depth⟩, hc, he⟩ := Option.bind_eq_some_iff.mp he
    refine ⟨_, hc, ?_⟩
    cases outcome with
    | error e' =>
      obtain rfl := Option.some.inj he
      exact Nat.le_refl _
    | ok a =>
      obtain ⟨d, _, rfl⟩ := Option.map_eq_some_iff.mp he
      exact Nat.le_max_left depth d.depth

end Fits

/-! ### trees -/

section Trees

variable {r : Resolver} {ctx : PageContext} {left : Nat} {chain : List DataRef}
  {follow : DataRef → Except Failure Value}

mutual
theorem tree_fits (h : ∀ ref, r.Fits ctx left chain (fun n => r.walk ctx n ref) (follow ref)) :
    ∀ v, r.Fits ctx left chain (fun n => walkTree (r.walk ctx n) ctx v) (resolveTree follow ctx v)
  | .scalar s => by
    rw [resolveTree]
    cases hs : s.ref? with
    | none => simpa only [walkTree, hs, resolveScalar_leaf hs] using Fits.still (resolveLeaf ctx s)
    | some ref => simpa only [walkTree, hs, resolveScalar_ref hs] using h ref
  | .set members => by
    simpa only [walkTree, resolveTree] using Fits.still (.error (.ofFault (.unsupported (.set members))))
  | .list items => by
    simpa only [walkTree, resolveTree] using (tree_fitsL h items).map Value.list
  | .tuple items => by
    simpa only [walkTree, resolveTree] using (tree_fitsL h items).map Value.list
  | .map entries => by
    simpa only [walkTree, resolveTree] using (tree_fitsE h entries).map fun es => Value.map (Entries.ofList es)
theorem tree_fitsL (h : ∀ ref, r.Fits ctx left chain (fun n => r.walk ctx n ref) (follow ref)) :
    ∀ vs, r.Fits ctx left chain (fun n => walkTreeL (r.walk ctx n) ctx vs) (resolveTreeL follow ctx vs)
  | [] => by
    simpa only [walkTreeL, resolveTreeL] using Fits.still (.ok [])
  | v :: vs => by
    simp only [walkTreeL, resolveTreeL_cons]
    exact Fits.andThen (walkTree_steady v) (fun w => (walkTreeL_steady vs).map (w :: ·)) (tree_fits h v)
      fun w => (tree_fitsL h vs).map (w :: ·)
theorem tree_fitsE (h : ∀ ref, r.Fits ctx left chain (fun n => r.walk ctx n ref) (follow ref)) :
    ∀ es, r.Fits ctx left chain (fun n => walkTreeE (r.walk ctx n) ctx es) (resolveTreeE follow ctx es)
  | [] => by
    simpa only [walkTreeE, resolveTreeE] using Fits.still (.ok [])
  | (k, v) :: es => by
    rcases k.str_or_ne with ⟨name, rfl⟩ | hk
    · simp only [walkTreeE_cons, resolveTreeE_cons]
      exact Fits.andThen (walkTree_steady v) (fun w => (walkTreeE_steady es).map ((.str name, w) :: ·))
        (tree_fits h v) fun w => (tree_fitsE h es).map ((.str name, w) :: ·)
    · simp only [walkTreeE_cons_of_ne hk, resolveTreeE_cons_of_ne hk]
      exact Fits.still _
end

end Trees

/-! ### lookups -/

section Lookups

variable {r : Resolver} {ctx : PageContext}

theorem walk_depth_pos {n : Nat} {ref : DataRef} {c : Course Value} (h : r.walk ctx n ref = some c) : 0 < c.depth := by
  cases n with
  | zero => cases h
  | succ n =>
    rw [walk] at h
    split at h
    · obtain rfl := Option.some.inj h
      exact Nat.one_pos
    · obtain ⟨d, _, rfl⟩ := Option.map_eq_some_iff.mp h
      exact Nat.succ_pos d.depth

/-- A lookup under way that the value of a lookup asks for again would be deeper than itself. -/
theorem Shallow.of_concat {chain : List DataRef} {ref : DataRef} {fuel n : Nat} {c : Course Value}
    (h : r.Shallow ctx (chain ++ [ref]) n) (hc : r.walk ctx fuel ref = some c) (hn : n < c.depth) :
    r.Shallow ctx chain n := by
  obtain ⟨ref', hmem, fuel', d, hd, hle⟩ := h
  rcases List.mem_append.mp hmem with hmem | hmem
  · exact ⟨ref', hmem, fuel', d, hd, hle⟩
  · obtain rfl := List.mem_singleton.mp hmem
    obtain rfl := (walk_steady ref').unique hc hd
    omega

theorem nodup_concat {chain : List DataRef} {ref : DataRef} :
    (chain ++ [ref]).Nodup ↔ chain.Nodup ∧ ref ∉ chain := by
  rw [← List.concat_eq_append, List.nodup_concat, and_comm]

/-- A lookup that is under way already has to be cut. -/
theorem needsCut_of_mem {chain : List DataRef} {ref : DataRef} (h : ref ∈ chain) (left : Nat) :
    r.NeedsCut ctx left chain (chain ++ [ref]) fun n => r.walk ctx n ref :=
  Or.inr ⟨fun hnodup => (nodup_concat.mp hnodup).2 h, fun fuel c hc => ⟨ref, h, fuel, c, hc, Nat.le_refl c.depth⟩⟩

/-- A lookup has to be cut if the tree of its value has to be. -/
theorem NeedsCut.of_value {left : Nat} {chain path : List DataRef} {ref : DataRef} {v : Value}
    (hf : r.fetch ctx ref = .ok v)
    (h : r.NeedsCut ctx left (chain ++ [ref]) path fun n => walkTree (r.walk ctx n) ctx v) :
    r.NeedsCut ctx (left + 1) chain path fun n => r.walk ctx n ref := by
  have hstep : ∀ fuel d, r.walk ctx fuel ref = some d →
      ∃ fuel' c, walkTree (r.walk ctx fuel') ctx v = some c ∧ d = c.inLookup := by
    intro fuel d hd
    cases fuel with
    | zero => cases hd
    | succ fuel =>
      simp only [walk, hf] at hd
      obtain ⟨c, hc, rfl⟩ := Option.map_eq_some_iff.mp hd
      exact ⟨fuel, c, hc, rfl⟩
  rcases h with ⟨hnodup, hlength, hdeep⟩ | ⟨htwice, hdeep⟩
  · refine Or.inl ⟨hnodup, ?_, fun fuel d hd => ?_⟩
    · rw [hlength, List.length_append, List.length_singleton]
      omega
    · obtain ⟨fuel', c, hc, rfl⟩ := hstep fuel d hd
      exact Nat.succ_lt_succ (hdeep fuel' c hc)
  · refine Or.inr ⟨htwice, fun fuel d hd => ?_⟩
    obtain ⟨fuel', c, hc, rfl⟩ := hstep fuel d hd
    have hsh := (hdeep fuel' c hc).of_concat hd (Nat.lt_succ_self c.depth)
    exact hsh.mono (Nat.le_succ c.depth)

/-- Lookups fit. The induction is on what is left of the limit. -/
theorem follow_fits : ∀ (left : Nat) (chain : List DataRef), chain.Nodup → ∀ ref,
    r.Fits ctx left chain (fun n => r.walk ctx n ref) (r.follow ctx left chain ref) := by
  intro left
  induction left with
  | zero =>
    intro chain hnodup ref
    by_cases hmem : ref ∈ chain
    · exact Or.inr ⟨chain ++ [ref], rfl, needsCut_of_mem hmem 0⟩
    · refine Or.inr ⟨chain ++ [ref], rfl, Or.inl ⟨nodup_concat.mpr ⟨hnodup, hmem⟩, ?_, fun fuel c hc => ?_⟩⟩
      · rw [List.length_append, List.length_singleton, Nat.add_zero]
      · exact walk_depth_pos hc
  | succ left ih =>
    intro chain hnodup ref
    by_cases hmem : ref ∈ chain
    · exact Or.inr ⟨chain ++ [ref], follow_mem hmem, needsCut_of_mem hmem (left + 1)⟩
    rw [follow_succ hmem]
    cases hf : r.fetch ctx ref with
    | error e =>
      refine Or.inl ⟨1, ⟨.error e, 1⟩, ?_, Nat.succ_le_succ (Nat.zero_le left), rfl⟩
      simp only [walk, hf]
    | ok v =>
      rcases tree_fits (ih (chain ++ [ref]) (nodup_concat.mpr ⟨hnodup, hmem⟩)) v with
        ⟨fuel, c, hc, hdepth, hout⟩ | ⟨path, hcut, hneeds⟩
      · refine Or.inl ⟨fuel + 1, c.inLookup, ?_, Nat.succ_le_succ hdepth, hout⟩
        simp only [walk, hf, hc, Option.map_some]
      · exact Or.inr ⟨path, hcut, hneeds.of_value hf⟩

/-- A tree ends within the limit with its outcome, or it is cut and deeper than the limit if it ends. -/
theorem resolve_fits (r : Resolver) (ctx : PageContext) (v : Value) :
    (∃ c, r.Ends ctx v c ∧ c.depth ≤ r.maxDepth ∧ r.resolve ctx v = c.outcome) ∨
    ∃ path, r.IsCut path (r.resolve ctx v) ∧
      ∀ c, r.Ends ctx v c → r.maxDepth < c.depth ∧ path.Nodup ∧ path.length = r.maxDepth + 1 := by
  have hfits : r.Fits ctx r.maxDepth [] (fun n => walkTree (r.walk ctx n) ctx v) (r.resolve ctx v) :=
    tree_fits (follow_fits r.maxDepth [] List.nodup_nil) v
  rcases hfits with ⟨fuel, c, hc, hdepth, hout⟩ | ⟨path, hcut, hneeds⟩
  · exact Or.inl ⟨c, ⟨fuel, hc⟩, hdepth, hout⟩
  · refine Or.inr ⟨path, hcut, fun c ⟨fuel, hc⟩ => ?_⟩
    rcases hneeds with ⟨hnodup, hlength, hdeep⟩ | ⟨_, hdeep⟩
    · exact ⟨hdeep fuel c hc, hnodup, by rw [hlength, List.length_nil, Nat.zero_add]⟩
    · obtain ⟨ref, hmem, _⟩ := hdeep fuel c hc
      exact absurd hmem List.not_mem_nil

/-- An evaluation that ends within the limit is not cut. -/
theorem resolve_of_ends {v : Value} {c : Course Value} (h : r.Ends ctx v c) (hd : c.depth ≤ r.maxDepth) :
    r.resolve ctx v = c.outcome := by
  rcases resolve_fits r ctx v with ⟨c', hc', _, hout⟩ | ⟨path, _, hdeep⟩
  · obtain rfl := h.unique hc'
    exact hout
  · obtain ⟨hlt, _⟩ := hdeep c h
    omega

/-- An evaluation that ends deeper is cut at a chain that is too long. -/
theorem isCut_of_deep {v : Value} {c : Course Value} (h : r.Ends ctx v c) (hd : r.maxDepth < c.depth) :
    ∃ path, path.Nodup ∧ path.length = r.maxDepth + 1 ∧ r.IsCut path (r.resolve ctx v) := by
  rcases resolve_fits r ctx v with ⟨c', hc', hd', _⟩ | ⟨path, hcut, hdeep⟩
  · obtain rfl := h.unique hc'
    omega
  · obtain ⟨_, hnodup, hlength⟩ := hdeep c h
    exact ⟨path, hnodup, hlength, hcut⟩

theorem isCut_of_diverges {v : Value} (h : r.Diverges ctx v) : ∃ path, r.IsCut path (r.resolve ctx v) := by
  rcases resolve_fits r ctx v with ⟨c, ⟨fuel, hc⟩, _⟩ | ⟨path, hcut, _⟩
  · rw [h fuel] at hc
    cases hc
  · exact ⟨path, hcut⟩

/-- A resolution that succeeds is an evaluation that ends within the limit. -/
theorem resolve_eq_ok_iff {v w : Value} :
    r.resolve ctx v = .ok w ↔ ∃ c, r.Ends ctx v c ∧ c.depth ≤ r.maxDepth ∧ c.outcome = .ok w := by
  constructor
  · intro h
    rcases resolve_fits r ctx v with ⟨c, hc, hdepth, hout⟩ | ⟨path, hcut, _⟩
    · exact ⟨c, hc, hdepth, hout.symm.trans h⟩
    · cases hcut.symm.trans h
  · rintro ⟨c, hc, hdepth, hout⟩
    exact (resolve_of_ends hc hdepth).trans hout

/-- Without a guard the limit does not matter. -/
theorem walk_congr {r' : Resolver} (h : r'.registry = r.registry) (n : Nat) : r'.walk ctx n = r.walk ctx n := by
  induction n with
  | zero => rfl
  | succ n ih =>
    funext ref
    simp only [walk, fetch, h, ih]

theorem ends_congr {r' : Resolver} (h : r'.registry = r.registry) {v : Value} {c : Course Value} :
    r'.Ends ctx v c ↔ r.Ends ctx v c := by
  simp only [Ends, walk_congr h]

/-- A lookup ends as the tree of its value does, one lookup deeper. -/
theorem ends_lookup_iff {s : Scalar} {ref : DataRef} {u : Value} (hs : s.ref? = some ref)
    (hfetch : r.fetch ctx ref = .ok u) {c : Course Value} :
    r.Ends ctx (.scalar s) c ↔ ∃ d, r.Ends ctx u d ∧ d.inLookup = c := by
  constructor
  · rintro ⟨fuel, hc⟩
    simp only [walkTree, hs] at hc
    cases fuel with
    | zero => cases hc
    | succ fuel =>
      simp only [walk, hfetch] at hc
      obtain ⟨d, hd, rfl⟩ := Option.map_eq_some_iff.mp hc
      exact ⟨d, ⟨fuel, hd⟩, rfl⟩
  · rintro ⟨d, ⟨fuel, hd⟩, rfl⟩
    refine ⟨fuel + 1, ?_⟩
    simp only [walkTree, hs, walk, hfetch, hd, Option.map_some]

/-! ### the failure of the guard -/

/-- The failure of the guard names the chain and the limit, unless the limit is too long to be written. -/
theorem isCut_iff {o : Except Failure Value} :
    (∃ path, r.IsCut path o) ↔
      if isWritable r.maxDepth then ∃ chain, o = .error (.fault (.cyclic chain r.maxDepth))
      else o = .error .overlongInteger := by
  unfold IsCut Failure.ofFault Fault.isWritable
  split
  · rfl
  · exact ⟨fun ⟨_, h⟩ => h, fun h => ⟨[], h⟩⟩

/-- **The guard only ends what goes too deep.** An evaluation that ends without a guard and within the limit has the
same outcome with it. One that goes deeper or does not end fails with the chain of its lookups, or, where the limit
has too many digits for this failure to be worded, because of that. If it ends, this chain is longer than the limit and
has no lookup twice, so no evaluation that ends is taken for a cycle. A higher limit changes no other outcome. -/
theorem guard_ends_only_depth (r : Resolver) (ctx : PageContext) (v : Value) :
    (∀ c, r.Ends ctx v c → c.depth ≤ r.maxDepth → r.resolve ctx v = c.outcome) ∧
    ((∃ c, r.Ends ctx v c ∧ r.maxDepth < c.depth) ∨ r.Diverges ctx v →
      if isWritable r.maxDepth then ∃ chain, r.resolve ctx v = .error (.fault (.cyclic chain r.maxDepth))
      else r.resolve ctx v = .error .overlongInteger) ∧
    (∀ c, r.Ends ctx v c → r.maxDepth < c.depth → ∃ chain : List DataRef,
      chain.Nodup ∧ chain.length = r.maxDepth + 1 ∧
        r.resolve ctx v = .error (.ofFault (.cyclic chain r.maxDepth))) ∧
    (∀ r' : Resolver, r'.registry = r.registry → r.maxDepth ≤ r'.maxDepth →
      (∀ chain, r.resolve ctx v ≠ .error (.ofFault (.cyclic chain r.maxDepth))) →
      r'.resolve ctx v = r.resolve ctx v) := by
  refine ⟨fun c hc hd => resolve_of_ends hc hd, fun h => ?_, fun c hc hd => isCut_of_deep hc hd,
    fun r' hreg hle hne => ?_⟩
  · rw [← isCut_iff]
    rcases h with ⟨c, hc, hd⟩ | h
    · obtain ⟨path, _, _, hcut⟩ := isCut_of_deep hc hd
      exact ⟨path, hcut⟩
    · exact isCut_of_diverges h
  · rcases resolve_fits r ctx v with ⟨c, ⟨fuel, hc⟩, hd, hout⟩ | ⟨path, hcut, _⟩
    · have hc' : r'.Ends ctx v c := ⟨fuel, by rwa [walk_congr hreg]⟩
      exact (resolve_of_ends hc' (Nat.le_trans hd hle)).trans hout.symm
    · exact absurd hcut (hne path)

end Lookups

/-! ### a chain of two lookups -/

/-- The standard filters with a limit of `n + 1` lookups. -/
def ofLimit (n : Nat) : Resolver := ⟨.standard, n + 1, Nat.succ_pos n⟩

/-- A page with an entry that is a lookup of another one. -/
def referring : PageContext :=
  ⟨"/", [(.str "a", .str "lume-data:b"), (.str "b", .str "First")],
    exampleSite.url⟩

theorem referring_ends (r : Resolver) : r.Ends referring (.str "lume-data:a") ⟨.ok (.str "First"), 2⟩ := by
  have hfirst : (Scalar.str "lume-data:a").ref? = some ⟨["a"], []⟩ := by decide
  have hsecond : (Scalar.str "lume-data:b").ref? = some ⟨["b"], []⟩ := by decide
  have hnone : (Scalar.str "First").ref? = none := by decide
  have hfetch : r.fetch referring ⟨["a"], []⟩ = .ok (.str "lume-data:b") := rfl
  have hfetch' : r.fetch referring ⟨["b"], []⟩ = .ok (.str "First") := rfl
  refine ⟨2, ?_⟩
  simp only [walkTree, hfirst, walk, hfetch, hsecond, hfetch', hnone]
  rfl

theorem referring_needs_two :
    (ofLimit 1).resolve referring (.str "lume-data:a") = .ok (.str "First") ∧
      ∃ chain : List DataRef, chain.Nodup ∧ chain.length = 2 ∧
        (ofLimit 0).resolve referring (.str "lume-data:a") = .error (.ofFault (.cyclic chain 1)) := by
  constructor
  · exact (guard_ends_only_depth (ofLimit 1) referring (.str "lume-data:a")).1 _ (referring_ends _) (Nat.le_refl 2)
  · exact (guard_ends_only_depth (ofLimit 0) referring (.str "lume-data:a")).2.2.1 _ (referring_ends _)
      (Nat.lt_succ_self 1)

/-! ### a limit with too many digits -/

/-- A page with a single entry, which is a lookup of itself. -/
def selfReferring : PageContext :=
  ⟨"/", [(.str "a", .str "lume-data:a")], exampleSite.url⟩

theorem selfReferring_diverges (r : Resolver) : r.Diverges selfReferring (.str "lume-data:a") := by
  have href : (Scalar.str "lume-data:a").ref? = some ⟨["a"], []⟩ := by decide
  have hfetch : r.fetch selfReferring ⟨["a"], []⟩ = .ok (.str "lume-data:a") := rfl
  intro fuel
  induction fuel with
  | zero => simp only [walkTree, href, walk]
  | succ fuel ih =>
    simp only [walkTree, href] at ih ⊢
    simp only [walk, hfetch, walkTree, href, ih, Option.map_none]

/-- The least limit that can not be written. -/
def longLimit : Resolver := ⟨.standard, leastOverlong, leastOverlong_pos⟩

/-- With such a limit a lookup of itself is not reported as one. -/
theorem longLimit_hides_cycle :
    longLimit.Diverges selfReferring (.str "lume-data:a") ∧
      ¬ ∃ chain, longLimit.resolve selfReferring (.str "lume-data:a") =
        .error (.fault (.cyclic chain longLimit.maxDepth)) := by
  refine ⟨selfReferring_diverges longLimit, fun ⟨chain, h⟩ => ?_⟩
  have hlong : ¬ isWritable longLimit.maxDepth := Bool.eq_false_iff.mp leastOverlong_not_writable
  have hcut := isCut_of_diverges (selfReferring_diverges longLimit)
  rw [isCut_iff, if_neg hlong, h] at hcut
  cases hcut

end LinkedData.Resolver
