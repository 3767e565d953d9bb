import LinkedData.Proofs.Resolver.Basic

/-!
# Resolution without a guard

The evaluation that `Resolver.resolve` does, in the same order, but without the guard that ends chains of lookups. It
need not end.

* `Course`: how an evaluation ends, and the largest number of lookups that were under way at a time;
* `walkTree`: a tree, given how lookups go; `none` stands for an evaluation that is not over;
* `Resolver.walk`: a lookup, with fuel for the lookups inside of lookups. A lookup counts from its beginning, also if
  nothing is found;
* `Resolver.Ends`, `Resolver.Diverges`: a tree with enough fuel, and one that no fuel is enough for;
* `Resolver.Ends.unique`: an evaluation ends in one way only, as more fuel changes nothing (`Resolver.walk_steady`).
-/

namespace LinkedData

/-! ### courses -/

/-- How an evaluation ends: its outcome, and the largest number of lookups under way at a time. -/
structure Course (α : Type) where
  outcome : Except Failure α
  depth : Nat

namespace Course

variable {α β : Type}

/-- The course of an evaluation without lookups. -/
def still (o : Except Failure α) : Course α := ⟨o, 0⟩

/-- A course with its result changed. -/
def map (f : α → β) (c : Course α) : Course β := ⟨c.outcome.map f, c.depth⟩

/-- The course of an evaluation inside of one more lookup. -/
def inLookup (c : Course α) : Course α := ⟨c.outcome, c.depth + 1⟩

/-- One evaluation and, unless it fails, another one that its result decides on and that need not be over. -/
def andThen (c : Course α) (next : α → Option (Course β)) : Option (Course β) :=
  match c.outcome with
  | .error e => some ⟨.error e, c.depth⟩
  | .ok a => (next a).map fun d => ⟨d.outcome, max c.depth d.depth⟩

end Course

/-! ### trees -/

mutual
/-- A tree, evaluated where lookups go as `walk` says. -/
def walkTree (walk : DataRef → Option (Course Value)) (ctx : PageContext) : Value → Option (Course Value)
  | .scalar s =>
    match s.ref? with
    | some ref => walk ref
    | none => some (.still (resolveLeaf ctx s))
  | .set members => some (.still (.error (.ofFault (.unsupported (.set members)))))
  | .list items => (walkTreeL walk ctx items).map (Course.map .list)
  | .tuple items => (walkTreeL walk ctx items).map (Course.map .list)
  | .map entries => (walkTreeE walk ctx entries).map (Course.map fun es => .map (Entries.ofList es))
def walkTreeL (walk : DataRef → Option (Course Value)) (ctx : PageContext) :
    List Value → Option (Course (List Value))
  | [] => some (.still (.ok []))
  | v :: vs =>
    (walkTree walk ctx v).bind (·.andThen fun w => (walkTreeL walk ctx vs).map (Course.map (w :: ·)))
def walkTreeE (walk : DataRef → Option (Course Value)) (ctx : PageContext) :
    List (Key × Value) → Option (Course (List (Key × Value)))
  | [] => some (.still (.ok []))
  | (k, v) :: es =>
    match k with
    | .str name =>
      (walkTree walk ctx v).bind
        (·.andThen fun w => (walkTreeE walk ctx es).map (Course.map ((.str name, w) :: ·)))
    | other => some (.still (.error (.ofFault (.unsupported other.toValue))))
end

theorem walkTreeE_cons {walk : DataRef → Option (Course Value)} {ctx : PageContext} (name : String) (v : Value)
    (es : List (Key × Value)) :
    walkTreeE walk ctx ((.str name, v) :: es) =
      (walkTree walk ctx v).bind
        (·.andThen fun w => (walkTreeE walk ctx es).map (Course.map ((.str name, w) :: ·))) := by
  rw [walkTreeE]

theorem walkTreeE_cons_of_ne {walk : DataRef → Option (Course Value)} {ctx : PageContext} {k : Key}
    (h : ∀ name, k ≠ .str name) (v : Value) (es : List (Key × Value)) :
    walkTreeE walk ctx ((k, v) :: es) = some (.still (.error (.ofFault (.unsupported k.toValue)))) := by
  rw [walkTreeE]
  intro name hk
  exact absurd hk (h name)

/-! ### lookups -/

namespace Resolver

/-- A lookup, with fuel for so many lookups inside of one another. -/
def walk (r : Resolver) (ctx : PageContext) : Nat → DataRef → Option (Course Value)
  | 0, _ => none
  | fuel + 1, ref =>
    match r.fetch ctx ref with
    | .error e => some ⟨.error e, 1⟩
    | .ok v => (walkTree (r.walk ctx fuel) ctx v).map Course.inLookup

/-- The evaluation of a tree without a guard ends so. -/
def Ends (r : Resolver) (ctx : PageContext) (v : Value) (c : Course Value) : Prop :=
  ∃ fuel, walkTree (r.walk ctx fuel) ctx v = some c

/-- The evaluation of a tree without a guard does not end. -/
def Diverges (r : Resolver) (ctx : PageContext) (v : Value) : Prop :=
  ∀ fuel, walkTree (r.walk ctx fuel) ctx v = none

end Resolver

/-! ### more fuel -/

/-- An evaluation that is over stays so. -/
def Steady {α : Type} (u : Nat → Option (Course α)) : Prop := ∀ n m c, n ≤ m → u n = some c → u m = some c

theorem Steady.unique {α : Type} {u : Nat → Option (Course α)} (h : Steady u) {n m : Nat} {c d : Course α}
    (hn : u n = some c) (hm : u m = some d) : c = d := by
  have hc := h n (max n m) c (Nat.le_max_left n m) hn
  have hd := h m (max n m) d (Nat.le_max_right n m) hm
  exact Option.some.inj (hc.symm.trans hd)

theorem Steady.map {α β : Type} {u : Nat → Option (Course α)} (h : Steady u) (f : α → β) :
    Steady fun n => (u n).map (Course.map f) := by
  intro n m c hnm hc
  obtain ⟨d, hd, rfl⟩ := Option.map_eq_some_iff.mp hc
  exact Option.map_eq_some_iff.mpr ⟨d, h n m d hnm hd, rfl⟩

theorem Course.andThen_mono {α β : Type} {c : Course α} {f g : α → Option (Course β)} {d : Course β}
    (h : ∀ a d, f a = some d → g a = some d) (hc : c.andThen f = some d) : c.andThen g = some d := by
  obtain ⟨outcome, depth⟩ := c
  cases outcome with
  | error e => exact hc
  | ok a =>
    obtain ⟨d', hd', rfl⟩ := Option.map_eq_some_iff.mp hc
    exact Option.map_eq_some_iff.mpr ⟨d', h a d' hd', rfl⟩

section Mono

variable {f g : DataRef → Option (Course Value)} {ctx : PageContext}

mutual
/-- If all lookups that are over in one evaluation are so in another, so are all trees. -/
theorem walkTree_mono (h : ∀ ref c, f ref = some c → g ref = some c) :
    ∀ v c, walkTree f ctx v = some c → walkTree g ctx v = some c
  | .scalar s, c, hc => by
    rw [walkTree] at hc ⊢
    cases hs : s.ref? with
    | none => simpa only [hs] using hc
    | some ref =>
      simp only [hs] at hc ⊢
      exact h ref c hc
  | .set members, c, hc => by
    rw [walkTree] at hc ⊢
    exact hc
  | .list items, c, hc => by
    rw [walkTree] at hc ⊢
    obtain ⟨d, hd, rfl⟩ := Option.map_eq_some_iff.mp hc
    rw [walkTreeL_mono h items d hd, Option.map_some]
  | .tuple items, c, hc => by
    rw [walkTree] at hc ⊢
    obtain ⟨d, hd, rfl⟩ := Option.map_eq_some_iff.mp hc
    rw [walkTreeL_mono h items d hd, Option.map_some]
  | .map entries, c, hc => by
    rw [walkTree] at hc ⊢
    obtain ⟨d, hd, rfl⟩ := Option.map_eq_some_iff.mp hc
    rw [walkTreeE_mono h entries d hd, Option.map_some]
theorem walkTreeL_mono (h : ∀ ref c, f ref = some c → g ref = some c) :
    ∀ vs c, walkTreeL f ctx vs = some c → walkTreeL g ctx vs = some c
  | [], c, hc => by
    rw [walkTreeL] at hc ⊢
    exact hc
  | v :: vs, c, hc => by
    rw [walkTreeL] at hc ⊢
    obtain ⟨d, hd, hc⟩ := Option.bind_eq_some_iff.mp hc
    rw [walkTree_mono h v d hd, Option.bind_some]
    refine Course.andThen_mono (fun w e he => ?_) hc
    obtain ⟨e', he', rfl⟩ := Option.map_eq_some_iff.mp he
    rw [walkTreeL_mono h vs e' he', Option.map_some]
theorem walkTreeE_mono (h : ∀ ref c, f ref = some c → g ref = some c) :
    ∀ es c, walkTreeE f ctx es = some c → walkTreeE g ctx es = some c
  | [], c, hc => by
    rw [walkTreeE] at hc ⊢
    exact hc
  | (k, v) :: es, c, hc => by
    rcases k.str_or_ne with ⟨name, rfl⟩ | hk
    · rw [walkTreeE_cons] at hc ⊢
      obtain ⟨d, hd, hc⟩ := Option.bind_eq_some_iff.mp hc
      rw [walkTree_mono h v d hd, Option.bind_some]
      refine Course.andThen_mono (fun w e he => ?_) hc
      obtain ⟨e', he', rfl⟩ := Option.map_eq_some_iff.mp he
      rw [walkTreeE_mono h es e' he', Option.map_some]
    · rw [walkTreeE_cons_of_ne hk] at hc ⊢
      exact hc
end

end Mono

namespace Resolver

variable {r : Resolver} {ctx : PageContext}

theorem walk_succ_of_walk : ∀ (n : Nat) (ref : DataRef) (c : Course Value),
    r.walk ctx n ref = some c → r.walk ctx (n + 1) ref = some c := by
  intro n
  induction n with
  | zero =>
    intro ref c hc
    cases hc
  | succ n ih =>
    intro ref c hc
    rw [walk] at hc ⊢
    split at hc
    · exact hc
    · obtain ⟨d, hd, rfl⟩ := Option.map_eq_some_iff.mp hc
      rw [walkTree_mono ih _ d hd, Option.map_some]

theorem walk_steady (ref : DataRef) : Steady fun n => r.walk ctx n ref := by
  intro n m c hnm hc
  induction hnm with
  | refl => exact hc
  | step _ ih => exact walk_succ_of_walk _ ref c ih

theorem walkTree_steady (v : Value) : Steady fun n => walkTree (r.walk ctx n) ctx v := by
  intro n m c hnm hc
  exact walkTree_mono (fun ref d hd => walk_steady ref n m d hnm hd) v c hc

theorem walkTreeL_steady (vs : List Value) : Steady fun n => walkTreeL (r.walk ctx n) ctx vs := by
  intro n m c hnm hc
  exact walkTreeL_mono (fun ref d hd => walk_steady ref n m d hnm hd) vs c hc

theorem walkTreeE_steady (es : List (Key × Value)) : Steady fun n => walkTreeE (r.walk ctx n) ctx es := by
  intro n m c hnm hc
  exact walkTreeE_mono (fun ref d hd => walk_steady ref n m d hnm hd) es c hc

/-- An evaluation ends in one way only. -/
theorem Ends.unique {v : Value} {c d : Course Value} (hc : r.Ends ctx v c) (hd : r.Ends ctx v d) : c = d := by
  obtain ⟨n, hn⟩ := hc
  obtain ⟨m, hm⟩ := hd
  exact (walkTree_steady v).unique hn hm

end Resolver

end LinkedData
