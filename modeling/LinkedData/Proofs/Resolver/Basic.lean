import LinkedData.Resolver
import LinkedData.Proofs.Outcome
import LinkedData.Proofs.Value.Parts

/-!
# Resolution, step by step

How the resolution of a tree is put together from that of its parts, as equations that later proofs rewrite with:

* `Scalar.ref?_eq_some_iff`: which leaves are lookups;
* `resolveMoment_eq_ok`, `resolveMoment_eq_error`: a moment resolves to its timestamp, if it has one;
* `resolveScalar_ref`, `resolveScalar_leaf`: a leaf is a lookup or resolves without one;
* `resolveTreeL_cons`, `resolveTreeE_cons`: parts are resolved in order, up to the first failure;
* `Resolver.follow_repeated`, `Resolver.follow_succ`: a lookup that is under way is cut, and one that the guard lets pass
  fetches its value and resolves it;
* `Resolver.follow_succ_eq_ok`: what a lookup that succeeds has done;
* `resolveTreeL_eq_ok`, `resolveTreeE_eq_ok`: parts are resolved if each of them is.
-/

namespace LinkedData

open Calendar

/-! ### leaves and parts -/

theorem Key.str_or_ne (k : Key) : (∃ name, k = .str name) ∨ ∀ name, k ≠ .str name := by
  by_cases h : ∃ name, k = .str name
  · exact Or.inl h
  · exact Or.inr fun name hk => h ⟨name, hk⟩

/-- A leaf is a lookup if it is a text that stands for one. -/
theorem Scalar.ref?_eq_some_iff {s : Scalar} {ref : DataRef} :
    s.ref? = some ref ↔ ∃ text, s = .str text ∧ Reference.ofText text = .data ref := by
  cases s with
  | str text =>
    rw [ref?]
    cases htext : Reference.ofText text with
    | plain _ | pageUrl | siteUrl _ | data _ => simp [Reference.ref?, htext]
  | null | bool _ | int _ | float _ | bytes _ | date _ | datetime _ | time _ | decimal _ =>
    exact iff_of_false (fun h => nomatch h) fun ⟨_, h, _⟩ => nomatch h

/-- A moment resolves to its timestamp. -/
theorem resolveMoment_eq_ok {t : DateTime} {w : Value} :
    resolveMoment t = .ok w ↔ ∃ cs, timestamp? t = some cs ∧ w = .str (String.ofList cs) := by
  -- not by the equation of the definition, which Lean is slow to derive: it evaluates the timestamp on the way
  delta resolveMoment
  cases timestamp? t with
  | none => simp
  | some cs => simp [eq_comm]

/-- A moment without a timestamp lies outside of the calendar. -/
theorem resolveMoment_eq_error {t : DateTime} {e : Failure} :
    resolveMoment t = .error e ↔ timestamp? t = none ∧ e = .outsideCalendar := by
  delta resolveMoment
  cases timestamp? t with
  | none => simp [eq_comm]
  | some cs => simp

section Trees

variable {follow : DataRef → Except Failure Value} {ctx : PageContext}

theorem resolveScalar_ref {s : Scalar} {ref : DataRef} (h : s.ref? = some ref) :
    resolveScalar follow ctx s = follow ref := by
  simp only [resolveScalar, h]

theorem resolveScalar_leaf {s : Scalar} (h : s.ref? = none) : resolveScalar follow ctx s = resolveLeaf ctx s := by
  simp only [resolveScalar, h]

theorem resolveTreeL_cons (v : Value) (vs : List Value) :
    resolveTreeL follow ctx (v :: vs) =
      resolveTree follow ctx v >>= fun w => (resolveTreeL follow ctx vs).map (w :: ·) := by
  rw [resolveTreeL]
  congr 1

theorem resolveTreeE_cons (name : String) (v : Value) (es : List (Key × Value)) :
    resolveTreeE follow ctx ((.str name, v) :: es) =
      resolveTree follow ctx v >>= fun w => (resolveTreeE follow ctx es).map ((.str name, w) :: ·) := by
  rw [resolveTreeE]
  congr 1

theorem resolveTreeE_cons_of_ne {k : Key} (h : ∀ name, k ≠ .str name) (v : Value) (es : List (Key × Value)) :
    resolveTreeE follow ctx ((k, v) :: es) = .error (.ofFault (.unsupported k.toValue)) := by
  rw [resolveTreeE]
  intro name hk
  exact absurd hk (h name)

/-- A tuple is resolved as a list is. -/
theorem resolveTree_tuple (items : List Value) :
    resolveTree follow ctx (.tuple items) = resolveTree follow ctx (.list items) := by
  rw [resolveTree, resolveTree]

theorem resolveTreeL_eq_ok {vs ws : List Value} :
    resolveTreeL follow ctx vs = .ok ws ↔ List.Forall₂ (fun v w => resolveTree follow ctx v = .ok w) vs ws := by
  induction vs generalizing ws with
  | nil =>
    rw [resolveTreeL, List.forall₂_nil_left_iff, Except.ok.injEq]
    exact eq_comm
  | cons v vs ih =>
    simp only [resolveTreeL_cons, bind_eq_ok, map_eq_ok, ih, List.forall₂_cons_left_iff]
    constructor
    · rintro ⟨w, hw, us, hus, rfl⟩
      exact ⟨w, us, hw, hus, rfl⟩
    · rintro ⟨w, us, hw, hus, rfl⟩
      exact ⟨w, hw, us, hus, rfl⟩

theorem resolveTreeE_eq_ok {es ws : Entries} :
    resolveTreeE follow ctx es = .ok ws ↔
      List.Forall₂ (fun e f => e.1.isText = true ∧ f.1 = e.1 ∧ resolveTree follow ctx e.2 = .ok f.2) es ws := by
  induction es generalizing ws with
  | nil =>
    rw [resolveTreeE, List.forall₂_nil_left_iff, Except.ok.injEq]
    exact eq_comm
  | cons e es ih =>
    obtain ⟨k, v⟩ := e
    rw [List.forall₂_cons_left_iff]
    rcases k.str_or_ne with ⟨name, rfl⟩ | hk
    · simp only [resolveTreeE_cons, bind_eq_ok, map_eq_ok, ih]
      constructor
      · rintro ⟨w, hw, us, hus, rfl⟩
        exact ⟨(.str name, w), us, ⟨rfl, rfl, hw⟩, hus, rfl⟩
      · rintro ⟨⟨l, w⟩, us, ⟨_, rfl, hw⟩, hus, rfl⟩
        exact ⟨w, hw, us, hus, rfl⟩
    · rw [resolveTreeE_cons_of_ne hk]
      refine iff_of_false (fun h => nomatch h) ?_
      rintro ⟨f, us, ⟨htext, _⟩, _⟩
      obtain ⟨name, rfl⟩ := Key.isText_iff.mp htext
      exact hk name rfl

end Trees

/-! ### lookups -/

namespace Resolver

variable {r : Resolver} {ctx : PageContext}

theorem follow_mem {left : Nat} {chain : List DataRef} {ref : DataRef} (h : ref ∈ chain) :
    r.follow ctx (left + 1) chain ref = .error (.ofFault (.cyclic (chain ++ [ref]) r.maxDepth)) := by
  rw [follow, if_pos h]

/-- A lookup that is under way already is cut, however much is left of the limit. -/
theorem follow_repeated {chain : List DataRef} {ref : DataRef} (h : ref ∈ chain) (left : Nat) :
    r.follow ctx left chain ref = .error (.ofFault (.cyclic (chain ++ [ref]) r.maxDepth)) := by
  cases left with
  | zero => rfl
  | succ left => exact follow_mem h

theorem follow_succ {left : Nat} {chain : List DataRef} {ref : DataRef} (h : ref ∉ chain) :
    r.follow ctx (left + 1) chain ref =
      r.fetch ctx ref >>= resolveTree (r.follow ctx left (chain ++ [ref])) ctx := by
  rw [follow, if_neg h]

/-- A lookup that succeeds is not under way already, and the tree of its value is resolved. -/
theorem follow_succ_eq_ok {left : Nat} {chain : List DataRef} {ref : DataRef} {w : Value} :
    r.follow ctx (left + 1) chain ref = .ok w ↔
      ref ∉ chain ∧ ∃ u, r.fetch ctx ref = .ok u ∧
        resolveTree (r.follow ctx left (chain ++ [ref])) ctx u = .ok w := by
  by_cases hmem : ref ∈ chain
  · rw [follow_mem hmem]
    exact iff_of_false (fun h => nomatch h) fun h => h.1 hmem
  · rw [follow_succ hmem, bind_eq_ok]
    exact (and_iff_right hmem).symm

end Resolver

/-- A site without a base path, on which the pages of the examples are. -/
def exampleSite : Site := ⟨"https://example.com/", "https://example.com", "/"⟩

end LinkedData
