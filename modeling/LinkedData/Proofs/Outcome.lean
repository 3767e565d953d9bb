import Mathlib.Data.List.Forall2
import LinkedData.Failure

/-!
# Outcomes of steps

* `bind_eq_ok`, `map_eq_ok`: what a success of one step after another says about the steps;
* `bind_eq_error`, `map_eq_error`: what a failure says about them;
* `FailsBy`: an outcome that is a failure for one of the given reasons, or else a result, if there are no such reasons;
* `Lasting`: a relation between the outcomes of two runs that holds on as these go on step by step;
* `Agrees`: outcomes of two runs that are the same result, or failures in a given relation;
* `Failure.Names`: a failure that is a fault of structured data on the page of some URL;
* `exists_left_of_mem`, `exists_right_of_mem`, `exists_right_of_getElem?`: what stands opposite in two lists in step;
* `forall₂_imp_mem`: what is so for items in step, if they are in the first list;
* `forall₂_carry`: a list in step with two others puts these in step;
* `forall₂_lift`: what stands opposite item by item makes up a list;
* `keys_eq`, `forall₂_of_keys`: entries in step that have the same keys.
-/

namespace LinkedData

/-! ### steps that may fail -/

section Steps

variable {ε α β : Type} {x : Except ε α}

theorem bind_eq_ok {f : α → Except ε β} {b : β} : x >>= f = .ok b ↔ ∃ a, x = .ok a ∧ f a = .ok b := by
  cases x with
  | error e => simp [bind, Except.bind]
  | ok a => simp [bind, Except.bind]

theorem map_eq_ok {f : α → β} {b : β} : x.map f = .ok b ↔ ∃ a, x = .ok a ∧ f a = b := by
  cases x with
  | error e => simp [Except.map]
  | ok a => simp [Except.map]

theorem bind_eq_error {f : α → Except ε β} {e : ε} :
    x >>= f = .error e ↔ x = .error e ∨ ∃ a, x = .ok a ∧ f a = .error e := by
  cases x with
  | error e' => simp [bind, Except.bind]
  | ok a => simp [bind, Except.bind]

theorem map_eq_error {f : α → β} {e : ε} : x.map f = .error e ↔ x = .error e := by
  cases x with
  | error e' => simp [Except.map]
  | ok a => simp [Except.map]

end Steps

/-! ### reasons of failures -/

/-- The outcome is a failure for one of the reasons in `P`, or a result, if there are none in `P`. -/
inductive FailsBy {α : Type} (P : Failure → Prop) : Except Failure α → Prop
  | ok (a : α) : (∀ e, ¬ P e) → FailsBy P (.ok a)
  | error (e : Failure) : P e → FailsBy P (.error e)

section FailsBy

variable {α β : Type} {P Q : Failure → Prop} {o : Except Failure α}

theorem FailsBy.of_error {e : Failure} (h : FailsBy P (.error e : Except Failure α)) : P e := by
  cases h with
  | error _ he => exact he

theorem FailsBy.ok_iff (h : FailsBy P o) : (∃ a, o = .ok a) ↔ ∀ e, ¬ P e := by
  cases h with
  | ok a hnone => exact iff_of_true ⟨a, rfl⟩ hnone
  | error e he => exact iff_of_false (fun ⟨_, h⟩ => nomatch h) fun hnone => hnone e he

theorem FailsBy.error_iff (h : FailsBy P o) : (∃ e, o = .error e) ↔ ∃ e, P e := by
  cases h with
  | ok a hnone => exact iff_of_false (fun ⟨_, h⟩ => nomatch h) fun ⟨e, he⟩ => hnone e he
  | error e he => exact iff_of_true ⟨e, rfl⟩ ⟨e, he⟩

theorem FailsBy.congr (h : FailsBy P o) (hPQ : ∀ e, P e ↔ Q e) : FailsBy Q o := by
  cases h with
  | ok a hnone => exact FailsBy.ok a fun e he => hnone e ((hPQ e).mpr he)
  | error e he => exact FailsBy.error e ((hPQ e).mp he)

/-- Of one step after another, the reasons are those of both. -/
theorem FailsBy.bind {f : α → Except Failure β} (h : FailsBy P o) (hf : ∀ a, FailsBy Q (f a)) :
    FailsBy (fun e => P e ∨ Q e) (o >>= f) := by
  cases h with
  | error e he => exact FailsBy.error e (Or.inl he)
  | ok a hnone =>
    show FailsBy (fun e => P e ∨ Q e) (f a)
    refine (hf a).congr fun e => ?_
    simp only [hnone e, false_or]

theorem FailsBy.map (h : FailsBy P o) (f : α → β) : FailsBy P (o.map f) := by
  cases h with
  | error e he => exact FailsBy.error e he
  | ok a hnone => exact FailsBy.ok (f a) hnone

end FailsBy

/-! ### outcomes of two runs -/

/-- Two runs from the same start are in the relation, and so are two that go on alike after outcomes in it. -/
structure Lasting (R : ∀ {α : Type}, Except Failure α → Except Failure α → Prop) : Prop where
  refl : ∀ {α : Type} (o : Except Failure α), R o o
  bind : ∀ {α β : Type} {o o' : Except Failure α} {f g : α → Except Failure β},
    R o o' → (∀ a, o = .ok a → R (f a) (g a)) → R (o >>= f) (o' >>= g)

theorem Lasting.map {R : ∀ {α : Type}, Except Failure α → Except Failure α → Prop} (hR : Lasting R) {α β : Type}
    {o o' : Except Failure α} (h : R o o') (f : α → β) : R (o.map f) (o'.map f) := by
  have hmap : ∀ x : Except Failure α, x.map f = x >>= fun a => .ok (f a) := by
    intro x
    cases x <;> rfl
  rw [hmap, hmap]
  exact hR.bind h fun a _ => hR.refl _

/-- The two outcomes are the same result, or failures that are related by `Q`. -/
inductive Agrees {α : Type} (Q : Failure → Failure → Prop) : Except Failure α → Except Failure α → Prop
  | ok (a : α) : Agrees Q (.ok a) (.ok a)
  | error {e e' : Failure} : Q e e' → Agrees Q (.error e) (.error e')

section Agrees

variable {α β : Type} {Q : Failure → Failure → Prop} {o o' : Except Failure α}

theorem Agrees.refl (hQ : ∀ e, Q e e) (o : Except Failure α) : Agrees Q o o := by
  cases o with
  | ok a => exact Agrees.ok a
  | error e => exact Agrees.error (hQ e)

theorem agrees_eq_iff : Agrees Eq o o' ↔ o = o' := by
  constructor
  · rintro (_ | rfl) <;> rfl
  · rintro rfl
    exact Agrees.refl (fun _ => rfl) o

theorem Agrees.bind {f g : α → Except Failure β} (h : Agrees Q o o') (hfg : ∀ a, o = .ok a → Agrees Q (f a) (g a)) :
    Agrees Q (o >>= f) (o' >>= g) := by
  cases h with
  | ok a => exact hfg a rfl
  | error he => exact Agrees.error he

theorem Agrees.lasting (hQ : ∀ e, Q e e) : Lasting (Agrees Q) := ⟨Agrees.refl hQ, Agrees.bind⟩

end Agrees

/-! ### failures that name a page -/

/-- The failure is a fault of structured data on the page of the URL. -/
def Failure.Names (url : String) (e : Failure) : Prop := ∃ f, e = .page url f

/-- A fault is raised as such, unless an integer in it is too long to be worded. -/
theorem ofFault_cases (f : Fault) :
    Failure.ofFault f = .fault f ∨ Failure.ofFault f = .overlongInteger ∧ f.isWritable = false := by
  rw [Failure.ofFault]
  cases f.isWritable with
  | true => exact Or.inl rfl
  | false => exact Or.inr ⟨rfl, rfl⟩

/-- A fault of structured data as it is raised names the page if it can be worded. -/
theorem onPage_ofFault_names_iff {url : String} {f : Fault} :
    ((Failure.ofFault f).onPage url).Names url ↔ f.isWritable = true := by
  rw [Failure.ofFault]
  cases f.isWritable with
  | true => exact iff_of_true ⟨f, rfl⟩ rfl
  | false => exact iff_of_false (fun ⟨_, h⟩ => nomatch h) Bool.false_ne_true

/-! ### lists in step -/

section Forall₂

variable {α β : Type} {R : α → β → Prop} {xs : List α} {ys : List β}

theorem exists_left_of_mem (h : List.Forall₂ R xs ys) {y : β} (hy : y ∈ ys) : ∃ x ∈ xs, R x y := by
  induction h with
  | nil => cases hy
  | @cons x z xs ys hR _ ih =>
    rcases List.mem_cons.mp hy with rfl | hy
    · exact ⟨x, List.mem_cons_self, hR⟩
    · obtain ⟨x', hx', hR'⟩ := ih hy
      exact ⟨x', List.mem_cons_of_mem x hx', hR'⟩

theorem exists_right_of_mem (h : List.Forall₂ R xs ys) {x : α} (hx : x ∈ xs) : ∃ y ∈ ys, R x y :=
  exists_left_of_mem h.flip hx

theorem exists_right_of_getElem? (h : List.Forall₂ R xs ys) {n : Nat} {x : α} (hx : xs[n]? = some x) :
    ∃ y, ys[n]? = some y ∧ R x y := by
  induction h generalizing n with
  | nil => cases hx
  | @cons x' y xs ys hR _ ih =>
    cases n with
    | zero =>
      obtain rfl := Option.some.inj hx
      exact ⟨y, rfl, hR⟩
    | succ n => exact ih hx

theorem forall₂_imp_mem {S : α → β → Prop} (h : List.Forall₂ R xs ys) (hS : ∀ x ∈ xs, ∀ y, R x y → S x y) :
    List.Forall₂ S xs ys :=
  ((List.forall₂_and_left xs ys).mpr ⟨hS, h⟩).imp fun _ y hx => hx.1 y hx.2

theorem forall₂_carry {γ : Type} {S : α → γ → Prop} {T : β → γ → Prop} {zs : List γ} (hys : List.Forall₂ R xs ys)
    (hzs : List.Forall₂ S xs zs) (h : ∀ x y z, R x y → S x z → T y z) : List.Forall₂ T ys zs := by
  induction hys generalizing zs with
  | nil =>
    cases hzs
    exact List.Forall₂.nil
  | @cons x y xs ys hR _ ih =>
    cases hzs with
    | @cons _ z _ zs hS hzs => exact List.Forall₂.cons (h x y z hR hS) (ih hzs)

theorem forall₂_lift {γ δ : Type} {S : α → γ → Prop} {T : β → δ → Prop} {U : γ → δ → Prop} {zs : List γ}
    (hys : List.Forall₂ R xs ys) (hzs : List.Forall₂ S xs zs)
    (h : ∀ x y z, R x y → S x z → ∃ w, T y w ∧ U z w) : ∃ ws, List.Forall₂ T ys ws ∧ List.Forall₂ U zs ws := by
  induction hys generalizing zs with
  | nil =>
    cases hzs
    exact ⟨[], List.Forall₂.nil, List.Forall₂.nil⟩
  | @cons x y xs ys hR _ ih =>
    cases hzs with
    | @cons _ z _ zs hS hzs =>
      obtain ⟨w, hT, hU⟩ := h x y z hR hS
      obtain ⟨ws, hTs, hUs⟩ := ih hzs
      exact ⟨w :: ws, List.Forall₂.cons hT hTs, List.Forall₂.cons hU hUs⟩

end Forall₂

theorem keys_eq {κ α β : Type} {es : List (κ × α)} {fs : List (κ × β)}
    (h : List.Forall₂ (fun e f => f.1 = e.1) es fs) : es.map Prod.fst = fs.map Prod.fst := by
  induction h with
  | nil => rfl
  | cons hf _ ih => rw [List.map_cons, List.map_cons, ih, hf]

theorem forall₂_of_keys {κ α β : Type} {R : α → β → Prop} {es : List (κ × α)} {fs : List (κ × β)}
    (hkeys : es.map Prod.fst = fs.map Prod.fst) (h : List.Forall₂ (fun e f => R e.2 f.2) es fs) :
    List.Forall₂ (fun e f => f.1 = e.1 ∧ R e.2 f.2) es fs := by
  induction h with
  | nil => exact List.Forall₂.nil
  | cons he _ ih =>
    obtain ⟨hkey, hkeys⟩ := List.cons.inj hkeys
    exact List.Forall₂.cons ⟨hkey.symm, he⟩ (ih hkeys)

end LinkedData
