import LinkedData.Proofs.Json.Tokens
import LinkedData.Proofs.Outcome
import LinkedData.Proofs.Text.Ascii
import LinkedData.Proofs.Text.Separable

/-!
# What keeps a value from being encoded

* `Value.obstacles`: what keeps a value itself, and not what it holds, from being encoded;
* `Value.texts`: the texts that stand in the value itself, keys included;
* `Json.encode_failsBy`: encoding fails for an obstacle of a part, and succeeds if no part has one;
* `Json.separable_encode_iff`: what the encoded text holds besides plain characters stands in the texts of the value.
-/

namespace LinkedData

open Numeric Text

/-! ### obstacles -/

/-- What keeps a scalar from being encoded. -/
def Scalar.obstacle? : Scalar → Option Failure
  | .null | .bool _ | .str _ => none
  | .int n => if LinkedData.isWritable n then none else some .overlongInteger
  | .float x => if x.isFinite then none else some .numberNotFinite
  | .bytes _ | .date _ | .datetime _ | .time _ | .decimal _ => some .notEncodable

theorem Scalar.obstacle?_eq_some {s : Scalar} {e : Failure} (h : s.obstacle? = some e) :
    e = .overlongInteger ∨ e = .numberNotFinite ∨ e = .notEncodable := by
  cases s with
  | null | bool _ | str _ => cases h
  | int n =>
    rw [obstacle?, Option.ite_none_left_eq_some] at h
    exact Or.inl (Option.some.inj h.2).symm
  | float x =>
    rw [obstacle?, Option.ite_none_left_eq_some] at h
    exact Or.inr (Or.inl (Option.some.inj h.2).symm)
  | bytes _ | date _ | datetime _ | time _ | decimal _ => exact Or.inr (Or.inr (Option.some.inj h).symm)

/-- What keeps a key from being encoded. -/
def Key.obstacle? : Key → Option Failure
  | .scalar s => s.obstacle?
  | .tuple _ => some .notEncodable

/-- The text that a key is, if it is one. -/
def Key.text? : Key → Option String
  | .str s => some s
  | _ => none

namespace Value

/-- What keeps the value itself from being encoded. -/
def obstacles : Value → List Failure
  | .scalar s => s.obstacle?.toList
  | .set _ => [.notEncodable]
  | .map es => es.filterMap (·.1.obstacle?)
  | .list _ | .tuple _ => []

/-- The texts that stand in the value itself. -/
def texts : Value → List String
  | .str s => [s]
  | .map es => es.filterMap (·.1.text?)
  | _ => []

/-- There are three obstacles. -/
theorem mem_obstacles {v : Value} {e : Failure} (h : e ∈ v.obstacles) :
    e = .overlongInteger ∨ e = .numberNotFinite ∨ e = .notEncodable := by
  cases v with
  | scalar s => exact Scalar.obstacle?_eq_some (Option.mem_toList.mp h)
  | set members => exact Or.inr (Or.inr (List.mem_singleton.mp h))
  | list _ | tuple _ => cases h
  | map es =>
    obtain ⟨⟨k, v⟩, _, hk⟩ := List.mem_filterMap.mp h
    cases k with
    | scalar s => exact Scalar.obstacle?_eq_some hk
    | tuple ks => exact Or.inr (Or.inr (Option.some.inj hk).symm)

/-- The texts of a mapping are those of its keys and those of its values. -/
theorem forall_texts_map {es : Entries} {Q : String → Prop} :
    (∀ x ∈ (map es).parts, ∀ s ∈ x.texts, Q s) ↔
      ∀ e ∈ es, (∀ s ∈ e.1.text?, Q s) ∧ ∀ x ∈ e.2.parts, ∀ s ∈ x.texts, Q s := by
  rw [forall_parts_map, texts]
  simp only [List.mem_filterMap, forall_exists_index, and_imp]
  constructor
  · exact fun h e he => ⟨fun s hs => h.1 s e he hs, h.2 e he⟩
  · exact fun h => ⟨fun s e he hs => (h e he).1 s hs, fun e he => (h e he).2⟩

end Value

namespace Json

/-! ### reasons -/

theorem encodeScalar_failsBy (s : Scalar) : FailsBy (fun e => e ∈ s.obstacle?.toList) (encodeScalar s) := by
  cases s with
  | null | bool _ | str _ => exact FailsBy.ok _ fun e => List.not_mem_nil
  | int n =>
    rw [encodeScalar, encodeInt, Scalar.obstacle?]
    split
    · exact FailsBy.ok _ fun e => List.not_mem_nil
    · exact FailsBy.error _ List.mem_cons_self
  | float x =>
    rw [encodeScalar, encodeFloat, Scalar.obstacle?]
    split
    · exact FailsBy.ok _ fun e => List.not_mem_nil
    · exact FailsBy.error _ List.mem_cons_self
  | bytes _ | date _ | datetime _ | time _ | decimal _ => exact FailsBy.error _ List.mem_cons_self

/-- A key that is no text is encoded as the scalar that it is. -/
theorem keyText_scalar {s : Scalar} (h : (Key.scalar s).text? = none) : keyText (.scalar s) = encodeScalar s := by
  cases s with
  | str text => cases h
  | null | bool _ | int _ | float _ => rw [keyText, encodeScalar]
  | bytes _ | date _ | datetime _ | time _ | decimal _ => rfl

theorem keyText_failsBy (k : Key) : FailsBy (fun e => k.obstacle? = some e) (keyText k) := by
  cases k with
  | tuple ks => exact FailsBy.error _ rfl
  | scalar s =>
    cases htext : (Key.scalar s).text? with
    | none =>
      rw [keyText_scalar htext]
      exact (encodeScalar_failsBy s).congr fun e => Option.mem_toList.trans Option.mem_def
    | some text =>
      cases s with
      | str s => exact FailsBy.ok _ fun e he => nomatch he
      | null | bool _ | int _ | float _ | bytes _ | date _ | datetime _ | time _ | decimal _ => cases htext

theorem encodeL_failsBy {vs : List Value} {P : Value → Failure → Prop} (h : ∀ v ∈ vs, FailsBy (P v) (encode v)) :
    FailsBy (fun e => ∃ v ∈ vs, P v e) (encodeL vs) := by
  induction vs with
  | nil => exact FailsBy.ok _ fun e ⟨_, hv, _⟩ => List.not_mem_nil hv
  | cons v vs ih =>
    obtain ⟨hv, hvs⟩ := List.forall_mem_cons.mp h
    refine (hv.bind fun part => (ih hvs).map (part :: ·)).congr fun e => ?_
    simp only [List.mem_cons, exists_eq_or_imp]

theorem encodeE_failsBy {es : Entries} {P : Value → Failure → Prop} (h : ∀ f ∈ es, FailsBy (P f.2) (encode f.2)) :
    FailsBy (fun e => ∃ f ∈ es, f.1.obstacle? = some e ∨ P f.2 e) (encodeE es) := by
  induction es with
  | nil => exact FailsBy.ok _ fun e ⟨_, hf, _⟩ => List.not_mem_nil hf
  | cons f es ih =>
    obtain ⟨k, v⟩ := f
    obtain ⟨hv, hes⟩ := List.forall_mem_cons.mp h
    have hstep := (keyText_failsBy k).bind fun name =>
      hv.bind fun part => (ih hes).map fun parts => (jsonString name ++ ':' :: part) :: parts
    refine hstep.congr fun e => ?_
    simp only [List.mem_cons, exists_eq_or_imp, or_assoc]

/-- **Encoding fails for an obstacle of a part**, and it succeeds if no part has one. -/
theorem encode_failsBy (v : Value) : FailsBy (fun e => ∃ x ∈ v.parts, e ∈ x.obstacles) (encode v) := by
  induction v using Value.induct with
  | scalar s =>
    refine (encodeScalar_failsBy s).congr fun e => ?_
    simp only [Value.mem_parts_scalar, exists_eq_left, Value.obstacles]
  | set members =>
    exact FailsBy.error _ ⟨_, Value.mem_parts_self _, List.mem_cons_self⟩
  | list items ih | tuple items ih =>
    have hitems := encodeL_failsBy (P := fun v e => ∃ x ∈ v.parts, e ∈ x.obstacles) ih
    refine (hitems.map fun parts => '[' :: List.intercalate [','] parts ++ [']']).congr fun e => ?_
    constructor
    · rintro ⟨v, hv, x, hx, he⟩
      exact ⟨x, by simp only [Value.mem_parts_list, Value.mem_parts_tuple]; exact Or.inr ⟨v, hv, hx⟩, he⟩
    · rintro ⟨x, hx, he⟩
      simp only [Value.mem_parts_list, Value.mem_parts_tuple] at hx
      rcases hx with rfl | ⟨v, hv, hx⟩
      · exact absurd he List.not_mem_nil
      · exact ⟨v, hv, x, hx, he⟩
  | map es ih =>
    have hentries := encodeE_failsBy (P := fun v e => ∃ x ∈ v.parts, e ∈ x.obstacles) ih
    refine (hentries.map fun parts => '\x7b' :: List.intercalate [','] parts ++ ['\x7d']).congr fun e => ?_
    constructor
    · rintro ⟨f, hf, hk | ⟨x, hx, he⟩⟩
      · exact ⟨_, Value.mem_parts_self _, List.mem_filterMap.mpr ⟨f, hf, hk⟩⟩
      · exact ⟨x, Value.mem_parts_map.mpr (Or.inr ⟨f, hf, hx⟩), he⟩
    · rintro ⟨x, hx, he⟩
      rcases Value.mem_parts_map.mp hx with rfl | ⟨f, hf, hx⟩
      · obtain ⟨f, hf, hk⟩ := List.mem_filterMap.mp he
        exact ⟨f, hf, Or.inl hk⟩
      · exact ⟨f, hf, Or.inr ⟨x, hx, he⟩⟩

theorem serialize_failsBy (v : Value) : FailsBy (fun e => ∃ x ∈ v.parts, e ∈ x.obstacles) (serialize v) :=
  (encode_failsBy v).map _

/-! ### texts -/

theorem isPlain_of_isNumberChar {c : Char} (h : isNumberChar c = true) : IsPlain c := by
  by_contra hplain
  have hne : ∀ d : Char, IsPlain d → (c == d) = false := by
    rintro d hd
    exact beq_eq_false_iff_ne.mpr fun hcd => hplain (hcd ▸ hd)
  have hdigit : c.isDigit = false := by
    refine Bool.eq_false_iff.mpr fun hdigit => ?_
    rw [Char.isDigit_iff_toNat] at hdigit
    have hnine : '9'.toNat = 57 := rfl
    unfold IsPlain at hplain
    omega
  simp only [isNumberChar, hdigit, hne '-' (by decide), hne '+' (by decide), hne '.' (by decide),
    hne 'e' (by decide), hne 'E' (by decide), Bool.or_self, Bool.false_eq_true] at h

/-- Only plain characters are written in another way, and by plain characters. -/
theorem isEscape_of_same {f : Char → List Char} (hsame : ∀ c, ¬ IsPlain c → f c = [c])
    (hplain : ∀ n < 128, f (Char.ofNat n) ≠ [] ∧ (f (Char.ofNat n)).all (IsPlain ·) = true) : IsEscape f := by
  intro c
  by_cases hc : IsPlain c
  · obtain ⟨hne, hall⟩ := forall_char_lt (P := fun c => f c ≠ [] ∧ (f c).all (IsPlain ·) = true) hplain hc
    exact Or.inr ⟨hc, hne, plain_of_all hall⟩
  · exact Or.inl (hsame c hc)

theorem isEscape_escapeChar : IsEscape escapeChar := by
  refine isEscape_of_same (fun c hc => ?_) (by decide +kernel)
  have hne : ∀ d : Char, IsPlain d → c ≠ d := by
    rintro d hd rfl
    exact hc hd
  unfold IsPlain at hc
  rw [escapeChar, if_neg (by simp [hne '\x22' (by decide), hne '\\' (by decide)]), if_neg (hne '\n' (by decide)),
    if_neg (hne '\r' (by decide)), if_neg (hne '\t' (by decide)), if_neg (by omega), if_neg (by omega),
    if_neg (by omega)]

theorem isEscape_escapeMarkupChar : IsEscape escapeMarkupChar := by
  refine isEscape_of_same (fun c hc => ?_) (by decide +kernel)
  have hne : ∀ d : Char, IsPlain d → c ≠ d := by
    rintro d hd rfl
    exact hc hd
  rw [escapeMarkupChar,
    if_neg (by simp [hne '<' (by decide), hne '>' (by decide), hne '&' (by decide)])]

section Separable

variable {F : List Char → Prop} (hF : Separable F)
include hF

theorem separable_jsonString_iff (cs : List Char) : F (jsonString cs) ↔ F cs := by
  rw [jsonString, hF.enclosed_iff (by decide) (by decide), hF.flatMap_iff isEscape_escapeChar]

theorem separable_encodeScalar {s : Scalar} {cs : List Char} (h : encodeScalar s = .ok cs) :
    F cs ↔ ∀ text ∈ (Value.scalar s).texts, F text.toList := by
  cases s with
  | str text =>
    obtain rfl := Except.ok.inj h
    rw [separable_jsonString_iff hF, Value.texts, List.forall_mem_singleton]
  | null =>
    obtain rfl := Except.ok.inj h
    exact iff_of_true (hF.of_plain (plain_of_all (by decide))) (List.forall_mem_nil _)
  | bool b =>
    obtain rfl := Except.ok.inj h
    refine iff_of_true (hF.of_plain (plain_of_all ?_)) (List.forall_mem_nil _)
    cases b <;> decide
  | int n =>
    rw [encodeScalar, encodeInt] at h
    split at h
    · obtain rfl := Except.ok.inj h
      refine iff_of_true (hF.of_plain fun c hc => ?_) (List.forall_mem_nil _)
      exact isPlain_of_isNumberChar (isNumberChar_intText n c hc)
    · cases h
  | float x =>
    rw [encodeScalar, encodeFloat] at h
    split at h
    · next hx =>
      obtain rfl := Except.ok.inj h
      refine iff_of_true (hF.of_plain fun c hc => ?_) (List.forall_mem_nil _)
      exact isPlain_of_isNumberChar (isNumberChar_floatText hx c hc)
    · cases h
  | bytes _ | date _ | datetime _ | time _ | decimal _ => cases h

theorem separable_keyText {k : Key} {cs : List Char} (h : keyText k = .ok cs) :
    F cs ↔ ∀ text ∈ k.text?, F text.toList := by
  cases k with
  | tuple ks => cases h
  | scalar s =>
    cases s with
    | str text =>
      obtain rfl := Except.ok.inj h
      simp only [Key.text?, Option.mem_some_iff, forall_eq']
    | null | bool _ | int _ | float _ | bytes _ | date _ | datetime _ | time _ | decimal _ =>
      rw [keyText_scalar rfl] at h
      have hscalar := (separable_encodeScalar hF h).mpr (List.forall_mem_nil _)
      exact iff_of_true hscalar fun text htext => nomatch htext

omit hF in
theorem separable_encodeL {vs : List Value} {P : Value → Prop}
    (hvs : ∀ v ∈ vs, ∀ cs, encode v = .ok cs → (F cs ↔ P v)) :
    ∀ parts, encodeL vs = .ok parts → ((∀ part ∈ parts, F part) ↔ ∀ v ∈ vs, P v) := by
  induction vs with
  | nil =>
    intro parts h
    obtain rfl := Except.ok.inj h
    exact iff_of_true (List.forall_mem_nil _) (List.forall_mem_nil _)
  | cons v vs ih =>
    intro parts h
    obtain ⟨hv, hmore⟩ := List.forall_mem_cons.mp hvs
    simp only [encodeL, bind_eq_ok] at h
    obtain ⟨part, hpart, more, hrest, h⟩ := h
    obtain rfl := Except.ok.inj h
    rw [List.forall_mem_cons, List.forall_mem_cons, hv part hpart, ih hmore more hrest]

theorem separable_encodeE {es : Entries} {P : Value → Prop}
    (hes : ∀ f ∈ es, ∀ cs, encode f.2 = .ok cs → (F cs ↔ P f.2)) :
    ∀ parts, encodeE es = .ok parts →
      ((∀ part ∈ parts, F part) ↔ ∀ f ∈ es, (∀ text ∈ f.1.text?, F text.toList) ∧ P f.2) := by
  induction es with
  | nil =>
    intro parts h
    obtain rfl := Except.ok.inj h
    exact iff_of_true (List.forall_mem_nil _) (List.forall_mem_nil _)
  | cons f es ih =>
    intro parts h
    obtain ⟨k, v⟩ := f
    obtain ⟨hv, hmore⟩ := List.forall_mem_cons.mp hes
    simp only [encodeE, bind_eq_ok] at h
    obtain ⟨name, hname, part, hpart, more, hrest, h⟩ := h
    obtain rfl := Except.ok.inj h
    rw [List.forall_mem_cons, List.forall_mem_cons, ih hmore more hrest, hF.split (by decide),
      separable_jsonString_iff hF, separable_keyText hF hname, hv part hpart]

/-- **What an encoded value holds stands in its texts**, but for plain characters. -/
theorem separable_encode_iff (v : Value) :
    ∀ cs, encode v = .ok cs → (F cs ↔ ∀ x ∈ v.parts, ∀ text ∈ x.texts, F text.toList) := by
  induction v using Value.induct with
  | scalar s =>
    intro cs h
    rw [Value.forall_parts_scalar]
    exact separable_encodeScalar hF h
  | set members => exact fun cs h => nomatch h
  | list items ih =>
    intro cs h
    simp only [encode, bind_eq_ok] at h
    obtain ⟨parts, hparts, h⟩ := h
    obtain rfl := Except.ok.inj h
    rw [hF.enclosed_iff (by decide) (by decide), hF.intercalate_iff (by decide),
      separable_encodeL ih parts hparts, Value.forall_parts_list]
    exact (and_iff_right (List.forall_mem_nil _)).symm
  | tuple items ih =>
    intro cs h
    simp only [encode, bind_eq_ok] at h
    obtain ⟨parts, hparts, h⟩ := h
    obtain rfl := Except.ok.inj h
    rw [hF.enclosed_iff (by decide) (by decide), hF.intercalate_iff (by decide),
      separable_encodeL ih parts hparts, Value.forall_parts_tuple]
    exact (and_iff_right (List.forall_mem_nil _)).symm
  | map es ih =>
    intro cs h
    simp only [encode, bind_eq_ok] at h
    obtain ⟨parts, hparts, h⟩ := h
    obtain rfl := Except.ok.inj h
    rw [hF.enclosed_iff (by decide) (by decide), hF.intercalate_iff (by decide),
      separable_encodeE hF (P := fun v => ∀ x ∈ v.parts, ∀ text ∈ x.texts, F text.toList) ih parts hparts,
      Value.forall_texts_map]

theorem separable_serialize_iff {v : Value} {text : String} (h : serialize v = .ok text) :
    F text.toList ↔ ∀ x ∈ v.parts, ∀ s ∈ x.texts, F s.toList := by
  obtain ⟨cs, hcs, rfl⟩ := map_eq_ok.mp h
  rw [String.toList_ofList, escapeMarkup, hF.flatMap_iff isEscape_escapeMarkupChar]
  exact separable_encode_iff hF v cs hcs

end Separable

end Json

end LinkedData
