import LinkedData.Proofs.Json.Tokens
import LinkedData.Proofs.Outcome
import LinkedData.Proofs.Text.Ascii
import LinkedData.Wrapping

/-!
# Texts that are inert in markup

* `Json.NoControls`: a text without control characters, which is what every value is encoded as
  (`Json.encode_noControls`), for all its texts and keys are written character by character;
* `Json.IsInert`: a text that also has no character that markup gives a meaning to;
* `isInert_render`: the text of linked data is inert, whatever the tree holds.
-/

namespace LinkedData

namespace Json

open Numeric Text

/-! ### control characters -/

/-- No character of the text is a control character. -/
def NoControls (cs : List Char) : Prop := ∀ c ∈ cs, 0x20 ≤ c.toNat

instance (cs : List Char) : Decidable (NoControls cs) := List.decidableBAll _ cs

section NoControls

variable {c : Char} {cs ds : List Char}

theorem NoControls.cons (hc : 0x20 ≤ c.toNat) (hcs : NoControls cs) : NoControls (c :: cs) :=
  List.forall_mem_cons.mpr ⟨hc, hcs⟩

theorem NoControls.append (hcs : NoControls cs) (hds : NoControls ds) : NoControls (cs ++ ds) :=
  List.forall_mem_append.mpr ⟨hcs, hds⟩

theorem NoControls.flatMap {f : Char → List Char} (h : ∀ c ∈ cs, NoControls (f c)) : NoControls (cs.flatMap f) := by
  intro d hd
  obtain ⟨c, hc, hd⟩ := List.mem_flatMap.mp hd
  exact h c hc d hd

theorem NoControls.intercalate {parts : List (List Char)} (h : ∀ part ∈ parts, NoControls part) :
    NoControls ([','].intercalate parts) := by
  induction parts with
  | nil => exact List.forall_mem_nil _
  | cons part more ih =>
    obtain ⟨hpart, hmore⟩ := List.forall_mem_cons.mp h
    cases more with
    | nil => rwa [List.intercalate_singleton]
    | cons next more =>
      rw [List.intercalate_cons_cons]
      exact (hpart.append (by decide)).append (ih hmore)

end NoControls

/-! ### encoded texts -/

theorem noControls_hexPadded : ∀ n < 0x20, NoControls (hexPadded 4 n) := by
  decide +kernel

/-- What is written for a character has no control character, though the character may be one. -/
theorem noControls_escapeChar (c : Char) : NoControls (escapeChar c) := by
  unfold escapeChar
  by_cases hself : c = '\x22' ∨ c = '\\'
  · rw [if_pos hself]
    rcases hself with rfl | rfl <;> decide
  rw [if_neg hself]
  by_cases hn : c = '\n'
  · rw [if_pos hn]
    decide
  rw [if_neg hn]
  by_cases hr : c = '\r'
  · rw [if_pos hr]
    decide
  rw [if_neg hr]
  by_cases ht : c = '\t'
  · rw [if_pos ht]
    decide
  rw [if_neg ht]
  by_cases hb : c.toNat = 8
  · rw [if_pos hb]
    decide
  rw [if_neg hb]
  by_cases hf : c.toNat = 12
  · rw [if_pos hf]
    decide
  rw [if_neg hf]
  by_cases hcontrol : c.toNat < 0x20
  · rw [if_pos hcontrol]
    exact (noControls_hexPadded _ hcontrol).cons (by decide) |>.cons (by decide)
  · rw [if_neg hcontrol]
    exact List.forall_mem_singleton.mpr (by omega)

theorem noControls_jsonString (cs : List Char) : NoControls (jsonString cs) :=
  ((NoControls.flatMap fun c _ => noControls_escapeChar c).cons (by decide)).append (by decide)

/-! ### encoded values -/

theorem noControls_of_isNumberChar {cs : List Char} (h : ∀ c ∈ cs, isNumberChar c = true) : NoControls cs := by
  intro c hc
  by_contra hcontrol
  have hnone : isNumberChar c = false :=
    forall_char_lt (P := fun c => isNumberChar c = false) (by decide : ∀ n < 0x20, _) (Nat.not_le.mp hcontrol)
  rw [h c hc] at hnone
  cases hnone

theorem encodeScalar_noControls {s : Scalar} {cs : List Char} (h : encodeScalar s = .ok cs) : NoControls cs := by
  cases s with
  | null =>
    obtain rfl := Except.ok.inj h
    decide
  | bool b =>
    obtain rfl := Except.ok.inj h
    cases b <;> decide
  | int n =>
    rw [encodeScalar, encodeInt] at h
    split at h
    · obtain rfl := Except.ok.inj h
      exact noControls_of_isNumberChar (isNumberChar_intText n)
    · cases h
  | float x =>
    rw [encodeScalar, encodeFloat] at h
    split at h
    · next hx =>
      obtain rfl := Except.ok.inj h
      exact noControls_of_isNumberChar (isNumberChar_floatText hx)
    · cases h
  | str text =>
    obtain rfl := Except.ok.inj h
    exact noControls_jsonString text.toList
  | bytes _ | date _ | datetime _ | time _ | decimal _ => cases h

theorem encodeL_noControls {vs : List Value} (hvs : ∀ v ∈ vs, ∀ cs, encode v = .ok cs → NoControls cs) :
    ∀ parts, encodeL vs = .ok parts → ∀ part ∈ parts, NoControls part := by
  induction vs with
  | nil =>
    intro parts h
    obtain rfl := Except.ok.inj h
    exact List.forall_mem_nil _
  | cons v vs ih =>
    intro parts h
    obtain ⟨hv, hmore⟩ := List.forall_mem_cons.mp hvs
    simp only [encodeL, bind_eq_ok] at h
    obtain ⟨part, hpart, more, hrest, h⟩ := h
    obtain rfl := Except.ok.inj h
    exact List.forall_mem_cons.mpr ⟨hv part hpart, ih hmore more hrest⟩

/-- The name of a member is written like a text, whatever its key was. -/
theorem encodeE_noControls {es : Entries} (hes : ∀ e ∈ es, ∀ cs, encode e.2 = .ok cs → NoControls cs) :
    ∀ parts, encodeE es = .ok parts → ∀ part ∈ parts, NoControls part := by
  induction es with
  | nil =>
    intro parts h
    obtain rfl := Except.ok.inj h
    exact List.forall_mem_nil _
  | cons e es ih =>
    intro parts h
    obtain ⟨k, v⟩ := e
    obtain ⟨hv, hmore⟩ := List.forall_mem_cons.mp hes
    simp only [encodeE, bind_eq_ok] at h
    obtain ⟨name, _, part, hpart, more, hrest, h⟩ := h
    obtain rfl := Except.ok.inj h
    have hmember : NoControls (jsonString name ++ ':' :: part) :=
      (noControls_jsonString name).append ((hv part hpart).cons (by decide))
    exact List.forall_mem_cons.mpr ⟨hmember, ih hmore more hrest⟩

theorem noControls_brackets {first last : Char} (hfirst : 0x20 ≤ first.toNat) (hlast : 0x20 ≤ last.toNat)
    {parts : List (List Char)} (h : ∀ part ∈ parts, NoControls part) :
    NoControls (first :: [','].intercalate parts ++ [last]) :=
  ((NoControls.intercalate h).cons hfirst).append (List.forall_mem_singleton.mpr hlast)

theorem encode_noControls (v : Value) : ∀ cs, encode v = .ok cs → NoControls cs := by
  induction v using Value.induct with
  | scalar s => exact fun cs h => encodeScalar_noControls h
  | set members => exact fun cs h => nomatch h
  | list items ih | tuple items ih =>
    intro cs h
    simp only [encode, bind_eq_ok] at h
    obtain ⟨parts, hparts, h⟩ := h
    obtain rfl := Except.ok.inj h
    exact noControls_brackets (by decide) (by decide) (encodeL_noControls ih parts hparts)
  | map entries ih =>
    intro cs h
    simp only [encode, bind_eq_ok] at h
    obtain ⟨parts, hparts, h⟩ := h
    obtain rfl := Except.ok.inj h
    exact noControls_brackets (by decide) (by decide) (encodeE_noControls ih parts hparts)

/-! ### markup -/

/-- The text has no character that markup gives a meaning to, and no control character. -/
def IsInert (cs : List Char) : Prop := ∀ c ∈ cs, c ≠ '<' ∧ c ≠ '>' ∧ c ≠ '&' ∧ 0x20 ≤ c.toNat

instance (cs : List Char) : Decidable (IsInert cs) := List.decidableBAll _ cs

theorem IsInert.no_tag {cs : List Char} (h : IsInert cs) : '<' ∉ cs := fun hmem => (h _ hmem).1 rfl

theorem isInert_escapeMarkupChar {c : Char} (hc : 0x20 ≤ c.toNat) : IsInert (escapeMarkupChar c) := by
  unfold escapeMarkupChar
  split
  · next hmarkup => rcases hmarkup with rfl | rfl | rfl <;> decide
  · next hplain =>
    simp only [not_or] at hplain
    exact List.forall_mem_singleton.mpr ⟨hplain.1, hplain.2.1, hplain.2.2, hc⟩

theorem isInert_escapeMarkup {cs : List Char} (hcs : NoControls cs) : IsInert (escapeMarkup cs) := by
  intro d hd
  obtain ⟨c, hc, hd⟩ := List.mem_flatMap.mp hd
  exact isInert_escapeMarkupChar (hcs c hc) d hd

theorem isInert_serialize {v : Value} {text : String} (h : serialize v = .ok text) : IsInert text.toList := by
  obtain ⟨cs, hcs, rfl⟩ := map_eq_ok.mp h
  rw [String.toList_ofList]
  exact isInert_escapeMarkup (encode_noControls v cs hcs)

end Json

theorem isInert_render {context : String} {tree : Value} {text : String} (h : render context tree = .ok text) :
    Json.IsInert text.toList := by
  obtain ⟨wrapped, _, hserialize⟩ := bind_eq_ok.mp h
  exact Json.isInert_serialize hserialize

end LinkedData
