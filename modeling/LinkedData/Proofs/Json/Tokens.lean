import LinkedData.Proofs.Json.Encode
import LinkedData.Proofs.Json.Reader
import LinkedData.Proofs.Numeric.Notation

/-!
# Tokens read back

* `escapeMarkup_append`, `escapeMarkup_of_plain`: markup is escaped character by character;
* `readString?_escaped`: a text that is encoded and whose markup is escaped reads back, for the escapes of both kinds
  only ever stand for single characters (`readPieces?_escaped`);
* `readsAs_encodeScalar`: words and numbers read back in front of anything that does not go on with a number.
-/

namespace LinkedData.Json

open Numeric Text

/-! ### markup -/

theorem escapeMarkup_append (cs ds : List Char) : escapeMarkup (cs ++ ds) = escapeMarkup cs ++ escapeMarkup ds :=
  List.flatMap_append

theorem escapeMarkup_cons (c : Char) (cs : List Char) :
    escapeMarkup (c :: cs) = escapeMarkupChar c ++ escapeMarkup cs :=
  List.flatMap_cons

theorem escapeMarkup_of_plain {cs : List Char} (h : ∀ c ∈ cs, escapeMarkupChar c = [c]) : escapeMarkup cs = cs := by
  induction cs with
  | nil => rfl
  | cons c cs ih =>
    obtain ⟨hc, hcs⟩ := List.forall_mem_cons.mp h
    rw [escapeMarkup_cons, hc, ih hcs, List.singleton_append]

/-! ### pieces of texts -/

/-- The piece stands for the character, either as it is or by its code. -/
def Piece.IsOf (p : Piece) (c : Char) : Prop := p = .char c ∨ p = .code c.toNat

theorem textOfCode?_toNat (c : Char) : textOfCode? c.toNat = some [c] := by
  have hvalid : c.toNat.isValidChar := c.valid
  have hhalf : ¬ (firstHalf ≤ c.toNat ∧ c.toNat < firstHalf + halfCount) := by
    unfold firstHalf halfCount
    rcases hvalid with h | h <;> omega
  rw [textOfCode?, if_neg hhalf, dif_pos hvalid]
  rfl

theorem not_areHalves (c : Char) (m : Nat) : areHalves c.toNat m = false := by
  have hvalid : c.toNat.isValidChar := c.valid
  unfold areHalves
  simp only [Bool.and_eq_false_iff, decide_eq_false_iff_not]
  rcases hvalid with h | h <;> omega

/-- The codes of characters are no halves, so pieces never join. -/
theorem joinPieces?_of_chars {ps : List Piece} {cs : List Char} (h : List.Forall₂ Piece.IsOf ps cs) :
    joinPieces? ps = some cs := by
  induction h with
  | nil => rfl
  | @cons p c ps cs hp _ ih =>
    rcases hp with rfl | rfl
    · rw [joinPieces?, ih, Option.map_some]
    · unfold joinPieces?
      split
      · rw [not_areHalves, if_neg Bool.false_ne_true, textOfCode?_toNat, ih]
        rfl
      · rw [textOfCode?_toNat, ih]
        rfl

/-! ### escapes -/

section Escapes

variable (rest : List Char)

theorem readPieces?_letter {e c : Char} (hu : e ≠ 'u') (he : escaped? e = some c) :
    readPieces? ('\\' :: e :: rest) = (readPieces? rest).map (onPiece (.char c)) := by
  rw [readPieces?, if_neg (by decide), if_pos rfl, he, Option.bind_some]
  intro _ _ _ _ _ h
  exact absurd h hu

theorem readPieces?_plain {c : Char} (hquote : c ≠ '\x22') (hbackslash : c ≠ '\\') (hcontrol : ¬ c.toNat < 0x20) :
    readPieces? (c :: rest) = (readPieces? rest).map (onPiece (.char c)) := by
  rw [readPieces?.eq_def]
  simp only [if_neg hquote, if_neg hbackslash, if_neg hcontrol]

theorem hexPadded_ascii : ∀ n < 128, (hexPadded 4 n).length = 4 ∧ appendHex? 0 (hexPadded 4 n) = some n ∧
    escapeMarkup (hexPadded 4 n) = hexPadded 4 n := by
  decide +kernel

theorem readPieces?_code {n : Nat} (hn : n < 128) :
    readPieces? ('\\' :: 'u' :: hexPadded 4 n ++ rest) = (readPieces? rest).map (onPiece (.code n)) := by
  obtain ⟨hlength, hvalue, _⟩ := hexPadded_ascii n hn
  match hdigits : hexPadded 4 n, hlength with
  | [h₁, h₂, h₃, h₄], _ =>
    rw [hdigits] at hvalue
    simp only [List.cons_append, List.nil_append]
    rw [readPieces?, if_neg (by decide), if_pos rfl]
    simp only [hvalue, Option.bind_some]

/-- Whatever is written for a character reads as one piece, which stands for the character. -/
theorem readPieces?_escape (c : Char) :
    ∃ p : Piece, p.IsOf c ∧
      readPieces? (escapeMarkup (escapeChar c) ++ rest) = (readPieces? rest).map (onPiece p) := by
  unfold escapeChar
  by_cases hself : c = '\x22' ∨ c = '\\'
  · rw [if_pos hself]
    rcases hself with rfl | rfl
    · exact ⟨_, Or.inl rfl, readPieces?_letter rest (by decide) rfl⟩
    · exact ⟨_, Or.inl rfl, readPieces?_letter rest (by decide) rfl⟩
  obtain ⟨hquote, hbackslash⟩ := not_or.mp hself
  rw [if_neg hself]
  by_cases hn : c = '\n'
  · subst hn
    exact ⟨_, Or.inl rfl, readPieces?_letter rest (by decide) rfl⟩
  rw [if_neg hn]
  by_cases hr : c = '\r'
  · subst hr
    exact ⟨_, Or.inl rfl, readPieces?_letter rest (by decide) rfl⟩
  rw [if_neg hr]
  by_cases ht : c = '\t'
  · subst ht
    exact ⟨_, Or.inl rfl, readPieces?_letter rest (by decide) rfl⟩
  rw [if_neg ht]
  by_cases hb : c.toNat = 8
  · obtain rfl : c = Char.ofNat 8 := by rw [← hb, Char.ofNat_toNat]
    exact ⟨_, Or.inl rfl, readPieces?_letter rest (by decide) rfl⟩
  rw [if_neg hb]
  by_cases hf : c.toNat = 12
  · obtain rfl : c = Char.ofNat 12 := by rw [← hf, Char.ofNat_toNat]
    exact ⟨_, Or.inl rfl, readPieces?_letter rest (by decide) rfl⟩
  rw [if_neg hf]
  by_cases hcontrol : c.toNat < 0x20
  · have hascii : c.toNat < 128 := by omega
    have hplain : escapeMarkup ('\\' :: 'u' :: hexPadded 4 c.toNat) = '\\' :: 'u' :: hexPadded 4 c.toNat := by
      rw [escapeMarkup_cons, escapeMarkup_cons, (hexPadded_ascii _ hascii).2.2]
      rfl
    rw [if_pos hcontrol, hplain]
    exact ⟨_, Or.inr rfl, readPieces?_code rest hascii⟩
  rw [if_neg hcontrol, escapeMarkup_cons, escapeMarkupChar]
  by_cases hmarkup : c = '<' ∨ c = '>' ∨ c = '&'
  · have hascii : c.toNat < 128 := by rcases hmarkup with rfl | rfl | rfl <;> decide
    rw [if_pos hmarkup]
    refine ⟨_, Or.inr rfl, ?_⟩
    rw [escapeMarkup, List.flatMap_nil, List.append_nil]
    exact readPieces?_code rest hascii
  · rw [if_neg hmarkup]
    exact ⟨_, Or.inl rfl, readPieces?_plain rest hquote hbackslash hcontrol⟩

theorem readPieces?_escaped (cs : List Char) :
    ∃ ps, List.Forall₂ Piece.IsOf ps cs ∧
      readPieces? (escapeMarkup (cs.flatMap escapeChar) ++ '\x22' :: rest) = some (ps, rest) := by
  induction cs with
  | nil =>
    refine ⟨[], List.Forall₂.nil, ?_⟩
    show readPieces? ('\x22' :: rest) = some ([], rest)
    rw [readPieces?.eq_def]
    simp only [if_true]
  | cons c cs ih =>
    obtain ⟨ps, hps, hread⟩ := ih
    obtain ⟨p, hp, hstep⟩ := readPieces?_escape (escapeMarkup (cs.flatMap escapeChar) ++ '\x22' :: rest) c
    refine ⟨p :: ps, List.Forall₂.cons hp hps, ?_⟩
    rw [List.flatMap_cons, escapeMarkup_append, List.append_assoc, hstep, hread]
    rfl

theorem readString?_escaped (cs : List Char) :
    readString? (escapeMarkup (cs.flatMap escapeChar) ++ '\x22' :: rest) = some (String.ofList cs, rest) := by
  obtain ⟨ps, hps, hread⟩ := readPieces?_escaped rest cs
  simp only [readString?, hread, Option.bind_some, joinPieces?_of_chars hps, Option.map_some]

theorem escapeMarkup_jsonString (cs : List Char) :
    escapeMarkup (jsonString cs) = '\x22' :: (escapeMarkup (cs.flatMap escapeChar) ++ ['\x22']) := by
  rw [jsonString, List.cons_append, escapeMarkup_cons, escapeMarkup_append]
  rfl

end Escapes

/-! ### numbers -/

/-- What follows does not go on with a number. -/
def EndsNumber (cs : List Char) : Prop := ∀ c ∈ cs.head?, isNumberChar c = false

theorem isNumberChar_of_isDigit {c : Char} (h : c.isDigit = true) : isNumberChar c = true := by
  simp only [isNumberChar, h, Bool.true_or]

theorem readMinus_digits {cs : List Char} (hne : cs ≠ []) (hcs : ∀ c ∈ cs.head?, c.isDigit = true) (negative : Bool) :
    readMinus (if negative then '-' :: cs else cs) = (negative, cs) := by
  cases negative with
  | true => rfl
  | false =>
    cases cs with
    | nil => exact absurd rfl hne
    | cons c cs =>
      rw [if_neg Bool.false_ne_true]
      unfold readMinus
      split
      · next h =>
        obtain ⟨rfl, rfl⟩ := List.cons.inj h
        exact absurd (hcs '-' rfl) (by decide)
      · rfl

/-- The text of a number, given that of its magnitude. -/
theorem readNumber?_eq {whole tail : List Char} (hne : whole ≠ []) (hwhole : AreDigits whole)
    (hzero : 1 < whole.length → whole.head? ≠ some '0') (htail : EndsDigits tail) (negative : Bool) :
    readNumber? (if negative then '-' :: (whole ++ tail) else whole ++ tail) =
      if tail.isEmpty then some (.int (Binary64.signed negative (Nat.ofDigitChars 10 whole 0)))
      else if isNumberTail tail then
        (Binary64.read? (if negative then '-' :: (whole ++ tail) else whole ++ tail)).map .float
      else none := by
  have hminus : readMinus (if negative then '-' :: (whole ++ tail) else whole ++ tail) = (negative, whole ++ tail) := by
    refine readMinus_digits (List.append_ne_nil_of_left_ne_nil hne _) (fun c hc => ?_) negative
    cases whole with
    | nil => exact absurd rfl hne
    | cons d ds =>
      obtain rfl := Option.some.inj hc
      exact hwhole d List.mem_cons_self
  have hproper : ¬ (whole.isEmpty || (1 < whole.length && whole.head? == some '0')) = true := by
    simp only [Bool.or_eq_true, Bool.and_eq_true, List.isEmpty_iff, decide_eq_true_eq, beq_iff_eq, not_or, not_and]
    exact ⟨hne, hzero⟩
  unfold readNumber?
  rw [hminus]
  simp only [takeWhile_run hwhole htail, dropWhile_run hwhole htail, if_neg hproper]

theorem readNumber?_intText (n : Int) : readNumber? (intText n) = some (.int n) := by
  have hnil : EndsDigits [] := fun c hc => nomatch hc
  have hread := readNumber?_eq (natText_ne_nil n.natAbs) (areDigits_natText n.natAbs)
    Digits.natText_no_needless_zero hnil (decide (n < 0))
  rw [List.append_nil, ofDigitChars_natText, Digits.signed_natAbs, List.isEmpty_nil, if_pos rfl] at hread
  simpa only [intText, decide_eq_true_eq] using hread

theorem isNumberTail_of_isProper {n : Numeral} (h : n.IsProper) :
    isNumberTail (n.fractionText ++ n.exponentText) = true := by
  have hrun : ∀ ds : List Char, ds ≠ [] → AreDigits ds → isRun ds = true := by
    intro ds hne hds
    rw [isRun, List.isEmpty_eq_false_iff.mpr hne, List.all_eq_true.mpr hds]
    rfl
  have hexponent : isExponentPart n.exponentText = true := by
    unfold Numeral.exponentText
    split
    · rfl
    · next negative ds hexp =>
      obtain ⟨hne, hds⟩ := h.exponent_digits negative ds hexp
      have hsign : readSign ((if negative then '-' else '+') :: ds) = (negative, ds) := by cases negative <;> rfl
      simp only [isExponentPart, hsign, hrun ds hne hds, beq_self_eq_true, Bool.true_or, Bool.true_and]
  by_cases hnil : n.fraction = []
  · rw [Numeral.fractionText_nil hnil, List.nil_append]
    unfold Numeral.exponentText at hexponent ⊢
    split at hexponent
    · rfl
    · rw [isNumberTail, if_neg (by decide)]
      exact hexponent
  · rw [Numeral.fractionText_cons hnil, List.cons_append, isNumberTail, if_pos rfl,
      takeWhile_run h.fraction_digits n.endsDigits_exponentText,
      dropWhile_run h.fraction_digits n.endsDigits_exponentText, hrun _ hnil h.fraction_digits, hexponent]
    rfl

theorem readNumber?_floatText {x : Binary64} (h : x.isFinite = true) : readNumber? x.text = some (.float x) := by
  have hback := Binary64.read?_text h
  cases x with
  | finite negative rank =>
    obtain ⟨n, hproper, htext, _⟩ := Binary64.text_eq_chars negative rank
    have hmore := List.isEmpty_eq_false_iff.mpr hproper.more_ne_nil
    have hread := readNumber?_eq hproper.whole_ne_nil hproper.whole_digits hproper.no_needless_zero
      n.endsDigits_after_whole negative
    rw [hmore, if_neg Bool.false_ne_true, isNumberTail_of_isProper hproper, if_pos rfl] at hread
    rw [htext, Numeral.chars] at hback ⊢
    rw [hread, hback]
    rfl
  | infinity negative => cases h
  | nan => cases h

/-! ### words and numbers -/

theorem isNumberChar_intText (n : Int) : ∀ c ∈ intText n, isNumberChar c = true := by
  have hdigits : ∀ c ∈ natText n.natAbs, isNumberChar c = true :=
    fun c hc => isNumberChar_of_isDigit (areDigits_natText _ c hc)
  unfold intText
  split
  · exact List.forall_mem_cons.mpr ⟨rfl, hdigits⟩
  · exact hdigits

theorem isNumberChar_chars {n : Numeral} (h : n.IsProper) : ∀ c ∈ n.chars, isNumberChar c = true := by
  intro c hc
  rcases List.mem_append.mp hc with hc | hc
  · exact isNumberChar_of_isDigit (h.whole_digits c hc)
  rcases List.mem_append.mp hc with hc | hc
  · unfold Numeral.fractionText at hc
    split at hc
    · cases hc
    · rcases List.mem_cons.mp hc with rfl | hc
      · rfl
      · exact isNumberChar_of_isDigit (h.fraction_digits c hc)
  · unfold Numeral.exponentText at hc
    split at hc
    · cases hc
    · next negative ds hexp =>
      rcases List.mem_cons.mp hc with rfl | hc
      · rfl
      rcases List.mem_cons.mp hc with rfl | hc
      · cases negative <;> rfl
      · exact isNumberChar_of_isDigit ((h.exponent_digits negative ds hexp).2 c hc)

theorem isNumberChar_floatText {x : Binary64} (h : x.isFinite = true) : ∀ c ∈ x.text, isNumberChar c = true := by
  cases x with
  | finite negative rank =>
    obtain ⟨n, hproper, htext, _⟩ := Binary64.text_eq_chars negative rank
    rw [htext]
    cases negative with
    | true => exact List.forall_mem_cons.mpr ⟨rfl, isNumberChar_chars hproper⟩
    | false => exact isNumberChar_chars hproper
  | infinity negative => cases h
  | nan => cases h

/-- The text begins neither with a blank nor with a bracket or quote. -/
def BeginsLeaf (cs : List Char) : Prop :=
  ∃ c rest, cs = c :: rest ∧ isSpace c = false ∧ c ≠ '\x7b' ∧ c ≠ '[' ∧ c ≠ '\x22' ∧ c ≠ ']'

/-- The scalar is read from its text in front of anything that does not go on with a number. -/
def ReadsAs (cs : List Char) (s : Scalar) : Prop :=
  BeginsLeaf cs ∧ escapeMarkup cs = cs ∧ ∀ rest, EndsNumber rest → readLeaf? (cs ++ rest) = some (s, rest)

theorem readsAs_number {cs : List Char} {s : Scalar} (hread : readNumber? cs = some s)
    (hcs : ∀ c ∈ cs, isNumberChar c = true) : ReadsAs cs s := by
  have hmarkup : ∀ c, isNumberChar c = true → escapeMarkupChar c = [c] := by
    intro c hc
    refine if_neg ?_
    rintro (rfl | rfl | rfl) <;> exact absurd hc (by decide)
  cases cs with
  | nil => cases hread
  | cons c cs =>
    have hne : ∀ d, isNumberChar d = false → c ≠ d := by
      rintro d hd rfl
      rw [hcs c List.mem_cons_self] at hd
      cases hd
    have hspace : isSpace c = false := by
      simp only [isSpace, Bool.or_eq_false_iff, beq_eq_false_iff_ne]
      exact ⟨⟨⟨hne ' ' rfl, hne '\t' rfl⟩, hne '\n' rfl⟩, hne '\r' rfl⟩
    refine ⟨⟨c, cs, rfl, hspace, hne _ rfl, hne _ rfl, hne _ rfl, hne _ rfl⟩,
      escapeMarkup_of_plain fun d hd => hmarkup d (hcs d hd), fun rest hrest => ?_⟩
    have hword : ∀ (d : Char) (word : List Char), isNumberChar d = false →
        (d :: word).isPrefixOf (c :: cs ++ rest) = false := by
      intro d word hd
      simp only [List.cons_append, List.isPrefixOf_cons_cons, beq_eq_false_iff_ne.mpr (hne d hd).symm, Bool.false_and]
    have hnull : "null".toList.isPrefixOf (c :: cs ++ rest) = false := hword 'n' _ rfl
    have htrue : "true".toList.isPrefixOf (c :: cs ++ rest) = false := hword 't' _ rfl
    have hfalse : "false".toList.isPrefixOf (c :: cs ++ rest) = false := hword 'f' _ rfl
    rw [readLeaf?, hnull, htrue, hfalse, if_neg Bool.false_ne_true, if_neg Bool.false_ne_true,
      if_neg Bool.false_ne_true, takeWhile_run hcs hrest, dropWhile_run hcs hrest, hread, Option.map_some]

theorem readsAs_encodeScalar {s : Scalar} {cs : List Char} (hs : s.isJson = true) (hstr : ∀ text, s ≠ .str text)
    (h : encodeScalar s = .ok cs) : ReadsAs cs s := by
  cases s with
  | null =>
    obtain rfl := Except.ok.inj h
    exact ⟨⟨'n', _, rfl, rfl, by decide, by decide, by decide, by decide⟩, by decide, fun rest _ => rfl⟩
  | bool b =>
    obtain rfl := Except.ok.inj h
    cases b with
    | true => exact ⟨⟨'t', _, rfl, rfl, by decide, by decide, by decide, by decide⟩, by decide, fun rest _ => rfl⟩
    | false => exact ⟨⟨'f', _, rfl, rfl, by decide, by decide, by decide, by decide⟩, by decide, fun rest _ => rfl⟩
  | int n =>
    rw [encodeScalar, encodeInt] at h
    split at h
    · obtain rfl := Except.ok.inj h
      exact readsAs_number (readNumber?_intText n) (isNumberChar_intText n)
    · cases h
  | float x =>
    have hx : x.isFinite = true := hs
    rw [encodeScalar, encodeFloat, if_pos hx] at h
    obtain rfl := Except.ok.inj h
    exact readsAs_number (readNumber?_floatText hx) (isNumberChar_floatText hx)
  | str text => exact absurd rfl (hstr text)
  | bytes _ | date _ | datetime _ | time _ | decimal _ => cases hs

end LinkedData.Json
