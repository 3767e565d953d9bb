import LinkedData.Proofs.Json.Image
import LinkedData.Proofs.Json.Tokens
import LinkedData.Proofs.Wrapping

/-!
# Encoded values read back

* `Json.ReadsBackAs`: what is written for a value reads back as another one, in front of anything that does not go on
  with a number and with fuel for every character; all that is written reads back as JSON holds it
  (`Json.readsBackAs_asJson`);
* `Value.withLists`: a value with lists in place of its tuples; `Json.RoundTrips`: a value reads back as that, as all
  values do that can be encoded (`Json.roundTrips`);
* `Json.serialize_reads`: the text of a value is read as that value;
* `linkedData_reads_back`: the same of values with a context.
-/

namespace LinkedData

/-! ### tuples -/

namespace Value

mutual
/-- The value with its tuples as lists. -/
def withLists : Value → Value
  | .scalar s => .scalar s
  | .set members => .set members
  | .list items => .list (withListsL items)
  | .tuple items => .list (withListsL items)
  | .map entries => .map (withListsE entries)
def withListsL : List Value → List Value
  | [] => []
  | v :: vs => v.withLists :: withListsL vs
def withListsE : List (Key × Value) → List (Key × Value)
  | [] => []
  | (k, v) :: es => (k, v.withLists) :: withListsE es
end

theorem withListsL_eq (vs : List Value) : withListsL vs = vs.map withLists := by
  induction vs with
  | nil => rfl
  | cons v vs ih => rw [withListsL, ih, List.map_cons]

theorem withListsE_eq (es : Entries) : withListsE es = es.map fun e => (e.1, e.2.withLists) := by
  induction es with
  | nil => rfl
  | cons e es ih => rw [withListsE, ih, List.map_cons]

theorem asJsonE_of_isText {es : Entries} (hkeys : ∀ e ∈ es, e.1.isText = true)
    (h : ∀ e ∈ es, e.2.asJson = e.2.withLists) : asJsonE es = withListsE es := by
  rw [asJsonE_eq, withListsE_eq]
  refine List.map_congr_left fun e he => ?_
  obtain ⟨name, hname⟩ := Key.isText_iff.mp (hkeys e he)
  rw [h e he, hname, Key.jsonName_str]

/-- Where keys are distinct texts, JSON holds all but the tuples as it is. -/
theorem asJson_of_isEncodable {v : Value} (h : v.IsEncodable) : v.asJson = v.withLists := by
  induction v using Value.induct with
  | scalar s => rfl
  | set members => rfl
  | list items ih =>
    obtain ⟨_, hitems⟩ := forall_parts_list.mp h
    rw [asJson, withLists, asJsonL_eq, withListsL_eq, List.map_congr_left fun v hv => ih v hv (hitems v hv)]
  | tuple items ih =>
    obtain ⟨_, hitems⟩ := forall_parts_tuple.mp h
    rw [asJson, withLists, asJsonL_eq, withListsL_eq, List.map_congr_left fun v hv => ih v hv (hitems v hv)]
  | map es ih =>
    obtain ⟨⟨hdistinct, hkeys⟩, hes⟩ := forall_parts_map.mp h
    have hsame : asJsonE es = withListsE es := asJsonE_of_isText hkeys fun e he => ih e he (hes e he)
    have hkeep : (withListsE es).map Prod.fst = es.map Prod.fst := by
      rw [withListsE_eq, List.map_map]
      rfl
    rw [asJson, withLists, hsame, Entries.ofList_of_distinct ((Entries.distinct_congr hkeep).mpr hdistinct)]

end Value

namespace Json

/-! ### tokens -/

section Tokens

variable {c d : Char} (rest : List Char)

theorem dropSpace_cons (hd : isSpace d = false) : (d :: rest).dropWhile isSpace = d :: rest := by
  rw [List.dropWhile_cons_of_neg (Bool.eq_false_iff.mp hd)]

theorem token?_self (hc : isSpace c = false) : token? c (c :: rest) = some rest := by
  simp only [token?, dropSpace_cons rest hc, if_true]

theorem token?_ne (hd : isSpace d = false) (h : d ≠ c) : token? c (d :: rest) = none := by
  simp only [token?, dropSpace_cons rest hd, if_neg h]

end Tokens

/-- The text begins neither with a blank nor with a closing bracket. -/
def BeginsItem (cs : List Char) : Prop := ∃ c rest, cs = c :: rest ∧ isSpace c = false ∧ c ≠ ']'

theorem BeginsItem.append {cs : List Char} (h : BeginsItem cs) (ds : List Char) : BeginsItem (cs ++ ds) := by
  obtain ⟨c, rest, rfl, hspace, hc⟩ := h
  exact ⟨c, rest ++ ds, rfl, hspace, hc⟩

section Values

variable (fuel : Nat) (rest : List Char)

theorem readValue?_leaf {cs : List Char} (h : BeginsLeaf cs) :
    readValue? (fuel + 1) (cs ++ rest) = (readLeaf? (cs ++ rest)).map fun (s, rest) => (.scalar s, rest) := by
  obtain ⟨c, cs, rfl, hspace, hbrace, hbracket, hquote, _⟩ := h
  rw [readValue?, List.cons_append]
  simp only [token?_ne _ hspace hbrace, token?_ne _ hspace hbracket, token?_ne _ hspace hquote,
    dropSpace_cons _ hspace]

theorem readValue?_string :
    readValue? (fuel + 1) ('\x22' :: rest) = (readString? rest).map fun (text, rest) => (.str text, rest) := by
  rw [readValue?]
  simp only [token?_ne rest (d := '\x22') (c := '\x7b') rfl (by decide),
    token?_ne rest (d := '\x22') (c := '[') rfl (by decide), token?_self rest (c := '\x22') rfl]

theorem readValue?_list {cs : List Char} (h : BeginsItem cs) :
    readValue? (fuel + 1) ('[' :: cs) = (readItems? fuel cs).map fun (vs, rest) => (.list vs, rest) := by
  obtain ⟨c, cs, rfl, hspace, hc⟩ := h
  rw [readValue?]
  simp only [token?_ne (c :: cs) (d := '[') (c := '\x7b') rfl (by decide), token?_self (c :: cs) (c := '[') rfl,
    token?_ne cs hspace hc]

theorem readValue?_nil_list : readValue? (fuel + 1) ('[' :: ']' :: rest) = some (.list [], rest) := by
  rw [readValue?]
  simp only [token?_ne (']' :: rest) (d := '[') (c := '\x7b') rfl (by decide),
    token?_self (']' :: rest) (c := '[') rfl, token?_self rest (c := ']') rfl]

theorem readValue?_map (cs : List Char) :
    readValue? (fuel + 1) ('\x7b' :: '\x22' :: cs) =
      (readMembers? fuel ('\x22' :: cs)).map fun (es, rest) => (.map (Entries.ofList es), rest) := by
  rw [readValue?]
  simp only [token?_self ('\x22' :: cs) (c := '\x7b') rfl, token?_ne cs (d := '\x22') (c := '\x7d') rfl (by decide)]

theorem readValue?_nil_map : readValue? (fuel + 1) ('\x7b' :: '\x7d' :: rest) = some (.map [], rest) := by
  rw [readValue?]
  simp only [token?_self ('\x7d' :: rest) (c := '\x7b') rfl, token?_self rest (c := '\x7d') rfl]

end Values

/-! ### values -/

/-- What is written for the value `v` reads back as the value `w`. -/
def ReadsBackAs (v w : Value) : Prop :=
  ∀ cs, encode v = .ok cs → BeginsItem (escapeMarkup cs) ∧
    ∀ fuel rest, (escapeMarkup cs).length < fuel → EndsNumber rest →
      readValue? fuel (escapeMarkup cs ++ rest) = some (w, rest)

/-- What is written for the value reads back as it. -/
def RoundTrips (v : Value) : Prop :=
  ∀ cs, encode v = .ok cs → BeginsItem (escapeMarkup cs) ∧
    ∀ fuel rest, (escapeMarkup cs).length < fuel → EndsNumber rest →
      readValue? fuel (escapeMarkup cs ++ rest) = some (v.withLists, rest)

theorem exists_fuel {n fuel : Nat} (h : n < fuel) : ∃ k, fuel = k + 1 :=
  Nat.exists_eq_succ_of_ne_zero (Nat.ne_of_gt (Nat.zero_lt_of_lt h))

theorem isJson_of_encodeScalar {s : Scalar} {cs : List Char} (h : encodeScalar s = .ok cs) : s.isJson = true := by
  cases s with
  | null | bool _ | int _ | str _ => rfl
  | float x =>
    rw [encodeScalar, encodeFloat] at h
    split at h
    · next hfinite => exact hfinite
    · cases h
  | bytes _ | date _ | datetime _ | time _ | decimal _ => cases h

theorem readsBackAs_scalar (s : Scalar) : ReadsBackAs (.scalar s) (.scalar s) := by
  intro cs h
  rw [encode] at h
  have hs : s.isJson = true := isJson_of_encodeScalar h
  by_cases hstr : ∃ text, s = .str text
  · obtain ⟨text, rfl⟩ := hstr
    obtain rfl := Except.ok.inj h
    rw [escapeMarkup_jsonString]
    refine ⟨⟨'\x22', _, rfl, rfl, by decide⟩, fun fuel rest hfuel _ => ?_⟩
    obtain ⟨fuel, rfl⟩ := exists_fuel hfuel
    rw [List.cons_append, List.append_assoc, List.singleton_append, readValue?_string, readString?_escaped,
      Option.map_some, String.ofList_toList]
  · obtain ⟨hbegins, hmarkup, hread⟩ := readsAs_encodeScalar hs (fun text h => hstr ⟨text, h⟩) h
    rw [hmarkup]
    refine ⟨?_, fun fuel rest hfuel hrest => ?_⟩
    · obtain ⟨c, cs, hcs, hspace, _, _, _, hc⟩ := hbegins
      exact ⟨c, cs, hcs, hspace, hc⟩
    · obtain ⟨fuel, rfl⟩ := exists_fuel hfuel
      rw [readValue?_leaf fuel rest hbegins, hread rest hrest]
      rfl

/-! ### items -/

theorem endsNumber_cons {c : Char} (h : isNumberChar c = false) (cs : List Char) : EndsNumber (c :: cs) := by
  intro d hd
  obtain rfl := Option.some.inj hd
  exact h

theorem encodeL_cons_eq_ok {v : Value} {vs : List Value} {parts : List (List Char)} :
    encodeL (v :: vs) = .ok parts ↔
      ∃ part, encode v = .ok part ∧ ∃ more, encodeL vs = .ok more ∧ part :: more = parts := by
  simp only [encodeL, bind_eq_ok, pure, Except.pure, Except.ok.injEq]

theorem escapeMarkup_intercalate (part next : List Char) (more : List (List Char)) :
    escapeMarkup ([','].intercalate (part :: next :: more)) =
      escapeMarkup part ++ ',' :: escapeMarkup ([','].intercalate (next :: more)) := by
  rw [List.intercalate_cons_cons, escapeMarkup_append, escapeMarkup_append, List.append_assoc]
  rfl

/-- Items read back up to the closing bracket. -/
theorem readItems?_encodeL {vs : List Value} (hvs : ∀ v ∈ vs, ReadsBackAs v v.asJson) (hne : vs ≠ []) :
    ∀ parts, encodeL vs = .ok parts → BeginsItem (escapeMarkup ([','].intercalate parts)) ∧
      ∀ fuel rest, (escapeMarkup ([','].intercalate parts)).length + 1 < fuel →
        readItems? fuel (escapeMarkup ([','].intercalate parts) ++ ']' :: rest) =
          some (Value.asJsonL vs, rest) := by
  induction vs with
  | nil => exact absurd rfl hne
  | cons v vs ih =>
    intro parts h
    obtain ⟨hv, hmoreValues⟩ := List.forall_mem_cons.mp hvs
    obtain ⟨part, hpart, more, hmore, rfl⟩ := encodeL_cons_eq_ok.mp h
    obtain ⟨hbegins, hread⟩ := hv part hpart
    cases vs with
    | nil =>
      obtain rfl := Except.ok.inj hmore
      rw [List.intercalate_singleton]
      refine ⟨hbegins, fun fuel rest hfuel => ?_⟩
      obtain ⟨fuel, rfl⟩ := exists_fuel hfuel
      have hvalue := hread fuel (']' :: rest) (by omega) (endsNumber_cons rfl rest)
      have hcomma : token? ',' (']' :: rest) = none := token?_ne rest rfl (by decide)
      have hbracket : token? ']' (']' :: rest) = some rest := token?_self rest rfl
      simp only [readItems?, hvalue, Option.bind_eq_bind, Option.bind_some, hcomma, hbracket, Option.map_some,
        Value.asJsonL]
    | cons u us =>
      obtain ⟨next, hnext, others, hothers, rfl⟩ := encodeL_cons_eq_ok.mp hmore
      obtain ⟨_, hitems⟩ := ih hmoreValues (List.cons_ne_nil u us) (next :: others) hmore
      rw [escapeMarkup_intercalate]
      refine ⟨hbegins.append _, fun fuel rest hfuel => ?_⟩
      rw [List.length_append, List.length_cons] at hfuel
      obtain ⟨fuel, rfl⟩ := exists_fuel hfuel
      generalize hcs : escapeMarkup ([','].intercalate (next :: others)) ++ ']' :: rest = cs at *
      have hvalue := hread fuel (',' :: cs) (by omega) (endsNumber_cons rfl cs)
      have hcomma : token? ',' (',' :: cs) = some cs := token?_self cs rfl
      have hrest := hitems fuel rest (by omega)
      rw [List.append_assoc, List.cons_append, hcs]
      rw [hcs] at hrest
      simp only [readItems?, hvalue, Option.bind_eq_bind, Option.bind_some, hcomma, hrest, Option.map_some]
      rfl

/-! ### members -/

theorem encodeE_cons_eq_ok {k : Key} {v : Value} {es : Entries} {parts : List (List Char)} :
    encodeE ((k, v) :: es) = .ok parts ↔
      ∃ name, keyText k = .ok name ∧ ∃ part, encode v = .ok part ∧ ∃ more, encodeE es = .ok more ∧
        (jsonString name ++ ':' :: part) :: more = parts := by
  simp only [encodeE, bind_eq_ok, pure, Except.pure, Except.ok.injEq]

theorem escapeMarkup_member (name part : List Char) :
    escapeMarkup (jsonString name ++ ':' :: part) =
      '\x22' :: (escapeMarkup (name.flatMap escapeChar) ++ '\x22' :: ':' :: escapeMarkup part) := by
  rw [escapeMarkup_append, escapeMarkup_jsonString, List.cons_append, List.append_assoc]
  rfl

/-- A member is read up to what follows its value. -/
theorem readMembers?_member {fuel : Nat} {name part : List Char} {v : Value} {rest : List Char}
    (hvalue : readValue? fuel (escapeMarkup part ++ rest) = some (v, rest)) :
    readMembers? (fuel + 1) (escapeMarkup (jsonString name ++ ':' :: part) ++ rest) =
      match token? ',' rest with
      | some cs => (readMembers? fuel cs).map fun (es, rest) => ((.str (String.ofList name), v) :: es, rest)
      | none => (token? '\x7d' rest).map fun rest => ([(.str (String.ofList name), v)], rest) := by
  have hquote : ∀ cs, token? '\x22' ('\x22' :: cs) = some cs := fun cs => token?_self cs rfl
  have hcolon : ∀ cs, token? ':' (':' :: cs) = some cs := fun cs => token?_self cs rfl
  rw [escapeMarkup_member, List.cons_append, List.append_assoc, List.cons_append, List.cons_append, readMembers?]
  cases hcomma : token? ',' rest with
  | none =>
    simp only [hquote, Option.bind_eq_bind, Option.bind_some, readString?_escaped, hcolon, hvalue, hcomma]
  | some cs =>
    simp only [hquote, Option.bind_eq_bind, Option.bind_some, readString?_escaped, hcolon, hvalue, hcomma]

/-- Members read back up to the closing bracket. -/
theorem readMembers?_encodeE {es : Entries} (hes : ∀ e ∈ es, ReadsBackAs e.2 e.2.asJson) (hne : es ≠ []) :
    ∀ parts, encodeE es = .ok parts →
      (∃ cs, escapeMarkup ([','].intercalate parts) = '\x22' :: cs) ∧
      ∀ fuel rest, (escapeMarkup ([','].intercalate parts)).length + 1 < fuel →
        readMembers? fuel (escapeMarkup ([','].intercalate parts) ++ '\x7d' :: rest) =
          some (Value.asJsonE es, rest) := by
  induction es with
  | nil => exact absurd rfl hne
  | cons e es ih =>
    obtain ⟨k, v⟩ := e
    intro parts h
    obtain ⟨hv, hmoreValues⟩ := List.forall_mem_cons.mp hes
    obtain ⟨name, hname, part, hpart, more, hmore, rfl⟩ := encodeE_cons_eq_ok.mp h
    obtain ⟨_, hread⟩ := hv part hpart
    rw [Value.asJsonE, Key.jsonName_of_keyText hname]
    have hlength : (escapeMarkup part).length < (escapeMarkup (jsonString name ++ ':' :: part)).length := by
      rw [escapeMarkup_member, List.length_cons, List.length_append, List.length_cons, List.length_cons]
      omega
    cases es with
    | nil =>
      obtain rfl := Except.ok.inj hmore
      rw [List.intercalate_singleton]
      refine ⟨⟨_, escapeMarkup_member name part⟩, fun fuel rest hfuel => ?_⟩
      obtain ⟨fuel, rfl⟩ := exists_fuel hfuel
      have hvalue := hread fuel ('\x7d' :: rest) (by omega) (endsNumber_cons rfl rest)
      have hcomma : token? ',' ('\x7d' :: rest) = none := token?_ne rest rfl (by decide)
      have hbrace : token? '\x7d' ('\x7d' :: rest) = some rest := token?_self rest rfl
      rw [readMembers?_member hvalue]
      simp only [hcomma, hbrace, Option.map_some]
      rfl
    | cons e es =>
      obtain ⟨l, u⟩ := e
      obtain ⟨name', _, next, hnext, others, hothers, rfl⟩ := encodeE_cons_eq_ok.mp hmore
      obtain ⟨_, hmembers⟩ := ih hmoreValues (List.cons_ne_nil _ es) _ hmore
      rw [escapeMarkup_intercalate]
      refine ⟨⟨_, by rw [escapeMarkup_member, List.cons_append]⟩, fun fuel rest hfuel => ?_⟩
      rw [List.length_append, List.length_cons] at hfuel
      obtain ⟨fuel, rfl⟩ := exists_fuel hfuel
      have hrest := hmembers fuel rest (by omega)
      rw [List.append_assoc, List.cons_append]
      generalize escapeMarkup ([','].intercalate ((jsonString name' ++ ':' :: next) :: others)) ++
        '\x7d' :: rest = cs at hrest ⊢
      have hvalue := hread fuel (',' :: cs) (by omega) (endsNumber_cons rfl cs)
      have hcomma : token? ',' (',' :: cs) = some cs := token?_self cs rfl
      rw [readMembers?_member hvalue]
      simp only [hcomma, hrest, Option.map_some]

/-! ### trees -/

theorem escapeMarkup_brackets {c d : Char} (hc : escapeMarkupChar c = [c]) (hd : escapeMarkupChar d = [d])
    (cs : List Char) : escapeMarkup (c :: cs ++ [d]) = c :: (escapeMarkup cs ++ [d]) := by
  rw [List.cons_append, escapeMarkup_cons, escapeMarkup_append, escapeMarkup_cons, hc, hd]
  rfl

/-- A list reads back from its items, those of a tuple among them. -/
theorem readValue?_items {vs : List Value} (hvs : ∀ v ∈ vs, ReadsBackAs v v.asJson) {parts : List (List Char)}
    (h : encodeL vs = .ok parts) (fuel : Nat) (rest : List Char)
    (hfuel : (escapeMarkup ('[' :: [','].intercalate parts ++ [']'])).length < fuel) :
    readValue? fuel (escapeMarkup ('[' :: [','].intercalate parts ++ [']']) ++ rest) =
      some (.list (Value.asJsonL vs), rest) := by
  rw [escapeMarkup_brackets rfl rfl] at hfuel ⊢
  obtain ⟨fuel, rfl⟩ := exists_fuel hfuel
  rw [List.cons_append, List.append_assoc, List.singleton_append]
  cases vs with
  | nil =>
    obtain rfl := Except.ok.inj h
    exact readValue?_nil_list fuel rest
  | cons v vs =>
    obtain ⟨hbegins, hread⟩ := readItems?_encodeL hvs (List.cons_ne_nil v vs) parts h
    rw [List.length_cons, List.length_append, List.length_singleton] at hfuel
    rw [readValue?_list fuel (hbegins.append (']' :: rest)), hread fuel rest (by omega), Option.map_some]

theorem readsBackAs_list {items : List Value} (hitems : ∀ v ∈ items, ReadsBackAs v v.asJson) :
    ReadsBackAs (.list items) (.list (Value.asJsonL items)) := by
  intro cs h
  obtain ⟨parts, hparts, hcs⟩ := bind_eq_ok.mp h
  obtain rfl := Except.ok.inj hcs
  refine ⟨⟨'[', _, escapeMarkup_brackets rfl rfl _, rfl, by decide⟩, fun fuel rest hfuel _ => ?_⟩
  exact readValue?_items hitems hparts fuel rest hfuel

theorem readsBackAs_map {es : Entries} (hes : ∀ e ∈ es, ReadsBackAs e.2 e.2.asJson) :
    ReadsBackAs (.map es) (.map (Entries.ofList (Value.asJsonE es))) := by
  intro cs h
  obtain ⟨parts, hparts, hcs⟩ := bind_eq_ok.mp h
  obtain rfl := Except.ok.inj hcs
  rw [escapeMarkup_brackets rfl rfl]
  refine ⟨⟨'\x7b', _, rfl, rfl, by decide⟩, fun fuel rest hfuel _ => ?_⟩
  obtain ⟨fuel, rfl⟩ := exists_fuel hfuel
  rw [List.length_cons, List.length_append, List.length_singleton] at hfuel
  rw [List.cons_append, List.append_assoc, List.singleton_append]
  cases es with
  | nil =>
    obtain rfl := Except.ok.inj hparts
    exact readValue?_nil_map fuel rest
  | cons e es =>
    obtain ⟨⟨tail, htail⟩, hread⟩ := readMembers?_encodeE hes (List.cons_ne_nil e es) parts hparts
    have hmembers := hread fuel rest (by omega)
    rw [htail, List.cons_append] at hmembers ⊢
    rw [readValue?_map, hmembers, Option.map_some]

/-- All that is written reads back as JSON holds it. -/
theorem readsBackAs_asJson (v : Value) : ReadsBackAs v v.asJson := by
  induction v using Value.induct with
  | scalar s => exact readsBackAs_scalar s
  | set members =>
    intro cs h
    cases h
  | list items ih => exact readsBackAs_list ih
  | tuple items ih => exact readsBackAs_list ih -- a tuple is written, and so read, as the list of its items
  | map es ih => exact readsBackAs_map ih

/-- All that can be encoded reads back. -/
theorem roundTrips {v : Value} (hv : v.IsEncodable) : RoundTrips v := by
  have hread := readsBackAs_asJson v
  rwa [Value.asJson_of_isEncodable hv] at hread

theorem read?_of_readsBackAs {v w : Value} {text : String} (hread : ReadsBackAs v w) (h : serialize v = .ok text) :
    read? text = some w := by
  obtain ⟨cs, hcs, rfl⟩ := map_eq_ok.mp h
  obtain ⟨_, hread⟩ := hread cs hcs
  have hvalue := hread ((escapeMarkup cs).length + 1) [] (Nat.lt_succ_self _) (fun c hc => nomatch hc)
  rw [List.append_nil] at hvalue
  rw [read?, String.toList_ofList, hvalue]
  rfl

/-- The text of a value is read as JSON holds it. -/
theorem read?_serialize_asJson {v : Value} {text : String} (h : serialize v = .ok text) :
    read? text = some v.asJson :=
  read?_of_readsBackAs (readsBackAs_asJson v) h

theorem read?_serialize {v : Value} {text : String} (hv : v.IsEncodable) (h : serialize v = .ok text) :
    read? text = some v.withLists :=
  read?_of_readsBackAs (roundTrips hv) h

theorem serialize_reads {v : Value} (hv : v.IsEncodable) :
    if v.isWritable then ∃ text, serialize v = .ok text ∧ read? text = some v.withLists
    else serialize v = .error .overlongInteger := by
  have hwrites := writesIf_iff.mp (serialize_writesIf hv)
  by_cases hw : v.isWritable = true
  · rw [if_pos hw] at hwrites ⊢
    obtain ⟨text, htext⟩ := hwrites
    exact ⟨text, htext, read?_serialize hv htext⟩
  · rw [if_neg hw] at hwrites ⊢
    exact hwrites

end Json

/-! ### the round trip -/

/-- **Linked data reads back.** The text of a value that can be encoded is read as that value, its tuples as lists and
the entries of its mappings in their order, although markup is escaped in all of the text. So is the text of an object
or of a list of objects with a context, as what the context is attached to. Only a value that holds an integer with
more digits than are written has no text. -/
theorem linkedData_reads_back (v : Value) (hv : v.IsEncodable) :
    (if v.isWritable then ∃ text, Json.serialize v = .ok text ∧ Json.read? text = some v.withLists
      else Json.serialize v = .error .overlongInteger) ∧
    (v.IsWrappable → ∀ context, ∃ w, wrap context v = .ok w ∧
      if v.isWritable then ∃ text, render context v = .ok text ∧ Json.read? text = some w.withLists
      else render context v = .error .overlongInteger) := by
  refine ⟨Json.serialize_reads hv, fun hwrap context => ?_⟩
  obtain ⟨w, hw, hencodable, hwritable⟩ := wrap_isEncodable context hv hwrap
  have hrender : render context v = Json.serialize w := by rw [render, hw]; rfl
  refine ⟨w, hw, ?_⟩
  rw [hrender, ← hwritable]
  exact Json.serialize_reads hencodable

/-- A tree with markup, quotes, a backslash and a line end in its texts. -/
def exampleTree : Value :=
  .map [(.str "<a & \"b\">", .tuple [.str "\\u003c\n", .float (.ofInt 2), .int (-7)]), (.str "", .null)]

theorem exampleTree_reads_back :
    (∃ text, Json.serialize exampleTree = .ok text ∧
      Json.read? text = some (.map [(.str "<a & \"b\">", .list [.str "\\u003c\n", .float (.ofInt 2), .int (-7)]),
        (.str "", .null)])) ∧
    ∃ text, render "c" exampleTree = .ok text ∧
      Json.read? text = some (.map [(.str "@context", .str "c"),
        (.str "<a & \"b\">", .list [.str "\\u003c\n", .float (.ofInt 2), .int (-7)]), (.str "", .null)]) := by
  have hwritable : exampleTree.isWritable = true := by decide +kernel
  have hreads := linkedData_reads_back exampleTree (by decide +kernel)
  simp only [hwritable, if_true] at hreads
  obtain ⟨hread, hrender⟩ := hreads
  obtain ⟨w, hw, hrendered⟩ := hrender trivial "c"
  cases Except.ok.inj hw
  exact ⟨hread, hrendered⟩

/-- An integer with too many digits can not be encoded. -/
theorem leastOverlong_has_no_text :
    (Value.list [.int leastOverlong]).IsEncodable ∧
      ¬ ∃ text, Json.serialize (.list [.int leastOverlong]) = .ok text := by
  have hitem : (Value.int leastOverlong).IsEncodable := Value.forall_parts_scalar.mpr rfl
  have hlist : (Value.list [.int leastOverlong]).IsEncodable :=
    Value.forall_parts_list.mpr ⟨trivial, List.forall_mem_cons.mpr ⟨hitem, List.forall_mem_nil _⟩⟩
  refine ⟨hlist, Json.not_serialized hlist ?_⟩
  rw [Value.isWritable, Value.isWritableL, Value.isWritable, Scalar.isWritable, leastOverlong_not_writable,
    Bool.false_and]

end LinkedData
