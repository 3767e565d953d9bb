import LinkedData.Settings
import LinkedData.Text.Blank
import LinkedData.Text.Digit

/-!
# The library for settings that the program runs with

* `readInteger?`: the integer that a text writes;
* `integerOf?`: the integer that a value is taken for; only texts are taken for texts;
* `Validation.standard`: of several entries for a setting the first one counts, of several variables the last one.
-/

namespace LinkedData

open Numeric Text

/-- A blank that is trimmed off a number. -/
def isNumberBlank (c : Char) : Bool := isBlank c && !(0x1C ≤ c.toNat && c.toNat ≤ 0x1F)

/-- The digits of a number without the underscores that may stand between two of them. -/
def digitsOf? (cs : List Char) : Option (List Char) :=
  let groups := cs.splitOn '_'
  if groups.all fun g => !g.isEmpty && g.all Char.isDigit then some groups.flatten else none

/-- A number without the zeros at its beginning and the underscores among them; of nothing but these the last one is
left. -/
def withoutZeros (cs : List Char) : List Char :=
  if cs.head? = some '0' then
    match cs.dropWhile fun c => c == '0' || c == '_' with
    | [] => cs.drop (cs.length - 1)
    | rest => rest
  else cs

/-- The integer that a text writes between blanks, in no more digits than are read; a point and zeros may follow. -/
def readInteger? (text : String) : Option Int :=
  let cs := ((text.toList.dropWhile isNumberBlank).reverse.dropWhile isNumberBlank).reverse
  let isNegative := cs.head? = some '-'
  let unsigned := if isNegative ∨ cs.head? = some '+' then cs.tail else cs
  let whole := unsigned.takeWhile (· != '.')
  let fraction := unsigned.drop whole.length
  if fraction.isEmpty || (2 ≤ fraction.length && fraction.tail.all (· == '0')) then
    (digitsOf? (withoutZeros whole)).bind fun ds =>
      let n : Int := Nat.ofDigitChars 10 ds 0
      if ds.length ≤ digitLimit then some (if isNegative then -n else n) else none
  else none

/-- The integer that a value is taken for: itself, one for `true`, a float without fraction, or that of a text. -/
def integerOf? : Value → Option Int
  | .int n => some n
  | .bool b => some (if b then 1 else 0)
  | .float x => x.integer?.filter fun n : Int => n < Nat.pow 2 63
  | .str s => readInteger? s
  | _ => none

/-- The text that a value is taken for. -/
def textOf? : Value → Option String
  | .str s => some s
  | _ => none

/-- The value that entries give to a setting or, if they give none, the environment. -/
def firstGiven? (entries : Entries) (env : Environment) (name : String) : Option Value :=
  match entries.find? fun e => e.1.spells name with
  | some e => some e.2
  | none => (env.reverse.find? (isVariableFor name)).map fun a => .str a.2

/-- The library that the program runs with. -/
def Validation.standard : Validation := ⟨firstGiven?, textOf?, integerOf?⟩

/-- It can be relied on. -/
theorem Validation.standard_documented : Validation.standard.Documented where
  given_entry := by
    rintro entries env name - ⟨e, he, hspells⟩
    have hsome : (entries.find? fun e => e.1.spells name).isSome = true := List.find?_isSome.mpr ⟨e, he, hspells⟩
    obtain ⟨found, hfound⟩ := Option.isSome_iff_exists.mp hsome
    have hspelled : found.1.spells name = true := List.find?_some (p := fun e : Key × Value => e.1.spells name) hfound
    refine ⟨found, List.mem_of_find?_eq_some hfound, hspelled, ?_⟩
    show firstGiven? entries env name = _
    simp only [firstGiven?, hfound]
  given_variable := by
    rintro entries env name - hentries ⟨a, ha, hfor⟩
    have hnone : entries.find? (fun e => e.1.spells name) = none :=
      List.find?_eq_none.mpr fun e he => by simp [hentries e he]
    obtain ⟨found, hfound⟩ :=
      Option.isSome_iff_exists.mp (List.find?_isSome.mpr ⟨a, List.mem_reverse.mpr ha, hfor⟩)
    refine ⟨found, List.mem_reverse.mp (List.mem_of_find?_eq_some hfound), List.find?_some hfound, ?_⟩
    show firstGiven? entries env name = _
    simp only [firstGiven?, hnone, hfound, Option.map_some]
  given_none := by
    intro entries env name _ hentries henv
    have hnone : entries.find? (fun e => e.1.spells name) = none :=
      List.find?_eq_none.mpr fun e he => by simp [hentries e he]
    have hunset : env.reverse.find? (isVariableFor name) = none :=
      List.find?_eq_none.mpr fun a ha => by simp [henv a (List.mem_reverse.mp ha)]
    show firstGiven? entries env name = none
    simp only [firstGiven?, hnone, hunset, Option.map_none]
  text_str := fun _ => rfl
  integer_int := fun _ => rfl

end LinkedData
