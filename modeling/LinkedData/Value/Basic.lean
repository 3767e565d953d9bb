import LinkedData.Calendar.DateTime
import LinkedData.Numeric.Decimal

/-!
# The values of page data and metadata trees

* `Scalar`: a value without parts;
* `Key`: what names an entry of a mapping or stands in a set, a scalar or a tuple of keys;
* `Value`: scalars, sets, lists, tuples, and mappings, whose entries keep the order in which they were added;
* `Key.toValue`: a key as a value.

Equality of the types is equality of what is written; `Key.same` (in `LinkedData.Value.Mapping`) tells whether two
keys name the same entry.
-/

namespace LinkedData

open Calendar Numeric

/-- A value without parts. -/
inductive Scalar where
  | null
  | bool (b : Bool)
  | int (n : Int)
  | float (x : Binary64)
  | str (s : String)
  | bytes (octets : List UInt8)
  | date (d : Date)
  | datetime (t : DateTime)
  | time (t : Time)
  | decimal (d : Decimal)
deriving DecidableEq, Inhabited

/-- A name of an entry. -/
inductive Key where
  | scalar (s : Scalar)
  | tuple (parts : List Key)
deriving Inhabited

/-- A value of page data. -/
inductive Value where
  | scalar (s : Scalar)
  | set (members : List Key)
  | list (items : List Value)
  | tuple (items : List Value)
  | map (entries : List (Key × Value))
deriving Inhabited

/-- The entries of a mapping, in the order of their insertion. -/
abbrev Entries := List (Key × Value)

/-! ### names of scalars as values and keys -/

namespace Value

@[match_pattern] abbrev null : Value := .scalar .null
@[match_pattern] abbrev bool (b : Bool) : Value := .scalar (.bool b)
@[match_pattern] abbrev int (n : Int) : Value := .scalar (.int n)
@[match_pattern] abbrev float (x : Binary64) : Value := .scalar (.float x)
@[match_pattern] abbrev str (s : String) : Value := .scalar (.str s)

end Value

/-- The key that a text is. -/
@[match_pattern] abbrev Key.str (s : String) : Key := .scalar (.str s)

/-! ### keys as values -/

mutual
/-- A key as a value. -/
def Key.toValue : Key → Value
  | .scalar s => .scalar s
  | .tuple parts => .tuple (Key.toValueL parts)
def Key.toValueL : List Key → List Value
  | [] => []
  | k :: ks => k.toValue :: Key.toValueL ks
end

/-! ### decidable equality -/

mutual
def Key.decEq : (a b : Key) → Decidable (a = b)
  | .scalar s, .scalar t => if h : s = t then isTrue (h ▸ rfl) else isFalse (by simpa using h)
  | .tuple as, .tuple bs =>
    match Key.decEqL as bs with
    | isTrue h => isTrue (h ▸ rfl)
    | isFalse h => isFalse (by simpa using h)
  | .scalar _, .tuple _ => isFalse (by simp)
  | .tuple _, .scalar _ => isFalse (by simp)
def Key.decEqL : (as bs : List Key) → Decidable (as = bs)
  | [], [] => isTrue rfl
  | [], _ :: _ => isFalse (by simp)
  | _ :: _, [] => isFalse (by simp)
  | a :: as, b :: bs =>
    match Key.decEq a b, Key.decEqL as bs with
    | isTrue h, isTrue hs => isTrue (by rw [h, hs])
    | isFalse h, _ => isFalse fun e => h (List.cons.inj e).1
    | _, isFalse hs => isFalse fun e => hs (List.cons.inj e).2
end

instance : DecidableEq Key := Key.decEq

mutual
def Value.decEq : (a b : Value) → Decidable (a = b)
  | .scalar s, .scalar t => if h : s = t then isTrue (h ▸ rfl) else isFalse (by simpa using h)
  | .set as, .set bs => if h : as = bs then isTrue (h ▸ rfl) else isFalse (by simpa using h)
  | .list as, .list bs =>
    match Value.decEqL as bs with
    | isTrue h => isTrue (h ▸ rfl)
    | isFalse h => isFalse (by simpa using h)
  | .tuple as, .tuple bs =>
    match Value.decEqL as bs with
    | isTrue h => isTrue (h ▸ rfl)
    | isFalse h => isFalse (by simpa using h)
  | .map as, .map bs =>
    match Value.decEqE as bs with
    | isTrue h => isTrue (h ▸ rfl)
    | isFalse h => isFalse (by simpa using h)
  | .scalar _, .set _ | .scalar _, .list _ | .scalar _, .tuple _ | .scalar _, .map _
  | .set _, .scalar _ | .set _, .list _ | .set _, .tuple _ | .set _, .map _
  | .list _, .scalar _ | .list _, .set _ | .list _, .tuple _ | .list _, .map _
  | .tuple _, .scalar _ | .tuple _, .set _ | .tuple _, .list _ | .tuple _, .map _
  | .map _, .scalar _ | .map _, .set _ | .map _, .list _ | .map _, .tuple _ => isFalse (by simp)
def Value.decEqL : (as bs : List Value) → Decidable (as = bs)
  | [], [] => isTrue rfl
  | [], _ :: _ => isFalse (by simp)
  | _ :: _, [] => isFalse (by simp)
  | a :: as, b :: bs =>
    match Value.decEq a b, Value.decEqL as bs with
    | isTrue h, isTrue hs => isTrue (by rw [h, hs])
    | isFalse h, _ => isFalse fun e => h (List.cons.inj e).1
    | _, isFalse hs => isFalse fun e => hs (List.cons.inj e).2
def Value.decEqE : (as bs : List (Key × Value)) → Decidable (as = bs)
  | [], [] => isTrue rfl
  | [], _ :: _ => isFalse (by simp)
  | _ :: _, [] => isFalse (by simp)
  | (k, v) :: as, (l, w) :: bs =>
    match Key.decEq k l, Value.decEq v w, Value.decEqE as bs with
    | isTrue hk, isTrue hv, isTrue hs => isTrue (by rw [hk, hv, hs])
    | isFalse h, _, _ => isFalse fun e => h (Prod.mk.inj (List.cons.inj e).1).1
    | _, isFalse h, _ => isFalse fun e => h (Prod.mk.inj (List.cons.inj e).1).2
    | _, _, isFalse hs => isFalse fun e => hs (List.cons.inj e).2
end

instance : DecidableEq Value := Value.decEq

end LinkedData
