import LinkedData.Value.Basic

/-!
# Mappings that keep the order of insertion

* `Key.same`: two keys name the same entry; numbers are compared by what they denote, `true` being one, times with an
  offset by their instants, and all else, NaNs included, as it is;
* `Entries.get?`, `Entries.insert`, `Entries.erase`: the entry of a key; an entry that is set again keeps its place;
* `Entries.update` and `Entries.ofList`: several entries, set one after the other;
* `Entries.Distinct`: no two entries have the same key, which all operations keep.
-/

namespace LinkedData

open Numeric

/-! ### sameness of keys -/

/-- The number that a scalar stands for as a key. -/
def Scalar.number? : Scalar → Option Number
  | .bool b => some (.ofInt (if b then 1 else 0))
  | .int n => some (.ofInt n)
  | .float x => Number.ofBinary64? x
  | .decimal d => Number.ofDecimal? d
  | _ => none

/-- Two scalars name the same entry. -/
def Scalar.same : Scalar → Scalar → Bool
  | .datetime s, .datetime t => s.sameMoment t
  | s, t =>
    match s.number?, t.number? with
    | some m, some n => m == n
    | none, none => s == t
    | _, _ => false

mutual
/-- Two keys name the same entry. -/
def Key.same : Key → Key → Bool
  | .scalar s, .scalar t => s.same t
  | .tuple ks, .tuple ls => Key.sameL ks ls
  | _, _ => false
def Key.sameL : List Key → List Key → Bool
  | [], [] => true
  | k :: ks, l :: ls => k.same l && Key.sameL ks ls
  | _, _ => false
end

theorem Key.same_str (k : Key) (s : String) : k.same (.str s) = decide (k = .str s) := by
  cases k with
  | tuple ks => simp [Key.same]
  | scalar t =>
    have hnone : (Scalar.str s).number? = none := rfl
    rw [Key.same, Scalar.same, hnone]
    · cases ht : t.number? with
      | none =>
        rw [Bool.eq_iff_iff]
        simp
      | some m =>
        have hne : t ≠ .str s := fun h => nomatch (h ▸ ht : Scalar.number? (.str s) = some m)
        simp [hne]
    · intro a b _ h
      cases h

/-! ### entries -/

namespace Entries

/-- The value under a key. -/
def get? (es : Entries) (k : Key) : Option Value := (es.find? fun e => e.1.same k).map Prod.snd

/-- The value under a text. -/
def lookup? (es : Entries) (name : String) : Option Value := get? es (.str name)

/-- Sets the value under a key: in place if there is an entry for it, else in a new entry at the end. -/
def insert : Entries → Key → Value → Entries
  | [], k, v => [(k, v)]
  | (l, w) :: es, k, v => if l.same k then (l, v) :: es else (l, w) :: insert es k v

/-- Removes the entry of a key. -/
def erase : Entries → Key → Entries
  | [], _ => []
  | (l, w) :: es, k => if l.same k then es else (l, w) :: erase es k

/-- Sets all entries of `new`, one after the other. -/
def update (es new : Entries) : Entries := new.foldl (fun acc e => insert acc e.1 e.2) es

/-- The mapping that results from setting the given entries. -/
def ofList (es : List (Key × Value)) : Entries := update [] es

/-- No two entries have the same key. -/
def Distinct (es : Entries) : Prop := es.Pairwise fun a b => a.1.same b.1 = false

theorem get?_cons (l : Key) (w : Value) (es : Entries) (k : Key) :
    get? ((l, w) :: es) k = if l.same k then some w else get? es k := by
  unfold get?
  rw [List.find?_cons]
  cases h : l.same k <;> simp

theorem lookup?_cons (l : Key) (w : Value) (es : Entries) (name : String) :
    lookup? ((l, w) :: es) name = if l = .str name then some w else lookup? es name := by
  simp [lookup?, get?_cons, Key.same_str]

theorem insert_ne_nil (es : Entries) (k : Key) (v : Value) : insert es k v ≠ [] := by
  cases es with
  | nil => simp [insert]
  | cons e es =>
    simp only [insert]
    split <;> simp

theorem lookup?_insert_str (es : Entries) (name : String) (v : Value) :
    lookup? (insert es (.str name) v) name = some v := by
  induction es with
  | nil => simp [insert, lookup?_cons]
  | cons e es ih =>
    obtain ⟨l, w⟩ := e
    rw [insert, Key.same_str]
    by_cases h : l = .str name <;> simp [h, lookup?_cons, ih]

end Entries

end LinkedData
