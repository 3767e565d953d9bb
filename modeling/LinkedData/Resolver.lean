import LinkedData.Filter
import LinkedData.Lookup
import LinkedData.Site.Basic

/-!
# Resolution of references

Resolving a tree replaces every reference in it by its value and every date and time by its timestamp. What remains is
a tree of texts, numbers, truth values, nulls, lists and mappings with texts as keys.

* `PageContext`: what references are resolved against: a URL, page data, and what makes URLs of paths;
* `Resolver`: the registry of filters and the limit for chains of lookups, which is positive;
* `resolveLeaf`: resolution of a leaf that is no lookup;
* `resolveTree`: resolution, given what a lookup resolves to;
* `Resolver.follow`: the value of a lookup, resolved in turn while it and the lookups above it are under way;
* `Resolver.resolve`: resolution of a tree.

The first failure in the order of the tree is the failure of the whole. The number of lookups under way is limited, the
depth of trees and of data is not: a program that keeps a stack of fixed size for its recursion fails on those that are
nested too deep for it.
-/

namespace LinkedData

open Calendar

/-- What the references of a page are resolved against. -/
structure PageContext where
  url : String
  data : Entries
  normalize : UrlNormalizer

/-- Filters and a limit for chains of lookups. -/
structure Resolver where
  registry : Registry
  maxDepth : Nat
  maxDepth_pos : 0 < maxDepth

/-- The limit that is used where none is given. -/
def standardDepth : Nat := 32

theorem standardDepth_pos : 0 < standardDepth := Nat.zero_lt_succ 31

/-- The resolver with the standard filters and limit. -/
def Resolver.standard : Resolver := ⟨.standard, standardDepth, standardDepth_pos⟩

/-- The resolver with the given filters and limit, which has to be positive. -/
def Resolver.ofDepth (registry : Registry) (depth : Int) : Except Failure Resolver :=
  if h : 0 < depth then .ok ⟨registry, depth.toNat, by omega⟩ else .error (.depthNotPositive depth)

/-! ### leaves -/

/-- The lookup that a leaf of a tree stands for, if it stands for one. -/
def Scalar.ref? : Scalar → Option DataRef
  | .str text => (Reference.ofText text).ref?
  | _ => none

/-- What a text that stands for no lookup is replaced by. -/
def PageContext.expand (ctx : PageContext) (text : String) : String :=
  match Reference.ofText text with
  | .pageUrl => ctx.normalize ctx.url true
  | .siteUrl path => ctx.normalize path true
  | _ => text

/-- The timestamp of a moment. -/
def resolveMoment (t : DateTime) : Except Failure Value :=
  match timestamp? t with
  | some cs => .ok (.str (String.ofList cs))
  | none => .error .outsideCalendar

/-- A leaf that stands for no lookup, resolved. -/
def resolveLeaf (ctx : PageContext) : Scalar → Except Failure Value
  | .str text => .ok (.str (ctx.expand text))
  | .null => .ok .null
  | .bool b => .ok (.bool b)
  | .int n => .ok (.int n)
  | .float x => if x.isFinite then .ok (.float x) else .error (.fault (.unsupported (.float x)))
  | .date d => resolveMoment d.midnight
  | .datetime t => resolveMoment t
  | .bytes octets => .error (.fault (.unsupported (.scalar (.bytes octets))))
  | .time t => .error (.fault (.unsupported (.scalar (.time t))))
  | .decimal d => .error (.fault (.unsupported (.scalar (.decimal d))))

/-- A leaf, resolved. -/
def resolveScalar (follow : DataRef → Except Failure Value) (ctx : PageContext) (s : Scalar) : Except Failure Value :=
  match s.ref? with
  | some ref => follow ref
  | none => resolveLeaf ctx s

/-! ### trees -/

mutual
/-- A tree with its references resolved, those to page data by `follow`. -/
def resolveTree (follow : DataRef → Except Failure Value) (ctx : PageContext) : Value → Except Failure Value
  | .scalar s => resolveScalar follow ctx s
  | .set members => .error (.ofFault (.unsupported (.set members)))
  | .list items => (resolveTreeL follow ctx items).map .list
  | .tuple items => (resolveTreeL follow ctx items).map .list
  | .map entries => (resolveTreeE follow ctx entries).map fun es => .map (Entries.ofList es)
def resolveTreeL (follow : DataRef → Except Failure Value) (ctx : PageContext) :
    List Value → Except Failure (List Value)
  | [] => .ok []
  | v :: vs => do
    let w ← resolveTree follow ctx v
    let ws ← resolveTreeL follow ctx vs
    return w :: ws
def resolveTreeE (follow : DataRef → Except Failure Value) (ctx : PageContext) :
    List (Key × Value) → Except Failure (List (Key × Value))
  | [] => .ok []
  | (k, v) :: es =>
    match k with
    | .str name => do
      let w ← resolveTree follow ctx v
      let ws ← resolveTreeE follow ctx es
      return (.str name, w) :: ws
    | other => .error (.ofFault (.unsupported other.toValue))
end

/-! ### chains of lookups -/

namespace Resolver

/-- The value of a lookup after its filters. -/
def fetch (r : Resolver) (ctx : PageContext) (ref : DataRef) : Except Failure Value := do
  let v ← extract (.map ctx.data) ref.path
  r.registry.apply v ref.filters

/-- The value of a lookup, resolved, while the lookups of `chain` are under way and so many more are allowed. -/
def follow (r : Resolver) (ctx : PageContext) : Nat → List DataRef → DataRef → Except Failure Value
  | 0, chain, ref => .error (.ofFault (.cyclic (chain ++ [ref]) r.maxDepth))
  | left + 1, chain, ref =>
    if ref ∈ chain then .error (.ofFault (.cyclic (chain ++ [ref]) r.maxDepth))
    else do
      let v ← r.fetch ctx ref
      resolveTree (r.follow ctx left (chain ++ [ref])) ctx v

/-- A tree, resolved while the lookups of `chain` are under way. -/
def resolveWithin (r : Resolver) (ctx : PageContext) (chain : List DataRef) (v : Value) : Except Failure Value :=
  resolveTree (r.follow ctx (r.maxDepth - chain.length) chain) ctx v

/-- A tree, resolved. -/
def resolve (r : Resolver) (ctx : PageContext) (v : Value) : Except Failure Value := r.resolveWithin ctx [] v

end Resolver

end LinkedData
