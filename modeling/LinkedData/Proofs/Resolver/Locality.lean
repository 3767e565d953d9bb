import Mathlib.Data.Set.Defs
import LinkedData.Proofs.Resolver.Origin
import LinkedData.Proofs.Resolver.TwoRuns

/-!
# The page data that a resolution can reach

A resolution with the standard filters reads the values under some keys of the page data, and no other entry can
change its outcome.

* `DataRef.BeginsIn`: the path of a lookup begins with a key of a set;
* `Encloses`: a set of keys that a tree, and the values under these keys, do not lead out of;
* `Resolver.fetch_congr`, `Resolver.beginsIn_of_leadsTo`: a lookup that begins in such a set is found alike in page
  data that agree on it, and leads to others that begin in it;
* `Resolver.resolve_reads_enclosed`: so the resolution of the tree ends alike.
-/

namespace LinkedData

/-- The path of the lookup begins with a key of the set. -/
def DataRef.BeginsIn (ref : DataRef) (keys : Set Key) : Prop :=
  ∃ segment rest, ref.path = segment :: rest ∧ Key.str segment ∈ keys

/-- The lookups in the tree, and those in the values under the keys, begin with one of the keys. -/
structure Encloses (keys : Set Key) (data : Entries) (v : Value) : Prop where
  tree : ∀ ref, v.LooksUp ref → ref.BeginsIn keys
  values : ∀ k ∈ keys, ∀ ref, (data.valueOf k).LooksUp ref → ref.BeginsIn keys

namespace Resolver

variable {r : Resolver} {ctx ctx' : PageContext} {keys : Set Key} {ref next : DataRef} {v : Value}

theorem fetch_congr (href : ref.BeginsIn keys) (hsame : ∀ k ∈ keys, ctx.data.valueOf k = ctx'.data.valueOf k) :
    r.fetch ctx ref = r.fetch ctx' ref := by
  obtain ⟨segment, rest, hpath, hkey⟩ := href
  rw [fetch, fetch, hpath, extract_map_cons, extract_map_cons, hsame _ hkey]

/-- A lookup that begins with one of the keys leads to no others. -/
theorem beginsIn_of_leadsTo (hstandard : r.registry = .standard) (hkeys : Encloses keys ctx.data v)
    (href : ref.BeginsIn keys) (h : r.LeadsTo ctx ref next) : next.BeginsIn keys := by
  obtain ⟨segment, rest, hpath, hkey⟩ := href
  obtain ⟨u, hfetch, hnext⟩ := h
  obtain ⟨found, hfound, happly⟩ := bind_eq_ok.mp hfetch
  rw [hpath] at hfound
  rw [hstandard] at happly
  exact hkeys.values _ hkey next ((looksUp_of_filters happly hnext).of_part (extract_map_mem_parts hfound))

/-- **A resolution reads no page data beyond its reach.** If a set of keys encloses the tree, so that neither the tree
nor the values under the keys look up anything that begins otherwise, then with all page data that have the same values
under these keys, where null is the same as no value, the resolution yields the same result or fails in the same way. -/
theorem resolve_reads_enclosed (r : Resolver) (hstandard : r.registry = .standard) (url : String) (normalize : UrlNormalizer)
    (data data' : Entries) (v : Value) (keys : Set Key) (hkeys : Encloses keys data v)
    (hsame : ∀ k ∈ keys, data.valueOf k = data'.valueOf k) :
    r.resolve ⟨url, data, normalize⟩ v = r.resolve ⟨url, data', normalize⟩ v := by
  have hfetch : ∀ ref, ref.BeginsIn keys → Agrees Eq (r.fetch ⟨url, data, normalize⟩ ref) (r.fetch ⟨url, data', normalize⟩ ref) :=
    fun ref href => agrees_eq_iff.mpr (fetch_congr href hsame)
  have hleads : ∀ ref next, ref.BeginsIn keys → r.LeadsTo ⟨url, data, normalize⟩ ref next → next.BeginsIn keys :=
    fun ref next href => beginsIn_of_leadsTo hstandard hkeys href
  exact agrees_eq_iff.mp (resolve_agrees (fun _ => rfl) (by rfl) (by rfl) rfl hfetch hleads hkeys.tree)

/-- The page data of a post whose title is that of the site, with a draft of a summary. -/
def postData : Entries :=
  [(.str "title", .list [.str "lume-data:site.name"]), (.str "site", .map [(.str "name", .str "Notes")]),
    (.str "summary", .str "lume-data:draft")]

/-- The same post with another entry for the summary and a further one, and with a null for what it has no entry for. -/
def revisedData : Entries :=
  [(.str "draft", .int 1), (.str "summary", .str "Done"), (.str "site", .map [(.str "name", .str "Notes")]),
    (.str "title", .list [.str "lume-data:site.name"]), (.str "author", .null)]

/-- A tree that reads the title, and the author, which is not there. -/
def postTree : Value := .map [(.str "name", .str "lume-data:title.0"), (.str "author", .str "lume-data:author")]

/-- The keys that it can reach. -/
def postKeys : Set Key := {.str "title", .str "site", .str "author"}

theorem postKeys_enclose : Encloses postKeys postData postTree := by
  have htree : postTree.lookups = [⟨["title", "0"], []⟩, ⟨["author"], []⟩] := by decide +kernel
  have htitle : (postData.valueOf (.str "title")).lookups = [⟨["site", "name"], []⟩] := by decide +kernel
  have hsite : (postData.valueOf (.str "site")).lookups = [] := by decide +kernel
  have hauthor : (postData.valueOf (.str "author")).lookups = [] := by decide +kernel
  refine ⟨fun ref href => ?_, fun k hk ref href => ?_⟩
  · rw [← Value.mem_lookups, htree] at href
    rcases List.mem_pair.mp href with rfl | rfl
    · exact ⟨"title", ["0"], rfl, Or.inl rfl⟩
    · exact ⟨"author", [], rfl, Or.inr (Or.inr rfl)⟩
  · rw [← Value.mem_lookups] at href
    rcases hk with rfl | rfl | rfl
    · rw [htitle] at href
      obtain rfl := List.mem_singleton.mp href
      exact ⟨"site", ["name"], rfl, Or.inr (Or.inl rfl)⟩
    · rw [hsite] at href
      exact absurd href List.not_mem_nil
    · rw [hauthor] at href
      exact absurd href List.not_mem_nil

/-- The author is missed in the one page as in the other. -/
theorem postTree_reads_post :
    Encloses postKeys postData postTree ∧ (∀ k ∈ postKeys, postData.valueOf k = revisedData.valueOf k) ∧
      Resolver.standard.resolve ⟨"/", postData, exampleSite.url⟩ postTree = .error (.fault (.notFound ["author"])) ∧
      Resolver.standard.resolve ⟨"/", revisedData, exampleSite.url⟩ postTree = .error (.fault (.notFound ["author"])) := by
  have hsame : ∀ k ∈ postKeys, postData.valueOf k = revisedData.valueOf k := by
    rintro k (rfl | rfl | rfl) <;> decide +kernel
  have hfails :
      Resolver.standard.resolve ⟨"/", postData, exampleSite.url⟩ postTree = .error (.fault (.notFound ["author"])) := by
    decide +kernel
  have halike :=
    resolve_reads_enclosed .standard rfl "/" exampleSite.url postData revisedData postTree postKeys postKeys_enclose hsame
  exact ⟨postKeys_enclose, hsame, hfails, halike.symm.trans hfails⟩

end Resolver

end LinkedData
