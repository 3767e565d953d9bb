import LinkedData.Proofs.Document.Injection

/-!
# Kinds of documents

A library need not read all texts, nor write all documents so that they are read again. What is relied on is that it
does so for the documents of some kind and for their texts.

* `DocumentKind`: documents in which no head is inside of a script, and which stay of the kind when linked data is put
  into them;
* `MarkupLibrary.InverseOn`: the library reads what it writes and writes what it reads, as far as a kind goes;
* `DocumentKind.injected?_isOnly`, `MarkupLibrary.InverseOn.read_write_injected?`: so an injection leaves the script as
  the only one of linked data, and survives in the text of the document.
-/

namespace LinkedData

open Element

/-- A kind of documents. Linked data without tags can be put into them. -/
structure DocumentKind where
  Holds : Element → Prop
  root : ∀ {e}, Holds e → e.isDataScript = false
  headsOutside : ∀ {e}, Holds e → e.HeadsOutside
  injected : ∀ {e document content}, Holds e → '<' ∉ content.toList → e.injected? content = some document →
    Holds document

/-- Reading and writing are inverse to one another on the documents of a kind and the given texts. -/
structure MarkupLibrary.InverseOn (lib : MarkupLibrary) (texts : String → Prop) (kind : DocumentKind) : Prop where
  read_text : ∀ {text}, texts text → ∃ root, lib.read text = .ok root ∧ kind.Holds root ∧ lib.write root = text
  read_write : ∀ {root}, kind.Holds root → texts (lib.write root) ∧ lib.read (lib.write root) = .ok root

section Kinds

variable {kind : DocumentKind} {lib : MarkupLibrary} {texts : String → Prop} {root document : Element} {content : String}

/-- After an injection there is one script of linked data in a document of the kind. -/
theorem DocumentKind.injected?_isOnly (hroot : kind.Holds root) (h : root.injected? content = some document) :
    ∃ a, IsOnly isDataScript document a (dataScript content) := by
  obtain ⟨document', a, _, place, hinjected, _, _, _, _, honly, _, _⟩ :=
    injected?_spec (kind.root hroot) (kind.headsOutside hroot) content
  obtain rfl : document' = document := Option.some.inj (hinjected.symm.trans h)
  exact ⟨a ++ place, honly⟩

/-- **An injection survives in markup.** What is written for a document after an injection is read as that document. -/
theorem MarkupLibrary.InverseOn.read_write_injected? (hlib : lib.InverseOn texts kind) (hroot : kind.Holds root)
    (hcontent : '<' ∉ content.toList) (h : root.injected? content = some document) :
    texts (lib.write document) ∧ lib.read (lib.write document) = .ok document :=
  hlib.read_write (kind.injected hroot hcontent h)

end Kinds

end LinkedData
