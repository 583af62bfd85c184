/-!
# Open documents

The server keeps the text of every open document, with the language that was
named when it was opened and the version of its last change. A document is
enabled if its language is one of those that the server was started for.

The documents are kept in a table by their addresses. The table is a list in
which each address occurs at most once; what matters of it is only what
`Documents.get?` finds, and how `insert` and `erase` change that.
-/

namespace TurtleAssist

/-- An open document. -/
structure Document where
  text : String
  language : String
  version : Int
deriving DecidableEq, Repr, Inhabited

namespace Document

/-- The document with another text and its version. -/
def update (document : Document) (version : Int) (text : String) : Document :=
  { document with text, version }

/-- Whether the document is in one of the languages. -/
def isEnabled (document : Document) (languages : List String) : Bool :=
  languages.contains document.language

end Document

/-- The open documents by their addresses. -/
structure Documents where
  entries : List (String × Document)
deriving DecidableEq, Repr, Inhabited

namespace Documents

/-- No open document. -/
def empty : Documents := ⟨[]⟩

/-- The document at an address. -/
def get? (documents : Documents) (uri : String) : Option Document :=
  documents.entries.lookup uri

/-- Without the document at an address. -/
def erase (documents : Documents) (uri : String) : Documents :=
  ⟨documents.entries.filter fun entry => !(entry.1 == uri)⟩

/-- With a document at an address, in place of the one that is there. -/
def insert (documents : Documents) (uri : String) (document : Document) : Documents :=
  ⟨(uri, document) :: (documents.erase uri).entries⟩

@[simp] theorem get?_empty (uri : String) : empty.get? uri = none := rfl

/-- Erasing an address leaves nothing there and all else as it was. -/
theorem get?_erase (documents : Documents) (uri other : String) :
    (documents.erase uri).get? other = if other = uri then none else documents.get? other := by
  obtain ⟨entries⟩ := documents
  simp only [get?, erase]
  induction entries with
  | nil => simp
  | cons entry entries ih =>
    obtain ⟨key, document⟩ := entry
    by_cases hkey : key = uri
    · subst hkey
      rw [List.filter_cons_of_neg (by simp), ih]
      by_cases hother : other = key
      · simp [hother]
      · simp [hother, List.lookup_cons, beq_eq_false_iff_ne.mpr hother]
    · rw [List.filter_cons_of_pos (by simp [hkey])]
      by_cases hother : other = key
      · subst hother
        simp [hkey]
      · simp [List.lookup_cons, beq_eq_false_iff_ne.mpr hother, ih]

/-- Inserting at an address puts the document there and leaves all else as it was. -/
theorem get?_insert (documents : Documents) (uri other : String) (document : Document) :
    (documents.insert uri document).get? other
      = if other = uri then some document else documents.get? other := by
  have h := get?_erase documents uri other
  by_cases hother : other = uri
  · simp [get?, insert, hother]
  · simp only [get?] at h
    simp [get?, insert, List.lookup_cons, beq_eq_false_iff_ne.mpr hother, h, hother]

end Documents

end TurtleAssist
