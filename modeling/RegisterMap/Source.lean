import RegisterMap.Fault
import RegisterMap.Markup.Document

/-!
# Sources of documents

Where the documents of a description come from: something that gives the text at a path and knows when
two paths name the same document.
-/

namespace RegisterMap

/-- A place that documents are read from. -/
structure Source where
  /-- The text at a path. -/
  read : Path → Except ReadFault String
  /-- The two paths name the same document. -/
  same : Path → Path → Bool

/-- The root element of the document at a path. -/
def Source.load (source : Source) (path : Path) : Except Failure Markup.Element :=
  match source.read path with
  | .error fault => .error ⟨[.reading path], .unreadable fault⟩
  | .ok text =>
    match Markup.parse text with
    | .error fault => .error ⟨[.parsing path], .unparsable fault⟩
    | .ok e => .ok e

/-- The two paths have one normal form. -/
def Path.agree (p q : Path) : Bool :=
  p.normalize == q.normalize

/-- To take out the entries at one key changes nothing at any other. -/
theorem lookup_filter_of_ne {α β : Type} [BEq α] [LawfulBEq α] {a b : α} (h : b ≠ a)
    (entries : List (α × β)) : (entries.filter (·.1 != a)).lookup b = entries.lookup b := by
  induction entries with
  | nil => rfl
  | cons entry rest ih =>
      obtain ⟨key, value⟩ := entry
      by_cases hkey : key = a
      · subst hkey
        rw [List.filter_cons_of_neg (by simp), ih, List.lookup_cons, beq_false_of_ne h]
      · rw [List.filter_cons_of_pos (by simpa using hkey), List.lookup_cons, List.lookup_cons, ih]

/-- Documents kept under the normal forms of their paths. -/
structure Archive where
  documents : List (Path × String)
deriving Repr, DecidableEq

namespace Archive

/-- An archive without documents. -/
def empty : Archive :=
  ⟨[]⟩

/-- The archive with a document put in place of the one at its path, if there is one. -/
def insert (archive : Archive) (path : Path) (text : String) : Archive :=
  ⟨(path.normalize, text) :: archive.documents.filter (·.1 != path.normalize)⟩

/-- The document at a path. -/
def get? (archive : Archive) (path : Path) : Option String :=
  archive.documents.lookup path.normalize

/-- An archive as a source. -/
def source (archive : Archive) : Source where
  read path :=
    match archive.get? path with
    | some text => .ok text
    | none => .error (.unknown path)
  same := Path.agree

end Archive
end RegisterMap
