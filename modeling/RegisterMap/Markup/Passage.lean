import RegisterMap.Text.Literal

/-!
# Passages

Stretches of a document that carry no element: comments, processing instructions, character data
sections and document type declarations.  Each runs from its opening mark to the next closing mark,
whatever stands between them.
-/

namespace RegisterMap
namespace Markup

/-- The kinds of passage. -/
inductive Passage where
  | comment
  | instruction
  | characterData
  | doctype
deriving Repr, DecidableEq

namespace Passage

/-- The mark that opens the passage. -/
def opening : Passage → List Char
  | comment => ['<', '!', '-', '-']
  | instruction => ['<', '?']
  | characterData => ['<', '!', '[', 'C', 'D', 'A', 'T', 'A', '[']
  | doctype => ['<', '!', 'D', 'O', 'C', 'T', 'Y', 'P', 'E']

/-- The mark that closes the passage. -/
def closing : Passage → List Char
  | comment => ['-', '-', '>']
  | instruction => ['?', '>']
  | characterData => [']', ']', '>']
  | doctype => ['>']

/-- The passages that may stand before the root element. -/
def beforeRoot : List Passage :=
  [comment, instruction, doctype]

/-- The passages that may stand inside an element. -/
def inElement : List Passage :=
  [comment, instruction, characterData]

/-- The passages that may stand after the root element. -/
def afterRoot : List Passage :=
  [comment, instruction]

/-- The passage that begins here, if one of those allowed does, and what follows its opening mark. -/
def open? (allowed : List Passage) (text : List Char) : Option (Passage × List Char) :=
  match allowed with
  | [] => none
  | passage :: others =>
    match Text.after? passage.opening text with
    | some rest => some (passage, rest)
    | none => open? others text

/-- What follows the closing mark of a passage. -/
def close? (passage : Passage) (text : List Char) : Option (List Char) :=
  (Text.until? passage.closing text).map Prod.snd

theorem opening_ne_nil (passage : Passage) : passage.opening ≠ [] := by
  cases passage <;> simp [opening]

theorem eq_append_of_open? {allowed : List Passage} {text rest : List Char} {passage : Passage}
    (h : open? allowed text = some (passage, rest)) : text = passage.opening ++ rest := by
  induction allowed with
  | nil => simp [open?] at h
  | cons first others ih =>
    simp only [open?] at h
    split at h
    · next hfirst =>
      obtain ⟨rfl, rfl⟩ := by simpa using h
      exact Text.after?_eq_some_iff.mp hfirst
    · exact ih h

theorem length_open?_lt {allowed : List Passage} {text rest : List Char} {passage : Passage}
    (h : open? allowed text = some (passage, rest)) : rest.length < text.length := by
  rw [eq_append_of_open? h, List.length_append]
  have := List.length_pos_iff.mpr passage.opening_ne_nil
  omega

theorem length_close?_le {passage : Passage} {text rest : List Char}
    (h : passage.close? text = some rest) : rest.length ≤ text.length := by
  obtain ⟨⟨before, last⟩, huntil, rfl⟩ := Option.map_eq_some_iff.mp h
  exact Text.length_until?_le huntil

end Passage
end Markup
end RegisterMap
