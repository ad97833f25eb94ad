import RegisterMap.Markup.Passage

/-!
# Syntax faults

Why a text is not a document, and where reading it stopped.
-/

namespace RegisterMap
namespace Markup

/-! ### Positions

A place in a text, by line and column, both counted from one.  A line feed ends a line; a column is one
character.
-/

/-- A place in a text. -/
structure Position where
  line : Nat
  column : Nat
deriving Repr, DecidableEq

namespace Position

/-- The place at which a text begins. -/
def start : Position :=
  ⟨1, 1⟩

/-- The place after one more character. -/
def advance (p : Position) (c : Char) : Position :=
  if c = '\n' then ⟨p.line + 1, 1⟩ else ⟨p.line, p.column + 1⟩

/-- The place after a text. -/
def after (text : List Char) : Position :=
  text.foldl advance start

/-- A place as messages show it. -/
def text (p : Position) : String :=
  s!"{p.line}:{p.column}"

end Position

/-! ### Flaws -/

/-- Why reading stopped. -/
inductive Flaw where
  /-- There is no root element. -/
  | noRoot
  /-- A start tag is not closed after its attributes. -/
  | startTag
  /-- An element is not closed by its end tag. -/
  | endTag
  /-- A passage before or after the root element is not closed. -/
  | unclosedOutside (passage : Passage)
  /-- A passage inside an element is not closed. -/
  | unclosedInside (passage : Passage)
  /-- Something follows the root element. -/
  | trailing
deriving Repr, DecidableEq

/-- What a passage is called in messages; a document type declaration has no name there. -/
def Passage.label : Passage → String
  | comment => "invalid comment"
  | instruction => "invalid processing instruction"
  | characterData => "invalid CDATA section"
  | doctype => ""

/-- What was expected where reading stopped. -/
def Flaw.message : Flaw → String
  | noRoot => "expected root element"
  | startTag => "expected `>` or `/>`, root element"
  | endTag => "expected matching end tag, root element"
  | unclosedOutside passage => passage.label
  | unclosedInside passage => passage.label ++ "\nexpected root element"
  | trailing => ""

/-- A flaw and the text that was still unread where it was met. -/
structure Stop where
  flaw : Flaw
  rest : List Char
deriving Repr, DecidableEq

/-- A flaw and its place. -/
structure SyntaxFault where
  position : Position
  flaw : Flaw
deriving Repr, DecidableEq

namespace SyntaxFault

/-- The place of a stop is the one after the text that was read. -/
def ofStop (text : List Char) (stop : Stop) : SyntaxFault :=
  ⟨Position.after (text.take (text.length - stop.rest.length)), stop.flaw⟩

/-- The fault as messages show it. -/
def message (fault : SyntaxFault) : String :=
  s!"syntax error at {fault.position.text}: {fault.flaw.message}"

end SyntaxFault

end Markup
end RegisterMap
