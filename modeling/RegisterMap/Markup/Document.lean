import RegisterMap.Markup.Tag

/-!
# Documents

Reading a whole document: passages and blanks, one root element, passages and blanks, and then nothing.

An element's content is read with the elements that are open at that point kept in a list, the innermost
first.  An end tag closes the innermost one, which becomes the last child of the next.
-/

namespace RegisterMap
namespace Markup

/-- What follows the text at the front, up to the next angle bracket, if there is any text. -/
def textRun? : List Char → Option (List Char)
  | [] => none
  | c :: rest => if c = '<' then none else some (rest.dropWhile (· != '<'))

theorem length_textRun?_lt {text rest : List Char} (h : textRun? text = some rest) :
    rest.length < text.length := by
  unfold textRun? at h
  split at h
  · simp at h
  · split at h
    · simp at h
    · obtain rfl := by simpa using h
      exact Nat.lt_succ_of_le (List.dropWhile_sublist _).length_le

/-- Reads on inside the element `top`, whose ancestors are `outer`, until the last of them is closed. -/
def content (top : Element) (outer : List Element) (text : List Char) :
    Except Stop (Element × List Char) :=
  match _hopen : Passage.open? Passage.inElement text with
  | some (passage, rest) =>
    match _hclose : passage.close? rest with
    | some rest => content top outer rest
    | none => .error ⟨.unclosedInside passage, rest⟩
  | none =>
    match _htag : tagName? text with
    | some (tag, rest) =>
      match _hstart : startTag tag rest with
      -- A tag that closes its own element adds a child; any other one is gone into.
      | .ok (child, true, rest) => content (top.withChild child) outer rest
      | .ok (child, false, rest) => content child (top :: outer) rest
      | .error stop => .error stop
    | none =>
      -- Text between tags is passed over: a description is all in attributes.
      match _htext : textRun? text with
      | some rest => content top outer rest
      | none =>
        match _hend : endTag top.tag text with
        | .ok rest =>
          match outer with
          | [] => .ok (top, rest)
          | parent :: outer => content (parent.withChild top) outer rest
        | .error stop => .error stop
termination_by text.length
decreasing_by
  · have h₁ := Passage.length_open?_lt _hopen
    have h₂ := Passage.length_close?_le _hclose
    omega
  · have h₁ := length_tagName?_lt _htag
    have h₂ := length_startTag_lt _hstart
    omega
  · have h₁ := length_tagName?_lt _htag
    have h₂ := length_startTag_lt _hstart
    omega
  · exact length_textRun?_lt _htext
  · exact length_endTag_lt _hend

/-- Reads the root element. -/
def root (text : List Char) : Except Stop (Element × List Char) :=
  match tagName? text with
  -- The place that is reported is after the bracket, if there is one.
  | none => .error ⟨.noRoot, (Text.after? ['<'] text).getD text⟩
  | some (tag, rest) =>
    match startTag tag rest with
    | .ok (e, true, rest) => .ok (e, rest)
    | .ok (e, false, rest) => content e [] rest
    | .error stop => .error stop

/-- Passes over blanks and passages outside the root element. -/
def surroundings (allowed : List Passage) (text : List Char) : Except Stop (List Char) :=
  match _hopen : Passage.open? allowed text with
  | some (passage, rest) =>
    match _hclose : passage.close? rest with
    | some rest => surroundings allowed rest
    | none => .error ⟨.unclosedOutside passage, rest⟩
  | none =>
    match text with
    | [] => .ok []
    | c :: rest => if isSpace c then surroundings allowed rest else .ok (c :: rest)
termination_by text.length
decreasing_by
  · have h₁ := Passage.length_open?_lt _hopen
    have h₂ := Passage.length_close?_le _hclose
    omega
  · simp

/-- Reads a document to its end. -/
def document (text : List Char) : Except Stop Element := do
  let text ← surroundings Passage.beforeRoot text
  let (e, text) ← root text
  match ← surroundings Passage.afterRoot text with
  | [] => return e
  | rest => throw ⟨.trailing, rest⟩

/-- A text without the byte order mark that may begin it. -/
def withoutMark : List Char → List Char
  | '\uFEFF' :: rest => rest
  | text => text

/-- The root element of a document.  One byte order mark at the front is not part of the document. -/
def parse (text : String) : Except SyntaxFault Element :=
  let chars := withoutMark text.toList
  (document chars).mapError (SyntaxFault.ofStop chars)

theorem parse_eq_ok_iff {text : String} {e : Element} :
    parse text = .ok e ↔ document (withoutMark text.toList) = .ok e := by
  simp only [parse]
  cases document (withoutMark text.toList) with
  | error stop => exact ⟨nofun, nofun⟩
  | ok root =>
    constructor
    · intro h
      cases h
      rfl
    · intro h
      cases h
      rfl

end Markup
end RegisterMap
