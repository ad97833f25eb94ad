import RegisterMap.Markup.Element
import RegisterMap.Markup.Fault
import RegisterMap.Markup.Reference
import RegisterMap.Text.Alphabetic

/-!
# Tags

Reading names, attributes, start tags and end tags.  Each reader takes the text that is left and returns
what it read with the rest, which is shorter.
-/

namespace RegisterMap
namespace Markup

/-- The blanks of markup: space, tab, carriage return and line feed. -/
def isSpace (c : Char) : Bool :=
  c == ' ' || c == '\t' || c == '\r' || c == '\n'

/-- The text from its first character that is not a blank. -/
def skipSpace (text : List Char) : List Char :=
  text.dropWhile isSpace

/-- The character can begin a name. -/
def isNameStart (c : Char) : Bool :=
  Text.isAlphabetic c || c == '_' || c == ':'

/-- The character can stand in a name after its first. -/
def isNameChar (c : Char) : Bool :=
  Text.isAlphanumeric c || c == '_' || c == ':' || c == '-' || c == '.'

/-- The longest name at the front of a text. -/
def name? : List Char → Option (List Char × List Char)
  | [] => none
  | c :: rest =>
    if isNameStart c then
      some (c :: rest.takeWhile isNameChar, rest.dropWhile isNameChar)
    else
      none

/-- A value between two quotes of the same kind, with its references not yet replaced. -/
def quoted? : List Char → Option (List Char × List Char)
  | '\x22' :: rest => Text.until? ['\x22'] rest
  | '\x27' :: rest => Text.until? ['\x27'] rest
  | _ => none

/-- An attribute: a name, an equals sign that may have blanks around it, and a quoted value. -/
def attribute? (text : List Char) : Option ((String × String) × List Char) := do
  let (key, rest) ← name? text
  let rest ← Text.after? ['='] (skipSpace rest)
  let (value, rest) ← quoted? (skipSpace rest)
  return ((String.ofList key, String.ofList (decode value)), rest)

theorem length_skipSpace_le (text : List Char) : (skipSpace text).length ≤ text.length :=
  (List.dropWhile_sublist isSpace).length_le

theorem length_name?_lt {text name rest : List Char} (h : name? text = some (name, rest)) :
    rest.length < text.length := by
  cases text with
  | nil => simp [name?] at h
  | cons c text =>
    simp only [name?] at h
    split at h
    · obtain ⟨-, rfl⟩ := by simpa using h
      exact Nat.lt_succ_of_le (List.dropWhile_sublist isNameChar).length_le
    · simp at h

theorem length_quoted?_le {text value rest : List Char} (h : quoted? text = some (value, rest)) :
    rest.length ≤ text.length := by
  unfold quoted? at h
  split at h
  · exact Nat.le_succ_of_le (Text.length_until?_le h)
  · exact Nat.le_succ_of_le (Text.length_until?_le h)
  · simp at h

theorem length_attribute?_lt {text rest : List Char} {entry : String × String}
    (h : attribute? text = some (entry, rest)) : rest.length < text.length := by
  simp only [attribute?, bind, Option.bind_eq_some_iff, Prod.exists] at h
  obtain ⟨key, r, hname, s, hequals, value, t, hvalue, heq⟩ := h
  obtain ⟨-, rfl⟩ := by simpa using heq
  have h₁ := length_name?_lt hname
  have h₂ := length_skipSpace_le r
  have h₃ := congrArg List.length (Text.after?_eq_some_iff.mp hequals)
  have h₄ := length_skipSpace_le s
  have h₅ := length_quoted?_le hvalue
  simp only [List.length_append] at h₃
  omega

/-- The attributes at the front of a text, each after at least one blank. -/
def attributes (text : List Char) : List (String × String) × List Char :=
  match text with
  | [] => ([], [])
  | c :: rest =>
    if isSpace c then
      match _h : attribute? (skipSpace rest) with
      | some (entry, rest') =>
        let (entries, last) := attributes rest'
        (entry :: entries, last)
      -- The blanks before what is no attribute are left as well.
      | none => ([], c :: rest)
    else
      ([], c :: rest)
termination_by text.length
decreasing_by
  have h₁ := length_attribute?_lt _h
  have h₂ := length_skipSpace_le rest
  simp only [List.length_cons]
  omega

theorem length_attributes_le (text : List Char) : (attributes text).2.length ≤ text.length := by
  fun_induction attributes text with
  | case1 => simp
  | case2 c rest _ entry rest' h entries last heq ih =>
    have h₁ := length_attribute?_lt h
    have h₂ := length_skipSpace_le rest
    rw [heq] at ih
    simp only [List.length_cons] at ih ⊢
    omega
  | case3 => simp
  | case4 => simp

/-- The tag at the front of a text, if an angle bracket and a name begin it. -/
def tagName? : List Char → Option (String × List Char)
  | '<' :: rest => (name? rest).map fun (name, rest) => (String.ofList name, rest)
  | _ => none

/-- A start tag from the end of its name on.  The element has no children yet; the flag says that the
tag closes it as well. -/
def startTag (tag : String) (text : List Char) : Except Stop (Element × Bool × List Char) :=
  let (entries, rest) := attributes text
  match skipSpace rest with
  | '/' :: '>' :: rest => .ok (⟨tag, entries, []⟩, true, rest)
  | '>' :: rest => .ok (⟨tag, entries, []⟩, false, rest)
  | rest => .error ⟨.startTag, rest⟩

/-- What follows the end tag of an element. -/
def endTag (tag : String) (text : List Char) : Except Stop (List Char) :=
  match Text.after? ['<', '/'] text with
  | none => .error ⟨.endTag, text⟩
  | some rest =>
    match Text.after? tag.toList rest with
    -- Another tag is open than the one that is closed here.
    | none => .error ⟨.endTag, rest⟩
    | some rest =>
      match skipSpace rest with
      | '>' :: rest => .ok rest
      | rest => .error ⟨.endTag, rest⟩

theorem length_tagName?_lt {text rest : List Char} {tag : String}
    (h : tagName? text = some (tag, rest)) : rest.length < text.length := by
  unfold tagName? at h
  split at h
  · obtain ⟨⟨name, last⟩, hname, heq⟩ := Option.map_eq_some_iff.mp h
    obtain ⟨-, rfl⟩ := by simpa using heq
    exact Nat.lt_succ_of_lt (length_name?_lt hname)
  · simp at h

theorem length_startTag_lt {tag : String} {text rest : List Char} {e : Element} {closed : Bool}
    (h : startTag tag text = .ok (e, closed, rest)) : rest.length < text.length := by
  have hle := length_attributes_le text
  unfold startTag at h
  split at h
  next entries last hattributes =>
    rw [hattributes] at hle
    have hskip := length_skipSpace_le last
    split at h
    · next heq =>
      rw [heq] at hskip
      simp only [Except.ok.injEq, Prod.mk.injEq] at h
      obtain ⟨-, -, rfl⟩ := h
      simp only [List.length_cons] at hskip hle
      omega
    · next heq =>
      rw [heq] at hskip
      simp only [Except.ok.injEq, Prod.mk.injEq] at h
      obtain ⟨-, -, rfl⟩ := h
      simp only [List.length_cons] at hskip hle
      omega
    · simp at h

theorem length_endTag_lt {tag : String} {text rest : List Char}
    (h : endTag tag text = .ok rest) : rest.length < text.length := by
  unfold endTag at h
  split at h
  · simp at h
  · next hopen =>
    split at h
    · simp at h
    · next htag =>
      have h₁ := congrArg List.length (Text.after?_eq_some_iff.mp hopen)
      have h₂ := congrArg List.length (Text.after?_eq_some_iff.mp htag)
      split at h
      · next heq =>
        have h₃ := congrArg List.length heq ▸ length_skipSpace_le _
        obtain rfl := by simpa using h
        simp only [List.length_append, List.length_cons] at h₁ h₂ h₃
        omega
      · simp at h

end Markup
end RegisterMap
