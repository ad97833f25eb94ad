import RegisterMap.Markup.Tag

/-!
# The grammar of documents

Which texts are documents, and with which tree, said without a reader: a text is put together from its
parts.  `Grammar.Derives text e` says that the text is a document with root `e`.

Text between elements, comments and the like leave no trace in the tree.  Tags, attributes in the order
in which they are written, and child elements in order make up all of it.
-/

namespace RegisterMap
namespace Markup
namespace Grammar

/-- The mark occurs nowhere in the text. -/
def FreeOf (mark text : List Char) : Prop :=
  ¬ mark <:+: text

/-- Nothing but blanks, and perhaps nothing at all. -/
def Spaces (text : List Char) : Prop :=
  ∀ c ∈ text, isSpace c = true

/-- Character data between the marks of markup: no angle bracket opens in it. -/
def CharacterData (text : List Char) : Prop :=
  ∀ c ∈ text, c ≠ '<'

/-- A name: a character that begins one, then characters that go on with one. -/
inductive Name : List Char → Prop
  | mk (c : Char) (rest : List Char) (hstart : isNameStart c = true)
      (hrest : ∀ d ∈ rest, isNameChar d = true) : Name (c :: rest)

/-- A passage: its opening mark, anything free of its closing mark, and that mark. -/
inductive PassageText : Passage → List Char → Prop
  | mk (passage : Passage) (body : List Char) (hbody : FreeOf passage.closing body) :
      PassageText passage (passage.opening ++ body ++ passage.closing)

/-- An attribute: a name, an equals sign with blanks around it, and a value between quotes of one kind
that does not hold that quote.  The references in the value are replaced. -/
inductive AttributeText : List Char → String × String → Prop
  | mk (key before after value : List Char) (quote : Char) (hkey : Name key)
      (hbefore : Spaces before) (hafter : Spaces after) (hquote : quote = '\x22' ∨ quote = '\x27')
      (hvalue : quote ∉ value) :
      AttributeText (key ++ before ++ ['='] ++ after ++ [quote] ++ value ++ [quote])
        (String.ofList key, String.ofList (decode value))

/-- The attributes of a start tag, each after at least one blank. -/
inductive AttributeList : List Char → List (String × String) → Prop
  | nil : AttributeList [] []
  | cons (space text rest : List Char) (entry : String × String)
      (entries : List (String × String)) (hspace : Spaces space) (hne : space ≠ [])
      (htext : AttributeText text entry) (hrest : AttributeList rest entries) :
      AttributeList (space ++ text ++ rest) (entry :: entries)

mutual

/-- An element: a tag that opens and closes it, or a start tag, its content and an end tag with the same
name. -/
inductive ElementText : List Char → Element → Prop
  | single (tag attributes space : List Char) (entries : List (String × String))
      (htag : Name tag) (hattributes : AttributeList attributes entries) (hspace : Spaces space) :
      ElementText (['<'] ++ tag ++ attributes ++ space ++ ['/', '>'])
        ⟨String.ofList tag, entries, []⟩
  | paired (tag attributes space content last : List Char) (entries : List (String × String))
      (children : List Element) (htag : Name tag)
      (hattributes : AttributeList attributes entries) (hspace : Spaces space)
      (hcontent : ContentText content children) (hlast : Spaces last) :
      ElementText (['<'] ++ tag ++ attributes ++ space ++ ['>'] ++ content ++ ['<', '/'] ++ tag ++
        last ++ ['>']) ⟨String.ofList tag, entries, children⟩

/-- The content of an element: passages, character data and elements in any order. -/
inductive ContentText : List Char → List Element → Prop
  | nil : ContentText [] []
  | passage (passage : Passage) (text rest : List Char) (children : List Element)
      (hallowed : passage ∈ Passage.inElement) (htext : PassageText passage text)
      (hrest : ContentText rest children) : ContentText (text ++ rest) children
  | data (text rest : List Char) (children : List Element) (htext : CharacterData text)
      (hrest : ContentText rest children) : ContentText (text ++ rest) children
  | element (text rest : List Char) (e : Element) (children : List Element)
      (htext : ElementText text e) (hrest : ContentText rest children) :
      ContentText (text ++ rest) (e :: children)

end

/-- What may stand before or after the root element: blanks, and passages of the kinds allowed. -/
inductive Surroundings (allowed : List Passage) : List Char → Prop
  | nil : Surroundings allowed []
  | space (c : Char) (rest : List Char) (hspace : isSpace c = true)
      (hrest : Surroundings allowed rest) : Surroundings allowed (c :: rest)
  | passage (passage : Passage) (text rest : List Char) (hallowed : passage ∈ allowed)
      (htext : PassageText passage text) (hrest : Surroundings allowed rest) :
      Surroundings allowed (text ++ rest)

/-- A document: one root element and what may surround it. -/
inductive DocumentText : List Char → Element → Prop
  | mk (before text after : List Char) (e : Element)
      (hbefore : Surroundings Passage.beforeRoot before) (htext : ElementText text e)
      (hafter : Surroundings Passage.afterRoot after) : DocumentText (before ++ text ++ after) e

/-- A text that holds a document, perhaps after a byte order mark. -/
inductive Derives : List Char → Element → Prop
  | plain (text : List Char) (e : Element) (h : DocumentText text e) : Derives text e
  | marked (text : List Char) (e : Element) (h : DocumentText text e) :
      Derives ('\uFEFF' :: text) e

end Grammar
end Markup
end RegisterMap
