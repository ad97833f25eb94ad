import RegisterMap.Device.Basic
import RegisterMap.Numeral
import RegisterMap.Text.Lower
import RegisterMap.Text.Pieces
import RegisterMap.Text.Upper

/-!
# The vocabulary of a header

What the declarations of a header are put together from: types and their names, constants, comments,
assertions, and the choices about how all that is to look.
-/

namespace RegisterMap

/-! ### Formats

The choices about a header that do not touch its meaning.
-/

namespace Header

/-- How a header is to look. -/
structure Format where
  /-- The width in bytes up to which comment lines are filled. -/
  commentWidth : Nat
  /-- Lines that come first, as comments. -/
  banner : List String
deriving Repr, DecidableEq

namespace Format

/-- Comments up to 100 bytes wide, and no banner. -/
def standard : Format :=
  ⟨100, []⟩

end Format

/-- Lines of one block of a header. -/
def joinLines (lines : List String) : String :=
  String.intercalate "\n" lines

/-- Blocks of a header, with an empty line between neighbours. -/
def joinBlocks (blocks : List String) : String :=
  String.intercalate "\n\n" blocks

end Header

/-! ### Storage types

The unsigned C type that holds a register of a given width.
-/

/-- The unsigned C integer types of exact width. -/
inductive Storage where
  | uint8
  | uint16
  | uint32
  | uint64
deriving Repr, DecidableEq

namespace Storage

/-- The narrowest type with room for that many bits; the widest one if none has. -/
def ofBits (bits : Nat) : Storage :=
  if bits ≤ 8 then uint8
  else if bits ≤ 16 then uint16
  else if bits ≤ 32 then uint32
  else uint64

/-- The name of the type in C. -/
def name : Storage → String
  | uint8 => "uint8_t"
  | uint16 => "uint16_t"
  | uint32 => "uint32_t"
  | uint64 => "uint64_t"

/-- The number of bytes that a value of the type takes, which is also its alignment. -/
def bytes : Storage → Nat
  | uint8 => 1
  | uint16 => 2
  | uint32 => 4
  | uint64 => 8

end Storage

/-! ### Type names

Names of the description become parts of C type names: their words run together, each with a capital
first letter.
-/

namespace Header

/-- The word has a character in upper case and none in lower case. -/
def isUpperWord (word : List Char) : Bool :=
  word.any Text.isUpper && !word.any Text.isLower

/-- A word with a capital first letter.  The rest is put into lower case only if the whole word was in
upper case. -/
def camelWord : List Char → List Char
  | [] => []
  | first :: rest =>
    Text.upperChar first ++
      if isUpperWord (first :: rest) then rest.flatMap Text.lowerChar else rest

/-- Underscores and spaces divide a name into words. -/
def isWordBreak (c : Char) : Bool :=
  c == '_' || c == ' '

/-- A name as part of a type name. -/
def camelCase (name : String) : String :=
  String.ofList ((Text.wordsBy isWordBreak name.toList).flatMap camelWord)

/-- The name of the type of a register. -/
def registerType (p : Peripheral) (r : Register) : String :=
  camelCase p.name ++ camelCase r.name ++ "RegDef"

/-- The name of the type of a peripheral. -/
def peripheralType (p : Peripheral) : String :=
  camelCase p.name ++ "PeriphDef"

/-! ### Constants in comments

Reset values are shown in decimal if they have one digit, and else in hexadecimal with the digits in
groups of four.
-/

/-- Digits given last first, with an underscore after every fourth one that another digit follows.
`done` counts the digits of the current group so far. -/
def groupReversed : Nat → List Char → List Char
  | _, [] => []
  -- The underscore waits for the digit after it, so that none stands in front of a number.
  | 4, c :: rest => '_' :: c :: groupReversed 1 rest
  | done, c :: rest => c :: groupReversed (done + 1) rest

/-- Digits in groups of four, counted from the last one. -/
def grouped (digits : List Char) : List Char :=
  (groupReversed 0 digits.reverse).reverse

/-- A value as comments show it. -/
def constant (value : Nat) : String :=
  if value ≤ 9 then toString value
  else String.ofList ('0' :: 'x' :: grouped (Numeral.hexDigits value))

/-! ### Comment lines

A description becomes comment lines that are filled greedily: a word goes on the current line if the
line then is no wider than the page, and else starts the next one.  A word that is wider than the page
has a line of its own.  Width is counted in bytes of UTF-8.
-/

/-- A text with its first character in upper case. -/
def capitalize : List Char → List Char
  | [] => []
  | c :: rest => Text.upperChar c ++ rest

/-- What stands before the text on each comment line. -/
def commentMark (indent : String) : String :=
  indent ++ "// "

/-- Fills comment lines with words.  The current line holds `line`, at least one word, after the mark. -/
def fill (mark : String) (width : Nat) (line : String) : List String → List String
  | [] => [mark ++ line]
  | word :: rest =>
    -- The one is for the space before the word.
    if mark.utf8ByteSize + line.utf8ByteSize + 1 + word.utf8ByteSize ≤ width then
      fill mark width (line ++ " " ++ word) rest
    else
      (mark ++ line) :: fill mark width word rest

/-- The words of a description as its comment shows them. -/
def commentWords (text : String) : List String :=
  (Text.words (capitalize (Text.trimChars text.toList))).map String.ofList

/-- A description as comment lines of at most `width` bytes, where its words allow that.  A blank
description has no lines. -/
def comment (text indent : String) (width : Nat) : List String :=
  match commentWords text with
  | [] => []
  | word :: rest => fill (commentMark indent) width word rest

/-! ### Assertions

What a header has the compiler check: sizes of types and offsets of their members.
-/

/-- A fact that the compiler is to check. -/
inductive Assertion where
  /-- A value of the type takes that many bytes. -/
  | size (type : String) (bytes : Nat)
  /-- The member begins that many bytes after the type's beginning. -/
  | offset (type member : String) (bytes : Nat)
deriving Repr, DecidableEq

/-- The assertion in C. -/
def Assertion.line : Assertion → String
  | size type bytes => s!"static_assert(sizeof({type}) == {bytes});"
  | offset type member bytes => s!"static_assert(offsetof({type}, {member}) == {bytes});"

end Header

end RegisterMap
