import RegisterMap.Proofs.Handles
import RegisterMap.Proofs.OffsetGroup

/-!
# The lines of a header

A header is lines of a few kinds (`Line`), in sections with an empty line between neighbours.  The kinds
keep apart what the text alone does not show: whether a comment comes from a description, which line ends
the type of a register and which that of a peripheral, and what a declaration refers to.  The text of a
header is that of its lines, joined (`text_eq`); what is said about its lines is thereby said about its
text.
-/

namespace RegisterMap
namespace Header

/-- A line of a header. -/
inductive Line where
  /-- A comment line that is filled with words of a description. -/
  | description (text : String)
  /-- Any other comment. -/
  | remark (text : String)
  /-- A line that names nothing of the device: a directive, a brace or an empty line. -/
  | fixed (text : String)
  /-- A bit field. -/
  | bits (storage : Storage) (name : String) (width : Nat) (access : String)
  /-- The whole of a register as a number. -/
  | raw (storage : Storage)
  /-- The end of the type of a register, which names it. -/
  | overlay (name : String)
  /-- Padding in the type of a peripheral. -/
  | padding (index size : Nat)
  /-- A register in the type of a peripheral. -/
  | member (indent type name : String)
  /-- The end of the type of a peripheral, which names it. -/
  | struct (name : String)
  | assertion (assertion : Assertion)
  /-- A pointer to an instance. -/
  | handle (type name : String) (address : Nat)
  /-- The beginning of an array of handles. -/
  | array (type name : String) (length : Nat)
  /-- An entry of an array, with the handle that it names if there is one. -/
  | slot (handle? : Option String)
deriving DecidableEq

namespace Line

/-- The line in C. -/
def text : Line → String
  | description text => text
  | remark text => text
  | fixed text => text
  | bits storage name width access => s!"    {storage.name} {name} : {width};  // {access}"
  | raw storage => s!"  {storage.name} raw;  // Entire register as raw {storage.name}."
  | overlay name => s!"\x7d {name};"
  | padding index size => s!"  uint8_t unused{index}[{size}];  // Unused address space."
  | member indent type name => s!"{indent}{type} {name};"
  | struct name => s!"\x7d {name};"
  | assertion a => a.line
  | handle type name address => declaration type name (Numeral.hexPadded address)
  | array type name length => arrayOpening type name length
  | slot handle? => "    " ++ handle?.getD "NULL" ++ ","

/-- The comment above an overlay: its title and after that a description. -/
def titled : List String → List Line
  | [] => []
  | title :: rest => .remark title :: rest.map .description

theorem map_text_description (lines : List String) :
    (lines.map Line.description).map text = lines := by
  rw [List.map_map]
  exact List.map_id lines

/-- Only the first line of such a comment is a title, so that a comment without lines has none. -/
theorem map_text_titled (lines : List String) : (titled lines).map text = lines := by
  cases lines with
  | nil => rfl
  | cons title rest => exact congrArg (title :: ·) (map_text_description rest)

theorem map_text_assertion (assertions : List Assertion) :
    (assertions.map Line.assertion).map text = assertions.map Assertion.line :=
  List.map_map

end Line

/-! ### The lines of each part -/

/-- The lines of a bit field. -/
def BitMember.marked (storage : Storage) (m : BitMember) : List Line :=
  m.comment.map .description ++ [.bits storage m.name m.width m.remark]

/-- The lines of an overlay. -/
def Overlay.marked (o : Overlay) : List Line :=
  Line.titled o.comment ++ [.fixed "typedef union \x7b", .fixed "  struct \x7b"] ++
    o.members.flatMap (BitMember.marked o.storage) ++
    [.fixed "  \x7d;", .raw o.storage, .overlay o.name, .fixed ""] ++
    o.assertions.map .assertion

/-- The lines of a register in the type of a peripheral. -/
def StructField.marked (indent : String) (f : StructField) : List Line :=
  f.comment.map .description ++ [.member indent f.type f.name]

/-- The lines of a member of the type of a peripheral. -/
def StructMember.marked : StructMember → List Line
  | padding index size => [.padding index size]
  | field f => f.marked indent
  | union fs =>
    [.fixed "  union \x7b"] ++ fs.flatMap (StructField.marked unionIndent) ++ [.fixed "  \x7d;"]

/-- The lines of the type of a peripheral. -/
def Struct.marked (s : Struct) : List Line :=
  s.comment.map .description ++ [.fixed "typedef struct \x7b"] ++
    s.members.flatMap StructMember.marked ++ [.struct s.name] ++
    (if s.assertions.isEmpty then [] else .fixed "" :: s.assertions.map .assertion)

namespace HandleBlock

/-- The lines of the handles of a peripheral. -/
def marked (b : HandleBlock) : List Line :=
  b.handles.flatMap fun h =>
    b.comment.map .description ++ [.handle b.type h.name h.address]

/-- The lines of the array of a peripheral's handles. -/
def markedArray (b : HandleBlock) (a : HandleArray) : List Line :=
  b.comment.map .description ++ [.array b.type a.name a.slots.length] ++ a.slots.map .slot ++
    [.fixed "\x7d;"]

/-- The handles of a peripheral and the array of them. -/
def sections (b : HandleBlock) : List (List Line) :=
  b.marked :: (b.array?.map b.markedArray).toList

end HandleBlock

/-- The types of a peripheral: those of its registers and then its own. -/
def TypeBlock.sections (b : TypeBlock) : List (List Line) :=
  [.remark s!"// {b.peripheral} registers."] :: b.overlays.map Overlay.marked ++ [b.struct.marked]

/-- The lines that come first. -/
def opening (h : Header) : List Line :=
  h.banner.map (fun line => .remark ("// " ++ line)) ++
    (if h.banner.isEmpty then [] else [.fixed ""]) ++
    [.fixed "#pragma once",
      .fixed "",
      .fixed "#include <assert.h>",
      .fixed "#include <stddef.h>",
      .fixed "#include <stdint.h>",
      .fixed "",
      .remark s!"// {h.partNumber} register definitions.",
      .remark s!"// CPU: {h.cpuName}"]

/-- The sections of a header. -/
def sections (h : Header) : List (List Line) :=
  h.opening :: h.types.flatMap TypeBlock.sections ++
    [.remark "// Peripheral instance definitions."] :: h.handles.flatMap HandleBlock.sections

/-- The text of a section. -/
def sectionText (lines : List Line) : String :=
  joinLines (lines.map Line.text)

/-! ### The text of each part -/

theorem sectionText_remark (title : String) : sectionText [.remark title] = title := by
  rw [sectionText, joinLines, List.map_singleton, String.intercalate_singleton]
  rfl

theorem BitMember.map_text_marked (storage : Storage) (m : BitMember) :
    (m.marked storage).map Line.text = m.lines storage := by
  rw [marked, List.map_append, Line.map_text_description]
  rfl

/-- The kinds of lines are added to the lines of an overlay, and take nothing away. -/
theorem Overlay.map_text_marked (o : Overlay) : o.marked.map Line.text = o.lines := by
  simp only [marked, List.map_append, Line.map_text_titled, List.map_flatMap,
    BitMember.map_text_marked, Line.map_text_assertion]
  rfl

theorem StructField.map_text_marked (indent : String) (f : StructField) :
    (f.marked indent).map Line.text = f.lines indent := by
  rw [marked, List.map_append, Line.map_text_description]
  rfl

theorem StructMember.map_text_marked (m : StructMember) : m.marked.map Line.text = m.lines := by
  cases m with
  | padding index size => rfl
  | field f => exact StructField.map_text_marked indent f
  | union fs =>
      simp only [marked, List.map_append, List.map_flatMap, StructField.map_text_marked]
      rfl

theorem Struct.map_text_marked (s : Struct) : s.marked.map Line.text = s.lines := by
  -- The empty line in front of the assertions is there only if they are.
  have hassertions :
      (if s.assertions.isEmpty then []
        else Line.fixed "" :: s.assertions.map .assertion).map Line.text =
      if s.assertions.isEmpty then [] else "" :: s.assertions.map Assertion.line := by
    split
    · rfl
    · rw [List.map_cons, Line.map_text_assertion]
      rfl
  simp only [marked, List.map_append, Line.map_text_description, List.map_flatMap,
    StructMember.map_text_marked, hassertions]
  rfl

namespace HandleBlock

theorem map_text_marked (b : HandleBlock) :
    b.marked.map Line.text = b.handles.flatMap b.handleLines := by
  simp only [marked, List.map_flatMap, List.map_append, Line.map_text_description]
  rfl

theorem map_text_markedArray (b : HandleBlock) (a : HandleArray) :
    (b.markedArray a).map Line.text = b.arrayLines a := by
  have hslots : (a.slots.map Line.slot).map Line.text =
      a.slots.map fun slot => "    " ++ slot.getD "NULL" ++ "," :=
    List.map_map
  simp only [markedArray, List.map_append, Line.map_text_description, hslots]
  rfl

/-- Handles are one section, and the array of them is another if there is one. -/
theorem map_sectionText_sections (b : HandleBlock) : b.sections.map sectionText = b.blocks := by
  have harray : (b.array?.map b.markedArray).toList.map sectionText =
      (b.array?.map fun a => joinLines (b.arrayLines a)).toList := by
    cases b.array? with
    | none => rfl
    | some a => exact congrArg (fun lines => [joinLines lines]) (b.map_text_markedArray a)
  rw [sections, List.map_cons, harray, sectionText, map_text_marked]
  rfl

end HandleBlock

theorem TypeBlock.map_sectionText_sections (b : TypeBlock) :
    b.sections.map sectionText = b.blocks := by
  have hoverlays : (b.overlays.map Overlay.marked).map sectionText =
      b.overlays.map fun o => joinLines o.lines := by
    rw [List.map_map]
    exact List.map_congr_left fun o _ => congrArg joinLines o.map_text_marked
  have hstruct : sectionText b.struct.marked = joinLines b.struct.lines :=
    congrArg joinLines b.struct.map_text_marked
  rw [sections, List.map_append, List.map_cons, hoverlays, sectionText_remark, List.map_singleton,
    hstruct]
  rfl

theorem map_text_opening (h : Header) : h.opening.map Line.text = h.preamble := by
  have hbanner : (h.banner.map fun line => Line.remark ("// " ++ line)).map Line.text =
      h.banner.map ("// " ++ ·) :=
    List.map_map
  have hgap : (if h.banner.isEmpty then [] else [Line.fixed ""]).map Line.text =
      if h.banner.isEmpty then [] else [""] := by
    split <;> rfl
  rw [opening, List.map_append, List.map_append, hbanner, hgap]
  rfl

/-- The text of a header is that of its lines, with an empty line between sections. -/
theorem text_eq (h : Header) : h.text = joinBlocks (h.sections.map sectionText) ++ "\n" := by
  -- The sections are joined as the blocks are; only what is in them is said in another way.
  have hblocks : h.sections.map sectionText = h.blocks := by
    simp only [sections, List.map_append, List.map_cons, List.map_flatMap,
      TypeBlock.map_sectionText_sections, HandleBlock.map_sectionText_sections, sectionText_remark]
    rw [sectionText, map_text_opening]
    rfl
  rw [hblocks]
  rfl

/-! ### The registers of a struct -/

section
variable (format : Format) (p : Peripheral)

/-- What is the same for a register at every indentation can be read off the register. -/
theorem StructMember.map_fields_ofMember {β : Type} {k : StructField → β} {g : Register → β}
    (h : ∀ indent r, k (StructField.ofRegister format indent p r) = g r) (m : Member) :
    (StructMember.ofMember format p m).fields.map k = m.registers.map g := by
  cases m with
  | register r => exact congrArg ([·]) (h indent r)
  | union first others =>
      -- Registers in a union are indented further, which `k` does not see.
      show ((first :: others).map (StructField.ofRegister format unionIndent p)).map k = _
      rw [List.map_map]
      exact List.map_congr_left fun r _ => h unionIndent r
  | unused index offset size => rfl

/-- The layout keeps the registers in their order and puts only unused bytes between them, which are no
fields. -/
theorem Struct.map_fields_ofPeripheral {β : Type} {k : StructField → β} {g : Register → β}
    (h : ∀ indent r, k (StructField.ofRegister format indent p r) = g r) :
    (Struct.ofPeripheral format p).fields.map k = p.registers.map g := by
  have hmembers : (Struct.ofPeripheral format p).fields.map k =
      p.byteLayout.members.flatMap fun m => (StructMember.ofMember format p m).fields.map k := by
    rw [Struct.fields, Struct.ofPeripheral, List.flatMap_map, List.map_flatMap]
  rw [hmembers]
  simp only [StructMember.map_fields_ofMember format p h]
  rw [← List.map_flatMap, Peripheral.registers_byteLayout]

/-- The size is asserted if there are instances, and the offset of each register in any case. -/
theorem Struct.assertions_ofPeripheral :
    (Struct.ofPeripheral format p).assertions =
      (p.instanceSize?.map fun _ => .size (peripheralType p) p.byteLayout.size).toList ++
        p.registers.map fun r =>
          .offset (peripheralType p) (Text.upper r.name) r.addressOffset := by
  rw [Struct.assertions, Struct.map_fields_ofPeripheral format p
    (g := fun r => .offset (peripheralType p) (Text.upper r.name) r.addressOffset)
    fun indent r => rfl]
  show (Option.map _ (Option.map _ p.instanceSize?)).toList ++ _ = _
  rw [Option.map_map]
  rfl

end

end Header
end RegisterMap
