import RegisterMap.Proofs.HeaderLines

/-!
# Code and comments

A description shows up in a header only in comments, and so does the width of the page.  What is left of
a header without its comment lines (`codeLines`) is the same for all descriptions and widths: it is that
of the device with every description blank.

Names may hold line breaks, so that a line of the header may be several lines of the text.  Words of a
description hold none, and the lines that they fill are comments as a whole (`codeLines_of_mem_comment`).
-/

namespace RegisterMap

/-! ### Devices without descriptions -/

/-- The field with a blank description. -/
def Bitfield.undescribed (f : Bitfield) : Bitfield :=
  { f with description := "" }

/-- The register with its own description and those of its fields blank. -/
def Register.undescribed (r : Register) : Register :=
  { r with description := "", bitfields := r.bitfields.map Bitfield.undescribed }

/-- The peripheral with its own description and those of its registers blank. -/
def Peripheral.undescribed (p : Peripheral) : Peripheral :=
  { p with description := "", registers := p.registers.map Register.undescribed }

/-- The device with all descriptions blank. -/
def Device.undescribed (d : Device) : Device :=
  { d with peripherals := d.peripherals.map Peripheral.undescribed }

/-- The slot with the description of its field blank. -/
def BitSlot.undescribed : BitSlot → BitSlot
  | field f => field f.undescribed
  | unused index bitOffset bitWidth => unused index bitOffset bitWidth

/-- The member with the descriptions of its registers blank. -/
def Member.undescribed : Member → Member
  | register r => register r.undescribed
  | union first others => union first.undescribed (others.map Register.undescribed)
  | unused index offset size => unused index offset size

/-- Which slots a layout has does not depend on descriptions. -/
theorem bitSlots_undescribed (width cursor index : Nat) (fields : List Bitfield) :
    bitSlots width cursor index (fields.map Bitfield.undescribed) =
      (bitSlots width cursor index fields).map BitSlot.undescribed := by
  induction fields generalizing cursor index with
  | nil =>
      simp only [List.map_nil, bitSlots]
      split <;> rfl
  | cons f rest ih =>
      simp only [List.map_cons, bitSlots, ih]
      rw [apply_ite (List.map BitSlot.undescribed)]
      rfl

theorem Register.bitLayout_undescribed (r : Register) :
    r.undescribed.bitLayout = r.bitLayout.map BitSlot.undescribed :=
  bitSlots_undescribed r.bitWidth 0 0 r.bitfields

/-- The group with the descriptions of its registers blank. -/
def undescribedGroup (g : Register × List Register) : Register × List Register :=
  (g.1.undescribed, g.2.map Register.undescribed)

theorem groupByOffset_undescribed (registers : List Register) :
    groupByOffset (registers.map Register.undescribed) =
      (groupByOffset registers).map undescribedGroup := by
  induction registers with
  | nil => rfl
  | cons r rest ih =>
      rw [List.map_cons, groupByOffset, groupByOffset, ih]
      cases groupByOffset rest with
      | nil => rfl
      | cons g groups =>
          obtain ⟨first, others⟩ := g
          -- Whether a register joins the next group is decided by the two offsets.
          show _ = List.map undescribedGroup (if _ then _ else _)
          rw [apply_ite (List.map undescribedGroup)]
          rfl

theorem ByteLayout.map_undescribed_padding (index cursor offset : Nat) :
    (padding index cursor offset).map Member.undescribed = padding index cursor offset := by
  unfold padding
  split <;> rfl

theorem Member.ofGroup_undescribed (first : Register) (others : List Register) :
    ofGroup first.undescribed (others.map Register.undescribed) =
      (ofGroup first others).undescribed := by
  cases others <;> rfl

/-- Where the members of a layout are has nothing to do with descriptions. -/
theorem ByteLayout.place_undescribed (peripheral : String) (limit cursor index : Nat)
    (groups : List (Register × List Register)) :
    (place peripheral limit cursor index (groups.map undescribedGroup)).members =
        (place peripheral limit cursor index groups).members.map Member.undescribed ∧
      (place peripheral limit cursor index (groups.map undescribedGroup)).size =
        (place peripheral limit cursor index groups).size := by
  induction groups generalizing cursor index with
  | nil => exact ⟨(map_undescribed_padding index cursor limit).symm, rfl⟩
  | cons g groups ih =>
      obtain ⟨first, others⟩ := g
      have hoffset : (Member.ofGroup first others).undescribed.offset =
          (Member.ofGroup first others).offset := by cases others <;> rfl
      have hspan : (Member.ofGroup first others).undescribed.span =
          (Member.ofGroup first others).span := by cases others <;> rfl
      simp only [List.map_cons, undescribedGroup, place, Member.ofGroup_undescribed, hoffset, hspan,
        List.map_append, map_undescribed_padding]
      exact ⟨by rw [(ih _ _).1], (ih _ _).2⟩

theorem Peripheral.byteLayout_undescribed (p : Peripheral) :
    p.undescribed.byteLayout.members = p.byteLayout.members.map Member.undescribed ∧
      p.undescribed.byteLayout.size = p.byteLayout.size := by
  have hgroups : groupByOffset p.undescribed.registers =
      (groupByOffset p.registers).map undescribedGroup :=
    groupByOffset_undescribed p.registers
  rw [byteLayout, hgroups]
  exact ByteLayout.place_undescribed p.name (p.instanceSize?.getD 0) 0 0 (groupByOffset p.registers)

namespace Header

/-! ### Lines of code in a text -/

/-- The first characters of the line that are not spaces begin a comment. -/
def isCommentLine (line : List Char) : Bool :=
  ['/', '/'].isPrefixOf (line.dropWhile (· == ' '))

/-- The lines of a text that are not comments. -/
def codeLines (text : String) : List (List Char) :=
  (text.toList.splitOn '\n').filter fun line => !isCommentLine line

theorem codeLines_empty : codeLines "" = [[]] := by
  decide

/-- The lines of two texts with a line break between them are those of the two. -/
theorem codeLines_newline (s t : String) :
    codeLines (s ++ "\n" ++ t) = codeLines s ++ codeLines t := by
  have hchars : (s ++ "\n" ++ t).toList = s.toList ++ '\n' :: t.toList := by
    rw [String.toList_append, String.toList_append, List.append_assoc]
    rfl
  rw [codeLines, hchars, List.splitOn_append_cons_self, List.filter_append]
  rfl

theorem codeLines_joinLines {lines : List String} (h : lines ≠ []) :
    codeLines (joinLines lines) = lines.flatMap codeLines := by
  induction lines with
  | nil => exact absurd rfl h
  | cons line rest ih =>
      by_cases hrest : rest = []
      · subst hrest
        rw [joinLines, String.intercalate_singleton, List.flatMap_singleton]
      · rw [joinLines, String.intercalate_cons_of_ne_nil hrest, codeLines_newline]
        exact congrArg (codeLines line ++ ·) (ih hrest)

/-- Between blocks there is an empty line. -/
theorem codeLines_joinBlocks {blocks : List String} (h : blocks ≠ []) :
    codeLines (joinBlocks blocks) = [[]].intercalate (blocks.map codeLines) := by
  induction blocks with
  | nil => exact absurd rfl h
  | cons block rest ih =>
      cases rest with
      | nil => rw [joinBlocks, String.intercalate_singleton, List.map_singleton,
          List.intercalate_singleton]
      | cons next more =>
          -- Two line breaks in a row are those around an empty line.
          have hgap : block ++ "\n\n" = block ++ "\n" ++ "" ++ "\n" := by
            rw [String.append_assoc, String.append_assoc]
            rfl
          have hrest := ih (List.cons_ne_nil next more)
          rw [joinBlocks] at hrest
          rw [joinBlocks, String.intercalate_cons_cons, hgap, codeLines_newline, codeLines_newline,
            hrest, codeLines_empty]
          simp only [List.map_cons, List.intercalate_cons_cons]

/-! ### Comments from descriptions -/

/-- A line break is a blank, so it divides words and is in none of them. -/
theorem newline_not_mem_commentWords {text word : String} (h : word ∈ commentWords text) :
    '\n' ∉ word.toList := by
  obtain ⟨cs, hcs, rfl⟩ := List.mem_map.mp h
  intro hmem
  rw [String.toList_ofList] at hmem
  have hblank := Text.eq_false_of_mem_pieces (List.mem_of_mem_filter hcs) '\n' hmem
  revert hblank
  decide

/-- What the lines of a comment begin with before its mark: spaces only. -/
def IsIndent (indent : String) : Prop :=
  ∀ c ∈ indent.toList, c = ' '

instance (indent : String) : Decidable (IsIndent indent) :=
  List.decidableBAll (· = ' ') indent.toList

/-- Spaces and then a comment mark make a comment of all that follows on the line. -/
theorem codeLines_commentMark {indent line : String} (hindent : IsIndent indent)
    (hline : '\n' ∉ line.toList) : codeLines (commentMark indent ++ line) = [] := by
  have hchars : (commentMark indent ++ line).toList =
      indent.toList ++ '/' :: '/' :: ' ' :: line.toList := by
    rw [commentMark, String.toList_append, String.toList_append, List.append_assoc]
    rfl
  have hbreak : '\n' ∉ indent.toList ++ '/' :: '/' :: ' ' :: line.toList := by
    have hindent' : '\n' ∉ indent.toList := fun hmem => absurd (hindent _ hmem) (by decide)
    simp [hindent', hline]
  have hcomment : isCommentLine (indent.toList ++ '/' :: '/' :: ' ' :: line.toList) = true := by
    -- The mark is the first thing after the spaces.
    have hspaces : ∀ c ∈ indent.toList, (c == ' ') = true := fun c hc => by simp [hindent c hc]
    rw [isCommentLine, List.dropWhile_append_of_pos hspaces]
    rfl
  rw [codeLines, hchars, List.splitOn_eq_singleton hbreak]
  simp [hcomment]

theorem codeLines_of_mem_fill {indent : String} (hindent : IsIndent indent)
    (width : Nat) {line : String} {words : List String} (hline : '\n' ∉ line.toList)
    (hwords : ∀ word ∈ words, '\n' ∉ word.toList) :
    ∀ l ∈ fill (commentMark indent) width line words, codeLines l = [] := by
  induction words generalizing line with
  | nil =>
      rw [fill, List.forall_mem_singleton]
      exact codeLines_commentMark hindent hline
  | cons word rest ih =>
      rw [List.forall_mem_cons] at hwords
      rw [fill]
      split
      · refine ih ?_ hwords.2
        simp [String.toList_append, hline, hwords.1]
      · rw [List.forall_mem_cons]
        exact ⟨codeLines_commentMark hindent hline, ih hwords.1 hwords.2⟩

/-- No line that a description is shown in is code. -/
theorem codeLines_of_mem_comment {indent : String} (hindent : IsIndent indent)
    (text : String) (width : Nat) : ∀ l ∈ comment text indent width, codeLines l = [] := by
  unfold comment
  have hwords : ∀ word ∈ commentWords text, '\n' ∉ word.toList :=
    fun word hword => newline_not_mem_commentWords hword
  split
  · simp
  · next word rest hcons =>
    rw [hcons, List.forall_mem_cons] at hwords
    exact codeLines_of_mem_fill hindent width hwords.1 hwords.2

/-! ### The code of each part -/

/-- The code in a list of lines. -/
def code (lines : List Line) : List (List Char) :=
  lines.flatMap fun l => codeLines l.text

theorem code_append (lines lines' : List Line) : code (lines ++ lines') = code lines ++ code lines' :=
  List.flatMap_append

theorem code_cons (line : Line) (lines : List Line) :
    code (line :: lines) = codeLines line.text ++ code lines :=
  List.flatMap_cons

theorem code_flatMap {α : Type} (f : α → List Line) (as : List α) :
    code (as.flatMap f) = as.flatMap fun a => code (f a) :=
  List.flatMap_assoc

/-- A comment from a description holds no code. -/
theorem code_comment (text : String) {indent : String} (hindent : IsIndent indent)
    (width : Nat) : code ((comment text indent width).map .description) = [] := by
  rw [code, List.flatMap_map]
  exact List.flatMap_eq_nil_iff.mpr (codeLines_of_mem_comment hindent text width)

theorem codeLines_sectionText {lines : List Line} (h : lines ≠ []) :
    codeLines (sectionText lines) = code lines := by
  have hlines : lines.map Line.text ≠ [] := fun hnil => h (List.map_eq_nil_iff.mp hnil)
  rw [sectionText, codeLines_joinLines hlines, List.flatMap_map]
  rfl

section
variable (format format' : Format)

theorem code_bitMember (storage : Storage) (slot : BitSlot) :
    code ((BitMember.ofSlot format slot).marked storage) =
      code ((BitMember.ofSlot format' slot.undescribed).marked storage) := by
  cases slot with
  | unused index bitOffset bitWidth => rfl
  | field f =>
      simp (disch := decide) only [BitMember.marked, BitMember.ofSlot, BitSlot.undescribed,
        code_append, code_comment]
      rfl

theorem code_overlay (p : Peripheral) (r : Register) :
    code (Overlay.ofRegister format p r).marked =
      code (Overlay.ofRegister format' p.undescribed r.undescribed).marked := by
  have hmembers (storage : Storage) :
      r.bitLayout.flatMap (fun slot => code ((BitMember.ofSlot format slot).marked storage)) =
        r.bitLayout.flatMap fun slot =>
          code ((BitMember.ofSlot format' slot.undescribed).marked storage) :=
    List.flatMap_congr fun slot _ => code_bitMember format format' storage slot
  simp (disch := decide) only [Overlay.marked, Overlay.ofRegister, Line.titled, code_append,
    code_cons, code_comment, code_flatMap, List.flatMap_map, Register.bitLayout_undescribed, hmembers]
  rfl

theorem code_structField {indent : String} (hindent : IsIndent indent) (p : Peripheral)
    (r : Register) :
    code ((StructField.ofRegister format indent p r).marked indent) =
      code ((StructField.ofRegister format' indent p.undescribed r.undescribed).marked indent) := by
  simp only [StructField.marked, StructField.ofRegister, code_append, code_comment _ hindent]
  rfl

/-- What a member of a struct declares is its code, and that has no description in it. -/
theorem code_structMember (p : Peripheral) (m : Member) :
    code (StructMember.ofMember format p m).marked =
      code (StructMember.ofMember format' p.undescribed m.undescribed).marked := by
  cases m with
  | unused index offset size => rfl
  | register r => exact code_structField format format' (by decide) p r
  | union first others =>
      have hfields := List.flatMap_congr (l := first :: others) fun r _ =>
        code_structField format format' (show IsIndent "    " by decide) p r
      simp only [StructMember.ofMember, StructMember.marked, Member.undescribed, code_append,
        code_flatMap, ← List.map_cons, List.flatMap_map, StructMember.unionIndent, hfields]

/-- Assertions are about names, sizes and offsets. -/
theorem assertions_undescribed (p : Peripheral) :
    (Struct.ofPeripheral format p).assertions =
      (Struct.ofPeripheral format' p.undescribed).assertions := by
  have hregisters :
      (p.undescribed.registers.map fun r =>
        Assertion.offset (peripheralType p) (Text.upper r.name) r.addressOffset) =
      p.registers.map fun r =>
        Assertion.offset (peripheralType p) (Text.upper r.name) r.addressOffset :=
    List.map_map
  rw [Struct.assertions_ofPeripheral, Struct.assertions_ofPeripheral,
    p.byteLayout_undescribed.2, ← hregisters]
  rfl

theorem code_struct (p : Peripheral) :
    code (Struct.ofPeripheral format p).marked =
      code (Struct.ofPeripheral format' p.undescribed).marked := by
  have hmembers : code ((Struct.ofPeripheral format p).members.flatMap StructMember.marked) =
      code ((Struct.ofPeripheral format' p.undescribed).members.flatMap StructMember.marked) := by
    simp only [Struct.ofPeripheral, code_flatMap, List.flatMap_map, p.byteLayout_undescribed.1]
    exact List.flatMap_congr fun m _ => code_structMember format format' p m
  have hcomment (format : Format) (p : Peripheral) :
      code ((Struct.ofPeripheral format p).comment.map .description) = [] := by
    rw [Struct.ofPeripheral, code_comment _ (show IsIndent "" by decide)]
  simp only [Struct.marked, code_append, hcomment, hmembers,
    assertions_undescribed format format' p]
  rfl

theorem code_handles (p : Peripheral) :
    code (HandleBlock.ofPeripheral format p).marked =
      code (HandleBlock.ofPeripheral format' p.undescribed).marked := by
  simp (disch := decide) only [HandleBlock.marked, HandleBlock.ofPeripheral, code_flatMap,
    code_append, code_comment]
  rfl

theorem code_array (p : Peripheral) (a : HandleArray) :
    code ((HandleBlock.ofPeripheral format p).markedArray a) =
      code ((HandleBlock.ofPeripheral format' p.undescribed).markedArray a) := by
  simp (disch := decide) only [HandleBlock.markedArray, HandleBlock.ofPeripheral, code_append,
    code_comment]
  rfl

theorem map_code_typeSections (p : Peripheral) :
    (TypeBlock.ofPeripheral format p).sections.map code =
      (TypeBlock.ofPeripheral format' p.undescribed).sections.map code := by
  have hoverlays (r : Register) : code (Overlay.ofRegister format p r).marked =
      code (Overlay.ofRegister format' p.undescribed r.undescribed).marked :=
    code_overlay format format' p r
  have hregisters : p.undescribed.registers = p.registers.map Register.undescribed := rfl
  have hname : p.undescribed.name = p.name := rfl
  simp only [TypeBlock.sections, TypeBlock.ofPeripheral, List.map_append, List.map_cons, List.map_nil,
    List.map_map, hregisters, hname, Function.comp_def, hoverlays, code_struct format format' p]

theorem map_code_handleSections (p : Peripheral) :
    (HandleBlock.ofPeripheral format p).sections.map code =
      (HandleBlock.ofPeripheral format' p.undescribed).sections.map code := by
  have harray : (HandleBlock.ofPeripheral format p).array? = HandleArray.ofPeripheral? p := rfl
  have harray' : (HandleBlock.ofPeripheral format' p.undescribed).array? =
      HandleArray.ofPeripheral? p := rfl
  rw [HandleBlock.sections, HandleBlock.sections, harray, harray', List.map_cons, List.map_cons,
    code_handles format format' p]
  cases HandleArray.ofPeripheral? p with
  | none => simp only [Option.map_none, Option.toList_none, List.map_nil]
  | some a =>
      simp only [Option.map_some, Option.toList_some, List.map_singleton,
        code_array format format' p a]

/-- The code of a header, section by section, is that of the device without descriptions. -/
theorem map_code_sections (hbanner : format.banner = format'.banner) (d : Device) :
    (ofDevice format d).sections.map code = (ofDevice format' d.undescribed).sections.map code := by
  have hopening : code (ofDevice format d).opening = code (ofDevice format' d.undescribed).opening := by
    have hbanner' : (ofDevice format d).banner = (ofDevice format' d.undescribed).banner := hbanner
    rw [opening, opening, hbanner']
    rfl
  have htypes : ((ofDevice format d).types.flatMap TypeBlock.sections).map code =
      ((ofDevice format' d.undescribed).types.flatMap TypeBlock.sections).map code := by
    simp only [ofDevice, Device.undescribed, List.map_flatMap, List.flatMap_map]
    exact List.flatMap_congr fun p _ => map_code_typeSections format format' p
  have hhandles : ((ofDevice format d).handles.flatMap HandleBlock.sections).map code =
      ((ofDevice format' d.undescribed).handles.flatMap HandleBlock.sections).map code := by
    simp only [ofDevice, Device.undescribed, List.map_flatMap, List.flatMap_map, List.filter_map]
    exact List.flatMap_congr fun p _ => map_code_handleSections format format' p
  simp only [sections, List.map_append, List.map_cons, hopening, htypes, hhandles]

/-- Every section has a line that is no comment from a description. -/
theorem ne_nil_of_mem_sections (d : Device) : ∀ s ∈ (ofDevice format d).sections, s ≠ [] := by
  have hopening : (ofDevice format d).opening ≠ [] := by simp [opening]
  have htypes : ∀ b ∈ (ofDevice format d).types, ∀ s ∈ b.sections, s ≠ [] := by
    intro b _
    rw [TypeBlock.sections, List.forall_mem_append, List.forall_mem_cons, List.forall_mem_map,
      List.forall_mem_singleton]
    exact ⟨⟨by simp, fun o _ => by simp [Overlay.marked]⟩, by simp [Struct.marked]⟩
  have hhandles : ∀ b ∈ (ofDevice format d).handles, ∀ s ∈ b.sections, s ≠ [] := by
    intro b hb
    obtain ⟨p, hp, rfl⟩ := List.mem_map.mp hb
    -- Peripherals without instances have no handles, and were left out.
    have hinstances : p.instances ≠ [] := by simpa using (List.mem_filter.mp hp).2
    rw [HandleBlock.sections, List.forall_mem_cons]
    refine ⟨?_, by simp [HandleBlock.markedArray]⟩
    obtain ⟨i, hi⟩ := List.exists_mem_of_ne_nil _ hinstances
    exact List.ne_nil_of_mem (List.mem_flatMap.mpr
      ⟨Handle.ofInstance i, List.mem_map_of_mem hi, List.mem_append_right _ List.mem_cons_self⟩)
  rw [sections, List.forall_mem_append, List.forall_mem_cons, List.forall_mem_cons,
    List.forall_mem_flatMap, List.forall_mem_flatMap]
  exact ⟨⟨hopening, htypes⟩, by simp, hhandles⟩

/-- The code of a header is that of its sections with the empty lines between them, and the empty end
after the last line break. -/
theorem codeLines_header (d : Device) :
    codeLines (d.header format) =
      [[]].intercalate ((ofDevice format d).sections.map code) ++ [[]] := by
  have hsections : (ofDevice format d).sections.map sectionText ≠ [] := by simp [sections]
  have hcode : ((ofDevice format d).sections.map sectionText).map codeLines =
      (ofDevice format d).sections.map code := by
    rw [List.map_map]
    exact List.map_congr_left fun s hs => codeLines_sectionText (ne_nil_of_mem_sections format d s hs)
  have hend (text : String) : codeLines (text ++ "\n") = codeLines text ++ [[]] := by
    have h := codeLines_newline text ""
    rwa [String.append_empty, codeLines_empty] at h
  rw [Device.header, text_eq, hend, codeLines_joinBlocks hsections, hcode]

end

end Header

namespace Device

/-- Two devices that differ at most in descriptions have headers that differ at most in comments, for
any two widths of the comments. -/
theorem codeLines_header_eq {d d' : Device} (hd : d.undescribed = d'.undescribed)
    {format format' : Header.Format} (hbanner : format.banner = format'.banner) :
    Header.codeLines (d.header format) = Header.codeLines (d'.header format') := by
  rw [Header.codeLines_header, Header.codeLines_header,
    Header.map_code_sections format format' hbanner d, hd,
    ← Header.map_code_sections format' format' rfl d']

/-- The board with descriptions that go over several lines, look like code and have words wider than the
page. -/
def verboseBoard : Device :=
  { Description.board with
    peripherals := [{ Description.timer with description := "counts\n\n  int x;\r\n// down" },
      { Description.port with description := "\nserial_port_with_a_long_name */ \x7d UPeriphDef;" }] }

theorem codeLines_header_verboseBoard :
    verboseBoard.undescribed = Description.board.undescribed ∧
      Header.codeLines (verboseBoard.header ⟨12, ["generated"]⟩) =
        Header.codeLines (Description.board.header ⟨100, ["generated"]⟩) := by
  have hundescribed : verboseBoard.undescribed = Description.board.undescribed := rfl
  exact ⟨hundescribed, codeLines_header_eq hundescribed rfl⟩

end Device
end RegisterMap
