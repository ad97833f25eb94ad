import RegisterMap.Proofs.BitTiling
import RegisterMap.Proofs.CodeLines

/-!
# Where descriptions are shown

A device describes its peripherals, their registers and the fields of these (`Device.descriptions`).  A
header shows each of them in comment lines (`exists_indent_of_mem_descriptions`), and what its comment lines
show, other remarks apart, are these descriptions (`exists_text_of_mem_described`).

The lines that show descriptions are computed part by part, in their order (`described`).  The description of
a peripheral is there more than once: above each overlay, above the struct, and with every handle.
-/

namespace RegisterMap

/-! ### The descriptions of a device -/

/-- The description of a register and those of its fields. -/
def Register.descriptions (r : Register) : List String :=
  r.description :: r.bitfields.map Bitfield.description

/-- The description of a peripheral and those of its registers and fields. -/
def Peripheral.descriptions (p : Peripheral) : List String :=
  p.description :: p.registers.flatMap Register.descriptions

/-- The descriptions of all parts of a device. -/
def Device.descriptions (d : Device) : List String :=
  d.peripherals.flatMap Peripheral.descriptions

theorem Device.mem_descriptions_iff {d : Device} {text : String} :
    text ∈ d.descriptions ↔ ∃ p ∈ d.peripherals, text = p.description ∨
      ∃ r ∈ p.registers, text = r.description ∨ ∃ f ∈ r.bitfields, text = f.description := by
  simp only [Device.descriptions, Peripheral.descriptions, Register.descriptions, List.mem_flatMap,
    List.mem_cons, List.mem_map, eq_comm]

namespace Header

/-! ### The lines that show them -/

/-- The text of a line that is filled with words of a description. -/
def Line.description? : Line → Option String
  | description text => some text
  | _ => none

/-- The comment lines that show descriptions. -/
def described (lines : List Line) : List String :=
  lines.filterMap Line.description?

theorem mem_described_iff {line : String} {lines : List Line} :
    line ∈ described lines ↔ .description line ∈ lines := by
  rw [described, List.mem_filterMap]
  constructor
  · rintro ⟨l, hl, hline⟩
    cases l with
    | description text => cases hline; exact hl
    | _ => cases hline
  · intro h
    exact ⟨_, h, rfl⟩

theorem described_append (lines lines' : List Line) :
    described (lines ++ lines') = described lines ++ described lines' :=
  List.filterMap_append

theorem described_flatMap {α : Type} (f : α → List Line) (as : List α) :
    described (as.flatMap f) = as.flatMap fun a => described (f a) :=
  List.filterMap_flatMap

theorem described_description (lines : List String) :
    described (lines.map .description) = lines := by
  rw [described, List.filterMap_map]
  exact List.filterMap_some

theorem described_titled (title : String) (lines : List String) :
    described (Line.titled (title :: lines)) = lines :=
  described_description lines

theorem described_remark_append (title : String) (lines : List Line) :
    described ([.remark title] ++ lines) = described lines :=
  rfl

/-- Lines of other kinds show nothing. -/
theorem described_map {α : Type} {f : α → Line} (h : ∀ a, (f a).description? = none) (as : List α) :
    described (as.map f) = [] := by
  rw [described, List.filterMap_map]
  exact List.filterMap_eq_nil_iff.mpr fun a _ => h a

section
variable (format : Format)

theorem described_bitMember (storage : Storage) (slot : BitSlot) :
    described ((BitMember.ofSlot format slot).marked storage) =
      slot.field?.toList.flatMap fun f => comment f.description "    " format.commentWidth := by
  cases slot with
  | unused index bitOffset bitWidth => rfl
  | field f =>
      simp only [BitMember.marked, BitMember.ofSlot, described_append, described_description]
      simp [described, Line.description?, BitSlot.field?]

/-- An overlay shows the description of the peripheral and those of the register's fields. -/
theorem described_overlay (p : Peripheral) (r : Register) :
    described (Overlay.ofRegister format p r).marked =
      comment p.description "" format.commentWidth ++
        r.bitfields.flatMap fun f => comment f.description "    " format.commentWidth := by
  -- Unused bits have a member of their own, and no description.
  have hfields : r.bitfields = r.bitLayout.flatMap fun slot => slot.field?.toList := by
    rw [← List.filterMap_eq_flatMap_toList]
    exact (field?_bitSlots r.bitWidth 0 0 r.bitfields).symm
  have htitled : described (Line.titled (Overlay.ofRegister format p r).comment) =
      comment p.description "" format.commentWidth := by
    rw [Overlay.ofRegister, described_titled]
  have hassertions (assertions : List Assertion) : described (assertions.map .assertion) = [] :=
    described_map (fun _ => rfl) assertions
  have hmembers : described ((Overlay.ofRegister format p r).members.flatMap
      (BitMember.marked (Overlay.ofRegister format p r).storage)) =
      r.bitfields.flatMap fun f => comment f.description "    " format.commentWidth := by
    rw [Overlay.ofRegister, described_flatMap, List.flatMap_map, hfields, List.flatMap_assoc]
    exact List.flatMap_congr fun slot _ => described_bitMember format _ slot
  have hopening : described [.fixed "typedef union \x7b", .fixed "  struct \x7b"] = [] := rfl
  have hclosing (storage : Storage) (name : String) :
      described [.fixed "  \x7d;", .raw storage, .overlay name, .fixed ""] = [] := rfl
  simp only [Overlay.marked, described_append, htitled, hopening, hmembers, hclosing, hassertions,
    List.append_nil]

/-- What stands before the comment of a register in the member. -/
def memberIndent : Member → String
  | .union _ _ => StructMember.unionIndent
  | _ => StructMember.indent

theorem isIndent_memberIndent (m : Member) : IsIndent (memberIndent m) := by
  cases m with
  | union first others => exact show IsIndent StructMember.unionIndent by decide
  | _ => exact show IsIndent StructMember.indent by decide

theorem described_structField (indent : String) (p : Peripheral) (r : Register) :
    described ((StructField.ofRegister format indent p r).marked indent) =
      comment r.description indent format.commentWidth := by
  have hmember (type name : String) : described [.member indent type name] = [] := rfl
  rw [StructField.marked, described_append, described_description, hmember, List.append_nil,
    StructField.ofRegister]

/-- The registers of a union are indented further than others, and so are their comments. -/
theorem described_structMember (p : Peripheral) (m : Member) :
    described (StructMember.ofMember format p m).marked =
      m.registers.flatMap fun r => comment r.description (memberIndent m) format.commentWidth := by
  cases m with
  | unused index offset size => rfl
  | register r =>
      rw [StructMember.ofMember, StructMember.marked, described_structField, Member.registers,
        List.flatMap_singleton]
      rfl
  | union first others =>
      have hopening : described [.fixed "  union \x7b"] = [] := rfl
      have hclosing : described [.fixed "  \x7d;"] = [] := rfl
      simp only [StructMember.ofMember, StructMember.marked, described_append, described_flatMap,
        List.flatMap_map, described_structField, hopening, hclosing, List.nil_append, List.append_nil,
        memberIndent, Member.registers]

/-- A struct shows the description of the peripheral and those of the registers. -/
theorem described_struct (p : Peripheral) :
    described (Struct.ofPeripheral format p).marked =
      comment p.description "" format.commentWidth ++
        p.byteLayout.members.flatMap fun m => m.registers.flatMap fun r =>
          comment r.description (memberIndent m) format.commentWidth := by
  have hassertions (assertions : List Assertion) :
      described (if assertions.isEmpty then [] else .fixed "" :: assertions.map .assertion) = [] := by
    split
    · rfl
    · exact described_map (f := Line.assertion) (fun _ => rfl) assertions
  have hmembers : described ((Struct.ofPeripheral format p).members.flatMap StructMember.marked) =
      p.byteLayout.members.flatMap fun m => m.registers.flatMap fun r =>
        comment r.description (memberIndent m) format.commentWidth := by
    rw [Struct.ofPeripheral, described_flatMap, List.flatMap_map]
    exact List.flatMap_congr fun m _ => described_structMember format p m
  have hopening : described [.fixed "typedef struct \x7b"] = [] := rfl
  have hclosing (name : String) : described [.struct name] = [] := rfl
  have hcomment : (Struct.ofPeripheral format p).comment =
      comment p.description "" format.commentWidth := by
    rw [Struct.ofPeripheral]
  simp only [Struct.marked, described_append, described_description, hopening, hmembers, hclosing,
    hassertions, List.append_nil, hcomment]

/-- Handles show the description of the peripheral, once for each of them and once for their array. -/
theorem described_handles (p : Peripheral) :
    described (HandleBlock.ofPeripheral format p).sections.flatten =
      (p.instances.flatMap fun _ => comment p.description "" format.commentWidth) ++
        (HandleArray.ofPeripheral? p).toList.flatMap fun _ =>
          comment p.description "" format.commentWidth := by
  have hcomment : (HandleBlock.ofPeripheral format p).comment =
      comment p.description "" format.commentWidth := by
    rw [HandleBlock.ofPeripheral]
  have hhandles : described (HandleBlock.ofPeripheral format p).marked =
      p.instances.flatMap fun _ => comment p.description "" format.commentWidth := by
    have hline (type name : String) (address : Nat) : described [.handle type name address] = [] := rfl
    have hnames : (HandleBlock.ofPeripheral format p).handles =
        p.instances.map Handle.ofInstance := rfl
    simp only [HandleBlock.marked, described_flatMap, described_append, described_description, hline,
      List.append_nil, hcomment, hnames, List.flatMap_map]
  have harray (a : HandleArray) : described ((HandleBlock.ofPeripheral format p).markedArray a) =
      comment p.description "" format.commentWidth := by
    have hopening (type name : String) (length : Nat) : described [.array type name length] = [] := rfl
    have hclosing : described [.fixed "\x7d;"] = [] := rfl
    simp only [HandleBlock.markedArray, described_append, described_description, hopening, hclosing,
      described_map (f := Line.slot) (fun _ => rfl), List.append_nil, hcomment]
  rw [HandleBlock.sections, List.flatten_cons, described_append, hhandles]
  show _ ++ described ((HandleArray.ofPeripheral? p).map _).toList.flatten = _
  cases HandleArray.ofPeripheral? p with
  | none => rfl
  | some a => simp [harray]

/-- The types of a peripheral show what their overlays and their struct show. -/
theorem described_types (p : Peripheral) :
    described (TypeBlock.ofPeripheral format p).sections.flatten =
      (p.registers.flatMap fun r => described (Overlay.ofRegister format p r).marked) ++
        described (Struct.ofPeripheral format p).marked := by
  rw [TypeBlock.sections, List.cons_append, List.flatten_cons, described_remark_append, List.flatten_append,
    described_append, List.flatten_singleton, ← List.flatMap_def, described_flatMap]
  simp only [TypeBlock.ofPeripheral, List.flatMap_map]

theorem described_opening (h : Header) : described h.opening = [] := by
  have hgap : described (if h.banner.isEmpty then [] else [.fixed ""]) = [] := by
    split <;> rfl
  rw [opening, described_append, described_append, hgap,
    described_map (f := fun line => .remark ("// " ++ line)) fun _ => rfl]
  rfl

/-- The handles are those of the peripherals with instances, while all peripherals have types. -/
theorem described_sections (d : Device) :
    described (ofDevice format d).sections.flatten =
      (d.peripherals.flatMap fun p => described (TypeBlock.ofPeripheral format p).sections.flatten) ++
        (d.peripherals.filter fun p => !p.instances.isEmpty).flatMap fun p =>
          described (HandleBlock.ofPeripheral format p).sections.flatten := by
  have hflatten {α : Type} (f : α → List (List Line)) (as : List α) :
      described (as.flatMap f).flatten = as.flatMap fun a => described (f a).flatten := by
    rw [List.flatMap_def, List.flatten_flatten, List.map_map, ← List.flatMap_def, described_flatMap]
    rfl
  rw [sections, List.cons_append, List.flatten_cons, described_append, described_opening,
    List.nil_append, List.flatten_append, described_append, List.flatten_cons,
    described_remark_append, hflatten, hflatten]
  simp only [ofDevice, List.flatMap_map]

/-- Every line that shows a description shows one of the device. -/
theorem exists_text_of_mem_described {d : Device} {line : String}
    (h : line ∈ described (ofDevice format d).sections.flatten) :
    ∃ text ∈ d.descriptions, ∃ indent, IsIndent indent ∧
      line ∈ comment text indent format.commentWidth := by
  simp only [Device.mem_descriptions_iff]
  rw [described_sections, List.mem_append, List.mem_flatMap, List.mem_flatMap] at h
  -- Lines are followed back to their parts in the order of the header: overlays, structs, handles.
  rcases h with ⟨p, hp, htypes⟩ | ⟨p, hp, hhandles⟩
  · rw [described_types, List.mem_append, List.mem_flatMap] at htypes
    rcases htypes with ⟨r, hr, hoverlay⟩ | hstruct
    · rw [described_overlay, List.mem_append, List.mem_flatMap] at hoverlay
      rcases hoverlay with hline | ⟨f, hf, hline⟩
      · exact ⟨_, ⟨p, hp, .inl rfl⟩, "", by decide, hline⟩
      · exact ⟨_, ⟨p, hp, .inr ⟨r, hr, .inr ⟨f, hf, rfl⟩⟩⟩, "    ", by decide, hline⟩
    · rw [described_struct, List.mem_append, List.mem_flatMap] at hstruct
      rcases hstruct with hline | ⟨m, hm, hmember⟩
      · exact ⟨_, ⟨p, hp, .inl rfl⟩, "", by decide, hline⟩
      · obtain ⟨r, hr, hline⟩ := List.mem_flatMap.mp hmember
        have hregister : r ∈ p.registers := by
          rw [← p.registers_byteLayout]
          exact List.mem_flatMap.mpr ⟨m, hm, hr⟩
        exact ⟨_, ⟨p, hp, .inr ⟨r, hregister, .inl rfl⟩⟩, _, isIndent_memberIndent m, hline⟩
  · have hline : line ∈ comment p.description "" format.commentWidth := by
      rw [described_handles, List.mem_append, List.mem_flatMap, List.mem_flatMap] at hhandles
      rcases hhandles with ⟨-, -, hline⟩ | ⟨-, -, hline⟩
      · exact hline
      · exact hline
    exact ⟨_, ⟨p, List.mem_of_mem_filter hp, .inl rfl⟩, "", by decide, hline⟩

end

/-- Every description of the device is shown, and in every format after the same indentation. -/
theorem exists_indent_of_mem_descriptions {d : Device} {text : String} (h : text ∈ d.descriptions) :
    ∃ indent, ∀ format : Format, comment text indent format.commentWidth ⊆
      described (ofDevice format d).sections.flatten := by
  obtain ⟨p, hp, htext⟩ := Device.mem_descriptions_iff.mp h
  have htypes (format : Format) : described (TypeBlock.ofPeripheral format p).sections.flatten ⊆
      described (ofDevice format d).sections.flatten := by
    rw [described_sections]
    exact fun line hline => List.mem_append_left _ (List.mem_flatMap.mpr ⟨p, hp, hline⟩)
  rcases htext with rfl | ⟨r, hr, rfl | ⟨f, hf, rfl⟩⟩
  · refine ⟨"", fun format line hline => htypes format ?_⟩
    rw [described_types, described_struct]
    exact List.mem_append_right _ (List.mem_append_left _ hline)
  · -- The register is in a member of the layout, which says how far its comment is indented.
    rw [← p.registers_byteLayout] at hr
    obtain ⟨m, hm, hr⟩ := List.mem_flatMap.mp hr
    refine ⟨memberIndent m, fun format line hline => htypes format ?_⟩
    rw [described_types, described_struct]
    exact List.mem_append_right _ (List.mem_append_right _
      (List.mem_flatMap.mpr ⟨m, hm, List.mem_flatMap.mpr ⟨r, hr, hline⟩⟩))
  · refine ⟨"    ", fun format line hline => htypes format ?_⟩
    rw [described_types]
    refine List.mem_append_left _ (List.mem_flatMap.mpr ⟨r, hr, ?_⟩)
    rw [described_overlay]
    exact List.mem_append_right _ (List.mem_flatMap.mpr ⟨f, hf, hline⟩)

end Header
end RegisterMap
