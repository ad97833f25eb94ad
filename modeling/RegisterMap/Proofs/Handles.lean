import RegisterMap.Description.Reading
import RegisterMap.Proofs.HandleArrays
import RegisterMap.Proofs.HexadecimalText

/-!
# Handles

The handles at the end of a header are those of the instances that are taken into the device, one for
each.  A handle is followed from the attributes of its element to the line that declares it (`Declares`):
the name, the address as it is written and can be read back, and the type, which is that of the
definition that the element refers to.
-/

namespace RegisterMap

open Markup (Element)

namespace Header

/-! ### Lines -/

/-- The line that declares a handle. -/
def declaration (type name literal : String) : String :=
  s!"static volatile {type} *const {name} = " ++ s!"(volatile {type} *){literal};"

/-- The line that an array begins with. -/
def arrayOpening (type name : String) (length : Nat) : String :=
  s!"static volatile {type} *const {name}[{length}] = \x7b"

namespace HandleBlock

/-- The lines that declare the handles of a peripheral. -/
def declarations (b : HandleBlock) : List String :=
  b.handles.map fun h => declaration b.type h.name (Numeral.hexPadded h.address)

/-- The lines of an array. -/
def written (b : HandleBlock) (a : HandleArray) : List String :=
  b.comment ++ [arrayOpening b.type a.name a.entries.length] ++
    a.entries.map (fun entry => "    " ++ entry ++ ",") ++ ["\x7d;"]

theorem handleLines_eq (b : HandleBlock) (h : Handle) :
    b.handleLines h =
      b.comment ++ [declaration b.type h.name (Numeral.hexPadded h.address)] :=
  rfl

theorem arrayLines_eq (b : HandleBlock) (a : HandleArray) : b.arrayLines a = b.written a := by
  rw [written, HandleArray.entries, List.length_map, List.map_map]
  rfl

/-- The handles are declared in one block, each after the comment, and the array in a block after it. -/
theorem blocks_eq (b : HandleBlock) :
    b.blocks = joinLines (b.declarations.flatMap fun line => b.comment ++ [line]) ::
      (b.array?.map fun a => joinLines (b.written a)).toList := by
  have hlines : b.handles.flatMap b.handleLines =
      b.declarations.flatMap fun line => b.comment ++ [line] := by
    rw [declarations, List.flatMap_map]
    exact List.flatMap_congr fun h _ => handleLines_eq b h
  simp only [blocks, hlines, arrayLines_eq]

theorem declarations_ofPeripheral (format : Format) (p : Peripheral) :
    (ofPeripheral format p).declarations = p.instances.map fun i =>
      declaration (peripheralType p) (Text.upper i.name) (Numeral.hexPadded i.address) := by
  simp only [declarations, ofPeripheral, List.map_map]
  rfl

end HandleBlock

/-- The blocks of a header before its handles. -/
def front (h : Header) : List String :=
  joinLines h.preamble :: h.types.flatMap TypeBlock.blocks

/-- The line declares the handle of an instance element: its name is the identifier in upper case, the
address can be read back, and the type is that of the definition in the document that the element refers
to. -/
def Declares (archive : Archive) (base : Path) (peripherals : List Peripheral) (e : Element)
    (line : String) : Prop :=
  ∃ id literal address target text root, ∃ p ∈ peripherals,
    e.attribute? "id" = some id ∧
    Description.address? e = some address ∧
    Description.hexNumber? (Text.trimChars literal.toList) = some address ∧
    Description.target? base e = some target ∧
    archive.documents.lookup target = some text ∧ Markup.parse text = .ok root ∧
    root.attribute? "id" = some p.name ∧
    line = declaration (peripheralType p) (Text.upper id) literal

/-- The handles of a header are those of the instance elements. -/
structure HasHandles (archive : Archive) (base : Path) (nodes : List Element)
    (peripherals : List Peripheral) (blocks : List HandleBlock) : Prop where
  /-- Every element has one line, and there are no other lines. -/
  lines : ∃ lines, List.Forall₂ (Declares archive base peripherals) nodes lines ∧
    (blocks.flatMap HandleBlock.declarations).Perm lines
  /-- Every peripheral has the array that its instances call for. -/
  arrays : List.Forall₂ (fun p b => IsArrayOf p b.array?) peripherals blocks

end Header

namespace Description

open Header

/-! ### From elements to lines -/

/-- An address that was read from a word can be written and read again: it has far less than 127 bits. -/
theorem hexNumber?_address {address : Int} (hnonneg : 0 ≤ address)
    (hfits : Numeral.fitsSigned 64 address = true) :
    hexNumber? (Text.trimChars (Numeral.hexPadded address.toNat).toList) = some address := by
  have hlt : address < (Numeral.wordSize (64 - 1) : Int) := by
    simp only [Numeral.fitsSigned, Bool.and_eq_true, decide_eq_true_eq] at hfits
    exact hfits.2
  have hle : Numeral.wordSize (64 - 1) ≤ 2 ^ 127 - 1 := by decide
  have htext : IsHexadecimalText (Numeral.hexPadded address.toNat) address.toNat :=
    isHexadecimalText_hexPadded (by omega)
  rw [hexNumber?_trimChars_eq_some_iff.mpr htext, Int.toNat_of_nonneg hnonneg]

/-- An index comes from the name of the instance and that of its definition, and from nowhere else. -/
theorem isNumberedByName_of_read {root : Element} {nodes : List Element} {p : Peripheral}
    (h : DefinitionRead root nodes p) : IsNumberedByName p := by
  obtain ⟨is, his, hsort⟩ := h.instances
  have hread : ∀ i ∈ is, i.index = (instanceIndex? i.name p.name).map Int.toNat := by
    refine forall_mem_of_forall₂ his fun e _ i hi => ?_
    obtain ⟨address, -, -, -, -, -, hindex⟩ := exists_of_placement hi
    exact hindex
  exact fun i hi => hread i (hsort.perm.mem_iff.mp hi)

/-- The instances of a peripheral that was read are numbered by their names, and differently. -/
theorem numbered_of_device {source : Source} {selection : Selection} {path : Path} {d : Device}
    (h : (device source selection path).result = .ok d) :
    ∀ p ∈ d.peripherals, IsNumberedByName p ∧ (p.instances.filterMap Instance.index).Nodup := by
  obtain ⟨root, cpu, groups, -, -, -, hps, -⟩ := device_eq_ok_iff.mp h
  refine forall_mem_of_forall₂ hps fun g _ p hp => ?_
  obtain ⟨root, -, hread⟩ := definitionRead_of_definition hp
  exact ⟨isNumberedByName_of_read hread, (validated_of_definition hp).wellFormed.indices_nodup⟩

/-- The lines of one definition are those of the elements that refer to it. -/
theorem exists_declarations {archive : Archive} {base target : Path} {text : String}
    {root : Element} {nodes : List Element} {peripherals : List Peripheral} {p : Peripheral}
    (format : Format) (hp : p ∈ peripherals)
    (htarget : ∀ e ∈ nodes, target? base e = some target)
    (hlookup : archive.documents.lookup target = some text) (hparse : Markup.parse text = .ok root)
    (h : DefinitionRead root nodes p) :
    ∃ lines, List.Forall₂ (Declares archive base peripherals) nodes lines ∧
      (HandleBlock.ofPeripheral format p).declarations.Perm lines := by
  obtain ⟨is, his, hsort⟩ := h.instances
  rw [HandleBlock.declarations_ofPeripheral]
  -- The lines are in the order of the addresses, the elements in that of the document.
  refine ⟨_, ?_, hsort.perm.map _⟩
  rw [List.forall₂_map_right_iff]
  refine (forall₂_mem his).imp ?_
  rintro e i ⟨he, -, hi⟩
  obtain ⟨address, hid, haddress, hnonneg, hfits, hplace, -⟩ := exists_of_placement hi
  refine ⟨i.name, _, address, target, text, root, p, hp, hid, haddress, ?_, htarget e he, hlookup,
    hparse, h.named, rfl⟩
  rw [hplace]
  exact hexNumber?_address hnonneg hfits

/-- A peripheral without instances would have no handles, but none is read. -/
theorem handles_ofDevice {format : Format} {d : Device}
    (h : ∀ p ∈ d.peripherals, p.instances ≠ []) :
    (ofDevice format d).handles = d.peripherals.map (HandleBlock.ofPeripheral format) := by
  simp only [ofDevice]
  rw [List.filter_eq_self.mpr]
  intro p hp
  simpa using h p hp

theorem hasHandles_of_device {archive : Archive} {selection : Selection} {path : Path} {d : Device}
    (format : Format) (h : (device archive.source selection path).result = .ok d) :
    ∃ root cpu, archive.source.load path = .ok root ∧
      (root.descendants "cpu").head? = some cpu ∧
      HasHandles archive (baseOf path) ((cpu.descendants "instance").filter (isIncluded selection))
        d.peripherals (ofDevice format d).handles := by
  obtain ⟨root, cpu, groups, hroot, hcpu, hgroups⟩ := readInGroups_of_device h
  refine ⟨root, cpu, hroot, hcpu, ?_⟩
  rw [handles_ofDevice (instances_ne_nil_of_device h)]
  refine ⟨?_, ?_⟩
  · rw [List.flatMap_map]
    -- The lines of each group are put together to the lines of all elements.
    refine hgroups.exists_forall₂ ((forall₂_mem hgroups.definitions).imp ?_)
    rintro g p ⟨hg, hp, text, definition, hlookup, hparse, hread⟩
    refine exists_declarations format hp (fun e he => ?_) hlookup hparse hread
    rw [hgroups.members g hg] at he
    simpa using (List.mem_filter.mp he).2
  · rw [List.forall₂_map_right_iff, List.forall₂_same]
    intro p hp
    obtain ⟨hnumbered, hnodup⟩ := numbered_of_device h p hp
    exact isArrayOf_ofPeripheral? hnumbered hnodup

end Description

namespace Header

/-- A header that is generated from an archive ends in the handles of the instance elements that are
taken: a line for each and no other, and for each peripheral the array that its instances call for. -/
theorem handles_of_generate {archive : Archive} {selection : Selection} {format : Format}
    {path : Path} {text : String}
    (h : (generate archive.source selection format path).result = .ok text) :
    ∃ root cpu d, archive.source.load path = .ok root ∧
      (root.descendants "cpu").head? = some cpu ∧
      (Description.device archive.source selection path).result = .ok d ∧
      text = joinBlocks ((ofDevice format d).front ++ "// Peripheral instance definitions." ::
        (ofDevice format d).handles.flatMap fun b =>
          joinLines (b.declarations.flatMap fun line => b.comment ++ [line]) ::
            (b.array?.map fun a => joinLines (b.written a)).toList) ++ "\n" ∧
      HasHandles archive (Description.baseOf path)
        ((cpu.descendants "instance").filter (Description.isIncluded selection)) d.peripherals
        (ofDevice format d).handles := by
  simp only [generate, Traced.result_bind, bind_eq_ok_iff] at h
  obtain ⟨d, hd, htext⟩ := h
  obtain ⟨root, cpu, hroot, hcpu, hhandles⟩ := Description.hasHandles_of_device format hd
  refine ⟨root, cpu, d, hroot, hcpu, hd, ?_, hhandles⟩
  obtain rfl := Except.ok.inj htext
  simp only [← HandleBlock.blocks_eq]
  rfl

theorem result_generate_board :
    (generate Description.boardArchive.source Description.boardSelection .standard
      ⟨"d/top.xml"⟩).result = .ok (Description.board.header .standard) := by
  rw [generate, Traced.result_bind, Description.device_board]
  rfl

open Description in
/-- The board has three handles, two of them in an array; the placeholder and the instance that is not
taken have none. -/
theorem handles_board :
    HasHandles boardArchive ⟨"d"⟩ [timer1, port0, timer0] [timer, port]
        (ofDevice .standard board).handles ∧
      (ofDevice .standard board).handles.flatMap HandleBlock.declarations =
        ["static volatile TPeriphDef *const T0 = (volatile TPeriphDef *)0x00000010;",
          "static volatile TPeriphDef *const T1 = (volatile TPeriphDef *)0x00000020;",
          "static volatile UPeriphDef *const U0 = (volatile UPeriphDef *)0x00000040;"] ∧
      (ofDevice .standard board).handles.map (·.array?) =
        [some ⟨"T", [some "T0", some "T1"]⟩, none] := by
  obtain ⟨root, cpu, d, hroot, hcpu, hd, -, hhandles⟩ := handles_of_generate result_generate_board
  obtain rfl := Except.ok.inj (hroot.symm.trans load_board)
  obtain rfl := Except.ok.inj (hd.symm.trans device_board)
  have hfirst : (Element.descendants ⟨"device", [("partnum", "P1")], [boardCpu]⟩ "cpu").head? =
      some boardCpu := by
    decide +kernel
  obtain rfl := Option.some.inj (hcpu.symm.trans hfirst)
  have hnodes : (boardCpu.descendants "instance").filter (isIncluded boardSelection) =
      [timer1, port0, timer0] := by
    decide +kernel
  have hbase : baseOf ⟨"d/top.xml"⟩ = ⟨"d"⟩ := by
    decide +kernel
  rw [hnodes, hbase] at hhandles
  exact ⟨hhandles, by decide +kernel, by decide +kernel⟩

end Header
end RegisterMap
