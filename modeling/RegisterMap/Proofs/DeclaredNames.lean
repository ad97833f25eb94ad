import Mathlib.Data.List.Nodup
import RegisterMap.Proofs.ByteTiling
import RegisterMap.Proofs.HeaderLines
import RegisterMap.Proofs.UpperCase

/-!
# Names that are declared

A header makes up names of its own: `unused0`, `unused1` and so on for padding, `raw` for the whole of a
register.  All other names come from the description, in upper case.  The former have small letters and the
latter have none, in whatever script they are written, so that the two kinds never meet; and a padding is told
from another by its number (`NamesApart`).

The names of instances are not checked against each other.  Where a peripheral has an array of handles, its
instances are numbered, and each name is the peripheral's and a numeral after it; so different numbers make
different names, none of which is the name of the array (`pointerNames_of_array`).
-/

namespace RegisterMap
namespace Header

/-- A name in upper case is no text with a small letter in it. -/
theorem upper_ne_of_mem {text : String} {c : Char} (hc : c ∈ text.toList)
    (hsmall : ¬ Text.Avoids Text.smallLetters c.toNat) (name : String) : Text.upper name ≠ text := by
  rintro rfl
  rw [toList_upper] at hc
  obtain ⟨d, -, hmem⟩ := List.mem_flatMap.mp hc
  exact hsmall (Text.avoids_smallLetters_of_mem_upperChar hmem)

/-! ### Members of types -/

/-- The name of the padding with that number. -/
def paddingName (index : Nat) : String :=
  "unused" ++ toString index

/-- The number of a padding can be read off its name. -/
theorem paddingName_inj {index index' : Nat} :
    paddingName index = paddingName index' ↔ index = index' := by
  constructor
  · intro h
    have hdigits := congrArg String.toList ((String.append_right_inj "unused").mp h)
    rw [Nat.toString_eq_repr, Nat.toString_eq_repr, Nat.toList_repr, Nat.toList_repr] at hdigits
    have hread := Numeral.natural?_toDigits (show 1 < 10 by decide) (by decide) index
    rw [hdigits, Numeral.natural?_toDigits (by decide) (by decide)] at hread
    exact (Option.some.inj hread).symm
  · rintro rfl
    rfl

theorem mem_toList_paddingName (index : Nat) : 'u' ∈ (paddingName index).toList := by
  rw [paddingName, String.toList_append]
  exact List.mem_append_left _ (by decide)

theorem nodup_paddingNames (count : Nat) : ((List.range count).map paddingName).Nodup :=
  List.nodup_range.map fun _ _ => paddingName_inj.mp

theorem upper_ne_paddingName (name : String) (index : Nat) : Text.upper name ≠ paddingName index :=
  upper_ne_of_mem (mem_toList_paddingName index) (by decide) name

theorem upper_ne_raw (name : String) : Text.upper name ≠ "raw" :=
  upper_ne_of_mem (c := 'r') (by decide) (by decide) name

theorem paddingName_ne_raw (index : Nat) : paddingName index ≠ "raw" := by
  intro h
  have hmem := mem_toList_paddingName index
  rw [h] at hmem
  exact absurd hmem (by decide)

/-- The name by which the line declares a member of the type that it stands in. -/
def Line.memberName? : Line → Option String
  | bits _ name _ _ => some name
  | raw _ => some "raw"
  | padding index _ => some (paddingName index)
  | member _ _ name => some name
  | _ => none

/-- The name stands in the text of the line after the type of the member. -/
theorem Line.exists_text_of_memberName? {l : Line} {name : String} (h : l.memberName? = some name) :
    ∃ type rest, l.text = type ++ " " ++ name ++ rest := by
  cases l with
  | bits storage own width access =>
      obtain rfl : own = name := Option.some.inj h
      refine ⟨"    " ++ storage.name, " : " ++ toString width ++ ";  // " ++ access, ?_⟩
      show "    " ++ storage.name ++ " " ++ own ++ " : " ++ toString width ++ ";  // " ++ access = _
      simp only [String.append_assoc]
  | raw storage =>
      obtain rfl : "raw" = name := Option.some.inj h
      refine ⟨"  " ++ storage.name, ";  // Entire register as raw " ++ storage.name ++ ".", ?_⟩
      -- The line has the name inside a longer text, out of which it is cut here.
      have hname : " raw;  // Entire register as raw " =
        " " ++ "raw" ++ ";  // Entire register as raw " := by decide
      show "  " ++ storage.name ++ " raw;  // Entire register as raw " ++ storage.name ++ "." = _
      rw [hname]
      simp only [String.append_assoc]
  | padding index size =>
      obtain rfl : paddingName index = name := Option.some.inj h
      refine ⟨"  uint8_t", "[" ++ toString size ++ "];  // Unused address space.", ?_⟩
      have hname : "  uint8_t unused" = "  uint8_t" ++ " " ++ "unused" := by decide
      show "  uint8_t unused" ++ toString index ++ "[" ++ toString size ++
        "];  // Unused address space." = _
      rw [hname, paddingName]
      simp only [String.append_assoc]
  | member indent type own =>
      obtain rfl : own = name := Option.some.inj h
      refine ⟨indent ++ type, ";", ?_⟩
      show indent ++ type ++ " " ++ own ++ ";" = _
      rfl
  | _ => cases h

/-- The names of the members that the lines declare. -/
def memberNames (lines : List Line) : List String :=
  lines.filterMap Line.memberName?

theorem memberNames_append (lines lines' : List Line) :
    memberNames (lines ++ lines') = memberNames lines ++ memberNames lines' :=
  List.filterMap_append

theorem memberNames_flatMap {α : Type} (f : α → List Line) (as : List α) :
    memberNames (as.flatMap f) = as.flatMap fun a => memberNames (f a) :=
  List.filterMap_flatMap

theorem memberNames_eq_nil {lines : List Line} (h : ∀ l ∈ lines, l.memberName? = none) :
    memberNames lines = [] :=
  List.filterMap_eq_nil_iff.mpr h

theorem memberNames_description (comment : List String) :
    memberNames (comment.map .description) = [] :=
  memberNames_eq_nil (List.forall_mem_map.mpr fun _ _ => rfl)

theorem memberNames_assertion (assertions : List Assertion) :
    memberNames (assertions.map .assertion) = [] :=
  memberNames_eq_nil (List.forall_mem_map.mpr fun _ _ => rfl)

/-- The made-up names of the members that the lines declare are apart from each other and from those that are
given, and there are no other names. -/
structure NamesApart (lines : List Line) (made given : List String) : Prop where
  /-- A declared name is written in its line. -/
  written : ∀ l ∈ lines, ∀ name ∈ l.memberName?, ∃ type rest, l.text = type ++ " " ++ name ++ rest
  declared : (memberNames lines).Perm (made ++ given)
  made_nodup : made.Nodup
  apart : ∀ name ∈ made, name ∉ given

/-- Only two names that are given can be the same. -/
theorem NamesApart.nodup_iff {lines : List Line} {made given : List String}
    (h : NamesApart lines made given) : (memberNames lines).Nodup ↔ given.Nodup := by
  rw [h.declared.nodup_iff, List.nodup_append]
  constructor
  · rintro ⟨-, hgiven, -⟩
    exact hgiven
  · intro hgiven
    refine ⟨h.made_nodup, hgiven, ?_⟩
    rintro name hmade _ hmem rfl
    exact h.apart name hmade hmem

/-- Parts that declare a padding or names that are given declare, all together, as many paddings as there are
numbers, and all the given names. -/
theorem flatMap_names_perm {α : Type} {parts : List α} {index? : α → Option Nat} {count : Nat}
    (hcount : parts.filterMap index? = List.range' 0 count) (given : α → List String) :
    (parts.flatMap fun a => (index? a).toList.map paddingName ++ given a).Perm
      ((List.range count).map paddingName ++ parts.flatMap given) := by
  have hpaddings : parts.flatMap (fun a => (index? a).toList.map paddingName) =
      (List.range count).map paddingName := by
    rw [← List.map_flatMap, ← List.filterMap_eq_flatMap_toList, hcount, List.range_eq_range']
  rw [← hpaddings]
  exact (List.flatMap_append_perm parts _ _).symm

theorem paddingName_not_mem_upper {α : Type} (index : Nat) (as : List α) (name : α → String) :
    paddingName index ∉ as.map fun a => Text.upper (name a) := by
  intro hmem
  obtain ⟨a, -, ha⟩ := List.mem_map.mp hmem
  exact upper_ne_paddingName (name a) index ha

/-! ### Overlays -/

/-- A slot declares a padding or a field, never both. -/
theorem memberNames_ofSlot (format : Format) (storage : Storage) (s : BitSlot) :
    memberNames ((BitMember.ofSlot format s).marked storage) =
      s.index?.toList.map paddingName ++ s.field?.toList.map fun f => Text.upper f.name := by
  rw [BitMember.marked, memberNames_append, memberNames_description, List.nil_append]
  cases s with
  | field f => rfl
  | unused index offset width => rfl

theorem memberNames_overlay (o : Overlay) :
    memberNames o.marked =
      (o.members.flatMap fun m => memberNames (m.marked o.storage)) ++ ["raw"] := by
  have htitled : memberNames (Line.titled o.comment) = [] := by
    cases o.comment with
    | nil => rfl
    | cons title rest => exact memberNames_description rest
  have hopening : memberNames [.fixed "typedef union \x7b", .fixed "  struct \x7b"] = [] := rfl
  have hclosing :
      memberNames [.fixed "  \x7d;", .raw o.storage, .overlay o.name, .fixed ""] = ["raw"] := rfl
  simp only [Overlay.marked, memberNames_append, memberNames_flatMap, htitled, hopening, hclosing,
    memberNames_assertion, List.nil_append, List.append_nil]

/-- An overlay makes up the names of its paddings and one for the whole register. -/
theorem namesApart_ofRegister (format : Format) (p : Peripheral) (r : Register) :
    ∃ count, NamesApart (Overlay.ofRegister format p r).marked
      ((List.range count).map paddingName ++ ["raw"])
      (r.bitfields.map fun f => Text.upper f.name) := by
  obtain ⟨count, hcount⟩ := index?_bitSlots r.bitWidth 0 0 r.bitfields
  refine ⟨count, fun _ _ _ => Line.exists_text_of_memberName?, ?_, ?_, ?_⟩
  · have hslots : memberNames (Overlay.ofRegister format p r).marked =
        (r.bitLayout.flatMap fun s => s.index?.toList.map paddingName ++
          s.field?.toList.map fun f => Text.upper f.name) ++ ["raw"] := by
      simp only [memberNames_overlay, Overlay.ofRegister, List.flatMap_map, memberNames_ofSlot]
    have hfields : (r.bitLayout.flatMap fun s => s.field?.toList.map fun f => Text.upper f.name) =
        r.bitfields.map fun f => Text.upper f.name := by
      rw [← List.map_flatMap, ← List.filterMap_eq_flatMap_toList, Register.bitLayout, field?_bitSlots]
    have hperm := flatMap_names_perm hcount fun s => s.field?.toList.map fun f => Text.upper f.name
    rw [← Register.bitLayout, hfields] at hperm
    -- The whole register is declared last, after the fields.
    rw [hslots, List.append_assoc]
    refine (hperm.append_right ["raw"]).trans ?_
    rw [List.append_assoc]
    exact List.perm_append_comm.append_left _
  · rw [List.nodup_append]
    refine ⟨nodup_paddingNames count, List.nodup_singleton "raw", ?_⟩
    intro name hname raw hraw
    obtain ⟨index, -, rfl⟩ := List.mem_map.mp hname
    rw [List.mem_singleton.mp hraw]
    exact paddingName_ne_raw index
  · intro name hname
    rcases List.mem_append.mp hname with hpadding | hraw
    · obtain ⟨index, -, rfl⟩ := List.mem_map.mp hpadding
      exact paddingName_not_mem_upper index r.bitfields Bitfield.name
    · rw [List.mem_singleton.mp hraw]
      intro hmem
      obtain ⟨f, -, hf⟩ := List.mem_map.mp hmem
      exact upper_ne_raw f.name hf

/-! ### Structs -/

theorem memberNames_structField (indent : String) (f : StructField) :
    memberNames (f.marked indent) = [f.name] := by
  rw [StructField.marked, memberNames_append, memberNames_description]
  rfl

theorem memberNames_ofMember (format : Format) (p : Peripheral) (m : Member) :
    memberNames (StructMember.ofMember format p m).marked =
      m.index?.toList.map paddingName ++ m.registers.map fun r => Text.upper r.name := by
  cases m with
  | unused index offset size => rfl
  | register r => exact memberNames_structField StructMember.indent _
  | union first others =>
      have hopening : memberNames [.fixed "  union \x7b"] = [] := rfl
      have hclosing : memberNames [.fixed "  \x7d;"] = [] := rfl
      simp only [StructMember.ofMember, StructMember.marked, memberNames_append, memberNames_flatMap,
        memberNames_structField, hopening, hclosing, List.nil_append, List.append_nil,
        List.flatMap_map, ← List.map_eq_flatMap]
      rfl

theorem memberNames_struct (s : Struct) :
    memberNames s.marked = s.members.flatMap fun m => memberNames m.marked := by
  have hopening : memberNames [.fixed "typedef struct \x7b"] = [] := rfl
  have hclosing : memberNames [.struct s.name] = [] := rfl
  have hassertions : memberNames
      (if s.assertions.isEmpty then [] else .fixed "" :: s.assertions.map .assertion) = [] := by
    split
    · rfl
    · exact memberNames_assertion s.assertions
  simp only [Struct.marked, memberNames_append, memberNames_flatMap, memberNames_description, hopening,
    hclosing, hassertions, List.nil_append, List.append_nil]

theorem namesApart_ofPeripheral (format : Format) (p : Peripheral) :
    ∃ count, NamesApart (Struct.ofPeripheral format p).marked
      ((List.range count).map paddingName) (p.registers.map fun r => Text.upper r.name) := by
  obtain ⟨count, hcount⟩ :=
    ByteLayout.index?_place p.name (p.instanceSize?.getD 0) 0 0 (groupByOffset p.registers)
  refine ⟨count, fun _ _ _ => Line.exists_text_of_memberName?, ?_, nodup_paddingNames count, ?_⟩
  · have hmembers : memberNames (Struct.ofPeripheral format p).marked =
        p.byteLayout.members.flatMap fun m => m.index?.toList.map paddingName ++
          m.registers.map fun r => Text.upper r.name := by
      simp only [memberNames_struct, Struct.ofPeripheral, List.flatMap_map, memberNames_ofMember]
    have hregisters : (p.byteLayout.members.flatMap fun m => m.registers.map fun r =>
        Text.upper r.name) = p.registers.map fun r => Text.upper r.name := by
      rw [← List.map_flatMap, p.registers_byteLayout]
    -- Each member is a padding or has registers.
    have hperm := flatMap_names_perm hcount fun m => m.registers.map fun r => Text.upper r.name
    rw [← Peripheral.byteLayout, hregisters] at hperm
    rwa [hmembers]
  · intro name hname
    obtain ⟨index, -, rfl⟩ := List.mem_map.mp hname
    exact paddingName_not_mem_upper index p.registers Register.name

/-- The names that a header makes up for the members of its types clash with no others.

The overlay of a register declares padding, numbered from zero, the whole register and the fields; the struct
of a peripheral declares padding, numbered from zero up to what follows the last register, and the registers.
So the members of a type have different names exactly if those that the description gives differ in upper
case. -/
theorem memberNames_apart (format : Format) (p : Peripheral) :
    (∀ r : Register,
      (Overlay.ofRegister format p r).marked.map Line.text = (Overlay.ofRegister format p r).lines ∧
      (∃ count, NamesApart (Overlay.ofRegister format p r).marked
        ((List.range count).map paddingName ++ ["raw"])
        (r.bitfields.map fun f => Text.upper f.name)) ∧
      ((memberNames (Overlay.ofRegister format p r).marked).Nodup ↔
        (r.bitfields.map fun f => Text.upper f.name).Nodup)) ∧
    (Struct.ofPeripheral format p).marked.map Line.text = (Struct.ofPeripheral format p).lines ∧
    (∃ count, NamesApart (Struct.ofPeripheral format p).marked
      ((List.range count).map paddingName) (p.registers.map fun r => Text.upper r.name)) ∧
    ((memberNames (Struct.ofPeripheral format p).marked).Nodup ↔
      (p.registers.map fun r => Text.upper r.name).Nodup) := by
  refine ⟨fun r => ?_, Struct.map_text_marked _, ?_⟩
  · obtain ⟨count, hapart⟩ := namesApart_ofRegister format p r
    exact ⟨Overlay.map_text_marked _, ⟨count, hapart⟩, hapart.nodup_iff⟩
  · obtain ⟨count, hapart⟩ := namesApart_ofPeripheral format p
    exact ⟨⟨count, hapart⟩, hapart.nodup_iff⟩

/-! ### Handles and arrays -/

/-- The name by which the line declares a pointer or an array of pointers. -/
def Line.pointerName? : Line → Option String
  | handle _ name _ => some name
  | array _ name _ => some name
  | _ => none

/-- The names of the pointers and arrays that the lines declare. -/
def pointerNames (lines : List Line) : List String :=
  lines.filterMap Line.pointerName?

theorem pointerNames_append (lines lines' : List Line) :
    pointerNames (lines ++ lines') = pointerNames lines ++ pointerNames lines' :=
  List.filterMap_append

theorem pointerNames_map {α : Type} {f : α → Line} (h : ∀ a, (f a).pointerName? = none) (as : List α) :
    pointerNames (as.map f) = [] :=
  List.filterMap_eq_nil_iff.mpr (List.forall_mem_map.mpr fun a _ => h a)

/-- A block declares its handles and then its array. -/
theorem pointerNames_sections (b : HandleBlock) :
    pointerNames b.sections.flatten =
      b.handles.map Handle.name ++ (b.array?.map HandleArray.name).toList := by
  have hcomment : pointerNames (b.comment.map .description) = [] :=
    pointerNames_map (fun _ => rfl) b.comment
  have hhandle (h : Handle) :
      pointerNames (b.comment.map .description ++ [.handle b.type h.name h.address]) = [h.name] := by
    rw [pointerNames_append, hcomment]
    rfl
  have hhandles : pointerNames b.marked = b.handles.map Handle.name := by
    have hall : pointerNames b.marked = b.handles.flatMap fun h =>
        pointerNames (b.comment.map .description ++ [.handle b.type h.name h.address]) :=
      List.filterMap_flatMap
    simp only [hall, hhandle]
    exact List.map_eq_flatMap.symm
  have harray (a : HandleArray) : pointerNames (b.markedArray a) = [a.name] := by
    have hslots : pointerNames (a.slots.map .slot) = [] := pointerNames_map (fun _ => rfl) a.slots
    rw [HandleBlock.markedArray, pointerNames_append, pointerNames_append, pointerNames_append, hcomment,
      hslots]
    rfl
  rw [HandleBlock.sections, List.flatten_cons, pointerNames_append, hhandles]
  cases b.array? with
  | none => rfl
  | some a =>
      show _ ++ pointerNames [b.markedArray a].flatten = _ ++ [a.name]
      rw [List.flatten_singleton, harray]

section
variable {p : Peripheral} {indices : List Nat}

/-- Instances with different numbers have different names. -/
theorem nodup_upper_instances (hnumbered : IsNumberedByName p)
    (h : p.instances.mapM Instance.index = some indices) (hnodup : indices.Nodup) :
    (p.instances.map fun i => Text.upper i.name).Nodup := by
  have hindices := nodup_map_index_of_mapM h hnodup
  rw [List.Nodup, List.pairwise_map] at hindices ⊢
  refine hindices.imp_of_mem fun {i j} hi hj hne heq => hne ?_
  obtain ⟨k, hk⟩ := exists_of_mapM_eq_some h i hi
  obtain ⟨l, hl⟩ := exists_of_mapM_eq_some h j hj
  rw [hk, hl, index_eq_of_upper_eq hnumbered hi hj hk hl heq]

/-- The numeral in the name of an instance is there in upper case as well. -/
theorem upper_ne_upper {name definition : String} {n : Int}
    (h : Description.instanceIndex? name definition = some n) :
    Text.upper name ≠ Text.upper definition := by
  obtain ⟨numeral, -, hupper, c, hc, -⟩ := exists_numeral h
  intro heq
  rw [heq, toList_upper] at hupper
  rw [List.self_eq_append_right.mp hupper] at hc
  cases hc

theorem exists_indices_of_array {a : HandleArray} (ha : a ∈ HandleArray.ofPeripheral? p) :
    ∃ indices, p.instances.mapM Instance.index = some indices ∧ a.name = Text.upper p.name := by
  unfold HandleArray.ofPeripheral? at ha
  split at ha
  · cases ha
  · next indices hindices =>
    split at ha
    · obtain rfl := Option.some.inj ha
      exact ⟨indices, hindices, rfl⟩
    · cases ha

end

/-- Where a peripheral of a device that was read has an array of handles, no two of its handles have one name,
and none has the name of the array. -/
theorem pointerNames_of_array {source : Source} {selection : Selection} {path : Path} {d : Device}
    (h : (Description.device source selection path).result = .ok d) (format : Format) {p : Peripheral}
    (hp : p ∈ d.peripherals) {a : HandleArray} (ha : a ∈ (HandleBlock.ofPeripheral format p).array?) :
    (HandleBlock.ofPeripheral format p).sections.map sectionText =
        (HandleBlock.ofPeripheral format p).blocks ∧
      pointerNames (HandleBlock.ofPeripheral format p).sections.flatten =
        (p.instances.map fun i => Text.upper i.name) ++ [Text.upper p.name] ∧
      (p.instances.map fun i => Text.upper i.name).Nodup ∧
      ∀ i ∈ p.instances, Text.upper i.name ≠ Text.upper p.name := by
  obtain ⟨hnumbered, hnodup⟩ := Description.numbered_of_device h p hp
  obtain ⟨indices, hindices, hname⟩ := exists_indices_of_array ha
  refine ⟨HandleBlock.map_sectionText_sections _, ?_, ?_, ?_⟩
  · rw [pointerNames_sections, Option.mem_def.mp ha, ← hname]
    simp [HandleBlock.ofPeripheral, Handle.ofInstance]
  · refine nodup_upper_instances hnumbered hindices ?_
    rwa [← filterMap_index_of_mapM hindices]
  · intro i hi
    obtain ⟨k, hk⟩ := exists_of_mapM_eq_some hindices i hi
    obtain ⟨n, hn, -⟩ := exists_instanceIndex? hnumbered hi hk
    exact upper_ne_upper hn

open Description in
/-- The timers of the board and the array of them have three names. -/
theorem pointerNames_timer :
    timer ∈ board.peripherals ∧
      (HandleBlock.ofPeripheral .standard timer).array? = some ⟨"T", [some "T0", some "T1"]⟩ ∧
      pointerNames (HandleBlock.ofPeripheral .standard timer).sections.flatten = ["T0", "T1", "T"] ∧
      (timer.instances.map fun i => Text.upper i.name).Nodup ∧
      ∀ i ∈ timer.instances, Text.upper i.name ≠ Text.upper timer.name := by
  have hmem : timer ∈ board.peripherals := List.mem_cons_self
  have harray : (HandleBlock.ofPeripheral .standard timer).array? =
      some ⟨"T", [some "T0", some "T1"]⟩ := by
    decide +kernel
  obtain ⟨-, hnames, hnodup, hother⟩ := pointerNames_of_array device_board .standard hmem harray
  have hupper : (timer.instances.map fun i => Text.upper i.name) ++ [Text.upper timer.name] =
      ["T0", "T1", "T"] := by
    decide +kernel
  rw [hupper] at hnames
  exact ⟨hmem, harray, hnames, hnodup, hother⟩

end Header
end RegisterMap
