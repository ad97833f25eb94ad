import RegisterMap.Proofs.ReferenceGroup
import RegisterMap.Proofs.Validation

/-!
# Reading a description

What it takes to read each part of a description, one lemma per reader and all of them about the parts
that were read and not about the way to them.  Whatever the source of the documents does, a part is
checked before it is passed on, so that all of a device is well-formed once it is there at all.
-/

namespace RegisterMap

open Markup (Element)

namespace Archive

/-- A path finds the document that was put last under its normal form. -/
theorem get?_insert (archive : Archive) (path q : Path) (text : String) :
    (archive.insert path text).get? q =
      if q.normalize = path.normalize then some text else archive.get? q := by
  rw [insert, get?, List.lookup_cons]
  by_cases h : q.normalize = path.normalize
  · rw [if_pos h, beq_iff_eq.mpr h]
  · rw [if_neg h, beq_false_of_ne h]
    exact lookup_filter_of_ne h archive.documents

/-- An archive has no other way to fail than that the document is not there or is not well-formed. -/
theorem load_eq_ok_iff {archive : Archive} {path : Path} {e : Element} :
    archive.source.load path = .ok e ↔
      ∃ text, archive.get? path = some text ∧ Markup.parse text = .ok e := by
  cases hget : archive.get? path with
  | none => simp [Source.load, source, hget]
  | some text =>
      cases hparse : Markup.parse text <;> simp [Source.load, source, hget, hparse]

/-- The two archives give the same at a path if they hold the same there. -/
theorem load_congr {archive archive' : Archive} {q : Path}
    (h : archive'.get? q = archive.get? q) : archive'.source.load q = archive.source.load q := by
  simp only [Source.load, Archive.source, h]

end Archive

namespace Description

theorem require_eq_ok_iff {e : Element} {key value : String} :
    require e key = .ok value ↔ e.attribute? key = some value := by
  unfold require
  split
  · next v h => simp [h]
  · next h => simp [h]

theorem checked_eq_ok_iff {α : Type} {result : Except Violation α} {a : α} :
    checked result = .ok a ↔ result = .ok a :=
  mapError_eq_ok_iff

/-! ### Parts -/

theorem validated_of_bitfield {e : Element} {f : Bitfield} (h : bitfield e = .ok f) :
    f.Validated := by
  simp only [bitfield, bind_eq_ok_iff, checked_eq_ok_iff] at h
  obtain ⟨name, -, bitOffset, -, bitWidth, -, highest, -, _, -, description, -, code, -, access, -,
    text, -, resetValue, -, hvalid⟩ := h
  exact ⟨_, hvalid⟩

/-- A register holds what is read off the field elements below it. -/
theorem exists_fields_of_register {e : Element} {r : Register} (h : register e = .ok r) :
    ∃ draft : Register.Draft,
      List.Forall₂ (fun e f => bitfield e = .ok f) (e.descendants "bitfield") draft.bitfields ∧
        draft.validate = .ok r := by
  simp only [register, bind_eq_ok_iff, checked_eq_ok_iff, mapM_eq_ok_iff] at h
  obtain ⟨name, -, text, -, offset, -, description, -, bitWidth, -, addressOffset, -, fields,
    hfields, hvalid⟩ := h
  exact ⟨⟨name, description, bitWidth, addressOffset, fields⟩, hfields, hvalid⟩

theorem forall_mem_of_forall₂ {α β : Type} {R : α → β → Prop} {P : β → Prop} {as : List α}
    {bs : List β} (h : List.Forall₂ R as bs) (hP : ∀ a ∈ as, ∀ b, R a b → P b) :
    ∀ b ∈ bs, P b := by
  induction h with
  | nil => simp
  | cons hab _ ih =>
      rw [List.forall_mem_cons] at hP ⊢
      exact ⟨hP.1 _ hab, ih hP.2⟩

theorem exists_of_mem_forall₂ {α β : Type} {R : α → β → Prop} {as : List α} {bs : List β} {a : α}
    (h : List.Forall₂ R as bs) (ha : a ∈ as) : ∃ b ∈ bs, R a b := by
  induction h with
  | nil => simp at ha
  | @cons a' b as bs hab _ ih =>
      rcases List.mem_cons.mp ha with rfl | hrest
      · exact ⟨b, List.mem_cons_self, hab⟩
      · obtain ⟨b', hb', hab'⟩ := ih hrest
        exact ⟨b', List.mem_cons_of_mem b hb', hab'⟩

/-- A relation between two lists holds between members of them. -/
theorem forall₂_mem {α β : Type} {R : α → β → Prop} {as : List α} {bs : List β}
    (h : List.Forall₂ R as bs) : List.Forall₂ (fun a b => a ∈ as ∧ b ∈ bs ∧ R a b) as bs := by
  induction h with
  | nil => exact .nil
  | cons hab _ ih =>
      refine .cons ⟨List.mem_cons_self, List.mem_cons_self, hab⟩ (ih.imp ?_)
      rintro a b ⟨ha, hb, hab⟩
      exact ⟨List.mem_cons_of_mem _ ha, List.mem_cons_of_mem _ hb, hab⟩

/-- The fields of a register are checked where they are read, which is before the register is. -/
theorem validated_of_register {e : Element} {r : Register} (h : register e = .ok r) :
    r.Validated := by
  obtain ⟨draft, hfields, hvalid⟩ := exists_fields_of_register h
  exact ⟨draft, forall_mem_of_forall₂ hfields fun _ _ _ => validated_of_bitfield, hvalid⟩

theorem validated_of_placement {name : String} {e : Element} {i : Instance}
    (h : placement name e = .ok i) : i.Validated := by
  simp only [placement, bind_eq_ok_iff, checked_eq_ok_iff] at h
  obtain ⟨owner, -, first, -, size, -, last, -, _, -, hvalid⟩ := h
  exact ⟨_, hvalid⟩

/-! ### Documents -/

theorem registers_eq_ok_iff {root : Element} {rs : List Register} :
    registers root = .ok rs ↔
      List.Forall₂ (fun e r => register e = .ok r) (root.descendants "register") rs := by
  simp only [registers, mapM_eq_ok_iff, mapError_eq_ok_iff]

theorem placements_eq_ok_iff {name : String} {elements : List Element} {is : List Instance} :
    placements name elements = .ok is ↔
      List.Forall₂ (fun e i => placement name e = .ok i) elements is := by
  simp only [placements, mapM_eq_ok_iff, mapError_eq_ok_iff]

variable {source : Source} {selection : Selection}

/-- A definition is read off its document and off the elements of its instances. -/
theorem definition_eq_ok_iff {group : Group} {p : Peripheral} :
    (definition source group).result = .ok p ↔
      ∃ (root : Element) (draft : Peripheral.Draft), source.load group.path = .ok root ∧
        root.attribute? "id" = some draft.name ∧
        List.Forall₂ (fun e r => register e = .ok r) (root.descendants "register")
          draft.registers ∧
        List.Forall₂ (fun e i => placement draft.name e = .ok i) group.elements draft.instances ∧
        describe root = .ok draft.description ∧
        draft.validate = .ok p := by
  simp only [definition, Traced.result_bind, Traced.result_ofExcept, Traced.result_ofFault,
    Traced.result_note, bind_eq_ok_iff, exists_unit_iff, mapError_eq_ok_iff, require_eq_ok_iff,
    registers_eq_ok_iff, placements_eq_ok_iff, checked_eq_ok_iff]
  constructor
  · rintro ⟨root, hroot, name, hname, rs, hrs, is, his, -, description, hdescription, hvalid⟩
    exact ⟨root, ⟨name, description, rs, is⟩, hroot, hname, hrs, his, hdescription, hvalid⟩
  · rintro ⟨root, draft, hroot, hname, hrs, his, hdescription, hvalid⟩
    exact ⟨root, hroot, _, hname, _, hrs, _, his, trivial, _, hdescription, hvalid⟩

/-- Placeholders refer to nothing, and only the others are gathered. -/
theorem resolve_eq_ok_iff {base : Path} {cpu : Element} {groups : List Group} :
    (resolve source selection base cpu).result = .ok groups ↔
      ∃ references,
        List.Forall₂ (fun e r => (reference selection base e).result = .ok r)
          (cpu.descendants "instance") references ∧
        groupReferences source.same (references.filterMap id) = groups := by
  simp only [resolve, Traced.result_bind, Traced.result_pure, Traced.result_mapM, bind_eq_ok_iff,
    mapM_eq_ok_iff, Except.ok.injEq]

/-- A device has one processor, which is the first in the document, at any depth. -/
theorem processor_eq_ok_iff {root cpu : Element} :
    processor root = .ok cpu ↔ (root.descendants "cpu").head? = some cpu := by
  unfold processor
  split
  · next c h => simp [h]
  · next h => simp [h]

/-- A device is read off its own document and off those that its instances refer to. -/
theorem device_eq_ok_iff {path : Path} {d : Device} :
    (device source selection path).result = .ok d ↔
      ∃ root cpu groups, source.load path = .ok root ∧
        (root.descendants "cpu").head? = some cpu ∧
        (resolve source selection (baseOf path) cpu).result = .ok groups ∧
        List.Forall₂ (fun g p => (definition source g).result = .ok p) groups d.peripherals ∧
        root.attribute? "partnum" = some d.partNumber ∧ cpu.attribute? "id" = some d.cpuName ∧
        d.partNumber ≠ "" ∧ d.cpuName ≠ "" := by
  simp only [device, Traced.result_within, Traced.result_bind, Traced.result_ofExcept,
    Traced.result_ofFault, Traced.result_note, Traced.result_pure, Traced.result_mapM,
    bind_eq_ok_iff, exists_unit_iff, mapError_eq_ok_iff, mapM_eq_ok_iff, processor_eq_ok_iff,
    require_eq_ok_iff, checked_eq_ok_iff, Device.validate_eq_ok_iff, Except.ok.injEq]
  constructor
  · rintro ⟨root, hroot, cpu, hcpu, groups, hgroups, ps, hps, part, hpart, name, hname, _,
      ⟨hpart', hname', rfl⟩, -, rfl⟩
    exact ⟨root, cpu, groups, hroot, hcpu, hgroups, hps, hpart, hname, hpart', hname'⟩
  · rintro ⟨root, cpu, groups, hroot, hcpu, hgroups, hps, hpart, hname, hpart', hname'⟩
    exact ⟨root, hroot, cpu, hcpu, groups, hgroups, _, hps, _, hpart, _, hname, _,
      ⟨hpart', hname', rfl⟩, trivial, rfl⟩

/-! ### Whole devices -/

theorem validated_of_definition {group : Group} {p : Peripheral}
    (h : (definition source group).result = .ok p) : p.Validated := by
  obtain ⟨root, draft, -, -, hrs, his, -, hvalid⟩ := definition_eq_ok_iff.mp h
  exact ⟨draft, forall_mem_of_forall₂ hrs fun _ _ _ => validated_of_register,
    forall_mem_of_forall₂ his fun _ _ _ => validated_of_placement, hvalid⟩

/-- A definition has an instance for each element that refers to it. -/
theorem length_instances_of_definition {group : Group} {p : Peripheral}
    (h : (definition source group).result = .ok p) :
    p.instances.length = group.elements.length := by
  obtain ⟨root, draft, -, -, -, his, -, hvalid⟩ := definition_eq_ok_iff.mp h
  obtain ⟨-, -, -, -, rfl⟩ := Peripheral.validate_eq_ok_iff.mp hvalid
  rw [his.length_eq]
  exact (Peripheral.isStableSort_sortInstances draft.instances).perm.length_eq

/-- A group is not empty, so the definition that it is read with has an instance. -/
theorem instances_ne_nil_of_device {path : Path} {d : Device}
    (h : (device source selection path).result = .ok d) :
    ∀ p ∈ d.peripherals, p.instances ≠ [] := by
  obtain ⟨root, cpu, groups, -, -, hgroups, hps, -⟩ := device_eq_ok_iff.mp h
  -- Groups are made by gathering references, and there is none without a reference in it.
  obtain ⟨references, -, rfl⟩ := resolve_eq_ok_iff.mp hgroups
  refine forall_mem_of_forall₂ hps fun g hg p hp => ?_
  rw [← List.length_pos_iff, length_instances_of_definition hp, List.length_pos_iff]
  exact elements_ne_nil_groupReferences _ _ g hg

/-- Two fields that lie one after the other are in order and share no bit. -/
theorem fields_apart {f g : Bitfield} (hf : f.WellFormed) (h : f.bitEnd ≤ g.bitOffset) :
    f.bitOffset < g.bitOffset ∧ ¬f.Overlaps g := by
  have hpos := hf.bitWidth_pos
  have hend : f.bitEnd = f.bitOffset + f.bitWidth := rfl
  refine ⟨by omega, ?_⟩
  rintro ⟨bit, ⟨-, hbefore⟩, hafter, -⟩
  omega

/-- Whatever the source of the documents and the selection, a device that is read at all is well-formed
throughout, each of its peripherals has an instance, and the fields of each register are in order and
share no bit. -/
theorem wellFormed_of_device {path : Path} {d : Device}
    (h : (device source selection path).result = .ok d) :
    d.WellFormed ∧ ∀ p ∈ d.peripherals, p.instances ≠ [] ∧ ∀ r ∈ p.registers,
      r.bitfields.Pairwise fun f g => f.bitOffset < g.bitOffset ∧ ¬f.Overlaps g := by
  have hinstances := instances_ne_nil_of_device h
  obtain ⟨root, cpu, groups, -, -, -, hps, -, -, hpart, hname⟩ := device_eq_ok_iff.mp h
  have hwellFormed : ∀ p ∈ d.peripherals, p.WellFormed :=
    forall_mem_of_forall₂ hps fun _ _ _ hp => (validated_of_definition hp).wellFormed
  refine ⟨⟨hpart, hname, hwellFormed⟩, fun p hp => ⟨hinstances p hp, fun r hr => ?_⟩⟩
  have hr' := (hwellFormed p hp).registers r hr
  -- The order of the ends is all that the check gives; that fields are not empty makes it strict.
  refine hr'.ordered.imp_of_mem fun hf _ hend => ?_
  exact fields_apart (hr'.fields _ hf) hend

/-! ### A board

Two timers, a serial port, a placeholder and an instance without a definition. -/

/-- The timers refer to their definition by two paths, and the port stands on a bus. -/
def boardText : String :=
  "<device partnum='P1'><cpu id='C0'><instance href='x.xml'/>
    <instance id='T1' href='t.xml' baseaddr='0x20' size='8'/>
    <bus><instance id='U0' href='u.xml' baseaddr='0x40' size='4'/></bus>
    <instance id='T0' href='../d/t.xml' baseaddr='0x10' size='8'/>
    <instance id='X0' href='x.xml' baseaddr='0x80' size='4'/></cpu></device>"

/-- Neither the registers nor the fields are written in their order. -/
def timerText : String :=
  "<module id='T' description='timer'>
    <register id='COUNT' width='32' offset='4' description='count'/>
    <register id='CTRL' width='32' offset='0' description='control'>
    <bitfield id='MODE' begin='3' end='1' width='3' rwaccess='RW' resetval='2' description='mode'/>
    <bitfield id='EN' begin='0' end='0' width='1' rwaccess='RW' resetval='0' description='on'/>
    </register></module>"

def portText : String :=
  "<module id='U' description='port'/>"

def boardArchive : Archive :=
  ((Archive.empty.insert ⟨"d/top.xml"⟩ boardText).insert ⟨"d/t.xml"⟩ timerText).insert ⟨"d/u.xml"⟩
    portText

/-- Everything but what stands at the address of the instance without a definition. -/
def boardSelection : Selection :=
  Selection.all.excludeRange ⟨0x80, 0xff⟩

def timer1 : Element :=
  ⟨"instance", [("id", "T1"), ("href", "t.xml"), ("baseaddr", "0x20"), ("size", "8")], []⟩

def timer0 : Element :=
  ⟨"instance", [("id", "T0"), ("href", "../d/t.xml"), ("baseaddr", "0x10"), ("size", "8")], []⟩

def port0 : Element :=
  ⟨"instance", [("id", "U0"), ("href", "u.xml"), ("baseaddr", "0x40"), ("size", "4")], []⟩

def boardCpu : Element :=
  ⟨"cpu", [("id", "C0")], [⟨"instance", [("href", "x.xml")], []⟩, timer1, ⟨"bus", [], [port0]⟩, timer0,
    ⟨"instance", [("id", "X0"), ("href", "x.xml"), ("baseaddr", "0x80"), ("size", "4")], []⟩]⟩

def timerControl : Element :=
  ⟨"register", [("id", "CTRL"), ("width", "32"), ("offset", "0"), ("description", "control")],
    [⟨"bitfield", [("id", "MODE"), ("begin", "3"), ("end", "1"), ("width", "3"), ("rwaccess", "RW"),
        ("resetval", "2"), ("description", "mode")], []⟩,
      ⟨"bitfield", [("id", "EN"), ("begin", "0"), ("end", "0"), ("width", "1"), ("rwaccess", "RW"),
        ("resetval", "0"), ("description", "on")], []⟩]⟩

def timerCount : Element :=
  ⟨"register", [("id", "COUNT"), ("width", "32"), ("offset", "4"), ("description", "count")], []⟩

def timerRoot : Element :=
  ⟨"module", [("id", "T"), ("description", "timer")], [timerCount, timerControl]⟩

def modeField : Bitfield :=
  ⟨"MODE", "mode", 1, 3, .readWrite, 2⟩

def enableField : Bitfield :=
  ⟨"EN", "on", 0, 1, .readWrite, 0⟩

def countRegister : Register :=
  ⟨"COUNT", "count", 32, 4, []⟩

def controlRegister : Register :=
  ⟨"CTRL", "control", 32, 0, [enableField, modeField]⟩

def timer : Peripheral :=
  ⟨"T", "timer", [controlRegister, countRegister], [⟨"T0", some 0, 0x10, 8⟩, ⟨"T1", some 1, 0x20, 8⟩]⟩

def port : Peripheral :=
  ⟨"U", "port", [], [⟨"U0", some 0, 0x40, 4⟩]⟩

def board : Device :=
  ⟨"P1", "C0", [timer, port]⟩

set_option maxRecDepth 4000 in
theorem load_board :
    boardArchive.source.load ⟨"d/top.xml"⟩ =
      .ok ⟨"device", [("partnum", "P1")], [boardCpu]⟩ := by
  rw [Archive.load_eq_ok_iff]
  refine ⟨boardText, ?_, Markup.parse_eq_ok_iff.mpr ?_⟩
  · rw [boardArchive, Archive.get?_insert, if_neg (by decide +kernel), Archive.get?_insert,
      if_neg (by decide +kernel), Archive.get?_insert, if_pos rfl]
  · rw [show boardText.toList = _ from String.toList_ofList]
    decide +kernel

set_option maxRecDepth 4000 in
theorem load_timer : boardArchive.source.load ⟨"d/t.xml"⟩ = .ok timerRoot := by
  rw [Archive.load_eq_ok_iff]
  refine ⟨timerText, ?_, Markup.parse_eq_ok_iff.mpr ?_⟩
  · rw [boardArchive, Archive.get?_insert, if_neg (by decide +kernel), Archive.get?_insert,
      if_pos rfl]
  · rw [show timerText.toList = _ from String.toList_ofList]
    decide +kernel

theorem register_timerControl : register timerControl = .ok controlRegister := by
  simp only [register, bind_eq_ok_iff, checked_eq_ok_iff]
  exact ⟨"CTRL", rfl, "0", rfl, 0, by decide +kernel, "control", by decide +kernel, 32,
    by decide +kernel, 0, by decide +kernel, [modeField, enableField], by decide +kernel, by cbv⟩

theorem definition_timer :
    (definition boardArchive.source ⟨⟨"d/t.xml"⟩, [timer1, timer0]⟩).result = .ok timer := by
  rw [definition_eq_ok_iff]
  refine ⟨timerRoot, ⟨"T", "timer", [countRegister, controlRegister],
    [⟨"T1", some 1, 0x20, 8⟩, ⟨"T0", some 0, 0x10, 8⟩]⟩, load_timer, rfl, ?_, ?_,
    by decide +kernel, by cbv⟩
  -- The registers are read in the order of the document and are put in that of their offsets by the
  -- check.
  · rw [show timerRoot.descendants "register" = [timerCount, timerControl] by decide +kernel]
    exact .cons (by decide +kernel) (.cons register_timerControl .nil)
  · exact .cons (by decide +kernel) (.cons (by decide +kernel) .nil)

theorem device_board :
    (device boardArchive.source boardSelection ⟨"d/top.xml"⟩).result = .ok board := by
  rw [device_eq_ok_iff]
  refine ⟨_, boardCpu, [⟨⟨"d/t.xml"⟩, [timer1, timer0]⟩, ⟨⟨"d/u.xml"⟩, [port0]⟩], load_board,
    by decide +kernel, by decide +kernel, ?_, rfl, rfl, by decide, by decide⟩
  exact .cons definition_timer (.cons (by decide +kernel) .nil)

/-- On the board the fields of the control register are put in order. -/
theorem wellFormed_board :
    (device boardArchive.source boardSelection ⟨"d/top.xml"⟩).result = .ok board ∧
      board.WellFormed ∧ timer.instances ≠ [] ∧
      [enableField, modeField].Pairwise fun f g => f.bitOffset < g.bitOffset ∧ ¬f.Overlaps g := by
  obtain ⟨hboard, hparts⟩ := wellFormed_of_device device_board
  obtain ⟨hinstances, hregisters⟩ := hparts timer List.mem_cons_self
  exact ⟨device_board, hboard, hinstances, hregisters controlRegister List.mem_cons_self⟩

end Description
end RegisterMap
