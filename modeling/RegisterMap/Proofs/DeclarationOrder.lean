import RegisterMap.Proofs.Handles
import RegisterMap.Proofs.ReorderedParts

/-!
# The order of declarations

Fields may be written in any order in a register, registers in a definition and instances under a
processor: the header is the same (`result_generate_reordered`).  Two orders do count.  Registers at one
offset, and instances of one definition at one address, stay in the order in which they are written; and
the peripherals of a device are in the order in which instances first refer to them.

The top document may be a definition as well, of itself.  If its registers hold processors, the order of
the registers tells which processor is the first, and with it the device (`header_selfDescribed`).
-/

namespace RegisterMap
namespace Description

open Markup (Element)
open Markup.Element (Moved)

variable {selection : Selection} {base : Path}

/-! ### Documents -/

/-- One change to a document that does not count.  In the top document, which may be a definition as well,
the order of references is kept and registers are moved only if no processors or instances are moved
with them. -/
inductive Step (selection : Selection) (base : Path) (top : Prop) : Element → Element → Prop
  | fields {root root' : Element} (h : Moved "bitfield" root root') :
      Step selection base top root root'
  | registers {root root' : Element} (h : RegistersMoved root root')
      (hapart : top → RegistersApart root) : Step selection base top root root'
  | instances {root root' : Element} (h : Moved "instance" root root')
      (hkept : top → KeepsReferences selection base root root') : Step selection base top root root'

/-- The documents of two archives differ at most by such changes, for a device with its top document at
that path. -/
def Reordered (selection : Selection) (path : Path) (archive archive' : Archive) : Prop :=
  ∀ q : Path,
    (∃ failure failure', archive.source.load q = .error failure ∧
      archive'.source.load q = .error failure') ∨
    ∃ root root', archive.source.load q = .ok root ∧ archive'.source.load q = .ok root' ∧
      Relation.ReflTransGen
        (Step selection (baseOf path) (q.normalize = path.normalize)) root root'

section
variable {top : Prop} {root root' : Element}

theorem RegistersMoved.symm (h : RegistersMoved root root') : RegistersMoved root' root :=
  ⟨h.bare.symm, h.rearranged.symm, fun offset => (h.ordered offset).symm⟩

/-- Every change is undone by one of the same kind. -/
theorem Step.symm (h : Step selection base top root root') : Step selection base top root' root := by
  cases h with
  | fields h => exact .fields h.symm
  | registers h hapart =>
      exact .registers h.symm fun htop c hc => hapart htop c (h.rearranged.perm.mem_iff.mpr hc)
  | instances h hkept =>
      exact .instances h.symm fun htop cpu cpu' hcpu hcpu' =>
        (hkept htop cpu' cpu hcpu' hcpu).symm

instance : Std.Symm (Step selection base top) :=
  ⟨fun _ _ => Step.symm⟩

theorem Reordered.symm {path : Path} {archive archive' : Archive}
    (h : Reordered selection path archive archive') :
    Reordered selection path archive' archive := by
  intro q
  rcases h q with ⟨failure, failure', hq, hq'⟩ | ⟨root, root', hq, hq', hsteps⟩
  · exact .inl ⟨failure', failure, hq', hq⟩
  · exact .inr ⟨root', root, hq', hq, Relation.ReflTransGen.stdSymm.symm _ _ hsteps⟩

/-- To a document that is read as a definition no change counts. -/
theorem alikeDefinition_of_step (h : Step selection base top root root') :
    AlikeDefinition root root' := by
  cases h with
  | fields h => exact alikeDefinition_of_moved h (by decide)
  | registers h _ => exact alikeDefinition_of_registersMoved h
  | instances h _ => exact alikeDefinition_of_moved h (by decide)

/-- To the top document none counts that keeps to the conditions on it. -/
theorem alikeTop_of_step (htop : top) (h : Step selection base top root root') :
    AlikeTop selection base root root' := by
  cases h with
  | fields h => exact alikeTop_of_fields h
  | registers h hapart => exact alikeTop_of_registers h (hapart htop)
  | instances h hkept => exact alikeTop_of_instances h (hkept htop)

theorem alikeDefinition_of_steps
    (h : Relation.ReflTransGen (Step selection base top) root root') :
    AlikeDefinition root root' := by
  induction h with
  | refl => exact .refl root
  | tail _ hstep ih => exact ih.trans (alikeDefinition_of_step hstep)

theorem alikeTop_of_steps (htop : top)
    (h : Relation.ReflTransGen (Step selection base top) root root') :
    AlikeTop selection base root root' := by
  induction h with
  | refl => exact .refl root
  | tail _ hstep ih => exact ih.trans (alikeTop_of_step htop hstep)

end

/-! ### Peripherals and devices -/

variable {archive archive' : Archive} {path : Path}

theorem placement_of_bare (definition : String) (es : List Element) (is : List Instance) :
    List.Forall₂ (fun e i => placement definition e = .ok i) (es.map Element.bare) is ↔
      List.Forall₂ (fun e i => placement definition e = .ok i) es is := by
  simp only [List.forall₂_map_left_iff, placement_bare]

/-- A document is found under every path with the same normal form. -/
theorem load_of_normalize {p q : Path} (hpath : p.normalize = q.normalize) {root : Element}
    (h : archive.source.load p = .ok root) : archive.source.load q = .ok root := by
  rw [Archive.load_eq_ok_iff] at h ⊢
  rwa [Archive.get?, ← hpath]

theorem Reordered.exists_load (h : Reordered selection path archive archive') {q : Path}
    {root : Element} (hroot : archive.source.load q = .ok root) :
    ∃ root', archive'.source.load q = .ok root' ∧
      Relation.ReflTransGen
        (Step selection (baseOf path) (q.normalize = path.normalize)) root root' := by
  rcases h q with ⟨failure, failure', hq, -⟩ | ⟨root₁, root', hq, hq', hsteps⟩
  · rw [hroot] at hq
    cases hq
  · rw [hroot] at hq
    obtain rfl := Except.ok.inj hq
    exact ⟨root', hq', hsteps⟩

/-- A peripheral is the same for its definition and its instances in another order. -/
theorem definition_of_reordered (h : Reordered selection path archive archive') {g g' : Group}
    (hgroup : AlikeGroup g g') {p : Peripheral}
    (hp : (definition archive.source g).result = .ok p) :
    (definition archive'.source g').result = .ok p := by
  rw [definition_eq_ok_iff] at hp ⊢
  obtain ⟨root, draft, hroot, hname, hrs, his, hdescription, hvalid⟩ := hp
  obtain ⟨root', hroot', hsteps⟩ := h.exists_load (load_of_normalize hgroup.path hroot)
  have halike := alikeDefinition_of_steps hsteps
  obtain ⟨rs', hrs', hsame⟩ := halike.registers _ hrs
  -- An instance is read off its attributes alone, so that its children may be left out on both sides.
  rw [← placement_of_bare] at his
  obtain ⟨is', his', hsame'⟩ :=
    exists_sameByKey (fun _ _ => address?_of_placement) his hgroup.perm hgroup.ordered
  rw [placement_of_bare] at his'
  refine ⟨root', { draft with registers := rs', instances := is' }, hroot', ?_, hrs', his', ?_, ?_⟩
  · rw [← attribute?_congr halike.bare]
    exact hname
  · rw [← hdescription]
    simp only [describe, require_congr halike.bare]
  · rw [Peripheral.validate_of_sameByKey hsame hsame']
    exact hvalid

/-- A device is the same for documents in another order. -/
theorem device_of_reordered (h : Reordered selection path archive archive') {d : Device}
    (hd : (device archive.source selection path).result = .ok d) :
    (device archive'.source selection path).result = .ok d := by
  rw [device_eq_ok_iff] at hd ⊢
  obtain ⟨root, cpu, groups, hroot, hcpu, hgroups, hps, hpart, hname, hpart', hname'⟩ := hd
  obtain ⟨root', hroot', hsteps⟩ := h.exists_load hroot
  have hbare := (alikeDefinition_of_steps hsteps).bare
  obtain ⟨cpu', hcpu', halike⟩ := alikeTop_of_steps (Eq.refl path.normalize) hsteps cpu hcpu
  obtain ⟨groups', hgroups', halike'⟩ := exists_resolve_of_alike halike hgroups
  have hps' : List.Forall₂ (fun g p => (definition archive'.source g).result = .ok p) groups'
      d.peripherals :=
    forall₂_of_alike halike' hps fun _ _ _ hgroup hp => definition_of_reordered h hgroup hp
  refine ⟨root', cpu', groups', hroot', hcpu', hgroups', hps', ?_, ?_, hpart', hname'⟩
  · rw [← attribute?_congr hbare]
    exact hpart
  · rw [← attribute?_congr halike.bare]
    exact hname

theorem result_generate_of_reordered (h : Reordered selection path archive archive')
    {format : Header.Format} {text : String}
    (htext : (generate archive.source selection format path).result = .ok text) :
    (generate archive'.source selection format path).result = .ok text := by
  simp only [generate, Traced.result_bind, bind_eq_ok_iff] at htext ⊢
  obtain ⟨d, hd, hheader⟩ := htext
  exact ⟨d, device_of_reordered h hd, hheader⟩

/-- The order of declarations does not count: two archives whose documents differ in it both give the
same header, or neither gives any. -/
theorem result_generate_reordered (h : Reordered selection path archive archive')
    (format : Header.Format) (text : String) :
    (generate archive.source selection format path).result = .ok text ↔
      (generate archive'.source selection format path).result = .ok text :=
  ⟨result_generate_of_reordered h, result_generate_of_reordered h.symm⟩

/-! ### The board in another order -/

/-- The timers change places. -/
def movedBoardText : String :=
  "<device partnum='P1'><cpu id='C0'><instance href='x.xml'/>
    <instance id='T0' href='../d/t.xml' baseaddr='0x10' size='8'/>
    <bus><instance id='U0' href='u.xml' baseaddr='0x40' size='4'/></bus>
    <instance id='X0' href='x.xml' baseaddr='0x80' size='4'/>
    <instance id='T1' href='t.xml' baseaddr='0x20' size='8'/></cpu></device>"

/-- The registers change places, and so do the fields of the control register. -/
def movedTimerText : String :=
  "<module id='T' description='timer'>
    <register id='CTRL' width='32' offset='0' description='control'>
    <bitfield id='EN' begin='0' end='0' width='1' rwaccess='RW' resetval='0' description='on'/>
    <bitfield id='MODE' begin='3' end='1' width='3' rwaccess='RW' resetval='2' description='mode'/>
    </register>
    <register id='COUNT' width='32' offset='4' description='count'/></module>"

def movedBoardArchive : Archive :=
  ((Archive.empty.insert ⟨"d/top.xml"⟩ movedBoardText).insert ⟨"d/t.xml"⟩ movedTimerText).insert
    ⟨"d/u.xml"⟩ portText

def movedBoardCpu : Element :=
  ⟨"cpu", [("id", "C0")], [⟨"instance", [("href", "x.xml")], []⟩, timer0, ⟨"bus", [], [port0]⟩,
    ⟨"instance", [("id", "X0"), ("href", "x.xml"), ("baseaddr", "0x80"), ("size", "4")], []⟩, timer1]⟩

def movedTimerControl : Element :=
  { timerControl with children := timerControl.children.reverse }

def movedTimerRoot : Element :=
  { timerRoot with children := [movedTimerControl, timerCount] }

set_option maxRecDepth 4000 in
theorem load_movedBoard :
    movedBoardArchive.source.load ⟨"d/top.xml"⟩ =
      .ok ⟨"device", [("partnum", "P1")], [movedBoardCpu]⟩ := by
  rw [Archive.load_eq_ok_iff]
  refine ⟨movedBoardText, ?_, Markup.parse_eq_ok_iff.mpr ?_⟩
  · rw [movedBoardArchive, Archive.get?_insert, if_neg (by decide), Archive.get?_insert,
      if_neg (by decide), Archive.get?_insert, if_pos rfl]
  · rw [show movedBoardText.toList = _ from String.toList_ofList]
    decide +kernel

set_option maxRecDepth 4000 in
theorem load_movedTimer : movedBoardArchive.source.load ⟨"d/t.xml"⟩ = .ok movedTimerRoot := by
  rw [Archive.load_eq_ok_iff]
  refine ⟨movedTimerText, ?_, Markup.parse_eq_ok_iff.mpr ?_⟩
  · rw [movedBoardArchive, Archive.get?_insert, if_neg (by decide), Archive.get?_insert,
      if_pos rfl]
  · rw [show movedTimerText.toList = _ from String.toList_ofList]
    decide +kernel

theorem keepsReferences_board :
    KeepsReferences boardSelection ⟨"d"⟩ ⟨"device", [("partnum", "P1")], [boardCpu]⟩
      ⟨"device", [("partnum", "P1")], [movedBoardCpu]⟩ := by
  intro cpu cpu' hcpu hcpu'
  have hfirst : (Element.descendants ⟨"device", [("partnum", "P1")], [boardCpu]⟩ "cpu").head? =
      some boardCpu := by decide +kernel
  have hfirst' : (Element.descendants ⟨"device", [("partnum", "P1")], [movedBoardCpu]⟩ "cpu").head? =
      some movedBoardCpu := by decide +kernel
  obtain rfl := Option.some.inj (hfirst.symm.trans hcpu)
  obtain rfl := Option.some.inj (hfirst'.symm.trans hcpu')
  have hnodes : (nodesOf boardCpu).filter (isIncluded boardSelection) =
      [timer1, port0, timer0] := by decide +kernel
  have hnodes' : (nodesOf movedBoardCpu).filter (isIncluded boardSelection) =
      [timer0, port0, timer1] := by decide +kernel
  have htimer0 : address? timer0 = some 0x10 := by decide
  have htimer1 : address? timer1 = some 0x20 := by decide
  have hport0 : address? port0 = some 0x40 := by decide
  refine ⟨by decide +kernel, fun target address => ?_⟩
  rw [hnodes, hnodes']
  -- The three addresses differ, so that no more than one element is left on either side.
  by_cases h10 : address = 0x10
  · simp [List.filter_cons, htimer0, htimer1, hport0, h10]
  · by_cases h20 : address = 0x20
    · simp [List.filter_cons, htimer0, htimer1, hport0, h20]
    · simp [List.filter_cons, htimer0, htimer1, hport0, Ne.symm h10, Ne.symm h20]

theorem moved_board :
    Moved "instance" ⟨"device", [("partnum", "P1")], [boardCpu]⟩
      ⟨"device", [("partnum", "P1")], [movedBoardCpu]⟩ := by
  have hcpu : Moved "instance" boardCpu movedBoardCpu :=
    .here ⟨rfl, by decide, by decide, by decide⟩
  have hroot : Moved "instance" ⟨"device", [("partnum", "P1")], [] ++ boardCpu :: []⟩
      ⟨"device", [("partnum", "P1")], [] ++ movedBoardCpu :: []⟩ := .inside hcpu
  exact hroot

theorem moved_timer :
    Moved "bitfield" timerRoot { timerRoot with children := [timerCount, movedTimerControl] } := by
  have hcontrol : Moved "bitfield" timerControl movedTimerControl :=
    .here ⟨rfl, by decide, by decide, by decide⟩
  have hroot : Moved "bitfield" ⟨timerRoot.tag, timerRoot.attributes, [timerCount] ++ timerControl :: []⟩
      ⟨timerRoot.tag, timerRoot.attributes, [timerCount] ++ movedTimerControl :: []⟩ := .inside hcontrol
  exact hroot

/-- Two elements may change places before a choice by a mark in which they differ. -/
theorem filter_swap {α : Type} {mark : α → Option Int} {a b : α} (h : mark a ≠ mark b) (n : Int) :
    [a, b].filter (mark · = some n) = [b, a].filter (mark · = some n) := by
  by_cases ha : mark a = some n
  · have hb : mark b ≠ some n := fun hb => h (ha.trans hb.symm)
    simp [ha, hb]
  · simp [List.filter_cons, ha]

theorem registersMoved_timer :
    RegistersMoved { timerRoot with children := [timerCount, movedTimerControl] } movedTimerRoot where
  bare := rfl
  rearranged := ⟨.swap _ _ _, by decide⟩
  ordered := by
    intro offset
    have hdiffer : offset? timerCount ≠ offset? movedTimerControl := by decide
    have hbelow : registersBelow { timerRoot with children := [timerCount, movedTimerControl] } =
        [timerCount, movedTimerControl] := by
      simp [registersBelow, Element.descendants, Element.search, timerCount, movedTimerControl,
        timerControl]
    have hbelow' : registersBelow movedTimerRoot = [movedTimerControl, timerCount] := by
      simp [registersBelow, Element.descendants, Element.search, movedTimerRoot, timerCount,
        movedTimerControl, timerControl]
    rw [hbelow, hbelow', filter_swap hdiffer]

theorem reordered_board :
    Reordered boardSelection ⟨"d/top.xml"⟩ boardArchive movedBoardArchive := by
  have hbase : baseOf ⟨"d/top.xml"⟩ = ⟨"d"⟩ := by decide
  have hapart : RegistersApart { timerRoot with children := [timerCount, movedTimerControl] } := by
    simp [RegistersApart, Element.descendants, Element.search, timerCount, movedTimerControl,
      timerControl]
  intro q
  by_cases htimer : q.normalize = (⟨"d/t.xml"⟩ : Path).normalize
  · refine .inr ⟨timerRoot, movedTimerRoot, load_of_normalize htimer.symm load_timer,
      load_of_normalize htimer.symm load_movedTimer, ?_⟩
    exact .tail (.single (.fields moved_timer)) (.registers registersMoved_timer fun _ => hapart)
  by_cases htop : q.normalize = (⟨"d/top.xml"⟩ : Path).normalize
  · refine .inr ⟨_, _, load_of_normalize htop.symm load_board,
      load_of_normalize htop.symm load_movedBoard, .single (.instances moved_board fun _ => ?_)⟩
    rw [hbase]
    exact keepsReferences_board
  -- All other documents are the same in both archives, if they are there at all.
  have hget : movedBoardArchive.get? q = boardArchive.get? q := by
    simp only [movedBoardArchive, boardArchive, Archive.get?_insert, if_neg htimer, if_neg htop]
  have hload := Archive.load_congr hget
  cases hroot : boardArchive.source.load q with
  | error failure => exact .inl ⟨failure, failure, rfl, hload.trans hroot⟩
  | ok root => exact .inr ⟨root, root, rfl, hload.trans hroot, .refl⟩

/-- The board has the same header in either order. -/
theorem result_generate_movedBoard :
    Reordered boardSelection ⟨"d/top.xml"⟩ boardArchive movedBoardArchive ∧
      (generate movedBoardArchive.source boardSelection .standard ⟨"d/top.xml"⟩).result =
        .ok (board.header .standard) :=
  ⟨reordered_board,
    (result_generate_reordered reordered_board .standard _).mp Header.result_generate_board⟩

/-! ### A device in its own registers

A document that defines itself, with a processor in each of two registers. -/

def selfText : String :=
  "<device id='D' description='d' partnum='P1'>
    <register id='A' width='32' offset='0' description='a'><cpu id='C0'>
    <instance id='D0' href='top.xml' baseaddr='0x10' size='8'/></cpu></register>
    <register id='B' width='32' offset='4' description='b'><cpu id='C1'>
    <instance id='D1' href='top.xml' baseaddr='0x20' size='8'/></cpu></register></device>"

/-- The registers change places. -/
def swappedText : String :=
  "<device id='D' description='d' partnum='P1'>
    <register id='B' width='32' offset='4' description='b'><cpu id='C1'>
    <instance id='D1' href='top.xml' baseaddr='0x20' size='8'/></cpu></register>
    <register id='A' width='32' offset='0' description='a'><cpu id='C0'>
    <instance id='D0' href='top.xml' baseaddr='0x10' size='8'/></cpu></register></device>"

def selfNode0 : Element :=
  ⟨"instance", [("id", "D0"), ("href", "top.xml"), ("baseaddr", "0x10"), ("size", "8")], []⟩

def selfNode1 : Element :=
  ⟨"instance", [("id", "D1"), ("href", "top.xml"), ("baseaddr", "0x20"), ("size", "8")], []⟩

def selfRegisterA : Element :=
  ⟨"register", [("id", "A"), ("width", "32"), ("offset", "0"), ("description", "a")],
    [⟨"cpu", [("id", "C0")], [selfNode0]⟩]⟩

def selfRegisterB : Element :=
  ⟨"register", [("id", "B"), ("width", "32"), ("offset", "4"), ("description", "b")],
    [⟨"cpu", [("id", "C1")], [selfNode1]⟩]⟩

def selfRoot (registers : List Element) : Element :=
  ⟨"device", [("id", "D"), ("description", "d"), ("partnum", "P1")], registers⟩

def selfArchive (text : String) : Archive :=
  Archive.empty.insert ⟨"top.xml"⟩ text

/-- The peripheral that the document defines, with one instance. -/
def selfPeripheral (i : Instance) : Peripheral :=
  ⟨"D", "d", [⟨"A", "a", 32, 0, []⟩, ⟨"B", "b", 32, 4, []⟩], [i]⟩

theorem load_selfArchive {text : String} {root : Element}
    (h : Markup.parse text = .ok root) : (selfArchive text).source.load ⟨"top.xml"⟩ = .ok root := by
  rw [Archive.load_eq_ok_iff]
  exact ⟨text, by rw [selfArchive, Archive.get?_insert, if_pos rfl], h⟩

set_option maxRecDepth 4000 in
theorem parse_selfText : Markup.parse selfText = .ok (selfRoot [selfRegisterA, selfRegisterB]) := by
  rw [Markup.parse_eq_ok_iff, show selfText.toList = _ from String.toList_ofList]
  decide +kernel

set_option maxRecDepth 4000 in
theorem parse_swappedText :
    Markup.parse swappedText = .ok (selfRoot [selfRegisterB, selfRegisterA]) := by
  rw [Markup.parse_eq_ok_iff, show swappedText.toList = _ from String.toList_ofList]
  decide +kernel

/-- The device that such a document describes is that of its first processor. -/
theorem device_selfArchive {text cpuName : String} {elements : List Element} {node : Element}
    {registers : List Register} {i : Instance}
    (hparse : Markup.parse text = .ok (selfRoot elements))
    (hcpu : ((selfRoot elements).descendants "cpu").head? = some ⟨"cpu", [("id", cpuName)], [node]⟩)
    (hname : cpuName ≠ "")
    (hgroups : (resolve (selfArchive text).source .all (baseOf ⟨"top.xml"⟩)
      ⟨"cpu", [("id", cpuName)], [node]⟩).result = .ok [⟨⟨"top.xml"⟩, [node]⟩])
    (hregisters : List.Forall₂ (fun e r => register e = .ok r)
      ((selfRoot elements).descendants "register") registers)
    (hinstance : placement "D" node = .ok i)
    (hvalid : Peripheral.Draft.validate ⟨"D", "d", registers, [i]⟩ = .ok (selfPeripheral i)) :
    (device (selfArchive text).source .all ⟨"top.xml"⟩).result =
      .ok ⟨"P1", cpuName, [selfPeripheral i]⟩ := by
  have hload := load_selfArchive hparse
  have hdefinition : (definition (selfArchive text).source ⟨⟨"top.xml"⟩, [node]⟩).result =
      .ok (selfPeripheral i) := by
    rw [definition_eq_ok_iff]
    exact ⟨_, ⟨"D", "d", registers, [i]⟩, hload, rfl, hregisters, .cons hinstance .nil, rfl, hvalid⟩
  rw [device_eq_ok_iff]
  exact ⟨_, _, _, hload, hcpu, hgroups, .cons hdefinition .nil, rfl, rfl, by simp, hname⟩

theorem registersMoved_selfRoot :
    RegistersMoved (selfRoot [selfRegisterA, selfRegisterB])
      (selfRoot [selfRegisterB, selfRegisterA]) where
  bare := rfl
  rearranged := ⟨.swap _ _ _, by decide⟩
  ordered := by
    intro offset
    have hbelow : registersBelow (selfRoot [selfRegisterA, selfRegisterB]) =
        [selfRegisterA, selfRegisterB] := by
      simp [registersBelow, selfRoot, Element.descendants, Element.search, selfRegisterA,
        selfRegisterB, selfNode0, selfNode1]
    have hbelow' : registersBelow (selfRoot [selfRegisterB, selfRegisterA]) =
        [selfRegisterB, selfRegisterA] := by
      simp [registersBelow, selfRoot, Element.descendants, Element.search, selfRegisterA,
        selfRegisterB, selfNode0, selfNode1]
    have hdiffer : offset? selfRegisterA ≠ offset? selfRegisterB := by decide
    rw [hbelow, hbelow', filter_swap hdiffer]

/-- Where a document defines itself and its registers hold processors, the order of the registers
counts: it is that of the processors, of which the first is the device's. -/
theorem header_selfDescribed :
    RegistersMoved (selfRoot [selfRegisterA, selfRegisterB])
        (selfRoot [selfRegisterB, selfRegisterA]) ∧
      (∀ c ∈ [selfRegisterA, selfRegisterB], c.descendants "register" = [c]) ∧
      Markup.parse selfText = .ok (selfRoot [selfRegisterA, selfRegisterB]) ∧
      Markup.parse swappedText = .ok (selfRoot [selfRegisterB, selfRegisterA]) ∧
      ∃ text text',
        (generate (selfArchive selfText).source .all .standard ⟨"top.xml"⟩).result = .ok text ∧
        (generate (selfArchive swappedText).source .all .standard ⟨"top.xml"⟩).result = .ok text' ∧
        text ≠ text' := by
  have hregisterA : register selfRegisterA = .ok ⟨"A", "a", 32, 0, []⟩ := by decide +kernel
  have hregisterB : register selfRegisterB = .ok ⟨"B", "b", 32, 4, []⟩ := by decide +kernel
  have hregisters : List.Forall₂ (fun e r => register e = .ok r)
      ((selfRoot [selfRegisterA, selfRegisterB]).descendants "register")
      [⟨"A", "a", 32, 0, []⟩, ⟨"B", "b", 32, 4, []⟩] := by
    rw [show Element.descendants _ _ = [selfRegisterA, selfRegisterB] by decide +kernel]
    exact .cons hregisterA (.cons hregisterB .nil)
  have hregisters' : List.Forall₂ (fun e r => register e = .ok r)
      ((selfRoot [selfRegisterB, selfRegisterA]).descendants "register")
      [⟨"B", "b", 32, 4, []⟩, ⟨"A", "a", 32, 0, []⟩] := by
    rw [show Element.descendants _ _ = [selfRegisterB, selfRegisterA] by decide +kernel]
    exact .cons hregisterB (.cons hregisterA .nil)
  have hdevice : (device (selfArchive selfText).source .all ⟨"top.xml"⟩).result =
      .ok ⟨"P1", "C0", [selfPeripheral ⟨"D0", some 0, 0x10, 8⟩]⟩ :=
    device_selfArchive parse_selfText (by decide +kernel) (by decide) (by decide +kernel) hregisters
      (by decide : placement "D" selfNode0 = _) (by cbv)
  have hdevice' : (device (selfArchive swappedText).source .all ⟨"top.xml"⟩).result =
      .ok ⟨"P1", "C1", [selfPeripheral ⟨"D1", some 1, 0x20, 8⟩]⟩ :=
    device_selfArchive parse_swappedText (by decide +kernel) (by decide) (by decide +kernel)
      hregisters' (by decide : placement "D" selfNode1 = _) (by cbv)
  -- One header has a handle for the first instance only, and the other one for the second.
  refine ⟨registersMoved_selfRoot, by decide +kernel, parse_selfText, parse_swappedText, _, _,
    by rw [generate, Traced.result_bind, hdevice]; rfl,
    by rw [generate, Traced.result_bind, hdevice']; rfl, ?_⟩
  decide

end Description
end RegisterMap
