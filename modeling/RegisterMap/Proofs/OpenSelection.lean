import RegisterMap.Proofs.Rejection

/-!
# Selections that reject nothing

A selection that admits every name of the document at every address still is not the selection that sets
no condition: it looks at the addresses, and it leaves out an instance whose address is no unsigned word
of 64 bits.  Without conditions such an instance is taken, and reading it fails.

So a device that is read without conditions is read with the selection too, and the two agree altogether
where no such address occurs (`device_of_rejectsNothing`).  Where one does, the selection may give a device
and reading everything a failure (`device_drops_negative_address`).
-/

namespace RegisterMap

open Markup (Element)

namespace Description

/-- The selection admits the instances of the document at whatever address they are. -/
def RejectsNothing (selection : Selection) (root : Element) : Prop :=
  ∀ e ∈ root.descendants "instance", ∀ id ∈ e.attribute? "id", ∀ address < Numeral.wordSize 64,
    selection.admits address id = true

variable {source : Source} {selection : Selection} {path : Path}

/-- With an address, an instance that is admitted anywhere refers to what it refers to without a
selection. -/
theorem result_reference_eq_all {base : Path} {e : Element}
    (haddress : e.isIdentified = true → HasAddress e)
    (hadmits : ∀ id ∈ e.attribute? "id", ∀ address < Numeral.wordSize 64,
      selection.admits address id = true) :
    (reference selection base e).result = (reference Selection.all base e).result := by
  cases hidentified : e.isIdentified with
  | false =>
      rw [result_reference_of_not_isIdentified hidentified,
        result_reference_of_not_isIdentified hidentified]
  | true =>
      obtain ⟨id, hid⟩ := exists_id_of_isIdentified hidentified
      obtain ⟨address, hread, hnonneg, hlt⟩ := haddress hidentified
      have hadmitted : isAdmitted selection id e = .ok true := by
        rw [isAdmitted_of_address hread hnonneg hlt, hadmits id hid address.toNat (by omega)]
      rw [result_reference_of_isAdmitted hidentified hid hadmitted,
        result_reference_of_isAdmitted hidentified hid (isAdmitted_all id e)]

/-- The instances under the first processor of the document that a path leads to. -/
def IsPlacement (source : Source) (path : Path) (e : Element) : Prop :=
  ∃ root cpu, source.load path = .ok root ∧ processor root = .ok cpu ∧
    e ∈ cpu.descendants "instance" ∧ e.isIdentified = true

/-- If each identified instance has an address, nothing tells the selection from none. -/
theorem result_device_eq_all (haddress : ∀ e, IsPlacement source path e → HasAddress e)
    (hadmits : ∀ root, source.load path = .ok root → RejectsNothing selection root) :
    (device source selection path).result = (device source Selection.all path).result := by
  rw [result_device, result_device]
  cases hroot : source.load path with
  | error failure => rw [error_bind, error_bind]
  | ok root =>
      rw [ok_bind, ok_bind]
      cases hcpu : processor root with
      | error fault => rw [mapError_error, error_bind, error_bind]
      | ok cpu =>
          rw [mapError_ok, ok_bind, ok_bind]
          have hbelow : cpu ∈ root.descendants "cpu" :=
            List.mem_of_mem_head? (processor_eq_ok_iff.mp hcpu)
          -- The selection is asked about references only, and all later steps go by these.
          have hreferences : ∀ e ∈ cpu.descendants "instance",
              (reference selection (baseOf path) e).result =
                (reference Selection.all (baseOf path) e).result := by
            intro e he
            refine result_reference_eq_all
              (fun hidentified => haddress e ⟨root, cpu, hroot, hcpu, he, hidentified⟩) ?_
            exact hadmits root hroot e (Element.mem_descendants_trans hbelow he)
          have hresolve : (resolve source selection (baseOf path) cpu).result =
              (resolve source Selection.all (baseOf path) cpu).result := by
            simp only [resolve, Traced.result_bind, Traced.result_mapM, mapM_congr hreferences]
          rw [hresolve]

/-- In a device that is read without conditions every instance was read, and so its address. -/
theorem hasAddress_of_device_all {d : Device}
    (h : (device source Selection.all path).result = .ok d) :
    ∀ e, IsPlacement source path e → HasAddress e := by
  obtain ⟨root, cpu, groups, hroot, hcpu, hgroups, hps, -⟩ := device_eq_ok_iff.mp h
  obtain ⟨options, hoptions, rfl⟩ := resolve_eq_ok_iff.mp hgroups
  obtain ⟨helements, -⟩ := references_eq_ok hoptions
  rintro e ⟨root', cpu', hroot', hcpu', he, hidentified⟩
  obtain rfl := Except.ok.inj (hroot.symm.trans hroot')
  obtain rfl := Option.some.inj (hcpu.symm.trans (processor_eq_ok_iff.mp hcpu'))
  -- The element is in one of the groups, and the definition of that group was read.
  have hmem : e ∈ (groupReferences source.same (options.filterMap id)).flatMap Group.elements := by
    rw [(flatMap_elements_groupReferences source.same _).mem_iff, helements, List.mem_filter]
    exact ⟨he, by simp [isIncluded, hidentified, Selection.isTrivial, Selection.all]⟩
  obtain ⟨group, hgroup, helement⟩ := List.mem_flatMap.mp hmem
  obtain ⟨p, -, hp⟩ := exists_of_mem_forall₂ hps hgroup
  obtain ⟨_, draft, -, -, -, hplacements, -⟩ := definition_eq_ok_iff.mp hp
  obtain ⟨i, -, hi⟩ := exists_of_mem_forall₂ hplacements helement
  obtain ⟨address, -, hread, hnonneg, hfits, -⟩ := exists_of_placement hi
  refine ⟨address, hread, hnonneg, ?_⟩
  simp only [Numeral.fitsSigned, Bool.and_eq_true, decide_eq_true_eq] at hfits
  have hwords : (Numeral.wordSize (64 - 1) : Int) ≤ Numeral.wordSize 64 := by decide
  omega

/-- With conditions, every address is looked at, whatever becomes of the instance. -/
theorem exists_address_of_device {d : Device} (hcondition : selection.isTrivial = false)
    (h : (device source selection path).result = .ok d) :
    ∀ e, IsPlacement source path e → ∃ address, address? e = some address := by
  obtain ⟨root, cpu, groups, hroot, hcpu, hgroups, -⟩ := device_eq_ok_iff.mp h
  obtain ⟨options, hoptions, rfl⟩ := resolve_eq_ok_iff.mp hgroups
  rintro e ⟨root', cpu', hroot', hcpu', he, hidentified⟩
  obtain rfl := Except.ok.inj (hroot.symm.trans hroot')
  obtain rfl := Option.some.inj (hcpu.symm.trans (processor_eq_ok_iff.mp hcpu'))
  obtain ⟨option, -, hoption⟩ := exists_of_mem_forall₂ hoptions he
  simp only [reference, hidentified, if_true, Traced.result_bind, Traced.result_ofFault,
    bind_eq_ok_iff, mapError_eq_ok_iff, isAdmitted, hcondition, Bool.false_eq_true, if_false,
    require_eq_ok_iff, hexadecimal_eq_ok_iff] at hoption
  obtain ⟨id, -, admitted, ⟨text, htext, address, haddress, -⟩, -⟩ := hoption
  refine ⟨address, ?_⟩
  rw [address?, htext]
  exact haddress

/-- A selection that admits every name of the document at every address gives the device that reading
everything gives.  If no identified instance under the first processor has an address that is no unsigned
word of 64 bits, it gives no device otherwise either. -/
theorem device_of_rejectsNothing
    (hadmits : ∀ root, source.load path = .ok root → RejectsNothing selection root) :
    (∀ d, (device source Selection.all path).result = .ok d →
      (device source selection path).result = .ok d) ∧
    ((∀ e, IsPlacement source path e → ∀ address ∈ address? e,
        0 ≤ address ∧ address < Numeral.wordSize 64) →
      ∀ d, (device source selection path).result = .ok d ↔
        (device source Selection.all path).result = .ok d) := by
  have hforward : ∀ d, (device source Selection.all path).result = .ok d →
      (device source selection path).result = .ok d := by
    intro d hd
    rw [result_device_eq_all (hasAddress_of_device_all hd) hadmits]
    exact hd
  refine ⟨hforward, fun hrange d => ⟨fun hd => ?_, hforward d⟩⟩
  cases hcondition : selection.isTrivial with
  -- A selection that sets no condition is the one of all instances.
  | true =>
      rw [eq_all_of_isTrivial hcondition] at hd
      exact hd
  | false =>
      rw [← result_device_eq_all ?_ hadmits]
      · exact hd
      · intro e he
        obtain ⟨address, haddress⟩ := exists_address_of_device hcondition hd e he
        exact ⟨address, haddress, hrange e he address haddress⟩

/-! ### Every address -/

/-- The selection of all addresses there are. -/
def everyAddress : Selection :=
  Selection.all.includeRange ⟨0, Numeral.wordSize 64 - 1⟩

theorem rejectsNothing_everyAddress (root : Element) : RejectsNothing everyAddress root := by
  intro e _ id _ address hlt
  have hcontains : AddressRange.contains ⟨0, Numeral.wordSize 64 - 1⟩ address = true := by
    simp only [AddressRange.contains, Nat.zero_le, decide_true, Bool.true_and, decide_eq_true_eq]
    omega
  simp [everyAddress, Selection.includeRange, Selection.all, Selection.admits, hcontains]

/-- A board with a port and nothing else. -/
def portBoardText : String :=
  "<device partnum='P1'><cpu id='C0'>
    <instance id='U0' href='u.xml' baseaddr='0x40' size='4'/></cpu></device>"

def portArchive : Archive :=
  (Archive.empty.insert ⟨"top.xml"⟩ portBoardText).insert ⟨"u.xml"⟩ portText

def portBoardRoot : Element :=
  ⟨"device", [("partnum", "P1")], [⟨"cpu", [("id", "C0")], [port0]⟩]⟩

set_option maxRecDepth 4000 in
theorem load_portBoard : portArchive.source.load ⟨"top.xml"⟩ = .ok portBoardRoot := by
  rw [Archive.load_eq_ok_iff]
  refine ⟨portBoardText, ?_, Markup.parse_eq_ok_iff.mpr ?_⟩
  · rw [portArchive, Archive.get?_insert, if_neg (by decide +kernel), Archive.get?_insert,
      if_pos rfl]
  · rw [show portBoardText.toList = _ from String.toList_ofList]
    decide +kernel

theorem device_portBoard :
    (device portArchive.source Selection.all ⟨"top.xml"⟩).result = .ok ⟨"P1", "C0", [port]⟩ := by
  rw [result_device, load_portBoard, ok_bind]
  decide +kernel

/-- The port is read with the selection of all addresses as it is with none. -/
theorem device_portBoard_everyAddress :
    (device portArchive.source Selection.all ⟨"top.xml"⟩).result = .ok ⟨"P1", "C0", [port]⟩ ∧
      (device portArchive.source everyAddress ⟨"top.xml"⟩).result = .ok ⟨"P1", "C0", [port]⟩ :=
  ⟨device_portBoard,
    (device_of_rejectsNothing fun root _ => rejectsNothing_everyAddress root).1 _ device_portBoard⟩

/-- A board with the port and another one, which is below all addresses. -/
def sunkenBoardText : String :=
  "<device partnum='P1'><cpu id='C0'>
    <instance id='U0' href='u.xml' baseaddr='0x40' size='4'/>
    <instance id='U1' href='u.xml' baseaddr='-0x40' size='4'/></cpu></device>"

def sunkenArchive : Archive :=
  (Archive.empty.insert ⟨"top.xml"⟩ sunkenBoardText).insert ⟨"u.xml"⟩ portText

def sunkenPort : Element :=
  ⟨"instance", [("id", "U1"), ("href", "u.xml"), ("baseaddr", "-0x40"), ("size", "4")], []⟩

def sunkenBoardRoot : Element :=
  ⟨"device", [("partnum", "P1")], [⟨"cpu", [("id", "C0")], [port0, sunkenPort]⟩]⟩

set_option maxRecDepth 4000 in
theorem load_sunkenBoard : sunkenArchive.source.load ⟨"top.xml"⟩ = .ok sunkenBoardRoot := by
  rw [Archive.load_eq_ok_iff]
  refine ⟨sunkenBoardText, ?_, Markup.parse_eq_ok_iff.mpr ?_⟩
  · rw [sunkenArchive, Archive.get?_insert, if_neg (by decide +kernel), Archive.get?_insert,
      if_pos rfl]
  · rw [show sunkenBoardText.toList = _ from String.toList_ofList]
    decide +kernel

/-- The selection of all addresses rejects nothing and sets a condition, and yet it gives a device where
reading everything fails. -/
theorem device_drops_negative_address :
    (∀ root, sunkenArchive.source.load ⟨"top.xml"⟩ = .ok root → RejectsNothing everyAddress root) ∧
      everyAddress.isTrivial = false ∧
      (device sunkenArchive.source everyAddress ⟨"top.xml"⟩).result = .ok ⟨"P1", "C0", [port]⟩ ∧
      (device sunkenArchive.source Selection.all ⟨"top.xml"⟩).result =
        .error ⟨[.document ⟨"top.xml"⟩, .document ⟨"u.xml"⟩, .placement (some "U1")],
          .fault (.violation (.negative .address (-0x40) "U1"))⟩ := by
  refine ⟨fun root _ => rejectsNothing_everyAddress root, rfl, ?_, ?_⟩
  · rw [result_device, load_sunkenBoard, ok_bind]
    decide +kernel
  · rw [result_device, load_sunkenBoard, ok_bind]
    decide +kernel

end Description
end RegisterMap
