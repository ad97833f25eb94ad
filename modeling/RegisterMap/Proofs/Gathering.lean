import RegisterMap.Proofs.Reading

/-!
# What a device is gathered from

Reading a device loses nothing and repeats nothing.  The instance elements that are taken
(`isIncluded`) can be told from the top document alone; each of them becomes one instance of one
peripheral, and there is one peripheral for each document that they refer to (`Gathered`).
-/

namespace RegisterMap
namespace Description

open Markup (Element)

variable {selection : Selection} {base : Path}

/-- The address of an instance element, if it has one that can be read. -/
def address? (e : Element) : Option Int :=
  (e.attribute? "baseaddr").bind fun value => hexNumber? (Text.trimChars value.toList)

/-- The instance element is taken into the device: it is identified, and the selection sets no condition
or takes its address. -/
def isIncluded (selection : Selection) (e : Element) : Bool :=
  e.isIdentified &&
    (selection.isTrivial ||
      (e.attribute? "id").any fun id => (address? e).any fun address => takes selection id address)

/-- The normal form of the path of the document that an instance element refers to. -/
def target? (base : Path) (e : Element) : Option Path :=
  (e.attribute? "href").map fun href => (base.join ⟨href⟩).normalize

/-! ### References -/

theorem hexadecimal_eq_ok_iff {what owner value : String} {n : Int} :
    hexadecimal what owner value = .ok n ↔ hexNumber? (Text.trimChars value.toList) = some n := by
  unfold hexadecimal
  split
  · next m h => simp [h]
  · next h => simp [h]

/-- A number is narrowed without a change to it, or not at all. -/
theorem narrow_eq_ok_iff {what owner : String} {value n : Int} :
    narrow what owner value = .ok n ↔ value = n ∧ Numeral.fitsSigned 64 n = true := by
  unfold narrow
  split
  · next h =>
    rw [Except.ok.injEq]
    constructor
    · rintro rfl
      exact ⟨rfl, h⟩
    · exact And.left
  · next h =>
    simp only [reduceCtorEq, false_iff, not_and]
    rintro rfl
    exact h

/-- What an instance has off the element that it is read from. -/
theorem exists_of_placement {definition : String} {e : Element} {i : Instance}
    (h : placement definition e = .ok i) :
    ∃ address : Int, e.attribute? "id" = some i.name ∧ address? e = some address ∧ 0 ≤ address ∧
      Numeral.fitsSigned 64 address = true ∧ i.address = address.toNat ∧
      i.index = (instanceIndex? i.name definition).map Int.toNat := by
  -- Only the name, the address and the index are followed; the size and the last address have no part in
  -- a handle.
  simp only [placement, addressAttribute, bind_eq_ok_iff, checked_eq_ok_iff, require_eq_ok_iff,
    hexadecimal_eq_ok_iff, narrow_eq_ok_iff, Instance.validate_eq_ok_iff] at h
  obtain ⟨id, hid, address, ⟨text, htext, _, hnumber, rfl, hfits⟩, size, -, last, -, _, -, -, -,
    hnonneg, -, rfl⟩ := h
  refine ⟨_, hid, ?_, hnonneg, hfits, rfl, rfl⟩
  rw [address?, htext]
  exact hnumber

/-- An instance is admitted by what its own attributes say. -/
theorem eq_of_isAdmitted {id : String} {e : Element} {admitted : Bool}
    (h : isAdmitted selection id e = .ok admitted) :
    admitted =
      (selection.isTrivial || (address? e).any fun address => takes selection id address) := by
  unfold isAdmitted at h
  split at h
  · next htrivial =>
    obtain rfl := Except.ok.inj h
    rw [htrivial, Bool.true_or]
  · next htrivial =>
    simp only [bind_eq_ok_iff, pure_eq_ok_iff, require_eq_ok_iff, hexadecimal_eq_ok_iff] at h
    obtain ⟨value, hvalue, address, haddress, rfl⟩ := h
    have : address? e = some address := by rw [address?, hvalue]; exact haddress
    rw [this, Option.any_some, Bool.eq_false_iff.mpr htrivial, Bool.false_or]

/-- An element that is taken refers to a document, and any other element to none. -/
theorem reference_eq_ok {e : Element} {r : Option Reference}
    (h : (reference selection base e).result = .ok r) :
    (isIncluded selection e = true ∧
        ∃ href, e.attribute? "href" = some href ∧ r = some ⟨base.join ⟨href⟩, e⟩) ∨
      (isIncluded selection e = false ∧ r = none) := by
  unfold reference at h
  split at h
  · next hidentified =>
    simp only [Traced.result_bind, Traced.result_ofFault, bind_eq_ok_iff, mapError_eq_ok_iff,
      require_eq_ok_iff] at h
    obtain ⟨id, hid, admitted, hadmitted, h⟩ := h
    -- The reader and the filter ask the selection the same question.
    have hincluded : isIncluded selection e = admitted := by
      rw [isIncluded, hidentified, hid, eq_of_isAdmitted hadmitted]
      rfl
    rw [hincluded]
    cases admitted with
    | true =>
        simp only [if_true, Traced.result_bind, Traced.result_ofFault, Traced.result_pure,
          bind_eq_ok_iff, mapError_eq_ok_iff, require_eq_ok_iff, Except.ok.injEq] at h
        obtain ⟨href, hhref, rfl⟩ := h
        exact .inl ⟨rfl, href, hhref, rfl⟩
    | false =>
        simp only [Bool.false_eq_true, if_false, Traced.result_bind, Traced.result_note,
          Traced.result_pure, bind_eq_ok_iff, exists_unit_iff, Except.ok.injEq, true_and] at h
        exact .inr ⟨rfl, h.symm⟩
  · next hidentified =>
    simp only [Traced.result_bind, Traced.result_note, Traced.result_pure, bind_eq_ok_iff,
      exists_unit_iff, Except.ok.injEq, true_and] at h
    refine .inr ⟨?_, h.symm⟩
    rw [isIncluded, Bool.eq_false_iff.mpr hidentified, Bool.false_and]

/-- The references are those of the elements that are taken, in their order, each to the path that its
element names. -/
theorem references_eq_ok {es : List Element} {rs : List (Option Reference)}
    (h : List.Forall₂ (fun e r => (reference selection base e).result = .ok r) es rs) :
    (rs.filterMap id).map Reference.element = es.filter (isIncluded selection) ∧
      ∀ r ∈ rs.filterMap id, ∃ href, r.element.attribute? "href" = some href ∧
        r.path = base.join ⟨href⟩ := by
  induction h with
  | nil => simp
  | @cons e r es rs hr _ ih =>
      obtain ⟨helements, hpaths⟩ := ih
      -- An element is kept by the filter exactly if it has left a reference.
      rcases reference_eq_ok hr with ⟨hincluded, href, hhref, rfl⟩ | ⟨hincluded, rfl⟩
      · rw [List.filterMap_cons_some (f := id) rfl, List.map_cons, List.forall_mem_cons,
          List.filter_cons_of_pos hincluded, helements]
        exact ⟨rfl, ⟨href, hhref, rfl⟩, hpaths⟩
      · rw [List.filterMap_cons_none (f := id) rfl, List.filter_cons_of_neg (by simp [hincluded])]
        exact ⟨helements, hpaths⟩

/-! ### Definitions -/

/-- The register is read off the element, and its fields, up to their order, off all field elements
below it. -/
structure RegisterRead (e : Element) (r : Register) : Prop where
  read : register e = .ok r
  fields : ∃ fs, List.Forall₂ (fun e f => bitfield e = .ok f) (e.descendants "bitfield") fs ∧
    r.bitfields.Perm fs

/-- The peripheral is read off the root of its definition and off the elements of its instances. -/
structure DefinitionRead (root : Element) (nodes : List Element) (p : Peripheral) : Prop where
  named : root.attribute? "id" = some p.name
  described : describe root = .ok p.description
  registers : ∃ rs, List.Forall₂ RegisterRead (root.descendants "register") rs ∧
    IsStableSort Register.addressOffset rs p.registers
  instances : ∃ is, List.Forall₂ (fun e i => placement p.name e = .ok i) nodes is ∧
    IsStableSort Instance.address is p.instances

theorem registerRead_of_register {e : Element} {r : Register} (h : register e = .ok r) :
    RegisterRead e r := by
  refine ⟨h, ?_⟩
  obtain ⟨draft, hfields, hvalid⟩ := exists_fields_of_register h
  obtain ⟨-, -, -, -, -, -, -, rfl⟩ := Register.validate_eq_ok_iff.mp hvalid
  exact ⟨draft.bitfields, hfields, (Register.isStableSort_sortFields draft.bitfields).perm⟩

theorem definitionRead_of_definition {source : Source} {group : Group} {p : Peripheral}
    (h : (definition source group).result = .ok p) :
    ∃ root, source.load group.path = .ok root ∧ DefinitionRead root group.elements p := by
  obtain ⟨root, draft, hroot, hname, hrs, his, hdescription, hvalid⟩ := definition_eq_ok_iff.mp h
  obtain ⟨-, -, -, -, rfl⟩ := Peripheral.validate_eq_ok_iff.mp hvalid
  refine ⟨root, hroot, ?_⟩
  exact
    { named := hname
      described := hdescription
      registers := ⟨draft.registers, hrs.imp fun _ _ => registerRead_of_register,
        Peripheral.isStableSort_sortRegisters draft.registers⟩
      instances := ⟨draft.instances, his, Peripheral.isStableSort_sortInstances draft.instances⟩ }

/-! ### Devices -/

/-- The peripherals are gathered from the documents of an archive for those instance elements, whose
paths begin at `base`. -/
structure Gathered (archive : Archive) (base : Path) (nodes : List Element)
    (peripherals : List Peripheral) : Prop where
  /-- Every element refers to a document. -/
  referring : ∀ e ∈ nodes, ∃ target, target? base e = some target
  /-- There is one peripheral for each of these documents, in the order in which they are first referred
  to, with the instances of the elements that do so. -/
  definitions : List.Forall₂
    (fun target p => ∃ text root, archive.documents.lookup target = some text ∧
      Markup.parse text = .ok root ∧
      DefinitionRead root (nodes.filter (target? base · = some target)) p)
    (nodes.filterMap (target? base)).eraseDups peripherals
  /-- Every element gives one instance, and there are no other instances. -/
  placed : ∃ is, List.Forall₂ (fun e i => ∃ p ∈ peripherals, placement p.name e = .ok i) nodes is ∧
    (peripherals.flatMap Peripheral.instances).Perm is

/-- What the peripherals have for the elements of their groups they have together for all elements. -/
theorem exists_forall₂_flatMap {α : Type} {R : Element → α → Prop} {f : Peripheral → List α}
    {groups : List Group} {ps : List Peripheral}
    (h : List.Forall₂ (fun g p => ∃ as, List.Forall₂ R g.elements as ∧ (f p).Perm as) groups ps) :
    ∃ as, List.Forall₂ R (groups.flatMap Group.elements) as ∧ (ps.flatMap f).Perm as := by
  induction h with
  | nil => exact ⟨[], .nil, .refl _⟩
  | @cons g p groups ps hp _ ih =>
      obtain ⟨as, has, hperm⟩ := hp
      obtain ⟨bs, hbs, hperm'⟩ := ih
      exact ⟨as ++ bs, List.rel_append has hbs, hperm.append hperm'⟩

theorem agree_iff (p q : Path) : p.agree q = true ↔ p.normalize = q.normalize := by
  rw [Path.agree, beq_iff_eq]

/-- The groups of those instance elements, whose paths begin at `base`, and the references that they are
made of. -/
structure Grouped (base : Path) (nodes : List Element) (references : List Reference)
    (groups : List Group) : Prop where
  nodes_eq : references.map Reference.element = nodes
  path : ∀ r ∈ references, ∃ href, r.element.attribute? "href" = some href ∧
    r.path = base.join ⟨href⟩
  grouping : IsGrouping Path.normalize references groups

namespace Grouped

variable {nodes : List Element} {references : List Reference} {groups : List Group}

theorem target (h : Grouped base nodes references groups) :
    ∀ r ∈ references, target? base r.element = some r.path.normalize := by
  intro r hr
  obtain ⟨href, hhref, hpath⟩ := h.path r hr
  rw [target?, hhref, hpath]
  rfl

/-- There is one group for each target, in the order in which they are first referred to. -/
theorem keys (h : Grouped base nodes references groups) :
    groups.map (·.path.normalize) = (nodes.filterMap (target? base)).eraseDups := by
  have htargets : (references.map Reference.element).filterMap (target? base) =
      references.map (·.path.normalize) := by
    rw [List.filterMap_map, ← List.filterMap_eq_map]
    exact List.filterMap_congr h.target
  rw [← h.nodes_eq, htargets, ← h.grouping.keys]

/-- The elements of one group are those with its target. -/
theorem members (h : Grouped base nodes references groups) :
    ∀ g ∈ groups, g.elements = nodes.filter (target? base · = some g.path.normalize) := by
  intro g hg
  rw [← h.nodes_eq, h.grouping.elements g hg, List.filter_map]
  congr 1
  refine List.filter_congr fun r hr => ?_
  simp [h.target r hr]

end Grouped

/-- An archive groups the references of a processor by the normal forms of their paths. -/
theorem grouped_of_resolve {archive : Archive} {cpu : Element} {groups : List Group}
    (h : (resolve archive.source selection base cpu).result = .ok groups) :
    ∃ references, groups = groupReferences archive.source.same references ∧
      Grouped base ((cpu.descendants "instance").filter (isIncluded selection)) references
        groups := by
  obtain ⟨options, hoptions, rfl⟩ := resolve_eq_ok_iff.mp h
  obtain ⟨helements, hpaths⟩ := references_eq_ok hoptions
  exact ⟨options.filterMap id, rfl, helements, hpaths, isGrouping_groupReferences agree_iff _⟩

/-- The peripherals are read off those instance elements in groups, one for each document that the
elements refer to. -/
structure ReadInGroups (archive : Archive) (base : Path) (nodes : List Element)
    (groups : List Group) (peripherals : List Peripheral) : Prop where
  referring : ∀ e ∈ nodes, ∃ target, target? base e = some target
  keys : groups.map (·.path.normalize) = (nodes.filterMap (target? base)).eraseDups
  members : ∀ g ∈ groups, g.elements = nodes.filter (target? base · = some g.path.normalize)
  /-- The groups hold the elements, but in another order. -/
  elements : (groups.flatMap Group.elements).Perm nodes
  definitions : List.Forall₂
    (fun g p => ∃ text root, archive.documents.lookup g.path.normalize = some text ∧
      Markup.parse text = .ok root ∧ DefinitionRead root g.elements p) groups peripherals

/-- A device of an archive is read in groups, for an archive tells documents apart by the normal forms of
their paths. -/
theorem readInGroups_of_device {archive : Archive} {path : Path} {d : Device}
    (h : (device archive.source selection path).result = .ok d) :
    ∃ root cpu groups, archive.source.load path = .ok root ∧
      (root.descendants "cpu").head? = some cpu ∧
      ReadInGroups archive (baseOf path)
        ((cpu.descendants "instance").filter (isIncluded selection)) groups d.peripherals := by
  obtain ⟨root, cpu, groups, hroot, hcpu, hgroups, hps, -⟩ := device_eq_ok_iff.mp h
  obtain ⟨references, rfl, hgrouped⟩ := grouped_of_resolve hgroups
  refine ⟨root, cpu, groupReferences archive.source.same references, hroot, hcpu, ?_⟩
  exact
    { referring := by
        intro e he
        rw [← hgrouped.nodes_eq] at he
        obtain ⟨r, hr, rfl⟩ := List.mem_map.mp he
        exact ⟨_, hgrouped.target r hr⟩
      keys := hgrouped.keys
      members := hgrouped.members
      elements := by
        rw [← hgrouped.nodes_eq]
        exact flatMap_elements_groupReferences archive.source.same references
      definitions := hps.imp fun g p hp => by
        obtain ⟨definition, hload, hread⟩ := definitionRead_of_definition hp
        obtain ⟨text, hget, hparse⟩ := Archive.load_eq_ok_iff.mp hload
        exact ⟨text, definition, hget, hparse, hread⟩ }

/-- What every peripheral has for the elements of its group, the device has for all elements in their own
order. -/
theorem ReadInGroups.exists_forall₂ {archive : Archive} {nodes : List Element}
    {groups : List Group} {ps : List Peripheral} {α : Type} {R : Element → α → Prop}
    {f : Peripheral → List α} (hgroups : ReadInGroups archive base nodes groups ps)
    (h : List.Forall₂ (fun g p => ∃ as, List.Forall₂ R g.elements as ∧ (f p).Perm as) groups ps) :
    ∃ as, List.Forall₂ R nodes as ∧ (ps.flatMap f).Perm as := by
  obtain ⟨as, has, hperm⟩ := exists_forall₂_flatMap h
  -- The groups have the elements in another order than the document, and what goes with them is moved
  -- along.
  obtain ⟨bs, hbs, hperm'⟩ := List.perm_comp_forall₂ hgroups.elements.symm has
  exact ⟨bs, hbs, hperm.trans hperm'.symm⟩

/-- A device that is read from an archive is gathered from the instance elements under the first
processor of its document, as far as they are taken: none of them is lost and none is repeated. -/
theorem gathered_of_device {archive : Archive} {path : Path} {d : Device}
    (h : (device archive.source selection path).result = .ok d) :
    ∃ root cpu, archive.source.load path = .ok root ∧
      (root.descendants "cpu").head? = some cpu ∧
      Gathered archive (baseOf path) ((cpu.descendants "instance").filter (isIncluded selection))
        d.peripherals := by
  obtain ⟨root, cpu, groups, hroot, hcpu, hgroups⟩ := readInGroups_of_device h
  refine ⟨root, cpu, hroot, hcpu, hgroups.referring, ?_, ?_⟩
  · rw [← hgroups.keys, List.forall₂_map_left_iff]
    refine (forall₂_mem hgroups.definitions).imp ?_
    rintro g p ⟨hg, -, text, definition, hlookup, hparse, hread⟩
    rw [hgroups.members g hg] at hread
    exact ⟨text, definition, hlookup, hparse, hread⟩
  · refine hgroups.exists_forall₂ ((forall₂_mem hgroups.definitions).imp ?_)
    rintro g p ⟨-, hp, text, definition, -, -, hread⟩
    obtain ⟨is, his, hsort⟩ := hread.instances
    exact ⟨is, his.imp fun e i hi => ⟨p, hp, hi⟩, hsort.perm⟩

/-- The board has two definitions for three instances; the placeholder and the instance that is not taken
give none. -/
theorem gathered_board :
    (device boardArchive.source boardSelection ⟨"d/top.xml"⟩).result = .ok board ∧
      Gathered boardArchive ⟨"d"⟩ [timer1, port0, timer0] [timer, port] := by
  obtain ⟨root, cpu, hroot, hcpu, hgathered⟩ := gathered_of_device device_board
  obtain rfl := Except.ok.inj (hroot.symm.trans load_board)
  have hfirst : (Element.descendants ⟨"device", [("partnum", "P1")], [boardCpu]⟩ "cpu").head? =
      some boardCpu := by
    decide +kernel
  obtain rfl := Option.some.inj (hcpu.symm.trans hfirst)
  have hnodes : (boardCpu.descendants "instance").filter (isIncluded boardSelection) =
      [timer1, port0, timer0] := by
    decide +kernel
  have hbase : baseOf ⟨"d/top.xml"⟩ = ⟨"d"⟩ := by
    decide +kernel
  rw [hnodes, hbase] at hgathered
  exact ⟨device_board, hgathered⟩

end Description
end RegisterMap
