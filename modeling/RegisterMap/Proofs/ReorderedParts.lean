import RegisterMap.Proofs.Reordering

/-!
# Parts in another order

What is read from elements whose children are in another order.  Fields, registers and instances are
sorted once they are read, so that it is enough that what is read agrees key by key (`SameByKey`), and
that far it agrees because the elements do (`exists_sameByKey`).

* A register is the same for its fields in any order (`register_of_sameRegister`).
* The registers of a definition agree offset by offset (`AlikeDefinition`).
* The instances of a processor fall into the same groups, which agree address by address
  (`exists_resolve_of_alike`).
-/

namespace RegisterMap

open Markup (Element)
open Markup.Element (Rearranged Moved)

/-! ### Sorted once they are read -/

/-- A register comes out the same for its fields in any order. -/
theorem Register.validate_of_perm {d : Register.Draft} {fields : List Bitfield} {r : Register}
    (hvalid : ∀ f ∈ d.bitfields, f.Validated) (hperm : d.bitfields.Perm fields)
    (h : d.validate = .ok r) : Register.Draft.validate { d with bitfields := fields } = .ok r := by
  have hsort := Register.isStableSort_sortFields d.bitfields
  obtain ⟨-, -, -, -, -, -, hpairs, -⟩ := Register.validate_eq_ok_iff.mp h
  -- Fields that do not overlap begin at different bits.
  have hstrict : (Register.sortFields d.bitfields).Pairwise fun f g => f.bitOffset < g.bitOffset := by
    refine hpairs.imp_of_mem fun {f g} hf _ hend => ?_
    have hpos := (hvalid f (hsort.perm.mem_iff.mp hf)).wellFormed.bitWidth_pos
    have hdef : f.bitEnd = f.bitOffset + f.bitWidth := rfl
    omega
  have hkeys : (d.bitfields.map Bitfield.bitOffset).Nodup := by
    rw [← (hsort.perm.map Bitfield.bitOffset).nodup_iff]
    exact List.pairwise_map.mpr (hstrict.imp Nat.ne_of_lt)
  have heq : Register.sortFields fields = Register.sortFields d.bitfields :=
    ((Register.isStableSort_sortFields fields).eq hsort fun k =>
      (sameByKey_of_perm hperm hkeys k).symm)
  rw [← h]
  simp only [Register.Draft.validate, heq]

/-- A peripheral comes out the same for registers and instances that agree key by key. -/
theorem Peripheral.validate_of_sameByKey {d : Peripheral.Draft} {registers : List Register}
    {instances : List Instance} (hregisters : SameByKey Register.addressOffset d.registers registers)
    (hinstances : SameByKey Instance.address d.instances instances) :
    Peripheral.Draft.validate { d with registers := registers, instances := instances } =
      d.validate := by
  have hregisters' : Peripheral.sortRegisters d.registers = Peripheral.sortRegisters registers :=
    (Peripheral.isStableSort_sortRegisters d.registers).eq
      (Peripheral.isStableSort_sortRegisters registers) hregisters
  have hinstances' : Peripheral.sortInstances d.instances = Peripheral.sortInstances instances :=
    (Peripheral.isStableSort_sortInstances d.instances).eq
      (Peripheral.isStableSort_sortInstances instances) hinstances
  simp only [Peripheral.Draft.validate, hregisters', hinstances']

namespace Description

/-! ### What is read from elements in another order -/

/-- Steps that read the parts of a list read those of the list in another order.  If elements of one mark
keep their order and the mark is the key of what is read, then what is read agrees key by key. -/
theorem exists_sameByKey {ε α β : Type} {read : α → Except ε β} {mark : α → Option Int} {key : β → Nat}
    (hkey : ∀ a b, read a = .ok b → mark a = some (key b : Int)) {as as' : List α} {bs : List β}
    (h : List.Forall₂ (fun a b => read a = .ok b) as bs) (hperm : as.Perm as')
    (hmarks : ∀ n, as.filter (mark · = some n) = as'.filter (mark · = some n)) :
    ∃ bs', List.Forall₂ (fun a b => read a = .ok b) as' bs' ∧ SameByKey key bs bs' := by
  obtain ⟨bs', hbs', -⟩ := List.perm_comp_forall₂ hperm.symm h
  refine ⟨bs', hbs', fun k => ?_⟩
  have hmark : ∀ a b, read a = .ok b →
      (decide (mark a = some (k : Int)) = true ↔ decide (key b = k) = true) := by
    intro a b hab
    rw [hkey a b hab, decide_eq_true_eq, decide_eq_true_eq, Option.some.injEq]
    omega
  have hfilter := List.rel_filter (fun a b hab => hmark a b hab) h
  have hfilter' := List.rel_filter (fun a b hab => hmark a b hab) hbs'
  rw [hmarks] at hfilter
  -- The same elements are read on both sides, and what is read from a list is one list only.
  rw [← mapM_eq_ok_iff] at hfilter hfilter'
  exact Except.ok.inj (hfilter.symm.trans hfilter')

/-- The offset of a register element, if it has one that can be read. -/
def offset? (e : Element) : Option Int :=
  (e.attribute? "offset").bind fun value => hexNumber? (Text.trimChars value.toList)

theorem offset?_of_register {e : Element} {r : Register} (h : register e = .ok r) :
    offset? e = some (r.addressOffset : Int) := by
  simp only [register, bind_eq_ok_iff, checked_eq_ok_iff, require_eq_ok_iff, hexadecimal_eq_ok_iff,
    narrow_eq_ok_iff, Register.validate_eq_ok_iff] at h
  obtain ⟨name, -, text, htext, offset, hoffset, description, -, width, -, _, ⟨rfl, -⟩, fields, -, -,
    -, -, hnonneg, -, -, -, rfl⟩ := h
  rw [offset?, htext, Option.bind_some, hoffset]
  exact congrArg some (Int.toNat_of_nonneg hnonneg).symm

theorem address?_of_placement {definition : String} {e : Element} {i : Instance}
    (h : placement definition e = .ok i) : address? e = some (i.address : Int) := by
  obtain ⟨address, -, haddress, hnonneg, -, hi, -⟩ := exists_of_placement h
  rw [haddress, hi, Int.toNat_of_nonneg hnonneg]

/-! ### Registers -/

/-- Two register elements are the same to their reader: the fields below them may differ in order. -/
structure SameRegister (e e' : Element) : Prop where
  bare : e.bare = e'.bare
  fields : ((e.descendants "bitfield").map Element.bare).Perm
    ((e'.descendants "bitfield").map Element.bare)

theorem SameRegister.refl (e : Element) : SameRegister e e :=
  ⟨rfl, .refl _⟩

theorem register_of_sameRegister {e e' : Element} {r : Register} (h : SameRegister e e')
    (hr : register e = .ok r) : register e' = .ok r := by
  have hbare (es : List Element) (fs : List Bitfield) :
      List.Forall₂ (fun e f => bitfield e = .ok f) (es.map Element.bare) fs ↔
        List.Forall₂ (fun e f => bitfield e = .ok f) es fs :=
    List.forall₂_map_left_iff
  simp only [register, decimalAttribute, describe, bind_eq_ok_iff, checked_eq_ok_iff, mapM_eq_ok_iff,
    ← require_congr h.bare] at hr ⊢
  obtain ⟨name, hname, text, htext, offset, hoffset, description, hdescription, width, hwidth, address,
    haddress, fields, hfields, hvalid⟩ := hr
  rw [← hbare] at hfields
  obtain ⟨fields', hfields', hperm⟩ := List.perm_comp_forall₂ h.fields.symm hfields
  have hvalidated : ∀ f ∈ fields, f.Validated :=
    forall_mem_of_forall₂ hfields fun _ _ _ => validated_of_bitfield
  exact ⟨name, hname, text, htext, offset, hoffset, description, hdescription, width, hwidth, address,
    haddress, fields', (hbare _ _).mp hfields',
    Register.validate_of_perm hvalidated hperm.symm hvalid⟩

theorem perm_fields_of_moved {tag : String} {e e' : Element} (h : Moved tag e e') :
    ((e.descendants "bitfield").map Element.bare).Perm
      ((e'.descendants "bitfield").map Element.bare) := by
  by_cases htag : tag = "bitfield"
  · subst htag
    exact Element.perm_descendants h
  · rw [Element.map_bare_descendants h (Ne.symm htag)]

theorem sameRegister_of_reflGen {tag : String} {e e' : Element}
    (h : Relation.ReflGen (Moved tag) e e') : SameRegister e e' := by
  cases h with
  | refl => exact .refl e
  | single h => exact ⟨h.bare, perm_fields_of_moved h⟩

/-! ### Definitions -/

/-- The register elements below the root of a definition. -/
def registersBelow (root : Element) : List Element :=
  root.children.flatMap (·.descendants "register")

/-- The definition with the registers under its root in other places.  Registers at one offset keep their
order, wherever they are in the definition. -/
structure RegistersMoved (root root' : Element) : Prop where
  bare : root.bare = root'.bare
  rearranged : Rearranged "register" root.children root'.children
  ordered : ∀ offset, (registersBelow root).filter (offset? · = some offset) =
    (registersBelow root').filter (offset? · = some offset)

/-- If the one definition can be read, so can the other, and their registers agree offset by offset. -/
structure AlikeDefinition (root root' : Element) : Prop where
  bare : root.bare = root'.bare
  registers : ∀ rs, List.Forall₂ (fun e r => register e = .ok r) (root.descendants "register") rs →
    ∃ rs', List.Forall₂ (fun e r => register e = .ok r) (root'.descendants "register") rs' ∧
      SameByKey Register.addressOffset rs rs'

theorem AlikeDefinition.refl (root : Element) : AlikeDefinition root root :=
  ⟨rfl, fun rs hrs => ⟨rs, hrs, .refl _ rs⟩⟩

theorem AlikeDefinition.trans {root root' root'' : Element} (h : AlikeDefinition root root')
    (h' : AlikeDefinition root' root'') : AlikeDefinition root root'' := by
  refine ⟨h.bare.trans h'.bare, fun rs hrs => ?_⟩
  obtain ⟨rs', hrs', hsame⟩ := h.registers rs hrs
  obtain ⟨rs'', hrs'', hsame'⟩ := h'.registers rs' hrs'
  exact ⟨rs'', hrs'', hsame.trans hsame'⟩

/-- What is read from each element of a list is read from each element of another list that is like
it. -/
theorem forall₂_of_alike {α α' β : Type} {S : α → α' → Prop} {R : α → β → Prop} {R' : α' → β → Prop}
    {as : List α} {as' : List α'} {bs : List β} (hS : List.Forall₂ S as as')
    (hR : List.Forall₂ R as bs) (h : ∀ a a' b, S a a' → R a b → R' a' b) :
    List.Forall₂ R' as' bs := by
  induction hS generalizing bs with
  | nil =>
      cases hR
      exact .nil
  | cons hS _ ih =>
      cases hR with
      | cons hR hrest => exact .cons (h _ _ _ hS hR) (ih hrest)

/-- Fields and instances in other places leave the registers as they are. -/
theorem alikeDefinition_of_moved {tag : String} {root root' : Element} (h : Moved tag root root')
    (htag : "register" ≠ tag) : AlikeDefinition root root' := by
  refine ⟨h.bare, fun rs hrs => ⟨rs, ?_, .refl _ rs⟩⟩
  refine forall₂_of_alike (Element.forall₂_descendants h htag) hrs fun _ _ _ hmoved hr => ?_
  exact register_of_sameRegister (sameRegister_of_reflGen hmoved) hr

/-- The registers below the root agree because they have moved only past those at other offsets. -/
theorem alikeDefinition_of_registersMoved {root root' : Element} (h : RegistersMoved root root') :
    AlikeDefinition root root' := by
  refine ⟨h.bare, fun rs hrs => ?_⟩
  have hbelow {rs : List Register}
      (hrs : List.Forall₂ (fun e r => register e = .ok r) (registersBelow root) rs) :=
    exists_sameByKey (fun _ _ => offset?_of_register) hrs (h.rearranged.perm.flatMap_right _)
      h.ordered
  have htag : root.tag = root'.tag := (Element.bare_eq_iff.mp h.bare).1
  rw [Element.descendants_eq, Element.own] at hrs ⊢
  rw [← htag]
  by_cases hroot : (root.tag == "register") = true
  · -- The root is itself a register, with all fields of the definition in it.
    have hfields : SameRegister root root' := by
      have hown (e : Element) (he : e.tag = "register") :
          e.descendants "bitfield" = e.children.flatMap (·.descendants "bitfield") := by
        rw [Element.descendants_eq, Element.own, if_neg (by simp [he]), List.nil_append]
      have hroot' := beq_iff_eq.mp hroot
      refine ⟨h.bare, ?_⟩
      rw [hown root hroot', hown root' (htag ▸ hroot')]
      exact (h.rearranged.perm.flatMap_right _).map _
    rw [if_pos hroot] at hrs ⊢
    cases hrs with
    | @cons _ r _ rest hr hrest =>
        obtain ⟨rest', hrest', hsame⟩ := hbelow hrest
        exact ⟨r :: rest', .cons (register_of_sameRegister hfields hr) hrest', hsame.cons r⟩
  · rw [if_neg hroot] at hrs ⊢
    exact hbelow hrs

/-! ### Processors -/

variable {selection : Selection} {base : Path}

/-- The documents that the elements refer to, as far as they are taken, are first referred to in the same
order, and elements that refer to one document and have one address are in the same order. -/
structure SameReferences (selection : Selection) (base : Path) (nodes nodes' : List Element) :
    Prop where
  first : ((nodes.filter (isIncluded selection)).filterMap (target? base)).eraseDups =
    ((nodes'.filter (isIncluded selection)).filterMap (target? base)).eraseDups
  ordered : ∀ target address,
    (nodes.filter (isIncluded selection)).filter
        (fun e => target? base e = some target ∧ address? e = some address) =
      (nodes'.filter (isIncluded selection)).filter
        fun e => target? base e = some target ∧ address? e = some address

theorem SameReferences.refl (nodes : List Element) : SameReferences selection base nodes nodes :=
  ⟨rfl, fun _ _ => rfl⟩

theorem SameReferences.symm {nodes nodes' : List Element}
    (h : SameReferences selection base nodes nodes') : SameReferences selection base nodes' nodes :=
  ⟨h.first.symm, fun target address => (h.ordered target address).symm⟩

theorem SameReferences.trans {nodes nodes' nodes'' : List Element}
    (h : SameReferences selection base nodes nodes')
    (h' : SameReferences selection base nodes' nodes'') :
    SameReferences selection base nodes nodes'' :=
  ⟨h.first.trans h'.first,
    fun target address => (h.ordered target address).trans (h'.ordered target address)⟩

/-- The instance elements under a processor, without what is below them. -/
def nodesOf (cpu : Element) : List Element :=
  (cpu.descendants "instance").map Element.bare

/-- Two processors are the same to their reader: their instances may differ in order as far as that does
not count. -/
structure AlikeProcessor (selection : Selection) (base : Path) (cpu cpu' : Element) : Prop where
  bare : cpu.bare = cpu'.bare
  perm : (nodesOf cpu).Perm (nodesOf cpu')
  references : SameReferences selection base (nodesOf cpu) (nodesOf cpu')

theorem AlikeProcessor.refl (cpu : Element) : AlikeProcessor selection base cpu cpu :=
  ⟨rfl, .refl _, .refl _⟩

/-- Processors with the same instances in the same order are the same to their reader. -/
theorem AlikeProcessor.of_nodes {cpu cpu' : Element} (hbare : cpu.bare = cpu'.bare)
    (hnodes : nodesOf cpu = nodesOf cpu') : AlikeProcessor selection base cpu cpu' :=
  ⟨hbare, hnodes ▸ .refl _, hnodes ▸ .refl _⟩

/-- The first processors of two documents are the same to their reader. -/
def AlikeTop (selection : Selection) (base : Path) (root root' : Element) : Prop :=
  ∀ cpu, (root.descendants "cpu").head? = some cpu →
    ∃ cpu', (root'.descendants "cpu").head? = some cpu' ∧ AlikeProcessor selection base cpu cpu'

theorem AlikeTop.refl (root : Element) : AlikeTop selection base root root :=
  fun cpu hcpu => ⟨cpu, hcpu, .refl cpu⟩

theorem AlikeTop.trans {root root' root'' : Element} (h : AlikeTop selection base root root')
    (h' : AlikeTop selection base root' root'') : AlikeTop selection base root root'' := by
  intro cpu hcpu
  obtain ⟨cpu', hcpu', halike⟩ := h cpu hcpu
  obtain ⟨cpu'', hcpu'', halike'⟩ := h' cpu' hcpu'
  exact ⟨cpu'', hcpu'', halike.bare.trans halike'.bare, halike.perm.trans halike'.perm,
    halike.references.trans halike'.references⟩

theorem exists_head?_of_forall₂ {α β : Type} {S : α → β → Prop} {as : List α} {bs : List β} {a : α}
    (h : List.Forall₂ S as bs) (ha : as.head? = some a) : ∃ b, bs.head? = some b ∧ S a b := by
  cases h with
  | nil => cases ha
  | cons hab _ =>
      obtain rfl := Option.some.inj ha
      exact ⟨_, rfl, hab⟩

/-- Fields in other places leave the processor as it is. -/
theorem alikeTop_of_fields {root root' : Element} (h : Moved "bitfield" root root') :
    AlikeTop selection base root root' := by
  intro cpu hcpu
  obtain ⟨cpu', hcpu', hmoved⟩ :=
    exists_head?_of_forall₂ (Element.forall₂_descendants h (by decide)) hcpu
  refine ⟨cpu', hcpu', ?_⟩
  cases hmoved with
  | refl => exact .refl cpu
  | single hmoved =>
      exact .of_nodes hmoved.bare (Element.map_bare_descendants hmoved (by decide))

/-- The first processors, if there are any, have the same references. -/
def KeepsReferences (selection : Selection) (base : Path) (root root' : Element) : Prop :=
  ∀ cpu cpu', (root.descendants "cpu").head? = some cpu →
    (root'.descendants "cpu").head? = some cpu' →
    SameReferences selection base (nodesOf cpu) (nodesOf cpu')

/-- Instances in other places leave a processor the same to its reader as long as the references are. -/
theorem alikeTop_of_instances {root root' : Element} (h : Moved "instance" root root')
    (hkept : KeepsReferences selection base root root') : AlikeTop selection base root root' := by
  intro cpu hcpu
  obtain ⟨cpu', hcpu', hmoved⟩ :=
    exists_head?_of_forall₂ (Element.forall₂_descendants h (by decide)) hcpu
  have hreferences := hkept cpu cpu' hcpu hcpu'
  refine ⟨cpu', hcpu', ?_⟩
  cases hmoved with
  | refl => exact ⟨rfl, .refl _, hreferences⟩
  | single hmoved => exact ⟨hmoved.bare, Element.perm_descendants hmoved, hreferences⟩

/-- The registers under the root hold no processors and no instances. -/
def RegistersApart (root : Element) : Prop :=
  ∀ c ∈ root.children, c.tag = "register" →
    c.descendants "cpu" = [] ∧ c.descendants "instance" = []

/-- Registers in other places leave the processor as it is, if there is none in them. -/
theorem alikeTop_of_registers {root root' : Element} (h : RegistersMoved root root')
    (hapart : RegistersApart root) : AlikeTop selection base root root' := by
  have hcpus := h.rearranged.flatMap_eq fun c hc htag => (hapart c hc htag).1
  have hinstances := h.rearranged.flatMap_eq fun c hc htag => (hapart c hc htag).2
  have hroot : AlikeProcessor selection base root root' := by
    refine .of_nodes h.bare ?_
    rw [nodesOf, nodesOf, Element.descendants_eq, Element.descendants_eq, List.map_append,
      List.map_append, Element.map_bare_own h.bare, hinstances]
  have hall : List.Forall₂ (AlikeProcessor selection base) (root.descendants "cpu")
      (root'.descendants "cpu") := by
    rw [Element.descendants_eq, Element.descendants_eq, hcpus]
    exact List.rel_append (Element.forall₂_own h.bare hroot)
      (List.forall₂_same.mpr fun cpu _ => .refl cpu)
  intro cpu hcpu
  exact exists_head?_of_forall₂ hall hcpu

/-! ### Groups -/

/-- Two groups of instances of one definition, which agree address by address. -/
structure AlikeGroup (g g' : Group) : Prop where
  path : g.path.normalize = g'.path.normalize
  perm : (g.elements.map Element.bare).Perm (g'.elements.map Element.bare)
  ordered : ∀ address, (g.elements.map Element.bare).filter (address? · = some address) =
    (g'.elements.map Element.bare).filter (address? · = some address)

theorem isAdmitted_congr {e e' : Element} (h : e.bare = e'.bare) (id : String) :
    isAdmitted selection id e = isAdmitted selection id e' := by
  simp only [isAdmitted, require_congr h]

/-- Whether an element refers to anything can be told from its own attributes. -/
theorem exists_reference_of_bare {e e' : Element} (hbare : e.bare = e'.bare) {r : Option Reference}
    (h : (reference selection base e).result = .ok r) :
    ∃ r', (reference selection base e').result = .ok r' := by
  unfold reference at h ⊢
  rw [← isIdentified_congr hbare]
  by_cases hidentified : e.isIdentified = true
  · rw [if_pos hidentified] at h ⊢
    simp only [Traced.result_bind, Traced.result_ofFault, bind_eq_ok_iff, mapError_eq_ok_iff,
      require_congr hbare, isAdmitted_congr hbare] at h ⊢
    obtain ⟨id, hid, admitted, hadmitted, hr⟩ := h
    cases admitted with
    | true =>
        simp only [if_true, Traced.result_bind, Traced.result_ofFault, Traced.result_pure,
          bind_eq_ok_iff, mapError_eq_ok_iff] at hr
        obtain ⟨href, hhref, -⟩ := hr
        refine ⟨some ⟨base.join ⟨href⟩, e'⟩, id, hid, true, hadmitted, ?_⟩
        simp only [if_true, Traced.result_bind, Traced.result_ofFault, Traced.result_pure, hhref,
          mapError_ok, ok_bind]
    | false => exact ⟨none, id, hid, false, hadmitted, rfl⟩
  · rw [if_neg hidentified]
    exact ⟨none, rfl⟩

theorem exists_forall₂ {α β : Type} {R : α → β → Prop} {as : List α} (h : ∀ a ∈ as, ∃ b, R a b) :
    ∃ bs, List.Forall₂ R as bs := by
  induction as with
  | nil => exact ⟨[], .nil⟩
  | cons a as ih =>
      rw [List.forall_mem_cons] at h
      obtain ⟨⟨b, hb⟩, hrest⟩ := h
      obtain ⟨bs, hbs⟩ := ih hrest
      exact ⟨b :: bs, .cons hb hbs⟩

/-- The groups of the references of a list of elements can be told from the elements that are taken. -/
structure IsResolved (selection : Selection) (base : Path) (nodes : List Element)
    (groups : List Group) : Prop where
  keys : groups.map (·.path.normalize) =
    ((nodes.filter (isIncluded selection)).filterMap (target? base)).eraseDups
  elements : ∀ g ∈ groups, g.elements.map Element.bare =
    (nodes.filter (isIncluded selection)).filter (target? base · = some g.path.normalize)

theorem isResolved_of_resolve {archive : Archive} {cpu : Element} {groups : List Group}
    (h : (resolve archive.source selection base cpu).result = .ok groups) :
    IsResolved selection base (nodesOf cpu) groups := by
  obtain ⟨references, -, hgrouped⟩ := grouped_of_resolve h
  have hnodes : (nodesOf cpu).filter (isIncluded selection) =
      ((cpu.descendants "instance").filter (isIncluded selection)).map Element.bare :=
    List.filter_map
  have htarget (es : List Element) :
      (es.map Element.bare).filterMap (target? base) = es.filterMap (target? base) :=
    List.filterMap_map
  have hfilter (es : List Element) (target : Path) :
      (es.map Element.bare).filter (target? base · = some target) =
        (es.filter (target? base · = some target)).map Element.bare :=
    List.filter_map
  -- What is below an element has no part in whether it is taken and in what it refers to.
  refine ⟨?_, fun g hg => ?_⟩
  · rw [hgrouped.keys, hnodes, htarget]
  · rw [hgrouped.members g hg, hnodes, hfilter]

/-- The groups of the references of alike processors are alike. -/
theorem forall₂_alikeGroup {cpu cpu' : Element} {groups groups' : List Group}
    (h : AlikeProcessor selection base cpu cpu')
    (hresolved : IsResolved selection base (nodesOf cpu) groups)
    (hresolved' : IsResolved selection base (nodesOf cpu') groups') :
    List.Forall₂ AlikeGroup groups groups' := by
  -- The groups of both come in the order of first references, which is the same.
  have hpaths := hresolved.keys.trans (h.references.first.trans hresolved'.keys.symm)
  rw [← List.forall₂_eq_eq_eq, List.forall₂_map_left_iff, List.forall₂_map_right_iff] at hpaths
  refine (forall₂_mem hpaths).imp ?_
  rintro g g' ⟨hg, hg', hpath⟩
  have helements := hresolved.elements g hg
  have helements' := hresolved'.elements g' hg'
  rw [← hpath] at helements'
  refine ⟨hpath, ?_, fun address => ?_⟩
  · rw [helements, helements']
    exact (h.perm.filter _).filter _
  · have hboth (es : List Element) :
        (es.filter (target? base · = some g.path.normalize)).filter (address? · = some address) =
          es.filter fun e => target? base e = some g.path.normalize ∧ address? e = some address := by
      rw [List.filter_filter]
      refine List.filter_congr fun e _ => ?_
      rw [Bool.decide_and, Bool.and_comm]
    rw [helements, helements', hboth, hboth]
    exact h.references.ordered g.path.normalize address

/-- The same groups are made for the instances of a processor in another order. -/
theorem exists_resolve_of_alike {archive archive' : Archive} {cpu cpu' : Element}
    (h : AlikeProcessor selection base cpu cpu') {groups : List Group}
    (hgroups : (resolve archive.source selection base cpu).result = .ok groups) :
    ∃ groups', (resolve archive'.source selection base cpu').result = .ok groups' ∧
      List.Forall₂ AlikeGroup groups groups' := by
  -- Each element is one of the other processor's, apart from what is below it, and that was read.
  have hreferences : ∀ e' ∈ cpu'.descendants "instance",
      ∃ r', (reference selection base e').result = .ok r' := by
    intro e' he'
    obtain ⟨options, hoptions, -⟩ := resolve_eq_ok_iff.mp hgroups
    have hmem : e'.bare ∈ nodesOf cpu := h.perm.mem_iff.mpr (List.mem_map_of_mem he')
    obtain ⟨e, he, hbare⟩ := List.mem_map.mp hmem
    obtain ⟨r, -, hr⟩ := exists_of_mem_forall₂ hoptions he
    exact exists_reference_of_bare hbare hr
  obtain ⟨options', hoptions'⟩ := exists_forall₂ hreferences
  have hgroups' : (resolve archive'.source selection base cpu').result =
      .ok (groupReferences archive'.source.same (options'.filterMap id)) :=
    resolve_eq_ok_iff.mpr ⟨options', hoptions', rfl⟩
  exact ⟨_, hgroups',
    forall₂_alikeGroup h (isResolved_of_resolve hgroups) (isResolved_of_resolve hgroups')⟩

end Description
end RegisterMap
