import RegisterMap.Proofs.Descendants
import RegisterMap.Proofs.Gathering

/-!
# What reading looks at

Reading a description looks at less than its documents hold.

* An instance is read off its own element, whatever is below that (`placement_bare`), so that groups of
  references may be compared without what is below their elements (`definition_bare`).
* The registers of a definition do not depend on the attributes of instance elements, which a document
  that is both a definition and the top document has as well (`registers_withoutPlacements`).

After its references are resolved, all that is left to do for a device is `assemble`
(`result_device`).
-/

namespace RegisterMap

open Markup (Element)

namespace Markup
namespace Element

/-- The element without what is below it. -/
def bare (e : Element) : Element :=
  ⟨e.tag, e.attributes, []⟩

theorem bare_eq_iff {e f : Element} :
    e.bare = f.bare ↔ e.tag = f.tag ∧ e.attributes = f.attributes := by
  simp [bare]

theorem bare_mapAttributes {f : Element → List (String × String)} {e : Element}
    (h : f e = e.attributes) : (e.mapAttributes f).bare = e.bare := by
  simp [bare_eq_iff, h]

/-- The attributes of an element, none if it is an instance. -/
def keptAttributes (e : Element) : List (String × String) :=
  if e.tag == "instance" then [] else e.attributes

/-- The tree with no attributes at its instances. -/
def withoutPlacements (e : Element) : Element :=
  e.mapAttributes keptAttributes

theorem bare_withoutPlacements {e : Element} (h : e.tag ≠ "instance") :
    e.withoutPlacements.bare = e.bare :=
  bare_mapAttributes (if_neg (by simpa using h))

end Element
end Markup

namespace Description

/-! ### Elements -/

theorem require_bare (e : Element) (key : String) : require e.bare key = require e key :=
  rfl

/-- An instance has no parts, so that what is below its element is not looked at. -/
theorem placement_bare (definition : String) (e : Element) :
    placement definition e.bare = placement definition e :=
  rfl

theorem bitfield_bare (e : Element) : bitfield e.bare = bitfield e :=
  rfl

theorem require_congr {e f : Element} (h : e.bare = f.bare) (key : String) :
    require e key = require f key := by
  rw [← require_bare e, h, require_bare]

theorem attribute?_congr {e f : Element} (h : e.bare = f.bare) (key : String) :
    e.attribute? key = f.attribute? key := by
  rw [Element.attribute?, Element.attribute?, (Element.bare_eq_iff.mp h).2]

theorem isIdentified_congr {e f : Element} (h : e.bare = f.bare) :
    e.isIdentified = f.isIdentified := by
  rw [Element.isIdentified, Element.isIdentified, attribute?_congr h]

/-- A register is read off its own attributes and off those of the fields below it. -/
theorem register_congr {e f : Element} (h : e.bare = f.bare)
    (hfields : (e.descendants "bitfield").mapM bitfield = (f.descendants "bitfield").mapM bitfield) :
    register e = register f := by
  simp only [register, decimalAttribute, describe, require_congr h, hfields]

theorem bitfield_withoutPlacements {e : Element} (h : e.tag ≠ "instance") :
    bitfield e.withoutPlacements = bitfield e := by
  rw [← bitfield_bare, Element.bare_withoutPlacements h, bitfield_bare]

theorem register_withoutPlacements {e : Element} (h : e.tag ≠ "instance") :
    register e.withoutPlacements = register e := by
  refine register_congr (Element.bare_withoutPlacements h) ?_
  rw [Element.withoutPlacements, Element.descendants_mapAttributes, List.mapM_map]
  -- A field is not an instance, whatever else is between it and the register.
  refine mapM_congr fun b hb => bitfield_withoutPlacements ?_
  rw [Element.tag_of_mem_descendants hb]
  decide

/-- The attributes of instances have no part in the registers of a definition. -/
theorem registers_withoutPlacements (root : Element) :
    registers root.withoutPlacements = registers root := by
  unfold registers
  rw [Element.withoutPlacements, Element.descendants_mapAttributes, List.mapM_map]
  refine mapM_congr fun e he => ?_
  have htag : e.tag ≠ "instance" := by
    rw [Element.tag_of_mem_descendants he]
    decide
  have hregister := register_withoutPlacements htag
  have hid := attribute?_congr (Element.bare_withoutPlacements htag) "id"
  simp only [Element.withoutPlacements] at hregister hid
  simp only [Function.comp_apply, hregister, hid]

/-! ### Groups -/

/-- The reference without what is below its element. -/
def Reference.bare (r : Reference) : Reference :=
  ⟨r.path, r.element.bare⟩

/-- The group without what is below its elements. -/
def Group.bare (g : Group) : Group :=
  ⟨g.path, g.elements.map Element.bare⟩

/-- References are put into groups by their paths alone. -/
theorem addReference_bare (same : Path → Path → Bool) (groups : List Group) (r : Reference) :
    addReference same (groups.map Group.bare) r.bare =
      (addReference same groups r).map Group.bare := by
  induction groups with
  | nil => rfl
  | cons g rest ih =>
      rw [List.map_cons, addReference, addReference]
      by_cases hsame : same g.path r.path = true
      · rw [if_pos hsame, if_pos (show same g.bare.path r.bare.path = true from hsame),
          List.map_cons]
        simp [Group.bare, Reference.bare]
      · rw [if_neg hsame, if_neg (show ¬same g.bare.path r.bare.path = true from hsame), ih,
          List.map_cons]

theorem groupReferences_bare (same : Path → Path → Bool) (references : List Reference) :
    groupReferences same (references.map Reference.bare) =
      (groupReferences same references).map Group.bare := by
  induction references using List.reverseRecOn with
  | nil => rfl
  | append_singleton references r ih =>
      rw [List.map_append, List.map_singleton, groupReferences_append_singleton, ih,
        groupReferences_append_singleton, addReference_bare]

theorem filterMap_bare (references : List (Option Reference)) :
    (references.map (Option.map Reference.bare)).filterMap id =
      (references.filterMap id).map Reference.bare := by
  rw [List.filterMap_map, List.map_filterMap]
  rfl

variable {source : Source} {selection : Selection}

/-- The groups without what is below their elements come from references without it. -/
theorem bare_resolve (source : Source) (selection : Selection) (base : Path) (cpu : Element) :
    List.map Group.bare <$> (resolve source selection base cpu).result =
      (fun references => groupReferences source.same (references.filterMap id)) <$>
        (cpu.descendants "instance").mapM fun e =>
          Option.map Reference.bare <$> (reference selection base e).result := by
  rw [← map_mapM, resolve, Traced.result_bind, Traced.result_mapM]
  cases (cpu.descendants "instance").mapM fun e => (reference selection base e).result with
  | error failure => rfl
  | ok references =>
      show Except.ok _ = Except.ok (groupReferences source.same (List.filterMap id _))
      rw [filterMap_bare, groupReferences_bare]

/-! ### Definitions -/

theorem placements_bare (name : String) (elements : List Element) :
    placements name (elements.map Element.bare) = placements name elements := by
  unfold placements
  rw [List.mapM_map]
  rfl

theorem definition_bare (source : Source) (group : Group) :
    (definition source group.bare).result = (definition source group).result := by
  simp only [definition, Group.bare, Traced.result_bind, Traced.result_ofExcept, placements_bare,
    Traced.result_ofFault, Traced.result_note]

/-- Two roots of a definition are the same to its reader. -/
structure SameDefinition (root root' : Element) : Prop where
  bare : root.bare = root'.bare
  registers : registers root = registers root'

/-- Two sources that hold the same definition at a path give the same peripheral. -/
theorem definition_congr {source source' : Source} {group : Group}
    (h : source.load group.path = source'.load group.path ∨
      ∃ root root', source.load group.path = .ok root ∧ source'.load group.path = .ok root' ∧
        SameDefinition root root') :
    (definition source group).result = (definition source' group).result := by
  rcases h with h | ⟨root, root', hroot, hroot', hsame⟩
  · simp only [definition, Traced.result_bind, Traced.result_ofExcept, h]
  · simp only [definition, describe, Traced.result_bind, Traced.result_ofExcept, Traced.result_ofFault,
      hroot, hroot', ok_bind, require_congr hsame.bare, hsame.registers]

/-! ### Devices -/

/-- What is left to do for a device once its references are resolved. -/
def assemble (source : Source) (root cpu : Element) (groups : List Group) :
    Except Failure Device := do
  let peripherals ← groups.mapM fun group =>
    (definition source group).result.mapError (·.within (.document group.path))
  let partNumber ← (require root "partnum").mapError Failure.ofFault
  let cpuName ← (require cpu "id").mapError Failure.ofFault
  (checked (Device.Draft.validate ⟨partNumber, cpuName, peripherals⟩)).mapError Failure.ofFault

/-- Up to the references a device is read from its top document alone. -/
theorem result_device (source : Source) (selection : Selection) (path : Path) :
    (device source selection path).result =
      (do
        let root ← source.load path
        let cpu ← (processor root).mapError Failure.ofFault
        let groups ← (resolve source selection (baseOf path) cpu).result
        assemble source root cpu groups).mapError (Failure.within (.document path)) := by
  simp only [device, assemble, Traced.result_within, Traced.result_bind, Traced.result_ofExcept,
    Traced.result_ofFault, Traced.result_note, Traced.result_pure, Traced.result_mapM, ok_bind,
    bind_ok]

/-- Assembling looks at its elements and groups without what is below them. -/
theorem assemble_congr {source source' : Source} {root root' cpu cpu' : Element}
    {groups groups' : List Group} (hroot : root.bare = root'.bare) (hcpu : cpu.bare = cpu'.bare)
    (hgroups : groups.map Group.bare = groups'.map Group.bare)
    (hdefinition : ∀ group, (definition source group).result = (definition source' group).result) :
    assemble source root cpu groups = assemble source' root' cpu' groups' := by
  -- Definitions are read from groups as well without what is below their elements, and those are the same
  -- here.
  have hpart : ∀ (source : Source) (groups : List Group),
      (groups.mapM fun group =>
          (definition source group).result.mapError (Failure.within (.document group.path))) =
        (groups.map Group.bare).mapM fun group =>
          (definition source group).result.mapError (Failure.within (.document group.path)) := by
    intro source groups
    rw [List.mapM_map]
    refine mapM_congr fun group _ => ?_
    rw [Function.comp_apply, definition_bare]
    rfl
  unfold assemble
  rw [hpart source, hpart source', hgroups]
  simp only [require_congr hroot, require_congr hcpu, hdefinition]

end Description
end RegisterMap
