import RegisterMap.Description.Parts
import RegisterMap.Device.Basic
import RegisterMap.Header.Basic
import RegisterMap.Selection
import RegisterMap.Source
import RegisterMap.Traced

/-!
# Reading a description

A description is a top document and the documents that it refers to.  The top document names the part
and, under its processor, the instances; each instance refers to the document that defines its
registers.  Instances are gathered by that document first, so that each definition is read once and
checked together with all of its instances.
-/

namespace RegisterMap

namespace Description

open Markup (Element)

/-- An instance element and the document that it refers to. -/
structure Reference where
  path : Path
  element : Element
deriving Repr, DecidableEq

/-- A document and the instance elements that refer to it. -/
structure Group where
  path : Path
  elements : List Element
deriving Repr, DecidableEq

/-- The selection takes the instance: its address is an unsigned word of 64 bits that it admits. -/
def takes (selection : Selection) (id : String) (address : Int) : Bool :=
  decide (0 ≤ address) && Numeral.fitsUnsigned 64 address.toNat &&
    selection.admits address.toNat id

/-- The instance is admitted.  Its address is looked at only if the selection sets a condition. -/
def isAdmitted (selection : Selection) (id : String) (e : Element) : Except Fault Bool :=
  if selection.isTrivial then .ok true
  else do
    let address ← hexadecimal "baseaddr" id (← require e "baseaddr")
    return takes selection id address

/-- What an instance element refers to, if it is taken into the device. -/
def reference (selection : Selection) (base : Path) (e : Element) : Traced (Option Reference) :=
  if e.isIdentified then do
    -- This cannot fail, since the element is identified.
    let id ← Traced.ofFault (require e "id")
    let admitted ← Traced.ofFault (isAdmitted selection id e)
    if admitted then do
      let href ← Traced.ofFault (require e "href")
      return some ⟨base.join ⟨href⟩, e⟩
    else do
      Traced.note (.rejected id)
      return none
  else do
    Traced.note (.unidentified (e.attribute? "href"))
    return none

/-- Puts a reference into the first group with the same document, or else into a new one at the end. -/
def addReference (same : Path → Path → Bool) (groups : List Group) (r : Reference) : List Group :=
  match groups with
  | [] => [⟨r.path, [r.element]⟩]
  | g :: rest =>
    if same g.path r.path then { g with elements := g.elements ++ [r.element] } :: rest
    else g :: addReference same rest r

/-- References by the document that they name, in the order in which each is first named. -/
def groupReferences (same : Path → Path → Bool) (references : List Reference) : List Group :=
  references.foldl (addReference same) []

/-- The documents that the instances under a processor refer to, each with those instances. -/
def resolve (source : Source) (selection : Selection) (base : Path) (cpu : Element) :
    Traced (List Group) := do
  let references ← (cpu.descendants "instance").mapM (reference selection base)
  return groupReferences source.same (references.filterMap id)

/-- The registers of a definition. -/
def registers (root : Element) : Except Failure (List Register) :=
  (root.descendants "register").mapM fun e =>
    (register e).mapError fun fault =>
      (Failure.ofFault fault).within (.register (e.attribute? "id"))

/-- The instances of the definition of that name. -/
def placements (definition : String) (elements : List Element) : Except Failure (List Instance) :=
  elements.mapM fun e =>
    (placement definition e).mapError fun fault =>
      (Failure.ofFault fault).within (.placement (e.attribute? "id"))

/-- A definition with its instances. -/
def definition (source : Source) (group : Group) : Traced Peripheral := do
  let root ← Traced.ofExcept (source.load group.path)
  let name ← Traced.ofFault (require root "id")
  let registers ← Traced.ofExcept (registers root)
  let instances ← Traced.ofExcept (placements name group.elements)
  Traced.note (.definition name registers.length instances.length)
  -- The parts come first, so that a fault in one of them is reported before a missing description.
  let description ← Traced.ofFault (describe root)
  Traced.ofFault (checked (Peripheral.Draft.validate ⟨name, description, registers, instances⟩))

/-- The processor of a device: the first one in its document. -/
def processor (root : Element) : Except Fault Element :=
  match (root.descendants "cpu").head? with
  | some cpu => .ok cpu
  | none => .error (.missing root.tag "cpu")

/-- The directory that the references of the document at a path begin at. -/
def baseOf (path : Path) : Path :=
  path.parent?.getD ⟨""⟩

/-- The documents that the document at a path refers to, given its root, whether or not the instances
that do so are taken into the device. -/
def mentions (path : Path) (root : Element) : List Path :=
  (root.descendants "instance").filterMap fun e =>
    (e.attribute? "href").map fun href => (baseOf path).join ⟨href⟩

/-- The device that the document at a path describes. -/
def device (source : Source) (selection : Selection) (path : Path) : Traced Device :=
  Traced.within (.document path) do
    let root ← Traced.ofExcept (source.load path)
    let cpu ← Traced.ofFault (processor root)
    let groups ← resolve source selection (baseOf path) cpu
    -- The attributes of the device itself are looked at only after all of its definitions.
    let peripherals ← groups.mapM fun group =>
      Traced.within (.document group.path) (definition source group)
    let partNumber ← Traced.ofFault (require root "partnum")
    let cpuName ← Traced.ofFault (require cpu "id")
    let device ← Traced.ofFault (checked (Device.Draft.validate ⟨partNumber, cpuName, peripherals⟩))
    Traced.note (.device device.partNumber device.peripherals.length device.instanceCount)
    return device

end Description

/-! ### Generating a header

From a device, or from the document that describes it, to the text of its header.
-/

/-- The header of a device, with what there is to say about its layouts. -/
def writeHeader (format : Header.Format) (d : Device) : Traced String :=
  ⟨d.layoutWarnings.map .layout, .ok (d.header format)⟩

/-- The header of the device that the document at a path describes. -/
def generate (source : Source) (selection : Selection) (format : Header.Format) (path : Path) :
    Traced String := do
  writeHeader format (← Description.device source selection path)

end RegisterMap
