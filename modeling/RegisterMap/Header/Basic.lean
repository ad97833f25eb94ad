import RegisterMap.Device.Basic
import RegisterMap.Header.Handle
import RegisterMap.Header.Overlay
import RegisterMap.Header.Struct

/-!
# Headers

The C header of a device: first the declarations as data, then their text.  The text is blocks of lines
with an empty line between neighbours: what comes first in every header, the types of each peripheral,
and the handles of those that have instances.
-/

namespace RegisterMap

namespace Header

/-- The types of a peripheral. -/
structure TypeBlock where
  peripheral : String
  overlays : List Overlay
  struct : Struct
deriving Repr, DecidableEq

/-- The types of a peripheral, as data. -/
def TypeBlock.ofPeripheral (format : Format) (p : Peripheral) : TypeBlock where
  peripheral := p.name
  overlays := p.registers.map (Overlay.ofRegister format p)
  struct := Struct.ofPeripheral format p

/-- The types of a peripheral in C. -/
def TypeBlock.blocks (b : TypeBlock) : List String :=
  s!"// {b.peripheral} registers." :: b.overlays.map (fun o => joinLines o.lines) ++
    [joinLines b.struct.lines]

end Header

/-- The header of a device. -/
structure Header where
  banner : List String
  partNumber : String
  cpuName : String
  types : List Header.TypeBlock
  handles : List Header.HandleBlock
deriving Repr, DecidableEq

namespace Header

/-- The header of a device, as data.  Only peripherals with instances have handles. -/
def ofDevice (format : Format) (d : Device) : Header where
  banner := format.banner
  partNumber := d.partNumber
  cpuName := d.cpuName
  types := d.peripherals.map (TypeBlock.ofPeripheral format)
  handles :=
    (d.peripherals.filter fun p => !p.instances.isEmpty).map (HandleBlock.ofPeripheral format)

/-- The lines that come first. -/
def preamble (h : Header) : List String :=
  h.banner.map ("// " ++ ·) ++ (if h.banner.isEmpty then [] else [""]) ++
    ["#pragma once",
      "",
      "#include <assert.h>",
      "#include <stddef.h>",
      "#include <stdint.h>",
      "",
      s!"// {h.partNumber} register definitions.",
      s!"// CPU: {h.cpuName}"]

/-- The blocks of a header. -/
def blocks (h : Header) : List String :=
  joinLines h.preamble :: h.types.flatMap TypeBlock.blocks ++
    "// Peripheral instance definitions." :: h.handles.flatMap HandleBlock.blocks

/-- The text of a header. -/
def text (h : Header) : String :=
  joinBlocks h.blocks ++ "\n"

end Header

/-- The text of the header of a device. -/
def Device.header (format : Header.Format) (d : Device) : String :=
  (Header.ofDevice format d).text

/-- What there is to say about the layouts of a device's peripherals. -/
def Device.layoutWarnings (d : Device) : List LayoutWarning :=
  d.peripherals.flatMap fun p => p.byteLayout.warnings

end RegisterMap
