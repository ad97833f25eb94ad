import Mathlib.Data.List.Nodup
import Mathlib.Data.List.Perm.Basic
import RegisterMap.Header.Basic
import RegisterMap.Proofs.CapitalWords
import RegisterMap.Proofs.Validation

/-!
# Type names

A header defines a type for each register and one for each peripheral.  The endings of the two kinds of
name differ, so that two types share a name only if they are of one kind and what stands before the
ending is the same (`nodup_typeNames_iff`).
-/

namespace RegisterMap
namespace Header

/-- The names of the types that a header defines. -/
def typeNames (h : Header) : List String :=
  h.types.flatMap fun b => b.overlays.map Overlay.name ++ [b.struct.name]

end Header

/-- The registers of a device, each with its peripheral. -/
def Device.ownedRegisters (d : Device) : List (Peripheral × Register) :=
  d.peripherals.flatMap fun p => p.registers.map fun r => (p, r)

namespace Header

variable {format : Format} {d : Device}

theorem typeNames_perm (format : Format) (d : Device) :
    (ofDevice format d).typeNames.Perm
      (d.ownedRegisters.map (fun x => registerType x.1 x.2) ++ d.peripherals.map peripheralType) := by
  have hnames : (ofDevice format d).typeNames =
      d.peripherals.flatMap fun p => p.registers.map (registerType p) ++ [peripheralType p] := by
    simp only [typeNames, ofDevice, List.flatMap_map, TypeBlock.ofPeripheral, List.map_map]
    rfl
  have hregisters : d.ownedRegisters.map (fun x => registerType x.1 x.2) =
      d.peripherals.flatMap fun p => p.registers.map (registerType p) := by
    simp only [Device.ownedRegisters, List.map_flatMap, List.map_map]
    rfl
  have hperipherals : d.peripherals.map peripheralType =
      d.peripherals.flatMap fun p => [peripheralType p] :=
    List.map_eq_flatMap
  rw [hnames, hregisters, hperipherals]
  exact (List.flatMap_append_perm _ _ _).symm

/-- The endings of the two kinds of type names differ in the fourth letter from the end. -/
theorem registerType_ne_peripheralType (p q : Peripheral) (r : Register) :
    registerType p r ≠ peripheralType q := by
  intro h
  -- From the end the two read `feDg` and `feDh`, whatever stands before that.
  have hlast := congrArg (fun s : String => s.toList.reverse[3]?) h
  simp [registerType, peripheralType, String.toList_append] at hlast

theorem nodup_map_append {α : Type} (f : α → String) (ending : String) (l : List α) :
    (l.map fun x => f x ++ ending).Nodup ↔ (l.map f).Nodup := by
  have hmap : (l.map fun x => f x ++ ending) = (l.map f).map (· ++ ending) := by
    rw [List.map_map]
    rfl
  rw [hmap]
  refine List.nodup_map_iff fun s t hst => ?_
  have hchars := congrArg String.toList hst
  rw [String.toList_append, String.toList_append] at hchars
  exact String.toList_injective (List.append_cancel_right hchars)

/-- The types of a header have different names exactly if what stands before the endings differs, among
the peripherals and among the registers. -/
theorem nodup_typeNames_iff (format : Format) (d : Device) :
    (ofDevice format d).typeNames.Nodup ↔
      (d.peripherals.map fun p => camelCase p.name).Nodup ∧
        (d.ownedRegisters.map fun x => camelCase x.1.name ++ camelCase x.2.name).Nodup := by
  rw [(typeNames_perm format d).nodup_iff, List.nodup_append]
  have hregisters := nodup_map_append
    (fun x : Peripheral × Register => camelCase x.1.name ++ camelCase x.2.name) "RegDef"
    d.ownedRegisters
  have hperipherals := nodup_map_append (fun p : Peripheral => camelCase p.name) "PeriphDef"
    d.peripherals
  constructor
  · rintro ⟨hr, hp, -⟩
    exact ⟨hperipherals.mp hp, hregisters.mp hr⟩
  · rintro ⟨hp, hr⟩
    refine ⟨hregisters.mpr hr, hperipherals.mpr hp, ?_⟩
    intro s hs t ht
    obtain ⟨x, -, rfl⟩ := List.mem_map.mp hs
    obtain ⟨q, -, rfl⟩ := List.mem_map.mp ht
    exact registerType_ne_peripheralType x.1 q x.2

/-- All names are conventional, and no peripheral's name goes on from another's after an underscore. -/
structure HasConventionalNames (d : Device) : Prop where
  peripherals : ∀ p ∈ d.peripherals, isConventional p.name = true
  registers : ∀ p ∈ d.peripherals, ∀ r ∈ p.registers, isConventional r.name = true
  apart : ∀ p ∈ d.peripherals, ∀ q ∈ d.peripherals, ¬ p.name.toList ++ ['_'] <+: q.name.toList

theorem nodup_camelCase_peripherals (h : HasConventionalNames d)
    (hnames : (d.peripherals.map Peripheral.name).Nodup) :
    (d.peripherals.map fun p => camelCase p.name).Nodup := by
  rw [List.Nodup, List.pairwise_map] at hnames ⊢
  refine hnames.imp_of_mem fun {p q} hp hq hne heq => ?_
  exact hne ((camelCase_inj (h.peripherals p hp) (h.peripherals q hq)).mp heq)

/-- If two names are the same with an underscore and something after each, then they are the same or
one goes on from the other after an underscore. -/
theorem eq_or_prefix_of_append_eq {cs ds es fs : List Char}
    (h : cs ++ '_' :: es = ds ++ '_' :: fs) :
    cs = ds ∨ cs ++ ['_'] <+: ds ∨ ds ++ ['_'] <+: cs := by
  rcases List.append_eq_append_iff.mp h with ⟨more, rfl, hmore⟩ | ⟨more, rfl, hmore⟩
  · cases more with
    | nil => exact .inl (List.append_nil cs).symm
    | cons c more =>
        rw [List.cons_append, List.cons.injEq] at hmore
        exact .inr (.inl ⟨more, by simp [← hmore.1]⟩)
  · cases more with
    | nil => exact .inl (List.append_nil ds)
    | cons c more =>
        rw [List.cons_append, List.cons.injEq] at hmore
        exact .inr (.inr ⟨more, by simp [← hmore.1]⟩)

theorem name_eq_of_append_eq (h : HasConventionalNames d) {p q : Peripheral}
    (hp : p ∈ d.peripherals) (hq : q ∈ d.peripherals) {es fs : List Char}
    (heq : p.name.toList ++ '_' :: es = q.name.toList ++ '_' :: fs) : p.name = q.name := by
  rcases eq_or_prefix_of_append_eq heq with hname | hbefore | hafter
  · exact String.toList_injective hname
  · exact absurd hbefore (h.apart p hp q hq)
  · exact absurd hafter (h.apart q hq p hp)

/-- The names of two registers differ in the part of the peripheral or in that of the register; with
conventional names it can be told where the one ends and the other begins. -/
theorem nodup_camelCase_registers (h : HasConventionalNames d)
    (hnames : (d.peripherals.map Peripheral.name).Nodup)
    (hregisters : ∀ p ∈ d.peripherals, (p.registers.map Register.name).Nodup) :
    (d.ownedRegisters.map fun x => camelCase x.1.name ++ camelCase x.2.name).Nodup := by
  rw [Device.ownedRegisters, List.map_flatMap, List.nodup_flatMap]
  constructor
  · -- Within a peripheral the first half is the same, so that the second has to differ.
    intro p hp
    have hown := hregisters p hp
    rw [List.map_map, List.Nodup, List.pairwise_map]
    rw [List.Nodup, List.pairwise_map] at hown
    refine hown.imp_of_mem fun {r s} hr hs hne heq => hne ?_
    have hjoined := (camelCase_append_inj (h.peripherals p hp) (h.registers p hp r hr)
      (h.peripherals p hp) (h.registers p hp s hs)).mp heq
    exact String.toList_injective (List.cons.inj (List.append_cancel_left hjoined)).2
  · rw [List.Nodup, List.pairwise_map] at hnames
    refine hnames.imp_of_mem fun {p q} hp hq hne => ?_
    rw [Function.onFun, List.disjoint_left]
    simp only [List.map_map, List.mem_map, Function.comp_apply]
    rintro _ ⟨r, hr, rfl⟩ ⟨s, hs, heq⟩
    -- Different peripherals: the joined names would have an underscore in the same place.
    have hjoined := (camelCase_append_inj (h.peripherals q hq) (h.registers q hq s hs)
      (h.peripherals p hp) (h.registers p hp r hr)).mp heq
    exact hne (name_eq_of_append_eq h hq hp hjoined).symm

/-- When the types of a header have different names: exactly if what stands before the endings differs,
among the peripherals and among the registers.  The type of a register and that of a peripheral never share
a name.  With conventional names no two types do as soon as the names of the peripherals differ, and within
each those of its registers. -/
theorem nodup_typeNames (format : Format) (d : Device) :
    ((ofDevice format d).typeNames.Nodup ↔
      (d.peripherals.map fun p => camelCase p.name).Nodup ∧
        (d.ownedRegisters.map fun x => camelCase x.1.name ++ camelCase x.2.name).Nodup) ∧
    (∀ (p q : Peripheral) (r : Register), registerType p r ≠ peripheralType q) ∧
    (HasConventionalNames d → (d.peripherals.map Peripheral.name).Nodup →
      (∀ p ∈ d.peripherals, (p.registers.map Register.name).Nodup) →
        (ofDevice format d).typeNames.Nodup) := by
  refine ⟨nodup_typeNames_iff format d, registerType_ne_peripheralType,
    fun h hnames hregisters => ?_⟩
  rw [nodup_typeNames_iff]
  exact ⟨nodup_camelCase_peripherals h hnames, nodup_camelCase_registers h hnames hregisters⟩

/-- Two peripherals with registers of the same names, in several words. -/
def twoSerials : Device :=
  ⟨"X", "CM4",
    [⟨"UART_A", "", [⟨"TX_DATA", "", 32, 0, []⟩, ⟨"TXDATA", "", 32, 4, []⟩], []⟩,
      ⟨"UART_A2", "", [⟨"TX_DATA", "", 32, 0, []⟩, ⟨"CTL", "", 32, 4, []⟩], []⟩]⟩

theorem hasConventionalNames_twoSerials : HasConventionalNames twoSerials where
  peripherals := by decide +kernel
  registers := by decide +kernel
  apart := by decide +kernel

theorem nodup_typeNames_twoSerials :
    HasConventionalNames twoSerials ∧ (ofDevice .standard twoSerials).typeNames.Nodup :=
  ⟨hasConventionalNames_twoSerials,
    (nodup_typeNames .standard twoSerials).2.2 hasConventionalNames_twoSerials (by decide +kernel)
      (by decide +kernel)⟩

/-- A peripheral with two registers whose names differ only in an underscore before a digit. -/
def crowdedSerial : Device :=
  ⟨"X", "CM4",
    [⟨"UART", "", [⟨"TX1", "", 32, 0, []⟩, ⟨"TX_1", "", 32, 4, []⟩], []⟩]⟩

theorem validated_crowdedSerial : crowdedSerial.Validated := by
  have hregister : ∀ r ∈ [(⟨"TX1", "", 32, 0, []⟩ : Register), ⟨"TX_1", "", 32, 4, []⟩],
      r.Validated := by
    simp only [List.forall_mem_cons, List.not_mem_nil, false_implies, implies_true, and_true]
    exact ⟨⟨⟨"TX1", "", 32, 0, []⟩, by simp, by cbv⟩, ⟨⟨"TX_1", "", 32, 4, []⟩, by simp, by cbv⟩⟩
  refine ⟨⟨"X", "CM4", crowdedSerial.peripherals⟩, ?_, rfl⟩
  intro p hp
  rw [List.mem_singleton.mp hp]
  exact ⟨⟨"UART", "", _, []⟩, hregister, by simp, by cbv⟩

/-- Different names do not make different types: both registers have the type `UartTx1RegDef`. -/
theorem typeNames_crowdedSerial :
    crowdedSerial.Validated ∧ (crowdedSerial.peripherals.map Peripheral.name).Nodup ∧
      (∀ p ∈ crowdedSerial.peripherals, (p.registers.map Register.name).Nodup) ∧
      (ofDevice .standard crowdedSerial).typeNames =
        ["UartTx1RegDef", "UartTx1RegDef", "UartPeriphDef"] ∧
      ¬ (ofDevice .standard crowdedSerial).typeNames.Nodup := by
  exact ⟨validated_crowdedSerial, by decide +kernel, by decide +kernel, by decide +kernel,
    by decide +kernel⟩

end Header
end RegisterMap
