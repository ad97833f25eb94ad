import RegisterMap.Proofs.HeaderLines
import RegisterMap.Proofs.StructPlacement

/-!
# What a header declares

A header declares the type of every register and of every peripheral once, in the order of the device,
and a handle for each instance.  What each section declares, which registers it has as members and what it
asserts is read off its lines (`Content.of`).  The grouping of registers into unions has no part in it:
members and assertions come one for each register, in the order of the registers.

Names are declared before they are used (`DeclaredBefore`): what a line refers to is declared in a line
above it.
-/

namespace RegisterMap
namespace Header

/-- Something that a header declares and refers to. -/
inductive Symbol where
  /-- The type of a register. -/
  | overlay (name : String)
  /-- The type of a peripheral. -/
  | struct (name : String)
  /-- The pointer to an instance. -/
  | handle (name : String)
deriving DecidableEq

namespace Line

/-- What the line declares. -/
def declared? : Line → Option Symbol
  | overlay name => some (.overlay name)
  | struct name => some (.struct name)
  | handle _ name _ => some (.handle name)
  | _ => none

/-- What the line refers to. -/
def used? : Line → Option Symbol
  | member _ type _ => some (.overlay type)
  | handle type _ _ => some (.struct type)
  | array type _ _ => some (.struct type)
  | slot handle? => handle?.map .handle
  | _ => none

end Line

/-! ### The contents of sections -/

/-- What there is in a section. -/
structure Content where
  declared : List Symbol
  /-- The members of structs, each with its type and its name. -/
  members : List (String × String)
  assertions : List Assertion
deriving DecidableEq

namespace Content

/-- Nothing. -/
def none : Content :=
  ⟨[], [], []⟩

/-- The type of a register and the assertion of its size. -/
def ofRegister (p : Peripheral) (r : Register) : Content :=
  ⟨[.overlay (registerType p r)], [], [.size (registerType p r) r.byteWidth]⟩

/-- The type of a peripheral with a member for each register, and the assertions of its size, if it has
instances, and of the offset of each register. -/
def ofPeripheral (p : Peripheral) : Content where
  declared := [.struct (peripheralType p)]
  members := p.registers.map fun r => (registerType p r, Text.upper r.name)
  assertions :=
    (p.instanceSize?.map fun _ => .size (peripheralType p) p.byteLayout.size).toList ++
      p.registers.map fun r => .offset (peripheralType p) (Text.upper r.name) r.addressOffset

instance : Append Content :=
  ⟨fun c c' => ⟨c.declared ++ c'.declared, c.members ++ c'.members, c.assertions ++ c'.assertions⟩⟩

end Content

section
variable (format : Format) (d : Device)

end

/-! ### Declared before used -/

/-- What each line refers to is known at the beginning or declared in a line above it. -/
def DeclaredBefore (known : List Symbol) (lines : List Line) : Prop :=
  ∀ before l after, lines = before ++ l :: after →
    ∀ s ∈ l.used?, s ∈ known ++ before.filterMap Line.declared?

/-- The lines refer only to what is known. -/
def UsesOnly (known : List Symbol) (lines : List Line) : Prop :=
  ∀ l ∈ lines, ∀ s ∈ l.used?, s ∈ known

namespace DeclaredBefore

theorem of_usesOnly {known : List Symbol} {lines : List Line} (h : UsesOnly known lines) :
    DeclaredBefore known lines := by
  intro before l after hlines s hs
  have hl : l ∈ lines := by simp [hlines]
  exact List.mem_append_left _ (h l hl s hs)

/-- What the first lines declare is known to those after them. -/
theorem append {known : List Symbol} {lines lines' : List Line} (h : DeclaredBefore known lines)
    (h' : DeclaredBefore (known ++ lines.filterMap Line.declared?) lines') :
    DeclaredBefore known (lines ++ lines') := by
  intro before l after hsplit s hs
  rcases List.append_eq_append_iff.mp hsplit with ⟨rest, hbefore, hlines'⟩ | ⟨rest, hlines, hafter⟩
  · -- The line is one of the second list.
    have hs' := h' rest l after hlines' s hs
    rw [hbefore, List.filterMap_append, ← List.append_assoc]
    exact hs'
  · -- The line is one of the first list, or the first of the second.
    cases rest with
    | nil =>
        rw [List.append_nil] at hlines
        rw [List.nil_append] at hafter
        have hs' := h' [] l after hafter.symm s hs
        rwa [List.filterMap_nil, List.append_nil, hlines] at hs'
    | cons first rest =>
        obtain ⟨rfl, -⟩ := List.cons.inj hafter
        exact h before l rest hlines s hs

theorem mono {known known' : List Symbol} {lines : List Line} (hknown : known ⊆ known')
    (h : DeclaredBefore known lines) : DeclaredBefore known' lines := by
  intro before l after hlines s hs
  rcases List.mem_append.mp (h before l after hlines s hs) with hmem | hmem
  · exact List.mem_append_left _ (hknown hmem)
  · exact List.mem_append_right _ hmem

/-- Parts that need nothing of one another may stand in any number after one another. -/
theorem flatMap {α : Type} {known : List Symbol} {f : α → List Line} {as : List α}
    (h : ∀ a ∈ as, DeclaredBefore known (f a)) : DeclaredBefore known (as.flatMap f) := by
  induction as with
  | nil => exact of_usesOnly (by simp [UsesOnly])
  | cons a as ih =>
      rw [List.forall_mem_cons] at h
      rw [List.flatMap_cons]
      exact h.1.append ((ih h.2).mono (List.subset_append_left _ _))

end DeclaredBefore

section
variable {known : List Symbol}

end

section
variable (format : Format)

end

end Header
end RegisterMap
