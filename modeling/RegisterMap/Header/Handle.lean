import RegisterMap.Header.Vocabulary

/-!
# Handles

Constant pointers to the instances of a peripheral, and an array of them where the instances are
numbered.
-/

namespace RegisterMap
namespace Header

/-- A pointer to an instance. -/
structure Handle where
  name : String
  address : Nat
deriving Repr, DecidableEq

/-- An array of handles.  A slot without an instance is null. -/
structure HandleArray where
  name : String
  slots : List (Option String)
deriving Repr, DecidableEq

/-- All handles of a peripheral. -/
structure HandleBlock where
  /-- The comment lines before each declaration. -/
  comment : List String
  type : String
  handles : List Handle
  array? : Option HandleArray
deriving Repr, DecidableEq

/-- The handle of an instance. -/
def Handle.ofInstance (i : Instance) : Handle :=
  ⟨Text.upper i.name, i.address⟩

/-- The slots of an array, up to the largest index. -/
def HandleArray.slotsOf (instances : List Instance) (indices : List Nat) : List (Option String) :=
  (List.range (indices.foldl max 0 + 1)).map fun index =>
    (instances.find? fun i => i.index == some index).map fun i => Text.upper i.name

/-- The array of a peripheral's handles: there is one if it has several instances, all numbered. -/
def HandleArray.ofPeripheral? (p : Peripheral) : Option HandleArray :=
  match p.instances.mapM Instance.index with
  | none => none
  | some indices =>
    if 1 < indices.length then
      some ⟨Text.upper p.name, HandleArray.slotsOf p.instances indices⟩
    else
      none

namespace HandleBlock

/-- The handles of a peripheral. -/
def ofPeripheral (format : Format) (p : Peripheral) : HandleBlock where
  comment := Header.comment p.description "" format.commentWidth
  type := peripheralType p
  handles := p.instances.map Handle.ofInstance
  array? := HandleArray.ofPeripheral? p

/-- A handle in C. -/
def handleLines (b : HandleBlock) (h : Handle) : List String :=
  b.comment ++
    [s!"static volatile {b.type} *const {h.name} = " ++
      s!"(volatile {b.type} *){Numeral.hexPadded h.address};"]

/-- An array of handles in C. -/
def arrayLines (b : HandleBlock) (a : HandleArray) : List String :=
  b.comment ++ [s!"static volatile {b.type} *const {a.name}[{a.slots.length}] = \x7b"] ++
    a.slots.map (fun slot => "    " ++ slot.getD "NULL" ++ ",") ++ ["\x7d;"]

/-- The handles in C, and after them the array. -/
def blocks (b : HandleBlock) : List String :=
  joinLines (b.handles.flatMap b.handleLines) ::
    (b.array?.map fun a => joinLines (b.arrayLines a)).toList

end HandleBlock
end Header
end RegisterMap
