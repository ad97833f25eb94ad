import RegisterMap.Layout

/-!
# Events

What is worth telling while a description is read and a header written.  Events are part of the result;
who asks for the result decides which of them to show.
-/

namespace RegisterMap

/-- How much an event matters. -/
inductive Level where
  | debug
  | info
  | warn
deriving Repr, DecidableEq

namespace Level

/-- The name of a level. -/
def name : Level → String
  | debug => "DEBUG"
  | info => "INFO"
  | warn => "WARN"

/-- Levels in the order of what they matter. -/
def rank : Level → Nat
  | debug => 0
  | info => 1
  | warn => 2

end Level

/-- Something worth telling. -/
inductive Event where
  /-- An instance without an identifier is left out. -/
  | unidentified (href : Option String)
  /-- An instance that the selection does not admit is left out. -/
  | rejected (id : String)
  /-- A definition and its instances are read. -/
  | definition (name : String) (registers instances : Nat)
  /-- A device is read. -/
  | device (partNumber : String) (peripherals instances : Nat)
  /-- A layout is out of the ordinary. -/
  | layout (warning : LayoutWarning)
  /-- A header is written to a file. -/
  | written (path : String) (bytes : Nat)
deriving Repr, DecidableEq

namespace Event

/-- The level of an event. -/
def level : Event → Level
  | unidentified _ => .debug
  | rejected _ => .debug
  | definition .. => .debug
  | device .. => .info
  | layout _ => .warn
  | written .. => .info

/-- The part of the program that tells of the event. -/
def origin : Event → String
  | unidentified _ => "registers_generator::ingest"
  | rejected _ => "registers_generator::ingest"
  | definition .. => "registers_generator::ingest"
  | device .. => "registers_generator::ingest"
  | layout _ => "registers_generator::layout"
  | written .. => "regdef"

/-- An event in words. -/
def message : Event → String
  | unidentified href => "skipping instance without id (href: " ++ href.getD "<none>" ++ ")"
  | rejected id => s!"filtered out instance {id}"
  | definition name registers instances =>
    s!"{name}: {registers} register(s), {instances} instance(s)"
  | device partNumber peripherals instances =>
    s!"{partNumber}: {peripherals} peripheral definition(s), {instances} instance(s)"
  | layout warning => warning.message
  | written path bytes => s!"wrote {path} ({bytes} bytes)"

end Event
end RegisterMap
