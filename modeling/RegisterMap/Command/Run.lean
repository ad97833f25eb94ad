import RegisterMap.Command.Arguments
import RegisterMap.Description.Reading
import RegisterMap.FileTree

/-!
# Running the program

What a run does: it prints, it may write one file, and it ends with an exit code.  The code is zero for
success, one for a failure and two for a mistaken command line.  The program is the same on every host;
run on a file tree, it leaves a tree behind (`Outcome`).
-/

namespace RegisterMap
namespace Command

/-- What a run says.  The words about a mistaken command line are left out. -/
structure Reply where
  exit : Nat
  stdout : String
  stderr : String
deriving Repr, DecidableEq

/-- The least level that is shown. -/
def threshold (verbosity : Nat) : Level :=
  if verbosity = 0 then .warn else if verbosity = 1 then .info else .debug

/-- A text filled up with spaces to five characters. -/
def padLevel (s : String) : String :=
  s ++ String.ofList (List.replicate (5 - s.length) ' ')

/-- The line for an event. -/
def eventLine (event : Event) : String :=
  s!"{padLevel event.level.name} [{event.origin}] {event.message}\n"

/-- The lines for the events that are shown. -/
def report (verbosity : Nat) (events : List Event) : String :=
  String.join ((events.filter fun event =>
    decide ((threshold verbosity).rank ≤ event.level.rank)).map eventLine)

/-- The instances that the options leave in. -/
def Options.selection (options : Options) : Selection :=
  options.excluded.foldl Selection.excludeName .all

/-- The header that the options ask for. -/
def Options.header (options : Options) (source : Source) : Traced String :=
  generate source options.selection options.format options.description

/-- The file to write, if one is to be written. -/
def Options.target? (options : Options) : Option Path :=
  if options.check then none else options.output?

/-- The line that tells of a failure. -/
def failureLine (message : String) : String :=
  s!"Error: {message}\n"

/-- The line that tells the size of a header that is not written. -/
def checkLine (header : String) : String :=
  s!"Would generate {header.utf8ByteSize} bytes\n"

section

variable {m : Type → Type} {Temporary : Type} [Monad m]

/-- What is done with a header: it is written, or only its size is told. -/
def deliver (host : Host m Temporary) (options : Options) (log header : String) : m Reply :=
  match options.target? with
  | none => return ⟨0, log ++ checkLine header, ""⟩
  | some path => do
    match ← host.write path header with
    | .error fault => return ⟨1, log, failureLine fault.message⟩
    | .ok () =>
      return ⟨0, log ++ report options.verbosity [.written path.text header.utf8ByteSize], ""⟩

/-- Generates what the options ask for. -/
def execute (host : Host m Temporary) (options : Options) : m Reply := do
  let traced := options.header (← host.source options.description)
  let log := report options.verbosity traced.events
  match traced.result with
  -- What was noted up to the failure is still told.
  | .error failure => return ⟨1, log, failureLine failure.message⟩
  | .ok header => deliver host options log header

/-- The program. -/
def program (host : Host m Temporary) (arguments : List String) : m Reply :=
  match parseArguments arguments with
  -- Nothing is read or written for a mistaken command line.
  | .error _ => return ⟨2, "", ""⟩
  | .ok .help => return ⟨0, helpText, ""⟩
  | .ok .version => return ⟨0, versionText, ""⟩
  | .ok (.generate options) => execute host options

end

/-- What a run on a file tree leaves behind. -/
structure Outcome extends Reply where
  tree : FileTree
deriving Repr, DecidableEq

/-- What is left behind by an action on a file tree. -/
def Outcome.ofAction (tree : FileTree) (action : StateM FileTree Reply) : Outcome :=
  match action.run tree with
  | (reply, tree) => ⟨reply, tree⟩

/-- Runs the program on a file tree, where the system may refuse what the tree allows. -/
def runUnder (refusals : FileTree.Refusals) (tree : FileTree) (arguments : List String) : Outcome :=
  .ofAction tree (program (FileTree.host refusals) arguments)

/-- Runs the program on a file tree. -/
def run (tree : FileTree) (arguments : List String) : Outcome :=
  runUnder .none tree arguments

end Command
end RegisterMap
