import RegisterMap.Header.Vocabulary
import RegisterMap.Numeral
import RegisterMap.Path

/-!
# Arguments

What a command line asks for, and what the program says about itself.  Arguments are read from left to
right, and the first one that decides something ends the reading: a mistake, or a request for help or for
the version.

A value stands after its option, or after an equals sign, or, with a one-letter option, right after the
letter.  One-letter options may be run together.  An argument that begins with a dash, and is not just a
dash, is never the value of the option before it.

A mistake is kept as what it is about; how it is put into words is left out.
-/

namespace RegisterMap
namespace Command

/-- The options without a value. -/
inductive Flag where
  | check
  | verbose
  | help
  | version
deriving Repr, DecidableEq

/-- The options with a value. -/
inductive Setting where
  | description
  | output
  | exclude
  | commentWidth
  | banner
deriving Repr, DecidableEq

/-- An option. -/
inductive Opt where
  | flag (flag : Flag)
  | setting (setting : Setting)
deriving Repr, DecidableEq

namespace Opt

/-- The option with that long name. -/
def ofName? (name : String) : Option Opt :=
  if name = "ti-xml" then some (.setting .description)
  else if name = "output" then some (.setting .output)
  else if name = "check" then some (.flag .check)
  else if name = "exclude" then some (.setting .exclude)
  else if name = "comment-width" then some (.setting .commentWidth)
  else if name = "banner" then some (.setting .banner)
  else if name = "verbose" then some (.flag .verbose)
  else if name = "help" then some (.flag .help)
  else if name = "version" then some (.flag .version)
  else none

/-- The option with that letter. -/
def ofLetter? (letter : Char) : Option Opt :=
  if letter = 'o' then some (.setting .output)
  else if letter = 'v' then some (.flag .verbose)
  else if letter = 'h' then some (.flag .help)
  else if letter = 'V' then some (.flag .version)
  else none

end Opt

/-- A mistake in a command line. -/
inductive UsageFault where
  | unexpected (argument : String)
  | missingValue (setting : Setting)
  | unwantedValue (flag : Flag) (value : String)
  | repeatedFlag (flag : Flag)
  | repeatedSetting (setting : Setting)
  | invalidValue (setting : Setting) (value : String)
  | noDescription
  | noOutput
deriving Repr, DecidableEq

/-- What has been asked for so far. -/
structure Draft where
  description? : Option Path
  output? : Option Path
  check : Bool
  excluded : List String
  commentWidth? : Option Nat
  banner : List String
  verbosity : Nat
deriving Repr, DecidableEq

/-- What is asked for: the header of a device, to be written or only to be checked. -/
structure Options where
  description : Path
  output? : Option Path
  check : Bool
  excluded : List String
  format : Header.Format
  verbosity : Nat
deriving Repr, DecidableEq

/-- What a command line comes to. -/
inductive Request where
  | help
  | version
  | generate (options : Options)
deriving Repr, DecidableEq

namespace Draft

/-- Nothing has been asked for. -/
def empty : Draft :=
  ⟨none, none, false, [], none, [], 0⟩

/-- Sets an option that takes a value.  Only names to leave out and banner lines may be given more than
once, and a path must not be empty. -/
def set (d : Draft) (setting : Setting) (value : String) : Except UsageFault Draft :=
  match setting with
  | .description =>
    if d.description?.isSome then .error (.repeatedSetting .description)
    else if value = "" then .error (.invalidValue .description value)
    else .ok { d with description? := some ⟨value⟩ }
  | .output =>
    if d.output?.isSome then .error (.repeatedSetting .output)
    else if value = "" then .error (.invalidValue .output value)
    else .ok { d with output? := some ⟨value⟩ }
  -- Any text is a name to leave out, even an empty one.
  | .exclude => .ok { d with excluded := d.excluded ++ [value] }
  | .commentWidth =>
    if d.commentWidth?.isSome then .error (.repeatedSetting .commentWidth)
    else
      match Numeral.unsigned? 10 64 value.toList with
      | some width => .ok { d with commentWidth? := some width }
      | none => .error (.invalidValue .commentWidth value)
  | .banner => .ok { d with banner := d.banner ++ [value] }

/-- Sets an option without a value, or ends the reading with what it asks for. -/
def raise (d : Draft) (flag : Flag) : Except UsageFault (Draft ⊕ Request) :=
  match flag with
  | .check =>
    if d.check then .error (.repeatedFlag .check) else .ok (.inl { d with check := true })
  | .verbose => .ok (.inl { d with verbosity := d.verbosity + 1 })
  | .help => .ok (.inr .help)
  | .version => .ok (.inr .version)

/-- The request, once all arguments are read.  A description is needed, and an output unless the header
is only to be checked. -/
def finish (d : Draft) : Except UsageFault Request :=
  match d.description? with
  | none => .error .noDescription
  | some description =>
    if d.output?.isNone && !d.check then .error .noOutput
    else
      .ok (.generate {
        description
        output? := d.output?
        check := d.check
        excluded := d.excluded
        format := ⟨d.commentWidth?.getD Header.Format.standard.commentWidth, d.banner⟩
        verbosity := d.verbosity })

end Draft

/-- The argument looks like an option: it begins with a dash and is not just a dash. -/
def isOption : List Char → Bool
  | '-' :: _ :: _ => true
  | _ => false

/-- The name of a long option, and the value after its equals sign. -/
def splitLong (cs : List Char) : String × Option String :=
  let name := cs.takeWhile (· != '=')
  match cs.dropWhile (· != '=') with
  | [] => (String.ofList name, none)
  | _ :: value => (String.ofList name, some (String.ofList value))

/-- The value that the rest of an argument gives to a one-letter option. -/
def attachedValue : List Char → String
  | '=' :: value => String.ofList value
  | value => String.ofList value

/-- What an argument comes to before any other is looked at. -/
inductive Step where
  /-- The argument is dealt with. -/
  | next (draft : Draft)
  /-- The next argument has to be the value of this option. -/
  | needs (draft : Draft) (setting : Setting)
  /-- The reading ends. -/
  | done (request : Request)
deriving Repr, DecidableEq

/-- Reads one-letter options that are run together. -/
def readLetters (d : Draft) : List Char → Except UsageFault Step
  | [] => .ok (.next d)
  | letter :: rest =>
    match Opt.ofLetter? letter with
    | none => .error (.unexpected (String.ofList ['-', letter]))
    | some (.setting setting) =>
      -- Whatever follows the letter is the value, be it the letter of another option.
      if rest.isEmpty then .ok (.needs d setting)
      else (d.set setting (attachedValue rest)).map .next
    | some (.flag flag) => do
      match ← d.raise flag with
      | .inl d => readLetters d rest
      | .inr request => return .done request

/-- Reads a long option. -/
def readLong (d : Draft) (cs : List Char) : Except UsageFault Step :=
  match splitLong cs with
  | (name, value?) =>
    match Opt.ofName? name, value? with
    -- The argument is shown as a whole, with its value.
    | none, _ => .error (.unexpected (String.ofList ('-' :: '-' :: cs)))
    | some (.setting setting), some value => (d.set setting value).map .next
    | some (.setting setting), none => .ok (.needs d setting)
    | some (.flag flag), some value => .error (.unwantedValue flag value)
    | some (.flag flag), none => do
      match ← d.raise flag with
      | .inl d => return .next d
      | .inr request => return .done request

/-- Reads one argument. -/
def readArgument (d : Draft) (argument : List Char) : Except UsageFault Step :=
  match argument with
  | '-' :: '-' :: cs => readLong d cs
  | '-' :: c :: cs => readLetters d (c :: cs)
  -- There are no arguments without an option, and a dash alone is not one.
  | _ => .error (.unexpected (String.ofList argument))

/-- Reads the arguments after those that make up the draft.  Two dashes alone end the options; nothing
may follow them. -/
def readArguments (d : Draft) : List String → Except UsageFault Request
  | [] => d.finish
  | argument :: rest =>
    if argument = "--" then
      match rest with
      | [] => d.finish
      | extra :: _ => .error (.unexpected extra)
    else
      match readArgument d argument.toList with
      | .error fault => .error fault
      -- The arguments after it are not looked at, mistaken or not.
      | .ok (.done request) => .ok request
      | .ok (.next d) => readArguments d rest
      | .ok (.needs d setting) =>
        match rest with
        | [] => .error (.missingValue setting)
        | value :: rest =>
          if isOption value.toList then .error (.missingValue setting)
          else
            match d.set setting value with
            | .error fault => .error fault
            | .ok d => readArguments d rest

/-- What a command line asks for. -/
def parseArguments (arguments : List String) : Except UsageFault Request :=
  readArguments .empty arguments

/-! ### Help -/

/-- What a command line looks like. -/
def usageLine : String :=
  "Usage: regdef [OPTIONS] <--ti-xml <FILE>>"

/-- The name and the number of this version. -/
def versionText : String :=
  "regdef 0.1.0\n"

/-- What the program does and what can be asked of it. -/
def helpText : String :=
  String.intercalate "\n" [
    "Generate a C register header from a device description",
    "",
    usageLine,
    "",
    "Options:",
    "      --ti-xml <FILE>      Top-level TI device XML",
    "  -o, --output <FILE>      Header file to write",
    "      --check              Generate without writing anything",
    "      --exclude <ID>       Skip the peripheral instance with this id (case-insensitive)",
    "      --comment-width <N>  Column at which comments are wrapped [default: 100]",
    "      --banner <TEXT>      Comment line placed at the top of the header",
    "  -v, --verbose...         Increase log output (-v info, -vv debug)",
    "  -h, --help               Print help",
    "  -V, --version            Print version",
    ""]

end Command
end RegisterMap
