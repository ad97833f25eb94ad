import RegisterMap.Device.Violation
import RegisterMap.Markup.Fault
import RegisterMap.Path
import RegisterMap.Text.Visible

/-!
# Faults and failures

A fault is one thing that is wrong with a description.  A failure is what ends the reading of a
description: a fault, or a document that cannot be read, together with where that happened.
-/

namespace RegisterMap

/-! ### Faults of the file system

What a file system answers when it cannot do what it is asked.
-/

/-- The reason why the file system refuses. -/
inductive SystemFault where
  | noEntry
  | busy
  | notDirectory
  | isDirectory
  | nameTooLong
  /-- A name holds the character that ends names. -/
  | nulInName
  | other (code : Nat) (text : String)
deriving Repr, DecidableEq

/-- The reason in words, with its number. -/
def SystemFault.message : SystemFault → String
  | noEntry => "No such file or directory (os error 2)"
  | busy => "Device or resource busy (os error 16)"
  | notDirectory => "Not a directory (os error 20)"
  | isDirectory => "Is a directory (os error 21)"
  | nameTooLong => "File name too long (os error 36)"
  | nulInName => "file name contained an unexpected NUL byte"
  | other code text => s!"{text} (os error {code})"

/-- The reason with that number; `text` puts it into words if it is none of those with a name here. -/
def SystemFault.ofCode (code : Nat) (text : String) : SystemFault :=
  match code with
  | 2 => noEntry
  | 16 => busy
  | 20 => notDirectory
  | 21 => isDirectory
  | 36 => nameTooLong
  | _ => other code text

/-! ### Faults of a description -/

/-- Attributes that say one thing twice, and not the same. -/
inductive Mismatch where
  /-- The first bit, the last bit and the width of a field. -/
  | bits (first width last : Int) (owner : String)
  /-- The first address, the last address and the size of an instance. -/
  | addresses (first last size : Int) (owner : String)
deriving Repr, DecidableEq

/-- A mismatch in words. -/
def Mismatch.message : Mismatch → String
  | bits first width last owner =>
    s!"Mismatch between begin: {first}, width: {width}, and end: {last} in {owner}."
  | addresses first last size owner =>
    s!"Mismatch between start: {Numeral.hexPadded (Numeral.twosComplement 64 first)}, " ++
      s!"end: {Numeral.hexPadded (Numeral.twosComplement 128 last)}, " ++
      s!"and size: {Numeral.hex (Numeral.twosComplement 64 size)} in {owner}."

/-- What is wrong with a description. -/
inductive Fault where
  /-- An element lacks an attribute or a child. -/
  | missing (tag key : String)
  /-- A value cannot be read. -/
  | malformed (what value owner : String)
  /-- The model breaks a rule. -/
  | violation (violation : Violation)
  /-- Attributes contradict each other. -/
  | mismatch (mismatch : Mismatch)
deriving Repr, DecidableEq

/-- A fault in words. -/
def Fault.message : Fault → String
  | missing tag key => s!"missing \"{key}\" in <{tag}>"
  | malformed what value owner => s!"malformed {what} ({Text.quote value}) in {owner}"
  | violation v => v.message
  | mismatch m => m.message

/-! ### Failures -/

/-- Why a document is not to be had. -/
inductive ReadFault where
  /-- There is no document of that name. -/
  | unknown (path : Path)
  /-- The file system does not give it. -/
  | system (fault : SystemFault)
deriving Repr, DecidableEq

/-- The reason in words. -/
def ReadFault.message : ReadFault → String
  | unknown path => s!"{path.text} not found"
  | system f => f.message

/-- What went wrong in the end. -/
inductive Cause where
  | fault (fault : Fault)
  | unreadable (fault : ReadFault)
  | unparsable (fault : Markup.SyntaxFault)
deriving Repr, DecidableEq

/-- The cause in words. -/
def Cause.message : Cause → String
  | fault f => f.message
  | unreadable f => f.message
  | unparsable f => f.message

/-- What was under way when something went wrong. -/
inductive Context where
  | document (path : Path)
  | register (id : Option String)
  | placement (id : Option String)
  | reading (path : Path)
  | parsing (path : Path)
deriving Repr, DecidableEq

/-- The context in words. -/
def Context.message : Context → String
  | document path => s!"while processing {path.text}"
  | register id => "while processing register " ++ id.getD "<unnamed>"
  | placement id => "while processing instance " ++ id.getD "<unnamed>"
  | reading path => s!"failed to read {path.text}"
  | parsing path => s!"failed to parse {path.text}"

/-- A cause and its contexts, the widest first. -/
structure Failure where
  contexts : List Context
  cause : Cause
deriving Repr, DecidableEq

namespace Failure

/-- A failure by a fault, in no context yet. -/
def ofFault (fault : Fault) : Failure :=
  ⟨[], .fault fault⟩

/-- The failure seen from a wider context. -/
def within (context : Context) (failure : Failure) : Failure :=
  { failure with contexts := context :: failure.contexts }

/-- The contexts from the widest to the narrowest, then the cause. -/
def message (failure : Failure) : String :=
  String.intercalate ": " (failure.contexts.map Context.message ++ [failure.cause.message])

end Failure

end RegisterMap
