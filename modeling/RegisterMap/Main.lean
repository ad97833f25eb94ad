import RegisterMap.Command.Run

/-!
# The command

The disk as a host, and the program run on it.  All documents that a description may need are read
beforehand; what the program makes of them is the same as on a file tree.
-/

namespace RegisterMap
namespace Disk

/-- The fault with that number.  Some calls give the number with the opposite sign. -/
def faultOf (code : UInt32) (text : String) : SystemFault :=
  .ofCode (if code.toNat < 0x80000000 then code.toNat else 0x100000000 - code.toNat) text

/-- The number and the words of an error. -/
def systemFault : IO.Error → SystemFault
  | .alreadyExists _ code text => faultOf code text
  | .otherError code text => faultOf code text
  | .resourceBusy code text => faultOf code text
  | .resourceVanished code text => faultOf code text
  | .unsupportedOperation code text => faultOf code text
  | .hardwareFault code text => faultOf code text
  | .unsatisfiedConstraints code text => faultOf code text
  | .illegalOperation code text => faultOf code text
  | .protocolError code text => faultOf code text
  | .timeExpired code text => faultOf code text
  | .interrupted _ code text => faultOf code text
  | .noFileOrDirectory _ code text => faultOf code text
  | .invalidArgument _ code text => faultOf code text
  | .permissionDenied _ code text => faultOf code text
  | .resourceExhausted _ code text => faultOf code text
  | .inappropriateType _ code text => faultOf code text
  | .noSuchThing _ code text => faultOf code text
  | .unexpectedEof => .other 0 "unexpected end of file"
  | .userError text => .other 0 text

/-- The result of an action, or why it failed. -/
def attempt {α : Type} (action : IO α) : IO (Except SystemFault α) := do
  try
    return .ok (← action)
  catch e =>
    return .error (systemFault e)

/-- The two paths lead to one file.  Two names of a file are told from two files by a lock: while one of
them holds it, the other cannot get it. -/
def sameFile (p q : Path) : IO Bool := do
  let first ← IO.FS.Handle.mk p.text .read
  let second ← IO.FS.Handle.mk q.text .read
  if (← IO.FS.realPath p.text) == (← IO.FS.realPath q.text) then return true
  -- Someone else may hold the lock, and then nothing can be told by it.
  if !(← first.tryLock) then return false
  let free ← second.tryLock
  first.unlock
  -- If a third holds the lock, the second cannot get it now either.
  return !free && (← second.tryLock)

/-- What is known about a path: the text there, and the first path that leads to the same file. -/
structure Known where
  path : Path
  text : Except SystemFault String
  first : Path

/-- Finds out about a path, after others. -/
def look (known : List Known) (path : Path) : IO (List Known) := do
  match FileTree.checkPath path with
  | .error fault => return known ++ [⟨path, .error fault, path⟩]
  | .ok () =>
    let text ← attempt (IO.FS.readFile path.text)
    let same ← known.findM? fun k => return (← attempt (sameFile k.path path)).toOption.getD false
    return known ++ [⟨path, text, (same.map (·.first)).getD path⟩]

/-- What is known as a source of documents. -/
def sourceOf (known : List Known) : Source where
  read p :=
    match known.find? (·.path == p) with
    | some k => k.text.mapError .system
    | none => .error (.unknown p)
  same p q :=
    p.agree q ||
      match known.find? (·.path == p), known.find? (·.path == q) with
      | some k, some l => k.first == l.first
      | _, _ => false

/-- The document at a path and those that it refers to. -/
def source (path : Path) : IO Source := do
  let top ← look [] path
  match (sourceOf top).load path with
  | .error _ => return sourceOf top
  | .ok root => return sourceOf (← (Description.mentions path root).eraseDups.foldlM look top)

/-- A name for a temporary file. -/
def temporaryName : IO String := do
  let letters := "abcdefghijklmnopqrstuvwxyz0123456789".toList
  let mut name := ".tmp"
  for _ in [0:6] do
    name := name.push (letters.getD (← IO.rand 0 (letters.length - 1)) 'x')
  return name

/-- A temporary file that is open for writing. -/
structure Temporary where
  path : Path
  handle : IO.FS.Handle

/-- Creates a temporary file in the directory that the file at a path is to be written in. -/
def createTemporary (p : Path) : IO (Except SystemFault Temporary) := do
  let path := FileTree.besidePath ⟨toString (← IO.currentDir)⟩ p (← temporaryName)
  let handle ← attempt (IO.FS.Handle.mk path.text .writeNew)
  return handle.map fun handle => ⟨path, handle⟩

/-- The disk as a host. -/
def host : Host IO Temporary where
  source := source
  create := createTemporary
  fill temporary text := attempt do
    temporary.handle.putStr text
    temporary.handle.flush
  rename temporary p := attempt (IO.FS.rename temporary.path.text p.text)
  remove temporary := do
    let _ ← attempt (IO.FS.removeFile temporary.path.text)

end Disk
end RegisterMap

open RegisterMap in
/-- Runs the program. -/
def main (arguments : List String) : IO UInt32 := do
  let reply ← Command.program Disk.host arguments
  IO.print reply.stdout
  IO.eprint reply.stderr
  return reply.exit.toUInt32
