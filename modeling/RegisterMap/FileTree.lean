import RegisterMap.Source

/-!
# File trees

What the program does with files: it reads them, it asks whether two paths lead to one file, and it
writes a file by way of a temporary one that is then renamed.  It asks its host for these actions only
(`Host`), and it is one and the same program on each host.

File trees are such a host: directories and files as the program finds and leaves them.  A path is walked
step by step from the root or the working directory, as it is written.  Two places hold one file if they
hold one identity; so links to a file are kept.

A tree does not show all that the system goes by.  What else it may refuse, for want of rights or of room,
is a parameter (`FileTree.Refusals`).  Left out are symbolic links to directories, links that lead
nowhere, and files whose bytes are not UTF-8.
-/

namespace RegisterMap

/-! ### Writing on any host -/

namespace FileTree

/-- The directory that a file at that path is written in. -/
def outputDirectory (p : Path) : Path :=
  match p.parent? with
  | some directory => if directory.text = "" then ⟨"."⟩ else directory
  | none => ⟨"."⟩

/-- How the names of temporary files begin; the last six characters stand for any. -/
def temporaryStem : String :=
  ".tmpXXXXXX"

/-- Why a file is not written. -/
inductive WriteFault where
  /-- The temporary file cannot be created in the directory. -/
  | temporary (directory : Path) (fault : SystemFault)
  /-- The text cannot be written into the temporary file in the directory. -/
  | filling (directory : Path) (fault : SystemFault)
  /-- The temporary file cannot be renamed. -/
  | rename (path : Path) (fault : SystemFault)
deriving Repr, DecidableEq

/-- The path of the temporary file in a directory, as messages show it. -/
def temporaryPath (directory : Path) : Path :=
  directory.join ⟨temporaryStem⟩

/-- The reason in words. -/
def WriteFault.message : WriteFault → String
  | temporary directory fault =>
    s!"failed to create temporary file in {directory.text}: {fault.message} at path " ++
      Text.quote (temporaryPath directory).text
  | filling directory fault =>
    s!"failed to write {(temporaryPath directory).text}: {fault.message} at path " ++
      Text.quote (temporaryPath directory).text
  | rename path fault =>
    s!"failed to write {path.text}: failed to persist temporary file: " ++
      s!"{fault.message}: {fault.message}"

end FileTree

/-- What the program runs on, by what it asks of it.  A `Temporary` is a file that has no name of its own
yet. -/
structure Host (m : Type → Type) (Temporary : Type) where
  /-- The document at a path and those that it refers to. -/
  source : Path → m Source
  /-- Creates an empty file in the directory that the file at a path is to be written in. -/
  create : Path → m (Except SystemFault Temporary)
  /-- Writes a text into the file. -/
  fill : Temporary → String → m (Except SystemFault Unit)
  /-- Gives the file its name, in place of what has that name. -/
  rename : Temporary → Path → m (Except SystemFault Unit)
  /-- Removes the file. -/
  remove : Temporary → m Unit

/-- Writes a file: first under a temporary name in its directory, then renamed.  The file at the path is
whole or untouched.  A temporary file that cannot be filled is removed; one that cannot be renamed stays. -/
def Host.write {m : Type → Type} {Temporary : Type} [Monad m] (host : Host m Temporary) (p : Path)
    (text : String) : m (Except FileTree.WriteFault Unit) := do
  match ← host.create p with
  | .error fault => return .error (.temporary (FileTree.outputDirectory p) fault)
  | .ok temporary =>
    match ← host.fill temporary text with
    | .error fault =>
      -- Nothing is left behind before the text is complete.
      host.remove temporary
      return .error (.filling (FileTree.outputDirectory p) fault)
    | .ok () =>
      match ← host.rename temporary p with
      | .error fault => return .error (.rename p fault)
      | .ok () => return .ok ()

/-! ### Trees -/

/-- A place in a file tree: the names on the way from the root. -/
abbrev Location :=
  List String

/-- What a place holds. -/
inductive Entry where
  | directory
  | file (identity : Nat) (text : String)
deriving Repr, DecidableEq

/-- Directories and files, and the directory that relative paths begin at. -/
structure FileTree where
  entries : List (Location × Entry)
  workingDirectory : Location
deriving Repr, DecidableEq

namespace FileTree

/-- What stands at a place.  The root is a directory. -/
def entry? (tree : FileTree) (location : Location) : Option Entry :=
  if location = [] then some .directory else tree.entries.lookup location

/-- The tree with an entry put at a place. -/
def put (tree : FileTree) (location : Location) (entry : Entry) : FileTree :=
  { tree with entries := (location, entry) :: tree.entries.filter (·.1 != location) }

/-- The tree without what stands at a place. -/
def remove (tree : FileTree) (location : Location) : FileTree :=
  { tree with entries := tree.entries.filter (·.1 != location) }

/-- The identity of an entry, if it is a file. -/
def identity? : Entry → Option Nat
  | .directory => none
  | .file identity _ => some identity

/-- An identity that no file of the tree has. -/
def freshIdentity (tree : FileTree) : Nat :=
  (tree.entries.filterMap fun (_, entry) => identity? entry).foldl max 0 + 1

/-- The tree with a directory at a place, and with those that lead to it. -/
def addDirectory (tree : FileTree) (location : Location) : FileTree :=
  (List.range location.length).foldl (fun tree n =>
    let outer := location.take (n + 1)
    if (tree.entry? outer).isSome then tree else tree.put outer .directory) tree

/-- The tree with a new file at a place. -/
def addFile (tree : FileTree) (location : Location) (text : String) : FileTree :=
  tree.put location (.file tree.freshIdentity text)

/-- A name has at most 255 bytes. -/
def maxNameSize : Nat :=
  255

/-- A path has fewer than 4096 bytes. -/
def pathSizeLimit : Nat :=
  4096

/-- One step of a walk: from a directory to what a segment of a path names there. -/
def step (tree : FileTree) (location : Location) (segment : List Char) :
    Except SystemFault Location :=
  match tree.entry? location with
  | none => .error .noEntry
  | some (.file _ _) => .error .notDirectory
  | some .directory =>
    -- The place is a directory, so that a slash after the name of a file has failed above.
    if segment = [] ∨ segment = ['.'] then .ok location
    -- The root holds itself.
    else if segment = ['.', '.'] then .ok location.dropLast
    else
      let name := String.ofList segment
      if maxNameSize < name.utf8ByteSize then .error .nameTooLong
      else if (tree.entry? (location ++ [name])).isSome then .ok (location ++ [name])
      else .error .noEntry

/-- A walk along the segments of a path. -/
def walk (tree : FileTree) (location : Location) :
    List (List Char) → Except SystemFault Location
  | [] => .ok location
  | segment :: rest => do
    walk tree (← tree.step location segment) rest

/-- The place that a path's first step is taken from. -/
def start (tree : FileTree) (p : Path) : Location :=
  if p.isAbsolute then [] else tree.workingDirectory

/-- A path that no walk can be made along. -/
def checkPath (p : Path) : Except SystemFault Unit :=
  if p.text = "" then .error .noEntry
  else if p.text.toList.contains '\x00' then .error .nulInName
  else if pathSizeLimit ≤ p.text.utf8ByteSize then .error .nameTooLong
  else .ok ()

/-- The place that a path leads to. -/
def locate (tree : FileTree) (p : Path) : Except SystemFault Location := do
  checkPath p
  tree.walk (tree.start p) p.segments

/-- The text of the file that a path leads to. -/
def read (tree : FileTree) (p : Path) : Except SystemFault String := do
  match tree.entry? (← tree.locate p) with
  | some (.file _ text) => .ok text
  | some .directory => .error .isDirectory
  | none => .error .noEntry

/-- The two places hold one file or are one directory. -/
def sameEntry (tree : FileTree) (a b : Location) : Bool :=
  match tree.entry? a, tree.entry? b with
  | some (.file i _), some (.file j _) => i == j
  | some .directory, some .directory => a == b
  | _, _ => false

/-- The two paths lead to one file or directory. -/
def sameFile (tree : FileTree) (p q : Path) : Bool :=
  match tree.locate p, tree.locate q with
  | .ok a, .ok b => tree.sameEntry a b
  | _, _ => false

/-- What the system refuses although the tree allows it, and why. -/
structure Refusals where
  /-- To open the file that a path leads to. -/
  read : Path → Option SystemFault
  /-- To create a file at a place. -/
  create : Location → Option SystemFault
  /-- To write a text into the file at a place. -/
  fill : Location → String → Option SystemFault
  /-- To move a file from one place to another. -/
  rename : Location → Location → Option SystemFault

/-- Nothing is refused that the tree allows. -/
def Refusals.none : Refusals :=
  ⟨fun _ => .none, fun _ => .none, fun _ _ => .none, fun _ _ => .none⟩

/-- A file tree as a source of documents.  Two paths name one document if they have one normal form or
lead to one file, which has to be opened for that. -/
def source (tree : FileTree) (refusals : Refusals) : Source where
  read p :=
    match refusals.read p with
    | some fault => .error (.system fault)
    | none => (tree.read p).mapError .system
  same p q :=
    -- Paths with one normal form are the same even if there is no file.
    p.agree q || ((refusals.read p).isNone && (refusals.read q).isNone && tree.sameFile p q)

/-- Files are created and found only in a directory. -/
def checkDirectory (tree : FileTree) (location : Location) : Except SystemFault Location :=
  match tree.entry? location with
  | some .directory => .ok location
  | _ => .error .notDirectory

/-- The directory in which a path's last step is taken, that step, and whether a slash follows it. -/
structure Target where
  directory : List (List Char)
  name : List Char
  slash : Bool
deriving Repr, DecidableEq

/-- The last step of a path.  The root has none. -/
def target? (p : Path) : Option Target :=
  match p.segments.reverse.dropWhile List.isEmpty with
  | [] => none
  | name :: outer => some ⟨outer.reverse, name, p.segments.getLast? == some []⟩

/-- The place that a file can be renamed to under that path.  It must not be a directory, and neither a
dot nor a slash may end the path. -/
def renameTarget (tree : FileTree) (p : Path) : Except SystemFault Location := do
  checkPath p
  match target? p with
  | none => .error .busy
  | some target =>
    -- The directory comes first: a path that leads nowhere is reported as such, whatever it ends in.
    let directory ← tree.checkDirectory (← tree.walk (tree.start p) target.directory)
    ensure (target.name ≠ ['.'] ∧ target.name ≠ ['.', '.']) .busy
    let name := String.ofList target.name
    ensure (name.utf8ByteSize ≤ maxNameSize) .nameTooLong
    ensure (target.slash = false) .notDirectory
    ensure (tree.entry? (directory ++ [name]) ≠ some .directory) .isDirectory
    return directory ++ [name]

/-- A name for a temporary file that the directory does not hold yet. -/
def temporaryName (tree : FileTree) (directory : Location) : String :=
  let names := (List.range (tree.entries.length + 1)).map fun n =>
    temporaryStem ++ String.ofList (List.replicate n 'X')
  -- One of the names is free, since there are more of them than entries.
  (names.find? fun name => (tree.entry? (directory ++ [name])).isNone).getD temporaryStem

/-- The working directory as a path. -/
def workingPath (tree : FileTree) : Path :=
  ⟨"/" ++ "/".intercalate tree.workingDirectory⟩

/-- The path, from the root on, of a file with that name in the directory that `p` is written in. -/
def besidePath (workingPath p : Path) (name : String) : Path :=
  (workingPath.join (outputDirectory p)).join ⟨name⟩

/-- The place of the directory in which the temporary file for a path is created.  The temporary file is
named by its path from the root on, and that must not be too long. -/
def temporaryDirectory (tree : FileTree) (p : Path) : Except SystemFault Location := do
  checkPath (besidePath tree.workingPath p temporaryStem)
  tree.checkDirectory (← tree.locate (outputDirectory p))

/-- Creates an empty file at a place that holds nothing. -/
def create (tree : FileTree) (refusals : Refusals) (location : Location) :
    Except SystemFault FileTree :=
  match refusals.create location with
  | some fault => .error fault
  | none => .ok (tree.addFile location "")

/-- Writes a text into a file that is at one place only. -/
def fill (tree : FileTree) (refusals : Refusals) (location : Location) (text : String) :
    Except SystemFault FileTree :=
  match refusals.fill location text with
  | some fault => .error fault
  | none =>
    match tree.entry? location with
    | some (.file identity _) => .ok (tree.put location (.file identity text))
    | some .directory => .error .isDirectory
    | none => .error .noEntry

/-- Moves a file from one place to another, where it takes the place of what is there.  A file that is
there already stays as it is. -/
def rename (tree : FileTree) (refusals : Refusals) (source target : Location) :
    Except SystemFault FileTree :=
  if source = target then .ok tree
  else
    match refusals.rename source target with
    | some fault => .error fault
    | none =>
      match tree.entry? source with
      | some entry => .ok ((tree.remove source).put target entry)
      | none => .error .noEntry

/-- A temporary file of a tree.  No path mentions its name, so that paths lead where they led before it was
created. -/
structure Temporary where
  place : Location
  /-- The tree without the file. -/
  before : FileTree

/-- Creates a temporary file in the directory that the file at a path is to be written in. -/
def createTemporary (tree : FileTree) (refusals : Refusals) (p : Path) :
    Except SystemFault (Temporary × FileTree) := do
  let directory ← tree.temporaryDirectory p
  let place := directory ++ [tree.temporaryName directory]
  return (⟨place, tree⟩, ← tree.create refusals place)

/-- What an action gives, and the tree after it; if it fails, the tree is as it was. -/
def attempt {α : Type} (action : FileTree → Except SystemFault (α × FileTree)) :
    StateM FileTree (Except SystemFault α) := fun tree =>
  match action tree with
  | .error fault => (.error fault, tree)
  | .ok (a, tree) => (.ok a, tree)

/-- File trees as a host. -/
def host (refusals : Refusals) : Host (StateM FileTree) Temporary where
  source _ := return (← get).source refusals
  create p := attempt fun tree => tree.createTemporary refusals p
  fill temporary text := attempt fun tree =>
    return ((), ← tree.fill refusals temporary.place text)
  rename temporary p := attempt fun tree =>
    -- The path is looked up in the tree without the temporary file, which no path is meant to find.
    return ((), ← temporary.before.renameTarget p >>= tree.rename refusals temporary.place)
  remove temporary := modify fun tree => tree.remove temporary.place

/-- Writes a file in a tree. -/
def write (tree : FileTree) (refusals : Refusals) (p : Path) (text : String) :
    FileTree × Except WriteFault Unit :=
  (((host refusals).write p text).run tree).swap

/-- The files of a tree that are not in an older one with the same text. -/
def changedSince (tree older : FileTree) : List (Location × String) :=
  tree.entries.filterMap fun (location, entry) =>
    match entry, older.entry? location with
    | .directory, _ => none
    | .file _ text, some (.file _ before) => if text = before then none else some (location, text)
    | .file _ text, _ => some (location, text)

end FileTree
end RegisterMap
