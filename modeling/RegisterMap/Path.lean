import RegisterMap.Text.Pieces

/-!
# Paths

A path is kept as it is written; messages show it so.  Its components are what the text means: repeated
slashes and inner dots count for nothing, a slash at the front is the root, a dot at the front is the
current directory.

`Path.normalize` drops the current directory and folds a name with the `..` after it, without a look at
any file.  Two paths with one normal form name the same document.
-/

namespace RegisterMap

/-- A path as it is written. -/
structure Path where
  text : String
deriving Repr, DecidableEq

namespace Path

/-- One step of a path. -/
inductive Component where
  | root
  | current
  | parent
  | name (text : String)
deriving Repr, DecidableEq

/-- The stretches of a path between its slashes. -/
def segments (p : Path) : List (List Char) :=
  Text.pieces (· == '/') p.text.toList

/-- The step that a segment stands for behind the first one.  Nothing, and a dot, are no step. -/
def Component.ofSegment? : List Char → Option Component
  | [] => none
  | ['.'] => none
  | ['.', '.'] => some parent
  | segment => some (name (String.ofList segment))

/-- The steps of a path. -/
def components (p : Path) : List Component :=
  match p.segments with
  | [] => []
  | [[]] => []
  | [] :: rest => .root :: rest.filterMap Component.ofSegment?
  | ['.'] :: rest => .current :: rest.filterMap Component.ofSegment?
  | segments => segments.filterMap Component.ofSegment?

/-- The text of a step. -/
def Component.text : Component → String
  | root => ""
  | current => "."
  | parent => ".."
  | name text => text

/-- The path with those steps. -/
def ofComponents : List Component → Path
  | [.root] => ⟨"/"⟩
  | steps => ⟨String.intercalate "/" (steps.map Component.text)⟩

/-- One more step after those in `kept`, the last of which comes first. -/
def foldStep (kept : List Component) : Component → List Component
  | .current => kept
  | .parent =>
    match kept with
    | .name _ :: outer => outer
    -- The root is its own parent.
    | .root :: _ => kept
    -- There is nothing to take back, and where the path begins is not known.
    | _ => .parent :: kept
  | step => step :: kept

/-- The path without dots, and without a name that a `..` takes back. -/
def normalize (p : Path) : Path :=
  ofComponents (p.components.foldl foldStep []).reverse

/-- The path begins at the root. -/
def isAbsolute (p : Path) : Bool :=
  p.text.toList.head? == some '/'

/-- The path that `p` names when it is read from the directory `base`. -/
def join (base p : Path) : Path :=
  if p.isAbsolute || base.text == "" then p
  else if base.text.toList.getLast? == some '/' then ⟨base.text ++ p.text⟩
  else ⟨base.text ++ "/" ++ p.text⟩

/-- The segment takes a step. -/
def isStep (segment : List Char) : Bool :=
  segment != [] && segment != ['.']

/-- Segments without those at the end that take no step. -/
def dropIdle (segments : List (List Char)) : List (List Char) :=
  (segments.reverse.dropWhile (!isStep ·)).reverse

/-- Segments without the last one that takes a step, and without those around it that take none. -/
def dropStep (segments : List (List Char)) : List (List Char) :=
  dropIdle (dropIdle segments).dropLast

/-- The text of segments with slashes between them. -/
def ofSegments (segments : List (List Char)) : Path :=
  ⟨String.ofList (List.intercalate ['/'] segments)⟩

/-- The directory of a path, as it is written there.  The root and the empty path have none. -/
def parent? (p : Path) : Option Path :=
  match p.segments with
  | [] => none
  | [[]] => none
  | [] :: rest =>
    if (dropIdle rest).isEmpty then none
    else if (dropStep rest).isEmpty then some ⟨"/"⟩
    else some (ofSegments ([] :: dropStep rest))
  | ['.'] :: rest =>
    -- The dot in front is the step that is taken away.
    if (dropIdle rest).isEmpty then some ⟨""⟩
    else some (ofSegments (['.'] :: dropStep rest))
  | segments => some (ofSegments (dropStep segments))

end Path
end RegisterMap
