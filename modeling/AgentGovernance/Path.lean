-- SUMMARY: Slash-separated path texts: components, joining, parent, file name, stem and extension.

/-!
# Paths

A path is a text. Its components are the names between slashes; empty names count for nothing, and a
dot counts only at the start of a relative path. All questions about a path are asked of its
components, while joining and taking the parent keep the text as it was written.
-/

namespace AgentGovernance

/-- A path as it was written. -/
structure Path where
  text : String
  deriving DecidableEq, Inhabited, Repr

/-- A part of a path. -/
inductive Component where
  | root
  | here
  | up
  | name (text : String)
  deriving DecidableEq, Repr

namespace Path

/-- The empty path. -/
def empty : Path := ⟨""⟩

def isEmpty (p : Path) : Bool := p.text.isEmpty

/-- Whether the path starts at the root. -/
def isAbsolute (p : Path) : Bool := p.text.toList.head? == some '/'

/-! ## Segments and components -/

/-- The texts between slashes, empty ones included. `segment` is the one being read, reversed. -/
def splitSegments (segment : List Char) : List Char → List String
  | [] => [String.ofList segment.reverse]
  | '/' :: cs => String.ofList segment.reverse :: splitSegments [] cs
  | c :: cs => splitSegments (c :: segment) cs

/-- The texts between the slashes of a path, empty ones included. -/
def segments (p : Path) : List String := splitSegments [] p.text.toList

/-- The component of a segment that does not stand first. -/
def innerComponent? (s : String) : Option Component :=
  if s.isEmpty || s == "." then none
  else if s == ".." then some .up
  else some (.name s)

/-- The components of a path. -/
def components (p : Path) : List Component :=
  match p.segments with
  | [] => []
  | first :: rest =>
    let inner := rest.filterMap innerComponent?
    if first.isEmpty then
      if rest.isEmpty then [] else .root :: inner
    else if first == "." then .here :: inner
    else (innerComponent? first).toList ++ inner

/-- The names among the components. -/
def names (p : Path) : List String :=
  p.components.filterMap fun
    | .name s => some s
    | _ => none

/-! ## Parts -/

/-- Drops segments that stand for no component from the end; `first` marks the first segment of the
path, which always counts unless it is empty. -/
def dropIdle : List String → List String
  | [] => []
  | s :: before =>
    if before.isEmpty then s :: before
    else if s.isEmpty || s == "." then dropIdle before
    else s :: before

/-- The path that the given segments, last first, spell. -/
def ofReversedSegments : List String → Path
  | [] => ⟨""⟩
  | [""] => ⟨"/"⟩
  | segs => ⟨"/".intercalate segs.reverse⟩

/-- The path without its last component. -/
def parent? (p : Path) : Option Path :=
  match p.components.getLast? with
  | none => none
  | some .root => none
  | some _ =>
    match dropIdle p.segments.reverse with
    | [] => none
    | [_] => some ⟨""⟩
    | _ :: before => some (ofReversedSegments (dropIdle before))

/-- The last component, if it is a name. -/
def fileName? (p : Path) : Option String :=
  match p.components.getLast? with
  | some (.name s) => some s
  | _ => none

/-- Splits a name at its last dot. A dot in front does not count. -/
def splitExtension (name : String) : String × Option String :=
  let reversed := name.toList.reverse
  let after := reversed.takeWhile (· != '.')
  match reversed.dropWhile (· != '.') with
  | [] => (name, none)
  | [_] => (name, none)
  | _ :: before => (String.ofList before.reverse, some (String.ofList after.reverse))

/-- The file name up to its last dot. -/
def stem? (p : Path) : Option String := p.fileName?.map fun n => (splitExtension n).1

/-- The file name behind its last dot. -/
def extension? (p : Path) : Option String := p.fileName?.bind fun n => (splitExtension n).2

/-- The path `q` taken from `p`. An absolute `q` replaces `p`. -/
def join (p : Path) (q : String) : Path :=
  if (Path.mk q).isAbsolute then ⟨q⟩
  else if p.text.isEmpty || p.text.toList.getLast? == some '/' then ⟨p.text ++ q⟩
  else ⟨p.text ++ "/" ++ q⟩

/-- The absolute path of the given names. -/
def ofNames (names : List String) : Path :=
  if names.isEmpty then ⟨"/"⟩ else ⟨"/" ++ "/".intercalate names⟩

end Path

/-! ## Order -/

/-- Rank of the kinds of component in the order of paths. -/
def Component.rank : Component → Nat
  | .root => 1
  | .here => 2
  | .up => 3
  | .name _ => 4

/-- Order of components: by kind, and names by their text. -/
def Component.compare : Component → Component → Ordering
  | .name a, .name b => Ord.compare a b
  | a, b => Ord.compare a.rank b.rank

/-- Lexicographic order of lists. -/
def compareLists {α : Type} (cmp : α → α → Ordering) : List α → List α → Ordering
  | [], [] => .eq
  | [], _ :: _ => .lt
  | _ :: _, [] => .gt
  | a :: as, b :: bs => match cmp a b with
    | .eq => compareLists cmp as bs
    | o => o

/-- Paths are ordered by their components. -/
def Path.compare (p q : Path) : Ordering :=
  compareLists Component.compare p.components q.components

/-- Whether one path does not come after another. -/
def Path.le (p q : Path) : Bool := p.compare q != .gt

end AgentGovernance
