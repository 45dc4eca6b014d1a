-- SUMMARY: An in-memory tree of files and directories, and the operations the library performs on one.
import AgentGovernance.Path

/-!
# File trees

A tree maps locations, lists of names from the root, to files with their bytes and to directories.
The root is always a directory. Operations take a path and the working directory it is relative to,
and fail for the reasons for which a system call would. A path is walked name by name: everything
but its last name has to be a directory that exists.
-/

namespace AgentGovernance

/-! ## Failures -/

/-- Why an operation on files failed. -/
inductive FileError where
  | notFound
  | permissionDenied
  | alreadyExists
  | notADirectory
  | isADirectory
  | nameTooLong
  | nulInName
  | notText
  deriving DecidableEq, Repr, Inhabited

/-- The system's wording of a failure. -/
def FileError.message : FileError → String
  | .notFound => "No such file or directory (os error 2)"
  | .permissionDenied => "Permission denied (os error 13)"
  | .alreadyExists => "File exists (os error 17)"
  | .notADirectory => "Not a directory (os error 20)"
  | .isADirectory => "Is a directory (os error 21)"
  | .nameTooLong => "File name too long (os error 36)"
  | .nulInName => "file name contained an unexpected NUL byte"
  | .notText => "stream did not contain valid UTF-8"

/-! ## Trees -/

/-- What a location holds. -/
inductive Node where
  | file (bytes : ByteArray)
  | directory
  deriving Inhabited

/-- Files are equal if their bytes are. -/
instance instDecidableEqNode : DecidableEq Node
  | .directory, .directory => isTrue rfl
  | .directory, .file _ => isFalse nofun
  | .file _, .directory => isFalse nofun
  | .file ⟨a⟩, .file ⟨b⟩ =>
    if h : a = b then isTrue (h ▸ rfl) else isFalse fun e => h (by injection e with e; injection e)

/-- A place in a tree: the names on the way from the root. -/
abbrev Place := List String

/-- Entries of one key do not matter to a look-up of another one. -/
theorem lookup_filter_ne {κ ν : Type} [BEq κ] [LawfulBEq κ] (entries : List (κ × ν)) {a b : κ}
    (h : b ≠ a) :
    (entries.filter fun e => e.1 != a).lookup b = entries.lookup b := by
  induction entries with
  | nil => rfl
  | cons e es ih =>
    by_cases hea : e.1 = a
    · have hb : (b == e.1) = false := by
        rw [hea]; exact beq_eq_false_iff_ne.2 h
      have ha : (e.1 != a) = false := by simp [hea]
      rw [List.filter_cons_of_neg (by simp [ha]), List.lookup_cons, hb]
      exact ih
    · have ha : (e.1 != a) = true := bne_iff_ne.2 hea
      rw [List.filter_cons_of_pos (by simp [ha]), List.lookup_cons, List.lookup_cons, ih]

/-- Files and directories by place. Of several entries for one place the first counts. -/
structure FileTree where
  entries : List (Place × Node)
  deriving Inhabited

namespace FileTree

/-- The tree with nothing but its root. -/
def empty : FileTree := ⟨[]⟩

/-- What stands at a place. -/
def node? (t : FileTree) (place : Place) : Option Node :=
  if place.isEmpty then some .directory else t.entries.lookup place

/-- Puts a node at a place. -/
def put (t : FileTree) (place : Place) (n : Node) : FileTree :=
  ⟨(place, n) :: t.entries.filter fun e => e.1 != place⟩

/-- Removes a place and everything below it. -/
def prune (t : FileTree) (place : Place) : FileTree :=
  ⟨t.entries.filter fun e => !place.isPrefixOf e.1⟩

def isDirectoryAt (t : FileTree) (place : Place) : Bool :=
  match t.node? place with
  | some .directory => true
  | _ => false

/-- The names directly below a place, sorted. -/
def namesAt (t : FileTree) (place : Place) : List String :=
  (t.entries.filterMap fun e =>
    if e.1.length == place.length + 1 && place.isPrefixOf e.1 then e.1.getLast? else none).mergeSort

theorem node?_put_self (t : FileTree) {place : Place} (h : place ≠ []) (n : Node) :
    (t.put place n).node? place = some n := by
  cases place with
  | nil => exact absurd rfl h
  | cons _ _ => simp [node?, put]

theorem node?_put_of_ne (t : FileTree) {a b : Place} (h : b ≠ a) (n : Node) :
    (t.put a n).node? b = t.node? b := by
  unfold node? put
  split
  · rfl
  · rw [List.lookup_cons, beq_eq_false_iff_ne.2 h]
    exact lookup_filter_ne t.entries h

/-! ## Walking a path -/

/-- The longest name, in bytes, that a directory takes. -/
def nameLimit : Nat := 255

/-- Follows components from a directory. All but the last have to lead to directories; the last may
lead to a place where nothing stands yet. -/
def walk (t : FileTree) : Place → List Component → Except FileError Place
  | place, [] => .ok place
  | _, .root :: cs => t.walk [] cs
  | place, .here :: cs => t.walk place cs
  | place, .up :: cs => t.walk place.dropLast cs
  | place, .name s :: cs =>
    if nameLimit < s.utf8ByteSize then .error .nameTooLong
    else
      let next := place ++ [s]
      if cs.isEmpty then .ok next
      else match t.node? next with
        | none => .error .notFound
        | some (.file _) => .error .notADirectory
        | some .directory => t.walk next cs

/-- Whether the text of a path insists on a directory. -/
def wantsDirectory (p : Path) : Bool :=
  match p.segments.getLast? with
  | some s => s.isEmpty || s == "."
  | none => false

/-- The place a path leads to. -/
def locate (t : FileTree) (cwd : Place) (p : Path) : Except FileError Place :=
  if p.isEmpty then .error .notFound
  else if p.text.toList.contains (Char.ofNat 0) then .error .nulInName
  else do
    let place ← t.walk cwd p.components
    if wantsDirectory p then
      match t.node? place with
      | some (.file _) => .error .notADirectory
      | _ => .ok place
    else .ok place

/-- The place and the node of a path that leads to something. -/
def find (t : FileTree) (cwd : Place) (p : Path) : Except FileError (Place × Node) := do
  let place ← t.locate cwd p
  match t.node? place with
  | some n => .ok (place, n)
  | none => .error .notFound

/-! ## Questions -/

def has (t : FileTree) (cwd : Place) (p : Path) : Bool := (t.find cwd p).isOk

def isDirectory (t : FileTree) (cwd : Place) (p : Path) : Bool :=
  match t.find cwd p with
  | .ok (_, .directory) => true
  | _ => false

/-- The bytes of a file. -/
def readBytes (t : FileTree) (cwd : Place) (p : Path) : Except FileError ByteArray := do
  match ← t.find cwd p with
  | (_, .file bytes) => .ok bytes
  | (_, .directory) => .error .isADirectory

/-- The text of a file whose bytes are UTF-8. -/
def readText (t : FileTree) (cwd : Place) (p : Path) : Except FileError String := do
  match String.fromUTF8? (← t.readBytes cwd p) with
  | some s => .ok s
  | none => .error .notText

/-- The absolute path without dots that leads to the same place. -/
def canonicalize (t : FileTree) (cwd : Place) (p : Path) : Except FileError Path := do
  return Path.ofNames (← t.find cwd p).1

/-- The sorted names in a directory. -/
def list (t : FileTree) (cwd : Place) (p : Path) : Except FileError (List String) := do
  match ← t.find cwd p with
  | (place, .directory) => .ok (t.namesAt place)
  | (_, .file _) => .error .notADirectory

/-! ## Changes -/

/-- Follows components from a directory and creates the directories that are missing. What was
created before a failure stays. -/
def createAlong (t : FileTree) : Place → List Component → FileTree × Except FileError Unit
  | _, [] => (t, .ok ())
  | _, .root :: cs => t.createAlong [] cs
  | place, .here :: cs => t.createAlong place cs
  | place, .up :: cs => t.createAlong place.dropLast cs
  | place, .name s :: cs =>
    if nameLimit < s.utf8ByteSize then (t, .error .nameTooLong)
    else
      let next := place ++ [s]
      match t.node? next with
      | some .directory => t.createAlong next cs
      | some (.file _) => (t, .error (if cs.isEmpty then .alreadyExists else .notADirectory))
      | none => (t.put next .directory).createAlong next cs

/-- Creates a directory together with the directories above it. -/
def createDirectories (t : FileTree) (cwd : Place) (p : Path) : FileTree × Except FileError Unit :=
  if p.isEmpty then (t, .ok ())
  else if p.text.toList.contains (Char.ofNat 0) then (t, .error .nulInName)
  else t.createAlong cwd p.components

/-- Where a file may be created or replaced: in a directory, and not where a directory stands. -/
def locateFile (t : FileTree) (cwd : Place) (p : Path) : Except FileError Place := do
  let place ← t.locate cwd p
  match t.node? place with
  | some .directory => .error .isADirectory
  | some (.file _) => .ok place
  | none => if wantsDirectory p then .error .isADirectory else .ok place

/-- Writes a file, replacing what it held. -/
def writeFile (t : FileTree) (cwd : Place) (p : Path) (bytes : ByteArray) :
    Except FileError FileTree := do
  return t.put (← t.locateFile cwd p) (.file bytes)

/-- Removes a file. -/
def removeFile (t : FileTree) (cwd : Place) (p : Path) : Except FileError FileTree := do
  match ← t.find cwd p with
  | (place, .file _) => .ok (t.prune place)
  | (_, .directory) => .error .isADirectory

end FileTree

end AgentGovernance
