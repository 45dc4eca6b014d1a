-- SUMMARY: YAML nodes: building the tree of one document from its tokens.
import AgentGovernance.Yaml.Token

/-!
# Nodes

A document is a tree of scalars, sequences and mappings. Anchors are numbered in the order in which
they appear, and an alias refers to the number that its name has at that point. The number of an
anchor is the count of names known so far, so a name that is used again can share the number of the
next new one; the node that carries a number last is the one that its aliases mean.
-/

namespace AgentGovernance.Yaml

/-- A node of a document. -/
inductive Node where
  | scalar (anchor : Option Nat) (tag : Option String) (text : String) (plain : Bool)
  | sequence (anchor : Option Nat) (items : List Node)
  | mapping (anchor : Option Nat) (entries : List (Node × Node))
  | alias (number : Nat)
  deriving Inhabited

/-- The scalar that stands where a node is missing. -/
def Node.missing : Node := .scalar none none "" true

/-! ## Reading tokens -/

/-- The tokens that are left and the anchors met so far. -/
structure Build where
  tokens : List Token
  /-- Numbers of anchors by name. -/
  anchors : List (String × Nat) := []
  /-- Meanings of tag handles. -/
  handles : List (String × String) := []

/-- A step in building a tree, which may fail. -/
abbrev BuildM := StateT Build Option

namespace BuildM

/-- The next token. -/
def peek : BuildM (Option Token) := do return (← get).tokens.head?

/-- Passes over the next token. -/
def skip : BuildM Unit := modify fun b => { b with tokens := b.tokens.tail }

/-- Whether the next token is the given one. -/
def sees (t : Token) : BuildM Bool := do return (← peek) == some t

/-- Whether the next token is one of those given, or there is none. -/
def seesAny (ts : List Token) : BuildM Bool := do
  return match ← peek with
    | some t => ts.contains t
    | none => true

/-- Passes over the next token if it is the given one. -/
def accept (t : Token) : BuildM Bool := do
  if ← sees t then
    skip
    return true
  return false

/-- The number for an anchor with this name. -/
def number (name : String) : BuildM Nat := do
  let b ← get
  let n := b.anchors.length
  let known := b.anchors.any fun a => a.1 == name
  let anchors := if known then b.anchors.map fun a => if a.1 == name then (name, n) else a
    else b.anchors ++ [(name, n)]
  set { b with anchors }
  return n

/-- The number that an alias means. -/
def resolve (name : String) : BuildM Nat := do
  match (← get).anchors.lookup name with
  | some n => return n
  | none => failure

/-- The full text of a tag. -/
def expand (handle suffix : String) : BuildM String := do
  if handle.isEmpty then return suffix
  match (← get).handles.lookup handle with
  | some uri => return uri ++ suffix
  | none => failure

/-- An anchor, if one comes next. -/
def anchor? : BuildM (Option String) := do
  match ← peek with
  | some (.anchor name) => skip; return some name
  | _ => return none

/-- A tag, if one comes next. -/
def tag? : BuildM (Option (String × String)) := do
  match ← peek with
  | some (.tag handle suffix) => skip; return some (handle, suffix)
  | _ => return none

/-- Anchor and tag in either order. -/
def properties : BuildM (Option String × Option String) := do
  let first ← anchor?
  let tag ← tag?
  let anchor ← if first.isSome then pure first else anchor?
  match tag with
  | some (handle, suffix) => return (anchor, some (← expand handle suffix))
  | none => return (anchor, none)

end BuildM

open BuildM

/-! ## Collections -/

mutual

/-- Reads a node. Blocks may start here if `block` holds, and a sequence whose dashes stand at the
column of its key if `level` holds. -/
def node (block level : Bool) : Nat → BuildM Node
  | 0 => failure
  | fuel + 1 => do
    if let some (.alias name) ← peek then
      skip
      return .alias (← resolve name)
    let (anchor, tag) ← properties
    let bare := anchor.isNone && tag.isNone
    let start ← peek
    if level && start == some .blockEntry then
      let n ← anchor.mapM number
      return .sequence n (← levelEntries fuel)
    match start with
    | some (.scalar text plain) =>
      skip
      let tag := if tag == some "!" then none else tag
      return .scalar (← anchor.mapM number) tag text plain
    | some .flowSequenceStart =>
      skip
      let n ← anchor.mapM number
      return .sequence n (← flowItems true fuel)
    | some .flowMappingStart =>
      skip
      let n ← anchor.mapM number
      return .mapping n (← flowEntries true fuel)
    | some .blockSequenceStart =>
      if block then
        skip
        let n ← anchor.mapM number
        return .sequence n (← blockItems fuel)
      else if bare then failure
      else return .scalar (← anchor.mapM number) tag "" true
    | some .blockMappingStart =>
      if block then
        skip
        let n ← anchor.mapM number
        return .mapping n (← blockEntries fuel)
      else if bare then failure
      else return .scalar (← anchor.mapM number) tag "" true
    | _ =>
      if bare then failure else return .scalar (← anchor.mapM number) tag "" true

/-- Reads a node unless one of the given tokens, which end it, comes first. -/
def nodeUnless (ends : List Token) (block level : Bool) : Nat → BuildM Node
  | 0 => failure
  | fuel + 1 => do
    if ← seesAny ends then return .missing
    node block level fuel

/-- The entries of a block sequence. -/
def blockItems : Nat → BuildM (List Node)
  | 0 => failure
  | fuel + 1 => do
    if ← accept .blockEntry then
      let item ← nodeUnless [.blockEntry, .blockEnd] true false fuel
      return item :: (← blockItems fuel)
    else if ← accept .blockEnd then return []
    else failure

/-- The entries of a sequence whose dashes stand at the column of its key. -/
def levelEntries : Nat → BuildM (List Node)
  | 0 => failure
  | fuel + 1 => do
    if ← accept .blockEntry then
      let item ← nodeUnless [.blockEntry, .key, .value, .blockEnd] true false fuel
      return item :: (← levelEntries fuel)
    else return []

/-- The entries of a block mapping. -/
def blockEntries : Nat → BuildM (List (Node × Node))
  | 0 => failure
  | fuel + 1 => do
    if ← accept .key then
      let k ← nodeUnless [.key, .value, .blockEnd] true true fuel
      let v ← if ← accept .value then nodeUnless [.key, .value, .blockEnd] true true fuel
        else pure .missing
      return (k, v) :: (← blockEntries fuel)
    else if ← accept .blockEnd then return []
    else failure

/-- The items of a sequence in brackets. A comma stands before every item but the first. -/
def flowItems (first : Bool) : Nat → BuildM (List Node)
  | 0 => failure
  | fuel + 1 => do
    if ← accept .flowSequenceEnd then return []
    if !first && !(← accept .flowEntry) then failure
    if ← accept .key then
      let pair ← flowPair fuel
      return .mapping none [pair] :: (← flowItems false fuel)
    else if ← accept .flowSequenceEnd then return []
    else
      let item ← node false false fuel
      return item :: (← flowItems false fuel)

/-- A single pair inside a sequence in brackets, behind its key mark. Where the key is missing, the
token in its place is passed over. -/
def flowPair : Nat → BuildM (Node × Node)
  | 0 => failure
  | fuel + 1 => do
    let k ← if ← seesAny [.value, .flowEntry, .flowSequenceEnd] then
        skip
        pure .missing
      else node false false fuel
    let v ← if ← accept .value then nodeUnless [.flowEntry, .flowSequenceEnd] false false fuel
      else pure .missing
    return (k, v)

/-- The entries of a mapping in braces. A comma stands before every entry but the first. -/
def flowEntries (first : Bool) : Nat → BuildM (List (Node × Node))
  | 0 => failure
  | fuel + 1 => do
    if ← accept .flowMappingEnd then return []
    if !first && !(← accept .flowEntry) then failure
    if ← accept .key then
      let k ← nodeUnless [.value, .flowEntry, .flowMappingEnd] false false fuel
      let v ← if ← accept .value then nodeUnless [.flowEntry, .flowMappingEnd] false false fuel
        else pure .missing
      return (k, v) :: (← flowEntries false fuel)
    else if ← accept .flowMappingEnd then return []
    else
      let k ← node false false fuel
      return (k, .missing) :: (← flowEntries false fuel)

end

/-! ## Documents -/

/-- Reads the directives before a document: at most one version, and at most one meaning for each
handle. -/
def directives (version : Bool) (handles : List (String × String)) :
    List Token → Option (Bool × List (String × String) × List Token)
  | .versionDirective major minor :: rest =>
    if version || major != 1 || !(minor == 1 || minor == 2) then none
    else directives true handles rest
  | .tagDirective handle uri :: rest =>
    if handles.any fun h => h.1 == handle then none
    else directives version (handles ++ [(handle, uri)]) rest
  | rest => some (version || !handles.isEmpty, handles, rest)

/-- Meanings of the handles that need no directive. -/
def knownHandles : List (String × String) := [("!", "!"), ("!!", "tag:yaml.org,2002:")]

/-- Whether only marks for the end of a document are left. -/
def nothingLeft (ts : List Token) : Bool := ts.all (· == .documentEnd)

/-- Builds the only document of a text from its tokens; nothing if the text has no document. -/
def document? (ts : List Token) : Option (Option Node) := do
  let (directed, handles, rest) ← directives false [] ts
  let handles := handles ++ knownHandles
  let fuel := 4 * ts.length + 4
  match rest with
  | [] => if directed then none else return none
  | .documentStart :: body =>
    match body with
    | [] => return some .missing
    | .documentEnd :: after => if nothingLeft after then return some .missing else none
    | _ =>
      let (root, b) ← (node true false fuel).run { tokens := body, handles }
      if nothingLeft b.tokens then return some root else none
  | _ =>
    if directed then none
    else
      let (root, b) ← (node true false fuel).run { tokens := rest, handles }
      if nothingLeft b.tokens then return some root else none

end AgentGovernance.Yaml
