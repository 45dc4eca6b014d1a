-- SUMMARY: Laying one source of settings over another: merging, key paths and environment variables.
import AgentGovernance.Environment
import AgentGovernance.Settings.Value

/-!
# Layers

Later sources win. Tables are merged entry by entry; every other value, lists included, replaces
what was there. The outermost names of a source are key paths, such as `audit.high_threshold`.
-/

namespace AgentGovernance.Setting

/-- The entries of a table; every other value has none. -/
def entries : Setting → List (String × Setting)
  | .table es => es
  | _ => []

mutual

/-- The value at a place that held `old` after `new` was laid over it. -/
def overlay (old : Option Setting) : Setting → Setting
  | .table es => overlayEntries (old.getD (.table [])) es
  | v => v

/-- Lays entries over a value one by one. With at least one entry it becomes a table. -/
def overlayEntries (target : Setting) : List (String × Setting) → Setting
  | [] => target
  | (k, v) :: rest =>
    let es := target.entries
    overlayEntries (.table (putEntry k (overlay (es.lookup k) v) es)) rest

end

/-! ## Key paths -/

/-- One step of a key path. -/
inductive KeyStep where
  | name (n : String)
  | index (i : Nat)
  deriving DecidableEq, Repr

/-- Characters of names in key paths. -/
def isKeyChar (c : Char) : Bool := c.isAlphanum || c == '_' || c == '-' || c == ' '

/-- A name at the start of a text, and the rest. -/
def keyName? (cs : List Char) : Option (String × List Char) :=
  let n := cs.takeWhile isKeyChar
  if n.isEmpty then none else some (String.ofList n, cs.dropWhile isKeyChar)

/-- An index behind its opening bracket, with the closing one. -/
def keyIndex? (cs : List Char) : Option (Nat × List Char) :=
  let (ds, rest) := spanDigits (cs.dropWhile fun c => c == ' ' || c == '\t')
  match rest.dropWhile fun c => c == ' ' || c == '\t' with
  | ']' :: rest => if ds.isEmpty then none else some (digitsValue ds, rest)
  | _ => none

/-- The steps behind the first name of a key path. -/
def keySteps? : Nat → List Char → Option (List KeyStep)
  | _, [] => some []
  | 0, _ => none
  | n + 1, '.' :: cs => do
    let (name, rest) ← keyName? cs
    return .name name :: (← keySteps? n rest)
  | n + 1, '[' :: cs => do
    let (i, rest) ← keyIndex? cs
    return .index i :: (← keySteps? n rest)
  | _, _ => none

/-- The key path that a text spells. A text that spells none is a single name. -/
def keyPath (text : String) : List KeyStep :=
  let cs := text.toList
  let found : Option (List KeyStep) := do
    let (name, rest) ← keyName? cs
    return .name name :: (← keySteps? rest.length rest)
  found.getD [.name text]

/-- Lays a value over what stands at a path. Whatever is in the way of the path gives way; a list is
filled up to the index that the path asks for. -/
def assign (value : Setting) : List KeyStep → Option Setting → Setting
  | [], old => overlay old value
  | .name k :: rest, old =>
    let es := (old.getD .unset).entries
    .table (putEntry k (assign value rest (es.lookup k)) es)
  | .index i :: rest, old =>
    let items := match old with
      | some (.list items) => items
      | _ => []
    let filled := items ++ List.replicate (i + 1 - items.length) .unset
    let item := if rest.isEmpty then value else assign value rest filled[i]?
    .list (filled.set i item)

/-- Lays the entries of a source over the settings so far. -/
def layer (root : Setting) (source : List (String × Setting)) : Setting :=
  source.foldl (fun root (k, v) => assign v (keyPath k) (some root)) root

/-! ## Environment variables -/

/-- What the names of variables that hold settings start with, in small letters. -/
def variableMark : String := "warden__"

/-- Settings that a variable may list with commas between the items. -/
def listedSettings : List String := ["scope.globally_blocked"]

/-- Pairs of underscores read as points. -/
def pointed : List Char → List Char
  | '_' :: '_' :: rest => '.' :: pointed rest
  | c :: rest => c :: pointed rest
  | [] => []

/-- A text in pieces between commas. -/
def commaPieces (cs : List Char) : List String :=
  match cs with
  | [] => [""]
  | c :: rest =>
    if c == ',' then "" :: commaPieces rest
    else match commaPieces rest with
      | [] => [String.singleton c]
      | p :: ps => (String.singleton c ++ p) :: ps

/-- The value of a variable: a truth value, an integer, a float, a list where lists are expected, or
else a text. -/
def ofVariable (key value : String) : Setting :=
  let word := lowered value
  if word == "true" then .bool true
  else if word == "false" then .bool false
  else match (integer? value).filter fun n =>
      -(Nat.pow 2 63 : Int) ≤ n && n < (Nat.pow 2 63 : Int) with
    | some n => .integer n
    | none => match Double.read? value with
      | some d => .float d
      | none =>
        if listedSettings.contains key then .list ((commaPieces value.toList).map .text)
        else .text value

/-- The settings that the variables of an environment hold. -/
def ofEnvironment (env : Environment) : List (String × Setting) :=
  env.foldl (fun found (name, value) =>
    let name := lowered name
    if variableMark.toList.isPrefixOf name.toList then
      let key := String.ofList (pointed (name.toList.drop variableMark.length))
      putEntry key (ofVariable key value) found
    else found) []

end AgentGovernance.Setting
