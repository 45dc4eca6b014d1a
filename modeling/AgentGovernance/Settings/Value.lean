-- SUMMARY: Values of settings from files and variables, and the lenient conversions between them.
import AgentGovernance.Number.Shortest
import AgentGovernance.Text.Lowercase
import AgentGovernance.Toml.Document

/-!
# Setting values

What a source says about a setting. A setting is read leniently: numbers, truth values and texts
turn into one another where that makes sense. Names are compared in small letters, so they are kept
that way. A record is a table, or a list of its values in order.
-/

namespace AgentGovernance

/-- The value of a setting. -/
inductive Setting where
  | unset
  | bool (value : Bool)
  | integer (value : Int)
  | float (value : Double)
  | text (value : String)
  | list (items : List Setting)
  | table (entries : List (String × Setting))
  deriving Inhabited

namespace Setting

/-- A text in small letters. -/
def lowered (s : String) : String := String.ofList (Text.lowercase s.toList)

/-- Puts an entry in the place of the one with its name, or behind all others. -/
def putEntry (name : String) (value : Setting) : List (String × Setting) → List (String × Setting)
  | [] => [(name, value)]
  | (k, v) :: rest => if k == name then (k, value) :: rest else (k, v) :: putEntry name value rest

mutual

/-- The value that a document gives. Names are put into small letters. -/
def ofToml : Toml → Setting
  | .string s => .text s
  | .integer n => .integer n
  | .float d => .float d
  | .bool b => .bool b
  | .moment normal => .text normal
  | .array items => .list (ofTomlItems items)
  | .table entries => .table (ofTomlEntries entries)

/-- The values of the items of an array. -/
def ofTomlItems : List Toml → List Setting
  | [] => []
  | t :: ts => ofToml t :: ofTomlItems ts

/-- The entries of a table. -/
def ofTomlEntries : List (String × Toml) → List (String × Setting)
  | [] => []
  | (k, t) :: rest => putEntry (lowered k) (ofToml t) (ofTomlEntries rest)

end

/-! ## Scalars -/

/-- The truth value that a word stands for. -/
def truthWord? (s : String) : Option Bool :=
  let word := lowered s
  if ["true", "on", "yes"].contains word then some true
  else if ["false", "off", "no"].contains word then some false
  else none

/-- A truth value. A number is true unless it is zero. -/
def asBool? : Setting → Option Bool
  | .bool b => some b
  | .integer n => some (n != 0)
  | .float d => some (!d.isZero)
  | .text s =>
    if s == "1" then some true else if s == "0" then some false else truthWord? s
  | _ => none

/-- A natural number in decimal digits, with or without a plus. -/
def natural? (s : String) : Option Nat :=
  let ds := match s.toList with
    | '+' :: rest => rest
    | cs => cs
  if ds.isEmpty || !ds.all Char.isDigit then none else some (digitsValue ds)

/-- A natural number of 64 bits. Floats are rounded and bounded; truth values count as one and
zero. -/
def asNat? : Setting → Option Nat
  | .bool b => some (if b then 1 else 0)
  | .integer n => if 0 ≤ n && n < (Nat.pow 2 64 : Int) then some n.toNat else none
  | .float d => some (d.toNatBelow (Nat.pow 2 64))
  | .text s => match truthWord? s with
    | some b => some (if b then 1 else 0)
    | none => (natural? s).filter (· < Nat.pow 2 64)
  | _ => none

/-- A text. Scalars of other kinds are written out. -/
def asText? : Setting → Option String
  | .text s => some s
  | .bool b => some (if b then "true" else "false")
  | .integer n => some (toString n)
  | .float d => some d.text
  | _ => none

/-! ## Containers -/

/-- A list of values. -/
def asList? {α : Type} (decode : Setting → Option α) : Setting → Option (List α)
  | .list items => items.mapM decode
  | _ => none

/-- Nothing for a value that is unset. -/
def asOption? {α : Type} (decode : Setting → Option α) : Setting → Option (Option α)
  | .unset => some none
  | v => (decode v).map some

/-- One of several words in any letter case. A word may also stand as the only name of a table. -/
def asWord? {α : Type} (words : List (String × α)) : Setting → Option α
  | .text s => (words.find? fun w => lowered w.1 == lowered s).map (·.2)
  | .table [(k, _)] => (words.find? fun w => lowered w.1 == lowered k).map (·.2)
  | _ => none

/-- A table with any names. -/
def asEntries? {α : Type} (decode : Setting → Option α) : Setting → Option (List (String × α))
  | .table entries => entries.mapM fun (k, v) => do return (k, ← decode v)
  | _ => none

/-- The values of a record by field. -/
abbrev Fields := String → Option Setting

/-- A record with the given fields in order. Other names are passed over. -/
def asRecord? (names : List String) : Setting → Option Fields
  | .table entries => some fun name => entries.lookup name
  | .list items => some fun name => (names.zip items).lookup name
  | _ => none

/-- A field that must be given. -/
def Fields.required {α : Type} (fields : Fields) (name : String) (decode : Setting → Option α) :
    Option α := do
  decode (← fields name)

/-- A field with a default. -/
def Fields.withDefault {α : Type} (fields : Fields) (name : String) (default : α)
    (decode : Setting → Option α) : Option α :=
  match fields name with
  | some v => decode v
  | none => some default

end Setting

end AgentGovernance
