-- SUMMARY: Reading typed values out of JSON: scalars, lists, options, records and words.
import AgentGovernance.Json.Reader

/-!
# Typed reading

A record is read from an object, where unknown names are passed over and a known name may stand only
once, or from an array that lists its fields in order. `Record` keeps which of the two it was,
because a field that may be missing from an object need not be one that an array may leave out.
-/

namespace AgentGovernance.Json

/-! ## Scalars, options and lists -/

/-- A string. -/
def asString? : Json → Option String
  | .string s => some s
  | _ => none

/-- A truth value. -/
def asBool? : Json → Option Bool
  | .bool b => some b
  | _ => none

/-- A natural number below `bound`. -/
def asNatBelow? (bound : Nat) : Json → Option Nat
  | .integer i => if 0 ≤ i && i.toNat < bound then some i.toNat else none
  | _ => none

/-- A natural number of 64 bits. -/
def asNat? (j : Json) : Option Nat := asNatBelow? (Nat.pow 2 64) j

/-- Nothing for `null`, and otherwise a value. -/
def asOption? {α : Type} (decode : Json → Option α) : Json → Option (Option α)
  | .null => some none
  | j => (decode j).map some

/-- A list of values. -/
def asList? {α : Type} (decode : Json → Option α) : Json → Option (List α)
  | .array items => items.mapM decode
  | _ => none

/-- A pair, written as an array of two. -/
def asPair? {α β : Type} (first : Json → Option α) (second : Json → Option β) :
    Json → Option (α × β)
  | .array [a, b] => do return (← first a, ← second b)
  | _ => none

/-- A list of fields with any names; of fields with one name the last counts. -/
def asSortedFields? {α : Type} (decode : Json → Option α) : Json → Option (List (String × α))
  | .object fields => do
    let values ← fields.mapM fun (k, v) => return (k, ← decode v)
    return values.foldl (fun done (k, v) => insertField k v done) []
  | _ => none

/-- One of several words. A word may also stand as the only name of an object whose value is
`null`. -/
def asWord? {α : Type} (words : List (String × α)) : Json → Option α
  | .string s => words.lookup s
  | .object [(k, .null)] => words.lookup k
  | _ => none

/-! ## Records -/

/-- The values given for the fields of a record. -/
structure Record where
  /-- Values by field, in the record's order. -/
  values : List (String × Option Json)
  /-- Whether the record was written as an array. -/
  positional : Bool

/-- Sets the value of a known field; a second value is an error, an unknown name is passed over. -/
def Record.put (name : String) (value : Json) :
    List (String × Option Json) → Option (List (String × Option Json))
  | [] => some []
  | (k, old) :: rest =>
    if k == name then
      match old with
      | none => some ((k, some value) :: rest)
      | some _ => none
    else (Record.put name value rest).map ((k, old) :: ·)

/-- Reads the fields of a record with the given names in order. -/
def asRecord? (names : List String) : Json → Option Record
  | .object fields => do
    let start := names.map fun n => (n, (none : Option Json))
    let values ← fields.foldlM (fun acc (k, v) => Record.put k v acc) start
    return { values, positional := false }
  | .array items =>
    if names.length < items.length then none
    else
      let values := (names.zip (List.range names.length)).map fun (n, i) => (n, items[i]?)
      some { values, positional := true }
  | _ => none

namespace Record

/-- The value given for a field. -/
def value? (r : Record) (name : String) : Option Json :=
  (r.values.lookup name).bind id

/-- A field that must be given. -/
def required {α : Type} (r : Record) (name : String) (decode : Json → Option α) : Option α := do
  decode (← r.value? name)

/-- A field with a default. -/
def withDefault {α : Type} (r : Record) (name : String) (default : α) (decode : Json → Option α) :
    Option α :=
  match r.value? name with
  | some j => decode j
  | none => some default

/-- A field that may be `null` or missing. -/
def optional {α : Type} (r : Record) (name : String) (decode : Json → Option α) :
    Option (Option α) :=
  r.withDefault name none (asOption? decode)

/-- A field that may be `null`, and missing from an object but not from an array. -/
def nullable {α : Type} (r : Record) (name : String) (decode : Json → Option α) :
    Option (Option α) :=
  match r.value? name with
  | some j => asOption? decode j
  | none => if r.positional then none else some none

end Record

end AgentGovernance.Json
