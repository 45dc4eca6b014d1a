-- SUMMARY: TOML values, and tables under construction with the rules on what may be defined twice.
import AgentGovernance.Number.Double

/-!
# TOML values

A document is a table of values. While it is read, each table remembers how it came to be, because
that decides what a later line may add to it:

* a table *declared* by a header is closed to headers of the same name and to dotted keys,
* a table *implied* by a longer header can still be declared,
* a table made by *dotted* keys grows by more dotted keys only.
-/

namespace AgentGovernance

/-- A TOML value. Dates and times are kept as text in normal form. -/
inductive Toml where
  | string (value : String)
  | integer (value : Int)
  | float (value : Double)
  | bool (value : Bool)
  | moment (normal : String)
  | array (items : List Toml)
  | table (entries : List (String × Toml))
  deriving Inhabited

namespace Toml

/-- How a table came to be. -/
inductive Origin where
  | declared
  | implied
  | dotted
  deriving DecidableEq, Repr

/-- An entry of a table under construction. -/
inductive Entry where
  | value (v : Toml)
  | table (origin : Origin) (entries : List (String × Entry))
  | tables (items : List (List (String × Entry)))
  deriving Inhabited

/-- The entries of a table under construction. -/
abbrev Entries := List (String × Entry)

mutual

/-- The value of a finished entry. -/
def Entry.toToml : Entry → Toml
  | .value v => v
  | .table _ entries => .table (finished entries)
  | .tables items => .array (finishedTables items)

/-- The values of finished entries. -/
def finished : List (String × Entry) → List (String × Toml)
  | [] => []
  | (k, e) :: rest => (k, e.toToml) :: finished rest

/-- The values of a list of finished tables. -/
def finishedTables : List (List (String × Entry)) → List Toml
  | [] => []
  | t :: rest => .table (finished t) :: finishedTables rest

end

/-! ## Adding to a document -/

/-- Puts an entry in the place of the one with its name, or behind all others. -/
def Entries.put (name : String) (entry : Entry) : Entries → Entries
  | [] => [(name, entry)]
  | (k, e) :: rest => if k == name then (k, entry) :: rest else (k, e) :: Entries.put name entry rest

/-- Changes the table at a path. Tables on the way that do not exist yet get the origin `fresh`; an
array of tables is entered at its last table; a dotted path does not enter a declared table. -/
def within (fresh : Origin) (change : Origin → Entries → Option Entries) :
    List String → Origin → Entries → Option Entries
  | [], origin, entries => change origin entries
  | k :: ks, _, entries =>
    match entries.lookup k with
    | none => do
      let inner ← within fresh change ks fresh []
      return entries.put k (.table fresh inner)
    | some (.value _) => none
    | some (.tables items) => do
      let last ← items.getLast?
      let inner ← within fresh change ks .declared last
      return entries.put k (.tables (items.dropLast ++ [inner]))
    | some (.table origin inner) =>
      if fresh == .dotted && origin == .declared then none
      else do
        let inner ← within fresh change ks origin inner
        return entries.put k (.table origin inner)

/-- A path split before its last name. -/
def splitLast? : List String → Option (List String × String)
  | [] => none
  | k :: ks => some ((k :: ks).dropLast, (k :: ks).getLast (List.cons_ne_nil k ks))

/-- Gives a new name a value. A name behind others must stand in a table made by dotted keys. -/
def assign (path : List String) (v : Toml) (origin : Origin) (entries : Entries) :
    Option Entries := do
  let (ahead, name) ← splitLast? path
  let add : Origin → Entries → Option Entries := fun o inner =>
    if (o == .dotted) == ahead.isEmpty then none
    else match inner.lookup name with
      | some _ => none
      | none => some (inner.put name (.value v))
  within .dotted add ahead origin entries

/-- Declares the table at a path. -/
def declare (path : List String) (entries : Entries) : Option Entries := do
  let (ahead, name) ← splitLast? path
  let add : Origin → Entries → Option Entries := fun _ inner =>
    match inner.lookup name with
    | none => some (inner.put name (.table .declared []))
    | some (.table .implied old) => some (inner.put name (.table .declared old))
    | some _ => none
  within .implied add ahead .declared entries

/-- Adds an empty table to the array of tables at a path. -/
def extend (path : List String) (entries : Entries) : Option Entries := do
  let (ahead, name) ← splitLast? path
  let add : Origin → Entries → Option Entries := fun _ inner =>
    match inner.lookup name with
    | none => some (inner.put name (.tables [[]]))
    | some (.tables items) => some (inner.put name (.tables (items ++ [[]])))
    | some _ => none
  within .implied add ahead .declared entries

/-- Gives a name a value inside the table at `header`. -/
def assignWithin (header path : List String) (v : Toml) (entries : Entries) : Option Entries :=
  within .implied (assign path v) header .declared entries

end Toml

end AgentGovernance
