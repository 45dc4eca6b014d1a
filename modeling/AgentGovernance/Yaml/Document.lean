-- SUMMARY: Reading texts, lists and records out of a YAML document.
import AgentGovernance.Yaml.Node

/-!
# Documents

Reading is by the type that is wanted, not by the look of a scalar: a text keeps the spelling it has
in the document, whatever it looks like. An empty place reads as the empty list or the empty record,
and a place that may be empty also takes the usual spellings of null. Names of a record that nobody
asks for are passed over, and a name that is asked for may stand only once.
-/

namespace AgentGovernance.Yaml

mutual

/-- The numbered nodes of a tree, in the order in which they start. -/
def Node.anchored : Node → List (Nat × Node)
  | .scalar (some n) tag text plain => [(n, .scalar (some n) tag text plain)]
  | .sequence n items => n.toList.map (·, .sequence n items) ++ anchoredItems items
  | .mapping n entries => n.toList.map (·, .mapping n entries) ++ anchoredEntries entries
  | _ => []

/-- The numbered nodes in a list of nodes. -/
def anchoredItems : List Node → List (Nat × Node)
  | [] => []
  | n :: ns => n.anchored ++ anchoredItems ns

/-- The numbered nodes in a list of entries. -/
def anchoredEntries : List (Node × Node) → List (Nat × Node)
  | [] => []
  | (k, v) :: es => k.anchored ++ (v.anchored ++ anchoredEntries es)

end

/-- A document: its root and its numbered nodes, the last one first. -/
structure Document where
  root : Node
  anchored : List (Nat × Node)

namespace Document

/-- Reads the only document of a text. A text without a document is an empty one. -/
def parse? (text : String) : Option Document := do
  let root := (← document? (← tokens? text)).getD .missing
  return { root, anchored := root.anchored.reverse }

variable (d : Document)

/-- The node that is meant, which for an alias is the anchored one. -/
def target (n : Node) : Option Node :=
  match n with
  | .alias number => d.anchored.lookup number
  | n => some n

/-- Whether a scalar is spelled like null. -/
def isNullText (text : String) : Bool :=
  text == "~" || text == "null" || text == "Null" || text == "NULL"

/-- The text of a scalar. -/
def text? (n : Node) : Option String := do
  match ← d.target n with
  | .scalar _ _ text _ => some text
  | _ => none

/-- The tag of a null. -/
def nullTag : String := "tag:yaml.org,2002:null"

/-- A value that may be absent: an empty place or an untagged null is none. A scalar that is tagged
as null has to be spelled like one. -/
def optional? {α : Type} (read : Node → Option α) (n : Node) : Option (Option α) := do
  let present ← match ← d.target n with
    | .scalar _ (some tag) text true =>
      if tag == nullTag then if isNullText text then some false else none else some true
    | .scalar _ none text true => some (!text.isEmpty && !isNullText text)
    | _ => some true
  if present then return some (← read n) else return none

/-- Whether a node is an empty place. -/
def isEmptyPlace : Node → Bool
  | .scalar _ _ text plain => plain && text.isEmpty
  | _ => false

/-- A list of texts. -/
def texts? (n : Node) : Option (List String) := do
  match ← d.target n with
  | .sequence _ items => items.mapM d.text?
  | m => if isEmptyPlace m then some [] else none

/-- The entries of a record by field. `names` gives the field that a name stands for. -/
def fields? (names : List (String × String)) (n : Node) : Option (List (String × Node)) := do
  match ← d.target n with
  | .mapping _ entries =>
    entries.foldlM (fun done (k, v) => do
      match names.lookup (← d.text? k) with
      | none => some done
      | some field => if done.any fun e => e.1 == field then none else some (done ++ [(field, v)]))
      []
  | m => if isEmptyPlace m then some [] else none

/-- A field with a default for the case that it is not given. -/
def field? {α : Type} (fields : List (String × Node)) (name : String) (default : α)
    (read : Node → Option α) : Option α :=
  match fields.lookup name with
  | some n => read n
  | none => some default

end Document

end AgentGovernance.Yaml
