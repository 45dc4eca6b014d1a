-- SUMMARY: Sets of descriptors by id, in which every exclusive action has one owner.
import AgentGovernance.Descriptor.Basic
import AgentGovernance.Error

/-!
# Descriptor indexes

An index holds descriptors in the order of their ids, and the owner of every exclusive action. It is
built from a list: the first descriptor of each id counts, later ones are reported, and a second
claim to an exclusive action makes the whole list unacceptable.
-/

namespace AgentGovernance

/-- A set of descriptors. -/
structure DescriptorIndex where
  /-- Sorted by id. -/
  descriptors : List AgentDescriptor := []
  /-- Exclusive tags with the ids of their owners. -/
  owners : List (Tag × String) := []
  deriving DecidableEq, Repr, Inhabited

/-- Why a file that was found did not become a descriptor of the set. -/
inductive SkipCause where
  | fault (fault : DescriptorFault)
  | duplicate (id : String)
  deriving DecidableEq, Repr

def SkipCause.message : SkipCause → String
  | .fault f => f.message
  | .duplicate id => s!"duplicate agent id '{id}'"

/-- A file that did not become a descriptor of the set. -/
structure Skipped where
  path : Path
  cause : SkipCause
  deriving DecidableEq, Repr

namespace DescriptorIndex

/-! ## Building -/

/-- Puts a descriptor into a list that is sorted by id, unless its id is there already. -/
def insert (d : AgentDescriptor) : List AgentDescriptor → List AgentDescriptor
  | [] => [d]
  | e :: es =>
    if d.id < e.id then d :: e :: es
    else if d.id == e.id then e :: es
    else e :: insert d es

/-- The first descriptor of each id, sorted by id. -/
def sortById (ds : List AgentDescriptor) : List AgentDescriptor :=
  ds.foldl (fun done d => insert d done) []

/-- The descriptors whose id stands earlier in the list as well. -/
def duplicatesFrom (seen : List String) : List AgentDescriptor → List AgentDescriptor
  | [] => []
  | d :: ds =>
    if seen.contains d.id then d :: duplicatesFrom seen ds
    else duplicatesFrom (d.id :: seen) ds

/-- What is reported about descriptors whose id was taken. -/
def duplicates (ds : List AgentDescriptor) : List Skipped :=
  (duplicatesFrom [] ds).map fun d => { path := d.source, cause := .duplicate d.id }

/-- Adds the claims of one agent to the owners known so far. -/
def claim (id : String) :
    List Tag → List (Tag × String) → Except GovernanceError (List (Tag × String))
  | [], owners => .ok owners
  | tag :: tags, owners =>
    match owners.lookup tag with
    | some other =>
      if other == id then claim id tags owners else .error (.descriptorConflict tag other id)
    | none => claim id tags (owners ++ [(tag, id)])

/-- The owners of all exclusive tags, claimed in the order of the list. -/
def ownersOf : List AgentDescriptor → List (Tag × String) →
    Except GovernanceError (List (Tag × String))
  | [], owners => .ok owners
  | d :: ds, owners => do ownersOf ds (← claim d.id d.exclusive owners)

/-- The index of a list of descriptors. -/
def build (ds : List AgentDescriptor) : Except GovernanceError DescriptorIndex := do
  let descriptors := sortById ds
  return { descriptors, owners := ← ownersOf descriptors [] }

/-! ## Questions -/

/-- The descriptor of an id, which is trimmed first. -/
def find? (index : DescriptorIndex) (id : String) : Option AgentDescriptor :=
  index.descriptors.find? fun d => d.id == Text.trim id

/-- Whether an id is known. -/
def contains (index : DescriptorIndex) (id : String) : Bool := (index.find? id).isSome

/-- The ids in order. -/
def ids (index : DescriptorIndex) : List String := index.descriptors.map (·.id)

/-- The agent that alone may perform an action. -/
def exclusiveOwner? (index : DescriptorIndex) (action : String) : Option String :=
  index.owners.lookup (Tag.ofText action)

/-- Exclusive tags and their owners, sorted by tag. -/
def exclusiveMap (index : DescriptorIndex) : List (Tag × String) :=
  index.owners.foldl (fun done (tag, id) => Json.insertField tag id done) []

end DescriptorIndex

end AgentGovernance
