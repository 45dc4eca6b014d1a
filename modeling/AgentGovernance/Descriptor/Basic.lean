-- SUMMARY: Agent descriptors: what an agent is called, may do, may not do and alone may do.
import AgentGovernance.Json.Basic
import AgentGovernance.Path
import AgentGovernance.Tag

/-!
# Agent descriptors

A descriptor declares an agent: its id and name, the actions it may and may not perform, the actions
that it alone may perform, and its place among the other agents. Lists of actions hold tags, not the
spellings they were given in.
-/

namespace AgentGovernance

/-- A declared agent. -/
structure AgentDescriptor where
  id : String
  name : String
  can : List Tag := []
  cannot : List Tag := []
  exclusive : List Tag := []
  reportsTo : Option String := none
  collaborators : List String := []
  /-- The file it came from; empty if it came from none. -/
  source : Path := .empty
  deriving DecidableEq, Repr, Inhabited

namespace AgentDescriptor

/-! ## Building descriptors -/

/-- A descriptor with nothing but an id, which is trimmed and also serves as the name. -/
def new (id : String) : AgentDescriptor := { id := Text.trim id, name := Text.trim id }

def withName (d : AgentDescriptor) (name : String) : AgentDescriptor := { d with name }

def withCan (d : AgentDescriptor) (raw : List String) : AgentDescriptor :=
  { d with can := Tag.ofTexts raw }

def withCannot (d : AgentDescriptor) (raw : List String) : AgentDescriptor :=
  { d with cannot := Tag.ofTexts raw }

def withExclusive (d : AgentDescriptor) (raw : List String) : AgentDescriptor :=
  { d with exclusive := Tag.ofTexts raw }

def withReportsTo (d : AgentDescriptor) (id : String) : AgentDescriptor :=
  { d with reportsTo := some id }

def withCollaborators (d : AgentDescriptor) (ids : List String) : AgentDescriptor :=
  { d with collaborators := ids }

def withSource (d : AgentDescriptor) (path : Path) : AgentDescriptor := { d with source := path }

/-! ## Questions -/

/-- Whether the descriptor says at all what the agent may do. -/
def declaresAllowList (d : AgentDescriptor) : Bool := !d.can.isEmpty

/-- Whether an action is on the allow list. What an agent alone may do, it may do. -/
def allows (d : AgentDescriptor) (action : String) : Bool :=
  d.can.contains (Tag.ofText action) || d.exclusive.contains (Tag.ofText action)

/-- Whether an action is on the deny list. -/
def denies (d : AgentDescriptor) (action : String) : Bool := d.cannot.contains (Tag.ofText action)

/-- Whether an action is the agent's alone. -/
def ownsExclusive (d : AgentDescriptor) (action : String) : Bool :=
  d.exclusive.contains (Tag.ofText action)

/-- The descriptor as a document. -/
def toJson (d : AgentDescriptor) : Json :=
  .object
    [("id", .string d.id), ("name", .string d.name), ("can", .strings d.can),
     ("cannot", .strings d.cannot), ("exclusive", .strings d.exclusive),
     ("reports_to", .optional .string d.reportsTo),
     ("collaborates_with", .strings d.collaborators), ("source", .string d.source.text)]

end AgentDescriptor

end AgentGovernance
