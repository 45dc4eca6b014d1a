-- SUMMARY: Descriptor files: what an author writes, and the descriptor it makes.
import AgentGovernance.Descriptor.Basic
import AgentGovernance.Descriptor.Block
import AgentGovernance.Error
import AgentGovernance.Yaml.Document

/-!
# Manifests

A manifest is the content of a descriptor file before it is checked: an identity block or a flat id
and name, a scope block, a hierarchy block, and exclusive actions at two places. A descriptor is
made from it if it names an id without blanks.
-/

namespace AgentGovernance

/-- The content of a descriptor file. -/
structure Manifest where
  identityId : Option String := none
  identityName : Option String := none
  id : Option String := none
  name : Option String := none
  can : List String := []
  cannot : List String := []
  scopeExclusive : List String := []
  reportsTo : Option String := none
  collaborators : List String := []
  exclusive : List String := []
  deriving DecidableEq, Repr

namespace Manifest

open Yaml

/-! ## Reading -/

/-- Names that stand for themselves. -/
def plainNames (names : List String) : List (String × String) := names.map fun n => (n, n)

/-- The identity block: id and name. -/
def identity? (d : Document) (n : Yaml.Node) : Option (Option String × Option String) := do
  let fields ← d.fields? (plainNames ["id", "name"]) n
  let text := d.optional? d.text?
  return (← Document.field? fields "id" none text, ← Document.field? fields "name" none text)

/-- The scope block: what the agent may do, may not do and alone may do. -/
def scope? (d : Document) (n : Yaml.Node) : Option (List String × List String × List String) := do
  let fields ← d.fields? (plainNames ["can", "cannot", "exclusive"]) n
  return (← Document.field? fields "can" [] d.texts?, ← Document.field? fields "cannot" [] d.texts?,
    ← Document.field? fields "exclusive" [] d.texts?)

/-- The hierarchy block: superior and peers. -/
def hierarchy? (d : Document) (n : Yaml.Node) : Option (Option String × List String) := do
  let fields ← d.fields? (plainNames ["reports_to", "collaborates_with"]) n
  return (← Document.field? fields "reports_to" none (d.optional? d.text?),
    ← Document.field? fields "collaborates_with" [] d.texts?)

/-- Names at the top of a manifest. The identity block has two of them. -/
def topNames : List (String × String) :=
  ("identity", "agent") :: plainNames ["agent", "id", "name", "scope", "hierarchy", "exclusive"]

/-- Reads a manifest from a block of YAML. -/
def parse? (text : String) : Option Manifest := do
  let d ← Document.parse? text
  let fields ← d.fields? topNames d.root
  let identity ← Document.field? fields "agent" none (d.optional? (identity? d))
  let (can, cannot, scopeExclusive) ← Document.field? fields "scope" ([], [], []) (scope? d)
  let (reportsTo, collaborators) ← Document.field? fields "hierarchy" (none, []) (hierarchy? d)
  return {
    identityId := identity.bind (·.1)
    identityName := identity.bind (·.2)
    id := ← Document.field? fields "id" none (d.optional? d.text?)
    name := ← Document.field? fields "name" none (d.optional? d.text?)
    can, cannot, scopeExclusive, reportsTo, collaborators
    exclusive := ← Document.field? fields "exclusive" [] d.texts? }

/-! ## Descriptors -/

/-- The descriptor that a manifest from the given file makes. -/
def toDescriptor (m : Manifest) (source : Path) : Except DescriptorFault AgentDescriptor :=
  match (m.identityId <|> m.id).bind Text.trimmed? with
  | none => .error .missingId
  | some id =>
    if id.toList.any Text.isBlank then .error (.blankInId id)
    else .ok {
      id
      name := ((m.identityName <|> m.name).bind Text.trimmed?).getD id
      can := Tag.ofTexts m.can
      cannot := Tag.ofTexts m.cannot
      exclusive := Tag.ofTexts (m.scopeExclusive ++ m.exclusive)
      reportsTo := m.reportsTo.bind Text.trimmed?
      collaborators := m.collaborators.filterMap Text.trimmed?
      source }

end Manifest

namespace AgentDescriptor

/-- Reads a descriptor from the content of a file. The path tells whether the content is YAML or
Markdown. -/
def parse (content : String) (path : Path) : Except DescriptorFault AgentDescriptor :=
  let block := if Descriptor.isMarkdown path then Descriptor.block? content else some content
  match block with
  | none => .error .noBlock
  | some text => match Manifest.parse? text with
    | none => .error .malformed
    | some m => m.toDescriptor path

end AgentDescriptor

end AgentGovernance
