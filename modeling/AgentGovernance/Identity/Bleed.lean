-- SUMMARY: Identity bleed: texts in which one agent claims to be another.
import AgentGovernance.Json.Basic
import AgentGovernance.Text.Alphanumeric
import AgentGovernance.Text.Blank
import AgentGovernance.Text.Lowercase
import AgentGovernance.Text.Normalization

/-!
# Identity bleed

A text claims an identity where a phrase such as `acting as` is followed, perhaps after a filler
word or two, by the id or the name of a declared agent. Texts and spellings are compared word by
word in a folded form, and where several spellings match the longest counts.
-/

namespace AgentGovernance

/-! ## Folding -/

namespace Bleed

/-- Whether a character is part of a word. -/
def isWordChar (c : Char) : Bool := Text.isAlphanumeric c || c == '-' || c == '_'

/-- The words of a text: normal form KC, lower case, cut at everything that is not part of a word.
-/
def fold (text : String) : List String :=
  Text.words (((Text.normalizeKC text.toList).flatMap Text.lowercaseChar).map fun c =>
    if isWordChar c then c else ' ')

/-- Phrases that introduce a claimed identity. -/
def phrases : List String :=
  ["acting as", "act as", "as agent", "speaking as", "i am", "i m", "switching to", "switch to",
   "on behalf of", "pretend to be", "pretending to be", "roleplay as", "role play as", "impersonate",
   "impersonating"]

/-- Words that may stand between a phrase and an identity. -/
def fillers : List String := ["the", "a", "an", "agent", "role", "persona", "of", "your"]

/-- How many of them. -/
def fillerLimit : Nat := 2

/-! ## Spellings -/

/-- A way to write an agent, in folded words. -/
structure Spelling where
  words : List String
  agent : String
  deriving DecidableEq, Repr

/-- The spellings of agents with id and name, those with more words first. -/
def spellings (identities : List (String × String)) : List Spelling :=
  let all := identities.flatMap fun (id, name) =>
    [{ words := fold id, agent := id }, { words := fold name, agent := id : Spelling }]
  (all.filter fun s => !s.words.isEmpty).mergeSort fun a b => b.words.length ≤ a.words.length

/-- Drops up to `n` filler words. -/
def skipFillers : Nat → List String → List String
  | n + 1, w :: ws => if fillers.contains w then skipFillers n ws else w :: ws
  | _, ws => ws

/-- What is left of a list behind a beginning. -/
def afterPhrase? (phrase words : List String) : Option (List String) :=
  if phrase.isPrefixOf words then some (words.drop phrase.length) else none

/-! ## Claims -/

/-- The agent that the words behind a phrase name. -/
def namedAgent? (all : List Spelling) (rest : List String) : Option String :=
  (all.find? fun s => s.words.isPrefixOf (skipFillers fillerLimit rest)).map (·.agent)

/-- The agent other than the active one that the words claim with a phrase at their start. -/
def claimWith? (all : List Spelling) (active : Option String) (words : List String)
    (phrase : String) : Option (String × String) := do
  let agent ← namedAgent? all (← afterPhrase? (fold phrase) words)
  if some agent == active then none else some (agent, phrase)

/-- The first claim that starts with the first word, in the order of the phrases. -/
def claimAt? (all : List Spelling) (active : Option String) (words : List String) :
    Option (String × String) :=
  phrases.findSome? (claimWith? all active words)

/-- The first claim in a list of words. -/
def claim? (all : List Spelling) (active : Option String) : List String → Option (String × String)
  | [] => none
  | w :: ws => claimAt? all active (w :: ws) <|> claim? all active ws

end Bleed

/-- The result of looking for claims. -/
structure BleedCheck where
  activeAgent : Option String
  impersonated : Option String := none
  phrase : Option String := none
  deriving DecidableEq, Repr

namespace BleedCheck

def isClean (c : BleedCheck) : Bool := c.impersonated.isNone

/-- The result in words. -/
def reason (c : BleedCheck) : String :=
  let phrase := c.phrase.getD "claim"
  match c.impersonated, c.activeAgent with
  | none, _ => "no identity bleed detected"
  | some other, some active =>
    s!"text claims to act as '{other}' ({phrase}) while '{active}' is active"
  | some other, none => s!"text claims to act as '{other}' ({phrase}) but no agent is active"

def toJson (c : BleedCheck) : Json :=
  .object
    [("active_agent", .optional .string c.activeAgent),
     ("impersonated", .optional .string c.impersonated), ("phrase", .optional .string c.phrase)]

/-- Looks for a claim to be one of the given agents, other than the active one. -/
def ofText (text : String) (identities : List (String × String)) (active : Option String) :
    BleedCheck :=
  match Bleed.claim? (Bleed.spellings identities) active (Bleed.fold text) with
  | some (agent, phrase) =>
    { activeAgent := active, impersonated := some agent, phrase := some phrase }
  | none => { activeAgent := active }

end BleedCheck

end AgentGovernance
