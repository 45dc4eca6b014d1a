-- SUMMARY: Action tags: the normal form that makes spellings of one action agree.
import AgentGovernance.Text.Blank
import AgentGovernance.Text.Lowercase
import AgentGovernance.Text.Normalization

/-!
# Action tags

Descriptor authors and callers spell actions in many ways: `Publish Release`, `publish-release`,
`publish_release`. A tag is what these spellings have in common: the text in normal form KC and
lower case, with every run of separators turned into one underscore and none at either end.
-/

namespace AgentGovernance

/-- The normal form of an action's name. -/
abbrev Tag := String

namespace Tag

/-- Whether a character separates the words of a tag. -/
def isSeparator (c : Char) : Bool :=
  c == '-' || c == '_' || Text.isBlank c

/-- Replaces runs of separators by one underscore, but not before the first or after the last word.
`started` holds once a character has been kept, `pending` when separators have been passed since. -/
def joinWords : (started pending : Bool) → List Char → List Char
  | _, _, [] => []
  | started, pending, c :: cs =>
    if isSeparator c then joinWords started true cs
    else if started && pending then '_' :: c :: joinWords true false cs
    else c :: joinWords true false cs

/-- The tag that a spelling stands for; empty if the spelling has separators only. -/
def ofText (raw : String) : Tag :=
  String.ofList (joinWords false false (Text.lowercase (Text.normalizeKC raw.toList)))

/-- Keeps the first of equal tags. `seen` holds the tags met so far. -/
def distinctFrom (seen : List Tag) : List Tag → List Tag
  | [] => []
  | t :: ts => if seen.contains t then distinctFrom seen ts else t :: distinctFrom (t :: seen) ts

/-- The tags of a list of spellings, without empty tags and repetitions, in order of first use. -/
def ofTexts (raw : List String) : List Tag :=
  distinctFrom [] ((raw.map ofText).filter fun t => !t.isEmpty)

end Tag

end AgentGovernance
