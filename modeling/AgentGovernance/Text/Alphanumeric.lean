-- SUMMARY: Letters and numbers of every script.
import AgentGovernance.Text.Table.Alphanumeric
import AgentGovernance.Text.Lowercase

/-!
# Letters and numbers

A character counts as alphanumeric when it is alphabetic or belongs to one of the numeric
categories.
-/

namespace AgentGovernance.Text

/-- Whether a character is a letter, a mark that counts as one, or a number. -/
def isAlphanumeric (c : Char) : Bool :=
  if c.toNat < 0x80 then c.isAlphanum else inRanges alphanumericRanges c.toNat

end AgentGovernance.Text
