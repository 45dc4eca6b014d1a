-- SUMMARY: Texts in quotation marks in which every character can be seen.
import AgentGovernance.Text.Lowercase
import AgentGovernance.Text.Table.Unseen

/-!
# Inspection

To show a text unmistakably it is put in quotation marks. Quotation marks and backslashes are
escaped, control characters with a letter of their own have that letter, and whatever does not show
on its own is written as a code point.
-/

namespace AgentGovernance.Text

/-- Hexadecimal digits of a number without leading zeros. -/
def hexText (n : Nat) : List Char := Nat.toDigits 16 n

/-- Whether a character is shown as its code point. -/
def isUnseen (c : Char) : Bool :=
  let n := c.toNat
  if n < 0x20 then true else if n < 0x7F then false else inRanges unseenRanges n

/-- How a character is shown. -/
def inspectChar (c : Char) : List Char :=
  if c.toNat == 0 then ['\\', '0']
  else if c == '\t' then ['\\', 't']
  else if c == '\r' then ['\\', 'r']
  else if c == '\n' then ['\\', 'n']
  else if c == '"' then ['\\', '"']
  else if c == '\\' then ['\\', '\\']
  else if isUnseen c then ['\\', 'u', '\x7b'] ++ hexText c.toNat ++ ['\x7d']
  else [c]

/-- A text in quotation marks. -/
def inspect (s : String) : String :=
  String.ofList ('"' :: s.toList.flatMap inspectChar ++ ['"'])

/-- A text that may be absent. -/
def inspectOption : Option String → String
  | some s => "Some(" ++ inspect s ++ ")"
  | none => "None"

end AgentGovernance.Text
