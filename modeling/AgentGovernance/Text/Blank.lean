-- SUMMARY: White space of every script: the blank characters, trimming, and the words between blanks.

/-!
# Blanks

A character is blank when it has the Unicode property White_Space. Trimming removes blanks at the
ends of a text, and the words of a text are its maximal stretches without blanks.
-/

namespace AgentGovernance.Text

/-! ## Blank characters -/

/-- Whether a character has the property White_Space. -/
def isBlank (c : Char) : Bool :=
  let n := c.toNat
  (0x09 ≤ n && n ≤ 0x0D) || n == 0x20 || n == 0x85 || n == 0xA0 || n == 0x1680 ||
    (0x2000 ≤ n && n ≤ 0x200A) || n == 0x2028 || n == 0x2029 || n == 0x202F || n == 0x205F ||
    n == 0x3000

/-! ## Trimming -/

/-- The list without its longest end of characters that satisfy `p`. -/
def dropEndWhile {α : Type} (p : α → Bool) (xs : List α) : List α :=
  (xs.reverse.dropWhile p).reverse

/-- The text without blanks at its end. -/
def trimEnd (s : String) : String :=
  String.ofList (dropEndWhile isBlank s.toList)

/-- The text without blanks at either end. -/
def trim (s : String) : String :=
  String.ofList (dropEndWhile isBlank (s.toList.dropWhile isBlank))

/-- The trimmed text, unless nothing is left of it. -/
def trimmed? (s : String) : Option String :=
  let t := trim s
  if t.isEmpty then none else some t

/-! ## Words -/

/-- Maximal stretches of characters that fail `sep`. `word` holds, reversed, the stretch being read.
-/
def splitRuns (sep : Char → Bool) : (word : List Char) → List Char → List (List Char)
  | [], [] => []
  | word, [] => [word.reverse]
  | word, c :: cs =>
    if sep c then
      if word.isEmpty then splitRuns sep [] cs else word.reverse :: splitRuns sep [] cs
    else splitRuns sep (c :: word) cs

/-- The words of a list of characters: its maximal stretches without blanks. -/
def words (cs : List Char) : List String :=
  (splitRuns isBlank [] cs).map String.ofList

end AgentGovernance.Text
