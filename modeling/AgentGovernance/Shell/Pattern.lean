-- SUMMARY: Patterns of characters: wildcards in words and basic regular expressions.

/-!
# Patterns

A pattern is a sequence of character sets, some of which may be repeated any number of times.
Wildcards and basic regular expressions are two ways to write patterns.
-/

namespace AgentGovernance.Shell

/-- A set of characters. -/
inductive CharSet where
  | only (c : Char)
  | any
  | ranges (negated : Bool) (ranges : List (Char × Char))
  deriving DecidableEq, Repr

/-- Whether a character is in a set. -/
def CharSet.has : CharSet → Char → Bool
  | .only d, c => c == d
  | .any, _ => true
  | .ranges negated rs, c => (rs.any fun r => r.1 ≤ c && c ≤ r.2) != negated

/-- Character sets, each with a flag that tells whether it is repeated. -/
abbrev Pattern := List (CharSet × Bool)

namespace Pattern

/-- The lengths of the starts of a text that a pattern matches. -/
def matchLengths : Pattern → List Char → List Nat
  | [], _ => [0]
  | (s, false) :: p, cs => match cs with
    | c :: cs => if s.has c then (matchLengths p cs).map (· + 1) else []
    | [] => []
  | (s, true) :: p, cs =>
    matchLengths p cs ++ match cs with
      | c :: cs => if s.has c then (matchLengths ((s, true) :: p) cs).map (· + 1) else []
      | [] => []
termination_by p cs => p.length + cs.length

/-- Whether a pattern matches a text from its start to its end. -/
def matchesAll (p : Pattern) (cs : List Char) : Bool := (p.matchLengths cs).contains cs.length

/-- The ranges of characters that a bracket holds. -/
def bracketRanges : List Char → List (Char × Char)
  | a :: '-' :: b :: rest => (a, b) :: bracketRanges rest
  | a :: rest => (a, a) :: bracketRanges rest
  | [] => []

/-- The set in a bracket behind its opening, and what follows. -/
def bracket? (cs : List Char) : Option (CharSet × List Char) :=
  let (negated, body) := match cs with
    | '!' :: rest => (true, rest)
    | '^' :: rest => (true, rest)
    | rest => (false, rest)
  -- A closing bracket in front is a member of the set.
  let first := body.take 1
  let inner := first ++ (body.drop 1).takeWhile (· != ']')
  match body.drop inner.length with
  | _ :: rest => some (.ranges negated (bracketRanges inner), rest)
  | [] => none

/-- The pattern of a word with wildcards. Of each character it is known whether it can be one. -/
def ofWildcards : Nat → List (Char × Bool) → Pattern
  | 0, _ => []
  | _, [] => []
  | fuel + 1, (c, isLive) :: rest =>
    if !isLive then (.only c, false) :: ofWildcards fuel rest
    else if c == '*' then (.any, true) :: ofWildcards fuel rest
    else if c == '?' then (.any, false) :: ofWildcards fuel rest
    else if c == '[' then
      match bracket? (rest.map (·.1)) with
      | some (s, after) => (s, false) :: ofWildcards fuel (rest.drop (rest.length - after.length))
      | none => (.only c, false) :: ofWildcards fuel rest
    else (.only c, false) :: ofWildcards fuel rest

/-- Whether a word has wildcards. -/
def hasWildcards (word : List (Char × Bool)) : Bool :=
  word.any fun (c, isLive) => isLive && (c == '*' || c == '?' || c == '[')

/-- The pattern of a basic regular expression without its anchors. -/
def ofExpression : Nat → List Char → Pattern
  | 0, _ => []
  | _, [] => []
  | fuel + 1, c :: cs =>
    let (s, rest) := match c, cs with
      | '\\', d :: rest => (.only d, rest)
      | '.', rest => (.any, rest)
      | '[', rest => (bracket? rest).getD (.only '[', rest)
      | c, rest => (.only c, rest)
    match rest with
    | '*' :: rest => (s, true) :: ofExpression fuel rest
    | _ => (s, false) :: ofExpression fuel rest

end Pattern

/-- A regular expression: a pattern that may be tied to the start or the end of a line. -/
structure Expression where
  atStart : Bool
  pattern : Pattern
  atEnd : Bool

namespace Expression

/-- Reads a basic regular expression. -/
def ofText (text : String) : Expression :=
  let cs := text.toList
  let (atStart, cs) := match cs with
    | '^' :: rest => (true, rest)
    | _ => (false, cs)
  let atEnd := cs.getLast? == some '$' && cs.dropLast.getLast? != some '\\'
  let cs := if atEnd then cs.dropLast else cs
  { atStart, pattern := Pattern.ofExpression (cs.length + 1) cs, atEnd }

/-- The expression that matches a text literally. -/
def literal (text : String) : Expression :=
  { atStart := false, pattern := text.toList.map fun c => (.only c, false), atEnd := false }

/-- The longest match at the start of a text. -/
def longest? (e : Expression) (cs : List Char) : Option Nat :=
  ((e.pattern.matchLengths cs).filter fun n => !e.atEnd || n == cs.length).max?

/-- What stands before the first match in a line, the match, and what follows. -/
def split? (e : Expression) : (before : List Char) → List Char →
    Option (List Char × List Char × List Char)
  | before, cs =>
    match e.longest? cs with
    | some n => some (before.reverse, cs.take n, cs.drop n)
    | none => match cs with
      | [] => none
      | c :: rest => if e.atStart then none else split? e (c :: before) rest
termination_by _ cs => cs.length

/-- Whether an expression matches somewhere in a line. -/
def isIn (e : Expression) (line : String) : Bool := (e.split? [] line.toList).isSome

end Expression

end AgentGovernance.Shell
