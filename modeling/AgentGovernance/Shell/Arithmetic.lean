-- SUMMARY: Arithmetic in shell scripts.
import AgentGovernance.Number.Digits

/-!
# Arithmetic

Integers, variables, the usual operators with their precedence, and comparisons, which yield one or
zero. A division by zero has no value.
-/

namespace AgentGovernance.Shell.Arithmetic

/-- An operator of two operands. -/
abbrev Operator := String × (Int → Int → Option Int)

/-- One for truth, zero for falsehood. -/
def truth (b : Bool) : Option Int := some (if b then 1 else 0)

/-- Operators by precedence, the loosest first. Of two with a common start the longer comes first.
-/
def levels : List (List Operator) :=
  [[("||", fun a b => truth (a != 0 || b != 0))],
   [("&&", fun a b => truth (a != 0 && b != 0))],
   [("==", fun a b => truth (a == b)), ("!=", fun a b => truth (a != b))],
   [("<=", fun a b => truth (a ≤ b)), (">=", fun a b => truth (b ≤ a)),
    ("<", fun a b => truth (a < b)), (">", fun a b => truth (b < a))],
   [("+", fun a b => some (a + b)), ("-", fun a b => some (a - b))],
   [("*", fun a b => some (a * b)),
    ("/", fun a b => if b == 0 then none else some (a.tdiv b)),
    ("%", fun a b => if b == 0 then none else some (a.tmod b))]]

/-- The operator that a text starts with, and the rest. -/
def operator? (ops : List Operator) (cs : List Char) :
    Option ((Int → Int → Option Int) × List Char) :=
  (ops.find? fun o => o.1.toList.isPrefixOf cs).map fun o => (o.2, cs.drop o.1.length)

def skip (cs : List Char) : List Char := cs.dropWhile fun c => c == ' ' || c == '\t' || c == '\n'

mutual

/-- The value of operands that are joined by operators of some levels. -/
def joined (value : String → Int) : Nat → List (List Operator) → List Char →
    Option (Int × List Char)
  | 0, _, _ => none
  | fuel + 1, [], cs => operand value fuel (skip cs)
  | fuel + 1, ops :: tighter, cs => do
    let (a, rest) ← joined value fuel tighter cs
    joinedFrom value fuel ops tighter a rest

/-- Goes on behind a first operand. -/
def joinedFrom (value : String → Int) : Nat → List Operator → List (List Operator) → Int →
    List Char → Option (Int × List Char)
  | 0, _, _, _, _ => none
  | fuel + 1, ops, tighter, a, cs =>
    match operator? ops (skip cs) with
    | none => some (a, cs)
    | some (f, rest) => do
      let (b, rest) ← joined value fuel tighter rest
      joinedFrom value fuel ops tighter (← f a b) rest

/-- The value of one operand. -/
def operand (value : String → Int) : Nat → List Char → Option (Int × List Char)
  | 0, _ => none
  | _, [] => none
  | fuel + 1, c :: cs =>
    if c == '(' then do
      let (a, rest) ← joined value fuel levels cs
      match skip rest with
      | ')' :: rest => return (a, rest)
      | _ => none
    else if c == '-' then (operand value fuel (skip cs)).map fun (a, rest) => (-a, rest)
    else if c == '+' then operand value fuel (skip cs)
    else if c == '!' then
      (operand value fuel (skip cs)).map fun (a, rest) => (if a == 0 then 1 else 0, rest)
    else if c.isDigit then
      let (digits, rest) := spanDigits (c :: cs)
      some (digitsValue digits, rest)
    else
      let name := (c :: cs).takeWhile fun d => d.isAlphanum || d == '_'
      if name.isEmpty then none
      else some (value (String.ofList name), (c :: cs).drop name.length)

end

/-- The value of an expression, whose variables have the given values. -/
def evaluate? (value : String → Int) (text : String) : Option Int := do
  let cs := text.toList
  if (skip cs).isEmpty then return 0
  let (a, rest) ← joined value (10 * cs.length + 20) levels cs
  if (skip rest).isEmpty then return a else none

end AgentGovernance.Shell.Arithmetic
