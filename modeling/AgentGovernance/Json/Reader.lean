-- SUMMARY: Reading JSON texts: blanks, literals, numbers, strings, arrays and objects.
import AgentGovernance.Json.Basic
import AgentGovernance.Number.Digits

/-!
# Reading JSON

`Json.parse?` accepts exactly one value between blanks. The reader works on the list of characters
and hands the rest of it on. Each step into an array or object costs one unit of fuel; the length of
the text is always enough. Containers nested deeper than `depthLimit` read as `broken`, and so do
strings with unpaired surrogates and numbers too large for a double.
-/

namespace AgentGovernance.Json

/-- How many arrays and objects may stand inside one another, plus one. -/
def depthLimit : Nat := 128

/-- Whether a character may stand between the parts of a document. -/
def isGap (c : Char) : Bool := c == ' ' || c == '\n' || c == '\t' || c == '\r'

/-- The text without the gap at its start. -/
def skipGap (cs : List Char) : List Char := cs.dropWhile isGap

/-! ## Numbers -/

/-- The integer part of a number: a lone zero, or digits that do not start with one. -/
def integerPart (cs : List Char) : Option (List Char × List Char) :=
  match spanDigits cs with
  | ([], _) => none
  | ('0' :: _ :: _, _) => none
  | (ds, rest) => some (ds, rest)

/-- The digits behind a point, if there is a point. A point needs a digit. -/
def fractionPart : List Char → Option (Option (List Char) × List Char)
  | '.' :: cs => match spanDigits cs with
    | ([], _) => none
    | (ds, rest) => some (some ds, rest)
  | cs => some (none, cs)

/-- The sign and digits behind an exponent mark, if there is a mark. A mark needs a digit. -/
def exponentPart (cs : List Char) : Option (Option (Bool × List Char) × List Char) :=
  match cs with
  | c :: rest =>
    if c == 'e' || c == 'E' then
      let (negative, rest) := match rest with
        | '-' :: r => (true, r)
        | '+' :: r => (false, r)
        | r => (false, r)
      match spanDigits rest with
      | ([], _) => none
      | (ds, r) => some (some (negative, ds), r)
    else some (none, cs)
  | [] => some (none, cs)

/-- Whether `mantissa * 10 ^ exponent` rounds to a finite double. -/
def isFinite (mantissa : Nat) (exponent : Int) : Bool :=
  if mantissa == 0 then true
  else if exponent + (toString mantissa).length ≤ 308 then true
  else if 310 < exponent + (toString mantissa).length then false
  else
    let bound := Nat.pow 2 1024 - Nat.pow 2 970
    if 0 ≤ exponent then mantissa * Nat.pow 10 exponent.toNat < bound
    else mantissa < bound * Nat.pow 10 (-exponent).toNat

/-- Reads a number. An integer in range is a number of its own; `-0` is not. -/
def number (cs : List Char) : Option (Json × List Char) := do
  let (negative, body) := match cs with
    | '-' :: r => (true, r)
    | r => (false, r)
  let (whole, afterWhole) ← integerPart body
  let (fraction, afterFraction) ← fractionPart afterWhole
  let (exponent, rest) ← exponentPart afterFraction
  let n := digitsValue whole
  let asInteger : Option Int :=
    if fraction.isSome || exponent.isSome then none
    else if negative then if 0 < n && n ≤ Nat.pow 2 63 then some (-(n : Int)) else none
    else if n < Nat.pow 2 64 then some (n : Int) else none
  match asInteger with
  | some i => some (.integer i, rest)
  | none =>
    let decimals := fraction.getD []
    let shift : Int := match exponent with
      | some (true, ds) => -(digitsValue ds : Int)
      | some (false, ds) => (digitsValue ds : Int)
      | none => 0
    if isFinite (digitsValue (whole ++ decimals)) (shift - decimals.length) then
      some (.decimal (String.ofList (cs.take (cs.length - rest.length))), rest)
    else some (.broken, rest)

/-! ## Strings -/

/-- The unit that four hexadecimal digits spell. -/
def hexUnit? (a b c d : Char) : Option Nat := do
  return (((← hexValue? a) * 16 + (← hexValue? b)) * 16 + (← hexValue? c)) * 16 + (← hexValue? d)

/-- The characters that stand for themselves behind a backslash, and those that stand for a control
character. -/
def simpleEscape? (c : Char) : Option Char :=
  match c with
  | '"' => some '"'
  | '\\' => some '\\'
  | '/' => some '/'
  | 'b' => some (Char.ofNat 0x08)
  | 'f' => some (Char.ofNat 0x0C)
  | 'n' => some '\n'
  | 'r' => some '\r'
  | 't' => some '\t'
  | _ => none

/-- What one step inside a string yields: a character, or a surrogate unit that waits for its pair.
-/
inductive Unit16 where
  | char (c : Char)
  | surrogate (u : Nat)

/-- Reads one character or escape inside a string. -/
def stringUnit : List Char → Option (Unit16 × List Char)
  | '\\' :: 'u' :: a :: b :: c :: d :: rest => do
    let u ← hexUnit? a b c d
    if 0xD800 ≤ u && u ≤ 0xDFFF then return (.surrogate u, rest)
    return (.char (Char.ofNat u), rest)
  | '\\' :: e :: rest => do return (.char (← simpleEscape? e), rest)
  | '\\' :: [] => none
  | c :: rest => if c.toNat < 0x20 then none else some (.char c, rest)
  | [] => none

/-- Reads the rest of a string behind its opening quote. `high` is a leading surrogate that waits
for its pair, `sound` holds as long as every surrogate found its pair, and `done` is what was read
so far, reversed. The first argument bounds the number of characters. -/
def stringFrom : Nat → (high : Option Nat) → (sound : Bool) → (done : List Char) → List Char →
    Option (Option String × List Char)
  | 0, _, _, _, _ => none
  | fuel + 1, high, sound, done, cs =>
    match cs with
    | '"' :: rest =>
      some (if sound && high.isNone then some (String.ofList done.reverse) else none, rest)
    | cs =>
      match stringUnit cs with
      | none => none
      | some (.char c, rest) => stringFrom fuel none (sound && high.isNone) (c :: done) rest
      | some (.surrogate u, rest) =>
        match high with
        | some h =>
          if 0xDC00 ≤ u then
            let c := Char.ofNat (0x10000 + (h - 0xD800) * 0x400 + (u - 0xDC00))
            stringFrom fuel none sound (c :: done) rest
          else stringFrom fuel (some u) false done rest
        | none =>
          if u < 0xDC00 then stringFrom fuel (some u) sound done rest
          else stringFrom fuel none false done rest

/-- Reads the rest of a string behind its opening quote; `none` inside stands for a string without a
value. -/
def stringBody (cs : List Char) : Option (Option String × List Char) :=
  stringFrom (cs.length + 1) none true [] cs

/-! ## Values -/

/-- Drops an expected word from the start of a text. -/
def dropWord? (word : List Char) (cs : List Char) : Option (List Char) :=
  if word.isPrefixOf cs then some (cs.drop word.length) else none

/-- A container inside the limit of depth, and a broken value beyond it. -/
def withinDepth (depth : Nat) (j : Json) : Json := if depth < depthLimit then j else .broken

mutual

/-- Reads a value behind a gap, inside `depth` containers. -/
def valueFrom : Nat → (depth : Nat) → List Char → Option (Json × List Char)
  | 0, _, _ => none
  | fuel + 1, depth, cs =>
    match skipGap cs with
    | [] => none
    | '"' :: rest => do
      let (s, rest) ← stringBody rest
      return (match s with | some s => .string s | none => .broken, rest)
    | '[' :: rest =>
      match skipGap rest with
      | ']' :: rest => some (withinDepth (depth + 1) (.array []), rest)
      | rest => do
        let (items, rest) ← itemsFrom fuel (depth + 1) rest
        return (withinDepth (depth + 1) (.array items), rest)
    | '\x7b' :: rest =>
      match skipGap rest with
      | '\x7d' :: rest => some (withinDepth (depth + 1) (.object []), rest)
      | rest => do
        let (fields, rest) ← fieldsFrom fuel (depth + 1) rest
        match fields with
        | some fields => return (withinDepth (depth + 1) (.object fields), rest)
        | none => return (.broken, rest)
    | 't' :: rest => do return (.bool true, ← dropWord? "rue".toList rest)
    | 'f' :: rest => do return (.bool false, ← dropWord? "alse".toList rest)
    | 'n' :: rest => do return (.null, ← dropWord? "ull".toList rest)
    | cs => number cs

/-- Reads items up to the closing bracket. -/
def itemsFrom : Nat → (depth : Nat) → List Char → Option (List Json × List Char)
  | 0, _, _ => none
  | fuel + 1, depth, cs => do
    let (j, rest) ← valueFrom fuel depth cs
    match skipGap rest with
    | ']' :: rest => return ([j], rest)
    | ',' :: rest =>
      let (js, rest) ← itemsFrom fuel depth rest
      return (j :: js, rest)
    | _ => none

/-- Reads fields up to the closing brace; `none` inside stands for fields of which one has a name
without a value. -/
def fieldsFrom : Nat → (depth : Nat) → List Char →
    Option (Option (List (String × Json)) × List Char)
  | 0, _, _ => none
  | fuel + 1, depth, cs =>
    match skipGap cs with
    | '"' :: rest => do
      let (name, rest) ← stringBody rest
      match skipGap rest with
      | ':' :: rest =>
        let (v, rest) ← valueFrom fuel depth rest
        match skipGap rest with
        | '\x7d' :: rest => return (name.map fun k => [(k, v)], rest)
        | ',' :: rest =>
          let (fields, rest) ← fieldsFrom fuel depth rest
          return (do return ((← name), v) :: (← fields), rest)
        | _ => none
      | _ => none
    | _ => none

end

/-- Reads a text that holds exactly one value. -/
def parse? (text : String) : Option Json := do
  let cs := text.toList
  let (j, rest) ← valueFrom (cs.length + 1) 0 cs
  if (skipGap rest).isEmpty then some j else none

end AgentGovernance.Json
