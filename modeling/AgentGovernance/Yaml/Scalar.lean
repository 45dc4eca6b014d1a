-- SUMMARY: Reading YAML scalars: plain, quoted with one or two marks, literal and folded blocks.
import AgentGovernance.Number.Digits
import AgentGovernance.Yaml.Cursor

/-!
# Scalars

Each reader takes a cursor and yields the text of the scalar and the cursor behind it, or nothing if
the text is malformed. Line breaks inside flow scalars fold: one becomes a blank, and of several all
but the first are kept. Readers recurse on a bound for the number of characters left.
-/

namespace AgentGovernance.Yaml

/-! ## Folding -/

/-- Blanks and breaks between two stretches of a flow scalar. -/
structure Fold where
  /-- Blanks before the first break, reversed. -/
  blanks : List Char := []
  /-- The first break, if there was one. -/
  first : Option Char := none
  /-- Further breaks, reversed. -/
  more : List Char := []
  /-- Whether the line has been broken. -/
  broken : Bool := false

/-- What the blanks and breaks turn into. -/
def Fold.text (f : Fold) : List Char :=
  if f.broken then
    match f.first with
    | some '\n' => if f.more.isEmpty then [' '] else f.more.reverse
    | some c => c :: f.more.reverse
    | none => f.more.reverse
  else f.blanks.reverse

/-- Reads blanks and breaks. In a plain scalar, tabs may not stand for the indentation `indent` of a
continuation line. -/
def readFold (indent : Option Int) : Nat → Fold → Cursor → Option (Fold × Cursor)
  | 0, _, _ => none
  | fuel + 1, f, c =>
    match c.peek with
    | none => some (f, c)
    | some x =>
      if isGap x then
        if f.broken then
          if x == '\t' && (match indent with | some i => (c.column : Int) < i | none => false) then
            none
          else readFold indent fuel f c.skip
        else readFold indent fuel { f with blanks := x :: f.blanks } c.skip
      else if isBreak x then
        if f.broken then
          readFold indent fuel { f with more := breakText x :: f.more } c.skipBreak
        else
          readFold indent fuel { f with blanks := [], first := some (breakText x), broken := true }
            c.skipBreak
      else some (f, c)

/-! ## Plain scalars -/

/-- Whether a character means something of its own inside brackets. -/
def isFlowMark (c : Char) : Bool :=
  c == ',' || c == '[' || c == ']' || c == '\x7b' || c == '\x7d'

/-- Reads a stretch of a plain scalar without blanks. Inside brackets a colon may not touch a
bracket, a comma or a question mark. -/
def plainRun (inFlow : Bool) : Nat → List Char → Cursor → Option (List Char × Cursor)
  | 0, _, _ => none
  | fuel + 1, done, c =>
    match c.peek with
    | none => some (done, c)
    | some x =>
      if isGap x || isBreak x then some (done, c)
      else if inFlow && x == ':' && (match c.peekAt 1 with
          | some y => isFlowMark y || y == '?'
          | none => false) then none
      else if x == ':' && endsWord (c.peekAt 1) then some (done, c)
      else if inFlow && isFlowMark x then some (done, c)
      else plainRun inFlow fuel (x :: done) c.skip

/-- Reads a plain scalar. `text` is what was read so far, reversed, and `fold` what stood between it
and the cursor. The result tells whether the scalar ended on a later line than it started. -/
def plainFrom (inFlow : Bool) (indent : Int) :
    Nat → (text : List Char) → Fold → Cursor → Option (List Char × Bool × Cursor)
  | 0, _, _, _ => none
  | fuel + 1, text, fold, c =>
    if c.atDocumentMarker || c.sees '#' then some (text, fold.broken, c)
    else do
      let (run, c') ← plainRun inFlow (c.rest.length + 1) [] c
      let (text, fold) :=
        if run.isEmpty then (text, fold)
        else (run ++ fold.text.reverse ++ text, { : Fold })
      match c'.peek with
      | none => return (text, fold.broken, c')
      | some x =>
        if isGap x || isBreak x then
          let (fold, c'') ← readFold (some indent) (c'.rest.length + 1) fold c'
          if !inFlow && (c''.column : Int) < indent then return (text, fold.broken, c'')
          plainFrom inFlow indent fuel text fold c''
        else return (text, fold.broken, c')

/-- Reads a plain scalar inside the given indentation. -/
def plainScalar (inFlow : Bool) (indent : Int) (c : Cursor) : Option (String × Bool × Cursor) := do
  let (text, broken, c) ← plainFrom inFlow indent (c.rest.length + 1) [] {} c
  return (String.ofList text.reverse, broken, c)

/-! ## Quoted scalars -/

/-- The characters behind a backslash that stand for one character. -/
def escapes : List (Char × Nat) :=
  [('0', 0x00), ('a', 0x07), ('b', 0x08), ('t', 0x09), ('\t', 0x09), ('n', 0x0A), ('v', 0x0B),
   ('f', 0x0C), ('r', 0x0D), ('e', 0x1B), (' ', 0x20), ('"', 0x22), ('/', 0x2F), ('\\', 0x5C),
   ('N', 0x85), ('_', 0xA0), ('L', 0x2028), ('P', 0x2029)]

/-- Reads an escape behind its backslash. -/
def escapeAt (c : Cursor) : Option (Char × Cursor) :=
  match c.rest with
  | [] => none
  | e :: rest =>
    match escapes.lookup e with
    | some n => some (Char.ofNat n, c.skip)
    | none => do
      let digits ← if e == 'x' then some 2 else if e == 'u' then some 4
        else if e == 'U' then some 8 else none
      let n ← hexNumber? digits rest
      if (0xD800 ≤ n && n ≤ 0xDFFF) || 0x10FFFF < n then none
      else some (Char.ofNat n, c.skipMany (digits + 1))

/-- Reads a stretch of a quoted scalar without blanks. The flag of the result tells that an escaped
line break ended it. -/
def quotedRun (single : Bool) : Nat → List Char → Cursor → Option (List Char × Bool × Cursor)
  | 0, _, _ => none
  | fuel + 1, done, c =>
    match c.peek with
    | none => some (done, false, c)
    | some x =>
      if isGap x || isBreak x then some (done, false, c)
      else if single then
        if x.toNat == 0x27 then
          if (c.peekAt 1).any fun y => y.toNat == 0x27 then
            quotedRun single fuel (x :: done) (c.skipMany 2)
          else some (done, false, c)
        else quotedRun single fuel (x :: done) c.skip
      else if x == '"' then some (done, false, c)
      else if x == '\\' then
        if (c.peekAt 1).any isBreak then some (done, true, c.skip.skipBreak)
        else do
          let (e, c) ← escapeAt c.skip
          quotedRun single fuel (e :: done) c
      else quotedRun single fuel (x :: done) c.skip

/-- Whether the cursor stands at the closing mark. -/
def atQuote (single : Bool) (c : Cursor) : Bool :=
  c.peek.any fun x => if single then x.toNat == 0x27 else x == '"'

/-- Reads a quoted scalar behind its opening mark. `text` is what was read so far, reversed. -/
def quotedFrom (single : Bool) : Nat → (text : List Char) → Cursor → Option (List Char × Cursor)
  | 0, _, _ => none
  | fuel + 1, text, c =>
    if c.atDocumentMarker || c.atEnd then none
    else do
      let (run, escaped, c) ← quotedRun single (c.rest.length + 1) text c
      if !escaped && atQuote single c then return (run, c.skip)
      if escaped && atQuote single c then return (run, c.skip)
      let (fold, c) ← readFold none (c.rest.length + 1) { broken := escaped } c
      quotedFrom single fuel (fold.text.reverse ++ run) c

/-- Reads a quoted scalar at its opening mark. -/
def quotedScalar (single : Bool) (c : Cursor) : Option (String × Cursor) := do
  let (text, c) ← quotedFrom single (c.rest.length + 2) [] c.skip
  return (String.ofList text.reverse, c)

/-! ## Block scalars -/

/-- What happens to the line breaks at the end of a block. -/
inductive Chomp where
  | strip
  | clip
  | keep
  deriving DecidableEq

/-- Reads the chomping mark of a block header. -/
def chompMark (c : Cursor) : Option (Chomp × Cursor) :=
  if c.sees '+' then some (.keep, c.skip)
  else if c.sees '-' then some (.strip, c.skip)
  else none

/-- Reads the indentation mark of a block header: a digit other than zero. -/
def indentMark (c : Cursor) : Option (Option Nat × Cursor) :=
  match c.peek with
  | some d => if d.isDigit then
      if d == '0' then none else some (some (d.toNat - 0x30), c.skip)
    else some (none, c)
  | none => some (none, c)

/-- Reads the marks of a block header in either order. -/
def blockMarks (c : Cursor) : Option (Chomp × Option Nat × Cursor) := do
  match chompMark c with
  | some (chomp, c) =>
    let (indent, c) ← indentMark c
    return (chomp, indent, c)
  | none =>
    let (indent, c) ← indentMark c
    match indent, chompMark c with
    | some _, some (chomp, c) => return (chomp, indent, c)
    | _, _ => return (.clip, indent, c)

/-- Reads the indentation and the empty lines before a line of a block. Without a known indentation
the deepest one met is noted. -/
def blockGap (indent : Option Nat) :
    Nat → (deepest : Nat) → (breaks : List Char) → Cursor → Option (Nat × List Char × Cursor)
  | 0, _, _, _ => none
  | fuel + 1, deepest, breaks, c =>
    let inside := fun (column : Nat) => match indent with
      | some i => decide (column < i)
      | none => true
    let blanks := (c.rest.takeWhile (· == ' ')).length
    let take := match indent with
      | some i => min blanks (i - c.column)
      | none => blanks
    let c := c.skipMany take
    let deepest := max deepest c.column
    if inside c.column && c.sees '\t' then none
    else match c.peek with
      | some x =>
        if isBreak x then blockGap indent fuel deepest (breakText x :: breaks) c.skipBreak
        else some (deepest, breaks, c)
      | none => some (deepest, breaks, c)

/-- Reads the lines of a block. `text` is what was read so far and `lead` the break at its end, both
reversed; `trail` holds the empty lines since, reversed. -/
def blockLines (folded : Bool) (indent : Nat) :
    Nat → (text : List Char) → (lead : Option Char) → (leadBlank : Bool) → (trail : List Char) →
    Cursor → Option (List Char × Option Char × List Char × Cursor)
  | 0, _, _, _, _, _ => none
  | fuel + 1, text, lead, leadBlank, trail, c =>
    if c.column != indent || c.atEnd then some (text, lead, trail, c)
    else do
      let blank := c.peek.any isGap
      let joined :=
        if folded && lead == some '\n' && !leadBlank && !blank then
          if trail.isEmpty then ' ' :: text else text
        else lead.toList ++ text
      let (line, c) := c.span fun x => !isBreak x
      let text := line.reverse ++ (trail ++ joined)
      let (lead, c) := match c.peek with
        | some x => (some (breakText x), c.skipBreak)
        | none => (none, c)
      let (_, trail, c) ← blockGap (some indent) (c.rest.length + 1) 0 [] c
      blockLines folded indent fuel text lead blank trail c

/-- Reads a block scalar at its mark, inside the indentation `parent`. -/
def blockScalar (folded : Bool) (parent : Int) (c : Cursor) : Option (String × Cursor) := do
  let (chomp, increment, c) ← blockMarks c.skip
  let c := c.skipWhile isGap
  let c := if c.sees '#' then c.skipWhile fun x => !isBreak x else c
  if !endsLine c.peek then none
  let c := c.skipBreak
  let known := increment.map fun n => if 0 ≤ parent then parent.toNat + n else n
  let (deepest, breaks, c) ← blockGap known (c.rest.length + 1) 0 [] c
  let indent := known.getD (max deepest (max (parent + 1).toNat 1))
  let (text, lead, trail, c) ← blockLines folded indent (c.rest.length + 1) [] none false breaks c
  let tail := match chomp with
    | .strip => text
    | .clip => lead.toList ++ text
    | .keep => trail ++ (lead.toList ++ text)
  return (String.ofList tail.reverse, c)

end AgentGovernance.Yaml
