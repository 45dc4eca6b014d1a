-- SUMMARY: Reading TOML documents: keys, arrays, inline tables, headers and lines.
import AgentGovernance.Toml.Scalar

/-!
# Documents

A document is a sequence of lines: headers, which choose the table that the following lines add to,
and assignments. Arrays may run over several lines; inline tables may not. Every step into a value
or on to the next line costs one unit of fuel, and the length of the text is always enough.
-/

namespace AgentGovernance.Toml

/-- How many names a key may have, and how many arrays and inline tables may stand inside one
another, plus one. -/
def depthLimit : Nat := 80

/-- The text without the blanks at its start. -/
def skipGap (cs : List Char) : List Char := cs.dropWhile isGap

/-- The text without the comment at its start. -/
def skipComment : List Char → List Char
  | '#' :: rest => rest.dropWhile isPlain
  | cs => cs

/-- The text without blanks, comments and line breaks at its start. -/
def skipLines : Nat → List Char → List Char
  | 0, cs => cs
  | n + 1, cs =>
    let cs := skipComment (skipGap cs)
    match lineBreak? cs with
    | some rest => skipLines n rest
    | none => cs

/-- The text behind the end of a line: blanks, a comment, and a line break or the end of the text.
-/
def lineEnd? (cs : List Char) : Option (List Char) :=
  match skipComment (skipGap cs) with
  | [] => some []
  | cs => lineBreak? cs

/-! ## Keys -/

/-- Characters of names without quotes. -/
def isNameChar (c : Char) : Bool := c.isAlphanum || c == '_' || c == '-'

/-- One name of a key. -/
def name? (cs : List Char) : Option (String × List Char) :=
  match cs with
  | '"' :: rest => (lineString '"' rest).map fun (n, rest) => (String.ofList n, rest)
  | '\'' :: rest => (lineString '\'' rest).map fun (n, rest) => (String.ofList n, rest)
  | _ =>
    let n := cs.takeWhile isNameChar
    if n.isEmpty then none else some (String.ofList n, cs.dropWhile isNameChar)

/-- Names with points between them, blanks around each. -/
def names? : Nat → List Char → Option (List String × List Char)
  | 0, _ => none
  | n + 1, cs => do
    let (first, rest) ← name? (skipGap cs)
    match skipGap rest with
    | '.' :: rest => do
      let (more, rest) ← names? n rest
      return (first :: more, rest)
    | rest => return ([first], rest)

/-- A key. -/
def key? (cs : List Char) : Option (List String × List Char) := names? (depthLimit - 1) cs

/-! ## Values -/

mutual

/-- A value inside `depth` arrays and inline tables. -/
def value? : (fuel depth : Nat) → List Char → Option (Toml × List Char)
  | 0, _, _ => none
  | fuel + 1, depth, cs =>
    match cs with
    | '[' :: rest =>
      if depth + 1 < depthLimit then do
        let (items, rest) ← items? fuel (depth + 1) (skipLines rest.length rest)
        return (.array items, rest)
      else none
    | '\x7b' :: rest =>
      if depth + 1 < depthLimit then
        match skipGap rest with
        | '\x7d' :: rest => some (.table [], rest)
        | rest => do
          let (entries, rest) ← pairs? fuel (depth + 1) [] rest
          return (.table (finished entries), rest)
      else none
    | '"' :: _ => (string? cs).map fun (s, rest) => (.string s, rest)
    | '\'' :: _ => (string? cs).map fun (s, rest) => (.string s, rest)
    | _ => bareScalar? cs

/-- The items of an array from the first one on, with the closing bracket. A comma may follow the
last item. -/
def items? : (fuel depth : Nat) → List Char → Option (List Toml × List Char)
  | 0, _, _ => none
  | fuel + 1, depth, cs =>
    match cs with
    | ']' :: rest => some ([], rest)
    | _ => do
      let (v, rest) ← value? fuel depth cs
      match skipLines rest.length rest with
      | ',' :: rest => do
        let (vs, rest) ← items? fuel depth (skipLines rest.length rest)
        return (v :: vs, rest)
      | ']' :: rest => return ([v], rest)
      | _ => none

/-- The pairs of an inline table from the next one on, with the closing brace. -/
def pairs? : (fuel depth : Nat) → Entries → List Char → Option (Entries × List Char)
  | 0, _, _, _ => none
  | fuel + 1, depth, entries, cs => do
    let (key, rest) ← key? cs
    match rest with
    | '=' :: rest => do
      let (v, rest) ← value? fuel depth (skipGap rest)
      let entries ← assign key v .declared entries
      match skipGap rest with
      | ',' :: rest => pairs? fuel depth entries rest
      | '\x7d' :: rest => return (entries, rest)
      | _ => none
    | _ => none

end

/-! ## Lines -/

/-- The key of a header, up to the text behind its closing brackets. -/
def header? (closing : List Char) (cs : List Char) : Option (List String × List Char) := do
  let (key, rest) ← key? cs
  if closing.isPrefixOf rest then return (key, ← lineEnd? (rest.drop closing.length))
  else none

/-- Adds the lines of a text to a document. `header` names the table that assignments go to. -/
def lines? : (fuel : Nat) → (header : List String) → Entries → List Char → Option Entries
  | 0, _, _, _ => none
  | fuel + 1, header, entries, cs =>
    match skipGap cs with
    | [] => some entries
    | '[' :: '[' :: rest => do
      let (key, rest) ← header? [']', ']'] rest
      lines? fuel key (← extend key entries) rest
    | '[' :: rest => do
      let (key, rest) ← header? [']'] rest
      lines? fuel key (← declare key entries) rest
    | c :: rest =>
      if c == '#' || c == '\n' || c == '\r' then do
        lines? fuel header entries (← lineEnd? (c :: rest))
      else do
        let (key, rest) ← key? (c :: rest)
        match rest with
        | '=' :: rest => do
          let (v, rest) ← value? (rest.length + 1) 0 (skipGap rest)
          lines? fuel header (← assignWithin header key v entries) (← lineEnd? rest)
        | _ => none

/-- The entries of a document. A byte order mark at its start is passed over. -/
def document? (text : String) : Option (List (String × Toml)) :=
  let cs := match text.toList with
    | c :: rest => if c.toNat == 0xFEFF then rest else c :: rest
    | [] => []
  (lines? (cs.length + 1) [] [] cs).map finished

end AgentGovernance.Toml
