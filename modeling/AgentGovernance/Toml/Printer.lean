-- SUMMARY: Writing TOML documents over several lines, one section per table.
import AgentGovernance.Number.Shortest
import AgentGovernance.Toml.Document

/-!
# Writing documents

A table writes its plain entries first and then each table inside it as a section of its own.
Sections stand apart by an empty line. An array with more than one item has a line for each of them.
A text takes the first kind of quotes in which it needs no escapes: double quotes, single quotes,
three double quotes if it has line breaks, three single quotes.
-/

namespace AgentGovernance.Toml

/-! ## Texts -/

/-- Control characters that no string may hold without an escape. -/
def needsCode (c : Char) : Bool :=
  (c.toNat < 0x20 && c != '\t' && c != '\n') || c.toNat == 0x7F

/-- The longest stretch of a character in a text. -/
def longestRun (c : Char) (cs : List Char) : Nat :=
  (cs.foldl (fun (now, most) d =>
    let now := if d == c then now + 1 else 0
    (now, max now most)) (0, 0)).2

/-- An upper-case hexadecimal digit. -/
def upperHexDigit (n : Nat) : Char :=
  if n < 10 then Char.ofNat (0x30 + n) else Char.ofNat (0x37 + n)

/-- How a character other than a double quote stands in double quotes. -/
def escapedChar (block : Bool) (c : Char) : List Char :=
  match c.toNat with
  | 0x08 => ['\\', 'b']
  | 0x09 => ['\\', 't']
  | 0x0A => if block then ['\n'] else ['\\', 'n']
  | 0x0C => ['\\', 'f']
  | 0x0D => ['\\', 'r']
  | 0x5C => ['\\', '\\']
  | n =>
    if n < 0x20 || n == 0x7F then
      ['\\', 'u', '0', '0', upperHexDigit (n / 16), upperHexDigit (n % 16)]
    else [c]

/-- A text with escapes. In a block two double quotes in a row stand for themselves. -/
def escapedText (block : Bool) (run : Nat) : List Char → List Char
  | [] => []
  | '"' :: cs =>
    if run < (if block then 2 else 0) then '"' :: escapedText block (run + 1) cs
    else '\\' :: '"' :: escapedText block 0 cs
  | c :: cs => escapedChar block c ++ escapedText block 0 cs

/-- A text in quotes. -/
def quotedText (s : String) : String :=
  let cs := s.toList
  let codes := cs.any needsCode
  let backslash := cs.contains '\\'
  let doubles := longestRun '"' cs
  let singles := longestRun '\'' cs
  let broken := cs.contains '\n'
  let block (quotes : String) (body : String) : String :=
    quotes ++ (if broken then "\n" else "") ++ body ++ quotes
  if !codes && !backslash && doubles == 0 && !broken then
    "\"" ++ String.ofList (escapedText false 0 cs) ++ "\""
  else if !codes && singles == 0 && !broken then "'" ++ s ++ "'"
  else if !codes && !backslash && doubles ≤ 2 && broken then
    block "\"\"\"" (String.ofList (escapedText true 0 cs))
  else if !codes && singles ≤ 2 then block "'''" s
  else if broken then block "\"\"\"" (String.ofList (escapedText true 0 cs))
  else "\"" ++ String.ofList (escapedText false 0 cs) ++ "\""

/-- A name as it stands in keys, in quotes if it needs them. -/
def keyText (s : String) : String :=
  let cs := s.toList
  if !cs.isEmpty && cs.all isNameChar then s
  else if !cs.any needsCode && !cs.contains '\\' && !cs.contains '"' && !cs.contains '\n' then
    "\"" ++ String.ofList (escapedText false 0 cs) ++ "\""
  else if !cs.any needsCode && !cs.contains '\'' && !cs.contains '\n' then "'" ++ s ++ "'"
  else "\"" ++ String.ofList (escapedText false 0 cs) ++ "\""

/-! ## Values -/

mutual

/-- The text of a value behind its key. -/
def inlineText : Toml → String
  | .string s => quotedText s
  | .integer n => toString n
  | .float d => d.text
  | .bool b => if b then "true" else "false"
  | .moment normal => normal
  | .array [] => "[]"
  | .array [t] => "[" ++ inlineText t ++ "]"
  | .array ts => "[\n" ++ itemLines ts ++ "]"
  | .table es => "\x7b " ++ inlinePairs es ++ " \x7d"

/-- The items of an array, a line for each. -/
def itemLines : List Toml → String
  | [] => ""
  | t :: ts => "    " ++ inlineText t ++ ",\n" ++ itemLines ts

/-- The entries of a table inside an array of plain values. -/
def inlinePairs : List (String × Toml) → String
  | [] => ""
  | [(k, t)] => keyText k ++ " = " ++ inlineText t
  | (k, t) :: rest => keyText k ++ " = " ++ inlineText t ++ ", " ++ inlinePairs rest

end

/-- The tables of an array that holds one or more of them and nothing else. -/
def tables? : Toml → Option (List (List (String × Toml)))
  | .array [] => none
  | .array ts => ts.mapM fun
    | .table es => some es
    | _ => none
  | _ => none

/-- Whether a value has a section of its own. -/
def hasSection : Toml → Bool
  | .table _ => true
  | t => (tables? t).isSome

/-- The lines of the entries that have no section. -/
def plainLines (es : List (String × Toml)) : String :=
  String.join ((es.filter fun e => !hasSection e.2).map fun (k, t) =>
    keyText k ++ " = " ++ inlineText t ++ "\n")

/-- The sections of the entries of a table at a path, for tables inside at most `depth` others. -/
def sections : (depth : Nat) → (path : List String) → List (String × Toml) → List String
  | 0, _, _ => []
  | depth + 1, path, es =>
    es.flatMap fun (k, t) =>
      let path := path ++ [k]
      let key := ".".intercalate (path.map keyText)
      match t with
      | .table inner => ("[" ++ key ++ "]\n" ++ plainLines inner) :: sections depth path inner
      | _ => ((tables? t).getD []).flatMap fun inner =>
        ("[[" ++ key ++ "]]\n" ++ plainLines inner) :: sections depth path inner

mutual

/-- How many tables and arrays stand inside one another. -/
def depth : Toml → Nat
  | .array ts => depthItems ts + 1
  | .table es => depthEntries es + 1
  | _ => 0

/-- The greatest depth of the items of an array. -/
def depthItems : List Toml → Nat
  | [] => 0
  | t :: ts => max (depth t) (depthItems ts)

/-- The greatest depth of the entries of a table. -/
def depthEntries : List (String × Toml) → Nat
  | [] => 0
  | (_, t) :: rest => max (depth t) (depthEntries rest)

end

/-- The text of a document. -/
def render (es : List (String × Toml)) : String :=
  let head := plainLines es
  let parts := sections (depthEntries es + 1) [] es
  "\n".intercalate (if head.isEmpty then parts else head :: parts)

end AgentGovernance.Toml
