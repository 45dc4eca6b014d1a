-- SUMMARY: YAML tokens: cutting a text into marks, names and scalars, with the block structure spelled out.
import AgentGovernance.Yaml.Scalar

/-!
# Tokens

A text is cut into tokens from left to right. Blocks are told by indentation, so the scanner keeps a
stack of columns and writes a token wherever a block opens or closes. That a scalar is the key of a
mapping shows only at the colon behind it; the scanner therefore remembers, for every level of
brackets, where a key could start, and puts the key's tokens there once the colon is found.
-/

namespace AgentGovernance.Yaml

/-- A token. -/
inductive Token where
  | versionDirective (major minor : Nat)
  | tagDirective (handle uri : String)
  | documentStart
  | documentEnd
  | blockSequenceStart
  | blockMappingStart
  | blockEnd
  | flowSequenceStart
  | flowSequenceEnd
  | flowMappingStart
  | flowMappingEnd
  | blockEntry
  | flowEntry
  | key
  | value
  | alias (name : String)
  | anchor (name : String)
  | tag (handle suffix : String)
  | scalar (text : String) (plain : Bool)
  deriving DecidableEq, Repr

/-! ## Scanner state -/

/-- A place at which a key could start. -/
structure KeyStart where
  /-- Number of tokens before the key. -/
  number : Nat
  index : Nat
  line : Nat
  column : Nat
  /-- Whether nothing but a key can stand there. -/
  required : Bool

/-- The tokens read so far and what is needed to read on. -/
structure Scan where
  cursor : Cursor
  tokens : Array Token := #[]
  /-- Column of the innermost block; -1 outside of all blocks. -/
  indent : Int := -1
  /-- Columns of the blocks around it. -/
  outer : List Int := []
  /-- Possible start of a key at the current level of brackets. -/
  key? : Option KeyStart := none
  /-- The same for the levels around it; as long as the level is deep. -/
  outerKeys : List (Option KeyStart) := []
  /-- Whether a key may start here. -/
  keyAllowed : Bool := true

namespace Scan

/-- Whether the cursor stands inside brackets. -/
def inFlow (s : Scan) : Bool := !s.outerKeys.isEmpty

/-- Adds a token at the end. -/
def emit (s : Scan) (t : Token) : Scan := { s with tokens := s.tokens.push t }

/-- Adds a token for the characters that are passed over. -/
def emitOver (s : Scan) (n : Nat) (t : Token) : Scan :=
  { s with tokens := s.tokens.push t, cursor := s.cursor.skipMany n }

/-- Adds a token in front of the token with the given number. -/
def emitAt (s : Scan) (number : Nat) (t : Token) : Scan :=
  { s with tokens := s.tokens.extract 0 number ++ #[t] ++ s.tokens.extract number s.tokens.size }

/-- Opens a block at a column that lies deeper than the innermost block. -/
def openBlock (s : Scan) (column : Nat) (number : Nat) (t : Token) : Scan :=
  if !s.inFlow && s.indent < column then
    { s with outer := s.indent :: s.outer, indent := column }.emitAt number t
  else s

/-- Closes blocks that lie deeper than a column; `outer` holds the columns around the innermost. -/
def closeFrom (column : Int) (outer : List Int) (s : Scan) : Scan :=
  match outer with
  | [] => s
  | i :: rest =>
    if column < s.indent then
      closeFrom column rest ({ s with indent := i, outer := rest }.emit .blockEnd)
    else s

/-- Closes the blocks that lie deeper than a column. -/
def closeBlocks (s : Scan) (column : Int) : Scan :=
  if s.inFlow then s else closeFrom column s.outer s

/-- Gives up the possible start of a key, which fails if a key had to stand there. -/
def dropKey (s : Scan) : Option Scan :=
  if s.key?.any fun k => k.required then none else some { s with key? := none }

/-- Remembers that a key could start here. -/
def saveKey (s : Scan) : Option Scan :=
  if s.keyAllowed then do
    let s ← s.dropKey
    let k : KeyStart :=
      { number := s.tokens.size, index := s.cursor.index, line := s.cursor.line
        column := s.cursor.column, required := !s.inFlow && s.indent == s.cursor.column }
    return { s with key? := some k }
  else some s

/-- The longest text that a key may have. -/
def keyLimit : Nat := 1024

/-- Whether a key that started at `k` would be too long or span two lines. -/
def isStale (s : Scan) (k : KeyStart) : Bool :=
  k.line < s.cursor.line || k.index + keyLimit < s.cursor.index

/-- Forgets the starts of keys that cannot be keys any more. -/
def dropStaleKeys (s : Scan) : Option Scan := do
  let check := fun (k : Option KeyStart) => match k with
    | none => some none
    | some k => if s.isStale k then (if k.required then none else some none) else some (some k)
  return { s with key? := ← check s.key?, outerKeys := ← s.outerKeys.mapM check }

/-! ## Blanks, comments and directives -/

/-- Passes over blanks, comments and line breaks. A line break outside of brackets allows a key. -/
def skipIdle : Nat → Scan → Scan
  | 0, s => s
  | fuel + 1, s =>
    let c := s.cursor
    let c := if c.index == 0 && c.peek.any (fun x => x.toNat == 0xFEFF) then c.skip else c
    let tabs := s.inFlow || !s.keyAllowed
    let c := c.skipWhile fun x => x == ' ' || (tabs && x == '\t')
    let c := if c.sees '#' then c.skipWhile fun x => !isBreak x else c
    if c.peek.any isBreak then
      skipIdle fuel
        { s with cursor := c.skipBreak, keyAllowed := s.keyAllowed || !s.inFlow }
    else { s with cursor := c }

/-- Characters of tags besides those of names. -/
def isUriMark (brackets : Bool) (c : Char) : Bool :=
  c.toNat == 0x27 || (";/?:@&=+$.%!~*()".toList.contains c) ||
    (brackets && (c == ',' || c == '[' || c == ']'))

/-- Reads the bytes that stand as percent signs with two digits each and make up one character. -/
def uriEscape : (width : Option Nat) → Nat → List UInt8 → Cursor → Option (List UInt8 × Cursor)
  | _, 0, _, _ => none
  | width, fuel + 1, done, c =>
    match c.rest with
    | '%' :: a :: b :: _ => do
      let n := 16 * (← hexValue? a) + (← hexValue? b)
      let left ← match width with
        | some w => if n / 64 == 2 then some (w - 1) else none
        | none =>
          if n < 0x80 then some 0 else if n / 32 == 6 then some 1
          else if n / 16 == 14 then some 2 else if n / 8 == 30 then some 3 else none
      let done := n.toUInt8 :: done
      if left == 0 then return (done, c.skipMany 3)
      uriEscape (some left) fuel done (c.skipMany 3)
    | _ => none

/-- Reads the characters of a tag as bytes, reversed. -/
def uriBytes (brackets : Bool) : Nat → List UInt8 → Cursor → Option (List UInt8 × Cursor)
  | 0, _, _ => none
  | fuel + 1, done, c =>
    match c.peek with
    | some '%' => do
      let (done, c) ← uriEscape none 5 done c
      uriBytes brackets fuel done c
    | some x =>
      if isNameChar x || isUriMark brackets x then
        uriBytes brackets fuel (x.toNat.toUInt8 :: done) c.skip
      else some (done, c)
    | none => some (done, c)

/-- Reads the characters of a tag behind a given start. -/
def uri (brackets : Bool) (start : List Char) (c : Cursor) : Option (String × Cursor) := do
  let (bytes, c) ← uriBytes brackets (c.rest.length + 1) [] c
  if start.isEmpty && bytes.isEmpty then none
  let bytes := (start.drop 1).map (fun x => x.toNat.toUInt8) ++ bytes.reverse
  return ((String.fromUTF8? ⟨bytes.toArray⟩).getD "?", c)

/-- Reads a tag handle: an exclamation mark, name characters, and perhaps another mark. -/
def tagHandle (directive : Bool) (c : Cursor) : Option (List Char × Cursor) :=
  if c.sees '!' then
    let (name, c) := c.skip.span isNameChar
    if c.sees '!' then some ('!' :: name ++ ['!'], c.skip)
    else if directive && !name.isEmpty then none
    else some ('!' :: name, c)
  else none

/-- Reads a part of a version number: up to nine digits. -/
def versionNumber (c : Cursor) : Option (Nat × Cursor) :=
  let (digits, c) := c.span Char.isDigit
  if digits.isEmpty || 9 < digits.length then none
  else some (digits.foldl (fun n d => 10 * n + (d.toNat - 0x30)) 0, c)

/-- Reads the values of a directive. -/
def directiveValue (name : String) (c : Cursor) : Option (Token × Cursor) :=
  if name == "YAML" then do
    let (major, c) ← versionNumber (c.skipWhile isGap)
    if !c.sees '.' then none
    let (minor, c) ← versionNumber c.skip
    return (.versionDirective major minor, c)
  else if name == "TAG" then do
    let (handle, c) ← tagHandle true (c.skipWhile isGap)
    if !c.peek.any isGap then none
    let (text, c) ← uri true [] (c.skipWhile isGap)
    if !endsWord c.peek then none
    return (.tagDirective (String.ofList handle) text, c)
  else none

/-- Reads a directive line. -/
def directive (c : Cursor) : Option (Token × Cursor) := do
  let (name, c) := c.skip.span isNameChar
  if name.isEmpty || !endsWord c.peek then none
  let (token, c) ← directiveValue (String.ofList name) c
  let c := c.skipWhile isGap
  let c := if c.sees '#' then c.skipWhile fun x => !isBreak x else c
  if !endsLine c.peek then none
  return (token, c.skipBreak)

/-! ## Names and tags -/

/-- Reads the name of an anchor or alias behind its mark. -/
def anchorName (c : Cursor) : Option (String × Cursor) :=
  let (name, c) := c.skip.span isNameChar
  let closed := endsWord c.peek || c.peek.any fun x =>
    x == '?' || x == ':' || x == ',' || x == ']' || x == '\x7d' || x == '%' || x == '@' ||
      x.toNat == 0x60
  if name.isEmpty || !closed then none else some (String.ofList name, c)

/-- Reads a tag: verbatim, with a handle, or local. -/
def tagText (c : Cursor) : Option (Token × Cursor) :=
  if c.peekAt 1 == some '<' then do
    let (suffix, c) ← uri true [] (c.skipMany 2)
    if !c.sees '>' then none
    return (.tag "" suffix, c.skip)
  else do
    let (handle, c) ← tagHandle false c
    if 1 < handle.length && handle.getLast? == some '!' then
      let (suffix, c) ← uri false [] c
      return (.tag (String.ofList handle) suffix, c)
    else
      let (suffix, c) ← uri false handle c
      if suffix.isEmpty then return (.tag "" "!", c) else return (.tag "!" suffix, c)

/-! ## Fetching -/

/-- Ends all blocks, as a directive, a document mark or the end of the text does. -/
def leaveBlocks (s : Scan) : Option Scan := do
  let s ← (s.closeBlocks (-1)).dropKey
  return { s with keyAllowed := false }

/-- An opening bracket, which may itself start a key. -/
def openFlow (s : Scan) (t : Token) : Option Scan := do
  let s ← s.saveKey
  return { s with outerKeys := s.key? :: s.outerKeys, key? := none, keyAllowed := true }.emitOver 1 t

/-- A closing bracket. -/
def closeFlow (s : Scan) (t : Token) : Option Scan := do
  let s ← s.dropKey
  let s := match s.outerKeys with
    | k :: rest => { s with key? := k, outerKeys := rest }
    | [] => s
  return { s with keyAllowed := false }.emitOver 1 t

/-- A comma. -/
def flowEntry (s : Scan) : Option Scan := do
  return { ← s.dropKey with keyAllowed := true }.emitOver 1 .flowEntry

/-- Opens a block for an entry that starts here, which outside of brackets needs a place for a key.
-/
def openHere (s : Scan) (t : Token) : Option Scan :=
  if s.inFlow then some s
  else if s.keyAllowed then some (s.openBlock s.cursor.column s.tokens.size t)
  else none

/-- The dash of a sequence entry. -/
def blockEntry (s : Scan) : Option Scan := do
  let s ← (← s.openHere .blockSequenceStart).dropKey
  return { s with keyAllowed := true }.emitOver 1 .blockEntry

/-- The question mark of a key. -/
def explicitKey (s : Scan) : Option Scan := do
  let s ← (← s.openHere .blockMappingStart).dropKey
  return { s with keyAllowed := !s.inFlow }.emitOver 1 .key

/-- The colon of a value. It turns what stands before it into a key if that is possible. -/
def mappingValue (s : Scan) : Option Scan :=
  match s.key? with
  | some k =>
    let s := (s.emitAt k.number .key).openBlock k.column k.number .blockMappingStart
    some ({ s with key? := none, keyAllowed := false }.emitOver 1 .value)
  | none => do
    let s ← s.openHere .blockMappingStart
    return { s with keyAllowed := !s.inFlow }.emitOver 1 .value

/-- An alias or an anchor. -/
def anchorOrAlias (s : Scan) (token : String → Token) : Option Scan := do
  let s ← s.saveKey
  let (name, c) ← anchorName s.cursor
  return { s with keyAllowed := false, cursor := c }.emit (token name)

/-- A tag, which ends a word or, inside brackets, stands before a comma. -/
def tagMark (s : Scan) : Option Scan := do
  let s ← s.saveKey
  let (token, c) ← tagText s.cursor
  if !(endsWord c.peek || (s.inFlow && c.sees ',')) then none
  return { s with keyAllowed := false, cursor := c }.emit token

/-- A literal or folded block. -/
def block (s : Scan) (folded : Bool) : Option Scan := do
  let s ← s.dropKey
  let (text, c) ← blockScalar folded s.indent s.cursor
  return { s with keyAllowed := true, cursor := c }.emit (.scalar text false)

/-- A quoted scalar. -/
def quotedText (s : Scan) (single : Bool) : Option Scan := do
  let s ← s.saveKey
  let (text, c) ← quotedScalar single s.cursor
  return { s with keyAllowed := false, cursor := c }.emit (.scalar text false)

/-- A plain scalar. -/
def plainText (s : Scan) : Option Scan := do
  let s ← s.saveKey
  let (text, broken, c) ← plainScalar s.inFlow (s.indent + 1) s.cursor
  return { s with keyAllowed := broken, cursor := c }.emit (.scalar text true)

/-- Characters with which a plain scalar does not start. -/
def isIndicator (c : Char) : Bool :=
  ("-?:,[]\x7b\x7d#&*!|>\"%@".toList.contains c) || c.toNat == 0x27 || c.toNat == 0x60

/-- Whether a plain scalar can start with a character that is followed by another. -/
def startsPlain (inFlow : Bool) (x : Char) (next : Option Char) : Bool :=
  (!isIndicator x && !endsWord (some x)) ||
    (x == '-' && !next.any isGap) ||
    (!inFlow && (x == '?' || x == ':') && !endsWord next)

/-- Reads the token that starts with `x`. -/
def fetch (s : Scan) (x : Char) : Option Scan :=
  let c := s.cursor
  let next := c.peekAt 1
  let indicates := s.inFlow || endsWord next
  if c.column == 0 && x == '%' then do
    let s ← s.leaveBlocks
    let (token, c) ← directive s.cursor
    return { s with cursor := c }.emit token
  else if c.atMarker '-' then do return (← s.leaveBlocks).emitOver 3 .documentStart
  else if c.atMarker '.' then do return (← s.leaveBlocks).emitOver 3 .documentEnd
  else if x == '[' then s.openFlow .flowSequenceStart
  else if x == '\x7b' then s.openFlow .flowMappingStart
  else if x == ']' then s.closeFlow .flowSequenceEnd
  else if x == '\x7d' then s.closeFlow .flowMappingEnd
  else if x == ',' then s.flowEntry
  else if x == '-' && endsWord next then s.blockEntry
  else if x == '?' && indicates then s.explicitKey
  else if x == ':' && indicates then s.mappingValue
  else if x == '*' then s.anchorOrAlias .alias
  else if x == '&' then s.anchorOrAlias .anchor
  else if x == '!' then s.tagMark
  else if x == '|' && !s.inFlow then s.block false
  else if x == '>' && !s.inFlow then s.block true
  else if x.toNat == 0x27 then s.quotedText true
  else if x == '"' then s.quotedText false
  else if startsPlain s.inFlow x next then s.plainText
  else none

/-- Reads tokens up to the end of the text. -/
def run : Nat → Scan → Option (List Token)
  | 0, _ => none
  | fuel + 1, s => do
    let s ← (skipIdle (s.cursor.rest.length + 1) s).dropStaleKeys
    let s := s.closeBlocks s.cursor.column
    match s.cursor.peek with
    | some x => run fuel (← s.fetch x)
    | none => return (← s.leaveBlocks).tokens.toList

end Scan

/-- The tokens of a text, without a mark of byte order in front. -/
def tokens? (text : String) : Option (List Token) :=
  let cs := match text.toList with
    | c :: rest => if c.toNat == 0xFEFF then rest else c :: rest
    | [] => []
  if cs.all isPrintable then
    Scan.run (cs.length + 2) { cursor := { rest := cs } }
  else none

end AgentGovernance.Yaml
