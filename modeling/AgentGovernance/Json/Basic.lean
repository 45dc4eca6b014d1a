-- SUMMARY: JSON values with ordered fields, and their compact and indented texts.

/-!
# JSON values

The value type of the documents that the library reads and writes. Objects keep their fields in the
order in which they were written, repetitions included. A text can be well formed and still denote
no value: a string with an unpaired surrogate escape, a number beyond the range of a double, or
brackets nested too deep. Such a part reads as `broken`, which a reader may pass over and never
uses.
-/

namespace AgentGovernance

/-- A JSON value. Integers between `-2^63` and `2^64 - 1` are numbers of their own; every other
number keeps its spelling. -/
inductive Json where
  | null
  | bool (value : Bool)
  | integer (value : Int)
  | decimal (spelling : String)
  | string (value : String)
  | array (items : List Json)
  | object (fields : List (String × Json))
  | broken
  deriving Inhabited, BEq

namespace Json

/-! ## Building values -/

/-- A natural number as a value. -/
def nat (n : Nat) : Json := .integer n

/-- The value, or `null` if there is none. -/
def optional {α : Type} (encode : α → Json) : Option α → Json
  | some a => encode a
  | none => .null

/-- An array of encoded elements. -/
def list {α : Type} (encode : α → Json) (xs : List α) : Json := .array (xs.map encode)

/-- An array of strings. -/
def strings (xs : List String) : Json := list .string xs

/-- A field that is left out when there is no value. -/
def fieldIfSome {α : Type} (name : String) (encode : α → Json) : Option α → List (String × Json)
  | some a => [(name, encode a)]
  | none => []

/-- The first field of the given name. -/
def get? (name : String) : Json → Option Json
  | .object fields => fields.lookup name
  | _ => none

/-! ## Text -/

/-- A lower-case hexadecimal digit. -/
def hexDigit (n : Nat) : Char :=
  if n < 10 then Char.ofNat (0x30 + n) else Char.ofNat (0x57 + n)

/-- How a character stands inside a string: quotes, backslashes and control characters are escaped.
-/
def escapeChar (c : Char) : List Char :=
  if c == '"' then ['\\', '"']
  else if c == '\\' then ['\\', '\\']
  else if c == '\n' then ['\\', 'n']
  else if c == '\r' then ['\\', 'r']
  else if c == '\t' then ['\\', 't']
  else if c.toNat == 0x08 then ['\\', 'b']
  else if c.toNat == 0x0C then ['\\', 'f']
  else if c.toNat < 0x20 then
    ['\\', 'u', '0', '0', hexDigit (c.toNat / 16), hexDigit (c.toNat % 16)]
  else [c]

/-- A string in quotes. -/
def quoted (s : String) : List Char :=
  '"' :: s.toList.flatMap escapeChar ++ ['"']

/-- The text of a value that holds no other values. -/
def leafText : Json → List Char
  | .bool true => "true".toList
  | .bool false => "false".toList
  | .integer n => (toString n).toList
  | .decimal spelling => spelling.toList
  | .string s => quoted s
  | _ => "null".toList

mutual

/-- The text of a value on one line, without blanks. -/
def compactChars : Json → List Char
  | .array items => '[' :: compactItems items
  | .object fields => '\x7b' :: compactFields fields
  | leaf => leafText leaf

/-- The rest of an array after its opening bracket. -/
def compactItems : List Json → List Char
  | [] => [']']
  | [j] => compactChars j ++ [']']
  | j :: js => compactChars j ++ ',' :: compactItems js

/-- The rest of an object after its opening brace. -/
def compactFields : List (String × Json) → List Char
  | [] => ['\x7d']
  | [(k, v)] => quoted k ++ ':' :: compactChars v ++ ['\x7d']
  | (k, v) :: fs => quoted k ++ ':' :: compactChars v ++ ',' :: compactFields fs

end

/-- A line break followed by two blanks for each level. -/
def indentation (level : Nat) : List Char :=
  '\n' :: List.replicate (2 * level) ' '

mutual

/-- The text of a value over several lines, two blanks for each level of nesting. -/
def prettyChars (level : Nat) : Json → List Char
  | .array [] => ['[', ']']
  | .array items => '[' :: prettyItems (level + 1) items
  | .object [] => ['\x7b', '\x7d']
  | .object fields => '\x7b' :: prettyFields (level + 1) fields
  | leaf => leafText leaf

/-- The rest of an array whose items stand at `level`. -/
def prettyItems (level : Nat) : List Json → List Char
  | [] => indentation (level - 1) ++ [']']
  | [j] => indentation level ++ prettyChars level j ++ indentation (level - 1) ++ [']']
  | j :: js => indentation level ++ prettyChars level j ++ ',' :: prettyItems level js

/-- The rest of an object whose fields stand at `level`. -/
def prettyFields (level : Nat) : List (String × Json) → List Char
  | [] => indentation (level - 1) ++ ['\x7d']
  | [(k, v)] =>
    indentation level ++ quoted k ++ ':' :: ' ' :: prettyChars level v ++
      indentation (level - 1) ++ ['\x7d']
  | (k, v) :: fs =>
    indentation level ++ quoted k ++ ':' :: ' ' :: prettyChars level v ++
      ',' :: prettyFields level fs

end

/-- The one-line text of a value. -/
def compact (j : Json) : String := String.ofList (compactChars j)

/-- The indented text of a value. -/
def pretty (j : Json) : String := String.ofList (prettyChars 0 j)

/-! ## Sorted keys -/

/-- Puts a field into fields that are sorted by name; an equal name is replaced. -/
def insertField {α : Type} (name : String) (value : α) : List (String × α) → List (String × α)
  | [] => [(name, value)]
  | (k, v) :: rest =>
    if name < k then (name, value) :: (k, v) :: rest
    else if name == k then (name, value) :: rest
    else (k, v) :: insertField name value rest

mutual

/-- The same value with the fields of every object sorted by name, the last of equal names winning.
-/
def sorted : Json → Json
  | .array items => .array (sortedItems items)
  | .object fields => .object (sortedFields [] fields)
  | leaf => leaf

/-- Sorts inside every item. -/
def sortedItems : List Json → List Json
  | [] => []
  | j :: js => sorted j :: sortedItems js

/-- Adds fields one by one to those already in order. -/
def sortedFields (done : List (String × Json)) : List (String × Json) → List (String × Json)
  | [] => done
  | (k, v) :: fs => sortedFields (insertField k (sorted v) done) fs

end

/-- Whether a part of the value is broken. -/
def isBroken : Json → Bool
  | .broken => true
  | .array items => anyBroken items
  | .object fields => anyFieldBroken fields
  | _ => false
where
  /-- Whether one of the items is broken. -/
  anyBroken : List Json → Bool
    | [] => false
    | j :: js => isBroken j || anyBroken js
  /-- Whether one of the field values is broken. -/
  anyFieldBroken : List (String × Json) → Bool
    | [] => false
    | (_, v) :: fs => isBroken v || anyFieldBroken fs

end Json

end AgentGovernance
