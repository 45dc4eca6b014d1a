-- SUMMARY: The structured block of a descriptor text: front matter or the first fenced block.
import AgentGovernance.Path
import AgentGovernance.Text.Blank

/-!
# Structured blocks

A descriptor file is YAML as a whole, or Markdown that carries a block of YAML: front matter between
two lines of three dashes, or the first fenced block that is marked as YAML.
-/

namespace AgentGovernance

/-- Splits a list at every line feed. `line` holds the line being read, reversed. -/
def splitLines (line : List Char) : List Char → List (List Char)
  | [] => if line.isEmpty then [] else [line.reverse]
  | '\n' :: cs => dropReturn line :: splitLines [] cs
  | c :: cs => splitLines (c :: line) cs
where
  /-- A reversed line without the carriage return at its end. -/
  dropReturn : List Char → List Char
    | '\r' :: cs => cs.reverse
    | cs => cs.reverse

/-- The lines of a text. A line ends with a line feed, perhaps after a carriage return, and the last
one needs no end. -/
def textLines (s : String) : List String := (splitLines [] s.toList).map String.ofList

namespace Descriptor

/-- Extensions of descriptor files, without regard to case. -/
def extensions : List String := ["yaml", "yml", "md"]

/-- A text with its ASCII letters in lower case. -/
def asciiLower (s : String) : String := String.ofList (s.toList.map Char.toLower)

/-- Whether a path has the extension of a descriptor file. -/
def isDescriptorFile (p : Path) : Bool :=
  match p.extension? with
  | some e => extensions.contains (asciiLower e)
  | none => false

/-- Whether a path has the extension of Markdown. -/
def isMarkdown (p : Path) : Bool :=
  match p.extension? with
  | some e => asciiLower e == "md"
  | none => false

/-- The lines up to the first that satisfies `closes`, if there is one. -/
def takeUntil (closes : String → Bool) : List String → Option (List String)
  | [] => none
  | l :: ls => if closes l then some [] else (takeUntil closes ls).map (l :: ·)

/-- Whether a text opens front matter on its first line, marks of byte order apart. -/
def opensFrontMatter (content : String) : Bool :=
  "---".toList.isPrefixOf (content.toList.dropWhile fun c => c.toNat == 0xFEFF)

/-- The mark of a fence: three grave accents. -/
def fence : String := "\x60\x60\x60"

/-- Whether a line opens a fenced block of YAML. -/
def opensFence (line : String) : Bool :=
  Text.trim line == fence ++ "yaml" || Text.trim line == fence ++ "yml"

/-- Whether a line closes a fenced block. -/
def closesFence (line : String) : Bool :=
  fence.toList.isPrefixOf (Text.trim line).toList

/-- The structured block of a Markdown text. -/
def block? (content : String) : Option String :=
  let lines := textLines content
  let body :=
    if opensFrontMatter content then
      takeUntil (fun l => Text.trimEnd l == "---") (lines.drop 1)
    else
      match lines.dropWhile fun l => !opensFence l with
      | [] => none
      | _ :: inside => takeUntil closesFence inside
  body.map fun ls => "\n".intercalate ls

end Descriptor

end AgentGovernance
