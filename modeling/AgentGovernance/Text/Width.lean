-- SUMMARY: How many columns a text takes on a terminal.
import AgentGovernance.Text.Lowercase
import AgentGovernance.Text.Table.Columns
import AgentGovernance.Text.Table.Emoji

/-!
# Width

A character takes no column, one or two; control characters take one. Some sequences take fewer
columns than their characters: emoji that are joined or modified take two together, and a few
scripts join two letters into one.
-/

namespace AgentGovernance.Text

/-! ## Characters -/

/-- The number of columns of one character. -/
def charWidth (c : Char) : Nat :=
  let n := c.toNat
  if n < 0xAD then 1
  else if n == 0x2D7F then 1
  else if n == 0x17A4 then 2
  else if n == 0x17D8 then 3
  else if inRanges zeroWidthRanges n then 0
  else if inRanges wideRanges n then 2
  else 1

/-- The joiner, which glues the characters on both sides together. -/
def isJoiner (c : Char) : Bool := c.toNat == 0x200D

/-- The selector that asks for an emoji. -/
def selectsEmoji (c : Char) : Bool := c.toNat == 0xFE0F

/-- The selector that asks for text. -/
def selectsText (c : Char) : Bool := c.toNat == 0xFE0E

/-- Skin tones. -/
def isSkinTone (c : Char) : Bool := 0x1F3FB ≤ c.toNat && c.toNat ≤ 0x1F3FF

/-! ## Emoji -/

/-- The rest behind the mark that makes a keycap, if it is there. -/
def skipKeycap : List Char → List Char
  | c :: rest => if c.toNat == 0x20E3 then rest else c :: rest
  | [] => []

/-- The rest behind an emoji of two columns at the start of a text. -/
def emoji? : List Char → Option (List Char)
  | [] => none
  | c :: rest =>
    match rest with
    | d :: after =>
      if isSkinTone d && inRanges modifiableRanges c.toNat then some after
      else if selectsEmoji d && inRanges styledEmojiRanges c.toNat then some (skipKeycap after)
      else if selectsText d && inRanges plainEmojiRanges c.toNat then none
      else if inRanges emojiRanges c.toNat then
        some (if selectsEmoji d then skipKeycap after else rest)
      else none
    | [] => if inRanges emojiRanges c.toNat then some rest else none

/-- The rest behind all emoji that joiners add to the one just read. -/
def joinedEmoji : Nat → List Char → List Char
  | n + 1, c :: rest =>
    if isJoiner c then
      match emoji? rest with
      | some after => joinedEmoji n after
      | none => c :: rest
    else c :: rest
  | _, cs => cs

/-! ## Joined letters -/

/-- Letters that share one column when they follow one another. -/
structure Ligature where
  first : List (Nat × Nat)
  second : List (Nat × Nat)
  /-- Whether a joiner has to stand between them. -/
  joined : Bool

/-- The ligatures of scripts: lam with alef, alef with lamed, and pairs of tone letters. -/
def ligatures : List Ligature :=
  [{ first := [(0x644, 0x644), (0x6B5, 0x6B8), (0x76A, 0x76A), (0x8A6, 0x8A6), (0x8C7, 0x8C7)]
     second := [(0x622, 0x623), (0x625, 0x625), (0x627, 0x627), (0x671, 0x673), (0x675, 0x675),
       (0x773, 0x774), (0x870, 0x882)]
     joined := false },
   { first := [(0x5D0, 0x5D0)], second := [(0x5DC, 0x5DC)], joined := true },
   { first := [(0x10C32, 0x10C32)], second := [(0x10C03, 0x10C03)], joined := true },
   { first := [(0xA4F8, 0xA4FB)], second := [(0xA4FC, 0xA4FD)], joined := false }]

/-- The rest behind two letters at the start of a text that share a column. Marks may stand between
them. -/
def ligature? : List Char → Option (List Char)
  | [] => none
  | c :: rest =>
    let between := rest.takeWhile fun d => charWidth d == 0
    match rest.dropWhile fun d => charWidth d == 0 with
    | [] => none
    | d :: after =>
      if ligatures.any fun l => inRanges l.first c.toNat && inRanges l.second d.toNat &&
          between.any isJoiner == l.joined then some after
      else none

/-! ## Texts -/

/-- The number of columns of a text of at most `n` characters. -/
def columns : Nat → List Char → Nat
  | _, [] => 0
  | 0, _ => 0
  | n + 1, c :: rest =>
    if c == '\r' && rest.head? == some '\n' then columns n rest
    else match emoji? (c :: rest) with
      | some after => 2 + columns n (joinedEmoji n after)
      | none =>
        if rest.head?.any selectsText && inRanges plainEmojiRanges c.toNat then 1 + columns n rest.tail
        else match ligature? (c :: rest) with
          | some after => 1 + columns n after
          | none => charWidth c + columns n rest

/-- The number of columns that a text takes. -/
def width (s : String) : Nat := columns s.length s.toList

end AgentGovernance.Text
