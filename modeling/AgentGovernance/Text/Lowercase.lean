-- SUMMARY: Full lower-casing of characters and of texts, with the word-final form of capital sigma.
import AgentGovernance.Text.Table.Casing
import AgentGovernance.Text.Table.Lowercase

/-!
# Lower case

Each character has a lower-case image of one character, except the capital I with a dot above, whose
image is an `i` and a combining dot. In a text, a capital sigma that ends a word becomes the final
form of the letter; apart from that the lower case of a text is that of its characters.
-/

namespace AgentGovernance.Text

/-- Whether a code point lies in one of the closed ranges. -/
def inRanges (ranges : List (Nat × Nat)) (n : Nat) : Bool :=
  ranges.any fun (first, last) => first ≤ n && n ≤ last

/-! ## Characters -/

/-- The image of a code point under the run that holds it, if there is one. -/
def lowercaseRun? (n : Nat) : Option Nat :=
  (lowercaseRuns.find? fun (first, last, step, _) =>
    first ≤ n && n ≤ last && (n - first) % step == 0).map fun (first, _, _, image) =>
      image + (n - first)

/-- The lower case of one character, which may be two characters. -/
def lowercaseChar (c : Char) : List Char :=
  let n := c.toNat
  if n < 0x80 then [c.toLower]
  else if n == 0x130 then ['i', Char.ofNat 0x307]
  else match lowercaseRun? n with
    | some m => [Char.ofNat m]
    | none => [c]

/-- Whether a character is a letter with case. -/
def isCased (c : Char) : Bool := inRanges casedRanges c.toNat

/-- Whether a casing context looks through a character. -/
def isCaseIgnorable (c : Char) : Bool := inRanges caseIgnorableRanges c.toNat

/-! ## Texts -/

/-- Whether the first character that a casing context does not look through has case. -/
def meetsCased (cs : List Char) : Bool :=
  match cs.dropWhile isCaseIgnorable with
  | [] => false
  | c :: _ => isCased c

/-- The small form of a capital sigma between `before`, nearest character first, and `after`. -/
def lowercaseSigma (before after : List Char) : Char :=
  if meetsCased before && !meetsCased after then Char.ofNat 0x3C2 else Char.ofNat 0x3C3

/-- Lower case of a text, where `before` holds the characters already read, nearest first. -/
def lowercaseFrom (before : List Char) : List Char → List Char
  | [] => []
  | c :: cs =>
    (if c.toNat == 0x3A3 then [lowercaseSigma before cs] else lowercaseChar c) ++
      lowercaseFrom (c :: before) cs

/-- Lower case of a text. -/
def lowercase (cs : List Char) : List Char := lowercaseFrom [] cs

/-! ## The ASCII range -/

theorem lowercaseChar_ascii {c : Char} (h : c.toNat < 0x80) : lowercaseChar c = [c.toLower] := by
  simp [lowercaseChar, h]

theorem lowercaseFrom_ascii {cs : List Char} (h : ∀ c ∈ cs, c.toNat < 0x80) (before : List Char) :
    lowercaseFrom before cs = cs.map Char.toLower := by
  induction cs generalizing before with
  | nil => rfl
  | cons c cs ih =>
    have hc := h c List.mem_cons_self
    have hne : (c.toNat == 0x3A3) = false := by
      simp only [beq_eq_false_iff_ne]; omega
    simp [lowercaseFrom, hne, lowercaseChar_ascii hc,
      ih (fun d hd => h d (List.mem_cons_of_mem _ hd))]

/-- In an ASCII text every character is lower-cased on its own. -/
theorem lowercase_ascii {cs : List Char} (h : ∀ c ∈ cs, c.toNat < 0x80) :
    lowercase cs = cs.map Char.toLower :=
  lowercaseFrom_ascii h []

end AgentGovernance.Text
