-- SUMMARY: Compatibility decomposition, canonical order and composition: normal form KC of a text.
import AgentGovernance.Text.Table.CombiningClass
import AgentGovernance.Text.Table.Composition
import AgentGovernance.Text.Table.Decomposition

/-!
# Normal form KC

A text is normalised in three steps: every code point is replaced by its full compatibility
decomposition, combining marks are sorted by combining class within each stretch of marks, and marks
are composed with the starter before them where nothing in between blocks the composition.
Main statement: a text of ASCII characters is its own normal form.
-/

namespace AgentGovernance.Text

/-! ## Hangul syllables -/

/-- The letters of a Hangul syllable: leading consonant, vowel, and trailing consonant if any. -/
def hangulLetters (n : Nat) : List Nat :=
  let i := n - 0xAC00
  let lead := 0x1100 + i / 588
  let vowel := 0x1161 + i % 588 / 28
  if i % 28 == 0 then [lead, vowel] else [lead, vowel, 0x11A7 + i % 28]

/-- Whether a code point is a precomposed Hangul syllable. -/
def isHangulSyllable (n : Nat) : Bool := 0xAC00 ≤ n && n ≤ 0xD7A3

/-- The syllable of a leading consonant and a vowel, or of an open syllable and a trailing
consonant. -/
def composeHangul (a b : Nat) : Option Nat :=
  if 0x1100 ≤ a && a ≤ 0x1112 && 0x1161 ≤ b && b ≤ 0x1175 then
    some (0xAC00 + ((a - 0x1100) * 21 + (b - 0x1161)) * 28)
  else if isHangulSyllable a && (a - 0xAC00) % 28 == 0 && 0x11A8 ≤ b && b ≤ 0x11C2 then
    some (a + (b - 0x11A7))
  else none

/-! ## Decomposition -/

/-- The code points of an image that is written with six hexadecimal digits for each of them. The
first argument bounds their number. -/
def unpackImage : Nat → Nat → List Nat
  | 0, _ => []
  | fuel + 1, n => if n == 0 then [] else unpackImage fuel (n / 0x1000000) ++ [n % 0x1000000]

/-- The image of a code point in the table of blocks; `0` if it has none. -/
def blockImage (n : Nat) : Nat :=
  match decompositionBlocks.find? fun (first, images) => first ≤ n && n < first + images.length with
  | some (first, images) => images.getD (n - first) 0
  | none => 0

/-- The full compatibility decomposition of a code point. -/
def decompose (n : Nat) : List Nat :=
  if n < 0xA0 then [n]
  else if isHangulSyllable n then hangulLetters n
  else match decompositionRuns.find? fun (first, last, _) => first ≤ n && n ≤ last with
    | some (first, _, image) => [image + (n - first)]
    | none => match unpackImage 32 (blockImage n) with
      | [] => [n]
      | image => image

/-! ## Canonical order -/

/-- The canonical combining class; zero for starters. -/
def combiningClass (n : Nat) : Nat :=
  if n < 0x300 then 0
  else match combiningClassRuns.find? fun (first, last, _) => first ≤ n && n ≤ last with
    | some (_, _, cls) => cls
    | none => 0

/-- A code point together with its combining class. -/
abbrev Classed := Nat × Nat

/-- Puts a mark in front of an ordered text, behind the marks of lower class that start it. -/
def insertMark (m : Classed) : List Classed → List Classed
  | [] => [m]
  | d :: ds => if d.2 == 0 || m.2 ≤ d.2 then m :: d :: ds else d :: insertMark m ds

/-- Sorts every stretch of marks by combining class and keeps marks of one class in order. -/
def canonicalOrder : List Classed → List Classed
  | [] => []
  | c :: cs => if c.2 == 0 then c :: canonicalOrder cs else insertMark c (canonicalOrder cs)

/-! ## Composition -/

/-- The primary composite of two code points, if there is one. -/
def composePair (a b : Nat) : Option Nat :=
  if b < 0x300 then none
  else match composeHangul a b with
    | some n => some n
    | none => (compositions.lookup b).bind fun pairs => pairs.lookup a

/-- Whether a mark of class `last` keeps a code point of class `k` behind it from composing. -/
def blocksClass (last : Option Nat) (k : Nat) : Bool :=
  match last with
  | some l => k ≤ l
  | none => false

/-- Composes marks with the starter `a`. `kept` holds, reversed, the marks between the starter and
the rest of the text that did not compose, and `last` the class of the latest of them. -/
def composeFrom (a : Nat) (kept : List Nat) (last : Option Nat) : List Classed → List Nat
  | [] => a :: kept.reverse
  | (c, k) :: cs =>
    match if blocksClass last k then none else composePair a c with
    | some composite => composeFrom composite kept last cs
    | none =>
      if k == 0 then a :: kept.reverse ++ composeFrom c [] none cs
      else composeFrom a (c :: kept) (some k) cs

/-- Composes a text in canonical order. Marks before the first starter stay as they are. -/
def compose : List Classed → List Nat
  | [] => []
  | (c, k) :: cs => if k == 0 then composeFrom c [] none cs else c :: compose cs

/-- Normal form KC of a text. -/
def normalizeKC (cs : List Char) : List Char :=
  let points := cs.flatMap fun c => decompose c.toNat
  let classed := points.map fun n => (n, combiningClass n)
  (compose (canonicalOrder classed)).map Char.ofNat

/-! ## The ASCII range -/

theorem decompose_ascii {n : Nat} (h : n < 0x80) : decompose n = [n] := by
  simp [decompose, show n < 0xA0 by omega]

theorem combiningClass_ascii {n : Nat} (h : n < 0x80) : combiningClass n = 0 := by
  simp [combiningClass, show n < 0x300 by omega]

theorem composePair_ascii (a : Nat) {b : Nat} (h : b < 0x80) : composePair a b = none := by
  simp [composePair, show b < 0x300 by omega]

theorem canonicalOrder_starters (ns : List Nat) :
    canonicalOrder (ns.map fun n => (n, 0)) = ns.map fun n => (n, 0) := by
  induction ns with
  | nil => rfl
  | cons n ns ih => simp [canonicalOrder, ih]

theorem composeFrom_ascii (a : Nat) {ns : List Nat} (h : ∀ n ∈ ns, n < 0x80) :
    composeFrom a [] none (ns.map fun n => (n, 0)) = a :: ns := by
  induction ns generalizing a with
  | nil => rfl
  | cons n ns ih =>
    have hn := composePair_ascii a (h n List.mem_cons_self)
    simp [composeFrom, blocksClass, hn, ih n (fun m hm => h m (List.mem_cons_of_mem _ hm))]

theorem compose_ascii {ns : List Nat} (h : ∀ n ∈ ns, n < 0x80) :
    compose (ns.map fun n => (n, 0)) = ns := by
  cases ns with
  | nil => rfl
  | cons n ns =>
    simp [compose, composeFrom_ascii n (fun m hm => h m (List.mem_cons_of_mem _ hm))]

/-- A text of ASCII characters is its own normal form. -/
theorem normalizeKC_ascii {cs : List Char} (h : ∀ c ∈ cs, c.toNat < 0x80) :
    normalizeKC cs = cs := by
  have hpoints : (cs.flatMap fun c => decompose c.toNat) = cs.map Char.toNat := by
    induction cs with
    | nil => rfl
    | cons c cs ih =>
      simp [decompose_ascii (h c List.mem_cons_self),
        ih (fun d hd => h d (List.mem_cons_of_mem _ hd))]
  have hclassed : ((cs.map Char.toNat).map fun n => (n, combiningClass n)) =
      (cs.map Char.toNat).map fun n => (n, 0) := by
    apply List.map_congr_left
    intro n hn
    obtain ⟨c, hc, rfl⟩ := List.mem_map.1 hn
    rw [combiningClass_ascii (h c hc)]
  have hlow : ∀ n ∈ cs.map Char.toNat, n < 0x80 := by
    intro n hn
    obtain ⟨c, hc, rfl⟩ := List.mem_map.1 hn
    exact h c hc
  rw [normalizeKC, hpoints, hclassed, canonicalOrder_starters, compose_ascii hlow, List.map_map]
  simp [Function.comp_def]

end AgentGovernance.Text
