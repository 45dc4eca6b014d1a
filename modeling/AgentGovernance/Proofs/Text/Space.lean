-- SUMMARY: A space keeps what stands before it apart from what follows: normal form and words.
import AgentGovernance.Text.Blank
import AgentGovernance.Text.Normalization

/-!
# Texts with a space in between

A space is a starter that takes part in no composition. So the normal form of two texts with a space
in between is that of each of them, whatever marks the second one starts with, and so are the words.
-/

namespace AgentGovernance.Text

/-! ## Canonical order -/

theorem insertMark_append (m : Classed) (n : Nat) (cs ds : List Classed) :
    insertMark m (cs ++ (n, 0) :: ds) = insertMark m cs ++ (n, 0) :: ds := by
  induction cs with
  | nil => rfl
  | cons c cs ih =>
    simp only [List.cons_append, insertMark]
    split
    · rfl
    · rw [ih, List.cons_append]

/-- Marks do not move past a starter. -/
theorem canonicalOrder_append (n : Nat) (cs ds : List Classed) :
    canonicalOrder (cs ++ (n, 0) :: ds) = canonicalOrder cs ++ (n, 0) :: canonicalOrder ds := by
  induction cs with
  | nil => rfl
  | cons c cs ih =>
    simp only [List.cons_append, canonicalOrder, ih]
    split
    · rfl
    · exact insertMark_append c n _ _

/-! ## Composition -/

/-- Nothing composes with a space in front of it. -/
theorem composePair_space (b : Nat) : composePair 0x20 b = none := by
  have htable : ∀ entry ∈ compositions, entry.2.lookup 0x20 = none := by decide +kernel
  have hhangul : composeHangul 0x20 b = none := by simp [composeHangul, isHangulSyllable]
  rw [composePair, hhangul]
  split
  · rfl
  · rw [Option.bind_eq_none_iff]
    intro pairs hpairs
    obtain ⟨before, behind, hall, -⟩ := List.lookup_eq_some_iff.1 hpairs
    exact htable (b, pairs) (hall ▸ List.mem_append_right _ List.mem_cons_self)

theorem composeFrom_space (kept : List Nat) (last : Option Nat) (cs : List Classed) :
    composeFrom 0x20 kept last cs = 0x20 :: kept.reverse ++ compose cs := by
  induction cs generalizing kept last with
  | nil => simp [composeFrom, compose]
  | cons c cs ih =>
    obtain ⟨c, k⟩ := c
    simp only [composeFrom, composePair_space, ite_self, compose]
    split
    · rfl
    · rw [ih]
      simp

theorem composeFrom_append_space (a : Nat) (kept : List Nat) (last : Option Nat)
    (cs ds : List Classed) :
    composeFrom a kept last (cs ++ (0x20, 0) :: ds) =
      composeFrom a kept last cs ++ 0x20 :: compose ds := by
  induction cs generalizing a kept last with
  | nil =>
    simp [composeFrom, composePair_ascii, composeFrom_space]
  | cons c cs ih =>
    obtain ⟨c, k⟩ := c
    simp only [List.cons_append, composeFrom]
    split
    · exact ih _ _ _
    · split
      · rw [ih, List.cons_append, List.append_assoc]
      · exact ih _ _ _

theorem compose_append_space (cs ds : List Classed) :
    compose (cs ++ (0x20, 0) :: ds) = compose cs ++ 0x20 :: compose ds := by
  induction cs with
  | nil => exact composeFrom_space [] none ds
  | cons c cs ih =>
    obtain ⟨c, k⟩ := c
    simp only [List.cons_append, compose]
    split
    · exact composeFrom_append_space c [] none cs ds
    · rw [ih, List.cons_append]

/-- Two texts with a space in between are normalised independently. -/
theorem normalizeKC_append_space (xs ys : List Char) :
    normalizeKC (xs ++ ' ' :: ys) = normalizeKC xs ++ ' ' :: normalizeKC ys := by
  have hspace : decompose ' '.toNat = [0x20] := rfl
  have hclass : combiningClass 0x20 = 0 := rfl
  simp only [normalizeKC, List.flatMap_append, List.flatMap_cons, hspace, List.map_append,
    List.map_cons, List.singleton_append, hclass, canonicalOrder_append, compose_append_space]

/-! ## Words -/

theorem splitRuns_append {sep : Char → Bool} {c : Char} (hc : sep c = true)
    (word xs ys : List Char) :
    splitRuns sep word (xs ++ c :: ys) = splitRuns sep word xs ++ splitRuns sep [] ys := by
  induction xs generalizing word with
  | nil => cases word <;> simp [splitRuns, hc]
  | cons x xs ih =>
    simp only [List.cons_append, splitRuns]
    split
    · split
      · exact ih []
      · rw [ih, List.cons_append]
    · exact ih _

/-- No word reaches across a blank. -/
theorem words_append {c : Char} (hc : isBlank c = true) (xs ys : List Char) :
    words (xs ++ c :: ys) = words xs ++ words ys := by
  rw [words, splitRuns_append hc, List.map_append, words, words]

end AgentGovernance.Text
