-- SUMMARY: Numbers written in digits are read as themselves, and digits of one width sort as numbers.
import AgentGovernance.Number.Digits
import Mathlib.Algebra.Group.Nat.Defs
import Mathlib.Data.Char
import Mathlib.Data.List.Induction
import Mathlib.Data.List.Lex

/-!
# Digits that are written and read

What the readers of numbers make of the digits that are written for a number, and how digits are
ordered as texts.
-/

namespace AgentGovernance

theorem digitsValue_eq (ds : List Char) : digitsValue ds = Nat.ofDigitChars 10 ds 0 :=
  Nat.ofDigitChars_eq_foldl.symm

@[simp] theorem digitsValue_toDigits (n : Nat) : digitsValue (Nat.toDigits 10 n) = n := by
  rw [digitsValue_eq, Nat.ofDigitChars_ten_toDigits]

theorem isDigit_of_mem_toDigits {n : Nat} {c : Char} (h : c ∈ Nat.toDigits 10 n) :
    c.isDigit = true :=
  Nat.isDigit_of_mem_toDigits (by decide) (by decide) h

theorem toList_toString (n : Nat) : (toString n).toList = Nat.toDigits 10 n := by
  rw [Nat.toString_eq_ofList_toDigits, String.toList_ofList]

/-- Digits stand for a number that is no longer than they are. -/
theorem digitsValue_lt {ds : List Char} (h : ∀ c ∈ ds, c.isDigit = true) :
    digitsValue ds < 10 ^ ds.length := by
  induction ds using List.reverseRecOn with
  | nil => decide
  | append_singleton ds d ih =>
    obtain ⟨hds, hd⟩ := List.forall_mem_append.1 h
    have hdigit := Char.isDigit_iff_toNat.1 (hd d List.mem_cons_self)
    have hvalue : digitsValue (ds ++ [d]) = 10 * digitsValue ds + (d.toNat - 0x30) := by
      simp [digitsValue, List.foldl_append]
    have hrest := ih hds
    rw [hvalue, List.length_append, List.length_singleton, Nat.pow_succ]
    simp only [show '0'.toNat = 48 from rfl, show '9'.toNat = 57 from rfl] at hdigit
    omega

/-- Only zero is written with a zero in front. -/
theorem head?_toDigits_ne_zero {n : Nat} (h : n ≠ 0) : (Nat.toDigits 10 n).head? ≠ some '0' := by
  induction n using Nat.strongRecOn with
  | ind n ih =>
    rw [Nat.toDigits_eq_if (by decide)]
    split
    · have hdigit : ∀ d < 10, d ≠ 0 → Nat.digitChar d ≠ '0' := by decide
      simpa using hdigit n ‹_› h
    · have hrest := ih (n / 10) (by omega) (by omega)
      cases hfront : Nat.toDigits 10 (n / 10) with
      | nil => exact absurd hfront Nat.toDigits_ne_nil
      | cons c cs => simpa [hfront] using hrest

/-! ## Stretches of digits -/

/-- Digits that nothing but digits could continue are read whole. -/
theorem spanDigits_append {ds rest : List Char} (hds : ∀ c ∈ ds, c.isDigit = true)
    (hrest : ∀ c ∈ rest.head?, c.isDigit = false) : spanDigits (ds ++ rest) = (ds, rest) := by
  have hstop : rest.takeWhile Char.isDigit = [] ∧ rest.dropWhile Char.isDigit = rest := by
    cases rest with
    | nil => exact ⟨rfl, rfl⟩
    | cons c cs =>
      have hc : ¬ c.isDigit = true := by simp [hrest c rfl]
      exact ⟨List.takeWhile_cons_of_neg hc, List.dropWhile_cons_of_neg hc⟩
  unfold spanDigits
  rw [List.takeWhile_append_of_pos hds, List.dropWhile_append_of_pos hds, hstop.1, hstop.2,
    List.append_nil]

/-! ## Leading zeros -/

theorem toList_padded (width n : Nat) :
    (padded width n).toList =
      List.replicate (width - (Nat.toDigits 10 n).length) '0' ++ Nat.toDigits 10 n := by
  unfold padded
  rw [String.toList_append, String.toList_ofList, ← String.length_toList, toList_toString]

theorem isDigit_of_mem_padded {width n : Nat} {c : Char} (h : c ∈ (padded width n).toList) :
    c.isDigit = true := by
  rw [toList_padded, List.mem_append] at h
  rcases h with hzero | hdigit
  · rw [List.eq_of_mem_replicate hzero]
    rfl
  · exact isDigit_of_mem_toDigits hdigit

@[simp] theorem digitsValue_padded (width n : Nat) : digitsValue (padded width n).toList = n := by
  rw [toList_padded, digitsValue_eq, Nat.ofDigitChars_append, Nat.ofDigitChars_replicate_zero,
    Nat.mul_zero, Nat.ofDigitChars_ten_toDigits]

/-- A number that is not too long fills the width. -/
theorem length_padded {width n : Nat} (hwidth : 0 < width) (h : n < 10 ^ width) :
    (padded width n).toList.length = width := by
  have hdigits := (Nat.length_toDigits_le_iff (by decide) hwidth).2 h
  rw [toList_padded, List.length_append, List.length_replicate]
  omega

theorem padded_ne_nil (width n : Nat) : (padded width n).toList ≠ [] := by
  rw [toList_padded]
  exact List.append_ne_nil_of_right_ne_nil _ Nat.toDigits_ne_nil

/-! ## Order -/

theorem digitsValue_cons (d : Char) (ds : List Char) :
    digitsValue (d :: ds) = 10 ^ ds.length * (d.toNat - 0x30) + digitsValue ds := by
  rw [digitsValue_eq, Nat.ofDigitChars_cons, Nat.ofDigitChars_eq_ofDigitChars_zero, digitsValue_eq,
    Nat.mul_zero, Nat.zero_add]
  rfl

/-- Of two stretches of digits of one length the one with the smaller number is the smaller text. -/
theorem lt_of_digitsValue_lt {ds es : List Char} (hds : ∀ c ∈ ds, c.isDigit = true)
    (hes : ∀ c ∈ es, c.isDigit = true) (hlength : ds.length = es.length)
    (h : digitsValue ds < digitsValue es) : ds < es := by
  induction ds generalizing es with
  | nil =>
    rw [List.eq_nil_of_length_eq_zero hlength.symm] at h
    exact absurd h (Nat.lt_irrefl _)
  | cons d ds ih =>
    cases es with
    | nil => cases hlength
    | cons e es =>
      obtain ⟨-, hds⟩ := List.forall_mem_cons.1 hds
      obtain ⟨he, hes⟩ := List.forall_mem_cons.1 hes
      have hrest : ds.length = es.length := Nat.succ.inj hlength
      rw [digitsValue_cons, digitsValue_cons, hrest] at h
      rcases lt_trichotomy d e with hlt | heq | hgt
      · exact List.Lex.rel hlt
      · rw [heq] at h ⊢
        exact List.Lex.cons (ih hds hes hrest (Nat.lt_of_add_lt_add_left h))
      -- A greater digit in front outweighs all digits behind it.
      · have hvalue : e.toNat - 0x30 + 1 ≤ d.toNat - 0x30 := by
          have hrange := Char.isDigit_iff_toNat.1 he
          have hgt : e.toNat < d.toNat := hgt
          simp only [show '0'.toNat = 48 from rfl] at hrange
          omega
        have hbehind := digitsValue_lt hes
        have hfront := Nat.mul_le_mul_left (10 ^ es.length) hvalue
        rw [Nat.mul_succ] at hfront
        omega

/-- What follows does not matter to lists of one length that differ. -/
theorem append_lt_append {α : Type} [LT α] {xs ys : List α} (h : xs < ys)
    (hlength : xs.length = ys.length) (as bs : List α) : xs ++ as < ys ++ bs := by
  induction h with
  | nil => cases hlength
  | cons _ ih => exact List.Lex.cons (ih (Nat.succ.inj hlength))
  | rel hlt => exact List.Lex.rel hlt

/-- Texts that begin with numbers of one width are in the order of the numbers, and in the order of
what follows if the numbers are equal. -/
theorem padded_append_lt {width m n : Nat} {as bs : List Char} (hwidth : 0 < width)
    (hm : m < 10 ^ width) (hn : n < 10 ^ width) (h : m < n ∨ m = n ∧ as < bs) :
    (padded width m).toList ++ as < (padded width n).toList ++ bs := by
  rcases h with hlt | ⟨rfl, hrest⟩
  · have hlength := (length_padded hwidth hm).trans (length_padded hwidth hn).symm
    refine append_lt_append (lt_of_digitsValue_lt ?_ ?_ hlength ?_) hlength as bs
    · exact fun c hc => isDigit_of_mem_padded hc
    · exact fun c hc => isDigit_of_mem_padded hc
    · rwa [digitsValue_padded, digitsValue_padded]
  · exact List.Lex.append_left _ hrest _

end AgentGovernance
