-- SUMMARY: Findings in order of priority: sorted, nothing lost, and ties kept in their order.
import AgentGovernance.Audit.Finding
import AgentGovernance.Proofs.Order.Stable
import Mathlib.Data.Prod.Lex
import Mathlib.Data.String.Basic

/-!
# The order of priority

A finding comes before another if it is more severe; among equally severe ones the ids of the
validators decide, and then the locations. Findings that agree in all three tie. Sorting keeps every
finding and the order of those that tie, so lists with the same ties are sorted into one.
-/

namespace AgentGovernance

theorem Severity.rank_inj {s t : Severity} : s.rank = t.rank ↔ s = t := by
  cases s <;> cases t <;> decide

/-- One location comes before another: its resource does, or the resources are equal and its line
does. No line comes before every line. -/
def Location.Before (a b : Location) : Prop :=
  a.resource < b.resource ∨ a.resource = b.resource ∧ a.line < b.line

namespace Finding

variable {a b : Finding} {fs gs : List Finding}

/-- One finding comes before another in the order of priority. -/
def Before (a b : Finding) : Prop :=
  b.severity < a.severity ∨ a.severity = b.severity ∧
    (a.validatorId < b.validatorId ∨ a.validatorId = b.validatorId ∧ a.location.Before b.location)

/-- The findings agree in all that the order of priority looks at. -/
def Ties (a b : Finding) : Prop :=
  a.severity = b.severity ∧ a.validatorId = b.validatorId ∧ a.location = b.location

instance : DecidableRel Ties := fun a b => inferInstanceAs
  (Decidable (a.severity = b.severity ∧ a.validatorId = b.validatorId ∧ a.location = b.location))

/-! ## Keys -/

/-- The place of a line among all lines and no line. -/
def lineKey : Option Nat → Nat
  | none => 0
  | some n => n + 1

theorem lineKey_lt_iff {m n : Option Nat} : lineKey m < lineKey n ↔ m < n := by
  cases m <;> cases n <;> simp [lineKey]

theorem lineKey_inj {m n : Option Nat} : lineKey m = lineKey n ↔ m = n := by
  cases m <;> cases n <;> simp [lineKey]

theorem compareLines_eq (m n : Option Nat) :
    Location.compareLines m n = compare (lineKey m) (lineKey n) := by
  cases m <;> cases n <;> simp [Location.compareLines, lineKey, Nat.compare_eq_ite_lt]

/-- What findings are sorted by, as an element of a linear order. -/
def sortKey (f : Finding) : ℕᵒᵈ ×ₗ String ×ₗ String ×ₗ ℕ :=
  toLex (OrderDual.toDual f.severity.rank,
    toLex (f.validatorId, toLex (f.location.resource, lineKey f.location.line)))

theorem sortKey_lt_iff : a.sortKey < b.sortKey ↔ a.Before b := by
  simp only [sortKey, Before, Location.Before, Prod.Lex.toLex_lt_toLex,
    OrderDual.toDual_lt_toDual, EmbeddingLike.apply_eq_iff_eq, Severity.rank_inj, lineKey_lt_iff]
  rfl

theorem sortKey_inj : a.sortKey = b.sortKey ↔ a.Ties b := by
  simp only [sortKey, Ties, EmbeddingLike.apply_eq_iff_eq, Prod.mk.injEq, Severity.rank_inj,
    lineKey_inj]
  cases a.location
  cases b.location
  simp

theorem priority_eq_gt_iff : priority a b = .gt ↔ b.sortKey < a.sortKey := by
  simp only [priority, Location.compare, compareLines_eq, Ordering.then_eq_gt, compare_gt_iff_gt,
    compare_eq_iff_eq, sortKey, Prod.Lex.toLex_lt_toLex, OrderDual.toDual_lt_toDual,
    EmbeddingLike.apply_eq_iff_eq]
  grind

theorem priority_ne_gt_iff : (priority a b != .gt) = true ↔ a.sortKey ≤ b.sortKey := by
  rw [bne_iff_ne, ne_eq, priority_eq_gt_iff, not_lt]

/-! ## Sorting -/

theorem prioritize_perm (fs : List Finding) : (prioritize fs).Perm fs :=
  List.mergeSort_perm fs _

theorem stablySorted_prioritize (fs : List Finding) : StablySorted sortKey fs (prioritize fs) :=
  .mergeSort (fun a b => priority_ne_gt_iff (a := a) (b := b)) fs

/-- Nothing stands behind a finding that should come before it. -/
theorem prioritize_sorted (fs : List Finding) :
    (prioritize fs).Pairwise fun a b => ¬ b.Before a := by
  refine (stablySorted_prioritize fs).sorted.imp ?_
  intro a b hab
  rw [← sortKey_lt_iff]
  exact not_lt_of_ge hab

/-- Findings that tie keep their order. -/
theorem filter_prioritize (fs : List Finding) (a : Finding) :
    (prioritize fs).filter (fun b => a.Ties b) = fs.filter fun b => a.Ties b := by
  simpa only [sortKey_inj] using (stablySorted_prioritize fs).ties a

/-! ## Lists with the same ties -/

/-- The findings that tie are the same in both lists, in the same order. -/
def SameTies (fs gs : List Finding) : Prop :=
  ∀ a : Finding, (fs.filter fun b => a.Ties b) = gs.filter fun b => a.Ties b

theorem prioritize_eq_of_sameTies (h : SameTies fs gs) : prioritize fs = prioritize gs := by
  refine StablySorted.unique ⟨(stablySorted_prioritize fs).sorted, fun a => ?_⟩
    (stablySorted_prioritize gs)
  simpa only [sortKey_inj] using (filter_prioritize fs a).trans (h a)

end Finding

end AgentGovernance
