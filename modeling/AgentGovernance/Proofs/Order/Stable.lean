-- SUMMARY: Stable sorting by a key: equal keys keep their order, and that determines the result.
import Mathlib.Data.List.Sort

/-!
# Stable sorting

A list is sorted stably by a key if keys never decrease and the entries of each key are those of the
list it was made from, in the same order. There is exactly one such list, and merging finds it.
-/

namespace AgentGovernance

variable {α κ : Type} [LinearOrder κ]

/-- The second list is the first one sorted by the key, where entries of one key keep their order. -/
structure StablySorted (key : α → κ) (xs ys : List α) : Prop where
  sorted : ys.Pairwise fun a b => key a ≤ key b
  ties : ∀ a, (ys.filter fun b => key a = key b) = xs.filter fun b => key a = key b

namespace StablySorted

variable {key : α → κ} {xs ys zs : List α}

theorem mem_iff (h : StablySorted key xs ys) {a : α} : a ∈ ys ↔ a ∈ xs := by
  have hties : (a ∈ ys.filter fun b => key a = key b) ↔ a ∈ xs.filter fun b => key a = key b := by
    rw [h.ties]
  simpa using hties

/-- Sorting stably leaves nothing to choose. -/
theorem unique (hy : StablySorted key xs ys) (hz : StablySorted key xs zs) : ys = zs := by
  induction ys generalizing xs zs with
  | nil =>
    refine (List.eq_nil_iff_forall_not_mem.2 fun a ha => ?_).symm
    cases hy.mem_iff.2 (hz.mem_iff.1 ha)
  | cons y ys ih =>
    cases zs with
    | nil => cases hz.mem_iff.2 (hy.mem_iff.1 List.mem_cons_self)
    | cons z zs =>
      have hleast {a b : α} {as : List α} (hsorted : (a :: as).Pairwise fun a b => key a ≤ key b)
          (hb : b ∈ a :: as) : key a ≤ key b := by
        rcases List.mem_cons.1 hb with rfl | hb
        · exact le_refl _
        · exact (List.pairwise_cons.1 hsorted).1 b hb
      -- Each head is in the other list, so their keys are equal, and both are the first of that key.
      have hkeys : key y = key z := le_antisymm
        (hleast hy.sorted (hy.mem_iff.2 (hz.mem_iff.1 List.mem_cons_self)))
        (hleast hz.sorted (hz.mem_iff.2 (hy.mem_iff.1 List.mem_cons_self)))
      have hheads := (hy.ties y).trans (hz.ties y).symm
      simp only [List.filter_cons, hkeys, decide_true, if_true] at hheads
      obtain rfl := (List.cons.inj hheads).1
      have hrest : StablySorted key ys ys := ⟨hy.sorted.of_cons, fun _ => rfl⟩
      refine congrArg (y :: ·) (ih hrest ⟨hz.sorted.of_cons, fun a => ?_⟩)
      have hsame := (hz.ties a).trans (hy.ties a).symm
      simp only [List.filter_cons] at hsame
      split at hsame
      · exact (List.cons.inj hsame).2
      · exact hsame

theorem filter (h : StablySorted key xs ys) (p : α → Bool) :
    StablySorted key (xs.filter p) (ys.filter p) := by
  refine ⟨h.sorted.filter p, fun a => ?_⟩
  rw [List.filter_filter, List.filter_filter]
  have hties := congrArg (List.filter p) (h.ties a)
  rw [List.filter_filter, List.filter_filter] at hties
  simpa only [Bool.and_comm] using hties

theorem mergeSort {le : α → α → Bool} (hle : ∀ a b, le a b = true ↔ key a ≤ key b)
    (xs : List α) : StablySorted key xs (xs.mergeSort le) := by
  have htrans (a b c : α) (hab : le a b = true) (hbc : le b c = true) : le a c = true := by
    rw [hle] at hab hbc ⊢
    exact hab.trans hbc
  have htotal (a b : α) : (le a b || le b a) = true := by
    rw [Bool.or_eq_true, hle, hle]
    exact le_total _ _
  refine ⟨(List.pairwise_mergeSort htrans htotal xs).imp (hle _ _).1, fun a => ?_⟩
  -- What ties is in order already, so sorting all of the list keeps it as a part of the result.
  have hties : (xs.filter fun b => key a = key b).Pairwise fun b c => le b c = true := by
    refine List.pairwise_of_forall_mem_list fun b hb c hc => ?_
    have hab : key a = key b := by simpa using (List.mem_filter.1 hb).2
    have hac : key a = key c := by simpa using (List.mem_filter.1 hc).2
    exact (hle b c).2 (hab ▸ hac ▸ le_refl _)
  have hsub := (List.sublist_mergeSort htrans htotal hties List.filter_sublist).filter
    fun b => key a = key b
  rw [List.filter_filter] at hsub
  simp only [Bool.and_self] at hsub
  exact (hsub.eq_of_length ((List.mergeSort_perm xs le).filter _).length_eq.symm).symm

end StablySorted

end AgentGovernance
