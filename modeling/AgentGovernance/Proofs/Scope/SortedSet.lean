-- SUMMARY: Sorted sets of texts: their members, their order, and that nothing else matters.
import AgentGovernance.Scope.Enforcer
import Mathlib.Data.List.Sort
import Mathlib.Data.String.Basic
import Mathlib.Order.Bounds.Basic

/-!
# Sorted sets of texts

The sorted set of a list has the members of the list, in strictly rising order. So it depends on the
members only, and not on their order or on how often they come.
-/

namespace AgentGovernance

theorem mem_insertText {s t : String} {ts : List String} :
    t ∈ insertText s ts ↔ t = s ∨ t ∈ ts := by
  induction ts with
  | nil => simp [insertText]
  | cons u ts ih =>
    simp only [insertText]
    split
    · exact List.mem_cons
    · split
      · rename_i heq
        obtain rfl := beq_iff_eq.1 heq
        simp
      · rw [List.mem_cons, ih, List.mem_cons]
        exact or_left_comm

theorem mem_sortedSet {t : String} {ts : List String} : t ∈ sortedSet ts ↔ t ∈ ts := by
  have hfold : ∀ done, t ∈ ts.foldl (fun done s => insertText s done) done ↔ t ∈ ts ∨ t ∈ done := by
    induction ts with
    | nil => simp
    | cons s ts ih =>
      intro done
      rw [List.foldl_cons, ih, mem_insertText, List.mem_cons]
      exact or_left_comm.trans or_assoc.symm
  simpa [sortedSet] using hfold []

theorem insertText_sorted {ts : List String} (h : ts.Pairwise (· < ·)) (s : String) :
    (insertText s ts).Pairwise (· < ·) := by
  induction ts with
  | nil => exact List.pairwise_singleton _ _
  | cons t ts ih =>
    obtain ⟨hfirst, hrest⟩ := List.pairwise_cons.1 h
    simp only [insertText]
    split
    · rename_i hlt
      refine List.pairwise_cons.2 ⟨?_, h⟩
      intro u hu
      rcases List.mem_cons.1 hu with rfl | hlater
      · exact hlt
      · exact lt_trans hlt (hfirst u hlater)
    · rename_i hge
      split
      · exact h
      · rename_i hne
        refine List.pairwise_cons.2 ⟨?_, ih hrest⟩
        intro u hu
        rcases mem_insertText.1 hu with rfl | hlater
        · exact lt_of_le_of_ne (not_lt.1 hge) fun heq => hne (beq_iff_eq.2 heq.symm)
        · exact hfirst u hlater

theorem sortedSet_sorted (ts : List String) : (sortedSet ts).Pairwise (· < ·) := by
  have hfold : ∀ done : List String, done.Pairwise (· < ·) →
      (ts.foldl (fun done s => insertText s done) done).Pairwise (· < ·) := by
    induction ts with
    | nil => exact fun done hdone => hdone
    | cons s ts ih => exact fun done hdone => ih _ (insertText_sorted hdone s)
  exact hfold [] .nil

/-- Texts in strictly rising order are determined by which they are. -/
theorem eq_of_sorted_of_mem_iff {ss ts : List String} (hss : ss.Pairwise (· < ·))
    (hts : ts.Pairwise (· < ·)) (h : ∀ s, s ∈ ss ↔ s ∈ ts) : ss = ts := by
  have hperm := (List.perm_ext_iff_of_nodup (hss.imp ne_of_lt) (hts.imp ne_of_lt)).2 h
  refine List.Perm.eq_of_pairwise ?_ hss hts hperm
  intro s t _ _ hst hts
  exact absurd hts (lt_asymm hst)

/-- A sorted set is determined by its members. -/
theorem sortedSet_eq_of_mem_iff {ss ts : List String} (h : ∀ s, s ∈ ss ↔ s ∈ ts) :
    sortedSet ss = sortedSet ts := by
  refine eq_of_sorted_of_mem_iff (sortedSet_sorted ss) (sortedSet_sorted ts) fun s => ?_
  rw [mem_sortedSet, mem_sortedSet, h s]

theorem sortedSet_of_sorted {ts : List String} (h : ts.Pairwise (· < ·)) : sortedSet ts = ts :=
  eq_of_sorted_of_mem_iff (sortedSet_sorted ts) h fun _ => mem_sortedSet

/-- What a search in rising texts finds is the least of those it looks for. -/
theorem isLeast_of_find?_eq_some {ts : List String} (hts : ts.Pairwise (· < ·))
    {p : String → Bool} {t : String} (h : ts.find? p = some t) :
    IsLeast {s | s ∈ ts ∧ p s = true} t := by
  refine ⟨⟨List.mem_of_find?_eq_some h, List.find?_some h⟩, ?_⟩
  rintro s ⟨hs, hps⟩
  obtain ⟨-, before, behind, rfl, hbefore⟩ := List.find?_eq_some_iff_append.1 h
  obtain ⟨-, hbehind, -⟩ := List.pairwise_append.1 hts
  rcases List.mem_append.1 hs with hearlier | hs
  · simpa [hps] using hbefore s hearlier
  · rcases List.mem_cons.1 hs with rfl | hlater
    · exact le_rfl
    · exact le_of_lt ((List.pairwise_cons.1 hbehind).1 s hlater)

/-- A search in rising texts finds the least of those it looks for. -/
theorem find?_eq_some_iff_isLeast {ts : List String} (hts : ts.Pairwise (· < ·))
    {p : String → Bool} {t : String} :
    ts.find? p = some t ↔ IsLeast {s | s ∈ ts ∧ p s = true} t := by
  refine ⟨isLeast_of_find?_eq_some hts, fun hleast => ?_⟩
  obtain ⟨ht, hpt⟩ := hleast.1
  obtain ⟨u, hu⟩ := Option.isSome_iff_exists.1 (List.find?_isSome.2 ⟨t, ht, hpt⟩)
  rw [hu, (isLeast_of_find?_eq_some hts hu).unique hleast]

end AgentGovernance
