-- SUMMARY: Compound rules look at findings and not at their order.
import AgentGovernance.Audit.CompoundRule
import AgentGovernance.Proofs.Audit.Priority
import AgentGovernance.Proofs.Scope.SortedSet

/-!
# Rules and the order of findings

Whether a rule fires, on which resource and with which severity follows from the findings alone. Only
the list of contributing findings has the order in which the rule met them, and so has the evidence
of the rule's own finding. Main statement: on findings in another order a rule yields the same record
up to the order of the contributing findings, and the same finding up to its evidence.
-/

namespace AgentGovernance

/-- The records are equal but for the order of the contributing findings. -/
def FiredRule.SameButOrder (a b : FiredRule) : Prop :=
  { a with contributing := b.contributing } = b ∧ a.contributing.Perm b.contributing

namespace Finding

/-- The finding without the evidence of a compound finding. -/
def withoutCompoundEvidence (f : Finding) : Finding :=
  if f.kind = .compound then { f with evidence := none } else f

/-- The findings are equal, or they are compound findings that are equal but for the evidence. -/
def SameButEvidence (f g : Finding) : Prop :=
  f = g ∨ f.kind = .compound ∧ { f with evidence := g.evidence } = g

theorem sameButEvidence_of_eq {f g : Finding}
    (h : f.withoutCompoundEvidence = g.withoutCompoundEvidence) : f.SameButEvidence g := by
  have hkind : f.kind = g.kind := by
    have hkinds := congrArg Finding.kind h
    simp only [withoutCompoundEvidence] at hkinds
    split at hkinds <;> split at hkinds <;> exact hkinds
  by_cases hcompound : f.kind = .compound
  · right
    rw [withoutCompoundEvidence, if_pos hcompound, withoutCompoundEvidence,
      if_pos (hkind ▸ hcompound)] at h
    exact ⟨hcompound, congrArg (fun f' : Finding => { f' with evidence := g.evidence }) h⟩
  · left
    rwa [withoutCompoundEvidence, if_neg hcompound, withoutCompoundEvidence,
      if_neg (hkind ▸ hcompound)] at h

end Finding

/-! ## The worst severity -/

namespace Severity

protected theorem le_trans {s t u : Severity} (hst : s ≤ t) (htu : t ≤ u) : s ≤ u :=
  Nat.le_trans hst htu

protected theorem le_antisymm {s t : Severity} (hst : s ≤ t) (hts : t ≤ s) : s = t :=
  rank_inj.1 (Nat.le_antisymm hst hts)

theorem max_eq_or (s t : Severity) : s.max t = s ∨ s.max t = t := by
  unfold Severity.max
  split
  · exact .inr rfl
  · exact .inl rfl

theorem max_le_iff {s t u : Severity} : s.max t ≤ u ↔ s ≤ u ∧ t ≤ u := by
  unfold Severity.max
  split
  · rename_i hle
    exact ⟨fun h => ⟨Severity.le_trans hle h, h⟩, fun h => h.2⟩
  · rename_i hnle
    have hle : t ≤ s := Nat.le_of_lt (Nat.lt_of_not_le hnle)
    exact ⟨fun h => ⟨h, Severity.le_trans hle h⟩, fun h => h.1⟩

theorem le_max_left (s t : Severity) : s ≤ s.max t := (max_le_iff.1 (Nat.le_refl _)).1

theorem le_max_right (s t : Severity) : t ≤ s.max t := (max_le_iff.1 (Nat.le_refl _)).2

theorem max_mono {t u : Severity} (s : Severity) (h : t ≤ u) : s.max t ≤ s.max u :=
  max_le_iff.2 ⟨le_max_left s u, Severity.le_trans h (le_max_right s u)⟩

end Severity

namespace CompoundRule

variable {r : CompoundRule} {fs gs : List Finding}

theorem foldl_max_le_iff (s u : Severity) (fs : List Finding) :
    fs.foldl (fun s f => s.max f.severity) s ≤ u ↔ s ≤ u ∧ ∀ f ∈ fs, f.severity ≤ u := by
  induction fs generalizing s with
  | nil => simp
  | cons f fs ih => simp [ih, Severity.max_le_iff, and_assoc]

theorem foldl_max_mem (s : Severity) (fs : List Finding) :
    fs.foldl (fun s f => s.max f.severity) s = s ∨
      ∃ f ∈ fs, fs.foldl (fun s f => s.max f.severity) s = f.severity := by
  induction fs generalizing s with
  | nil => exact .inl rfl
  | cons f fs ih =>
    rw [List.foldl_cons]
    rcases ih (s.max f.severity) with hmax | ⟨g, hg, hmax⟩
    · rcases Severity.max_eq_or s f.severity with hs | hf
      · exact .inl (hmax.trans hs)
      · exact .inr ⟨f, List.mem_cons_self, hmax.trans hf⟩
    · exact .inr ⟨g, List.mem_cons_of_mem f hg, hmax⟩

/-- The worst severity is that of a finding, and no finding has a worse one. -/
theorem worst?_eq_some_iff {s : Severity} :
    worst? fs = some s ↔ (∃ f ∈ fs, f.severity = s) ∧ ∀ f ∈ fs, f.severity ≤ s := by
  cases fs with
  | nil => simp [worst?]
  | cons f fs =>
    have hself : ∀ g ∈ f :: fs, g.severity ≤ fs.foldl (fun s f => s.max f.severity) f.severity :=
      List.forall_mem_cons.2 ((foldl_max_le_iff f.severity _ fs).1 (Nat.le_refl _))
    rw [worst?, Option.some.injEq]
    constructor
    · rintro rfl
      refine ⟨?_, hself⟩
      rcases foldl_max_mem f.severity fs with hfirst | ⟨g, hg, hlater⟩
      · exact ⟨f, List.mem_cons_self, hfirst.symm⟩
      · exact ⟨g, List.mem_cons_of_mem f hg, hlater.symm⟩
    · rintro ⟨⟨g, hg, rfl⟩, hle⟩
      have hbound := (foldl_max_le_iff f.severity _ fs).2 (List.forall_mem_cons.1 hle)
      exact Severity.le_antisymm hbound (hself g hg)

theorem worst?_perm (h : fs.Perm gs) : worst? fs = worst? gs := by
  ext s
  rw [worst?_eq_some_iff, worst?_eq_some_iff]
  simp only [h.mem_iff]

/-! ## What makes a rule fire -/

theorem qualifies_iff {f : Finding} {v : String} :
    r.qualifies f v = true ↔
      f.kind = .reported ∧ f.validatorId = v ∧ r.condition.minSeverity ≤ f.severity := by
  simp [qualifies, and_assoc]

theorem counts_iff {f : Finding} :
    r.counts f = true ↔ ∃ v ∈ r.validators, r.qualifies f v = true := by
  simp [counts]

theorem evaluate_eq_some_iff {fired : FiredRule × Finding} :
    r.evaluate fs = some fired ↔ r.fault? = none ∧ ∃ cs worst, r.contributing? fs = some cs ∧
      worst? cs = some worst ∧ r.fire (r.severity.max worst) cs = fired := by
  unfold evaluate
  cases r.fault? with
  | some fault => simp
  | none => simp [Option.bind_eq_some_iff]

theorem everyValidatorHas_perm (h : fs.Perm gs) :
    r.everyValidatorHas fs = r.everyValidatorHas gs := by
  unfold everyValidatorHas
  rw [Bool.eq_iff_iff]
  simp only [List.all_eq_true, List.any_eq_true, h.mem_iff]

theorem resources_perm (h : fs.Perm gs) :
    sortedSet (fs.map (·.location.resource)) = sortedSet (gs.map (·.location.resource)) :=
  sortedSet_eq_of_mem_iff fun _ => (h.map _).mem_iff

theorem resourcesOf_perm (h : fs.Perm gs) : r.resourcesOf fs = r.resourcesOf gs :=
  funext fun _ => sortedSet_eq_of_mem_iff fun _ => ((h.filter _).map _).mem_iff

theorem sharedResource?_perm (h : fs.Perm gs) : r.sharedResource? fs = r.sharedResource? gs := by
  have hstep : r.shareWith fs = r.shareWith gs := by
    funext shared validator
    simp only [shareWith, resourcesOf_perm h]
  rw [sharedResource?, sharedResource?, sharedResources?, sharedResources?, hstep]

theorem contributing?_perm (h : fs.Perm gs) :
    Option.Rel List.Perm (r.contributing? fs) (r.contributing? gs) := by
  unfold contributing?
  split
  · rw [sharedResource?_perm h]
    cases r.sharedResource? gs with
    | none => exact .none
    | some resource => exact .some ((h.filter _).filter _)
  · rw [everyValidatorHas_perm h]
    split
    · exact .some (h.filter _)
    · exact .none

theorem commonLocation_perm (h : fs.Perm gs) : r.commonLocation fs = r.commonLocation gs := by
  unfold commonLocation
  rw [resources_perm h]

/-- On findings in another order a rule fires in the same way. -/
theorem evaluate_perm (h : fs.Perm gs) :
    Option.Rel (fun fired fired' => fired.1.SameButOrder fired'.1 ∧
      fired.2.withoutCompoundEvidence = fired'.2.withoutCompoundEvidence)
      (r.evaluate fs) (r.evaluate gs) := by
  unfold evaluate
  split
  · exact .none
  · have hcontributing := contributing?_perm (r := r) h
    generalize r.contributing? fs = cs at hcontributing
    generalize r.contributing? gs = ds at hcontributing
    cases hcontributing with
    | none => exact .none
    | some hperm =>
      simp only [Option.bind_eq_bind, Option.bind_some, worst?_perm hperm]
      cases worst? _ with
      | none => exact .none
      | some worst =>
        refine .some ⟨⟨rfl, hperm.map _⟩, ?_⟩
        simp [fire, Finding.withoutCompoundEvidence, commonLocation_perm hperm]

end CompoundRule

end AgentGovernance
