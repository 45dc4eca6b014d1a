-- SUMMARY: What further findings do to a compound rule that fires.
import AgentGovernance.Proofs.Audit.Firing

/-!
# More evidence

A rule that fires still does when further findings are reported, and without a shared resource it
never becomes less severe. A rule that asks for one resource takes the first on which its validators
agree: further findings can make them agree on an earlier one, and what is severe elsewhere then no
longer counts. Main statement: the severity falls exactly if a rule is diverted in this way.
-/

namespace AgentGovernance

theorem Severity.not_le_iff {s t : Severity} : ¬ s ≤ t ↔ t < s := Nat.not_le

namespace CompoundRule

variable {r : CompoundRule} {fs gs cs ds : List Finding} {resource : String}
  {fired : FiredRule × Finding}

/-- Whether a rule that fired with a severity takes a resource now on which nothing that counts is
as severe. -/
def Diverted (r : CompoundRule) (gs : List Finding) (s : Severity) : Prop :=
  r.condition.sameLocation = true ∧ r.severity < s ∧
    ∃ resource, IsLeast {resource | r.AgreedOn gs resource} resource ∧
      ∀ g ∈ gs, g.location.resource = resource → (∃ v ∈ r.validators, r.Reports v g) →
        g.severity < s

/-! ## Firing again -/

theorem Agreed.mono (h : r.Agreed fs) (hsub : fs ⊆ gs) : r.Agreed gs := by
  intro v hv
  obtain ⟨f, hf, hreports⟩ := h v hv
  exact ⟨f, hsub hf, hreports⟩

theorem AgreedOn.mono (h : r.AgreedOn fs resource) (hsub : fs ⊆ gs) : r.AgreedOn gs resource :=
  agreed_on_iff.1 ((agreed_on_iff.2 h).mono (List.filter_subset _ hsub))

/-- More findings make a rule fire that fired before, though perhaps on another resource. -/
theorem FiresOn.exists_of_subset (h : r.FiresOn fs cs) (hsub : fs ⊆ gs) (hv : r.validators ≠ []) :
    ∃ ds, r.FiresOn gs ds := by
  refine (exists_firesOn_iff hv).2 ?_
  rcases (exists_firesOn_iff hv).1 ⟨cs, h⟩ with ⟨hany, hagreed⟩ | ⟨hsame, resource, hagreed⟩
  · exact .inl ⟨hany, hagreed.mono hsub⟩
  · exact .inr ⟨hsame, resource, hagreed.mono hsub⟩

/-! ## Severities -/

/-- A rule fires with at least a severity if it or one of the findings has it. -/
theorem Yields.le_severity_iff (h : r.Yields cs fired) {s : Severity} :
    s ≤ fired.2.severity ↔ s ≤ r.severity ∨ ∃ f ∈ cs, s ≤ f.severity := by
  constructor
  · intro hle
    rcases h.attained with hrule | ⟨f, hf, hmax⟩
    · exact .inl (hrule ▸ hle)
    · exact .inr ⟨f, hf, hmax ▸ hle⟩
  · rintro (hrule | ⟨f, hf, hle⟩)
    · exact Severity.le_trans hrule h.atLeastRule
    · exact Severity.le_trans hle (h.atLeast f hf)

/-- As long as the findings that made a rule fire do so again, it is as severe. -/
theorem Yields.severity_le (h : r.Yields cs fired) {fired' : FiredRule × Finding}
    (h' : r.Yields ds fired') (hsub : cs ⊆ ds) : fired.2.severity ≤ fired'.2.severity := by
  rw [h'.le_severity_iff]
  rcases h.attained with hrule | ⟨f, hf, hmax⟩
  · exact .inl (Nat.le_of_eq (congrArg Severity.rank hrule))
  · exact .inr ⟨f, hsub hf, Nat.le_of_eq (congrArg Severity.rank hmax)⟩

/-- The findings that make a rule fire do so again if it looks at the same resource. -/
theorem FiresOn.subset_of_sublist (h : r.FiresOn fs cs) (h' : r.FiresOn gs ds)
    (hmore : fs.Sublist gs) (hstay : r.condition.sameLocation = false ∨ ∀ resource,
      IsLeast {resource | r.AgreedOn fs resource} resource →
      IsLeast {resource | r.AgreedOn gs resource} resource) : cs ⊆ ds := by
  cases h with
  | anywhere hany _ =>
    cases h' with
    | anywhere => exact (hmore.filter _).subset
    | together hsame _ => cases hany.symm.trans hsame
  | together hsame hleast =>
    cases h' with
    | anywhere hany _ => cases hany.symm.trans hsame
    | together _ hleast' =>
      have hstay := hstay.resolve_left fun hany => by cases hany.symm.trans hsame
      rw [(hstay _ hleast).unique hleast']
      exact (hmore.filter _).subset

/-- What a rule fires on is less severe than some severity exactly if that is so of all that counts
on the resource it takes. -/
theorem FiresOn.diverted_iff (h : r.FiresOn gs ds) (hsame : r.condition.sameLocation = true)
    {s : Severity} : r.Diverted gs s ↔ ¬ (s ≤ r.severity ∨ ∃ g ∈ ds, s ≤ g.severity) := by
  cases h with
  | anywhere hany _ => cases hany.symm.trans hsame
  | @together _ resource hleast =>
    simp only [not_or, not_exists, not_and, Severity.not_le_iff, List.mem_filter,
      decide_eq_true_eq, Diverted, hsame, true_and]
    refine and_congr_right fun _ => ⟨?_, fun hall => ⟨resource, hleast, ?_⟩⟩
    · rintro ⟨_, hleast', hall⟩ g ⟨hg, hresource, hcounts⟩
      exact hall g hg (hresource.trans (hleast.unique hleast')) hcounts
    · exact fun g hg hresource hcounts => hall g ⟨hg, hresource, hcounts⟩

/-- With further findings anywhere between, a rule that fired fires again. It is as severe as before
unless it is diverted, and so it always is if it does not ask for one resource or if no earlier
resource is shared now. -/
theorem weakens_iff_diverted (hfired : r.evaluate fs = some fired) (hmore : fs.Sublist gs) :
    ∃ fired', r.evaluate gs = some fired' ∧
      (fired.2.severity ≤ fired'.2.severity ↔ ¬ r.Diverted gs fired.2.severity) ∧
      ((r.condition.sameLocation = false ∨ ∀ resource,
        IsLeast {resource | r.AgreedOn fs resource} resource →
        IsLeast {resource | r.AgreedOn gs resource} resource) →
        fired.2.severity ≤ fired'.2.severity) := by
  obtain ⟨hfault, cs, hfires, hyields⟩ := exists_firesOn_of_evaluate hfired
  have hv := validators_ne_nil_of_fault? hfault
  obtain ⟨ds, hfires'⟩ := hfires.exists_of_subset hmore.subset hv
  obtain ⟨fired', hfired'⟩ := Option.isSome_iff_exists.1 (hfires'.evaluate_isSome hfault)
  obtain ⟨-, ds, hfires', hyields'⟩ := exists_firesOn_of_evaluate hfired'
  have hstays := fun hstay =>
    hyields.severity_le hyields' (hfires.subset_of_sublist hfires' hmore hstay)
  refine ⟨fired', hfired', ?_, hstays⟩
  by_cases hsame : r.condition.sameLocation = true
  · rw [hfires'.diverted_iff hsame, not_not, hyields'.le_severity_iff]
  · exact iff_of_true (hstays (.inl (Bool.not_eq_true _ ▸ hsame))) fun h => hsame h.1

/-- Findings on a later resource leave a critical rule critical. -/
theorem weakens_iff_diverted_later :
    let r : CompoundRule := { new "pair" ["xss", "headers"] .low "" with
      condition := { sameLocation := true } }
    let finding (v : String) (s : Severity) (resource : String) : Finding :=
      { validatorId := v, severity := s, location := { resource }, description := "" }
    let fs := [finding "xss" .critical "b", finding "headers" .low "b"]
    let gs := finding "headers" .low "c" :: fs ++ [finding "xss" .low "c"]
    ∃ fired fired', r.evaluate fs = some fired ∧ fs.Sublist gs ∧ r.evaluate gs = some fired' ∧
      fired.2.severity ≤ fired'.2.severity := by
  intro r finding fs gs
  have hmore : fs.Sublist gs := by decide
  obtain ⟨fired, hfired⟩ := Option.isSome_iff_exists.1 (by decide : (r.evaluate fs).isSome = true)
  obtain ⟨fired', hfired', -, hstays⟩ := weakens_iff_diverted hfired hmore
  refine ⟨fired, fired', hfired, hmore, hfired', hstays (.inr fun resource => ?_)⟩
  have hsame : r.sharedResource? fs = r.sharedResource? gs := by decide
  have hv : r.validators ≠ [] := by decide
  rw [← sharedResource?_eq_some_iff hv, hsame, sharedResource?_eq_some_iff hv]
  exact fun h => h

/-- A rule that is critical on one resource drops to low when its validators agree on an earlier
one. -/
theorem agreement_elsewhere_weakens :
    let r : CompoundRule := { new "pair" ["xss", "headers"] .low "" with
      condition := { sameLocation := true } }
    let finding (v : String) (s : Severity) (resource : String) : Finding :=
      { validatorId := v, severity := s, location := { resource }, description := "" }
    let fs := [finding "xss" .critical "b", finding "headers" .low "b"]
    let gs := fs ++ [finding "xss" .low "a", finding "headers" .low "a"]
    fs.Sublist gs ∧ (r.evaluate fs).map (·.2.severity) = some .critical ∧
      (r.evaluate gs).map (·.2.severity) = some .low := by
  decide

end CompoundRule

end AgentGovernance
