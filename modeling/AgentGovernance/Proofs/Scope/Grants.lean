-- SUMMARY: What a validated descriptor grants is allowed, unless someone else has a say in it.
import AgentGovernance.Proofs.Descriptor.Validation
import AgentGovernance.Proofs.Scope.DecisionTable

/-!
# Grants that can be used

Validation and enforcement read the same descriptors and never ask each other. Main statement: an
agent whose descriptor was found valid is allowed what the descriptor lists, by the rule of the allow
list, as long as nobody blocks it for everyone or claims it; and nobody else claims what is exclusive
to the agent.
-/

namespace AgentGovernance

variable {s : DescriptorStore} {d : AgentDescriptor}

/-- The validation of a descriptor in a store is about that descriptor. -/
theorem DescriptorStore.Reachable.validate_eq (hs : s.Reachable) (hd : d ∈ s.all)
    (fileExists : Path → Bool) :
    s.validate fileExists d.id = .ok (.ofDescriptor fileExists s.index.ids d) := by
  have hfind : s.find? d.id = some d := hs.wellFormed.find?_eq_some hd (hs.trim_id hd).symm
  simp only [DescriptorStore.validate, DescriptorStore.get, hfind]
  rfl

namespace Enforcer

/-- The row of the table for a tag that the agent lists and does not deny. -/
theorem Ruling.allowList_of_granted {blocked : List String} {agent : String} {tag : Tag}
    {outcome : Outcome} {rule : DecisionRule} {authorized : Option String}
    (h : Ruling blocked s agent tag outcome rule authorized) (hopen : ¬BlockedForAll blocked tag)
    (hleft : s.LeftTo agent tag) (hd : d ∈ s.all) (hid : d.id = agent)
    (honly : ∀ e ∈ s.all, e.id = agent → e = d) (hfree : tag ∉ d.cannot)
    (hlisted : tag ∈ d.can ∨ tag ∈ d.exclusive) : outcome = .allowed ∧ rule = .allowList := by
  cases h with
  | allowList => exact ⟨rfl, rfl⟩
  | globalBlock hblocked => exact absurd hblocked hopen
  | exclusivity _ hne hclaimed => exact absurd (hleft _ hclaimed) hne
  | unknownAgent _ _ hunknown => exact absurd hid (hunknown d hd)
  | denyList _ _ he heid hdenied => exact absurd (honly _ he heid ▸ hdenied) hfree
  | undeclared _ _ he heid _ homits =>
    obtain rfl := honly _ he heid
    exact absurd hlisted (not_or.2 homits.2)
  | openScope _ _ he heid _ hnone hnot =>
    obtain rfl := honly _ he heid
    exact absurd hlisted (by simp [hnone, hnot])

/-- An agent whose descriptor was found valid is allowed whatever the descriptor lists, by the rule of
the allow list, if the tag is its own tag, is not blocked for everyone, and is not exclusive to
another agent. What is exclusive to the agent is exclusive to no other. -/
theorem validated_grants_are_usable (hs : s.Reachable) (hd : d ∈ s.all) {fileExists : Path → Bool}
    {v : Validation} (hv : s.validate fileExists d.id = .ok v) (hvalid : v.isValid = true)
    (blocked : List String) :
    (∀ tag, tag ∈ d.can ∨ tag ∈ d.exclusive → Tag.ofText tag = tag →
      tag ∉ (ofBlocks blocked).globallyBlocked →
      (∀ e ∈ s.all, e.id ≠ d.id → tag ∉ e.exclusive) →
      ((ofBlocks blocked).check s.index d.id tag).outcome = .allowed ∧
        ((ofBlocks blocked).check s.index d.id tag).rule = .allowList) ∧
    (∀ tag ∈ d.exclusive, ∀ e ∈ s.all, e.id ≠ d.id → tag ∉ e.exclusive) := by
  have hw := hs.wellFormed
  have hid := hs.trim_id hd
  obtain rfl : Validation.ofDescriptor fileExists s.index.ids d = v :=
    Except.ok.inj ((hs.validate_eq hd fileExists).symm.trans hv)
  refine ⟨?_, ?_⟩
  · intro tag hlisted hfixed hopen hunclaimed
    have hagain : Tag.ofText (Tag.ofText tag) = Tag.ofText tag := by rw [hfixed, hfixed]
    have hruling := ruling_check hs blocked d.id hagain
    rw [hfixed, hid] at hruling
    refine hruling.allowList_of_granted (mt mem_globallyBlocked.2 hopen) ?_ hd rfl ?_
      (Validation.not_denied_of_isValid hvalid hlisted) hlisted
    · rintro owner ⟨e, he, rfl, hclaimed⟩
      by_contra hne
      exact hunclaimed e he hne hclaimed
    · intro e he heid
      exact hw.sorted.eq_of_id_eq he hd heid
  · intro tag htag e he hne hclaimed
    exact hne (congrArg _ (hw.eq_of_exclusive he hd hclaimed htag))

/-- An agent with a deny list of its own may do what it lists, although another agent claims something
and an action is blocked for everyone. -/
theorem validated_grants_are_usable_beside_claims :
    let ops := AgentDescriptor.withExclusive (.new "ops") ["Publish Release"]
    let dev := AgentDescriptor.withCannot (.withCan (.new "dev") ["Write-Code"]) ["deploy"]
    let s := ((StoreCall.replace [ops, dev]).act.run {}).world
    let decision := (ofBlocks ["delete repository"]).check s.index dev.id "write_code"
    (∃ v, s.validate (fun _ => false) dev.id = .ok v ∧ v.isValid = true) ∧
      decision.outcome = .allowed ∧ decision.rule = .allowList := by
  intro ops dev s decision
  have hs : s.Reachable := by
    refine .after _ .empty ?_
    intro d hd
    rcases List.mem_cons.1 hd with rfl | hd
    · exact ⟨_, _, .withExclusive _ (.new "ops")⟩
    · obtain rfl := List.mem_singleton.1 hd
      exact ⟨_, _, .withCannot _ (.withCan _ (.new "dev"))⟩
  have hdev : dev ∈ s.all := by decide +kernel
  have hvalid : (Validation.ofDescriptor (fun _ => false) s.index.ids dev).isValid = true := by
    decide +kernel
  have hv := hs.validate_eq hdev fun _ => false
  refine ⟨⟨_, hv, hvalid⟩, ?_⟩
  refine (validated_grants_are_usable hs hdev hv hvalid ["delete repository"]).1 "write_code"
    (.inl (by decide +kernel)) (by decide +kernel) (by decide +kernel) ?_
  intro e he hne
  have hothers : ∀ e ∈ s.all, e.id ≠ dev.id → "write_code" ∉ e.exclusive := by decide +kernel
  exact hothers e he hne

end Enforcer

end AgentGovernance
