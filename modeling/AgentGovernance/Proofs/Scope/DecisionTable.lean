-- SUMMARY: The decisions of an enforcer as a table over the declared descriptors.
import AgentGovernance.Proofs.Descriptor.Store
import AgentGovernance.Proofs.Scope.Restriction

/-!
# The table of decisions

Whether an agent may perform an action can be read off the declared descriptors, row by row: blocked
for everyone, claimed by another agent, agent not declared, denied, not on the allow list, allowed.
The first row that fits decides. That holds for actions whose tag is its own tag, as the tag of every
ASCII spelling is. Main statement: each row, and that an exclusive action is open to one agent at
most.
-/

namespace AgentGovernance

namespace DescriptorStore

/-- The agent with the given id claims the tag for itself. -/
def ClaimedBy (s : DescriptorStore) (owner : String) (tag : Tag) : Prop :=
  ∃ d ∈ s.all, d.id = owner ∧ tag ∈ d.exclusive

/-- Nobody but the agent claims the tag. -/
def LeftTo (s : DescriptorStore) (agent : String) (tag : Tag) : Prop :=
  ∀ owner, s.ClaimedBy owner tag → owner = agent

end DescriptorStore

/-- The descriptor has an allow list, and neither that nor the exclusive list holds the tag. -/
def AgentDescriptor.Omits (d : AgentDescriptor) (tag : Tag) : Prop :=
  d.can ≠ [] ∧ tag ∉ d.can ∧ tag ∉ d.exclusive

namespace Enforcer

/-- A block for everyone has the tag. The empty tag cannot be blocked. -/
def BlockedForAll (blocked : List String) (tag : Tag) : Prop :=
  tag ≠ "" ∧ ∃ b ∈ blocked, Tag.ofText b = tag

/-- The rows of the table: what is decided about an agent and a tag, by which rule, and who is named
as authorized instead. -/
inductive Ruling (blocked : List String) (s : DescriptorStore) (agent : String) (tag : Tag) :
    Outcome → DecisionRule → Option String → Prop where
  | globalBlock : BlockedForAll blocked tag → Ruling blocked s agent tag .blocked .globalBlock none
  | exclusivity {owner : String} : ¬BlockedForAll blocked tag → owner ≠ agent →
      s.ClaimedBy owner tag → Ruling blocked s agent tag .blocked .exclusivity (some owner)
  | unknownAgent : ¬BlockedForAll blocked tag → s.LeftTo agent tag → (∀ d ∈ s.all, d.id ≠ agent) →
      Ruling blocked s agent tag .blocked .unknownAgent none
  | denyList {d : AgentDescriptor} : ¬BlockedForAll blocked tag → s.LeftTo agent tag →
      d ∈ s.all → d.id = agent → tag ∈ d.cannot →
      Ruling blocked s agent tag .blocked .denyList none
  | undeclared {d : AgentDescriptor} : ¬BlockedForAll blocked tag → s.LeftTo agent tag →
      d ∈ s.all → d.id = agent → tag ∉ d.cannot → d.Omits tag →
      Ruling blocked s agent tag .warned .undeclaredAction none
  | allowList {d : AgentDescriptor} : ¬BlockedForAll blocked tag → s.LeftTo agent tag →
      d ∈ s.all → d.id = agent → tag ∉ d.cannot → tag ∈ d.can ∨ tag ∈ d.exclusive →
      Ruling blocked s agent tag .allowed .allowList none
  | openScope {d : AgentDescriptor} : ¬BlockedForAll blocked tag → s.LeftTo agent tag →
      d ∈ s.all → d.id = agent → tag ∉ d.cannot → d.can = [] → tag ∉ d.exclusive →
      Ruling blocked s agent tag .allowed .openScope none

variable {blocked : List String} {s : DescriptorStore} {agent : String} {tag : Tag}

/-! ## Every decision stands in the table -/

theorem ruling_decideByDescriptor (hopen : ¬BlockedForAll blocked tag) (hleft : s.LeftTo agent tag)
    {d : AgentDescriptor} (hd : d ∈ s.all) (hid : d.id = agent) (hfixed : Tag.ofText tag = tag) :
    Ruling blocked s agent tag (decideByDescriptor d agent tag).outcome
      (decideByDescriptor d agent tag).rule (decideByDescriptor d agent tag).authorized := by
  simp only [decideByDescriptor, AgentDescriptor.denies, AgentDescriptor.declaresAllowList,
    AgentDescriptor.allows, hfixed, List.contains_iff_mem]
  split
  · rename_i hdenied
    exact .denyList hopen hleft hd hid hdenied
  · rename_i hfree
    split
    · rename_i homits
      refine .undeclared hopen hleft hd hid hfree ?_
      simpa [AgentDescriptor.Omits, not_or] using homits
    · rename_i hlisted
      split
      · rename_i hallowed
        exact .allowList hopen hleft hd hid hfree (by simpa using hallowed)
      · rename_i hmissing
        have hmissing : tag ∉ d.can ∧ tag ∉ d.exclusive := by simpa [not_or] using hmissing
        refine .openScope hopen hleft hd hid hfree ?_ hmissing.2
        simpa [hmissing] using hlisted

theorem ruling_decideByIndex (hw : s.index.WellFormed) (htrim : Text.trim agent = agent)
    (hopen : ¬BlockedForAll blocked tag) (hfixed : Tag.ofText tag = tag) :
    Ruling blocked s agent tag (decideByIndex s.index agent tag).outcome
      (decideByIndex s.index agent tag).rule (decideByIndex s.index agent tag).authorized := by
  have howner : ∀ owner, s.index.exclusiveOwner? tag = some owner ↔ s.ClaimedBy owner tag := by
    intro owner
    rw [DescriptorIndex.exclusiveOwner?, hfixed]
    exact hw.owner_iff tag owner
  unfold decideByIndex
  split
  · rename_i owner hfilter
    obtain ⟨hfound, hne⟩ := Option.filter_eq_some_iff.1 hfilter
    exact .exclusivity hopen (by simpa using hne) ((howner owner).1 hfound)
  · rename_i hfilter
    have hleft : s.LeftTo agent tag := by
      intro owner hclaimed
      have hpass := Option.filter_eq_none_iff.1 hfilter owner ((howner owner).2 hclaimed)
      simpa using hpass
    split
    · rename_i hunknown
      refine .unknownAgent hopen hleft ?_
      intro d hd hid
      have hno := (DescriptorIndex.find?_eq_none_iff agent).1 hunknown
      exact hno (htrim.symm ▸ hid ▸ List.mem_map_of_mem hd)
    · rename_i d hfound
      obtain ⟨hd, hid⟩ := DescriptorIndex.mem_of_find? hfound
      exact ruling_decideByDescriptor hopen hleft hd (hid.trans htrim) hfixed

/-- A check of an action whose tag is its own tag decides as the table says. -/
theorem ruling_check (hs : s.Reachable) (blocked : List String) (agentId : String) {action : String}
    (hfixed : Tag.ofText (Tag.ofText action) = Tag.ofText action) :
    Ruling blocked s (Text.trim agentId) (Tag.ofText action)
      ((ofBlocks blocked).check s.index agentId action).outcome
      ((ofBlocks blocked).check s.index agentId action).rule
      ((ofBlocks blocked).check s.index agentId action).authorized := by
  have hglobal : (ofBlocks blocked).globallyBlocked.contains (Tag.ofText action) = true ↔
      BlockedForAll blocked (Tag.ofText action) := by
    rw [List.contains_iff_mem]
    exact mem_globallyBlocked
  unfold check decide
  split
  · rename_i hblocked
    exact .globalBlock (hglobal.1 hblocked)
  · rename_i hopen
    exact ruling_decideByIndex hs.wellFormed (Text.trim_trim agentId) (mt hglobal.2 hopen) hfixed

/-! ## Row by row -/

theorem claimedBy_unique (hw : s.index.WellFormed) {owner owner' : String}
    (h : s.ClaimedBy owner tag) (h' : s.ClaimedBy owner' tag) : owner = owner' := by
  obtain ⟨d, hd, rfl, hdtag⟩ := h
  obtain ⟨e, he, rfl, hetag⟩ := h'
  rw [hw.eq_of_exclusive hd he hdtag hetag]

namespace Ruling

variable {outcome : Outcome} {rule : DecisionRule} {authorized : Option String}
  (h : Ruling blocked s agent tag outcome rule authorized)

include h

theorem globalBlock_iff :
    outcome = .blocked ∧ rule = .globalBlock ↔ BlockedForAll blocked tag := by
  cases h <;> simp [*]

theorem exclusivity_iff (hw : s.index.WellFormed) (hopen : ¬BlockedForAll blocked tag)
    (owner : String) :
    outcome = .blocked ∧ rule = .exclusivity ∧ authorized = some owner ↔
      owner ≠ agent ∧ s.ClaimedBy owner tag := by
  -- Whoever claims the tag is the one that is named.
  have hunique : ∀ o, s.ClaimedBy o tag → s.ClaimedBy owner tag → o = owner :=
    fun o ho howner => claimedBy_unique hw ho howner
  cases h <;> grind [DescriptorStore.LeftTo]

section Left

variable (hopen : ¬BlockedForAll blocked tag) (hleft : s.LeftTo agent tag)

include hopen hleft

theorem unknownAgent_iff :
    outcome = .blocked ∧ rule = .unknownAgent ↔ ∀ d ∈ s.all, d.id ≠ agent := by
  cases h <;> grind [DescriptorStore.LeftTo]

variable {d : AgentDescriptor} (hd : d ∈ s.all) (hid : d.id = agent)
  (honly : ∀ e ∈ s.all, e.id = agent → e = d)

include hd hid honly

theorem denyList_iff : outcome = .blocked ∧ rule = .denyList ↔ tag ∈ d.cannot := by
  cases h <;> grind [DescriptorStore.LeftTo]

theorem undeclared_iff (hfree : tag ∉ d.cannot) : outcome = .warned ↔ d.Omits tag := by
  cases h <;> grind [DescriptorStore.LeftTo, AgentDescriptor.Omits]

theorem allowed_of_listed (hfree : tag ∉ d.cannot) (hlisted : ¬d.Omits tag) :
    outcome = .allowed := by
  cases h <;> grind [DescriptorStore.LeftTo]

end Left

/-- An agent that is not blocked from a claimed tag is the one that claims it. -/
theorem eq_of_claimed {owner : String} (hclaimed : s.ClaimedBy owner tag)
    (hfree : outcome ≠ .blocked) : owner = agent := by
  cases h <;> grind [DescriptorStore.LeftTo]

end Ruling

/-- For an action whose tag is its own tag, the first row that fits decides: a block for everyone, the
claim of another agent, an agent without descriptor, the deny list, an allow list that leaves the tag
out; else the action is allowed. Hence a claimed action is not blocked for one agent at most. -/
theorem decision_table (hs : s.Reachable) (blocked : List String) {action : String} {tag : Tag}
    (htag : Tag.ofText action = tag) (hfixed : Tag.ofText tag = tag) :
    (∀ agentId,
      let agent := Text.trim agentId
      let decision := (ofBlocks blocked).check s.index agentId action
      (decision.outcome = .blocked ∧ decision.rule = .globalBlock ↔ BlockedForAll blocked tag) ∧
      (¬BlockedForAll blocked tag →
        (∀ owner, decision.outcome = .blocked ∧ decision.rule = .exclusivity ∧
            decision.authorized = some owner ↔ owner ≠ agent ∧ s.ClaimedBy owner tag) ∧
        (s.LeftTo agent tag →
          (decision.outcome = .blocked ∧ decision.rule = .unknownAgent ↔
            ∀ d ∈ s.all, d.id ≠ agent) ∧
          ∀ d ∈ s.all, d.id = agent →
            (decision.outcome = .blocked ∧ decision.rule = .denyList ↔ tag ∈ d.cannot) ∧
            (tag ∉ d.cannot →
              (decision.outcome = .warned ↔ d.Omits tag) ∧
              (¬d.Omits tag → decision.outcome = .allowed))))) ∧
    ∀ owner, s.ClaimedBy owner tag → ∀ agentId,
      ((ofBlocks blocked).check s.index agentId action).outcome ≠ .blocked →
        Text.trim agentId = owner := by
  subst htag
  have hw := hs.wellFormed
  refine ⟨?_, ?_⟩
  · intro agentId agent decision
    have hruling : Ruling blocked s agent (Tag.ofText action) decision.outcome decision.rule
        decision.authorized := ruling_check hs blocked agentId hfixed
    refine ⟨hruling.globalBlock_iff, fun hopen => ⟨hruling.exclusivity_iff hw hopen, ?_⟩⟩
    intro hleft
    refine ⟨hruling.unknownAgent_iff hopen hleft, fun d hd hid => ?_⟩
    have honly : ∀ e ∈ s.all, e.id = agent → e = d := fun e he heid =>
      hw.sorted.eq_of_id_eq he hd (heid.trans hid.symm)
    refine ⟨hruling.denyList_iff hopen hleft hd hid honly, fun hfree => ⟨?_, ?_⟩⟩
    · exact hruling.undeclared_iff hopen hleft hd hid honly hfree
    · exact hruling.allowed_of_listed hopen hleft hd hid honly hfree
  · intro owner hclaimed agentId hfree
    exact ((ruling_check hs blocked agentId hfixed).eq_of_claimed hclaimed hfree).symm

/-- An action that one agent claims is blocked for another in the claimant's name, although that
other has it on its allow list. -/
theorem decision_table_claimed :
    let s := ((StoreCall.replace
      [.withExclusive (.new "ops") ["deploy"], .withCan (.new "dev") ["deploy"]]).act.run {}).world
    let decision := (ofBlocks ["delete repository"]).check s.index " dev" "Deploy"
    decision.outcome = .blocked ∧ decision.rule = .exclusivity ∧
      decision.authorized = some "ops" := by
  intro s decision
  have hs : s.Reachable := by
    refine .after _ .empty ?_
    intro d hd
    rcases List.mem_cons.1 hd with rfl | hd
    · exact ⟨_, _, .withExclusive _ (.new "ops")⟩
    · obtain rfl := List.mem_singleton.1 hd
      exact ⟨_, _, .withCan _ (.new "dev")⟩
  have htag : Tag.ofText "Deploy" = "deploy" := by decide +kernel
  have hfixed : Tag.ofText "deploy" = "deploy" := by decide +kernel
  have hopen : ¬BlockedForAll ["delete repository"] "deploy" := by
    rintro ⟨-, b, hb, hblock⟩
    obtain rfl := List.mem_singleton.1 hb
    exact absurd hblock (by decide +kernel)
  have hclaimed : s.ClaimedBy "ops" "deploy" :=
    ⟨.withExclusive (.new "ops") ["deploy"], List.mem_cons_of_mem _ List.mem_cons_self,
      by decide +kernel, by decide +kernel⟩
  obtain ⟨htable, -⟩ := decision_table hs ["delete repository"] htag hfixed
  exact (((htable " dev").2 hopen).1 "ops").2 ⟨by decide +kernel, hclaimed⟩

end Enforcer

end AgentGovernance
