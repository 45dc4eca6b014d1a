-- SUMMARY: When a check blocks, said of the descriptors alone, and which written restrictions take effect.
import AgentGovernance.Proofs.Descriptor.Index
import AgentGovernance.Proofs.Descriptor.Written
import AgentGovernance.Proofs.Scope.SortedSet

/-!
# Restrictions

A check takes the tag of the action, but asks deny lists and owners for the tag of that tag. The
global blocks are asked for the tag itself. So a restriction takes effect if its tag is its own tag,
as every ASCII spelling's is, and may be missed otherwise. The main statement says exactly when.
-/

namespace AgentGovernance

/-! ## What a check asks -/

namespace DescriptorIndex

/-- The deny list of the agent holds the tag. -/
def DeniedTo (index : DescriptorIndex) (agentId : String) (tag : Tag) : Prop :=
  ∃ d ∈ index.descriptors, d.id = agentId ∧ tag ∈ d.cannot

/-- The tag is exclusive to an agent other than this one. -/
def OwnedByOther (index : DescriptorIndex) (agentId : String) (tag : Tag) : Prop :=
  ∃ d ∈ index.descriptors, d.id ≠ agentId ∧ tag ∈ d.exclusive

/-- The spelling was written into the deny list of the agent, or into the exclusive list of another. -/
def RestrictsAsWritten (index : DescriptorIndex) (agentId spelling : String) : Prop :=
  ∃ d ∈ index.descriptors, ∃ cannot exclusive, d.WrittenAs cannot exclusive ∧
    (d.id = agentId ∧ spelling ∈ cannot ∨ d.id ≠ agentId ∧ spelling ∈ exclusive)

end DescriptorIndex

namespace Enforcer

variable {index : DescriptorIndex} {agentId : String} {tag : Tag}

theorem mem_globallyBlocked {blocked : List String} :
    tag ∈ (ofBlocks blocked).globallyBlocked ↔ tag ≠ "" ∧ ∃ b ∈ blocked, Tag.ofText b = tag := by
  simp only [ofBlocks, mem_sortedSet, List.mem_filter, List.mem_map, Bool.not_eq_true',
    String.isEmpty_eq_false_iff, ne_eq]
  exact and_comm

theorem decideByDescriptor_isBlocked_iff (d : AgentDescriptor) (agentId : String) (tag : Tag) :
    (decideByDescriptor d agentId tag).isBlocked = true ↔ Tag.ofText tag ∈ d.cannot := by
  simp only [decideByDescriptor, AgentDescriptor.denies, List.contains_iff_mem]
  split
  · rename_i hdenied
    simp [Decision.isBlocked, hdenied]
  · rename_i hfree
    simp only [hfree, iff_false]
    split
    · simp [Decision.isBlocked]
    · split <;> simp [Decision.isBlocked]

theorem decideByIndex_isBlocked_iff (hw : index.WellFormed) (htrim : Text.trim agentId = agentId) :
    (decideByIndex index agentId tag).isBlocked = true ↔
      index.OwnedByOther agentId (Tag.ofText tag) ∨ agentId ∉ index.ids ∨
        index.DeniedTo agentId (Tag.ofText tag) := by
  have howned : index.OwnedByOther agentId (Tag.ofText tag) ↔
      ∃ owner, index.exclusiveOwner? tag = some owner ∧ owner ≠ agentId := by
    simp only [DescriptorIndex.OwnedByOther, DescriptorIndex.exclusiveOwner?, hw.owner_iff]
    constructor
    · rintro ⟨d, hd, hne, htag⟩
      exact ⟨d.id, ⟨d, hd, rfl, htag⟩, hne⟩
    · rintro ⟨_, ⟨d, hd, rfl, htag⟩, hne⟩
      exact ⟨d, hd, hne, htag⟩
  rw [howned, decideByIndex]
  split
  · rename_i owner hfilter
    obtain ⟨howner, hne⟩ := Option.filter_eq_some_iff.1 hfilter
    have : ∃ owner, index.exclusiveOwner? tag = some owner ∧ owner ≠ agentId :=
      ⟨owner, howner, by simpa using hne⟩
    simp [Decision.isBlocked, this]
  · rename_i hfilter
    have hnone : ¬∃ owner, index.exclusiveOwner? tag = some owner ∧ owner ≠ agentId := by
      rintro ⟨owner, howner, hne⟩
      simp [howner, hne] at hfilter
    simp only [hnone, false_or]
    split
    · rename_i hunknown
      have hno : agentId ∉ index.ids := by
        simpa [htrim] using (DescriptorIndex.find?_eq_none_iff agentId).1 hunknown
      simp [Decision.isBlocked, hno]
    · rename_i d hfound
      obtain ⟨hd, hid⟩ := DescriptorIndex.mem_of_find? hfound
      rw [htrim] at hid
      have hknown : agentId ∈ index.ids := List.mem_map.2 ⟨d, hd, hid⟩
      rw [decideByDescriptor_isBlocked_iff]
      simp only [hknown, not_true_eq_false, false_or]
      constructor
      · exact fun htag => ⟨d, hd, hid, htag⟩
      · rintro ⟨e, he, heid, htag⟩
        rwa [hw.sorted.eq_of_id_eq hd he (hid.trans heid.symm)]

/-- A check blocks if the tag is blocked for everyone, the agent is unknown, or the tag of the tag is
restricted for the agent. -/
theorem check_isBlocked_iff (hw : index.WellFormed) (blocked : List String)
    (agentId action : String) :
    ((ofBlocks blocked).check index agentId action).isBlocked = true ↔
      (Tag.ofText action ≠ "" ∧ ∃ b ∈ blocked, Tag.ofText b = Tag.ofText action) ∨
      index.OwnedByOther (Text.trim agentId) (Tag.ofText (Tag.ofText action)) ∨
      Text.trim agentId ∉ index.ids ∨
      index.DeniedTo (Text.trim agentId) (Tag.ofText (Tag.ofText action)) := by
  rw [check, decide, ← mem_globallyBlocked, ← decideByIndex_isBlocked_iff hw (Text.trim_trim agentId)]
  split
  · rename_i hglobal
    simp [Decision.isBlocked, List.contains_iff_mem.1 hglobal]
  · rename_i hglobal
    simp [mt List.contains_iff_mem.2 hglobal]

/-! ## Restrictions as written -/

/-- What was written is restricted by its tag. -/
theorem restricted_of_written {spelling : String}
    (h : index.RestrictsAsWritten agentId spelling) (htag : Tag.ofText spelling ≠ "") :
    index.DeniedTo agentId (Tag.ofText spelling) ∨
      index.OwnedByOther agentId (Tag.ofText spelling) := by
  obtain ⟨d, hd, cannot, exclusive, hwritten, ⟨hid, hmem⟩ | ⟨hid, hmem⟩⟩ := h
  · refine .inl ⟨d, hd, hid, ?_⟩
    rw [hwritten.lists.1]
    exact Tag.mem_ofTexts.2 ⟨htag, spelling, hmem, rfl⟩
  · refine .inr ⟨d, hd, hid, ?_⟩
    rw [hwritten.lists.2]
    exact Tag.mem_ofTexts.2 ⟨htag, spelling, hmem, rfl⟩

/-- A written restriction takes effect exactly if its tag is blocked for everyone, the agent is
unknown, or the tag of its tag is restricted as well. That is so whenever the tag is its own tag, and
hence for every ASCII spelling. -/
theorem written_restriction_bites_iff {ds : List AgentDescriptor}
    (hbuild : DescriptorIndex.build ds = .ok index) (blocked : List String)
    (agentId spelling : String)
    (hwritten : index.RestrictsAsWritten (Text.trim agentId) spelling)
    (htag : Tag.ofText spelling ≠ "") :
    (((ofBlocks blocked).check index agentId spelling).isBlocked = true ↔
      (∃ b ∈ blocked, Tag.ofText b = Tag.ofText spelling) ∨ Text.trim agentId ∉ index.ids ∨
      index.DeniedTo (Text.trim agentId) (Tag.ofText (Tag.ofText spelling)) ∨
      index.OwnedByOther (Text.trim agentId) (Tag.ofText (Tag.ofText spelling))) ∧
    (Tag.ofText (Tag.ofText spelling) = Tag.ofText spelling →
      ((ofBlocks blocked).check index agentId spelling).isBlocked = true) ∧
    ((∀ c ∈ spelling.toList, c.toNat < 0x80) →
      ((ofBlocks blocked).check index agentId spelling).isBlocked = true) := by
  have hiff := check_isBlocked_iff (DescriptorIndex.build_wellFormed hbuild) blocked agentId spelling
  have hfixed : Tag.ofText (Tag.ofText spelling) = Tag.ofText spelling →
      ((ofBlocks blocked).check index agentId spelling).isBlocked = true := by
    intro heq
    rw [hiff, heq]
    rcases restricted_of_written hwritten htag with hdenied | howned
    · exact .inr (.inr (.inr hdenied))
    · exact .inr (.inl howned)
  refine ⟨?_, hfixed, fun hascii => hfixed (Tag.ofText_ofText_of_ascii hascii)⟩
  rw [hiff]
  simp only [htag, ne_eq, not_false_eq_true, true_and]
  exact or_congr_right (or_left_comm.trans (or_congr_right or_comm))

/-- An exclusive action in the spelling of its owner is blocked for another agent. -/
theorem written_restriction_bites_exclusive :
    ∃ index, DescriptorIndex.build
        [.withExclusive (.new "ops") ["Publish Release"], .new "dev"] = .ok index ∧
      ((ofBlocks []).check index " dev " "Publish Release").isBlocked = true := by
  have hbuild : DescriptorIndex.build
      [.withExclusive (.new "ops") ["Publish Release"], .new "dev"] = .ok
        { descriptors := [.new "dev", .withExclusive (.new "ops") ["Publish Release"]]
          owners := [("publish_release", "ops")] } := rfl
  have hascii : ("Publish Release".toList.all fun c => c.toNat < 0x80) = true := by
    decide +kernel
  refine ⟨_, hbuild, ?_⟩
  refine (written_restriction_bites_iff hbuild [] " dev " "Publish Release" ?_
    (by decide +kernel)).2.2 fun c hc => of_decide_eq_true (List.all_eq_true.1 hascii c hc)
  exact ⟨_, List.mem_cons_of_mem _ List.mem_cons_self, [], ["Publish Release"],
    .withExclusive _ (.new "ops"), .inr ⟨by decide +kernel, List.mem_cons_self⟩⟩

/-- A capital H with a macron below has no composed form, but the small letter has one. So the tag on
the deny list is not the one that the deny list is asked for. -/
theorem deny_list_misses_capital_with_mark :
    ∃ index, DescriptorIndex.build [.withCannot (.new "ops") ["H\u0331"]] = .ok index ∧
      index.RestrictsAsWritten (Text.trim "ops") "H\u0331" ∧ Tag.ofText "H\u0331" ≠ "" ∧
      ((ofBlocks []).check index "ops" "H\u0331").isBlocked = false := by
  refine ⟨{ descriptors := [.withCannot (.new "ops") ["H\u0331"]] }, rfl, ?_,
    by decide +kernel, by decide +kernel⟩
  exact ⟨_, List.mem_cons_self, ["H\u0331"], [], .withCannot _ (.new "ops"),
    .inl ⟨by decide +kernel, List.mem_cons_self⟩⟩

end Enforcer

end AgentGovernance
