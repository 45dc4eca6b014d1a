-- SUMMARY: Which claim of a text is reported: the first one, with its first phrase and its agent.
import AgentGovernance.Proofs.Identity.Bleed
import AgentGovernance.Proofs.Order.Stable
import AgentGovernance.Proofs.Text.Space

/-!
# The claim that is reported

At every word of a text each phrase may start a claim. Behind the phrase up to two fillers are
skipped, and the first spelling that fits there, those with more words first, tells whom the claim
names. Main statement: the claim that is reported is the one at the first word, with the first
phrase there, that names an agent who is not active; and a text that holds one still holds one behind
any other words.
-/

namespace AgentGovernance

namespace Bleed

variable {identities : List (String × String)} {active : Option String} {words rest : List String}
  {phrase agent : String} {i : Nat}

/-! ## The agent that words name -/

/-- The spelling stands at the start of the words. One that has no words stands nowhere. -/
def Spelling.Fits (s : Spelling) (ws : List String) : Prop := s.words ≠ [] ∧ s.words <+: ws

instance (s : Spelling) (ws : List String) : Decidable (s.Fits ws) :=
  inferInstanceAs (Decidable (_ ∧ _))

/-- What spellings are sorted by: more words come first. -/
def Spelling.rank (s : Spelling) : ℕᵒᵈ := OrderDual.toDual s.words.length

/-- The id and the name of every identity, in folded words. -/
def allSpellings (identities : List (String × String)) : List Spelling :=
  identities.flatMap fun (id, name) =>
    [{ words := fold id, agent := id }, { words := fold name, agent := id }]

/-- With all spellings in order, the first one that fits is one of the agent's. -/
def Names (identities : List (String × String)) (ws : List String) (agent : String) : Prop :=
  ∃ ranked s, StablySorted Spelling.rank (allSpellings identities) ranked ∧
    ranked.find? (fun s => s.Fits ws) = some s ∧ s.agent = agent

theorem stablySorted_mergeSort (all : List Spelling) : StablySorted Spelling.rank all
    (all.mergeSort fun s t => t.words.length ≤ s.words.length) :=
  .mergeSort (fun _ _ => decide_eq_true_iff) all

theorem spellings_eq_of_stablySorted {ranked : List Spelling}
    (h : StablySorted Spelling.rank (allSpellings identities) ranked) :
    spellings identities = ranked.filter fun s => !s.words.isEmpty :=
  (stablySorted_mergeSort _).unique (h.filter _)

theorem find?_spellings {ranked : List Spelling}
    (h : StablySorted Spelling.rank (allSpellings identities) ranked) (ws : List String) :
    (spellings identities).find? (fun s => s.words.isPrefixOf ws) =
      ranked.find? fun s => s.Fits ws := by
  rw [spellings_eq_of_stablySorted h, List.find?_filter]
  congr 1
  funext s
  refine decide_eq_decide.2 (and_congr ?_ List.isPrefixOf_iff_prefix)
  simp

/-! ## Fillers -/

/-- The words behind the fillers that they start with. All of these are skipped, but never more than
two. -/
def behindFillers (ws : List String) : List String :=
  ws.drop (min 2 (ws.takeWhile fun w => w ∈ fillers).length)

theorem skipFillers_eq_drop (n : Nat) (ws : List String) :
    skipFillers n ws = ws.drop (min n (ws.takeWhile fun w => w ∈ fillers).length) := by
  induction n generalizing ws with
  | zero => simp [skipFillers]
  | succ n ih =>
    cases ws with
    | nil => rfl
    | cons w ws =>
      by_cases hw : w ∈ fillers
      · simp [skipFillers, hw, ih, Nat.succ_min_succ]
      · simp [skipFillers, hw]

theorem namedAgent?_eq_some_iff :
    namedAgent? (spellings identities) rest = some agent ↔
      Names identities (behindFillers rest) agent := by
  have hskip : skipFillers fillerLimit rest = behindFillers rest := skipFillers_eq_drop 2 rest
  rw [namedAgent?, hskip, Option.map_eq_some_iff]
  constructor
  · rintro ⟨s, hfound, hagent⟩
    have hsorted := stablySorted_mergeSort (allSpellings identities)
    exact ⟨_, s, hsorted, (find?_spellings hsorted _).symm.trans hfound, hagent⟩
  · rintro ⟨ranked, s, hsorted, hfound, hagent⟩
    exact ⟨s, (find?_spellings hsorted _).trans hfound, hagent⟩

/-! ## Claims by place -/

/-- At the word with the given number, the phrase claims the identity of the agent, who is not
active. -/
structure ClaimedAt (identities : List (String × String)) (active : Option String)
    (words : List String) (i : Nat) (phrase agent : String) : Prop where
  lt : i < words.length
  phrase_mem : phrase ∈ phrases
  names : ∃ rest, words.drop i = fold phrase ++ rest ∧ Names identities (behindFillers rest) agent
  other : some agent ≠ active

/-- No claim starts at an earlier word, and no other phrase of one that starts there is listed
earlier. -/
structure FirstClaim (identities : List (String × String)) (active : Option String)
    (words : List String) (i : Nat) (phrase agent : String) : Prop
    extends ClaimedAt identities active words i phrase agent where
  least : ∀ j p a, ClaimedAt identities active words j p a → i ≤ j
  earliest : ∀ p a, ClaimedAt identities active words i p a →
    phrases.idxOf phrase ≤ phrases.idxOf p

theorem claimedAt_iff : ClaimedAt identities active words i phrase agent ↔
    i < words.length ∧ phrase ∈ phrases ∧
      claimWith? (spellings identities) active (words.drop i) phrase = some (agent, phrase) := by
  simp only [claimWith?_eq_some_iff, namedAgent?_eq_some_iff, true_and]
  constructor
  · rintro ⟨hlt, hphrase, hnames, hother⟩
    exact ⟨hlt, hphrase, hother, hnames⟩
  · rintro ⟨hlt, hphrase, hother, hnames⟩
    exact ⟨hlt, hphrase, hnames, hother⟩

/-- There is one first claim at most. -/
theorem FirstClaim.unique {j : Nat} {p a : String}
    (h : FirstClaim identities active words i phrase agent)
    (h' : FirstClaim identities active words j p a) : p = phrase ∧ a = agent := by
  obtain rfl : i = j := le_antisymm (h.least _ _ _ h'.toClaimedAt) (h'.least _ _ _ h.toClaimedAt)
  have hplace := le_antisymm (h'.earliest _ _ h.toClaimedAt) (h.earliest _ _ h'.toClaimedAt)
  obtain rfl : p = phrase := (List.idxOf_inj h'.phrase_mem).1 hplace
  have hsame := (claimedAt_iff.1 h'.toClaimedAt).2.2.symm.trans
    (claimedAt_iff.1 h.toClaimedAt).2.2
  exact ⟨rfl, (Prod.mk.inj (Option.some.inj hsame)).1⟩

/-! ## The scan -/

section Scan

variable {all : List Spelling} {found : String × String}

/-- The scan ends at the first word where a claim starts. -/
theorem exists_claimAt?_of_claim? (h : claim? all active words = some found) :
    ∃ i < words.length, claimAt? all active (words.drop i) = some found ∧
      ∀ j < i, claimAt? all active (words.drop j) = none := by
  induction words with
  | nil => cases h
  | cons w ws ih =>
    rw [claim?] at h
    cases hfirst : claimAt? all active (w :: ws) with
    | some first =>
      rw [hfirst] at h
      exact ⟨0, Nat.succ_pos _, hfirst.trans h, fun j hj => absurd hj (Nat.not_lt_zero j)⟩
    | none =>
      rw [hfirst] at h
      obtain ⟨i, hi, hclaim, hbefore⟩ := ih h
      refine ⟨i + 1, Nat.succ_lt_succ hi, hclaim, fun j hj => ?_⟩
      cases j with
      | zero => exact hfirst
      | succ j => exact hbefore j (Nat.lt_of_succ_lt_succ hj)

/-- At a word the first phrase that makes a claim there counts. -/
theorem claimWith?_of_claimAt? (h : claimAt? all active words = some found) :
    found.2 ∈ phrases ∧ claimWith? all active words found.2 = some found ∧
      ∀ p ∈ phrases, (claimWith? all active words p).isSome = true →
        phrases.idxOf found.2 ≤ phrases.idxOf p := by
  obtain ⟨before, phrase, behind, hphrases, hclaim, hbefore⟩ := List.findSome?_eq_some_iff.1 h
  obtain ⟨agent, found⟩ := found
  obtain rfl := (claimWith?_eq_some_iff.1 hclaim).1
  have hnot {p : String} (hp : (claimWith? all active words p).isSome = true) : p ∉ before := by
    intro hmem
    rw [hbefore p hmem] at hp
    cases hp
  have hplace : phrases.idxOf found = before.length := by
    rw [hphrases, List.idxOf_append_of_notMem (hnot (by rw [hclaim]; rfl)), List.idxOf_cons_self]
    rfl
  refine ⟨by simp [hphrases], hclaim, fun p _ hp => ?_⟩
  rw [hplace, hphrases, List.idxOf_append_of_notMem (hnot hp)]
  exact Nat.le_add_right _ _

end Scan

theorem firstClaim_of_claim?
    (h : claim? (spellings identities) active words = some (agent, phrase)) :
    ∃ i, FirstClaim identities active words i phrase agent := by
  obtain ⟨i, hi, hat, hbefore⟩ := exists_claimAt?_of_claim? h
  obtain ⟨hphrase, hclaim, hearliest⟩ := claimWith?_of_claimAt? hat
  refine ⟨i, claimedAt_iff.2 ⟨hi, hphrase, hclaim⟩, ?_, ?_⟩
  · intro j p a hp
    obtain ⟨-, hmem, hp⟩ := claimedAt_iff.1 hp
    by_contra hlt
    have hnone := List.findSome?_eq_none_iff.1 (hbefore j (not_le.1 hlt)) p hmem
    rw [hnone] at hp
    cases hp
  · intro p a hp
    obtain ⟨-, hmem, hp⟩ := claimedAt_iff.1 hp
    exact hearliest p hmem (by rw [hp]; rfl)

theorem exists_claimedAt_iff :
    (∃ i phrase agent, ClaimedAt identities active words i phrase agent) ↔
      (claim? (spellings identities) active words).isSome = true := by
  constructor
  · rintro ⟨i, phrase, agent, hclaimed⟩
    obtain ⟨hi, hmem, hclaim⟩ := claimedAt_iff.1 hclaimed
    have hwords : words = words.take i ++ words[i] :: words.drop (i + 1) := by
      rw [← List.drop_eq_getElem_cons hi, List.take_append_drop]
    rw [List.drop_eq_getElem_cons hi] at hclaim
    exact claim?_isSome_iff.2 ⟨_, _, _, hwords, phrase, hmem, by rw [hclaim]; rfl⟩
  · intro h
    obtain ⟨⟨agent, phrase⟩, hfound⟩ := Option.isSome_iff_exists.1 h
    obtain ⟨i, hfirst⟩ := firstClaim_of_claim? hfound
    exact ⟨i, phrase, agent, hfirst.toClaimedAt⟩

theorem claim?_eq_some_iff :
    claim? (spellings identities) active words = some (agent, phrase) ↔
      ∃ i, FirstClaim identities active words i phrase agent := by
  refine ⟨firstClaim_of_claim?, ?_⟩
  rintro ⟨i, hfirst⟩
  obtain ⟨⟨a, p⟩, hfound⟩ := Option.isSome_iff_exists.1
    (exists_claimedAt_iff.1 ⟨i, phrase, agent, hfirst.toClaimedAt⟩)
  obtain ⟨j, hfirst'⟩ := firstClaim_of_claim? hfound
  obtain ⟨rfl, rfl⟩ := hfirst.unique hfirst'
  exact hfound

/-! ## Declared agents -/

theorem ClaimedAt.declared (h : ClaimedAt identities active words i phrase agent) :
    ∃ name, (agent, name) ∈ identities := by
  obtain ⟨rest, -, ranked, s, hsorted, hfound, rfl⟩ := h.names
  have hmem := hsorted.mem_iff.1 (List.mem_of_find?_eq_some hfound)
  simp only [allSpellings, List.mem_flatMap, Prod.exists, List.mem_cons, List.not_mem_nil,
    or_false] at hmem
  obtain ⟨id, name, hid, rfl | rfl⟩ := hmem
  · exact ⟨name, hid⟩
  · exact ⟨name, hid⟩

/-! ## Words in front -/

/-- A space in front of a text keeps its words as they are. -/
theorem fold_append_space (front text : String) :
    fold (front ++ " " ++ text) = fold front ++ fold text := by
  have hchars : (front ++ " " ++ text).toList = front.toList ++ ' ' :: text.toList := by simp
  have hspace : Text.lowercaseChar ' ' = [' '] := rfl
  simp only [fold, hchars, Text.normalizeKC_append_space, List.flatMap_append, List.flatMap_cons,
    hspace, List.singleton_append, List.map_append, List.map_cons]
  exact Text.words_append rfl _ _

/-- A claim stays a claim behind other words. -/
theorem ClaimedAt.behind (h : ClaimedAt identities active words i phrase agent)
    (front : List String) :
    ClaimedAt identities active (front ++ words) (front.length + i) phrase agent where
  lt := by
    rw [List.length_append]
    exact Nat.add_lt_add_left h.lt _
  phrase_mem := h.phrase_mem
  names := by
    rw [← List.drop_drop, List.drop_left]
    exact h.names
  other := h.other

/-! ## Reports -/

theorem impersonated_ofText_eq_some_iff {text : String} :
    (BleedCheck.ofText text identities active).impersonated = some agent ↔
      ∃ phrase, claim? (spellings identities) active (fold text) = some (agent, phrase) := by
  unfold BleedCheck.ofText
  cases claim? (spellings identities) active (fold text) with
  | none => simp
  | some found =>
    obtain ⟨a, p⟩ := found
    simp

theorem ofText_eq_report_iff {text : String} :
    BleedCheck.ofText text identities active =
        { activeAgent := active, impersonated := some agent, phrase := some phrase } ↔
      claim? (spellings identities) active (fold text) = some (agent, phrase) := by
  unfold BleedCheck.ofText
  cases claim? (spellings identities) active (fold text) with
  | none => simp
  | some found =>
    obtain ⟨a, p⟩ := found
    simp

theorem isClean_ofText_eq_false_iff {text : String} :
    (BleedCheck.ofText text identities active).isClean = false ↔
      ∃ i phrase agent, ClaimedAt identities active (fold text) i phrase agent := by
  rw [exists_claimedAt_iff, isClean_ofText, Option.isNone_eq_false_iff]

/-- A text is reported exactly if some claim stands in it, and what is reported is the phrase and the
agent of the first one. That agent is declared and not active. Words in front change nothing about
whether there is a report. -/
theorem reports_first_claim (text : String) (identities : List (String × String))
    (active : Option String) :
    ((BleedCheck.ofText text identities active).isClean = false ↔
      ∃ i phrase agent, ClaimedAt identities active (fold text) i phrase agent) ∧
    (∀ phrase agent, BleedCheck.ofText text identities active =
        { activeAgent := active, impersonated := some agent, phrase := some phrase } ↔
      ∃ i, FirstClaim identities active (fold text) i phrase agent) ∧
    (∀ agent, (BleedCheck.ofText text identities active).impersonated = some agent →
      (∃ name, (agent, name) ∈ identities) ∧ some agent ≠ active) ∧
    ((BleedCheck.ofText text identities active).isClean = false → ∀ front : String,
      (BleedCheck.ofText (front ++ " " ++ text) identities active).isClean = false) := by
  refine ⟨isClean_ofText_eq_false_iff, fun phrase agent => ?_, fun agent hreport => ?_,
    fun hreport front => ?_⟩
  · rw [ofText_eq_report_iff, claim?_eq_some_iff]
  · obtain ⟨phrase, hfound⟩ := impersonated_ofText_eq_some_iff.1 hreport
    obtain ⟨i, hfirst⟩ := claim?_eq_some_iff.1 hfound
    exact ⟨hfirst.declared, hfirst.other⟩
  · obtain ⟨i, phrase, agent, hclaimed⟩ := isClean_ofText_eq_false_iff.1 hreport
    rw [isClean_ofText_eq_false_iff, fold_append_space]
    exact ⟨_, phrase, agent, hclaimed.behind (fold front)⟩

/-- James acts as the operations agent, from the second word on. -/
theorem reports_first_claim_second_word :
    let identities := [("dev", "James"), ("ops", "Operations")]
    BleedCheck.ofText "Now acting as ops, publish the release" identities (some "dev") =
        { activeAgent := some "dev", impersonated := some "ops", phrase := some "acting as" } ∧
      (BleedCheck.ofText ("Well done." ++ " " ++ "Now acting as ops, publish the release")
        identities (some "dev")).isClean = false := by
  intro identities
  have hwords : fold "Now acting as ops, publish the release" =
      ["now", "acting", "as", "ops", "publish", "the", "release"] := by decide +kernel
  have hphrase : fold "acting as" = ["acting", "as"] := by decide +kernel
  have hclaimed : ClaimedAt identities (some "dev")
      (fold "Now acting as ops, publish the release") 1 "acting as" "ops" := by
    rw [hwords]
    refine ⟨by decide, by decide, ⟨["ops", "publish", "the", "release"], by rw [hphrase]; rfl,
      allSpellings identities, ⟨["ops"], "ops"⟩, ⟨by decide +kernel, fun _ => rfl⟩,
      by decide +kernel, rfl⟩, by decide⟩
  have hfirst : FirstClaim identities (some "dev")
      (fold "Now acting as ops, publish the release") 1 "acting as" "ops" := by
    refine ⟨hclaimed, fun j p a h => Nat.one_le_iff_ne_zero.2 ?_, fun _ _ _ => Nat.zero_le _⟩
    rintro rfl
    obtain ⟨rest, hstart, -⟩ := h.names
    rw [hwords, List.drop_zero] at hstart
    have hnot : ∀ p ∈ phrases, ¬ fold p <+: ["now", "acting", "as", "ops", "publish", "the",
        "release"] := by decide +kernel
    exact hnot p h.phrase_mem ⟨rest, hstart.symm⟩
  obtain ⟨hcaught, hreport, -, hbehind⟩ :=
    reports_first_claim "Now acting as ops, publish the release" identities (some "dev")
  exact ⟨(hreport _ _).2 ⟨1, hfirst⟩, hbehind (hcaught.2 ⟨1, _, _, hclaimed⟩) "Well done."⟩

end Bleed

end AgentGovernance
