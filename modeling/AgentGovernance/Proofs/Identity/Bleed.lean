-- SUMMARY: Which texts claim the identity of another agent, and which of them are caught.
import AgentGovernance.Identity.Bleed
import Mathlib.Data.List.Infix
import Mathlib.Data.List.Sort

/-!
# Claims of identity

A claim is a phrase, up to two filler words, and a spelling of an agent that is not active. Fillers
are skipped before spellings are compared, so a spelling that starts with a filler word is passed by
unless two fillers stand in front of it. Main statement: where no two agents share a spelling, a text
is caught exactly if it holds a claim whose spelling is not passed by.
-/

namespace AgentGovernance

namespace Bleed

/-! ## Spellings -/

/-- The words are the id or the name of an agent. -/
def Spells (identities : List (String × String)) (agent : String) (ws : List String) : Prop :=
  ws ≠ [] ∧ ∃ name, (agent, name) ∈ identities ∧ (ws = fold agent ∨ ws = fold name)

/-- No two agents have a spelling in common. -/
def Unshared (identities : List (String × String)) : Prop :=
  ∀ a b ws, Spells identities a ws → Spells identities b ws → a = b

variable {identities : List (String × String)} {active : Option String} {agent : String}
  {words rest ws : List String}

theorem mem_spellings {s : Spelling} :
    s ∈ spellings identities ↔ Spells identities s.agent s.words := by
  obtain ⟨ws, agent⟩ := s
  simp only [spellings, List.mem_mergeSort, List.mem_filter, List.mem_flatMap, Prod.exists,
    List.mem_cons, Spelling.mk.injEq, List.not_mem_nil, or_false, Spells, Bool.not_eq_true',
    List.isEmpty_eq_false_iff]
  constructor
  · rintro ⟨⟨id, name, hmem, ⟨hws, hid⟩ | ⟨hws, hid⟩⟩, hne⟩
    · subst hid
      exact ⟨hne, name, hmem, .inl hws⟩
    · subst hid
      exact ⟨hne, name, hmem, .inr hws⟩
  · rintro ⟨hne, name, hmem, hws | hws⟩
    · exact ⟨⟨agent, name, hmem, .inl ⟨hws, rfl⟩⟩, hne⟩
    · exact ⟨⟨agent, name, hmem, .inr ⟨hws, rfl⟩⟩, hne⟩

/-- Spellings with more words come first. -/
theorem spellings_sorted (identities : List (String × String)) :
    (spellings identities).Pairwise fun s t => t.words.length ≤ s.words.length := by
  let longer (s t : Spelling) : Bool := decide (t.words.length ≤ s.words.length)
  have htrans (s t u : Spelling) (hst : longer s t = true) (htu : longer t u = true) :
      longer s u = true := by
    simp only [longer, decide_eq_true_eq] at *
    omega
  have htotal (s t : Spelling) : (longer s t || longer t s) = true := by
    simp only [longer, Bool.or_eq_true, decide_eq_true_eq]
    omega
  have hsorted := List.pairwise_mergeSort htrans htotal
  simpa only [spellings, longer, decide_eq_true_eq] using hsorted _

theorem unshared_iff : Unshared identities ↔ ∀ p ∈ identities, ∀ q ∈ identities,
    ∀ ws ∈ [fold p.1, fold p.2], ws ≠ [] → ws ∈ [fold q.1, fold q.2] → p.1 = q.1 := by
  simp only [List.mem_cons, List.not_mem_nil, or_false]
  constructor
  · rintro h ⟨a, m⟩ hp ⟨b, n⟩ hq ws hws hne hws'
    exact h a b ws ⟨hne, m, hp, hws⟩ ⟨hne, n, hq, hws'⟩
  · rintro h a b ws ⟨hne, m, hp, hws⟩ ⟨-, n, hq, hws'⟩
    exact h _ hp _ hq ws hws hne hws'

instance (identities : List (String × String)) : Decidable (Unshared identities) :=
  decidable_of_iff _ unshared_iff.symm

/-! ## Fillers -/

/-- As many fillers are skipped as there are in front, up to the limit. -/
theorem skipFillers_append {n : Nat} {fill : List String} (hfill : ∀ w ∈ fill, w ∈ fillers)
    (hle : fill.length ≤ n) (hend : fill.length = n ∨ ∀ w ∈ rest.head?, w ∉ fillers) :
    skipFillers n (fill ++ rest) = rest := by
  induction fill generalizing n with
  | nil =>
    cases n with
    | zero => rfl
    | succ n =>
      have hend := hend.resolve_left nofun
      cases rest with
      | nil => rfl
      | cons w ws => simp [skipFillers, hend w rfl]
  | cons w fill ih =>
    cases n with
    | zero => cases hle
    | succ n =>
      obtain ⟨hw, hfill⟩ := List.forall_mem_cons.1 hfill
      have hskip := ih hfill (Nat.le_of_succ_le_succ hle) (hend.imp_left Nat.succ.inj)
      simpa [skipFillers, hw] using hskip

theorem exists_skipFillers (n : Nat) (ws : List String) :
    ∃ fill, ws = fill ++ skipFillers n ws ∧ (∀ w ∈ fill, w ∈ fillers) ∧ fill.length ≤ n ∧
      (fill.length = n ∨ ∀ w ∈ (skipFillers n ws).head?, w ∉ fillers) := by
  induction n generalizing ws with
  | zero => exact ⟨[], rfl, nofun, Nat.le_refl 0, .inl rfl⟩
  | succ n ih =>
    cases ws with
    | nil => exact ⟨[], rfl, nofun, Nat.zero_le _, .inr nofun⟩
    | cons w ws =>
      by_cases hw : w ∈ fillers
      · obtain ⟨fill, heq, hfill, hle, hend⟩ := ih ws
        have hskip : skipFillers (n + 1) (w :: ws) = skipFillers n ws := by
          simp [skipFillers, hw]
        rw [hskip]
        refine ⟨w :: fill, congrArg (w :: ·) heq, List.forall_mem_cons.2 ⟨hw, hfill⟩,
          Nat.succ_le_succ hle, hend.imp_left (congrArg (· + 1))⟩
      · have hskip : skipFillers (n + 1) (w :: ws) = w :: ws := by simp [skipFillers, hw]
        rw [hskip]
        refine ⟨[], rfl, nofun, Nat.zero_le _, .inr ?_⟩
        rintro _ ⟨⟩
        exact hw

/-! ## Scanning -/

theorem afterPhrase?_eq_some_iff {phrase : List String} :
    afterPhrase? phrase words = some rest ↔ words = phrase ++ rest := by
  unfold afterPhrase?
  split
  case isTrue hstart =>
    obtain ⟨behind, rfl⟩ := List.isPrefixOf_iff_prefix.1 hstart
    simp [eq_comm]
  case isFalse hnot =>
    simp only [reduceCtorEq, false_iff]
    rintro rfl
    exact hnot (List.isPrefixOf_iff_prefix.2 (List.prefix_append _ _))

theorem claimWith?_eq_some_iff {all : List Spelling} {phrase found : String} :
    claimWith? all active words phrase = some (agent, found) ↔
      found = phrase ∧ some agent ≠ active ∧
        ∃ rest, words = fold phrase ++ rest ∧ namedAgent? all rest = some agent := by
  simp only [claimWith?, Option.bind_eq_bind, Option.bind_eq_some_iff,
    afterPhrase?_eq_some_iff, Option.ite_none_left_eq_some, beq_iff_eq, Option.some.injEq,
    Prod.mk.injEq]
  constructor
  · rintro ⟨rest, hwords, _, hnamed, hother, rfl, rfl⟩
    exact ⟨rfl, hother, rest, hwords, hnamed⟩
  · rintro ⟨rfl, hother, rest, hwords, hnamed⟩
    exact ⟨rest, hwords, agent, hnamed, hother, rfl, rfl⟩

/-- A phrase at the start counts if the words behind it name another agent. -/
theorem claimWith?_isSome_iff {all : List Spelling} {phrase : String} :
    (claimWith? all active words phrase).isSome = true ↔
      ∃ rest agent, words = fold phrase ++ rest ∧ namedAgent? all rest = some agent ∧
        some agent ≠ active := by
  simp only [Option.isSome_iff_exists, Prod.exists, claimWith?_eq_some_iff]
  constructor
  · rintro ⟨agent, _, -, hother, rest, hwords, hnamed⟩
    exact ⟨rest, agent, hwords, hnamed, hother⟩
  · rintro ⟨rest, agent, hwords, hnamed, hother⟩
    exact ⟨agent, _, rfl, hother, rest, hwords, hnamed⟩

/-- The scan tries every phrase at every word. -/
theorem claim?_isSome_iff {all : List Spelling} :
    (claim? all active words).isSome = true ↔
      ∃ before w ws, words = before ++ w :: ws ∧
        ∃ phrase ∈ phrases, (claimWith? all active (w :: ws) phrase).isSome = true := by
  induction words with
  | nil => simp [claim?]
  | cons w ws ih =>
    have hstep : (claim? all active (w :: ws)).isSome = true ↔
        (claimAt? all active (w :: ws)).isSome = true ∨
          (claim? all active ws).isSome = true := by
      rw [claim?]
      cases claimAt? all active (w :: ws) <;> simp
    have hat : (claimAt? all active (w :: ws)).isSome = true ↔
        ∃ phrase ∈ phrases, (claimWith? all active (w :: ws) phrase).isSome = true :=
      List.findSome?_isSome_iff
    rw [hstep, hat, ih]
    constructor
    · rintro (hfirst | ⟨before, v, vs, rfl, hlater⟩)
      · exact ⟨[], w, ws, rfl, hfirst⟩
      · exact ⟨w :: before, v, vs, rfl, hlater⟩
    · rintro ⟨before, v, vs, hwords, hclaim⟩
      cases before with
      | nil =>
        obtain ⟨rfl, rfl⟩ := List.cons.inj hwords
        exact .inl hclaim
      | cons _ before =>
        obtain ⟨-, rfl⟩ := List.cons.inj hwords
        exact .inr ⟨before, v, vs, rfl, hclaim⟩

/-! ## Naming an agent -/

/-- The agent that is named has the longest of all spellings that fit. -/
theorem exists_longest_of_namedAgent? (h : namedAgent? (spellings identities) rest = some agent) :
    ∃ ws, Spells identities agent ws ∧ ws <+: skipFillers fillerLimit rest ∧
      ∀ a vs, Spells identities a vs → vs <+: skipFillers fillerLimit rest →
        vs.length ≤ ws.length := by
  obtain ⟨s, hfound, rfl⟩ := Option.map_eq_some_iff.1 h
  have hfits : s.words.isPrefixOf (skipFillers fillerLimit rest) = true := by
    simpa only using List.find?_some hfound
  refine ⟨s.words, mem_spellings.1 (List.mem_of_find?_eq_some hfound),
    List.isPrefixOf_iff_prefix.1 hfits, fun a vs hspells hfits => ?_⟩
  obtain ⟨-, before, behind, hall, hbefore⟩ := List.find?_eq_some_iff_append.1 hfound
  have hsorted := spellings_sorted identities
  have hmem := mem_spellings (s := ⟨vs, a⟩).2 hspells
  rw [hall] at hsorted hmem
  rcases List.mem_append.1 hmem with hearlier | hmem
  · simpa [List.isPrefixOf_iff_prefix.2 hfits] using hbefore _ hearlier
  · rcases List.mem_cons.1 hmem with rfl | hlater
    · exact Nat.le_refl _
    · exact (List.pairwise_cons.1 (List.pairwise_append.1 hsorted).2.1).1 _ hlater

theorem namedAgent?_isSome (h : Spells identities agent ws)
    (hfits : ws <+: skipFillers fillerLimit rest) :
    ∃ named, namedAgent? (spellings identities) rest = some named := by
  have hfound : ((spellings identities).find? fun s =>
      s.words.isPrefixOf (skipFillers fillerLimit rest)).isSome = true :=
    List.find?_isSome.2 ⟨⟨ws, agent⟩, mem_spellings.2 h, List.isPrefixOf_iff_prefix.2 hfits⟩
  obtain ⟨s, hs⟩ := Option.isSome_iff_exists.1 hfound
  exact ⟨s.agent, Option.map_eq_some_iff.2 ⟨s, hs, rfl⟩⟩

/-! ## Claims -/

/-- A place where words claim the identity of an agent: a phrase, at most two fillers, and a spelling
of an agent that is not active, where no longer spelling of the active agent fits. -/
structure Claim (identities : List (String × String)) (active : Option String)
    (words : List String) where
  before : List String
  phrase : String
  fill : List String
  spelling : List String
  behind : List String
  agent : String
  words_eq : words = before ++ fold phrase ++ fill ++ spelling ++ behind
  phrase_mem : phrase ∈ phrases
  fill_fillers : ∀ w ∈ fill, w ∈ fillers
  fill_le : fill.length ≤ fillerLimit
  spells : Spells identities agent spelling
  other : some agent ≠ active
  unrivalled : ∀ a, some a = active → ∀ ws, Spells identities a ws → ws <+: spelling ++ behind →
    ws.length ≤ spelling.length

/-- The fillers of a claim are those that are skipped: there are two, or the spelling starts with
another word. -/
def Claim.Reached (c : Claim identities active words) : Prop :=
  c.fill.length = fillerLimit ∨ ∀ w ∈ c.spelling.head?, w ∉ fillers

theorem Claim.skipFillers_eq {c : Claim identities active words} (h : c.Reached) :
    skipFillers fillerLimit (c.fill ++ (c.spelling ++ c.behind)) = c.spelling ++ c.behind := by
  refine skipFillers_append c.fill_fillers c.fill_le (h.imp_right fun hword w hw => hword w ?_)
  obtain ⟨v, vs, hspelling⟩ := List.exists_cons_of_ne_nil c.spells.1
  rw [hspelling] at hw ⊢
  exact hw

/-- The spelling of a claim that is reached names an agent that is not active. -/
theorem Claim.exists_namedAgent? (hunshared : Unshared identities)
    {c : Claim identities active words} (h : c.Reached) :
    ∃ named, namedAgent? (spellings identities) (c.fill ++ (c.spelling ++ c.behind)) = some named ∧
      some named ≠ active := by
  have hskip := c.skipFillers_eq h
  have hfits : c.spelling <+: skipFillers fillerLimit (c.fill ++ (c.spelling ++ c.behind)) := by
    rw [hskip]
    exact List.prefix_append _ _
  obtain ⟨named, hnamed⟩ := namedAgent?_isSome c.spells hfits
  refine ⟨named, hnamed, fun hactive => ?_⟩
  -- A spelling of the active agent that is as long would be the same words.
  obtain ⟨ws, hspells, hfits', hlongest⟩ := exists_longest_of_namedAgent? hnamed
  have hlength := Nat.le_antisymm (c.unrivalled named hactive ws hspells (hskip ▸ hfits'))
    (hlongest c.agent c.spelling c.spells hfits)
  have heq := (List.prefix_of_prefix_length_le hfits' hfits hlength.le).eq_of_length hlength
  refine c.other ?_
  rw [hunshared c.agent named c.spelling c.spells (heq ▸ hspells), hactive]

theorem exists_claim_of_namedAgent? {before : List String} {phrase : String}
    (hwords : words = before ++ (fold phrase ++ rest)) (hphrase : phrase ∈ phrases)
    (hnamed : namedAgent? (spellings identities) rest = some agent) (hother : some agent ≠ active) :
    ∃ c : Claim identities active words, c.Reached := by
  obtain ⟨spelling, hspells, ⟨behind, hafter⟩, hlongest⟩ := exists_longest_of_namedAgent? hnamed
  obtain ⟨fill, hrest, hfill, hle, hend⟩ := exists_skipFillers fillerLimit rest
  rw [← hafter] at hrest hend hlongest
  refine ⟨⟨before, phrase, fill, spelling, behind, agent, ?_, hphrase, hfill, hle, hspells, hother,
    fun a _ => hlongest a⟩, hend.imp_right fun hword w hw => hword w ?_⟩
  · rw [hwords, hrest]
    simp only [List.append_assoc]
  · simpa using Or.inl hw

theorem isClean_ofText (text : String) : (BleedCheck.ofText text identities active).isClean =
    (claim? (spellings identities) active (fold text)).isNone := by
  unfold BleedCheck.ofText
  cases claim? (spellings identities) active (fold text) <;> rfl

/-- Whatever the scan finds, some spelling fits behind a phrase and the fillers that are skipped. -/
theorem exists_fit_of_claim? (h : (claim? (spellings identities) active words).isSome = true) :
    ∃ tail ∈ words.tails, ∃ phrase ∈ phrases, ∃ rest ∈ afterPhrase? (fold phrase) tail,
      ∃ p ∈ identities, ∃ ws ∈ [fold p.1, fold p.2],
        ws ≠ [] ∧ ws <+: skipFillers fillerLimit rest := by
  obtain ⟨before, w, tail, rfl, phrase, hphrase, hclaim⟩ := claim?_isSome_iff.1 h
  obtain ⟨rest, agent, hwords, hnamed, -⟩ := claimWith?_isSome_iff.1 hclaim
  obtain ⟨ws, ⟨hne, name, hmem, hws⟩, hfits, -⟩ := exists_longest_of_namedAgent? hnamed
  refine ⟨w :: tail, (List.mem_tails _ _).2 (List.suffix_append _ _), phrase, hphrase, rest,
    afterPhrase?_eq_some_iff.2 hwords, (agent, name), hmem, ws, ?_, hne, hfits⟩
  simpa using hws

/-- The scan finds something exactly if some claim is reached. -/
theorem claim?_isSome_iff_reached (hunshared : Unshared identities) :
    (claim? (spellings identities) active words).isSome = true ↔
      ∃ c : Claim identities active words, c.Reached := by
  simp only [claim?_isSome_iff, claimWith?_isSome_iff]
  constructor
  · rintro ⟨before, w, ws, rfl, phrase, hphrase, rest, agent, hwords, hnamed, hother⟩
    rw [hwords]
    exact exists_claim_of_namedAgent? rfl hphrase hnamed hother
  · rintro ⟨c, hreached⟩
    obtain ⟨named, hnamed, hother⟩ := c.exists_namedAgent? hunshared hreached
    obtain ⟨w, ws, hcons⟩ : ∃ w ws,
        fold c.phrase ++ (c.fill ++ (c.spelling ++ c.behind)) = w :: ws :=
      List.exists_cons_of_ne_nil (by simp [c.spells.1])
    refine ⟨c.before, w, ws, ?_, c.phrase, c.phrase_mem, _, named, hcons.symm, hnamed, hother⟩
    have hwords := c.words_eq
    simp only [List.append_assoc] at hwords
    exact hwords.trans (congrArg (c.before ++ ·) hcons)

/-- Where no two agents share a spelling, a text is caught exactly if it holds a claim of another
identity in front of whose spelling just the fillers of the claim are skipped. -/
theorem caught_iff_reached (hunshared : Unshared identities) (text : String) :
    (BleedCheck.ofText text identities active).isClean = false ↔
      ∃ c : Claim identities active (fold text), c.Reached := by
  rw [← claim?_isSome_iff_reached hunshared, isClean_ofText, Option.isNone_eq_false_iff]

/-- James speaks as the product manager, with one filler word in between. -/
theorem caught_iff_reached_manager :
    let identities := [("dev", "James"), ("pm", "Product Manager")]
    Unshared identities ∧
      (BleedCheck.ofText "Speaking as the Product Manager" identities (some "dev")).isClean =
        false := by
  intro identities
  have hunshared : Unshared identities := by decide +kernel
  let claim : Claim identities (some "dev") (fold "Speaking as the Product Manager") := {
    before := []
    phrase := "speaking as"
    fill := ["the"]
    spelling := ["product", "manager"]
    behind := []
    agent := "pm"
    words_eq := by decide +kernel
    phrase_mem := by decide
    fill_fillers := by decide
    fill_le := by decide
    spells := ⟨by decide, "Product Manager", by decide, .inr (by decide +kernel)⟩
    other := by decide
    unrivalled := fun _ _ _ _ hfits => hfits.length_le }
  exact ⟨hunshared, (caught_iff_reached hunshared _).2 ⟨claim, .inr (by decide)⟩⟩

/-- The boss has a name that starts with a filler word, and whoever claims to be the boss is
missed. -/
theorem claim_behind_filler_is_missed :
    let identities := [("dev", "James"), ("ops", "The Boss")]
    Unshared identities ∧ Nonempty (Claim identities (some "dev") (fold "I am the boss")) ∧
      (BleedCheck.ofText "I am the boss" identities (some "dev")).isClean = true := by
  intro identities
  let claim : Claim identities (some "dev") (fold "I am the boss") := {
    before := []
    phrase := "i am"
    fill := []
    spelling := ["the", "boss"]
    behind := []
    agent := "ops"
    words_eq := by decide +kernel
    phrase_mem := by decide
    fill_fillers := nofun
    fill_le := by decide
    spells := ⟨by decide, "The Boss", by decide, .inr (by decide +kernel)⟩
    other := by decide
    unrivalled := fun _ _ _ _ hfits => hfits.length_le }
  refine ⟨by decide +kernel, ⟨claim⟩, ?_⟩
  rw [isClean_ofText, Option.isNone_iff_eq_none, ← Option.not_isSome_iff_eq_none]
  intro hfound
  exact absurd (exists_fit_of_claim? hfound) (by decide +kernel)

end Bleed

end AgentGovernance
