-- SUMMARY: The candidates below a directory: which files they are, and the order in which they are tried.
import AgentGovernance.Descriptor.Directory
import AgentGovernance.Proofs.FileTree
import Mathlib.Data.List.Lex
import Mathlib.Data.Prod.Lex
import Mathlib.Data.String.Basic

/-!
# Candidates

The candidates below a directory are the files with the extension of a descriptor on whose way no name
is hidden. They are searched in path order, those of one directory together, and within a directory
below the first those that are named for the agent are tried before the others.
-/

namespace AgentGovernance

/-! ## Path order -/

theorem compareLists_eq_lt_iff {a b : Place} : compareLists compare a b = .lt ↔ a < b := by
  induction a generalizing b with
  | nil => cases b <;> simp [compareLists]
  | cons s a ih =>
    cases b with
    | nil => simp [compareLists]
    | cons s' b =>
      rw [compareLists, List.cons_lt_cons_iff, ← ih, ← compare_lt_iff_lt (a := s),
        ← compare_eq_iff_eq (a := s)]
      cases compare s s' <;> simp

theorem compareLists_eq_eq_iff {a b : Place} : compareLists compare a b = .eq ↔ a = b := by
  induction a generalizing b with
  | nil => cases b <;> simp [compareLists]
  | cons s a ih =>
    cases b with
    | nil => simp [compareLists]
    | cons s' b =>
      rw [compareLists, List.cons.injEq, ← ih, ← compare_eq_iff_eq (a := s)]
      cases compare s s' <;> simp

theorem compareLists_ne_gt_iff {a b : Place} : compareLists compare a b ≠ .gt ↔ a ≤ b := by
  rw [le_iff_lt_or_eq, ← compareLists_eq_lt_iff, ← compareLists_eq_eq_iff]
  cases compareLists compare a b <;> simp

namespace CandidateGroup

/-- Places are ordered by the directory first. -/
theorem placeLe_iff {p q : Place} :
    placeLe p q = true ↔ toLex (p.dropLast, p) ≤ toLex (q.dropLast, q) := by
  rw [Prod.Lex.toLex_le_toLex, ← compareLists_eq_lt_iff, ← compareLists_eq_eq_iff,
    ← compareLists_ne_gt_iff, placeLe]
  cases compareLists compare p.dropLast q.dropLast <;> simp

theorem pairwise_mergeSort_placeLe (ps : List Place) :
    (ps.mergeSort placeLe).Pairwise fun p q => toLex (p.dropLast, p) ≤ toLex (q.dropLast, q) := by
  have htrans (p q r : Place) (hpq : placeLe p q = true) (hqr : placeLe q r = true) :
      placeLe p r = true :=
    placeLe_iff.2 ((placeLe_iff.1 hpq).trans (placeLe_iff.1 hqr))
  have htotal (p q : Place) : (placeLe p q || placeLe q p) = true := by
    simpa only [Bool.or_eq_true, placeLe_iff] using le_total _ _
  exact (List.pairwise_mergeSort htrans htotal ps).imp fun h => placeLe_iff.1 h

end CandidateGroup

/-! ## Candidates -/

/-- A file below `root` that is searched: no name on the way from there is hidden, and the last one
has the extension of a descriptor. -/
structure IsCandidate (t : FileTree) (root place : Place) : Prop where
  file : ∃ bytes, t.node? place = some (.file bytes)
  below : root <+: place
  visible : ∀ name ∈ place.drop root.length, CandidateGroup.isHidden name = false
  extension : Descriptor.isDescriptorFile (Path.ofNames place) = true

namespace CandidateGroup

variable {t : FileTree} {root : Place} {p : Place}

/-- Which of the entries of a tree are searched. -/
theorem candidate_of_entry {n : Node} {q : Place} :
    (match (q, n) with
      | (place, .file _) =>
        if root.isPrefixOf place && (place.drop root.length).all (fun n => !isHidden n) &&
          Descriptor.isDescriptorFile (Path.ofNames place) then some place else none
      | (_, .directory) => none) = some p ↔
    q = p ∧ (∃ bytes, n = .file bytes) ∧ root <+: p ∧
      (∀ name ∈ p.drop root.length, isHidden name = false) ∧
      Descriptor.isDescriptorFile (Path.ofNames p) = true := by
  cases n with
  | directory => simp
  | file bytes =>
    simp only [Option.ite_none_right_eq_some, Option.some.injEq, Bool.and_eq_true,
      List.isPrefixOf_iff_prefix, List.all_eq_true, Bool.not_eq_true']
    constructor
    · rintro ⟨⟨⟨hbelow, hvisible⟩, hextension⟩, rfl⟩
      exact ⟨rfl, ⟨bytes, rfl⟩, hbelow, hvisible, hextension⟩
    · rintro ⟨rfl, -, hbelow, hvisible, hextension⟩
      exact ⟨⟨⟨hbelow, hvisible⟩, hextension⟩, rfl⟩

theorem mem_candidatePlaces_iff (ht : t.Proper) :
    p ∈ candidatePlaces t root ↔ IsCandidate t root p := by
  have hroot : Descriptor.isDescriptorFile (Path.ofNames []) = false := by decide
  simp only [candidatePlaces, List.mem_mergeSort, List.mem_filterMap]
  constructor
  · rintro ⟨⟨q, n⟩, hmem, hq⟩
    obtain ⟨rfl, ⟨bytes, rfl⟩, hbelow, hvisible, hextension⟩ := candidate_of_entry.1 hq
    have hne : q ≠ [] := by
      rintro rfl
      exact absurd hextension (by simp [hroot])
    exact ⟨⟨bytes, ht.node?_of_mem_entries hmem hne⟩, hbelow, hvisible, hextension⟩
  · rintro ⟨⟨bytes, hbytes⟩, hbelow, hvisible, hextension⟩
    have hne : p ≠ [] := by
      rintro rfl
      cases hbytes
    exact ⟨(p, .file bytes), FileTree.mem_entries_of_node? hbytes hne,
      candidate_of_entry.2 ⟨rfl, ⟨bytes, rfl⟩, hbelow, hvisible, hextension⟩⟩

theorem nodup_candidatePlaces (ht : t.Proper) (root : Place) : (candidatePlaces t root).Nodup := by
  refine (List.mergeSort_perm _ _).nodup_iff.2 (List.pairwise_filterMap.2 ?_)
  refine (List.pairwise_map.1 ht.nodup).imp ?_
  rintro ⟨q, n⟩ ⟨q', n'⟩ hne p hp p' hp' rfl
  exact hne ((candidate_of_entry.1 hp).1.trans (candidate_of_entry.1 hp').1.symm)

/-! ## Groups -/

/-- The groups follow in the order of their directories, there is one for each directory of the places,
and each holds the places of its directory in their order. -/
structure Grouped (ps : List Place) (gs : List CandidateGroup) : Prop where
  ascending : gs.Pairwise fun g g' => g.directory < g'.directory
  covers : ∀ p ∈ ps, ∃ g ∈ gs, g.directory = p.dropLast
  inhabited : ∀ g ∈ gs, ∃ p ∈ ps, p.dropLast = g.directory
  files : ∀ g ∈ gs, g.files = (ps.filter fun p => p.dropLast == g.directory).map Path.ofNames

namespace Grouped

variable {ps : List Place} {g : CandidateGroup} {gs : List CandidateGroup}

theorem nil : Grouped [] [] where
  ascending := List.Pairwise.nil
  covers := by simp
  inhabited := by simp
  files := by simp

theorem inhabited_cons (h : Grouped ps gs) (p : Place) :
    ∀ g ∈ gs, ∃ q ∈ p :: ps, q.dropLast = g.directory := by
  intro g hg
  obtain ⟨q, hq, hdirectory⟩ := h.inhabited g hg
  exact ⟨q, List.mem_cons_of_mem _ hq, hdirectory⟩

/-- A further place does not matter to the groups of other directories. -/
theorem files_cons_of_ne (h : Grouped ps gs) (hg : g ∈ gs) (hne : p.dropLast ≠ g.directory) :
    g.files = ((p :: ps).filter fun q => q.dropLast == g.directory).map Path.ofNames := by
  rw [h.files g hg, List.filter_cons_of_neg (by simpa using hne)]

/-- A place of the first directory joins the first group. -/
theorem join (h : Grouped ps (g :: gs)) (hp : g.directory = p.dropLast) :
    Grouped (p :: ps) ({ g with files := Path.ofNames p :: g.files } :: gs) := by
  obtain ⟨hfirst, hrest⟩ := List.pairwise_cons.1 h.ascending
  refine ⟨List.pairwise_cons.2 ⟨hfirst, hrest⟩, ?_, ?_, ?_⟩
  · refine List.forall_mem_cons.2 ⟨⟨_, List.mem_cons_self, hp⟩, fun q hq => ?_⟩
    obtain ⟨g', hg', hdirectory⟩ := h.covers q hq
    rcases List.mem_cons.1 hg' with rfl | hg'
    · exact ⟨_, List.mem_cons_self, hdirectory⟩
    · exact ⟨g', List.mem_cons_of_mem _ hg', hdirectory⟩
  · exact List.forall_mem_cons.2 (List.forall_mem_cons.1 (h.inhabited_cons p))
  · refine List.forall_mem_cons.2 ⟨?_, fun g' hg' => ?_⟩
    · simp [hp.symm, h.files g List.mem_cons_self]
    · exact h.files_cons_of_ne (List.mem_cons_of_mem _ hg') (hp ▸ (hfirst g' hg').ne)

/-- A place of an earlier directory makes a group of its own. -/
theorem open_group (h : Grouped ps gs) (hp : ∀ g ∈ gs, p.dropLast < g.directory) :
    Grouped (p :: ps) ({ directory := p.dropLast, files := [Path.ofNames p] } :: gs) := by
  refine ⟨List.pairwise_cons.2 ⟨hp, h.ascending⟩, ?_, ?_, ?_⟩
  · refine List.forall_mem_cons.2 ⟨⟨_, List.mem_cons_self, rfl⟩, fun q hq => ?_⟩
    obtain ⟨g', hg', hdirectory⟩ := h.covers q hq
    exact ⟨g', List.mem_cons_of_mem _ hg', hdirectory⟩
  · exact List.forall_mem_cons.2 ⟨⟨p, List.mem_cons_self, rfl⟩, h.inhabited_cons p⟩
  · refine List.forall_mem_cons.2 ⟨?_, fun g' hg' => ?_⟩
    · have hnone : ps.filter (fun q => q.dropLast == p.dropLast) = [] := by
        refine List.filter_eq_nil_iff.2 fun q hq heq => ?_
        obtain ⟨g', hg', hdirectory⟩ := h.covers q hq
        exact absurd (hp g' hg') (by simp [hdirectory, beq_iff_eq.1 heq])
      simp [hnone]
    · exact h.files_cons_of_ne hg' (hp g' hg').ne

end Grouped

theorem grouped_group {ps : List Place} (h : ps.Pairwise fun p q => p.dropLast ≤ q.dropLast) :
    Grouped ps (group ps) := by
  induction ps with
  | nil => exact Grouped.nil
  | cons p ps ih =>
    obtain ⟨hp, hps⟩ := List.pairwise_cons.1 h
    have hgrouped := ih hps
    rw [group]
    cases hgs : group ps with
    | nil =>
      rw [hgs] at hgrouped
      exact hgrouped.open_group (by simp)
    | cons g gs =>
      rw [hgs] at hgrouped
      dsimp only
      split
      · rename_i hsame
        exact hgrouped.join (beq_iff_eq.1 hsame)
      · rename_i hother
        obtain ⟨q, hq, hdirectory⟩ := hgrouped.inhabited g List.mem_cons_self
        have hfirst : p.dropLast < g.directory :=
          lt_of_le_of_ne (hdirectory ▸ hp q hq) fun heq => hother (beq_iff_eq.2 heq.symm)
        refine hgrouped.open_group (List.forall_mem_cons.2 ⟨hfirst, fun g' hg' => ?_⟩)
        exact hfirst.trans ((List.pairwise_cons.1 hgrouped.ascending).1 g' hg')

/-- The groups below a directory, said of the candidates: one for each directory that holds some, in the
order of the directories, with the candidates of the directory in path order. -/
theorem scan_spec (ht : t.Proper) (root : Place) :
    (scan t root).Pairwise (fun g g' => g.directory < g'.directory) ∧
    (∀ p, IsCandidate t root p → ∃ g ∈ scan t root, g.directory = p.dropLast) ∧
    ∀ g ∈ scan t root, ∃ ps : List Place, ps ≠ [] ∧ g.files = ps.map Path.ofNames ∧
      ps.Pairwise (· < ·) ∧ ∀ p, p ∈ ps ↔ IsCandidate t root p ∧ p.dropLast = g.directory := by
  have hsorted : (candidatePlaces t root).Pairwise
      fun p q => toLex (p.dropLast, p) ≤ toLex (q.dropLast, q) := pairwise_mergeSort_placeLe _
  have hgrouped : Grouped (candidatePlaces t root) (scan t root) :=
    grouped_group (hsorted.imp fun h => Prod.Lex.monotone_fst _ _ h)
  refine ⟨hgrouped.ascending, fun p hp => hgrouped.covers p ((mem_candidatePlaces_iff ht).2 hp), ?_⟩
  intro g hg
  refine ⟨_, ?_, hgrouped.files g hg, ?_, ?_⟩
  · obtain ⟨p, hp, hdirectory⟩ := hgrouped.inhabited g hg
    exact List.ne_nil_of_mem (List.mem_filter.2 ⟨hp, beq_iff_eq.2 hdirectory⟩)
  · refine ((hsorted.and (nodup_candidatePlaces ht root)).filter _).imp_of_mem ?_
    rintro p q hp hq ⟨hle, hne⟩
    have hsame : p.dropLast = q.dropLast :=
      (beq_iff_eq.1 (List.mem_filter.1 hp).2).trans (beq_iff_eq.1 (List.mem_filter.1 hq).2).symm
    rw [Prod.Lex.toLex_le_toLex, hsame] at hle
    exact lt_of_le_of_ne (hle.resolve_left (lt_irrefl _)).2 hne
  · intro p
    rw [List.mem_filter, mem_candidatePlaces_iff ht, beq_iff_eq]

/-! ## Ranking -/

end CandidateGroup

/-- The file is named for the agent of the directory: its stem is `agent` or the directory's name. -/
def NamedFor (directory place : Place) : Prop :=
  (Path.ofNames place).stem? = some "agent" ∨ (Path.ofNames place).stem? = directory.getLast?

instance (directory place : Place) : Decidable (NamedFor directory place) :=
  inferInstanceAs (Decidable (_ ∨ _))

/-- The one file is tried before the other: files that are named for the agent come first, and files
alike in that follow in path order. -/
def Ahead (directory p q : Place) : Prop :=
  NamedFor directory p ∧ ¬NamedFor directory q ∨ (NamedFor directory p ↔ NamedFor directory q) ∧ p < q

theorem Path.splitExtension_ne_empty {name e : String} (h : (splitExtension name).2 = some e) :
    (splitExtension name).1 ≠ "" := by
  unfold splitExtension at h ⊢
  dsimp only at h ⊢
  split at h <;> simp_all

/-- A descriptor file has a stem. -/
theorem Descriptor.exists_stem_of_isDescriptorFile {p : Path}
    (h : Descriptor.isDescriptorFile p = true) : ∃ stem, p.stem? = some stem ∧ stem ≠ "" := by
  cases hextension : p.extension? with
  | none => simp [Descriptor.isDescriptorFile, hextension] at h
  | some e =>
    obtain ⟨name, hname, he⟩ := Option.bind_eq_some_iff.1 hextension
    exact ⟨_, by rw [Path.stem?, hname]; rfl, Path.splitExtension_ne_empty he⟩

namespace CandidateGroup

variable {g : CandidateGroup}

theorem isPreferred_iff (h : Descriptor.isDescriptorFile (Path.ofNames p) = true) :
    g.isPreferred (Path.ofNames p) = true ↔ NamedFor g.directory p := by
  obtain ⟨stem, hstem, hne⟩ := Descriptor.exists_stem_of_isDescriptorFile h
  rw [isPreferred, NamedFor, hstem]
  cases g.directory.getLast? <;> simp [hne]

/-- The files of a group are tried in the order of their ranks. -/
theorem ranked_spec {ps : List Place} (hfiles : g.files = ps.map Path.ofNames)
    (hsorted : ps.Pairwise (· < ·))
    (hcandidates : ∀ p ∈ ps, Descriptor.isDescriptorFile (Path.ofNames p) = true) :
    ∃ ranking : List Place, g.ranked = ranking.map Path.ofNames ∧ ranking.Perm ps ∧
      ranking.Pairwise (Ahead g.directory) := by
  set named : Place → Bool := fun p => decide (NamedFor g.directory p) with hnamed
  refine ⟨ps.filter named ++ ps.filter fun p => !named p, ?_, List.filter_append_perm named ps, ?_⟩
  · have hpreferred : ∀ p ∈ ps, g.isPreferred (Path.ofNames p) = named p :=
      fun p hp => by rw [Bool.eq_iff_iff, isPreferred_iff (hcandidates p hp), decide_eq_true_iff]
    rw [ranked, hfiles, List.filter_map, List.filter_map, List.map_append]
    congr 2
    · exact List.filter_congr hpreferred
    · exact List.filter_congr fun p hp => by simp [hpreferred p hp]
  · have hfront : ∀ p ∈ ps.filter named, NamedFor g.directory p :=
      fun p hp => of_decide_eq_true (List.mem_filter.1 hp).2
    have hback : ∀ p ∈ ps.filter fun p => !named p, ¬NamedFor g.directory p :=
      fun p hp => by simpa [hnamed] using (List.mem_filter.1 hp).2
    refine List.pairwise_append.2 ⟨?_, ?_, fun p hp q hq => .inl ⟨hfront p hp, hback q hq⟩⟩
    · exact (hsorted.filter _).imp_of_mem fun hp hq hlt =>
        .inr ⟨iff_of_true (hfront _ hp) (hfront _ hq), hlt⟩
    · exact (hsorted.filter _).imp_of_mem fun hp hq hlt =>
        .inr ⟨iff_of_false (hback _ hp) (hback _ hq), hlt⟩

end CandidateGroup

end AgentGovernance
