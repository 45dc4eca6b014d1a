-- SUMMARY: What a load does with the candidates: which files are tried, taken and rejected, and that each one that was tried is accounted for.
import AgentGovernance.Proofs.Descriptor.Candidates
import AgentGovernance.Proofs.Descriptor.Store

/-!
# Loading a directory

Of the candidates below a directory those at the top are all read, and those in a directory below are
tried in the order of their ranks until one can be read. What was read goes into the index in the order
of the directories, less what has the id of an earlier one. Main statement: this in full, and that every
file that was tried ends up in the index or in the report, once.
-/

namespace AgentGovernance

/-! ## The first of a kind -/

/-- The list up to its first element with the property, which is included. -/
def upTo {α : Type} (p : α → Bool) : List α → List α
  | [] => []
  | x :: xs => if p x then [x] else x :: upTo p xs

theorem upTo_map {α β : Type} (p : β → Bool) (f : α → β) (xs : List α) :
    upTo p (xs.map f) = (upTo (fun x => p (f x)) xs).map f := by
  induction xs with
  | nil => rfl
  | cons x xs ih =>
    simp only [List.map_cons, upTo, ih]
    split <;> rfl

/-- Either no element has the property and none is left out, or the list ends with the first that has
it. -/
theorem upTo_cases {α : Type} (p : α → Bool) (xs : List α) :
    (∀ x ∈ xs, p x = false) ∧ upTo p xs = xs ∨
    ∃ front x rest, xs = front ++ x :: rest ∧ (∀ y ∈ front, p y = false) ∧ p x = true ∧
      upTo p xs = front ++ [x] := by
  induction xs with
  | nil => exact .inl ⟨by simp, rfl⟩
  | cons x xs ih =>
    rw [upTo]
    cases hx : p x with
    | true => exact .inr ⟨[], x, xs, rfl, by simp, hx, rfl⟩
    | false =>
      rcases ih with ⟨hall, hxs⟩ | ⟨front, y, rest, rfl, hfront, hy, hxs⟩
      · exact .inl ⟨List.forall_mem_cons.2 ⟨hx, hall⟩, by simp [hxs]⟩
      · exact .inr ⟨x :: front, y, rest, rfl, List.forall_mem_cons.2 ⟨hx, hfront⟩, hy, by simp [hxs]⟩

/-- Whether an element is reached does not depend on the element itself. -/
theorem mem_upTo_congr {α : Type} {p q : α → Bool} {x : α} (h : ∀ y, y ≠ x → p y = q y)
    (xs : List α) : x ∈ upTo p xs ↔ x ∈ upTo q xs := by
  induction xs with
  | nil => rfl
  | cons y xs ih =>
    by_cases hy : y = x
    · subst hy
      simp only [upTo]
      split <;> split <;> simp
    · simp only [upTo, h y hy]
      split
      · rfl
      · rw [List.mem_cons, List.mem_cons, ih]

namespace CandidateGroup

variable {read read' : Path → Except DescriptorFault AgentDescriptor} {root : Place}
  {g : CandidateGroup} {path : Path}

/-! ## Reading files -/

/-- Whether a file can be read. -/
def reads (read : Path → Except DescriptorFault AgentDescriptor) (file : Path) : Bool :=
  (read file).isOk

theorem reads_iff : reads read path = true ↔ ∃ d, read path = .ok d := by
  cases h : read path <;> simp [reads, h, Except.isOk, Except.toBool]

theorem reads_eq_false_iff : reads read path = false ↔ ∃ fault, read path = .error fault := by
  cases h : read path <;> simp [reads, h, Except.isOk, Except.toBool]

/-- The descriptors among what files are read as. -/
def descriptors (read : Path → Except DescriptorFault AgentDescriptor) (files : List Path) :
    List AgentDescriptor :=
  files.filterMap fun file => match read file with
    | .ok d => some d
    | .error _ => none

/-- The files that cannot be read, with what is wrong with them. -/
def faults (read : Path → Except DescriptorFault AgentDescriptor) (files : List Path) :
    List (Path × DescriptorFault) :=
  files.filterMap fun file => match read file with
    | .ok _ => none
    | .error fault => some (file, fault)

section Cons

variable {d : AgentDescriptor} {fault : DescriptorFault} {files : List Path}

theorem descriptors_cons_of_ok (h : read path = .ok d) :
    descriptors read (path :: files) = d :: descriptors read files := by
  simp [descriptors, h]

theorem descriptors_cons_of_error (h : read path = .error fault) :
    descriptors read (path :: files) = descriptors read files := by
  simp [descriptors, h]

theorem faults_cons_of_ok (h : read path = .ok d) :
    faults read (path :: files) = faults read files := by
  simp [faults, h]

theorem faults_cons_of_error (h : read path = .error fault) :
    faults read (path :: files) = (path, fault) :: faults read files := by
  simp [faults, h]

end Cons

theorem descriptors_append (files files' : List Path) :
    descriptors read (files ++ files') = descriptors read files ++ descriptors read files' :=
  List.filterMap_append

theorem faults_append (files files' : List Path) :
    faults read (files ++ files') = faults read files ++ faults read files' :=
  List.filterMap_append

theorem descriptors_of_unreadable {files : List Path}
    (h : ∀ file ∈ files, reads read file = false) : descriptors read files = [] := by
  refine List.filterMap_eq_nil_iff.2 fun file hfile => ?_
  obtain ⟨fault, hfault⟩ := reads_eq_false_iff.1 (h file hfile)
  rw [hfault]

theorem mem_faults_iff {files : List Path} :
    path ∈ (faults read files).map (·.1) ↔ path ∈ files ∧ reads read path = false := by
  induction files with
  | nil => simp [faults]
  | cons file files ih =>
    cases hread : read file with
    | ok d =>
      have hne : reads read path = false → path ≠ file := by
        rintro hpath rfl
        exact absurd (reads_iff.2 ⟨d, hread⟩) (by simp [hpath])
      rw [faults_cons_of_ok hread, ih, List.mem_cons]
      exact and_congr_left fun hpath => (or_iff_right (hne hpath)).symm
    | error fault =>
      rw [faults_cons_of_error hread, List.map_cons, List.mem_cons, ih, List.mem_cons, or_and_right]
      refine or_congr_left (iff_self_and.2 ?_)
      rintro rfl
      exact reads_eq_false_iff.2 ⟨fault, hread⟩

/-- Every file makes a descriptor or has a fault. -/
theorem perm_descriptors_faults (hsource : ∀ file d, read file = .ok d → d.source = file)
    (files : List Path) :
    ((descriptors read files).map (·.source) ++ (faults read files).map (·.1)).Perm files := by
  induction files with
  | nil => exact List.Perm.refl _
  | cons file files ih =>
    cases hread : read file with
    | ok d =>
      rw [descriptors_cons_of_ok hread, faults_cons_of_ok hread, List.map_cons, List.cons_append,
        hsource file d hread]
      exact ih.cons file
    | error fault =>
      rw [descriptors_cons_of_error hread, faults_cons_of_error hread, List.map_cons]
      exact List.perm_middle.trans (ih.cons file)

/-! ## Trying files -/

theorem everyFile_eq (files : List Path) :
    (everyFile read files).taken = descriptors read files ∧
      (everyFile read files).rejected = faults read files := by
  induction files with
  | nil => exact ⟨rfl, rfl⟩
  | cons file files ih =>
    rw [everyFile]
    cases hread : read file with
    | ok d =>
      rw [descriptors_cons_of_ok hread, faults_cons_of_ok hread]
      exact ⟨congrArg (d :: ·) ih.1, ih.2⟩
    | error fault =>
      rw [descriptors_cons_of_error hread, faults_cons_of_error hread]
      exact ⟨ih.1, congrArg ((file, fault) :: ·) ih.2⟩

theorem firstReadable_eq (all files : List Path) :
    (firstReadable read all files).taken = descriptors read (upTo (reads read) files) ∧
      (firstReadable read all files).rejected = faults read (upTo (reads read) files) := by
  induction files with
  | nil => exact ⟨rfl, rfl⟩
  | cons file files ih =>
    rw [firstReadable, upTo]
    cases hread : read file with
    | ok d =>
      rw [if_pos (reads_iff.2 ⟨d, hread⟩), descriptors_cons_of_ok hread, faults_cons_of_ok hread]
      exact ⟨rfl, rfl⟩
    | error fault =>
      rw [if_neg (by simp [reads_eq_false_iff.2 ⟨fault, hread⟩]), descriptors_cons_of_error hread,
        faults_cons_of_error hread]
      exact ⟨ih.1, congrArg ((file, fault) :: ·) ih.2⟩

/-- The files of a group that are tried when the search started at `root`. -/
def attempted (read : Path → Except DescriptorFault AgentDescriptor) (root : Place)
    (g : CandidateGroup) : List Path :=
  if g.directory == root then g.files else upTo (reads read) g.ranked

theorem choose_eq (read : Path → Except DescriptorFault AgentDescriptor) (root : Place)
    (g : CandidateGroup) :
    (g.choose read root).taken = descriptors read (g.attempted read root) ∧
      (g.choose read root).rejected = faults read (g.attempted read root) := by
  rw [choose, attempted]
  split
  · exact everyFile_eq g.files
  · exact firstReadable_eq g.ranked g.ranked

/-- What is taken and what is rejected, in the order of the groups. -/
theorem flatMap_choose (read : Path → Except DescriptorFault AgentDescriptor) (root : Place)
    (gs : List CandidateGroup) :
    (gs.map (choose read root)).flatMap (·.taken) =
        descriptors read (gs.flatMap (attempted read root)) ∧
      (gs.map (choose read root)).flatMap (·.rejected) =
        faults read (gs.flatMap (attempted read root)) := by
  induction gs with
  | nil => exact ⟨rfl, rfl⟩
  | cons g gs ih =>
    obtain ⟨htaken, hrejected⟩ := choose_eq read root g
    simp only [List.map_cons, List.flatMap_cons, descriptors_append, faults_append, ih, htaken,
      hrejected, and_self]

/-! ## Files that matter -/

theorem everyFile_congr {files : List Path} (h : ∀ file ∈ files, read' file = read file) :
    everyFile read' files = everyFile read files := by
  induction files with
  | nil => rfl
  | cons file files ih =>
    obtain ⟨hfile, hfiles⟩ := List.forall_mem_cons.1 h
    rw [everyFile, everyFile, hfile, ih hfiles]

theorem firstReadable_congr {all files : List Path}
    (h : ∀ file ∈ upTo (reads read) files, read' file = read file) :
    firstReadable read' all files = firstReadable read all files := by
  induction files with
  | nil => rfl
  | cons file files ih =>
    rw [upTo] at h
    rw [firstReadable, firstReadable]
    cases hread : read file with
    | ok d =>
      rw [if_pos (reads_iff.2 ⟨d, hread⟩)] at h
      rw [h file (List.mem_singleton_self file), hread]
    | error fault =>
      rw [if_neg (by simp [reads_eq_false_iff.2 ⟨fault, hread⟩])] at h
      obtain ⟨hfile, hfiles⟩ := List.forall_mem_cons.1 h
      rw [hfile, hread, ih hfiles]

theorem choose_congr (h : ∀ file ∈ g.attempted read root, read' file = read file) :
    g.choose read' root = g.choose read root := by
  rw [attempted] at h
  rw [choose, choose]
  split
  · rename_i htop
    exact everyFile_congr (by rwa [if_pos htop] at h)
  · rename_i hbelow
    exact firstReadable_congr (by rwa [if_neg hbelow] at h)

theorem mem_attempted_congr (h : ∀ file, file ≠ path → read' file = read file) :
    path ∈ g.attempted read' root ↔ path ∈ g.attempted read root := by
  rw [attempted, attempted]
  split
  · rfl
  · exact mem_upTo_congr (fun file hfile => by rw [reads, reads, h file hfile]) g.ranked

/-- The files that are tried are those whose reading matters: if one of them alone read otherwise, other
choices would be made, and no other file has a say. -/
theorem exists_choose_ne_iff {gs : List CandidateGroup} :
    (∃ read', (∀ file, file ≠ path → read' file = read file) ∧
      gs.map (choose read' root) ≠ gs.map (choose read root)) ↔
    path ∈ gs.flatMap (attempted read root) := by
  constructor
  · rintro ⟨read', hread', hne⟩
    by_contra hpath
    refine hne (List.map_congr_left fun g hg => choose_congr fun file hfile => hread' file ?_)
    rintro rfl
    exact hpath (List.mem_flatMap.2 ⟨g, hg, hfile⟩)
  · intro hpath
    obtain ⟨g, hg, hpath⟩ := List.mem_flatMap.1 hpath
    obtain ⟨other, hother⟩ : ∃ other : Except DescriptorFault AgentDescriptor,
        other.isOk = !reads read path := by
      cases reads read path with
      | true => exact ⟨.error .noBlock, rfl⟩
      | false => exact ⟨.ok (.new ""), rfl⟩
    let read' : Path → Except DescriptorFault AgentDescriptor :=
      fun file => if file = path then other else read file
    have hread' : ∀ file, file ≠ path → read' file = read file := fun file hfile => if_neg hfile
    refine ⟨read', hread', fun hsame => ?_⟩
    -- The file is tried either way, and it is rejected in one way only.
    have hrejected := congrArg (fun c => path ∈ c.rejected.map (·.1)) (List.map_inj_left.1 hsame g hg)
    simp only [(choose_eq _ root g).2, mem_faults_iff, mem_attempted_congr hread', hpath,
      true_and] at hrejected
    have hflip : reads read' path = !reads read path := by simp [reads, read', hother]
    simp [hflip] at hrejected

end CandidateGroup

/-! ## Directories -/

/-- What happens in one directory that holds candidates. -/
structure Visit where
  directory : Place := []
  /-- The candidates in the order in which they are tried. -/
  ranking : List Place := []
  attempted : List Place := []
  taken : List AgentDescriptor := []
  rejected : List (Path × DescriptorFault) := []
  deriving Inhabited

namespace Visit

open CandidateGroup (descriptors faults reads)

variable {disk : Disk} {root : Place} {v : Visit}

/-- Whether the file at a place can be read. -/
def Readable (disk : Disk) (p : Place) : Prop :=
  ∃ d, AgentDescriptor.read disk (Path.ofNames p) = .ok d

/-- Every candidate is read, and is taken or rejected. -/
structure TakesAll (disk : Disk) (v : Visit) : Prop where
  attempted : v.attempted = v.ranking
  taken : v.taken = descriptors (AgentDescriptor.read disk) (v.ranking.map Path.ofNames)
  rejected : v.rejected = faults (AgentDescriptor.read disk) (v.ranking.map Path.ofNames)

/-- The first candidate that can be read is taken, and those in front of it are rejected. -/
def TakesFirst (disk : Disk) (v : Visit) : Prop :=
  ∃ front winner rest d, v.ranking = front ++ winner :: rest ∧ (∀ p ∈ front, ¬Readable disk p) ∧
    AgentDescriptor.read disk (Path.ofNames winner) = .ok d ∧ v.attempted = front ++ [winner] ∧
    v.taken = [d] ∧ v.rejected = faults (AgentDescriptor.read disk) (front.map Path.ofNames)

/-- No candidate can be read, and all are rejected. -/
structure TakesNone (disk : Disk) (v : Visit) : Prop where
  unreadable : ∀ p ∈ v.ranking, ¬Readable disk p
  attempted : v.attempted = v.ranking
  taken : v.taken = []
  rejected : v.rejected = faults (AgentDescriptor.read disk) (v.ranking.map Path.ofNames)

/-- The candidates of the directory are ranked, and as many are taken as the place of the directory
allows. -/
structure Follows (disk : Disk) (root : Place) (v : Visit) : Prop where
  mem_ranking : ∀ p, p ∈ v.ranking ↔ IsCandidate disk.tree root p ∧ p.dropLast = v.directory
  at_top : v.directory = root → v.ranking.Pairwise (· < ·) ∧ v.TakesAll disk
  below_top : v.directory ≠ root →
    v.ranking.Pairwise (Ahead v.directory) ∧ (v.TakesFirst disk ∨ v.TakesNone disk)

/-- The visit records what becomes of a group. -/
structure Records (disk : Disk) (root : Place) (g : CandidateGroup) (v : Visit) : Prop where
  directory : v.directory = g.directory
  attempted : v.attempted.map Path.ofNames = g.attempted (AgentDescriptor.read disk) root
  taken : v.taken = (g.choose (AgentDescriptor.read disk) root).taken
  rejected : v.rejected = (g.choose (AgentDescriptor.read disk) root).rejected

theorem not_readable_iff {p : Place} :
    ¬Readable disk p ↔ reads (AgentDescriptor.read disk) (Path.ofNames p) = false := by
  rw [Readable, ← CandidateGroup.reads_iff, Bool.not_eq_true]

/-- Trying the ranking up to the first candidate that can be read takes that one or none. -/
theorem takes_upTo {directory : Place} {ranking tried : List Place}
    (htried : tried = upTo (fun p => reads (AgentDescriptor.read disk) (Path.ofNames p)) ranking) :
    let files := tried.map Path.ofNames
    let v : Visit := ⟨directory, ranking, tried, descriptors (AgentDescriptor.read disk) files,
      faults (AgentDescriptor.read disk) files⟩
    v.TakesFirst disk ∨ v.TakesNone disk := by
  rcases upTo_cases (fun p => reads (AgentDescriptor.read disk) (Path.ofNames p)) ranking with
    ⟨hnone, hall⟩ | ⟨front, winner, rest, hranking, hfront, hwinner, htaken⟩
  · rw [hall] at htried
    refine .inr ⟨fun p hp => not_readable_iff.2 (hnone p hp), htried, ?_, by rw [htried]⟩
    exact CandidateGroup.descriptors_of_unreadable (List.forall_mem_map.2 (htried ▸ hnone))
  · obtain ⟨d, hd⟩ := CandidateGroup.reads_iff.1 hwinner
    rw [htaken] at htried
    have hfrontFiles : ∀ file ∈ front.map Path.ofNames,
        reads (AgentDescriptor.read disk) file = false := List.forall_mem_map.2 hfront
    refine .inl ⟨front, winner, rest, d, hranking, fun p hp => not_readable_iff.2 (hfront p hp), hd,
      htried, ?_, ?_⟩
    · rw [htried, List.map_append, CandidateGroup.descriptors_append,
        CandidateGroup.descriptors_of_unreadable hfrontFiles]
      exact CandidateGroup.descriptors_cons_of_ok hd
    · rw [htried, List.map_append, CandidateGroup.faults_append, List.map_singleton,
        CandidateGroup.faults_cons_of_ok hd]
      exact List.append_nil _

theorem exists_of_group (ht : disk.tree.Proper) {g : CandidateGroup}
    (hg : g ∈ CandidateGroup.scan disk.tree root) : ∃ v, Records disk root g v ∧ Follows disk root v := by
  obtain ⟨ps, -, hfiles, hsorted, hmem⟩ := (CandidateGroup.scan_spec ht root).2.2 g hg
  obtain ⟨htaken, hrejected⟩ := CandidateGroup.choose_eq (AgentDescriptor.read disk) root g
  by_cases htop : g.directory = root
  · have hattempted : g.attempted (AgentDescriptor.read disk) root = ps.map Path.ofNames := by
      rw [CandidateGroup.attempted, if_pos (beq_iff_eq.2 htop), hfiles]
    rw [hattempted] at htaken hrejected
    exact ⟨⟨g.directory, ps, ps, _, _⟩, ⟨rfl, hattempted.symm, htaken.symm, hrejected.symm⟩, hmem,
      fun _ => ⟨hsorted, rfl, rfl, rfl⟩, fun hbelow => absurd htop hbelow⟩
  · obtain ⟨ranking, hranked, hperm, hahead⟩ :=
      CandidateGroup.ranked_spec hfiles hsorted fun p hp => ((hmem p).1 hp).1.extension
    have hranking : ∀ p, p ∈ ranking ↔ IsCandidate disk.tree root p ∧ p.dropLast = g.directory :=
      fun p => hperm.mem_iff.trans (hmem p)
    have hattempted : g.attempted (AgentDescriptor.read disk) root = (upTo (fun p =>
        reads (AgentDescriptor.read disk) (Path.ofNames p)) ranking).map Path.ofNames := by
      rw [CandidateGroup.attempted, if_neg (by simpa using htop), hranked, upTo_map]
    rw [hattempted] at htaken hrejected
    exact ⟨⟨g.directory, ranking, _, _, _⟩, ⟨rfl, hattempted.symm, htaken.symm, hrejected.symm⟩,
      hranking, fun h => absurd h htop, fun _ => ⟨hahead, takes_upTo rfl⟩⟩

end Visit

/-! ## Loading -/

/-- What is reported about a file that was rejected. -/
def Skipped.ofFault (rejected : Path × DescriptorFault) : Skipped :=
  { path := rejected.1, cause := .fault rejected.2 }

/-- What is reported about a descriptor whose id was taken. -/
def Skipped.ofDuplicate (d : AgentDescriptor) : Skipped :=
  { path := d.source, cause := .duplicate d.id }

namespace DescriptorStore

open Act (Ends)

variable {disk : Disk} {directory root : Path}

/-- A load whose descriptors have no conflict ends with the new index, and reports what was rejected and
then the duplicates. -/
theorem ends_load (hdirectory : disk.isDirectory directory = true)
    (hroot : disk.canonicalize directory = .ok root) {index : DescriptorIndex}
    (hbuild : DescriptorIndex.build ((choices disk root.names).flatMap (·.taken)) = .ok index)
    (j : Journal DescriptorStore) :
    Ends (load disk directory) j
      (.ok { loaded := index.descriptors.length
             skipped := (choices disk root.names).flatMap (·.rejected.map Skipped.ofFault) ++
               (DescriptorIndex.duplicatesFrom []
                 ((choices disk root.names).flatMap (·.taken))).map Skipped.ofDuplicate })
      { index, directory := some root } := by
  unfold load
  rw [hdirectory, hroot]
  refine Ends.bind (Act.ends_pure root) fun _ _ => ?_
  refine Ends.bind (Act.ends_forM fun c _ => Act.ends_log_each (choiceEvents c)) fun _ _ => ?_
  refine Ends.bind (Act.ends_forM fun s _ => Act.ends_log (duplicateEvent s)) fun _ _ => ?_
  dsimp only
  rw [hbuild]
  refine Ends.bind Act.ends_setWorld fun k hk => ?_
  refine Ends.bind (Act.ends_log _) fun k' hk' => ?_
  exact hk ▸ hk' ▸ Act.ends_pure _

/-- A load whose descriptors have a conflict fails with it. -/
theorem run_load_of_conflict (hdirectory : disk.isDirectory directory = true)
    (hroot : disk.canonicalize directory = .ok root) {e : GovernanceError}
    (hbuild : DescriptorIndex.build ((choices disk root.names).flatMap (·.taken)) = .error e)
    (s : DescriptorStore) : ((load disk directory).run s).outcome = .error e := by
  have hmakes : (StoreCall.load disk directory).makes s = .error e := by
    rw [StoreCall.makes, StoreCall.brings, findBelow, if_pos hdirectory, hroot]
    change (DescriptorIndex.build ((choices disk root.names).flatMap (·.taken))).map _ = _
    rw [hbuild]
    rfl
  exact ((puts_load disk directory).error hmakes).run.1

/-- How the file reads matters: if it alone read otherwise, other choices would be made below the
directory. -/
def Consulted (disk : Disk) (root : Place) (file : Path) : Prop :=
  ∃ read, (∀ other, other ≠ file → read other = AgentDescriptor.read disk other) ∧
    (CandidateGroup.scan disk.tree root).map (CandidateGroup.choose read root) ≠ choices disk root

/-- The visits that a search makes, and what comes of them. -/
theorem exists_visits (htree : disk.tree.Proper) (root : Place) :
    ∃ visits : List Visit,
      visits.Pairwise (fun v w => v.directory < w.directory) ∧
      (∀ d, (∃ v ∈ visits, v.directory = d) ↔
        ∃ p, IsCandidate disk.tree root p ∧ p.dropLast = d) ∧
      (∀ v ∈ visits, v.Follows disk root) ∧
      (∀ file, file ∈ (visits.flatMap (·.attempted)).map Path.ofNames ↔
        Consulted disk root file) ∧
      visits.flatMap (·.taken) = (choices disk root).flatMap (·.taken) ∧
      visits.flatMap (·.rejected) = (choices disk root).flatMap (·.rejected) ∧
      ((visits.flatMap (·.taken)).map (·.source) ++
        (visits.flatMap (·.rejected)).map (·.1)).Perm
          ((visits.flatMap (·.attempted)).map Path.ofNames) := by
  obtain ⟨hascending, hcovers, hfiles⟩ := CandidateGroup.scan_spec htree root
  have hvisits : ∀ g ∈ CandidateGroup.scan disk.tree root,
      ∃ v, Visit.Records disk root g v ∧ v.Follows disk root := fun g hg => Visit.exists_of_group htree hg
  choose! visit hrecords hfollows using hvisits
  set groups := CandidateGroup.scan disk.tree root with hgroups
  set tried := groups.flatMap (CandidateGroup.attempted (AgentDescriptor.read disk) root) with htried
  have hattempted : ((groups.map visit).flatMap (·.attempted)).map Path.ofNames = tried := by
    rw [List.map_flatMap, List.flatMap_map]
    exact List.flatMap_congr fun g hg => (hrecords g hg).attempted
  have htaken : (groups.map visit).flatMap (·.taken) = (choices disk root).flatMap (·.taken) := by
    rw [choices, List.flatMap_map, List.flatMap_map]
    exact List.flatMap_congr fun g hg => (hrecords g hg).taken
  have hrejected : (groups.map visit).flatMap (·.rejected) =
      (choices disk root).flatMap (·.rejected) := by
    rw [choices, List.flatMap_map, List.flatMap_map]
    exact List.flatMap_congr fun g hg => (hrecords g hg).rejected
  refine ⟨groups.map visit, ?_, fun d => ?_, ?_, fun file => ?_, htaken, hrejected, ?_⟩
  · refine List.pairwise_map.2 (hascending.imp_of_mem fun hg hg' hlt => ?_)
    rwa [(hrecords _ hg).directory, (hrecords _ hg').directory]
  · constructor
    · rintro ⟨v, hv, rfl⟩
      obtain ⟨g, hg, rfl⟩ := List.mem_map.1 hv
      obtain ⟨ps, hne, -, -, hmem⟩ := hfiles g hg
      obtain ⟨p, hp⟩ := List.exists_mem_of_ne_nil ps hne
      exact ⟨p, (hrecords g hg).directory ▸ (hmem p).1 hp⟩
    · rintro ⟨p, hp, rfl⟩
      obtain ⟨g, hg, hdirectory⟩ := hcovers p hp
      exact ⟨visit g, List.mem_map_of_mem hg, (hrecords g hg).directory.trans hdirectory⟩
  · intro v hv
    obtain ⟨g, hg, rfl⟩ := List.mem_map.1 hv
    exact hfollows g hg
  · rw [hattempted, htried, ← CandidateGroup.exists_choose_ne_iff]
    rfl
  · obtain ⟨hmade, hfaults⟩ :=
      CandidateGroup.flatMap_choose (AgentDescriptor.read disk) root groups
    rw [htaken, hrejected, hattempted, choices, hmade, hfaults]
    exact CandidateGroup.perm_descriptors_faults (fun _ _ => AgentDescriptor.source_of_read) tried

/-- If the descriptors that were found are kept or reported, then so are the files they were read
from. -/
theorem perm_kept_skipped {kept later found : List AgentDescriptor}
    {rejected : List (Path × DescriptorFault)} {files : List Path}
    (hfound : (kept ++ later).Perm found)
    (hfiles : (found.map (·.source) ++ rejected.map (·.1)).Perm files) :
    (kept.map (·.source) ++
      (rejected.map Skipped.ofFault ++ later.map Skipped.ofDuplicate).map (·.path)).Perm files := by
  have hskipped : (rejected.map Skipped.ofFault ++ later.map Skipped.ofDuplicate).map (·.path) =
      rejected.map (·.1) ++ later.map (·.source) := by
    simp [Function.comp_def, Skipped.ofFault, Skipped.ofDuplicate]
  have hsources := (hfound.map (·.source)).append_right (rejected.map (·.1))
  rw [List.map_append, List.append_assoc] at hsources
  rw [hskipped]
  exact ((List.perm_append_comm.append_left _).trans hsources).trans hfiles

/-- Every directory below the one that is loaded is visited in path order if it holds candidates. At the
top all of them are read; elsewhere they are tried in the order of their ranks, and the first that can be
read is taken. Of the descriptors that were taken, in this order, the first of each id is kept unless
there is a conflict, and the later ones are reported behind the files that were rejected; so each file
that was tried is either kept or reported, once. -/
theorem load_accounts_for_all {disk : Disk} (htree : disk.tree.Proper)
    (hcwd : ∀ name ∈ disk.cwd, Path.IsName name) {directory : Path} {root : Place}
    (hfind : disk.tree.find disk.cwd directory = .ok (root, .directory)) (s : DescriptorStore) :
    ∃ visits : List Visit,
      visits.Pairwise (fun v w => v.directory < w.directory) ∧
      (∀ d, (∃ v ∈ visits, v.directory = d) ↔
        ∃ p, IsCandidate disk.tree root p ∧ p.dropLast = d) ∧
      (∀ v ∈ visits, v.Follows disk root) ∧
      (∀ file, file ∈ (visits.flatMap (·.attempted)).map Path.ofNames ↔
        Consulted disk root file) ∧
      let found := visits.flatMap (·.taken)
      let run := (load disk directory).run s
      (∀ e, run.outcome = .error e ↔ DescriptorIndex.build found = .error e) ∧
      ∀ report, run.outcome = .ok report →
        ∃ later : List AgentDescriptor, later.Sublist found ∧ (run.world.all ++ later).Perm found ∧
          (∀ before d after, found = before ++ d :: after →
            ((∀ e ∈ before, e.id ≠ d.id) → d ∈ run.world.all) ∧
            ((∃ e ∈ before, e.id = d.id) → d ∈ later)) ∧
          report.loaded = run.world.all.length ∧
          report.skipped = (visits.flatMap (·.rejected)).map Skipped.ofFault ++
            later.map Skipped.ofDuplicate ∧
          (run.world.all.map (·.source) ++ report.skipped.map (·.path)).Perm
            ((visits.flatMap (·.attempted)).map Path.ofNames) ∧
          report.loaded + report.skipped.length = (visits.flatMap (·.attempted)).length := by
  obtain ⟨visits, hascending, hcovers, hfollows, hconsulted, htaken, hrejected, hperm⟩ :=
    exists_visits htree root
  refine ⟨visits, hascending, hcovers, hfollows, hconsulted, ?_⟩
  intro found run
  have hdirectory : disk.isDirectory directory = true := by
    simp [Disk.isDirectory, FileTree.isDirectory, hfind]
  have hroot : disk.canonicalize directory = .ok (Path.ofNames root) := by
    rw [Disk.canonicalize, FileTree.canonicalize, hfind]
    rfl
  have hnames : (Path.ofNames root).names = root :=
    Path.names_ofNames (FileTree.isName_of_find hcwd hfind)
  have hfound : (choices disk (Path.ofNames root).names).flatMap (·.taken) = found := by
    rw [hnames, ← htaken]
  cases hbuild : DescriptorIndex.build found with
  | error e =>
    have hout : run.outcome = .error e :=
      run_load_of_conflict hdirectory hroot (hfound ▸ hbuild) s
    refine ⟨fun e' => by simp [hout], fun report hreport => ?_⟩
    rw [hout] at hreport
    cases hreport
  | ok index =>
    obtain ⟨hout, hworld⟩ := (ends_load hdirectory hroot (hfound ▸ hbuild) { world := s }).run
    have hall : run.world.all = DescriptorIndex.sortById found := by
      rw [all, hworld]
      exact (DescriptorIndex.build_spec hbuild).1
    refine ⟨fun e' => ?_, fun report hreport => ?_⟩
    · rw [hout]
      exact iff_of_false nofun nofun
    · rw [hout] at hreport
      cases hreport
      have hkept : (run.world.all ++ DescriptorIndex.duplicatesFrom [] found).Perm found :=
        hall ▸ DescriptorIndex.sortById_append_perm found
      have hskipped : (choices disk (Path.ofNames root).names).flatMap
          (·.rejected.map Skipped.ofFault) = (visits.flatMap (·.rejected)).map Skipped.ofFault := by
        rw [hnames, hrejected, List.map_flatMap]
      have haccounted := perm_kept_skipped hkept hperm
      have hloaded : index.descriptors.length = run.world.all.length := by rw [all, hworld]
      rw [hskipped, hfound]
      refine ⟨_, DescriptorIndex.duplicatesFrom_sublist [] found, hkept,
        fun before d after hsplit => ⟨fun hfirst => ?_, fun hlater => ?_⟩, hloaded, rfl, haccounted, ?_⟩
      · rw [hall, hsplit]
        exact DescriptorIndex.mem_sortById_iff.2 (DescriptorIndex.counts_of_first hfirst)
      · rw [hsplit]
        exact DescriptorIndex.mem_duplicatesFrom (.inr hlater)
      · simpa [hloaded] using haccounted.length_eq

/-- An agent's own file that is malformed is reported, the file behind it is taken in its place, and is
reported in turn since the agent at the top has its id. -/
theorem load_accounts_for_all_namesakes :
    let ops : Node := .file "id: ops".toUTF8
    let tree := ((((FileTree.empty.put ["agents"] .directory).put ["agents", "dev"] .directory).put
      ["agents", "dev", "notes.yaml"] ops).put ["agents", "dev", "agent.yaml"] (.file "[".toUTF8)).put
      ["agents", "ops.yaml"] ops
    let disk : Disk := { tree }
    let run := (load disk ⟨"agents"⟩).run {}
    run.outcome = .ok { loaded := 1
                        skipped := [⟨⟨"/agents/dev/agent.yaml"⟩, .fault .malformed⟩,
                          ⟨⟨"/agents/dev/notes.yaml"⟩, .duplicate "ops"⟩] } ∧
      ∃ visits : List Visit, (∀ v ∈ visits, v.Follows disk ["agents"]) ∧
        (visits.flatMap (·.attempted)).length = 3 := by
  intro ops tree disk run
  have htree : tree.Proper := by
    have hagents := FileTree.Proper.put (p := []) (s := "agents") FileTree.proper_empty rfl (.inl rfl)
    have hdev := hagents.put (p := ["agents"]) (s := "dev") (by decide +kernel) (.inl rfl)
    have hnotes := hdev.put (p := ["agents", "dev"]) (s := "notes.yaml") (n := ops)
      (by decide +kernel) (.inr (by decide +kernel))
    have hagent := hnotes.put (p := ["agents", "dev"]) (s := "agent.yaml") (n := .file "[".toUTF8)
      (by decide +kernel) (.inr (by decide +kernel))
    exact hagent.put (p := ["agents"]) (s := "ops.yaml") (by decide +kernel)
      (.inr (by decide +kernel))
  have hplaces : CandidateGroup.candidatePlaces tree ["agents"] =
      [["agents", "ops.yaml"], ["agents", "dev", "agent.yaml"], ["agents", "dev", "notes.yaml"]] :=
    List.mergeSort_of_pairwise (by decide +kernel)
  have htaken : (choices disk ["agents"]).flatMap (·.taken) =
      [AgentDescriptor.withSource (.new "ops") ⟨"/agents/ops.yaml"⟩,
        AgentDescriptor.withSource (.new "ops") ⟨"/agents/dev/notes.yaml"⟩] := by
    rw [choices, CandidateGroup.scan, hplaces]
    decide +kernel
  have hrejected : (choices disk ["agents"]).flatMap (·.rejected) =
      [(⟨"/agents/dev/agent.yaml"⟩, .malformed)] := by
    rw [choices, CandidateGroup.scan, hplaces]
    decide +kernel
  have hfind : disk.tree.find disk.cwd ⟨"agents"⟩ = .ok (["agents"], .directory) := by decide +kernel
  have hnames : (Path.ofNames ["agents"]).names = ["agents"] := by decide +kernel
  have hbuild : DescriptorIndex.build
      ((choices disk (Path.ofNames ["agents"]).names).flatMap (·.taken)) =
      .ok { descriptors := [.withSource (.new "ops") ⟨"/agents/ops.yaml"⟩] } := by
    rw [hnames, htaken]
    decide +kernel
  have hdirectory : disk.isDirectory ⟨"agents"⟩ = true := by decide +kernel
  have hroot : disk.canonicalize ⟨"agents"⟩ = .ok (Path.ofNames ["agents"]) := by decide +kernel
  have hout := (ends_load hdirectory hroot hbuild { world := {} }).run.1
  rw [hnames, htaken, ← List.map_flatMap, hrejected] at hout
  obtain ⟨visits, -, -, hfollows, -, -, hreport⟩ :=
    load_accounts_for_all htree (by simp [disk]) hfind {}
  obtain ⟨later, -, -, -, -, -, -, hcount⟩ := hreport _ hout
  exact ⟨hout, visits, hfollows, hcount.symm⟩

end DescriptorStore

end AgentGovernance
