-- SUMMARY: Escalations outlast the engine: engines over one directory find each other's records.
import AgentGovernance.Proofs.Remediation.Fleet

/-!
# Escalations outlast the engine

Engines that share a directory of escalations share what was escalated, though each has a ledger of
its own that is lost with it. Main statement: whichever engines fix which findings, there is one
record at most for a fingerprint, its file stays as it was written, and every later fix of the
fingerprint repeats it. The list of the directory has these records and no others.
-/

namespace AgentGovernance

open Act (Ends)
open EscalationChannel (recordPath)

/-! ## Directories as channels -/

namespace EscalationChannel

theorem ends_find (dir : Path) (fingerprint : String) (j : Journal Disk) :
    Ends ((files dir).find fingerprint) j
      (Snapshot.read EscalationRecord.ofJson? (recordPath dir fingerprint) j.world) j.world := by
  refine Ends.after_world ?_
  exact Act.ends_ofExcept _

theorem escalate_files (dir : Path) (record : EscalationRecord) :
    (files dir).escalate record =
      Snapshot.write (recordPath dir record.fingerprint) record.toJson := by
  unfold files
  dsimp only

/-- A directory of records keeps them. -/
theorem keeps_of_eq_files {c : EscalationChannel Disk} {dir : Path} (hc : c = files dir) :
    c.Keeps (Archive dir) where
  register h := h.register
  find := by
    intro records j f h
    have hread := h.read_eq_ok_some_iff f
    -- With the finding in sight, hashing it would be tried at every step.
    generalize f.fingerprint = fingerprint at hread ⊢
    exact ⟨_, _, hc ▸ ends_find dir fingerprint j, h, hread⟩
  escalate := by
    intro records record j disk h hvalid hown hfresh hends
    refine h.written hvalid hown hfresh ?_
    rw [hc, escalate_files] at hends
    generalize recordPath dir record.fingerprint = path, record.toJson = value at hends ⊢
    exact Snapshot.written_of_ends h.proper hends

/-- In a larger world the channel keeps what it keeps. -/
theorem Keeps.onPart {σ τ : Type} {c : EscalationChannel τ}
    {kept : List EscalationRecord → τ → Prop} (h : c.Keeps kept) {get : σ → τ} {set : τ → σ → σ}
    (hget : ∀ t w, get (set t w) = t) :
    (c.onPart get set).Keeps fun records w => kept records (get w) where
  register hw := h.register hw
  find := by
    intro records j f hw
    obtain ⟨found, t, hfind, hkept, hfound⟩ := h.find (j := j.seen get) f hw
    exact ⟨found, set t j.world, Ends.onPart hfind, by rwa [hget], hfound⟩
  escalate := by
    intro records record j w hw hvalid hown hfresh hends
    obtain ⟨t, hwrite, rfl⟩ := Act.ends_of_onPart hends
    rw [hget]
    exact h.escalate (j := j.seen get) hw hvalid hown hfresh hwrite

end EscalationChannel

/-! ## Sequences of engines -/

namespace Fleet

variable {σ : Type}

/-- The directory that is missing keeps no record. -/
theorem archive_of_absent {dir : Path} {disk : Disk} (hdirect : dir.Direct disk.cwd)
    (hproper : disk.Proper) (habsent : disk.tree.node? (dir.placeFrom disk.cwd) = none) :
    Archive dir [] disk where
  direct := hdirect
  register := ⟨List.forall_mem_nil _, List.forall_mem_nil _, List.nodup_nil⟩
  proper := hproper
  absent _ := habsent
  reached h := absurd rfl h
  files := List.forall_mem_nil _
  only s n _ h := by
    rw [hproper.tree.node?_below (by simp [habsent]) (by simp)] at h
    cases h

/-- In every sequence of engines over one directory that was missing at first and has a direct path,
as long as all writes succeed and no plug-in touches the directory: every fix ends, one record at
most is written for a fingerprint, and its file stays as it is. After a fix that ends in an
escalation, fixes of its fingerprint repeat the result and apply no strategy, whichever engines do
them. The list of the directory has one record for every fingerprint that was escalated and no
other, each under the fingerprint of its finding, and the files of the directory are those of the
records. -/
theorem escalations_persist (fleet : Fleet σ) (get : σ → Disk) (set : Disk → σ → σ)
    (hget : ∀ disk w, get (set disk w) = disk) (dir : Path)
    (hchannel : ∀ i, (fleet i).escalation = (EscalationChannel.files dir).onPart get set)
    (hplugins : ∀ i, (fleet i).Does fun w w' => (get w).Undisturbed dir (get w'))
    (start : σ) (hdirect : dir.Direct (get start).cwd) (hproper : (get start).Proper)
    (habsent : (get start).tree.node? (dir.placeFrom (get start).cwd) = none)
    (orders : List FixOrder) (horders : ∀ o ∈ orders, o.Valid)
    (hwrites : ∀ ep ∈ fleet.story { outer := start } orders, ∀ call ∈ ep.calls,
      call.refused = false) :
    let story := fleet.story { outer := start } orders
    let disk := get (fleet.after { outer := start } orders).outer
    (∀ ep ∈ story, ∃ r, ep.outcome = .ok r) ∧
    (((story.flatMap (·.calls)).filterMap PluginCall.sent?).map (·.fingerprint)).Nodup ∧
    (story.Pairwise fun earlier later => ∀ (f : Finding) bytes,
      (get earlier.world.outer).tree.readBytes (get earlier.world.outer).cwd
        (recordPath dir f.fingerprint) = .ok bytes →
      (get later.world.outer).tree.readBytes (get later.world.outer).cwd
        (recordPath dir f.fingerprint) = .ok bytes) ∧
    (story.Pairwise fun earlier later => ∀ r, earlier.outcome = .ok r → r.state = .escalated →
      later.finding.fingerprint = earlier.finding.fingerprint →
      later.outcome = .ok r ∧ later.calls.filterMap PluginCall.applied? = []) ∧
    ∃ stored, EscalationChannel.stored dir disk = .ok stored ∧
      (stored.map (·.fingerprint)).Nodup ∧
      (∀ fingerprint, fingerprint ∈ stored.map (·.fingerprint) ↔
        ∃ ep ∈ story, ep.finding.fingerprint = fingerprint ∧
          ∃ r, ep.outcome = .ok r ∧ r.state = .escalated) ∧
      (∀ record ∈ stored, record.fingerprint = record.finding.fingerprint ∧
        Snapshot.read EscalationRecord.ofJson? (recordPath dir record.fingerprint) disk =
          .ok (some record)) ∧
      (disk.tree.documentsAt (dir.placeFrom disk.cwd)).Perm
        (stored.map fun record => record.fingerprint ++ ".json") := by
  intro story disk
  have hkeeps (i : Nat) : (fleet i).escalation.Keeps fun records w => Archive dir records (get w) :=
    hchannel i ▸ (EscalationChannel.keeps_of_eq_files rfl).onPart hget
  have hminds (i : Nat) (records : List EscalationRecord) :
      (fleet i).Minds fun w => Archive dir records (get w) :=
    (hplugins i).minds fun w w' hsame hw => hw.undisturbed hsame
  obtain ⟨records, htold, hlast⟩ := told_story hkeeps hminds
    ⟨archive_of_absent hdirect hproper habsent, fun _ => Engine.agrees_nil []⟩ horders hwrites
  have harchive : Archive dir records disk := hlast.kept
  have hregister := harchive.register
  have hsent : records = (story.flatMap (·.calls)).filterMap PluginCall.sent? := htold.sent
  refine ⟨htold.outcome, ?_, ?_, htold.pairwise_repeats Archive.register, ?_⟩
  · rw [← hsent]
    exact hregister.nodup
  · refine htold.pairwise_keeps.imp ?_
    rintro earlier later ⟨before, more, hmore, hbefore, hafter⟩ f bytes hread
    obtain ⟨r, hr, hsame⟩ := (hbefore.readBytes_eq_ok_iff f.isStem_fingerprint).1 hread
    exact (hafter.readBytes_eq_ok_iff f.isStem_fingerprint).2 ⟨r, hmore hr, hsame⟩
  · obtain ⟨stored, hstored, hperm⟩ := harchive.stored_perm
    have hnames := hperm.map (·.fingerprint)
    refine ⟨stored, hstored, hnames.nodup_iff.2 hregister.nodup, ?_, ?_, ?_⟩
    · intro fingerprint
      rw [hnames.mem_iff, List.mem_map, htold.mem_iff fingerprint]
      simp [story]
    · intro record hrecord
      have hrecord := hperm.subset hrecord
      exact ⟨hregister.own record hrecord, harchive.read_kept hrecord⟩
    · exact harchive.documentsAt_perm.trans (hperm.map _).symm

/-- One engine fixes the finding. It comes back, the other engine escalates it and is asked again. -/
theorem escalations_persist_returning :
    let f : Finding :=
      { validatorId := "deps", severity := .high, location := { resource := "Cargo.lock" }
        description := "outdated" }
    let bump : FixStrategy Disk :=
      { name := "bump", appliesTo := fun _ => true, apply := fun _ _ _ => return .inTime () }
    let deps (found : List Finding) : Validator Disk :=
      { id := "deps", run := fun _ _ => return .inTime found }
    let fleet : Fleet Disk := fun i =>
      { scope := default, strategies := [bump], validators := [deps (if i = 0 then [] else [f])]
        escalation :=
          (EscalationChannel.files ⟨"escalations"⟩).onPart (fun disk => disk) fun disk _ => disk }
    let orders : List FixOrder := [⟨0, f, ⟨0, 0⟩⟩, ⟨1, f, ⟨60, 0⟩⟩, ⟨1, f, ⟨120, 0⟩⟩]
    let story := fleet.story { outer := { tree := .empty } } orders
    (story.map fun ep => (ep.finding, ep.outcome.toOption.map (·.state))) =
        [(f, some .fixed), (f, some .escalated), (f, some .escalated)] ∧
      ∃ stored, EscalationChannel.stored ⟨"escalations"⟩
          (fleet.after { outer := { tree := .empty } } orders).outer = .ok stored ∧
        (stored.map (·.fingerprint)).Nodup ∧ f.fingerprint ∈ stored.map (·.fingerprint) := by
  intro f bump deps fleet orders story
  have hstory : (story.map fun ep => (ep.finding, ep.outcome.toOption.map (·.state))) =
        [(f, some .fixed), (f, some .escalated), (f, some .escalated)] ∧
      ∀ ep ∈ story, ∀ call ∈ ep.calls, call.refused = false := by
    decide +kernel
  have hdirect : Path.Direct [] ⟨"escalations"⟩ :=
    Path.Upless.direct (by decide +kernel) (by decide) (by decide +kernel)
  have hplugins (i : Nat) : (fleet i).Does (Disk.Undisturbed ⟨"escalations"⟩) := by
    refine ⟨?_, fun _ _ _ => Disk.undisturbed_refl .., ?_⟩
    · intro v hv j o w hends
      obtain rfl := List.mem_singleton.1 hv
      obtain ⟨-, rfl⟩ := hends.unique (Act.ends_pure _)
      exact Disk.undisturbed_refl ..
    · intro f prior w s hs j o w' hends
      have happlicable := (List.mem_filter.1 (List.mem_of_find?_eq_some hs)).1
      obtain rfl : s = bump := by simpa [fleet] using (List.mem_filter.1 happlicable).1
      obtain ⟨-, rfl⟩ := hends.unique (Act.ends_pure _)
      exact Disk.undisturbed_refl ..
  have horders : ∀ o ∈ orders, o.Valid := by
    refine List.forall_mem_cons.2 ⟨?_, List.forall_mem_cons.2 ⟨?_, List.forall_mem_singleton.2 ?_⟩⟩
    all_goals exact ⟨nofun, .inl (by decide), by decide +kernel⟩
  obtain ⟨-, -, -, -, stored, hstored, hnodup, hmem, -⟩ := escalations_persist fleet
    (fun disk => disk) (fun disk _ => disk) (fun _ _ => rfl) ⟨"escalations"⟩ (fun _ => rfl) hplugins
    { tree := .empty } hdirect ⟨FileTree.proper_empty, rfl⟩ (by decide +kernel) orders horders
    hstory.2
  obtain ⟨ep, hep, hsame⟩ : ∃ ep ∈ story,
      (ep.finding, ep.outcome.toOption.map (·.state)) = (f, some .escalated) :=
    List.mem_map.1 (hstory.1 ▸ .tail _ (.head _))
  obtain ⟨hfinding, hstate⟩ := Prod.mk.inj hsame
  obtain ⟨r, hr, hstate⟩ := Option.map_eq_some_iff.1 hstate
  refine ⟨hstory.1, stored, hstored, hnodup, ?_⟩
  refine (hmem _).2 ⟨ep, hep, congrArg _ hfinding, r, ?_, hstate⟩
  cases houtcome : ep.outcome with
  | error e =>
    rw [houtcome] at hr
    cases hr
  | ok r' =>
    rw [houtcome] at hr
    cases hr
    rfl

/-- Where the way to the directory leads through an entry of the directory itself that is called like
a document, the first record brings that entry about, and the list fails. -/
theorem own_entry_spoils_list :
    let dir : Path := ⟨"escalations/x.json/.."⟩
    let f : Finding :=
      { validatorId := "deps", severity := .high, location := { resource := "Cargo.lock" }
        description := "outdated" }
    let fleet : Fleet Disk := fun _ =>
      { scope := default
        escalation := (EscalationChannel.files dir).onPart (fun disk => disk) fun disk _ => disk }
    let start : FleetWorld Disk := { outer := { tree := .empty } }
    let orders : List FixOrder := [⟨0, f, ⟨0, 0⟩⟩]
    start.outer.Proper ∧ start.outer.tree.node? (dir.placeFrom start.outer.cwd) = none ∧
      (∀ ep ∈ fleet.story start orders, (∃ r ∈ ep.outcome.toOption, r.state = .escalated) ∧
        ∀ call ∈ ep.calls, call.refused = false) ∧
      ∀ stored, EscalationChannel.stored dir (fleet.after start orders).outer ≠ .ok stored := by
  intro dir f fleet start orders
  have hrun : (∀ ep ∈ fleet.story start orders, (∃ r ∈ ep.outcome.toOption, r.state = .escalated) ∧
        ∀ call ∈ ep.calls, call.refused = false) ∧
      (fleet.after start orders).outer.tree.node? ["escalations", "x.json"] = some .directory ∧
      (fleet.after start orders).outer.tree.find (fleet.after start orders).outer.cwd dir =
        .ok (["escalations"], .directory) ∧
      Snapshot.read EscalationRecord.ofJson? (recordPath dir "x") (fleet.after start orders).outer =
        .error (.io .isADirectory) := by
    decide +kernel
  obtain ⟨hwrites, hnode, hfind, hread⟩ := hrun
  refine ⟨⟨FileTree.proper_empty, rfl⟩, by decide +kernel, hwrites, fun stored hstored => ?_⟩
  obtain ⟨r, hr⟩ := EscalationChannel.exists_read_of_stored hstored hfind (s := "x.json") hnode
    (by decide +kernel) (show (Path.mk "x.json").stem? = some "x" by decide +kernel)
  rw [hread] at hr
  cases hr

end Fleet

end AgentGovernance
