-- SUMMARY: Which workspaces share state: a file of one is in the reach of the other only if they nest.
import AgentGovernance.Proofs.Audit.Reports
import AgentGovernance.Proofs.Remediation.Archive
import AgentGovernance.Settings.Place

/-!
# The state of two workspaces

By default the state of a workspace lies below the state directory of the user, under the path of the
workspace. The names of its own directories, `audits` and `escalations`, are names that a workspace
may have as well. Main statement: a file that the stores of one workspace write is where the stores
of another one look exactly if one of the two is called `audits` or `escalations` and stands in the
other.
-/

namespace AgentGovernance

open EscalationChannel (recordPath)

/-! ## Places -/

theorem Path.placeFrom_foldl_join (p : Path) {names : List String} (h : ∀ s ∈ names, IsName s)
    (cwd : Place) :
    (names.foldl join p).placeFrom cwd = p.placeFrom cwd ++ names := by
  unfold placeFrom
  rw [components_foldl_join p h, FileTree.follow_append, FileTree.follow_names]

theorem isName_fileName : Path.IsName SessionStore.fileName :=
  ⟨by decide, by decide, by decide, by decide⟩

theorem isName_audits : Path.IsName "audits" := ⟨by decide, by decide, by decide, by decide⟩

theorem isName_escalations : Path.IsName "escalations" :=
  ⟨by decide, by decide, by decide, by decide⟩

/-- A canonical path is made of names. -/
theorem Disk.canonicalize_eq_ok {disk : Disk} (hcwd : ∀ s ∈ disk.cwd, Path.IsName s) {p c : Path}
    (h : disk.canonicalize p = .ok c) :
    c = Path.ofNames c.names ∧ ∀ s ∈ c.names, Path.IsName s := by
  unfold canonicalize FileTree.canonicalize at h
  cases hfind : disk.tree.find disk.cwd p with
  | error e =>
    rw [hfind] at h
    cases h
  | ok found =>
    obtain ⟨place, node⟩ := found
    rw [hfind] at h
    cases h
    have hnames := FileTree.isName_of_find hcwd hfind
    rw [Path.names_ofNames hnames]
    exact ⟨rfl, hnames⟩

/-- The text is the fingerprint of a finding. -/
def IsFingerprint (s : String) : Prop := ∃ f : Finding, f.fingerprint = s

theorem IsFingerprint.isName {s : String} (h : IsFingerprint s) : Path.IsName (s ++ ".json") := by
  obtain ⟨f, hf⟩ := h
  exact hf ▸ f.isStem_fingerprint.isName

/-- The file of a session is not called like that of a record. -/
theorem IsFingerprint.ne_fileName {s : String} (h : IsFingerprint s) :
    s ++ ".json" ≠ SessionStore.fileName := by
  obtain ⟨f, hf⟩ := h
  have hlength := f.length_fingerprint
  rw [hf] at hlength
  intro heq
  have hlengths := congrArg (List.length ∘ String.toList) heq
  simp only [Function.comp_apply, String.toList_append, List.length_append, hlength] at hlengths
  exact absurd hlengths (by decide)

namespace StatePaths

/-! ## Files and reach of a workspace -/

/-- The files that the stores of a workspace write: the session, the reports of runs and the records
of findings. -/
def Writes (paths : StatePaths) (file : Path) : Prop :=
  file = paths.sessionFile ∨
  (∃ id, ({ dir := paths.audits } : ReportStore).reportPath id = .ok file) ∨
  ∃ fingerprint, IsFingerprint fingerprint ∧ file = recordPath paths.escalations fingerprint

/-- The places at which the stores of a workspace look: the session file, and whatever lies directly in
the directories of the reports and of the escalations. -/
def LooksAt (paths : StatePaths) (cwd place : Place) : Prop :=
  place = paths.sessionFile.placeFrom cwd ∨
  (∃ s, place = paths.audits.placeFrom cwd ++ [s]) ∨
  ∃ s, place = paths.escalations.placeFrom cwd ++ [s]

/-- The files of the workspace are those below a place. -/
structure Below (paths : StatePaths) (cwd place : Place) : Prop where
  session : paths.sessionFile.placeFrom cwd = place ++ [SessionStore.fileName]
  audits : paths.audits.placeFrom cwd = place ++ ["audits"]
  escalations : paths.escalations.placeFrom cwd = place ++ ["escalations"]

variable {paths paths' : StatePaths} {cwd place place' q : Place}

theorem below_of_resolve {descriptors : DescriptorSettings} {session : SessionSettings}
    {env : Environment} {workspace canonical : Path} {disk : Disk}
    (hcwd : ∀ s ∈ disk.cwd, Path.IsName s) (hsession : session.stateDir = none)
    (hcanonical : disk.canonicalize workspace = .ok canonical)
    (h : resolve descriptors session env workspace disk = .ok paths) :
    ∃ home, stateHome env = .ok home ∧
      paths.Below disk.cwd ((home.join "warden").placeFrom disk.cwd ++ canonical.names) := by
  unfold resolve SessionSettings.resolveStateDir workspaceStateDir belowForWorkspace at h
  rw [hsession, hcanonical] at h
  cases hhome : stateHome env with
  | error e =>
    rw [hhome] at h
    cases h
  | ok home =>
    rw [hhome] at h
    cases h
    obtain ⟨-, hnames⟩ := Disk.canonicalize_eq_ok hcwd hcanonical
    have hplace := Path.placeFrom_foldl_join (home.join "warden") hnames disk.cwd
    refine ⟨home, rfl, ?_, ?_, ?_⟩
    · rw [Path.placeFrom_join _ isName_fileName, hplace]
    · rw [Path.placeFrom_join _ isName_audits, hplace]
    · rw [Path.placeFrom_join _ isName_escalations, hplace]

/-- Where the files of a workspace are. -/
theorem Below.exists_writes_iff (h : paths.Below cwd place) :
    (∃ file, paths.Writes file ∧ file.placeFrom cwd = q) ↔
      q = place ++ [SessionStore.fileName] ∨
      (∃ id, isValidRunId id = true ∧ q = place ++ ["audits", id ++ ".json"]) ∨
      ∃ fingerprint, IsFingerprint fingerprint ∧
        q = place ++ ["escalations", fingerprint ++ ".json"] := by
  have hreport {id : String} (hid : isValidRunId id = true) :
      (paths.audits.join (id ++ ".json")).placeFrom cwd = place ++ ["audits", id ++ ".json"] := by
    rw [Path.placeFrom_join _ (isName_of_isValidRunId hid), h.audits, List.append_assoc]
    rfl
  have hrecord {fingerprint : String} (hf : IsFingerprint fingerprint) :
      (recordPath paths.escalations fingerprint).placeFrom cwd =
        place ++ ["escalations", fingerprint ++ ".json"] := by
    rw [recordPath, Path.placeFrom_join _ hf.isName, h.escalations,
      List.append_assoc]
    rfl
  constructor
  · rintro ⟨file, rfl | ⟨id, hid⟩ | ⟨fingerprint, hf, rfl⟩, rfl⟩
    · exact .inl h.session
    · unfold ReportStore.reportPath at hid
      split at hid
      · rename_i hvalid
        cases hid
        exact .inr (.inl ⟨id, hvalid, hreport hvalid⟩)
      · cases hid
    · exact .inr (.inr ⟨fingerprint, hf, hrecord hf⟩)
  · rintro (rfl | ⟨id, hvalid, rfl⟩ | ⟨fingerprint, hf, rfl⟩)
    · exact ⟨_, .inl rfl, h.session⟩
    · exact ⟨_, .inr (.inl ⟨id, if_pos hvalid⟩), hreport hvalid⟩
    · exact ⟨_, .inr (.inr ⟨fingerprint, hf, rfl⟩), hrecord hf⟩

/-- Two workspaces below different places: what the one writes is where the other one looks if the one
stands in the other under the name of one of its directories, or the other stands so in the one. -/
theorem Below.reaches_iff (h : paths.Below cwd place) (h' : paths'.Below cwd place')
    (hne : place ≠ place') :
    (∃ file, paths.Writes file ∧ paths'.LooksAt cwd (file.placeFrom cwd)) ↔
      place = place' ++ ["audits"] ∨ place = place' ++ ["escalations"] ∨
      place' = place ++ ["audits"] := by
  have hlooks (q : Place) : paths'.LooksAt cwd q ↔
      q = place' ++ [SessionStore.fileName] ∨
      (∃ s, q = place' ++ ["audits"] ++ [s]) ∨ ∃ s, q = place' ++ ["escalations"] ++ [s] := by
    unfold LooksAt
    rw [h'.session, h'.audits, h'.escalations]
  constructor
  · rintro ⟨file, hwrites, hlook⟩
    rw [hlooks] at hlook
    have hplace := h.exists_writes_iff.1 ⟨file, hwrites, rfl⟩
    generalize file.placeFrom cwd = q at hplace hlook
    rcases hplace with rfl | ⟨id, -, rfl⟩ | ⟨fingerprint, hf, rfl⟩
    · rcases hlook with hq | ⟨s, hq⟩ | ⟨s, hq⟩
      · exact absurd (List.append_inj_left' hq rfl) hne
      · exact .inl (List.append_inj_left' hq rfl)
      · exact .inr (.inl (List.append_inj_left' hq rfl))
    · rw [List.append_cons] at hlook
      rcases hlook with hq | ⟨s, hq⟩ | ⟨s, hq⟩
      · exact .inr (.inr (List.append_inj_left' hq rfl).symm)
      · have hq := List.append_inj_left' hq rfl
        exact absurd (List.append_inj_left' hq rfl) hne
      · have hq := List.append_inj_left' hq rfl
        exact absurd (List.append_inj_right' hq rfl) (by decide)
    · rw [List.append_cons] at hlook
      rcases hlook with hq | ⟨s, hq⟩ | ⟨s, hq⟩
      · have hname := List.append_inj_right' hq rfl
        exact absurd (List.singleton_inj.1 hname) hf.ne_fileName
      · have hq := List.append_inj_left' hq rfl
        exact absurd (List.append_inj_right' hq rfl) (by decide)
      · have hq := List.append_inj_left' hq rfl
        exact absurd (List.append_inj_left' hq rfl) hne
  · intro hnested
    -- The session of the one is called like a document, and a report may be called like a session.
    have hwritten : ∃ q, (∃ file, paths.Writes file ∧ file.placeFrom cwd = q) ∧
        paths'.LooksAt cwd q := by
      rcases hnested with rfl | rfl | rfl
      · exact ⟨_, h.exists_writes_iff.2 (.inl rfl), (hlooks _).2 (.inr (.inl ⟨_, rfl⟩))⟩
      · exact ⟨_, h.exists_writes_iff.2 (.inl rfl), (hlooks _).2 (.inr (.inr ⟨_, rfl⟩))⟩
      · refine ⟨_, h.exists_writes_iff.2 (.inr (.inl ⟨"session-state", by decide, rfl⟩)),
          (hlooks _).2 (.inl ?_)⟩
        rw [List.append_cons]
        rfl
    obtain ⟨q, ⟨file, hwrites, rfl⟩, hlook⟩ := hwritten
    exact ⟨file, hwrites, hlook⟩

/-- With the default location of their state, a file that the stores of one workspace write is where
the stores of another one look exactly if the one is called `audits` or `escalations` and stands in
the other, or the other is called `audits` and stands in the one. -/
theorem reaches_iff_nested {descriptors descriptors' : DescriptorSettings}
    {session session' : SessionSettings} {env : Environment} {disk : Disk}
    {workspace workspace' canonical canonical' : Path} (hcwd : ∀ s ∈ disk.cwd, Path.IsName s)
    (hsession : session.stateDir = none) (hsession' : session'.stateDir = none)
    (hcanonical : disk.canonicalize workspace = .ok canonical)
    (hcanonical' : disk.canonicalize workspace' = .ok canonical') (hne : canonical ≠ canonical')
    (hpaths : resolve descriptors session env workspace disk = .ok paths)
    (hpaths' : resolve descriptors' session' env workspace' disk = .ok paths') :
    (∃ file, paths.Writes file ∧ paths'.LooksAt disk.cwd (file.placeFrom disk.cwd)) ↔
      canonical.names = canonical'.names ++ ["audits"] ∨
      canonical.names = canonical'.names ++ ["escalations"] ∨
      canonical'.names = canonical.names ++ ["audits"] := by
  obtain ⟨home, hhome, hbelow⟩ := below_of_resolve hcwd hsession hcanonical hpaths
  obtain ⟨home', hhome', hbelow'⟩ := below_of_resolve hcwd hsession' hcanonical' hpaths'
  obtain rfl : home = home' := Except.ok.inj (hhome.symm.trans hhome')
  have hnames : canonical.names ≠ canonical'.names := by
    intro heq
    refine hne ?_
    rw [(Disk.canonicalize_eq_ok hcwd hcanonical).1, heq,
      ← (Disk.canonicalize_eq_ok hcwd hcanonical').1]
  rw [hbelow.reaches_iff hbelow' fun heq => hnames (List.append_cancel_left heq)]
  simp only [List.append_assoc, List.append_cancel_left_eq]

/-- A project and its tests do not nest like that, so they share nothing. -/
theorem reaches_iff_nested_tests :
    let disk : Disk := { tree := ⟨[(["ws"], .directory), (["ws", "tests"], .directory)]⟩ }
    ∃ paths paths', resolve {} {} [("HOME", "/home")] ⟨"/ws"⟩ disk = .ok paths ∧
      resolve {} {} [("HOME", "/home")] ⟨"/ws/tests"⟩ disk = .ok paths' ∧
      ¬∃ file, paths.Writes file ∧ paths'.LooksAt disk.cwd (file.placeFrom disk.cwd) := by
  intro disk
  have hcwd : ∀ s ∈ disk.cwd, Path.IsName s := by simp [disk]
  have hcanonical : disk.canonicalize ⟨"/ws"⟩ = .ok ⟨"/ws"⟩ := by decide +kernel
  have hcanonical' : disk.canonicalize ⟨"/ws/tests"⟩ = .ok ⟨"/ws/tests"⟩ := by decide +kernel
  have hpaths : resolve {} {} [("HOME", "/home")] ⟨"/ws"⟩ disk = .ok
      { descriptors := ⟨"/ws/agents"⟩
        stateDir := ⟨"/home/.local/state/warden/ws"⟩
        sessionFile := ⟨"/home/.local/state/warden/ws/session-state.json"⟩
        audits := ⟨"/home/.local/state/warden/ws/audits"⟩
        escalations := ⟨"/home/.local/state/warden/ws/escalations"⟩ } := by decide +kernel
  have hpaths' : resolve {} {} [("HOME", "/home")] ⟨"/ws/tests"⟩ disk = .ok
      { descriptors := ⟨"/ws/tests/agents"⟩
        stateDir := ⟨"/home/.local/state/warden/ws/tests"⟩
        sessionFile := ⟨"/home/.local/state/warden/ws/tests/session-state.json"⟩
        audits := ⟨"/home/.local/state/warden/ws/tests/audits"⟩
        escalations := ⟨"/home/.local/state/warden/ws/tests/escalations"⟩ } := by decide +kernel
  refine ⟨_, _, hpaths, hpaths', ?_⟩
  rw [reaches_iff_nested hcwd rfl rfl hcanonical hcanonical' (by decide) hpaths hpaths']
  decide +kernel

/-- A workspace `audits` keeps its session among the reports of the workspace around it. Once it has a
session, that is listed as a run of the workspace around it. -/
theorem session_among_reports :
    let disk : Disk := { tree := ⟨[(["ws"], .directory), (["ws", "audits"], .directory)]⟩ }
    let env : Environment := [("XDG_STATE_HOME", "/s")]
    disk.canonicalize ⟨"/ws"⟩ = .ok ⟨"/ws"⟩ ∧ disk.canonicalize ⟨"/ws/audits"⟩ = .ok ⟨"/ws/audits"⟩ ∧
    ∃ paths paths', resolve {} {} env ⟨"/ws"⟩ disk = .ok paths ∧
      resolve {} {} env ⟨"/ws/audits"⟩ disk = .ok paths' ∧
      paths'.Writes paths'.sessionFile ∧
      paths.LooksAt disk.cwd (paths'.sessionFile.placeFrom disk.cwd) ∧
      ({ dir := paths.audits } : ReportStore).list
        (((SessionStore.file paths'.sessionFile).save {}).run disk).world = .ok ["session-state"] := by
  refine ⟨by decide +kernel, by decide +kernel,
    { descriptors := ⟨"/ws/agents"⟩
      stateDir := ⟨"/s/warden/ws"⟩
      sessionFile := ⟨"/s/warden/ws/session-state.json"⟩
      audits := ⟨"/s/warden/ws/audits"⟩
      escalations := ⟨"/s/warden/ws/escalations"⟩ },
    { descriptors := ⟨"/ws/audits/agents"⟩
      stateDir := ⟨"/s/warden/ws/audits"⟩
      sessionFile := ⟨"/s/warden/ws/audits/session-state.json"⟩
      audits := ⟨"/s/warden/ws/audits/audits"⟩
      escalations := ⟨"/s/warden/ws/audits/escalations"⟩ },
    by decide +kernel, by decide +kernel, .inl rfl, .inr (.inl ⟨"session-state.json", ?_⟩), ?_⟩
  · decide +kernel
  · decide +kernel

end StatePaths

end AgentGovernance
