-- SUMMARY: Descriptor stores over whole runs: every index was built, and failed calls change nothing.
import AgentGovernance.Descriptor.Store
import AgentGovernance.Proofs.Act
import AgentGovernance.Proofs.Descriptor.Index
import AgentGovernance.Proofs.Descriptor.Written

/-!
# Descriptor stores over whole runs

A call brings descriptors and a directory to remember, or has none to bring. If their index can be
built, it takes the place of the old one; otherwise the store stays as it was. So every store that
is reached from the empty one holds an index that was built from written descriptors. Main
statement: what that means for the questions that a store answers, and for its next call.
-/

namespace AgentGovernance

open Act (Ends)

/-- A call that puts other descriptors into a store. -/
inductive StoreCall where
  | replace (descriptors : List AgentDescriptor)
  | load (disk : Disk) (directory : Path)
  | reload (disk : Disk)

/-- The descriptors below a directory, and the directory by its full name. -/
def DescriptorStore.findBelow (disk : Disk) (directory : Path) :
    Except GovernanceError (List AgentDescriptor × Option Path) :=
  if disk.isDirectory directory then
    match disk.canonicalize directory with
    | .ok root => .ok ((choices disk root.names).flatMap (·.taken), some root)
    | .error e => .error (.io e)
  else .error (.descriptorDirMissing directory)

namespace StoreCall

/-- The call as an act on the store. -/
def act : StoreCall → Act DescriptorStore LoadReport
  | .replace ds => DescriptorStore.replace ds
  | .load disk directory => DescriptorStore.load disk directory
  | .reload disk => DescriptorStore.reload disk

/-- The descriptors that a call brings, and the directory that is remembered from then on. Of the
store it takes nothing but the directory that is remembered so far. -/
def brings (remembered : Option Path) :
    StoreCall → Except GovernanceError (List AgentDescriptor × Option Path)
  | .replace ds => .ok (ds, remembered)
  | .load disk directory => DescriptorStore.findBelow disk directory
  | .reload disk => match remembered with
    | some directory => DescriptorStore.findBelow disk directory
    | none => .error (.configuration .neverLoaded)

/-- The store that a call makes: the index of the descriptors that it brings. -/
def makes (call : StoreCall) (s : DescriptorStore) : Except GovernanceError DescriptorStore :=
  (call.brings s.directory).bind fun (ds, directory) =>
    (DescriptorIndex.build ds).map fun index => { index, directory }

/-- Descriptors that are handed over were written. -/
def Written : StoreCall → Prop
  | .replace ds => ∀ d ∈ ds, d.Written
  | .load _ _ => True
  | .reload _ => True

end StoreCall

/-- The stores that calls lead to from the empty one. -/
inductive DescriptorStore.Reachable : DescriptorStore → Prop where
  | empty : Reachable {}
  | after {s : DescriptorStore} (call : StoreCall) :
      Reachable s → call.Written → Reachable (call.act.run s).world

/-! ## What a call does -/

namespace DescriptorStore

variable {act : Act DescriptorStore LoadReport} {disk : Disk} {directory : Path}
  {made : DescriptorStore → Except GovernanceError DescriptorStore}

/-- The act puts the store in place that is made of the one before, or fails for want of it and leaves
the one before as it is. -/
structure Puts (act : Act DescriptorStore LoadReport)
    (made : DescriptorStore → Except GovernanceError DescriptorStore) : Prop where
  ok : ∀ {j s}, made j.world = .ok s → ∃ report, Ends act j (.ok report) s
  error : ∀ {j e}, made j.world = .error e → Ends act j (.error e) j.world

/-- What changes nothing does not matter in front of an act. -/
theorem Puts.after {α : Type} {x : Act DescriptorStore α} {f : α → Act DescriptorStore LoadReport}
    {a : α} (hx : ∀ j, Ends x j (.ok a) j.world) (hf : Puts (f a) made) : Puts (x >>= f) made where
  ok := by
    intro j s hmade
    obtain ⟨k, hk, hgo⟩ := (hx j).bind_eq
    obtain ⟨report, hends⟩ := hf.ok (hk ▸ hmade)
    exact ⟨report, hends.of_eq (hgo f)⟩
  error := by
    intro j e hmade
    obtain ⟨k, hk, hgo⟩ := (hx j).bind_eq
    have hends := hf.error (hk ▸ hmade)
    exact hk ▸ hends.of_eq (hgo f)

theorem puts_fail (e : GovernanceError) : Puts (Act.fail e) fun _ => .error e where
  ok := nofun
  error := by
    rintro j _ ⟨⟩
    exact Act.ends_fail

/-- An act that puts a given store in place. -/
theorem puts_set {s : DescriptorStore} {f : Unit → Act DescriptorStore LoadReport}
    {report : LoadReport} (hf : ∀ j, Ends (f ()) j (.ok report) j.world) :
    Puts (Act.setWorld s >>= f) fun _ => .ok s where
  ok := by
    rintro j _ ⟨⟩
    refine ⟨report, Ends.bind Act.ends_setWorld ?_⟩
    intro k hk
    exact hk ▸ hf k
  error := nofun

/-- What an act does may depend on the store that it finds. -/
theorem puts_world {f : DescriptorStore → Act DescriptorStore LoadReport}
    (made : DescriptorStore → DescriptorStore → Except GovernanceError DescriptorStore)
    (hf : ∀ s, Puts (f s) (made s)) : Puts (Act.world >>= f) fun s => made s s where
  ok := by
    intro j s hmade
    obtain ⟨report, hends⟩ := (hf j.world).ok hmade
    exact ⟨report, hends.of_eq (Act.bind_of_ok rfl f)⟩
  error := by
    intro j e hmade
    exact ((hf j.world).error hmade).of_eq (Act.bind_of_ok rfl f)

theorem puts_replace (ds : List AgentDescriptor) :
    Puts (replace ds) (StoreCall.replace ds).makes := by
  change Puts (replace ds) fun s => (DescriptorIndex.build ds).map fun index => { s with index }
  refine Puts.after (fun _ => Act.ends_forM fun s _ => Act.ends_log (duplicateEvent s)) ?_
  cases DescriptorIndex.build ds with
  | error e => exact puts_fail e
  | ok index =>
    refine Puts.after (fun _ => Act.ends_ofExcept (.ok index)) ?_
    refine puts_world (fun s _ => .ok { s with index }) fun s => ?_
    exact puts_set fun _ => Act.ends_pure _

theorem puts_load (disk : Disk) (directory : Path) :
    Puts (load disk directory) (StoreCall.load disk directory).makes := by
  change Puts (load disk directory) fun _ => (findBelow disk directory).bind fun (ds, directory) =>
    (DescriptorIndex.build ds).map fun index => { index, directory }
  unfold load findBelow
  cases disk.isDirectory directory with
  | false => exact puts_fail _
  | true =>
    refine Puts.after (fun _ => Act.ends_pure _) ?_
    cases disk.canonicalize directory with
    | error e => exact puts_fail _
    | ok root =>
      refine Puts.after (fun _ => Act.ends_pure root) ?_
      refine Puts.after (fun _ => Act.ends_forM fun c _ => Act.ends_log_each (choiceEvents c)) ?_
      refine Puts.after (fun _ => Act.ends_forM fun s _ => Act.ends_log (duplicateEvent s)) ?_
      change Puts _ fun _ =>
        (DescriptorIndex.build ((choices disk root.names).flatMap (·.taken))).map fun index =>
          { index, directory := some root }
      cases DescriptorIndex.build ((choices disk root.names).flatMap (·.taken)) with
      | error e =>
        refine Puts.after (fun _ => Act.ends_log (abortedEvent root e)) ?_
        exact puts_fail e
      | ok index =>
        exact puts_set fun _ => Ends.bind (Act.ends_log _) fun _ hk => hk ▸ Act.ends_pure _

theorem puts_reload (disk : Disk) : Puts (reload disk) (StoreCall.reload disk).makes := by
  refine puts_world (fun s _ => (StoreCall.reload disk).makes s) fun s => ?_
  cases hdirectory : s.directory with
  | none =>
    simp only [StoreCall.makes, StoreCall.brings, hdirectory]
    exact puts_fail _
  | some directory =>
    simp only [StoreCall.makes, StoreCall.brings, hdirectory]
    exact puts_load disk directory

/-- Every call puts the store in place that it makes. -/
theorem puts_act (call : StoreCall) : Puts call.act call.makes := by
  cases call with
  | replace ds => exact puts_replace ds
  | load disk directory => exact puts_load disk directory
  | reload disk => exact puts_reload disk

/-- A call either makes a store, or fails and leaves the store as it is. -/
theorem run_cases (call : StoreCall) (s : DescriptorStore) :
    (∃ s' report, call.makes s = .ok s' ∧ (call.act.run s).outcome = .ok report ∧
      (call.act.run s).world = s') ∨
    ∃ e, call.makes s = .error e ∧ (call.act.run s).outcome = .error e ∧
      (call.act.run s).world = s := by
  cases hmakes : call.makes s with
  | ok s' =>
    obtain ⟨report, hends⟩ := (puts_act call).ok (j := { world := s }) hmakes
    exact .inl ⟨s', report, rfl, hends.run⟩
  | error e =>
    have hends := (puts_act call).error (j := { world := s }) hmakes
    exact .inr ⟨e, rfl, hends.run⟩

/-! ## What a call makes -/

variable {s s' : DescriptorStore} {call : StoreCall} {e : GovernanceError}

theorem makes_ok (h : call.makes s = .ok s') :
    ∃ ds, call.brings s.directory = .ok (ds, s'.directory) ∧
      DescriptorIndex.build ds = .ok s'.index := by
  unfold StoreCall.makes at h
  cases hbrings : call.brings s.directory with
  | error e =>
    rw [hbrings] at h
    cases h
  | ok found =>
    obtain ⟨ds, directory⟩ := found
    rw [hbrings] at h
    cases hbuild : DescriptorIndex.build ds with
    | error e => simp [Except.bind, hbuild, Except.map] at h
    | ok index =>
      simp only [Except.bind, hbuild, Except.map, Except.ok.injEq] at h
      subst h
      exact ⟨ds, rfl, hbuild⟩

theorem makes_error (h : call.makes s = .error e) :
    call.brings s.directory = .error e ∨
      ∃ ds directory, call.brings s.directory = .ok (ds, directory) ∧
        DescriptorIndex.Conflict ds e := by
  unfold StoreCall.makes at h
  cases hbrings : call.brings s.directory with
  | error e' =>
    rw [hbrings] at h
    cases h
    exact .inl rfl
  | ok found =>
    obtain ⟨ds, directory⟩ := found
    rw [hbrings] at h
    cases hbuild : DescriptorIndex.build ds with
    | error e' =>
      simp only [Except.bind, hbuild, Except.map, Except.error.injEq] at h
      subst h
      exact .inr ⟨ds, directory, rfl, DescriptorIndex.build_error hbuild⟩
    | ok index => simp [Except.bind, hbuild, Except.map] at h

theorem written_of_findBelow {ds : List AgentDescriptor} {root : Option Path}
    (h : findBelow disk directory = .ok (ds, root)) {d : AgentDescriptor} (hd : d ∈ ds) :
    d.Written := by
  unfold findBelow at h
  split at h
  · split at h
    · cases h
      obtain ⟨choice, hchoice, hd⟩ := List.mem_flatMap.1 hd
      obtain ⟨g, -, rfl⟩ := List.mem_map.1 hchoice
      obtain ⟨file, hread⟩ := CandidateGroup.read_of_mem_choose hd
      exact AgentDescriptor.written_of_read hread
    · cases h
  · cases h

/-- What a call brings was written. -/
theorem written_of_brings (hcall : call.Written) {remembered directory : Option Path}
    {ds : List AgentDescriptor} (h : call.brings remembered = .ok (ds, directory))
    {d : AgentDescriptor} (hd : d ∈ ds) : d.Written := by
  cases call with
  | replace ds =>
    cases h
    exact hcall d hd
  | load disk directory => exact written_of_findBelow h hd
  | reload disk =>
    cases remembered with
    | none => cases h
    | some directory => exact written_of_findBelow h hd

/-! ## Reachable stores -/

/-- The index of a store was built from written descriptors. -/
def Built (s : DescriptorStore) : Prop :=
  ∃ ds, (∀ d ∈ ds, d.Written) ∧ DescriptorIndex.build ds = .ok s.index

theorem built_run (hs : s.Built) (hcall : call.Written) : Built (call.act.run s).world := by
  rcases run_cases call s with ⟨s', report, hmakes, -, hworld⟩ | ⟨e, -, -, hworld⟩
  · rw [hworld]
    obtain ⟨ds, hbrings, hbuild⟩ := makes_ok hmakes
    exact ⟨ds, fun d hd => written_of_brings hcall hbrings hd, hbuild⟩
  · rwa [hworld]

theorem Reachable.built (hs : s.Reachable) : s.Built := by
  induction hs with
  | empty => exact ⟨[], nofun, rfl⟩
  | after call _ hcall ih => exact built_run ih hcall

theorem Reachable.wellFormed (hs : s.Reachable) : s.index.WellFormed := by
  obtain ⟨ds, -, hbuild⟩ := hs.built
  exact DescriptorIndex.build_wellFormed hbuild

theorem Reachable.trim_id (hs : s.Reachable) {d : AgentDescriptor} (hd : d ∈ s.all) :
    Text.trim d.id = d.id := by
  obtain ⟨ds, hwritten, hbuild⟩ := hs.built
  have hcounts := (DescriptorIndex.mem_descriptors_iff hbuild).1 hd
  exact (hwritten d (List.mem_of_find?_eq_some hcounts)).trim_id

/-- In every store that is reached from the empty one, each descriptor is found by its id, the ids go
up, and the map of exclusive tags says who claims what; no tag is claimed twice. A call that fails
leaves the store as it was; it had nothing to bring, or a conflict stands in what it brought. A call
that succeeds leaves the index of what it brought and nothing else. -/
theorem reachable_invariant (hs : s.Reachable) :
    (∀ d ∈ s.all, s.find? d.id = some d) ∧
    s.all.Pairwise (fun d e => d.id < e.id) ∧
    (∀ tag owner, s.index.exclusiveMap.lookup tag = some owner ↔
      ∃ d ∈ s.all, d.id = owner ∧ tag ∈ d.exclusive) ∧
    (∀ d ∈ s.all, ∀ e ∈ s.all, ∀ tag, tag ∈ d.exclusive → tag ∈ e.exclusive → d = e) ∧
    ∀ call : StoreCall,
      (∀ e, (call.act.run s).outcome = .error e → (call.act.run s).world = s ∧
        (call.brings s.directory = .error e ∨
          ∃ ds directory, call.brings s.directory = .ok (ds, directory) ∧
            DescriptorIndex.Conflict ds e)) ∧
      (∀ report, (call.act.run s).outcome = .ok report →
        ∃ ds, call.brings s.directory = .ok (ds, (call.act.run s).world.directory) ∧
          DescriptorIndex.build ds = .ok (call.act.run s).world.index ∧
          ∀ d, d ∈ (call.act.run s).world.all ↔ DescriptorIndex.Counts ds d) := by
  have hw := hs.wellFormed
  obtain ⟨ds, -, hbuild⟩ := hs.built
  refine ⟨?_, hw.sorted, ?_, ?_, ?_⟩
  · intro d hd
    exact hw.find?_eq_some hd (hs.trim_id hd).symm
  · intro tag owner
    rw [DescriptorIndex.lookup_exclusiveMap hbuild]
    exact hw.owner_iff tag owner
  · intro d hd e he tag hdtag hetag
    exact hw.eq_of_exclusive hd he hdtag hetag
  · intro call
    rcases run_cases call s with ⟨s', report, hmakes, hout, rfl⟩ | ⟨e, hmakes, hout, hworld⟩
    · refine ⟨fun e he => ?_, fun _ _ => ?_⟩
      · rw [hout] at he
        cases he
      · obtain ⟨ds, hbrings, hbuild⟩ := makes_ok hmakes
        exact ⟨ds, hbrings, hbuild, fun d => DescriptorIndex.mem_descriptors_iff hbuild⟩
    · refine ⟨fun e' he => ?_, fun report hok => ?_⟩
      · rw [hout] at he
        cases he
        exact ⟨hworld, makes_error hmakes⟩
      · rw [hout] at hok
        cases hok

/-- A list in which two agents claim one tag is refused, and the agents from before stay. -/
theorem reachable_invariant_conflict :
    let s := ((StoreCall.replace
      [.withExclusive (.new "ops") ["deploy"], .new " dev "]).act.run {}).world
    let refused : StoreCall :=
      .replace [.withExclusive (.new "qa") ["Sign-off"], .withExclusive (.new "lead") ["sign off"]]
    (refused.act.run s).outcome = .error (.descriptorConflict "sign_off" "lead" "qa") ∧
      (refused.act.run s).world = s ∧ s.find? "dev" = some (.new "dev") ∧
      s.index.exclusiveMap.lookup "deploy" = some "ops" := by
  intro s refused
  have hs : s.Reachable := by
    refine .after _ .empty ?_
    intro d hd
    rcases List.mem_cons.1 hd with rfl | hd
    · exact ⟨_, _, .withExclusive _ (.new "ops")⟩
    · obtain rfl := List.mem_singleton.1 hd
      exact ⟨_, _, .new " dev "⟩
  have hout : (refused.act.run s).outcome =
      .error (.descriptorConflict "sign_off" "lead" "qa") := rfl
  obtain ⟨hfind, -, howners, -, hcalls⟩ := reachable_invariant hs
  refine ⟨hout, ((hcalls refused).1 _ hout).1, hfind (.new "dev") ?_, ?_⟩
  · exact List.mem_cons_self
  · exact (howners "deploy" "ops").2
      ⟨.withExclusive (.new "ops") ["deploy"], List.mem_cons_of_mem _ List.mem_cons_self,
        by decide +kernel, by decide +kernel⟩

end DescriptorStore

end AgentGovernance
