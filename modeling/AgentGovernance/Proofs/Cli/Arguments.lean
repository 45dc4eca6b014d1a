-- SUMMARY: Path options of an accepted command line have values that are not empty.
import AgentGovernance.Cli.Invocation

/-!
# Paths on the command line

Reading a command line checks the value of an option when the next argument has been recognized, or
at the end. So a value may be pending while others are read, but nothing gets into the matches
unchecked. Main statement: in the matches of a command line that is accepted, no option that takes a
path has an empty value.
-/

namespace AgentGovernance.Cli

/-! ## Readings that succeed -/

/-- Whatever the reading succeeds with satisfies the condition. -/
def Accepts {α : Type} (P : α → Prop) (x : Except UsageError α) : Prop := ∀ a, x = .ok a → P a

section

variable {α β : Type} {P : α → Prop} {Q : β → Prop}

theorem accepts_ok {a : α} (h : P a) : Accepts P (.ok a) := by
  rintro _ ⟨⟩
  exact h

theorem accepts_error (e : UsageError) : Accepts P (.error e) := nofun

theorem Accepts.bind {x : Except UsageError α} {f : α → Except UsageError β} (hx : Accepts P x)
    (hf : ∀ a, P a → Accepts Q (f a)) : Accepts Q (x >>= f) := by
  cases x with
  | ok a => exact hf a (hx a rfl)
  | error e => exact accepts_error e

end

/-! ## Path options -/

/-- For the command and those below it, an option of the name takes a path. -/
inductive TakesPath (name : String) : CommandSyntax → Prop where
  | intro {c : CommandSyntax} (options : ∀ o ∈ c.options, o.name = name → o.kind = .path)
      (children : ∀ d ∈ c.children, TakesPath name d) : TakesPath name c

/-- No value of the option is empty. -/
def Matches.Filled (name : String) (m : Matches) : Prop :=
  ∀ v ∈ m.values, v.1 = name → v.2.isEmpty = false

/-- No value of the option that has been recorded is empty, and if the option is pending it is known
to take a path. -/
structure Progress.Sound (name : String) (p : Progress) : Prop where
  found : p.found.Filled name
  pending : ∀ o value, p.pending = some (o, value) → o.name = name → o.kind = .path

variable {name : String} {c : CommandSyntax} {p : Progress} {o : OptionSyntax}

theorem TakesPath.option? (hc : TakesPath name c) {n : String} (h : c.option? n = some o) :
    o.name = name → o.kind = .path := by
  obtain ⟨hoptions, -⟩ := hc
  exact hoptions o (List.mem_of_find?_eq_some h)

theorem TakesPath.child? (hc : TakesPath name c) {n : String} {d : CommandSyntax}
    (h : c.child? n = some d) : TakesPath name d := by
  obtain ⟨-, hchildren⟩ := hc
  exact hchildren d (List.mem_of_find?_eq_some h)

theorem Progress.sound_start (name : String) : Progress.Sound name {} := ⟨nofun, nofun⟩

theorem Matches.Filled.append {outer inner : Matches} (ho : outer.Filled name)
    (hi : inner.Filled name) : (outer.append inner).Filled name := by
  intro v hv
  rcases List.mem_append.1 hv with h | h
  · exact ho v h
  · exact hi v h

/-! ## Steps -/

namespace Progress

theorem accepts_setValue (hp : p.Sound name) (ho : o.name = name → o.kind = .path)
    (value : String) : Accepts (Sound name) (p.setValue o value) := by
  unfold setValue
  split
  · exact accepts_error _
  split
  · exact accepts_error _
  case isFalse hfilled =>
    refine accepts_ok ⟨?_, hp.pending⟩
    intro v hv hname
    rcases List.mem_append.1 hv with hearlier | hnew
    · exact hp.found v hearlier hname
    · obtain rfl := List.mem_singleton.1 hnew
      simpa [ho hname] using hfilled

theorem accepts_setFlag (hp : p.Sound name) : Accepts (Sound name) (p.setFlag o) := by
  unfold setFlag
  split
  · exact accepts_error _
  · exact accepts_ok ⟨hp.found, hp.pending⟩

theorem accepts_resolve (hp : p.Sound name) : Accepts (Sound name) p.resolve := by
  unfold resolve
  split
  · exact accepts_ok hp
  · exact accepts_error _
  case h_3 o value hpending =>
    have hnone : ({ p with pending := none } : Progress).Sound name := ⟨hp.found, nofun⟩
    exact accepts_setValue hnone (hp.pending o _ hpending) value

theorem accepts_addPositional (hp : p.Sound name) (value : String) :
    Accepts (Sound name) (p.addPositional value) :=
  (accepts_resolve hp).bind fun _ hq => accepts_ok ⟨hq.found, hq.pending⟩

end Progress

theorem accepts_readLong (hc : TakesPath name c) (hp : p.Sound name) (n : String)
    (attached : Option String) : Accepts (Progress.Sound name) (readLong c n attached p) := by
  have hresolve := Progress.accepts_resolve hp
  unfold readLong
  split
  · split
    · exact accepts_error _
    · exact hresolve.bind fun _ _ => accepts_error _
  split
  · exact accepts_error _
  case h_2 o ho =>
    have hpath := hc.option? ho
    split
    · split
      · exact accepts_error _
      · exact hresolve.bind fun _ hq => Progress.accepts_setFlag hq
    split
    · exact hresolve.bind fun _ hq => Progress.accepts_setValue hq hpath _
    · refine hresolve.bind fun q hq => accepts_ok ⟨hq.found, ?_⟩
      rintro _ _ ⟨⟩
      exact hpath

theorem accepts_readShort (letter : Char) (p : Progress) :
    Accepts (Progress.Sound name) (readShort letter p) := by
  unfold readShort
  split
  · cases p.resolve <;> exact accepts_error _
  · exact accepts_error _

theorem accepts_readArgument (hc : TakesPath name c) (hp : p.Sound name) (arg : String) :
    Accepts (Progress.Sound name) (readArgument c arg p) := by
  have hpositional : Accepts (Progress.Sound name)
      (if p.found.positionals.length < c.positionals then p.addPositional arg
        else .error (strayArgument c arg p.trailing)) := by
    split
    · exact Progress.accepts_addPositional hp arg
    · exact accepts_error _
  simp only [readArgument]
  generalize (if p.found.positionals.length < c.positionals then p.addPositional arg
    else .error (strayArgument c arg p.trailing)) = positional at hpositional ⊢
  split
  · exact hpositional
  split
  · exact accepts_ok ⟨hp.found, hp.pending⟩
  split
  · exact accepts_readLong hc hp _ _
  split
  · exact accepts_readShort _ p
  split
  case h_1 o hpending =>
    refine accepts_ok ⟨hp.found, ?_⟩
    rintro _ _ ⟨⟩
    exact hp.pending o none hpending
  · exact hpositional

theorem accepts_conclude (hp : p.Sound name) {inner : Option Matches}
    (hinner : ∀ m ∈ inner, m.Filled name) :
    Accepts (Matches.Filled name) (conclude c p inner) := by
  refine (Progress.accepts_resolve hp).bind fun q hq => ?_
  split
  case h_1 m => exact accepts_ok (hq.found.append (hinner m rfl))
  split
  · exact accepts_error _
  split
  · exact accepts_error _
  · exact accepts_ok hq.found

/-! ## Command lines -/

/-- A path option of a command line that is read has no empty value. -/
theorem accepts_read (hc : TakesPath name c) (hp : p.Sound name) (args : List String) :
    Accepts (Matches.Filled name) (read c args p) := by
  induction args generalizing c p with
  | nil =>
    rw [read]
    exact accepts_conclude hp nofun
  | cons arg rest ih =>
    rw [read]
    split
    case h_1 d hbelow =>
      have hd : TakesPath name d := hc.child? (by split at hbelow; cases hbelow; exact hbelow)
      refine (ih hd (Progress.sound_start name)).bind fun inner hinner => ?_
      refine accepts_conclude hp ?_
      rintro _ ⟨⟩
      exact hinner
    split
    · exact accepts_error _
    · exact (accepts_readArgument hc hp arg).bind fun q hq => ih hc hq

theorem takesPath_programSyntax : TakesPath "log-file" programSyntax := by
  refine .intro (by decide) fun d hd => ?_
  simp only [programSyntax, CommandSyntax.children, List.mem_cons, List.not_mem_nil, or_false] at hd
  rcases hd with rfl | rfl | rfl | rfl | rfl | rfl | rfl | rfl | rfl | rfl | rfl | rfl | rfl
  · refine .intro (by decide) fun d hd => ?_
    simp only [CommandSyntax.children, List.mem_cons, List.not_mem_nil, or_false] at hd
    rcases hd with rfl | rfl | rfl <;> exact .intro (by decide) nofun
  all_goals exact .intro (by decide) nofun

/-- A log file that is named on the command line has a path that is not empty. -/
theorem logFile_filled_of_parse {args : List String} {i : Invocation}
    (h : Invocation.parse args = .ok i) : ∀ file ∈ i.logging.file, file.isEmpty = false := by
  have hread := accepts_read takesPath_programSyntax (Progress.sound_start _) args
  have hparse : Accepts (fun i => ∀ file ∈ i.logging.file, file.isEmpty = false)
      (Invocation.parse args) := by
    refine hread.bind fun m hm => ?_
    split
    · exact accepts_error _
    · refine accepts_ok fun file hfile => ?_
      obtain ⟨value, hvalue, rfl⟩ := Option.map_eq_some_iff.1 hfile
      obtain ⟨before, behind, hvalues, -⟩ := List.lookup_eq_some_iff.1 hvalue
      exact hm ("log-file", value) (hvalues ▸ by simp) rfl
  exact hparse i h

end AgentGovernance.Cli
