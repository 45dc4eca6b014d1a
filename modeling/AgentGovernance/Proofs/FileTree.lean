-- SUMMARY: Trees in which everything stands in a directory, and what operations leave of them.
import AgentGovernance.FileTree
import AgentGovernance.Proofs.Path
import Mathlib.Data.List.Induction
import Mathlib.Data.List.Nodup

/-!
# Proper trees

In a proper tree everything stands in a directory, and no place has two entries. Where a path leads
depends on the directories of a tree only, so it leads to the same place as long as they last. The
operations that create directories add nothing but directories, on the way that the path takes, and
need not be done twice.
-/

namespace AgentGovernance.FileTree

variable {t u : FileTree} {p q : Place}

/-! ## Nodes -/

@[simp] theorem node?_nil (t : FileTree) : t.node? [] = some .directory := rfl

theorem node?_put (t : FileTree) (hp : p ≠ []) (n : Node) (q : Place) :
    (t.put p n).node? q = if q = p then some n else t.node? q := by
  split
  · rename_i h
    rw [h, node?_put_self t hp]
  · rename_i h
    exact node?_put_of_ne t h n

/-- Keys that are filtered out are not found, and all others are found as before. -/
theorem lookup_filter_key (keep : Place → Bool) (entries : List (Place × Node)) (q : Place) :
    (entries.filter fun e => keep e.1).lookup q = if keep q then entries.lookup q else none := by
  induction entries with
  | nil => simp
  | cons e es ih =>
    by_cases he : keep e.1
    · rw [List.filter_cons_of_pos (by exact he), List.lookup_cons, List.lookup_cons, ih]
      cases hq : q == e.1 with
      | true => simp [beq_iff_eq.1 hq, he]
      | false => rfl
    · rw [List.filter_cons_of_neg (by exact he), List.lookup_cons, ih]
      cases hq : q == e.1 with
      | true => simp [beq_iff_eq.1 hq, he]
      | false => rfl

theorem node?_prune (t : FileTree) (hp : p ≠ []) (q : Place) :
    (t.prune p).node? q = if p <+: q then none else t.node? q := by
  cases q with
  | nil => simp [hp]
  | cons s q =>
    have hlookup := lookup_filter_key (fun e => !p.isPrefixOf e) t.entries (s :: q)
    simp only [Bool.not_eq_true', ← Bool.not_eq_true, List.isPrefixOf_iff_prefix] at hlookup
    unfold node? prune
    simp only [List.isEmpty_cons, Bool.false_eq_true, if_false, hlookup]
    split <;> simp_all

theorem mem_entries_of_node? {n : Node} (h : t.node? q = some n) (hq : q ≠ []) :
    (q, n) ∈ t.entries := by
  rw [node?, if_neg (by simpa using hq)] at h
  obtain ⟨before, after, hentries, -⟩ := List.lookup_eq_some_iff.1 h
  simp [hentries]

/-- Everything stands in a directory, and no place has two entries. -/
structure Proper (t : FileTree) : Prop where
  nodup : (t.entries.map (·.1)).Nodup
  housed : ∀ {p s n}, t.node? (p ++ [s]) = some n → t.node? p = some .directory

theorem proper_empty : empty.Proper where
  nodup := List.nodup_nil
  housed := by
    intro p s n h
    simp [node?, empty] at h

theorem Proper.node?_of_mem_entries (h : t.Proper) {n : Node} (hmem : (q, n) ∈ t.entries)
    (hq : q ≠ []) : t.node? q = some n := by
  cases hnode : t.node? q with
  | none =>
    rw [node?, if_neg (by simpa using hq), List.lookup_eq_none_iff] at hnode
    exact absurd (hnode _ hmem) (by simp)
  | some m =>
    have heq := List.inj_on_of_nodup_map h.nodup (mem_entries_of_node? hnode hq) hmem rfl
    exact congrArg some (Prod.mk.inj heq).2

theorem Proper.node?_below (h : t.Proper) (hp : t.node? p ≠ some .directory) (hq : q ≠ []) :
    t.node? (p ++ q) = none := by
  induction q using List.reverseRecOn with
  | nil => exact absurd rfl hq
  | append_singleton q s ih =>
    cases hnode : t.node? (p ++ (q ++ [s])) with
    | none => rfl
    | some n =>
      rw [← List.append_assoc] at hnode
      have hdir := h.housed hnode
      by_cases hempty : q = []
      · rw [hempty, List.append_nil] at hdir
        exact absurd hdir hp
      · rw [ih hempty] at hdir
        cases hdir

theorem Proper.node?_dropLast (h : t.Proper) (hp : t.node? p = some .directory) :
    t.node? p.dropLast = some .directory := by
  rcases List.eq_nil_or_concat p with rfl | ⟨r, s, rfl⟩
  · rfl
  · rw [List.concat_eq_append] at hp ⊢
    rw [List.dropLast_concat]
    exact h.housed hp

theorem Proper.put (h : t.Proper) (hp : t.node? p = some .directory) {s : String} {n : Node}
    (hn : n = .directory ∨ t.node? (p ++ [s]) ≠ some .directory) : (t.put (p ++ [s]) n).Proper := by
  have hne : p ++ [s] ≠ [] := by simp
  constructor
  · rw [FileTree.put, List.map_cons, List.nodup_cons]
    refine ⟨by simp, ?_⟩
    exact h.nodup.sublist (List.filter_sublist.map _)
  · intro r x m hm
    rw [node?_put t hne] at hm ⊢
    split at hm
    · rename_i hlast
      obtain ⟨rfl, -⟩ := List.append_inj' hlast rfl
      rw [if_neg (by simp), hp]
    · have hr := h.housed hm
      split
      · rename_i hsame
        rw [hsame] at hr
        rcases hn with rfl | hn
        · rfl
        · exact absurd hr hn
      · exact hr

theorem Proper.prune (h : t.Proper) (hp : p ≠ []) : (t.prune p).Proper := by
  constructor
  · exact h.nodup.sublist (List.filter_sublist.map _)
  · intro r x m hm
    rw [node?_prune t hp] at hm ⊢
    split at hm
    · cases hm
    · rename_i hout
      rw [if_neg (fun hin => hout (hin.trans (List.prefix_append r [x])))]
      exact h.housed hm

/-! ## Names in a directory -/

theorem nameBelow_eq_some_iff {s : String} :
    (if q.length == p.length + 1 && p.isPrefixOf q then q.getLast? else none) = some s ↔
      q = p ++ [s] := by
  constructor
  · intro hq
    split at hq
    · rename_i hbelow
      simp only [Bool.and_eq_true, beq_iff_eq, List.isPrefixOf_iff_prefix] at hbelow
      obtain ⟨hlength, below, rfl⟩ := hbelow
      obtain ⟨s', rfl⟩ : ∃ s', below = [s'] := by
        simpa [List.length_eq_one_iff] using hlength
      obtain rfl : s' = s := by simpa using hq
      rfl
    · cases hq
  · rintro rfl
    simp

theorem mem_namesAt_iff {s : String} : s ∈ t.namesAt p ↔ ∃ n, t.node? (p ++ [s]) = some n := by
  simp only [namesAt, List.mem_mergeSort, List.mem_filterMap, nameBelow_eq_some_iff]
  constructor
  · rintro ⟨⟨q, n⟩, hmem, rfl⟩
    refine Option.isSome_iff_exists.1 ?_
    rw [node?, if_neg (by simp), Option.isSome_iff_ne_none, Ne, List.lookup_eq_none_iff]
    intro hnone
    simpa using hnone _ hmem
  · rintro ⟨n, hn⟩
    exact ⟨_, mem_entries_of_node? hn (by simp), rfl⟩

theorem Proper.nodup_namesAt (h : t.Proper) (p : Place) : (t.namesAt p).Nodup := by
  have hnodup : ((t.entries.map (·.1)).filterMap fun q =>
      if q.length == p.length + 1 && p.isPrefixOf q then q.getLast? else none).Nodup := by
    refine List.Nodup.filterMap ?_ h.nodup
    intro q q' s hq hq'
    exact (nameBelow_eq_some_iff.1 hq).trans (nameBelow_eq_some_iff.1 hq').symm
  rw [List.filterMap_map] at hnodup
  exact (List.mergeSort_perm _ _).nodup_iff.2 hnodup

/-! ## Walking -/

/-- Every directory of the one tree is a directory of the other. -/
def Keeps (t u : FileTree) : Prop := ∀ p, t.node? p = some .directory → u.node? p = some .directory

/-- Where components lead if nothing stands in the way. -/
def follow : Place → List Component → Place
  | p, [] => p
  | _, .root :: cs => follow [] cs
  | p, .here :: cs => follow p cs
  | p, .up :: cs => follow p.dropLast cs
  | p, .name s :: cs => follow (p ++ [s]) cs

/-- One step by name: the last one leads anywhere, all others to a directory. -/
theorem walk_name_eq_ok {s : String} {cs : List Component} :
    t.walk p (.name s :: cs) = .ok q ↔ s.utf8ByteSize ≤ nameLimit ∧
      (cs = [] ∧ p ++ [s] = q ∨
        cs ≠ [] ∧ t.node? (p ++ [s]) = some .directory ∧ t.walk (p ++ [s]) cs = .ok q) := by
  simp only [walk, List.isEmpty_iff]
  split
  · simp [Nat.not_le.2 ‹_›]
  · simp only [Nat.le_of_not_lt ‹_›, true_and]
    split
    · simp [‹cs = []›]
    · cases hnode : t.node? (p ++ [s]) with
      | none => simp [‹¬cs = []›]
      | some n => cases n <;> simp [‹¬cs = []›]

theorem walk_of_keeps {cs : List Component} (hk : t.Keeps u) (h : t.walk p cs = .ok q) :
    u.walk p cs = .ok q := by
  induction cs generalizing p with
  | nil => exact h
  | cons c cs ih =>
    cases c with
    | root => exact ih h
    | here => exact ih h
    | up => exact ih h
    | name s =>
      rw [walk_name_eq_ok] at h ⊢
      obtain ⟨hshort, hlast | ⟨hmore, hdir, hwalk⟩⟩ := h
      · exact ⟨hshort, .inl hlast⟩
      · exact ⟨hshort, .inr ⟨hmore, hk _ hdir, ih hwalk⟩⟩

theorem follow_of_walk {cs : List Component} (h : t.walk p cs = .ok q) : follow p cs = q := by
  induction cs generalizing p with
  | nil =>
    cases h
    rfl
  | cons c cs ih =>
    cases c with
    | root => exact ih h
    | here => exact ih h
    | up => exact ih h
    | name s =>
      obtain ⟨-, ⟨rfl, hlast⟩ | ⟨-, -, hwalk⟩⟩ := walk_name_eq_ok.1 h
      · exact hlast
      · exact ih hwalk

theorem follow_append (p : Place) (cs ds : List Component) :
    follow p (cs ++ ds) = follow (follow p cs) ds := by
  induction cs generalizing p with
  | nil => rfl
  | cons c cs ih => cases c <;> exact ih _

theorem follow_names (p : Place) (names : List String) :
    follow p (names.map .name) = p ++ names := by
  induction names generalizing p with
  | nil => exact (List.append_nil p).symm
  | cons s names ih =>
    rw [List.map_cons, follow, ih, List.append_assoc]
    rfl

/-- The names of a place come from where one started or from the way. -/
theorem mem_follow {s : String} {cs : List Component} (h : s ∈ follow p cs) :
    s ∈ p ∨ .name s ∈ cs := by
  induction cs generalizing p with
  | nil => exact .inl h
  | cons c cs ih =>
    rcases c with _ | _ | _ | t
    · exact .inr (List.mem_cons_of_mem _ ((ih h).resolve_left List.not_mem_nil))
    · exact (ih h).imp id (List.mem_cons_of_mem _)
    · exact (ih h).imp (fun hp => List.dropLast_subset p hp) (List.mem_cons_of_mem _)
    · rcases ih h with hstart | hway
      · rcases List.mem_append.1 hstart with hp | hs
        · exact .inl hp
        · exact .inr (List.mem_singleton.1 hs ▸ List.mem_cons_self)
      · exact .inr (List.mem_cons_of_mem _ hway)

/-- A walk to a name in a directory is a walk to the directory. -/
theorem walk_of_concat {cs : List Component} {s : String}
    (h : t.walk p (cs ++ [.name s]) = .ok q) :
    t.walk p cs = .ok (follow p cs) ∧ q = follow p cs ++ [s] := by
  refine ⟨?_, by rw [← follow_of_walk h, follow_append]; rfl⟩
  induction cs generalizing p with
  | nil => rfl
  | cons c cs ih =>
    cases c with
    | root => exact ih h
    | here => exact ih h
    | up => exact ih h
    | name s' =>
      rw [List.cons_append, walk_name_eq_ok] at h
      obtain ⟨hshort, ⟨hnil, -⟩ | ⟨-, hdir, hwalk⟩⟩ := h
      · simp at hnil
      · rw [walk_name_eq_ok]
        by_cases hcs : cs = []
        · exact ⟨hshort, .inl ⟨hcs, by rw [hcs]; rfl⟩⟩
        · exact ⟨hshort, .inr ⟨hcs, hdir, ih hwalk⟩⟩

theorem walk_concat {cs : List Component} {s : String} (h : t.walk p cs = .ok q)
    (hq : t.node? q = some .directory) (hs : s.utf8ByteSize ≤ nameLimit) :
    t.walk p (cs ++ [.name s]) = .ok (q ++ [s]) := by
  induction cs generalizing p with
  | nil =>
    cases h
    exact walk_name_eq_ok.2 ⟨hs, .inl ⟨rfl, rfl⟩⟩
  | cons c cs ih =>
    cases c with
    | root => exact ih h
    | here => exact ih h
    | up => exact ih h
    | name s' =>
      rw [List.cons_append, walk_name_eq_ok]
      obtain ⟨hshort, ⟨rfl, rfl⟩ | ⟨hmore, hdir, hwalk⟩⟩ := walk_name_eq_ok.1 h
      · exact ⟨hshort, .inr ⟨by simp, hq, ih rfl⟩⟩
      · exact ⟨hshort, .inr ⟨by simp, hdir, ih hwalk⟩⟩

/-- A path leads to a directory or into one. -/
theorem Proper.walk (ht : t.Proper) {cs : List Component} (hp : t.node? p = some .directory)
    (h : t.walk p cs = .ok q) :
    t.node? q = some .directory ∨ ∃ r s, q = r ++ [s] ∧ t.node? r = some .directory := by
  induction cs generalizing p with
  | nil =>
    cases h
    exact .inl hp
  | cons c cs ih =>
    cases c with
    | root => exact ih rfl h
    | here => exact ih hp h
    | up => exact ih (ht.node?_dropLast hp) h
    | name s =>
      obtain ⟨-, ⟨-, rfl⟩ | ⟨-, hdir, hwalk⟩⟩ := walk_name_eq_ok.1 h
      · exact .inr ⟨p, s, rfl, hp⟩
      · exact ih hdir hwalk

/-- The names on a way that can be walked are short enough. -/
theorem short_of_walk {cs : List Component} (h : t.walk p cs = .ok q) {s : String}
    (hs : .name s ∈ cs) : s.utf8ByteSize ≤ nameLimit := by
  induction cs generalizing p with
  | nil => cases hs
  | cons c cs ih =>
    cases c with
    | root => exact ih h (by simpa using hs)
    | here => exact ih h (by simpa using hs)
    | up => exact ih h (by simpa using hs)
    | name s' =>
      obtain ⟨hshort, hlast⟩ := walk_name_eq_ok.1 h
      rcases List.mem_cons.1 hs with heq | hs
      · cases heq
        exact hshort
      · obtain ⟨rfl, -⟩ | ⟨-, -, hwalk⟩ := hlast
        · cases hs
        · exact ih hwalk hs

/-- In a proper tree names lead to whatever stands below a place. -/
theorem Proper.walk_names (ht : t.Proper) {names : List String} {n : Node}
    (hnode : t.node? (p ++ names) = some n) (hshort : ∀ s ∈ names, s.utf8ByteSize ≤ nameLimit) :
    t.walk p (names.map .name) = .ok (p ++ names) := by
  induction names generalizing p with
  | nil => rw [List.append_nil]; rfl
  | cons s names ih =>
    obtain ⟨hs, hnames⟩ := List.forall_mem_cons.1 hshort
    rw [List.append_cons] at hnode
    rw [List.map_cons, walk_name_eq_ok]
    refine ⟨hs, ?_⟩
    by_cases hnil : names = []
    · exact .inl ⟨by simp [hnil], by simp [hnil]⟩
    · have hdir : t.node? (p ++ [s]) = some .directory := by
        by_contra hno
        rw [ht.node?_below hno hnil] at hnode
        cases hnode
      refine .inr ⟨by simpa using hnil, hdir, ?_⟩
      rw [ih hnode hnames, List.append_assoc]
      rfl

/-! ## Paths -/

/-- An operation can take the path at all: it is not empty and holds no zero character. -/
def Usable (path : Path) : Prop :=
  path.isEmpty = false ∧ path.text.toList.contains (Char.ofNat 0) = false

section Paths

variable {cwd : Place} {path : Path}

private theorem bind_eq_ok {α β : Type} {x : Except FileError α} {f : α → Except FileError β}
    {b : β} : (x >>= f) = .ok b ↔ ∃ a, x = .ok a ∧ f a = .ok b := by
  cases x with
  | error e => simp [bind, Except.bind]
  | ok a => simp [bind, Except.bind]

theorem locate_of_usable (h : Usable path) :
    t.locate cwd path = t.walk cwd path.components >>= fun place =>
      if wantsDirectory path then
        match t.node? place with
        | some (.file _) => .error .notADirectory
        | _ => .ok place
      else .ok place := by
  unfold locate
  rewrite [h.1, if_neg Bool.false_ne_true, h.2, if_neg Bool.false_ne_true]
  rfl

theorem usable_of_locate (h : t.locate cwd path = .ok q) : Usable path := by
  unfold locate at h
  split at h
  · cases h
  split at h
  · cases h
  · exact ⟨Bool.eq_false_iff.2 ‹_›, Bool.eq_false_iff.2 ‹_›⟩

theorem locate_eq_ok :
    t.locate cwd path = .ok q ↔ Usable path ∧ t.walk cwd path.components = .ok q ∧
      (wantsDirectory path = true → ∀ bytes, t.node? q ≠ some (.file bytes)) := by
  constructor
  · intro h
    have husable := usable_of_locate h
    rw [locate_of_usable husable, bind_eq_ok] at h
    obtain ⟨r, hwalk, hr⟩ := h
    split at hr
    · split at hr
      · cases hr
      · rename_i hnode
        cases hr
        exact ⟨husable, hwalk, fun _ bytes hfile => hnode bytes hfile⟩
    · rename_i hwants
      cases hr
      exact ⟨husable, hwalk, fun h => absurd h hwants⟩
  · rintro ⟨husable, hwalk, hnode⟩
    rw [locate_of_usable husable, bind_eq_ok]
    refine ⟨q, hwalk, ?_⟩
    split
    · split
      · exact absurd ‹_› (hnode ‹_› _)
      · rfl
    · rfl

theorem find_eq_ok {n : Node} :
    t.find cwd path = .ok (q, n) ↔ t.locate cwd path = .ok q ∧ t.node? q = some n := by
  unfold find
  rw [bind_eq_ok]
  constructor
  · rintro ⟨r, hr, hnode⟩
    split at hnode
    · cases hnode
      exact ⟨hr, ‹_›⟩
    · cases hnode
  · rintro ⟨hq, hnode⟩
    exact ⟨q, hq, by rw [hnode]⟩

/-- A place that a path leads to is made of names. -/
theorem isName_of_find {n : Node} (hcwd : ∀ s ∈ cwd, Path.IsName s)
    (h : t.find cwd path = .ok (q, n)) : ∀ s ∈ q, Path.IsName s := by
  obtain ⟨-, hwalk, -⟩ := locate_eq_ok.1 (find_eq_ok.1 h).1
  intro s hs
  rw [← follow_of_walk hwalk] at hs
  rcases mem_follow hs with hstart | hway
  · exact hcwd s hstart
  · exact Path.isName_of_mem_components hway

/-- A path leads to a directory as long as the directories last. -/
theorem find_directory_of_keeps (hk : t.Keeps u) (h : t.find cwd path = .ok (q, .directory)) :
    u.find cwd path = .ok (q, .directory) := by
  rw [find_eq_ok, locate_eq_ok] at h ⊢
  obtain ⟨⟨husable, hwalk, -⟩, hnode⟩ := h
  have hdir := hk q hnode
  exact ⟨⟨husable, walk_of_keeps hk hwalk, by simp [hdir]⟩, hdir⟩

theorem locateFile_eq_ok :
    t.locateFile cwd path = .ok q ↔ Usable path ∧ t.walk cwd path.components = .ok q ∧
      wantsDirectory path = false ∧ t.node? q ≠ some .directory := by
  unfold locateFile
  simp only [bind_eq_ok, locate_eq_ok]
  constructor
  · rintro ⟨r, ⟨husable, hwalk, hwants⟩, hr⟩
    split at hr
    · cases hr
    · rename_i hfile
      cases hr
      refine ⟨husable, hwalk, Bool.eq_false_iff.2 fun h => hwants h _ hfile, by simp [hfile]⟩
    · rename_i hnone
      split at hr
      · cases hr
      · cases hr
        exact ⟨husable, hwalk, Bool.eq_false_iff.2 ‹_›, by simp [hnone]⟩
  · rintro ⟨husable, hwalk, hwants, hnode⟩
    refine ⟨q, ⟨husable, hwalk, by simp [hwants]⟩, ?_⟩
    split
    · contradiction
    · rfl
    · simp [hwants]

/-- A file is read where a path leads to it. -/
theorem readBytes_of_file {bytes : ByteArray} (husable : Usable path)
    (hwalk : t.walk cwd path.components = .ok q) (hwants : wantsDirectory path = false)
    (hnode : t.node? q = some (.file bytes)) : t.readBytes cwd path = .ok bytes := by
  have hfind : t.find cwd path = .ok (q, .file bytes) :=
    find_eq_ok.2 ⟨locate_eq_ok.2 ⟨husable, hwalk, by simp [hwants]⟩, hnode⟩
  unfold readBytes
  rw [hfind]
  rfl

theorem node?_of_readBytes {bytes : ByteArray} (h : t.readBytes cwd path = .ok bytes) :
    t.node? (follow cwd path.components) = some (.file bytes) := by
  unfold readBytes at h
  obtain ⟨⟨place, n⟩, hfind, hbytes⟩ := bind_eq_ok.1 h
  obtain ⟨hlocate, hnode⟩ := find_eq_ok.1 hfind
  obtain ⟨-, hwalk, -⟩ := locate_eq_ok.1 hlocate
  rw [follow_of_walk hwalk, hnode]
  cases n with
  | file content =>
    cases hbytes
    rfl
  | directory => cases hbytes

/-- What is read is the file at the end of a way that can be walked. -/
theorem readBytes_eq_ok {bytes : ByteArray} :
    t.readBytes cwd path = .ok bytes ↔ Usable path ∧
      t.walk cwd path.components = .ok (follow cwd path.components) ∧
      wantsDirectory path = false ∧
      t.node? (follow cwd path.components) = some (.file bytes) := by
  constructor
  · intro h
    have hnode := node?_of_readBytes h
    unfold readBytes at h
    cases hfind : t.find cwd path with
    | error e =>
      rw [hfind] at h
      cases h
    | ok found =>
      obtain ⟨place, n⟩ := found
      obtain ⟨hlocate, hn⟩ := find_eq_ok.1 hfind
      obtain ⟨husable, hwalk, hwants⟩ := locate_eq_ok.1 hlocate
      obtain rfl := follow_of_walk hwalk
      refine ⟨husable, hwalk, Bool.eq_false_iff.2 fun hd => hwants hd bytes hnode, hnode⟩
  · rintro ⟨husable, hwalk, hwants, hnode⟩
    exact readBytes_of_file husable hwalk hwants hnode

/-- In a proper tree a path that never leads upwards leads to whatever stands at its end. -/
theorem Proper.walk_upless (ht : t.Proper) (hpath : path.Upless) {n : Node}
    (hnode : t.node? (follow cwd path.components) = some n)
    (hshort : ∀ s, .name s ∈ path.components → s.utf8ByteSize ≤ nameLimit) :
    t.walk cwd path.components = .ok (follow cwd path.components) := by
  obtain ⟨start, names, hstart, hcomponents⟩ := hpath.components
  have hnames : ∀ s ∈ names, s.utf8ByteSize ≤ nameLimit := by
    intro s hs
    refine hshort s ?_
    rw [hcomponents]
    exact List.mem_append_right _ (List.mem_map_of_mem hs)
  rw [hcomponents, follow_append, follow_names] at hnode
  rw [hcomponents, follow_append, follow_names]
  rcases hstart with rfl | rfl | rfl
  · exact ht.walk_names hnode hnames
  · exact ht.walk_names hnode hnames
  · exact ht.walk_names hnode hnames

/-- The way along a path that never leads upwards comes to its end only once, unless it ends where it
starts. -/
theorem follow_ne_of_upless {cs : List Component} (hpath : path.Upless)
    (hcwd : follow cwd path.components ≠ cwd) (hcs : cs <+: path.components.dropLast) :
    follow cwd cs ≠ follow cwd path.components := by
  obtain ⟨start, names, hstart, hcomponents⟩ := hpath.components
  by_cases hnil : cs = []
  · subst hnil
    exact hcwd.symm
  · have hpos := List.length_pos_of_ne_nil hnil
    obtain ⟨rest, hrest⟩ := hcs.trans (List.dropLast_prefix _)
    have hmore : rest ≠ [] := by
      rintro rfl
      have hle := hcs.length_le
      rw [← hrest, List.length_dropLast, List.append_nil] at hle
      omega
    -- Behind the first component there are names only.
    have hnames : rest = (names.drop (cs.length - start.length)).map .name := by
      have hdrop : rest = (cs ++ rest).drop cs.length := by simp
      have hlength : start.length ≤ cs.length := by
        rcases hstart with rfl | rfl | rfl <;> simp only [List.length_nil, List.length_singleton] <;>
          omega
      rw [hdrop, hrest, hcomponents, List.drop_append, List.drop_eq_nil_of_le hlength,
        List.nil_append, List.map_drop]
    rw [← hrest, follow_append, hnames, follow_names]
    simpa [hnames] using hmore

end Paths

/-! ## Creating directories -/

/-- Only directories were added, at places on the way from a place along components. -/
def GrownAlong (p : Place) (cs : List Component) (t u : FileTree) : Prop :=
  ∀ q, u.node? q = t.node? q ∨
    t.node? q = none ∧ u.node? q = some .directory ∧ ∃ ds, ds <+: cs ∧ q = follow p ds

theorem GrownAlong.keeps {cs : List Component} (h : GrownAlong p cs t u) : t.Keeps u := by
  intro q hq
  rcases h q with hsame | ⟨hnone, -⟩
  · rw [hsame, hq]
  · rw [hnone] at hq
    cases hq

theorem grownAlong_refl (p : Place) (cs : List Component) (t : FileTree) : GrownAlong p cs t t :=
  fun _ => .inl rfl

theorem GrownAlong.cons {r : Place} {c : Component} {cs : List Component}
    (hc : ∀ ds, follow p (c :: ds) = follow r ds) (h : GrownAlong r cs t u) :
    GrownAlong p (c :: cs) t u := by
  intro q
  rcases h q with hsame | ⟨hnone, hdir, ds, hds, rfl⟩
  · exact .inl hsame
  · exact .inr ⟨hnone, hdir, c :: ds, List.cons_prefix_cons.2 ⟨rfl, hds⟩, (hc ds).symm⟩

theorem grownAlong_createAlong (t : FileTree) (p : Place) (cs : List Component) :
    GrownAlong p cs t (t.createAlong p cs).1 := by
  induction cs generalizing t p with
  | nil => exact grownAlong_refl p [] t
  | cons c cs ih =>
    cases c with
    | root => exact (ih t []).cons fun _ => rfl
    | here => exact (ih t p).cons fun _ => rfl
    | up => exact (ih t p.dropLast).cons fun _ => rfl
    | name s =>
      simp only [createAlong]
      split
      · exact grownAlong_refl _ _ t
      split
      · exact (ih t (p ++ [s])).cons fun _ => rfl
      · exact grownAlong_refl _ _ t
      · rename_i hnone
        intro q
        have hput := node?_put t (p := p ++ [s]) (by simp) .directory q
        have hrest := (ih (t.put (p ++ [s]) .directory) (p ++ [s])).cons (p := p) (c := .name s)
          (fun _ => rfl) q
        rw [hput] at hrest
        split at hrest
        · rename_i hq
          rcases hrest with hdir | ⟨hnone', -⟩
          · exact .inr ⟨hq ▸ hnone, hdir, [.name s], by simp, hq⟩
          · cases hnone'
        · exact hrest

theorem Proper.createAlong (h : t.Proper) (hp : t.node? p = some .directory) (cs : List Component) :
    (t.createAlong p cs).1.Proper := by
  induction cs generalizing t p with
  | nil => exact h
  | cons c cs ih =>
    cases c with
    | root => exact ih h rfl
    | here => exact ih h hp
    | up => exact ih h (h.node?_dropLast hp)
    | name s =>
      simp only [FileTree.createAlong]
      split
      · exact h
      split
      · exact ih h ‹_›
      · exact h
      · exact ih (h.put hp (.inl rfl)) (node?_put_self t (by simp) _)

/-- Directories that were created need not be created again. -/
theorem createAlong_again {v : FileTree} {cs : List Component}
    (h : t.createAlong p cs = (u, .ok ())) (hk : u.Keeps v) :
    v.createAlong p cs = (v, .ok ()) := by
  induction cs generalizing t p with
  | nil => rfl
  | cons c cs ih =>
    cases c with
    | root => exact ih h
    | here => exact ih h
    | up => exact ih h
    | name s =>
      simp only [FileTree.createAlong] at h ⊢
      have hlasts {r : FileTree} (hr : r.createAlong (p ++ [s]) cs = (u, .ok ()))
          (hdir : r.node? (p ++ [s]) = some .directory) : v.node? (p ++ [s]) = some .directory := by
        have hu := (grownAlong_createAlong r (p ++ [s]) cs).keeps _ hdir
        rw [hr] at hu
        exact hk _ hu
      split at h
      · cases h
      · rename_i hshort
        rw [if_neg hshort]
        split at h
        · rw [hlasts h ‹_›]
          exact ih h
        · cases h
        · rw [hlasts h (node?_put_self t (by simp) _)]
          exact ih h

/-- Directories that can be walked to need not be created. -/
theorem createAlong_of_walk {cs : List Component} (h : t.walk p cs = .ok q)
    (hq : t.node? q = some .directory) : t.createAlong p cs = (t, .ok ()) := by
  induction cs generalizing p with
  | nil => rfl
  | cons c cs ih =>
    cases c with
    | root => exact ih h
    | here => exact ih h
    | up => exact ih h
    | name s =>
      obtain ⟨hshort, hend | ⟨-, hnext, hrest⟩⟩ := walk_name_eq_ok.1 h
      · obtain ⟨rfl, rfl⟩ := hend
        simp only [createAlong, if_neg (Nat.not_lt_of_le hshort), hq]
      · simp only [createAlong, if_neg (Nat.not_lt_of_le hshort), hnext]
        exact ih hrest

/-- Directories that were created can be walked to. -/
theorem walk_of_createAlong {cs : List Component} (ht : t.Proper)
    (hp : t.node? p = some .directory) (h : t.createAlong p cs = (u, .ok ())) :
    u.walk p cs = .ok (follow p cs) ∧ u.node? (follow p cs) = some .directory := by
  induction cs generalizing t p with
  | nil =>
    cases h
    exact ⟨rfl, hp⟩
  | cons c cs ih =>
    cases c with
    | root => exact ih ht rfl h
    | here => exact ih ht hp h
    | up => exact ih ht (ht.node?_dropLast hp) h
    | name s =>
      simp only [createAlong] at h
      split at h
      · cases h
      · rename_i hshort
        obtain ⟨v, hv, hnext, hrest⟩ : ∃ v : FileTree, v.Proper ∧
            v.node? (p ++ [s]) = some .directory ∧ v.createAlong (p ++ [s]) cs = (u, .ok ()) := by
          split at h
          · exact ⟨t, ht, ‹_›, h⟩
          · cases h
          · exact ⟨_, ht.put hp (.inl rfl), node?_put_self t (by simp) _, h⟩
        obtain ⟨hwalk, hdir⟩ := ih hv hnext hrest
        refine ⟨walk_name_eq_ok.2 ⟨Nat.le_of_not_lt hshort, ?_⟩, hdir⟩
        by_cases hnil : cs = []
        · subst hnil
          exact .inl ⟨rfl, rfl⟩
        · have hkept := (grownAlong_createAlong v (p ++ [s]) cs).keeps _ hnext
          rw [hrest] at hkept
          exact .inr ⟨hnil, hkept, hwalk⟩

end AgentGovernance.FileTree
