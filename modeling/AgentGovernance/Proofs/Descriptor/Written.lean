-- SUMMARY: Descriptors as they are made: by the builders, from manifests, and from files.
import AgentGovernance.Descriptor.Directory
import AgentGovernance.Proofs.Tag

/-!
# Written descriptors

A descriptor is made by the builders or from a manifest, and its lists hold the tags of what was
written. Its id is trimmed, whichever way it was made.
-/

namespace AgentGovernance

/-- The ways to make a descriptor, each with the spellings that its deny list and its exclusive list
were given in. -/
inductive AgentDescriptor.WrittenAs :
    AgentDescriptor → (cannot exclusive : List String) → Prop where
  | new (id : String) : WrittenAs (.new id) [] []
  | withName {d cannot exclusive} (name : String) :
      WrittenAs d cannot exclusive → WrittenAs (d.withName name) cannot exclusive
  | withCan {d cannot exclusive} (raw : List String) :
      WrittenAs d cannot exclusive → WrittenAs (d.withCan raw) cannot exclusive
  | withCannot {d cannot exclusive} (raw : List String) :
      WrittenAs d cannot exclusive → WrittenAs (d.withCannot raw) raw exclusive
  | withExclusive {d cannot exclusive} (raw : List String) :
      WrittenAs d cannot exclusive → WrittenAs (d.withExclusive raw) cannot raw
  | withReportsTo {d cannot exclusive} (id : String) :
      WrittenAs d cannot exclusive → WrittenAs (d.withReportsTo id) cannot exclusive
  | withCollaborators {d cannot exclusive} (ids : List String) :
      WrittenAs d cannot exclusive → WrittenAs (d.withCollaborators ids) cannot exclusive
  | withSource {d cannot exclusive} (path : Path) :
      WrittenAs d cannot exclusive → WrittenAs (d.withSource path) cannot exclusive
  | manifest {d} (m : Manifest) (source : Path) :
      m.toDescriptor source = .ok d → WrittenAs d m.cannot (m.scopeExclusive ++ m.exclusive)

/-- The descriptor was made in one of the ways there are. -/
def AgentDescriptor.Written (d : AgentDescriptor) : Prop :=
  ∃ cannot exclusive, d.WrittenAs cannot exclusive

/-! ## Lists and ids -/

theorem Manifest.fields_of_toDescriptor {m : Manifest} {source : Path} {d : AgentDescriptor}
    (h : m.toDescriptor source = .ok d) :
    d.source = source ∧ Text.trim d.id = d.id ∧ d.cannot = Tag.ofTexts m.cannot ∧
      d.exclusive = Tag.ofTexts (m.scopeExclusive ++ m.exclusive) := by
  simp only [Manifest.toDescriptor] at h
  split at h
  · cases h
  · rename_i id hid
    split at h
    · cases h
    · cases h
      obtain ⟨raw, -, hraw⟩ := Option.bind_eq_some_iff.1 hid
      exact ⟨rfl, Text.trim_of_trimmed? hraw, rfl, rfl⟩

/-- The lists of a descriptor hold the tags of what was written. -/
theorem AgentDescriptor.WrittenAs.lists {d : AgentDescriptor} {cannot exclusive : List String}
    (h : d.WrittenAs cannot exclusive) :
    d.cannot = Tag.ofTexts cannot ∧ d.exclusive = Tag.ofTexts exclusive := by
  induction h with
  | new id => exact ⟨rfl, rfl⟩
  | withName name _ ih => exact ih
  | withCan raw _ ih => exact ih
  | withCannot raw _ ih => exact ⟨rfl, ih.2⟩
  | withExclusive raw _ ih => exact ⟨ih.1, rfl⟩
  | withReportsTo id _ ih => exact ih
  | withCollaborators ids _ ih => exact ih
  | withSource path _ ih => exact ih
  | manifest m source h => exact (Manifest.fields_of_toDescriptor h).2.2

theorem AgentDescriptor.Written.trim_id {d : AgentDescriptor} (h : d.Written) :
    Text.trim d.id = d.id := by
  obtain ⟨cannot, exclusive, h⟩ := h
  induction h with
  | new id => exact Text.trim_trim id
  | manifest m source h => exact (Manifest.fields_of_toDescriptor h).2.1
  | withName _ _ ih | withCan _ _ ih | withCannot _ _ ih | withExclusive _ _ ih
  | withReportsTo _ _ ih | withCollaborators _ _ ih | withSource _ _ ih => exact ih

/-! ## Files -/

theorem AgentDescriptor.exists_manifest_of_read {disk : Disk} {path : Path} {d : AgentDescriptor}
    (h : AgentDescriptor.read disk path = .ok d) : ∃ m : Manifest, m.toDescriptor path = .ok d := by
  unfold AgentDescriptor.read at h
  split at h
  · cases h
  · simp only [AgentDescriptor.parse] at h
    split at h
    · cases h
    · split at h
      · cases h
      · rename_i m _
        exact ⟨m, h⟩

/-- What a file is read as was written into it. -/
theorem AgentDescriptor.written_of_read {disk : Disk} {path : Path} {d : AgentDescriptor}
    (h : AgentDescriptor.read disk path = .ok d) : d.Written := by
  obtain ⟨m, hm⟩ := AgentDescriptor.exists_manifest_of_read h
  exact ⟨_, _, .manifest m path hm⟩

theorem AgentDescriptor.source_of_read {disk : Disk} {path : Path} {d : AgentDescriptor}
    (h : AgentDescriptor.read disk path = .ok d) : d.source = path := by
  obtain ⟨m, hm⟩ := AgentDescriptor.exists_manifest_of_read h
  exact (Manifest.fields_of_toDescriptor hm).1

namespace CandidateGroup

variable {read : Path → Except DescriptorFault AgentDescriptor} {d : AgentDescriptor}

theorem read_of_mem_firstReadable {all files : List Path}
    (h : d ∈ (firstReadable read all files).taken) : ∃ file, read file = .ok d := by
  induction files with
  | nil => cases h
  | cons file files ih =>
    simp only [firstReadable] at h
    split at h
    · rename_i hread
      obtain rfl := List.mem_singleton.1 h
      exact ⟨file, hread⟩
    · exact ih h

theorem read_of_mem_everyFile {files : List Path} (h : d ∈ (everyFile read files).taken) :
    ∃ file, read file = .ok d := by
  induction files with
  | nil => cases h
  | cons file files ih =>
    simp only [everyFile] at h
    split at h
    · rename_i hread
      rcases List.mem_cons.1 h with rfl | h
      · exact ⟨file, hread⟩
      · exact ih h
    · exact ih h

/-- What a group yields was read from a file. -/
theorem read_of_mem_choose {root : Place} {g : CandidateGroup} (h : d ∈ (choose read root g).taken) :
    ∃ file, read file = .ok d := by
  unfold choose at h
  split at h
  · exact read_of_mem_everyFile h
  · exact read_of_mem_firstReadable h

end CandidateGroup

end AgentGovernance
