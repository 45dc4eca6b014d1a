-- SUMMARY: Fingerprints are 32 hexadecimal digits, so they can name files.
import AgentGovernance.Audit.ReportStore
import AgentGovernance.Proofs.Path

/-!
# Fingerprints as file names

A fingerprint is 32 hexadecimal digits. With the extension of documents it is the name of a file, and
the stem of that name is the fingerprint.
-/

namespace AgentGovernance

/-! ## Stems of documents -/

/-- With the extension of documents every text without slashes is a name. -/
theorem Path.isName_document {s : String} (h : '/' ∉ s.toList) : IsName (s ++ ".json") where
  noSlash := by
    simp only [String.toList_append, List.mem_append, not_or]
    exact ⟨h, by decide⟩
  ne_empty := by simp
  ne_dot := by
    intro heq
    have hlist := congrArg (List.length ∘ String.toList) heq
    simp at hlist
  ne_dots := by
    intro heq
    have hlist := congrArg (List.length ∘ String.toList) heq
    simp at hlist

/-- With the extension of documents the text is a name that a directory takes. -/
structure IsStem (s : String) : Prop where
  noSlash : '/' ∉ s.toList
  noNul : Char.ofNat 0 ∉ s.toList
  ne_empty : s ≠ ""
  short : (s ++ ".json").utf8ByteSize ≤ FileTree.nameLimit

namespace IsStem

variable {s : String} (h : IsStem s)
include h

theorem isName : Path.IsName (s ++ ".json") := Path.isName_document h.noSlash

theorem fileName? : (Path.mk (s ++ ".json")).fileName? = some (s ++ ".json") := by
  rw [Path.fileName?, h.isName.components]
  rfl

theorem splitExtension : Path.splitExtension (s ++ ".json") = (s, some "json") := by
  have hne : s.toList.reverse ≠ [] := by simpa using h.ne_empty
  have hreversed : (s ++ ".json").toList.reverse =
      ['n', 'o', 's', 'j'] ++ '.' :: s.toList.reverse := by
    simp
  unfold Path.splitExtension
  simp only [hreversed]
  have hlast : (['n', 'o', 's', 'j'] ++ '.' :: s.toList.reverse).takeWhile (· != '.') =
      ['n', 'o', 's', 'j'] := by
    simp
  have hrest : (['n', 'o', 's', 'j'] ++ '.' :: s.toList.reverse).dropWhile (· != '.') =
      '.' :: s.toList.reverse := by
    simp
  rw [hlast, hrest]
  split
  · contradiction
  · simp_all
  · rename_i heq
    cases heq
    simp

theorem stem? : (Path.mk (s ++ ".json")).stem? = some s := by
  rw [Path.stem?, h.fileName?, Option.map_some, h.splitExtension]

theorem extension? : (Path.mk (s ++ ".json")).extension? = some "json" := by
  rw [Path.extension?, h.fileName?, Option.bind_some, h.splitExtension]

end IsStem

/-! ## Hexadecimal digits -/

namespace Blake3

theorem length_hash (bytes : List UInt8) : (hash bytes).length = 32 := by
  simp [hash, compress, wordBytes, List.map_const', Function.comp_def]

theorem hexDigit_spec : ∀ n < 16,
    Nat.digitChar n ≠ '/' ∧ Nat.digitChar n ≠ Char.ofNat 0 ∧ (Nat.digitChar n).utf8Size = 1 := by
  decide

theorem mem_hexDigits {bytes : List UInt8} {c : Char} (h : c ∈ (hexDigits bytes).toList) :
    ∃ n < 16, c = Nat.digitChar n := by
  simp only [hexDigits, String.toList_ofList, List.mem_flatMap, List.mem_cons,
    List.not_mem_nil, or_false] at h
  obtain ⟨b, -, rfl | rfl⟩ := h
  · exact ⟨_, by have := b.toNat_lt; omega, rfl⟩
  · exact ⟨_, Nat.mod_lt _ (by decide), rfl⟩

theorem length_hexDigits (bytes : List UInt8) :
    (hexDigits bytes).toList.length = 2 * bytes.length := by
  simp [hexDigits, List.map_const', Nat.mul_comm]

end Blake3

theorem utf8ByteSize_ofList_of_short {cs : List Char} (h : ∀ c ∈ cs, c.utf8Size = 1) :
    (String.ofList cs).utf8ByteSize = cs.length := by
  induction cs with
  | nil => rfl
  | cons c cs ih =>
    obtain ⟨hc, hcs⟩ := List.forall_mem_cons.1 h
    have hcons : String.ofList (c :: cs) = String.singleton c ++ String.ofList cs := by
      apply String.toList_injective
      simp
    rw [hcons, String.utf8ByteSize_append, ih hcs]
    simp [hc, Nat.add_comm]

theorem Finding.length_fingerprint (f : Finding) : f.fingerprint.toList.length = 32 := by
  rw [fingerprint, Blake3.length_hexDigits, List.length_take, Blake3.length_hash]
  rfl

theorem Finding.isStem_fingerprint (f : Finding) : IsStem f.fingerprint where
  noSlash := by
    intro h
    obtain ⟨n, hn, hc⟩ := Blake3.mem_hexDigits h
    exact (Blake3.hexDigit_spec n hn).1 hc.symm
  noNul := by
    intro h
    obtain ⟨n, hn, hc⟩ := Blake3.mem_hexDigits h
    exact (Blake3.hexDigit_spec n hn).2.1 hc.symm
  ne_empty := by
    intro h
    have hlength := f.length_fingerprint
    simp [h] at hlength
  short := by
    have hsize : f.fingerprint.utf8ByteSize = 32 := by
      rw [← f.length_fingerprint, ← utf8ByteSize_ofList_of_short, String.ofList_toList]
      intro c hc
      obtain ⟨n, hn, rfl⟩ := Blake3.mem_hexDigits hc
      exact (Blake3.hexDigit_spec n hn).2.2
    rw [String.utf8ByteSize_append, hsize]
    decide

end AgentGovernance
