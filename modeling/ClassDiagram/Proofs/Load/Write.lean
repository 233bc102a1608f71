import ClassDiagram.Load.FileTree
import ClassDiagram.Proofs.Check.Outcome

/-!
# Writing a file

What a file tree holds after a file was written at the place that a path leads to: the file with its
new bytes, and everything else as before.

* `FileTree.Reachable` says that a way goes through directories only, as the way that a path finds
  does;
* `FileTree.entry?_write_of_ne` is the frame of a write, `FileTree.fileAt?_write` its effect.
-/

namespace ClassDiagram.FileTree

variable {t : FileTree} {p q : FilePath} {path : String} {bytes : List UInt8}

/-! ### Entries -/

section Entries

variable (entries : List (FilePath × FileEntry)) (bytes)

theorem find?_putFile_self (p : FilePath) :
    (putFile p bytes entries).find? (·.1 == p) = some (p, .file bytes) := by
  induction entries with
  | nil => simp [putFile]
  | cons e es ih =>
    rw [putFile]
    split_ifs with he
    · simp
    · simpa [he] using ih

theorem find?_putFile_of_ne (h : q ≠ p) :
    (putFile p bytes entries).find? (·.1 == q) = entries.find? (·.1 == q) := by
  induction entries with
  | nil => simp [putFile, h.symm]
  | cons e es ih =>
    rw [putFile]
    split_ifs with he
    · simp [he, h.symm]
    · simp [List.find?_cons, ih]

theorem any_putFile (p : FilePath) (f : FilePath → Bool) :
    ((putFile p bytes entries).any fun e => f e.1) = (f p || entries.any fun e => f e.1) := by
  induction entries with
  | nil => rfl
  | cons e es ih =>
    rw [putFile]
    split_ifs with he
    · simp [he]
    · simp [ih, Bool.or_left_comm]

end Entries

/-! ### Ways -/

/-- All that lies on the way to a place is a directory. -/
def Reachable (t : FileTree) (p : FilePath) : Prop :=
  ∀ q, q <+: p → q ≠ p → t.entry? q = some .directory

theorem entry?_of_prefix_workDir (h : q <+: t.workDir) : t.entry? q = some .directory := by
  rw [ entry?, if_pos (List.isPrefixOf_iff_prefix.2 h)]

theorem reachable_root : t.Reachable [] :=
  fun _ hq hne => absurd (List.prefix_nil.1 hq) hne

theorem reachable_workDir : t.Reachable t.workDir :=
  fun _ hq _ => entry?_of_prefix_workDir hq

/-- Nothing is entered but a directory. -/
theorem entry?_of_enter {name : String} (h : t.enter p name = .ok q) :
    t.entry? p = some .directory := by
  rw [enter] at h
  split at h
  · assumption
  · cases h
  · cases h

theorem Reachable.enter {name : String} (hp : t.Reachable p) (h : t.enter p name = .ok q) :
    t.Reachable q := by
  have hdirectory := entry?_of_enter h
  rw [FileTree.enter, hdirectory] at h
  simp only at h
  split_ifs at h <;> cases h
  · exact hp
  · intro r hr hne
    have hdrop := List.dropLast_prefix p
    refine hp r (hr.trans hdrop) ?_
    rintro rfl
    exact hne (hr.eq_of_length_le hdrop.length_le)
  · intro r hr hne
    rcases List.prefix_concat_iff.1 hr with rfl | hr
    · exact absurd rfl hne
    · by_cases hrp : r = p
      · rwa [hrp]
      · exact hp r hr hrp

theorem Reachable.foldlM {names : List String} (hp : t.Reachable p)
    (h : names.foldlM t.enter p = .ok q) : t.Reachable q := by
  induction names generalizing p with
  | nil =>
    cases h
    exact hp
  | cons name names ih =>
    rw [List.foldlM_cons] at h
    obtain ⟨r, hr, h⟩ := bind_eq_ok_iff.1 h
    exact ih (hp.enter hr) h

/-- A path that is followed to its end starts at the root or at the working directory. -/
theorem locate_eq_ok_iff :
    t.locate path = .ok p ↔ ('\x00' ∉ path.toList ∧ path ≠ "" ∧
      path.utf8ByteSize ≤ maxPathBytes) ∧
      (names path).foldlM t.enter (if isAbsolute path then [] else t.workDir) = .ok p := by
  rw [locate]
  generalize (if isAbsolute path then [] else t.workDir) = here
  split_ifs with hnull hempty hlong
  · exact ⟨nofun, fun h => absurd hnull h.1.1⟩
  · exact ⟨nofun, fun h => absurd hempty h.1.2.1⟩
  · exact ⟨nofun, fun h => absurd hlong (Nat.not_lt.2 h.1.2.2)⟩
  · exact (and_iff_right ⟨hnull, hempty, Nat.not_lt.1 hlong⟩).symm

theorem reachable_of_locate (h : t.locate path = .ok p) : t.Reachable p := by
  refine Reachable.foldlM ?_ (locate_eq_ok_iff.1 h).2
  split_ifs
  · exact reachable_root
  · exact reachable_workDir

/-! ### Places that can be written -/

/-- A path can be written if it leads somewhere, to no directory, and does not end with a slash. -/
theorem openForWriting_eq_ok_iff :
    t.openForWriting path = .ok p ↔
      t.locate path = .ok p ∧ endsWithSlash path = false ∧ t.entry? p ≠ some .directory := by
  rw [openForWriting, bind_eq_ok_iff]
  constructor
  · rintro ⟨q, hq, h⟩
    split_ifs at h with hopen
    cases h
    refine ⟨hq, Bool.eq_false_iff.2 fun hslash => hopen ?_, fun hp => hopen ?_⟩
    · rw [hslash, Bool.true_or]
    · rw [hp, Bool.or_true]
  · rintro ⟨hp, hslash, hne⟩
    refine ⟨p, hp, if_neg ?_⟩
    rw [hslash, Bool.false_or]
    split
    next hdirectory => exact absurd hdirectory hne
    next => exact Bool.false_ne_true

/-! ### Writing -/

/-- A write changes nothing but the file that is written. -/
theorem entry?_write_of_ne (hp : t.Reachable p) (h : q ≠ p) :
    entry? (t.write p bytes) q = t.entry? q := by
  by_cases hwork : q <+: t.workDir
  · rw [entry?_of_prefix_workDir hwork, entry?_of_prefix_workDir (t := t.write p bytes) hwork]
  · have hnot : ¬ q.isPrefixOf t.workDir := mt List.isPrefixOf_iff_prefix.1 hwork
    rw [ entry?, write, if_neg hnot, find?_putFile_of_ne _ _ h, any_putFile]
    by_cases hqp : q <+: p
    · -- What lies on the way to the file was a directory before.
      have hq := hp q hqp h
      rw [ entry?, if_neg hnot] at hq
      rw [ entry?, if_neg hnot, hq, List.isPrefixOf_iff_prefix.2 hqp]
      cases hfind : t.entries.find? (·.1 == q) with
      | some e => rwa [hfind] at hq
      | none => rfl
    · have hnotp : q.isPrefixOf p = false :=
        Bool.eq_false_iff.2 (mt List.isPrefixOf_iff_prefix.1 hqp)
      rw [ entry?, if_neg hnot, hnotp, Bool.false_or]

theorem entry?_write_self (h : t.entry? p ≠ some .directory) :
    entry? (t.write p bytes) p = some (.file bytes) := by
  have hwork : ¬ p.isPrefixOf t.workDir :=
    fun hp => h (entry?_of_prefix_workDir (List.isPrefixOf_iff_prefix.1 hp))
  rw [ entry?, write, if_neg hwork, find?_putFile_self]

/-- A path still leads to where it led, because a write changes no directory. -/
theorem locate_write (bytes : List UInt8) (hp : t.Reachable p) (hne : t.entry? p ≠ some .directory)
    (h : t.locate path = .ok q) : (t.write p bytes).locate path = .ok q := by
  obtain ⟨hpath, hfold⟩ := locate_eq_ok_iff.1 h
  refine locate_eq_ok_iff.2 ⟨hpath, ?_⟩
  have hwork : (t.write p bytes).workDir = t.workDir := rfl
  rw [hwork]
  generalize (if isAbsolute path then [] else t.workDir) = here at hfold ⊢
  generalize names path = ns at hfold
  induction ns generalizing here with
  | nil => exact hfold
  | cons name ns ih =>
    rw [List.foldlM_cons] at hfold ⊢
    obtain ⟨next, hnext, hfold⟩ := bind_eq_ok_iff.1 hfold
    have hdirectory := entry?_of_enter hnext
    have hentry : entry? (t.write p bytes) here = t.entry? here :=
      entry?_write_of_ne hp fun he => hne (he ▸ hdirectory)
    have henter : (t.write p bytes).enter here name = .ok next := by
      rwa [FileTree.enter, hentry, ← FileTree.enter]
    exact bind_eq_ok_iff.2 ⟨next, henter, ih next hfold⟩

/-- The file at the path is the one that was written. -/
theorem fileAt?_write (h : t.openForWriting path = .ok p) :
    (t.write p bytes).fileAt? path = some bytes := by
  obtain ⟨hlocate, hslash, hne⟩ := openForWriting_eq_ok_iff.1 h
  have hwritten := locate_write bytes (reachable_of_locate hlocate) hne hlocate
  rw [fileAt?, hwritten]
  simp only
  rw [entry?_write_self hne]
  simp [hslash]

end ClassDiagram.FileTree
