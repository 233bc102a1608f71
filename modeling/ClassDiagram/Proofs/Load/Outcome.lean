import ClassDiagram.Load.File
import ClassDiagram.Proofs.Text.Utf8
import Mathlib.Logic.Relation

/-!
# What loading a file comes to

A file is loaded, or there is an error. The program has its own kinds of errors for that, except
that the bytes of a file may be no text: then the error is one of the encoding, which knows neither
the program nor the path.

* `ErrorKind` are the kinds of errors with their ancestry, `LoadError.kind` is that of an error;
* `FileTree.HoldsText` says that a path leads to a text, if it leads to a file;
* `FileTree.loadWith_cases` is all that can happen when something is loaded;
* `FileTree.loading_settles` says when a load ends in a result or an error of the program.
-/

namespace ClassDiagram

/-! ### Kinds of errors -/

/-- The kinds of errors that loading can end with. -/
inductive ErrorKind where
  /-- Any error of the program. -/
  | own
  /-- There is no model, because of its snapshot. -/
  | snapshot
  /-- The snapshot does not exist. -/
  | missingSnapshot
  /-- There is no configuration. -/
  | filterConfig
  /-- Bytes are no text; the program has no such error. -/
  | encoding
deriving DecidableEq, Repr

namespace ErrorKind

/-- The kind that a kind is a part of. -/
def parent? : ErrorKind → Option ErrorKind
  | missingSnapshot => some snapshot
  | snapshot => some own
  | filterConfig => some own
  | own => none
  | encoding => none

/-- Errors of the first kind are errors of the second one. -/
def IsA : ErrorKind → ErrorKind → Prop := Relation.ReflTransGen fun k l => k.parent? = some l

theorem IsA.eq_of_parent?_eq_none {k l : ErrorKind} (h : k.IsA l) (hk : k.parent? = none) :
    k = l := by
  rcases h.cases_head with h | ⟨m, hm, -⟩
  · exact h
  · cases hk.symm.trans hm

end ErrorKind

/-- The kind of the errors that keep a resource from being loaded. -/
def Resource.errorKind : Resource → ErrorKind
  | snapshot => .snapshot
  | filterConfig => .filterConfig

namespace Text

theorem infix_append_right (a s : String) : s.toList <:+: (a ++ s).toList := by
  rw [String.toList_append]
  exact (List.suffix_append a.toList s.toList).isInfix

theorem infix_append_left {a s : String} (h : s.toList <:+: a.toList) (b : String) :
    s.toList <:+: (a ++ b).toList := by
  rw [String.toList_append]
  exact h.trans (List.prefix_append a.toList b.toList).isInfix

end Text

namespace LoadError

/-- The kind of an error. -/
def kind : LoadError → ErrorKind
  | notFound .snapshot _ => .missingSnapshot
  | notFound .filterConfig _ => .filterConfig
  | undecodable _ => .encoding
  | rejected r _ _ => r.errorKind

theorem isA_notFound (r : Resource) (path : String) : (notFound r path).kind.IsA r.errorKind := by
  cases r with
  | snapshot => exact .single rfl
  | filterConfig => exact .refl

theorem not_isA_undecodable (fault : Utf8.Fault) {k : ErrorKind} (hk : k ≠ .encoding) :
    ¬ (undecodable fault).kind.IsA k :=
  fun h => hk (h.eq_of_parent?_eq_none rfl).symm

theorem infix_message_notFound (r : Resource) (path : String) :
    path.toList <:+: (notFound r path).message.toList := by
  cases r with
  | snapshot => exact Text.infix_append_right _ path
  | filterConfig => exact Text.infix_append_right _ path

theorem infix_message_rejected (r : Resource) (path : String) (reason : Rejection) :
    path.toList <:+: (rejected r path reason).message.toList := by
  cases r with
  | snapshot =>
    have hsource := Text.infix_append_right "Invalid symbol snapshot " path
    exact Text.infix_append_left (Text.infix_append_left hsource ": ") _
  | filterConfig =>
    have hsource := Text.infix_append_right "Invalid filter configuration " path
    exact Text.infix_append_left (Text.infix_append_left hsource ": ") _

end LoadError

/-! ### Loading -/

namespace FileTree

variable {t : FileTree} {r : Resource} {path : String} {α : Type}

/-- If there is a file at the path, its bytes are those of a text. -/
def HoldsText (t : FileTree) (path : String) : Prop :=
  ∀ bytes, t.fileAt? path = some bytes → ∃ s, Utf8.encode s = bytes

/-- What is loaded from the file at a path, given how its text is read. -/
def loadWith (t : FileTree) (r : Resource) (path : String) (read : String → Except Rejection α) :
    Except LoadError α := do
  let text ← t.textAt r path
  (read text).mapError (.rejected r path)

theorem loadModel_eq_loadWith (t : FileTree) (path : String) :
    t.loadModel path = t.loadWith .snapshot path Model.read := rfl

theorem loadConfig_eq_loadWith (t : FileTree) (path : String) :
    t.loadConfig path = t.loadWith .filterConfig path FilterConfig.read := rfl

/-- There is no file, or its bytes are no text, or the text is read. -/
theorem loadWith_cases (t : FileTree) (r : Resource) (path : String)
    (read : String → Except Rejection α) :
    (t.fileAt? path = none ∧ t.loadWith r path read = .error (.notFound r path)) ∨
    (¬ t.HoldsText path ∧ ∃ fault, t.loadWith r path read = .error (.undecodable fault)) ∨
    ∃ s, t.fileAt? path = some (Utf8.encode s) ∧
      t.loadWith r path read = (read (Text.withLineFeeds s)).mapError (.rejected r path) := by
  rw [loadWith, textAt]
  cases hfile : t.fileAt? path with
  | none => exact .inl ⟨rfl, rfl⟩
  | some bytes =>
    cases hdecode : Utf8.decode bytes with
    | error fault =>
      refine .inr (.inl ⟨fun h => ?_, fault, by simp only [hdecode]; rfl⟩)
      obtain ⟨s, hs⟩ := h bytes hfile
      cases hdecode.symm.trans (Utf8.decode_eq_ok_iff.2 hs)
    | ok s =>
      refine .inr (.inr ⟨s, by rw [Utf8.decode_eq_ok_iff.1 hdecode], by simp only [hdecode]; rfl⟩)

/-- A load from a path ended in a result, or in an error of the program for what was loaded, unless
the file holds no text. The errors of the program name the path. -/
structure Settles (t : FileTree) (r : Resource) (path : String) (x : Except LoadError α) :
    Prop where
  own_iff : ((∃ a, x = .ok a) ∨ ∃ e, x = .error e ∧ e.kind.IsA r.errorKind) ↔ t.HoldsText path
  undecodable : ¬ t.HoldsText path → ∃ fault, x = .error (.undecodable fault)
  missing_iff : (∃ e, x = .error e ∧ e.kind = .missingSnapshot) ↔
    r = .snapshot ∧ t.fileAt? path = none
  names_path : ∀ e, x = .error e → e.kind.IsA r.errorKind → path.toList <:+: e.message.toList

section Settles

variable {e : LoadError}

theorem settles_ok (htext : t.HoldsText path) (hfile : t.fileAt? path ≠ none) (a : α) :
    t.Settles r path (.ok a) where
  own_iff := iff_of_true (.inl ⟨a, rfl⟩) htext
  undecodable h := absurd htext h
  missing_iff := iff_of_false (by simp) fun h => hfile h.2
  names_path := nofun

theorem settles_error (htext : t.HoldsText path) (hown : e.kind.IsA r.errorKind)
    (hmissing : e.kind = .missingSnapshot ↔ r = .snapshot ∧ t.fileAt? path = none)
    (hnames : path.toList <:+: e.message.toList) :
    t.Settles r path (.error e : Except LoadError α) where
  own_iff := iff_of_true (.inr ⟨e, rfl, hown⟩) htext
  undecodable h := absurd htext h
  missing_iff := by simpa using hmissing
  names_path := by
    rintro _ ⟨⟩ -
    exact hnames

theorem settles_undecodable (htext : ¬ t.HoldsText path) (fault : Utf8.Fault) :
    t.Settles r path (.error (.undecodable fault) : Except LoadError α) where
  own_iff := by
    refine iff_of_false ?_ htext
    rintro (⟨a, h⟩ | ⟨_, ⟨⟩, h⟩)
    · cases h
    · exact LoadError.not_isA_undecodable fault (by cases r <;> decide) h
  undecodable _ := ⟨fault, rfl⟩
  missing_iff := by
    refine iff_of_false (by simp [LoadError.kind]) fun h => htext fun bytes hbytes => ?_
    cases h.2.symm.trans hbytes
  names_path := by
    rintro _ ⟨⟩ h
    exact absurd h (LoadError.not_isA_undecodable fault (by cases r <;> decide))

end Settles

theorem settles_loadWith (t : FileTree) (r : Resource) (path : String)
    (read : String → Except Rejection α) : t.Settles r path (t.loadWith r path read) := by
  rcases t.loadWith_cases r path read with ⟨hfile, h⟩ | ⟨htext, fault, h⟩ | ⟨s, hfile, h⟩
  · rw [h]
    have htext : t.HoldsText path := by
      intro bytes hbytes
      cases hfile.symm.trans hbytes
    refine settles_error htext (LoadError.isA_notFound r path) ?_
      (LoadError.infix_message_notFound r path)
    cases r <;> simp [LoadError.kind, hfile]
  · rw [h]
    exact settles_undecodable htext fault
  · have htext : t.HoldsText path := by
      intro bytes hbytes
      exact ⟨s, Option.some.inj (hfile.symm.trans hbytes)⟩
    rw [h]
    cases read (Text.withLineFeeds s) with
    | ok a => exact settles_ok htext (by simp [hfile]) a
    | error reason =>
      refine settles_error htext .refl ?_ (LoadError.infix_message_rejected r path reason)
      cases r <;> simp [LoadError.kind, Resource.errorKind, hfile]

/-- **A load ends in a result or in an error of the program, unless the file holds no text.** If the
bytes of the file are not those of a text, it ends in an error of the encoding instead. That a
snapshot is missing is reported exactly if there is no file. The errors of the program name the
path. -/
theorem loading_settles (t : FileTree) (path : String) :
    t.Settles .snapshot path (t.loadModel path) ∧
      t.Settles .filterConfig path (t.loadConfig path) :=
  ⟨t.settles_loadWith .snapshot path Model.read,
    t.settles_loadWith .filterConfig path FilterConfig.read⟩

/-- A file tree with a filter configuration that is no text, for a byte before its braces. -/
def undecodableTree : FileTree :=
  .ofList ["work"] [("f.json", .file [0xFF, 0x7B, 0x7D])]

/-- An error that does not tell that it is about a filter configuration, and about which one. -/
theorem loadConfig_undecodable :
    ∃ e, undecodableTree.loadConfig "f.json" = .error e ∧ ¬ e.kind.IsA .own ∧
      ¬ "f.json".toList <:+: e.message.toList := by
  have hfile : undecodableTree.fileAt? "f.json" = some [0xFF, 0x7B, 0x7D] := by decide +kernel
  have hdecode : Utf8.decode [0xFF, 0x7B, 0x7D] = .error ⟨0xFF, 0, 1, .invalidStart⟩ := by cbv
  have hload : undecodableTree.loadConfig "f.json" =
      .error (.undecodable ⟨0xFF, 0, 1, .invalidStart⟩) := by
    simp only [loadConfig, textAt, hfile, hdecode]
    rfl
  refine ⟨_, hload, LoadError.not_isA_undecodable _ (by decide), ?_⟩
  decide +kernel

end FileTree

end ClassDiagram
