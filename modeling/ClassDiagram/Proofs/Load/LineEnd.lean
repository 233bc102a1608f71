import ClassDiagram.Proofs.Check.Exact
import ClassDiagram.Proofs.Json.LineEnd
import ClassDiagram.Proofs.Load.Outcome

/-!
# Files with any line ends

Line ends become line feeds before the text of a file is read. That tells nothing from the text as
it stands in the file, and it reports the same problems.

* `readAs_withLineFeeds_eq_ok_iff` and `readAs_withLineFeeds_eq_invalid_iff` compare the texts;
* `FileTree.loading_keeps_meaning` compares a file and its text.
-/

namespace ClassDiagram

variable {α : Type} {check : Document → Check.Result Empty α} {text : String}
  {problems : List (Problem Empty)}

theorem readAs_eq_invalid_iff : readAs check text = .error (.invalid problems) ↔
    ∃ v, Json.Strict.read text = .ok v ∧ (check v).toExcept = .error problems := by
  cases hv : Json.Strict.read text with
  | error fault => simp [readAs, hv]
  | ok v =>
    rw [readAs_eq hv]
    cases hc : (check v).toExcept <;> simp [Except.mapError, hc]

theorem readAs_withLineFeeds_eq_ok_iff {a : α} :
    readAs check (Text.withLineFeeds text) = .ok a ↔ readAs check text = .ok a := by
  simp only [readAs_eq_ok_iff, Json.Strict.read_withLineFeeds_eq_ok_iff]

theorem readAs_withLineFeeds_eq_invalid_iff :
    readAs check (Text.withLineFeeds text) = .error (.invalid problems) ↔
      readAs check text = .error (.invalid problems) := by
  simp only [readAs_eq_invalid_iff, Json.Strict.read_withLineFeeds_eq_ok_iff]

theorem mapError_rejected_eq_error_iff {r : Resource} {source : String} {reason : Rejection}
    {x : Except Rejection α} :
    x.mapError (LoadError.rejected r source) = .error (.rejected r source reason) ↔
      x = .error reason := by
  cases x <;> simp [Except.mapError]

namespace FileTree

variable {t : FileTree} {r : Resource} {path : String} {bytes : List UInt8}

theorem loadWith_eq_of_decode (hfile : t.fileAt? path = some bytes)
    (htext : Utf8.decode bytes = .ok text) (read : String → Except Rejection α) :
    t.loadWith r path read = (read (Text.withLineFeeds text)).mapError (.rejected r path) := by
  simp only [loadWith, textAt, hfile, htext]
  rfl

theorem loadWith_readAs_eq_ok_iff (hfile : t.fileAt? path = some bytes)
    (htext : Utf8.decode bytes = .ok text) {a : α} :
    t.loadWith r path (readAs check) = .ok a ↔ readAs check text = .ok a := by
  rw [loadWith_eq_of_decode hfile htext, mapError_eq_ok_iff, readAs_withLineFeeds_eq_ok_iff]

theorem loadWith_readAs_eq_invalid_iff (hfile : t.fileAt? path = some bytes)
    (htext : Utf8.decode bytes = .ok text) :
    t.loadWith r path (readAs check) = .error (.rejected r path (.invalid problems)) ↔
      readAs check text = .error (.invalid problems) := by
  rw [loadWith_eq_of_decode hfile htext, mapError_rejected_eq_error_iff,
    readAs_withLineFeeds_eq_invalid_iff]

/-- **A file means what its text means.** The text of the file, with whatever line ends it has, and
the text that is made of it spell the same value, if they spell one; the file is loaded as what its
text is read as; and the problems of the file are those of its text. -/
theorem loading_keeps_meaning (hfile : t.fileAt? path = some bytes)
    (htext : Utf8.decode bytes = .ok text) :
    (∀ v, Json.Strict.read (Text.withLineFeeds text) = .ok v ↔ Json.Strict.read text = .ok v) ∧
    (∀ source m, t.loadModel path = .ok m ↔ Model.parse text source = .ok m) ∧
    (∀ c, t.loadConfig path = .ok c ↔ FilterConfig.read text = .ok c) ∧
    (∀ source problems, t.loadModel path = .error (.rejected .snapshot path (.invalid problems)) ↔
      Model.parse text source = .error (.rejected .snapshot source (.invalid problems))) ∧
    ∀ problems, t.loadConfig path = .error (.rejected .filterConfig path (.invalid problems)) ↔
      FilterConfig.read text = .error (.invalid problems) := by
  refine ⟨fun v => Json.Strict.read_withLineFeeds_eq_ok_iff, fun source m => ?_, fun c => ?_,
    fun source problems => ?_, fun problems => ?_⟩
  · rw [loadModel_eq_loadWith, Model.parse, mapError_eq_ok_iff]
    exact loadWith_readAs_eq_ok_iff hfile htext
  · rw [loadConfig_eq_loadWith]
    exact loadWith_readAs_eq_ok_iff hfile htext
  · rw [loadModel_eq_loadWith, Model.parse, mapError_rejected_eq_error_iff]
    exact loadWith_readAs_eq_invalid_iff hfile htext
  · rw [loadConfig_eq_loadWith]
    exact loadWith_readAs_eq_invalid_iff hfile htext

/-- A snapshot of a class, whose lines end in two ways. -/
def returnsText : String := "\x7b\"types\":\r\n[\x7b\"name\":\r\"Cart\"\x7d] \x7d\r"

/-- A file tree with that snapshot. -/
def returnsTree : FileTree := .ofList ["work"] [("s.json", .file (Utf8.encode returnsText))]

theorem loadModel_returnsTree :
    returnsTree.fileAt? "s.json" = some (Utf8.encode returnsText) ∧
      Utf8.decode (Utf8.encode returnsText) = .ok returnsText ∧
      ∃ m, Model.parse returnsText "<memory>" = .ok m ∧ returnsTree.loadModel "s.json" = .ok m := by
  have hfile : returnsTree.fileAt? "s.json" = some (Utf8.encode returnsText) := by decide +kernel
  have hdecode : Utf8.decode (Utf8.encode returnsText) = .ok returnsText :=
    Utf8.decode_eq_ok_iff.2 rfl
  have hread : Json.Strict.read returnsText =
      .ok (.object [("types", .array [.object [("name", .str "Cart")]])]) := by cbv
  obtain ⟨m, hm⟩ := Checked.exists_ok_iff.2 (List.isEmpty_iff.1 (by decide +kernel :
    (Model.ofJson (.object [("types", .array [.object [("name", .str "Cart")]])] :
      Document)).problems.isEmpty = true))
  have hparse : Model.parse returnsText "<memory>" = .ok m :=
    mapError_eq_ok_iff.2 (readAs_eq_ok_iff.2 ⟨_, hread, hm⟩)
  obtain ⟨-, hmodel, -⟩ := loading_keeps_meaning hfile hdecode
  exact ⟨hfile, hdecode, m, hparse, (hmodel "<memory>" m).2 hparse⟩

end FileTree

end ClassDiagram
