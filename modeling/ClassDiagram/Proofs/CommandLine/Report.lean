import ClassDiagram.Proofs.CommandLine.Outcome
import ClassDiagram.Proofs.Load.Outcome
import ClassDiagram.Proofs.Text.Console

/-!
# Reports of what cannot be loaded

A run that cannot load its files reports the error on a console, and the console may change it.

* `FileTree.LoadingFails` says with which error loading ends for a run;
* `Run.reports_shown` says what such a run reports, and when this is the error word by word.
-/

namespace ClassDiagram

open CommandLine

variable {t : FileTree} {snapshot path : String} {filters output : Option String} {e : LoadError}

/-- Loading ends with an error for a run: its snapshot cannot be loaded, or it can and the filters
that are asked for cannot. -/
inductive FileTree.LoadingFails (t : FileTree) (snapshot : String) (filters : Option String)
    (e : LoadError) : Prop where
  | snapshot (h : t.loadModel snapshot = .error e)
  | filters {m : Model} {path : String} (hm : t.loadModel snapshot = .ok m)
      (hpath : InForce filters path) (h : t.loadConfig path = .error e)

theorem RenderFailure.report_own (h : e.kind.IsA .own) : (load e).report = e.message := by
  cases e with
  | notFound r path => rfl
  | undecodable fault => exact absurd h (LoadError.not_isA_undecodable fault (by decide))
  | rejected r source reason => exact report_rejected

namespace Run

/-- A run fails if it cannot load its filters; what was logged before stands before its report. -/
theorem ofJob_of_filters_error {job : RenderJob} {m : Model} (hm : t.loadModel job.snapshot = .ok m)
    (hpath : job.filters = some path) (h : t.loadConfig path = .error e) :
    ofJob false job t = ⟨1, "", Console.shown (RenderFailure.load e).report, t, none⟩ := by
  have hpolicy : job.loadPolicy t = .error e := by
    rw [RenderJob.loadPolicy, hpath]
    simp only [h]
    rfl
  rw [ofJob, RenderJob.run, hm]
  simp only [hpolicy]
  rw [logText, if_neg Bool.false_ne_true, String.empty_append]

theorem ofJob_of_loadingFails (h : t.LoadingFails snapshot filters e) :
    ofJob false (jobOf snapshot filters output) t =
      ⟨1, "", Console.shown (RenderFailure.load e).report, t, none⟩ := by
  cases h with
  | snapshot h => exact ofJob_of_error (jobOf snapshot filters output) h
  | filters hm hpath h => exact ofJob_of_filters_error hm (pathOf_eq_some_iff.2 hpath) h

/-- **Errors of loading are reported as a console shows them.** A run that is not to log, and that
cannot load its files for an error of the program, fails and reports this error in the form that the
console gives it. That is the error word by word exactly if there is nothing in it for a console to
change. -/
theorem reports_shown {argv : List String}
    (hargv : Invocation.parse argv = .ok ⟨false, .render snapshot filters output⟩)
    (h : t.LoadingFails snapshot filters e) (hown : e.kind.IsA .own) :
    let r := ofCommandLine argv t
    r.exitCode = 1 ∧ r.output = "" ∧ r.errors = Console.shown e.message ∧
      (r.errors = e.message ++ "\n" ↔ Console.Plain e.message.toList) := by
  have hrun : ofCommandLine argv t = ⟨1, "", Console.shown e.message, t, none⟩ := by
    rw [ofCommandLine_render hargv, ofJob_of_loadingFails h, RenderFailure.report_own hown]
  rw [hrun]
  exact ⟨rfl, rfl, rfl, Console.shown_eq_iff⟩

/-- A tree without files. -/
def emptyTree : FileTree := .ofList [] []

theorem loadingFails_emptyTree (path : String) (h : emptyTree.fileAt? path = none) :
    emptyTree.LoadingFails path none (.notFound .snapshot path) := by
  refine .snapshot ?_
  rw [FileTree.loadModel, FileTree.textAt, h]
  rfl

/-- A path in brackets is reported as it is. -/
theorem reports_shown_brackets :
    let r := ofCommandLine ["render", "[b].json"] emptyTree
    r.exitCode = 1 ∧ r.output = "" ∧ r.errors = "The specified file does not exist: [b].json\n" ∧
      Console.Plain "The specified file does not exist: [b].json".toList := by
  have hargv : Invocation.parse ["render", "[b].json"] =
      .ok ⟨false, .render "[b].json" none none⟩ := by
    decide +kernel
  have hfails := loadingFails_emptyTree "[b].json" (by decide +kernel)
  obtain ⟨hcode, houtput, herrors, hplain⟩ := reports_shown (t := emptyTree) hargv hfails
    (.tail (.single rfl) rfl)
  have hshown : Console.shown "The specified file does not exist: [b].json" =
      "The specified file does not exist: [b].json\n" := by
    decide +kernel
  exact ⟨hcode, houtput, herrors.trans hshown, hplain.1 (herrors.trans hshown)⟩

/-- A path with the name of a picture is not reported as it is. -/
theorem errors_smile :
    let r := ofCommandLine ["render", ":smile:.json"] emptyTree
    Invocation.parse ["render", ":smile:.json"] =
        .ok ⟨false, .render ":smile:.json" none none⟩ ∧
      emptyTree.LoadingFails ":smile:.json" none (.notFound .snapshot ":smile:.json") ∧
      (LoadError.notFound .snapshot ":smile:.json").kind.IsA .own ∧
      r.errors = "The specified file does not exist: 😄.json\n" ∧
      r.errors ≠ (LoadError.notFound .snapshot ":smile:.json").message ++ "\n" := by
  refine ⟨by decide +kernel, loadingFails_emptyTree _ (by decide +kernel), .tail (.single rfl) rfl,
    by decide +kernel, by decide +kernel⟩

end Run

end ClassDiagram
