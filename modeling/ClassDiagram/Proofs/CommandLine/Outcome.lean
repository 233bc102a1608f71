import ClassDiagram.Proofs.Load.Write
import ClassDiagram.Proofs.Service.Agreement

/-!
# All or nothing

A run that is to draw a diagram draws it into one place, or fails and leaves nothing behind.

* `FileTree.LoadsPolicy` and `FileTree.Opens` say what the settings of a run stand for;
* `RenderJob.run_eq_ok_iff` says when a job comes to a drawing, `Run.ofJob_of_error` and
  `Run.ofJob_of_drawing` what its run leaves behind;
* `Run.Delivers` says where the diagram of a run has gone;
* `Run.render_all_or_nothing` puts these together for command lines.
-/

namespace ClassDiagram

open CommandLine

variable {t : FileTree} {snapshot path : String} {filters output setting : Option String}

/-! ### Settings -/

/-- A setting names a path. The empty text names none. -/
def InForce (setting : Option String) (path : String) : Prop := setting = some path ∧ path ≠ ""

theorem Run.pathOf_eq_some_iff : pathOf setting = some path ↔ InForce setting path := by
  simp [pathOf, Option.filter_eq_some_iff, InForce]

theorem Run.pathOf_eq_none_iff : pathOf setting = none ↔ ∀ path, ¬ InForce setting path := by
  simp only [← pathOf_eq_some_iff, Option.eq_none_iff_forall_ne_some, ne_eq]

namespace FileTree

/-- The policy that the filters of a run stand for: that of a configuration in a file, or the
standard one where no file is named. -/
inductive LoadsPolicy (t : FileTree) (filters : Option String) : Policy → Prop where
  | standard (h : ∀ path, ¬ InForce filters path) : LoadsPolicy t filters Policy.standard
  | config {path : String} {c : FilterConfig} (h : InForce filters path)
      (hc : t.loadConfig path = .ok c) : LoadsPolicy t filters (Policy.ofConfig c)

/-- The place that the output of a run goes to: that of a file that can be written, or none where no
file is named. -/
inductive Opens (t : FileTree) (output : Option String) : Option FilePath → Prop where
  | console (h : ∀ path, ¬ InForce output path) : Opens t output none
  | file {path : String} {place : FilePath} (h : InForce output path)
      (hp : t.openForWriting path = .ok place) : Opens t output (some place)

end FileTree

/-! ### Jobs -/

namespace RenderJob

open Run

variable {job : RenderJob} {drawing : Drawing}

/-- A job comes to a drawing if and only if its files can be loaded and its output can be opened. -/
theorem run_eq_ok_iff :
    (job.run t).2 = .ok drawing ↔
      ∃ m p target, t.loadModel job.snapshot = .ok m ∧
        (∃ records, job.loadPolicy t = .ok (records, p)) ∧ job.openOutput t = .ok target ∧
        ⟨m.render p, target⟩ = drawing := by
  rw [RenderJob.run]
  cases t.loadModel job.snapshot with
  | error e => simp
  | ok m =>
    cases job.loadPolicy t with
    | error e => simp
    | ok loaded =>
      obtain ⟨records, p⟩ := loaded
      cases job.openOutput t with
      | error failure => simp
      | ok target => simp

theorem loadPolicy_jobOf_iff {p : Policy} :
    (∃ records, (jobOf snapshot filters output).loadPolicy t = .ok (records, p)) ↔
      t.LoadsPolicy filters p := by
  rw [jobOf]
  cases hpath : pathOf filters with
  | none =>
    have hnone := pathOf_eq_none_iff.1 hpath
    constructor
    · rintro ⟨records, h⟩
      cases h
      exact .standard hnone
    · rintro (_ | ⟨h, -⟩)
      · exact ⟨[], rfl⟩
      · exact absurd h (hnone _)
  | some path =>
    have hsome := pathOf_eq_some_iff.1 hpath
    simp only [loadPolicy_eq_ok_iff]
    constructor
    · rintro ⟨records, c, hc, -, rfl⟩
      exact .config hsome hc
    · rintro (h | ⟨h, hc⟩)
      · exact absurd hsome (h path)
      · cases hsome.1.symm.trans h.1
        exact ⟨_, _, hc, rfl, rfl⟩

theorem openOutput_eq_ok_iff (job : RenderJob) {path : String} {target : Option FilePath}
    (hpath : job.output = some path) :
    job.openOutput t = .ok target ↔
      ∃ place, t.openForWriting path = .ok place ∧ some place = target := by
  cases hopen : t.openForWriting path <;>
    simp [openOutput, hpath, hopen, Except.map, Except.mapError]

theorem openOutput_jobOf_iff {target : Option FilePath} :
    (jobOf snapshot filters output).openOutput t = .ok target ↔ t.Opens output target := by
  cases hpath : pathOf output with
  | none =>
    have hnone := pathOf_eq_none_iff.1 hpath
    rw [jobOf, openOutput, hpath]
    constructor
    · intro h
      cases h
      exact .console hnone
    · rintro (_ | ⟨h, -⟩)
      · rfl
      · exact absurd h (hnone _)
  | some path =>
    have hsome := pathOf_eq_some_iff.1 hpath
    rw [openOutput_eq_ok_iff (jobOf snapshot filters output) hpath]
    constructor
    · rintro ⟨place, hplace, rfl⟩
      exact .file hsome hplace
    · rintro (h | ⟨h, hplace⟩)
      · exact absurd hsome (h path)
      · cases hsome.1.symm.trans h.1
        exact ⟨_, hplace, rfl⟩

theorem run_jobOf_eq_ok_iff :
    ((jobOf snapshot filters output).run t).2 = .ok drawing ↔
      ∃ m p target, t.loadModel snapshot = .ok m ∧ t.LoadsPolicy filters p ∧
        t.Opens output target ∧ ⟨m.render p, target⟩ = drawing := by
  simp only [run_eq_ok_iff, loadPolicy_jobOf_iff, openOutput_jobOf_iff]
  rfl

end RenderJob

/-! ### Runs -/

namespace Run

variable {job : RenderJob} {verbose : Bool} {argv : List String}

/-- The run succeeds, and the text goes to the given place, or is printed where there is none. -/
def Delivers (r : Run) (t : FileTree) (target : Option FilePath) (text : String) : Prop :=
  r.exitCode = 0 ∧ r.output = target.elim text (fun _ => "") ∧
    r.files = target.elim t (t.write · (Utf8.encode text))

/-- A run without a drawing leaves nothing behind. -/
theorem ofJob_of_failure {failure : RenderFailure} (h : (job.run t).2 = .error failure) :
    (ofJob verbose job t).exitCode = 1 ∧ (ofJob verbose job t).output = "" ∧
      (ofJob verbose job t).files = t := by
  rw [ofJob]
  generalize job.run t = outcome at h ⊢
  obtain ⟨records, result⟩ := outcome
  cases h
  exact ⟨rfl, rfl, rfl⟩

/-- A run with a drawing prints it, or writes it to its place. -/
theorem ofJob_of_drawing (verbose : Bool) {drawing : Drawing} (h : (job.run t).2 = .ok drawing) :
    (ofJob verbose job t).exitCode = 0 ∧
      (ofJob verbose job t).output = drawing.target.elim drawing.diagram (fun _ => "") ∧
      (ofJob verbose job t).files =
        drawing.target.elim t (t.write · (Utf8.encode drawing.diagram)) := by
  rw [ofJob]
  generalize job.run t = outcome at h ⊢
  obtain ⟨records, result⟩ := outcome
  cases h
  obtain ⟨diagram, target⟩ := drawing
  cases target <;> exact ⟨rfl, rfl, rfl⟩

theorem ofJob_exitCode_eq_zero_iff :
    (ofJob verbose job t).exitCode = 0 ↔ ∃ drawing, (job.run t).2 = .ok drawing := by
  cases hrun : (job.run t).2 with
  | error failure => simp [ofJob_of_failure hrun]
  | ok drawing => simp [ofJob_of_drawing verbose hrun]

/-- **A run that is to draw is all or nothing.** It succeeds if and only if the snapshot, the
filters and the output can be used, as they are before the run. If it fails, it prints nothing and
changes no file. If it succeeds, the diagram goes to one place: it is printed, or it is what the
named file holds, and nothing else changes. Of several faults, that of the snapshot is reported. -/
theorem render_all_or_nothing
    (hargv : Invocation.parse argv = .ok ⟨verbose, .render snapshot filters output⟩) :
    let r := ofCommandLine argv t
    ((r.exitCode = 0 ↔ (∃ m, t.loadModel snapshot = .ok m) ∧ (∃ p, t.LoadsPolicy filters p) ∧
        ∃ target, t.Opens output target) ∧
      (r.exitCode ≠ 0 → r.exitCode = 1)) ∧
    (r.exitCode = 1 → r.output = "" ∧ r.files = t) ∧
    (r.exitCode = 0 → ∃ m p, t.loadModel snapshot = .ok m ∧ t.LoadsPolicy filters p ∧
      ((∀ path, ¬ InForce output path) → r.output = m.render p ∧ r.files = t) ∧
      ∀ path, InForce output path → r.output = "" ∧
        r.files.fileAt? path = some (Utf8.encode (m.render p)) ∧
        ∃ place, t.openForWriting path = .ok place ∧
          r.files.entry? place = some (.file (Utf8.encode (m.render p))) ∧
          ∀ q ≠ place, r.files.entry? q = t.entry? q) ∧
    ∀ e, t.loadModel snapshot = .error e →
      r.errors = Console.shown (RenderFailure.load e).report := by
  intro r
  have hr : r = ofJob verbose (jobOf snapshot filters output) t := ofCommandLine_render hargv
  rw [hr]
  refine ⟨⟨?_, fun hne => ?_⟩, fun hone => ?_, fun hzero => ?_, fun e he => ?_⟩
  · simp only [ofJob_exitCode_eq_zero_iff, RenderJob.run_jobOf_eq_ok_iff]
    constructor
    · rintro ⟨_, m, p, target, hm, hp, htarget, -⟩
      exact ⟨⟨m, hm⟩, ⟨p, hp⟩, target, htarget⟩
    · rintro ⟨⟨m, hm⟩, ⟨p, hp⟩, target, htarget⟩
      exact ⟨_, m, p, target, hm, hp, htarget, rfl⟩
  · cases hrun : ((jobOf snapshot filters output).run t).2 with
    | error failure => exact (ofJob_of_failure hrun).1
    | ok drawing => exact absurd (ofJob_of_drawing verbose hrun).1 hne
  · cases hrun : ((jobOf snapshot filters output).run t).2 with
    | error failure => exact (ofJob_of_failure hrun).2
    | ok drawing => exact absurd ((ofJob_of_drawing verbose hrun).1.symm.trans hone) Nat.zero_ne_one
  · obtain ⟨drawing, hrun⟩ := ofJob_exitCode_eq_zero_iff.1 hzero
    obtain ⟨-, houtput, hfiles⟩ := ofJob_of_drawing verbose hrun
    obtain ⟨m, p, target, hm, hp, htarget, rfl⟩ := RenderJob.run_jobOf_eq_ok_iff.1 hrun
    rw [houtput, hfiles]
    refine ⟨m, p, hm, hp, fun hnone => ?_, fun path hpath => ?_⟩
    · cases htarget with
      | console => exact ⟨rfl, rfl⟩
      | file h _ => exact absurd h (hnone _)
    · cases htarget with
      | console h => exact absurd hpath (h path)
      | @file _ place h hplace =>
        cases hpath.1.symm.trans h.1
        obtain ⟨hlocate, -, hne⟩ := FileTree.openForWriting_eq_ok_iff.1 hplace
        have hway := FileTree.reachable_of_locate hlocate
        exact ⟨rfl, FileTree.fileAt?_write hplace, place, hplace, FileTree.entry?_write_self hne,
          fun q hq => FileTree.entry?_write_of_ne hway hq⟩
  · rw [ofJob_of_error (jobOf snapshot filters output) he]

/-- A command line that draws into the file that it reads. -/
def intoSnapshot : List String :=
  ["render", "class.json", "--filters", "filters.json", "-o", "class.json"]

/-- A class is drawn into the file that it was read from, and the filters stay as they were. -/
theorem render_all_or_nothing_class :
    let r := ofCommandLine intoSnapshot Service.sampleTree
    r.exitCode = 0 ∧ r.output = "" ∧
      r.files.fileAt? "class.json" = some (Utf8.encode "classDiagram\n    class A\n") ∧
      r.files.entry? ["filters.json"] = Service.sampleTree.entry? ["filters.json"] := by
  intro r
  have hargv : Invocation.parse intoSnapshot =
      .ok ⟨false, .render "class.json" (some "filters.json") (some "class.json")⟩ := by
    decide +kernel
  obtain ⟨-, -, hdrawn, -⟩ := render_all_or_nothing (t := Service.sampleTree) hargv
  have hzero : r.exitCode = 0 := by decide +kernel
  obtain ⟨m, p, hm, hp, -, hfile⟩ := hdrawn hzero
  obtain ⟨houtput, hbytes, place, hplace, -, hframe⟩ := hfile "class.json" ⟨rfl, by decide⟩
  have hdiagram : m.render p = "classDiagram\n    class A\n" := by
    have hloaded : ((Service.sampleTree.loadModel "class.json").toOption.bind fun m =>
        (Service.sampleTree.loadConfig "filters.json").toOption.map fun c =>
          m.render (Policy.ofConfig c)) = some "classDiagram\n    class A\n" := by
      decide +kernel
    cases hp with
    | standard h => exact absurd ⟨rfl, by decide⟩ (h "filters.json")
    | @config path c h hc =>
      cases h.1
      rw [hm, hc] at hloaded
      exact Option.some.inj hloaded
  have hother : ["filters.json"] ≠ place := by
    have hclass : (Service.sampleTree.openForWriting "class.json").toOption =
        some ["class.json"] := by
      decide +kernel
    rw [hplace] at hclass
    cases hclass
    decide
  exact ⟨hzero, houtput, by rw [hbytes, hdiagram], hframe _ hother⟩

end Run

end ClassDiagram
