import ClassDiagram.CommandLine.Run
import ClassDiagram.Proofs.Check.Exact
import ClassDiagram.Proofs.Check.Outcome
import ClassDiagram.Proofs.CommandLine.Plain

/-!
# The program and the service agree

The program draws the snapshot in a file, the service draws the model in a body. Where both read the
same values, they come to the same diagram or find the same faults.

Both of them check a value against one schema, and so both go through `Model.ofJson`. They differ in
how they get at a value and in what they make of it: the program reads files with the strict reader
and takes the policy from a file, the service reads bodies with the lenient reader and takes the
policy from the body, and each has a wording of its own for what it refuses. The comparison is about
these.

* `FileTree.Describes` and `Service.Request.Asks` say which value a file and a body hold;
* `Report.Corresponds` compares an entry of an answer with a problem of a snapshot;
* `Service.respond_agrees` is the comparison of a run with an answer.
-/

namespace ClassDiagram

open CommandLine Checked

/-! ### Runs and requests -/

/-- The file at a path holds a text of the value. -/
def FileTree.Describes (t : FileTree) (r : Resource) (path : String) (v : Document) : Prop :=
  ∃ text, t.textAt r path = .ok text ∧ Json.Strict.read text = .ok v

/-- A request for a diagram, of which the body holds the value. -/
structure Service.Request.Asks (r : Service.Request) (v : Document) : Prop where
  method : r.method = "POST"
  path : r.path = "/render"
  body : Body.content r.mediaType r.body = .value v

/-- The run succeeds and prints the text. -/
def Run.Prints (r : Run) (text : String) : Prop := r.exitCode = 0 ∧ r.output = text

/-- The answer with a diagram. -/
def Reply.diagram (text : String) : Reply := .answer 200 (.object [("diagram", .str text)])

/-- The entry has the place of the problem in the model of a body, and the name of its cause; only a
value that is no record is called differently. -/
def Report.Corresponds (entry : Document) (p : Problem Empty) : Prop :=
  ∃ fields code, entry = .object fields ∧
    Json.get? fields "type" = some (.str code) ∧
    (code = p.cause.code .file ∨
      code = "model_attributes_type" ∧ p.cause.code .file = "model_type") ∧
    Json.get? fields "loc" = some (.array (.str "body" :: .str "model" :: p.path.map Step.toJson))

/-! ### The program -/

namespace FileTree.Describes

variable {t : FileTree} {path : String} {v : Document}

theorem loadModel_eq (h : t.Describes .snapshot path v) :
    t.loadModel path =
      (Model.ofJson v).toExcept.mapError (.rejected .snapshot path ∘ .invalid) := by
  obtain ⟨text, ht, hr⟩ := h
  have hload : t.loadModel path = Model.parse text path := by rw [loadModel, ht]; rfl
  rw [hload, Model.parse, Model.read, readAs_eq hr]
  cases Model.ofJson v <;> rfl

theorem loadConfig_eq (h : t.Describes .filterConfig path v) :
    t.loadConfig path =
      (FilterConfig.ofJson v).toExcept.mapError (.rejected .filterConfig path ∘ .invalid) := by
  obtain ⟨text, ht, hr⟩ := h
  have hload : t.loadConfig path =
      (FilterConfig.read text).mapError (.rejected .filterConfig path) := by
    rw [loadConfig, ht]; rfl
  rw [hload, FilterConfig.read, readAs_eq hr]
  cases FilterConfig.ofJson v <;> rfl

/-- There is no file at the empty path. -/
theorem path_ne {r : Resource} (h : t.Describes r path v) : path ≠ "" := by
  rintro rfl
  obtain ⟨text, ht, -⟩ := h
  simp [textAt, fileAt?, locate] at ht

end FileTree.Describes

theorem RenderJob.loadPolicy_eq_ok_iff {t : FileTree} {snapshot config : String}
    {output : Option String} {records : List LogRecord} {p : Policy} :
    RenderJob.loadPolicy ⟨snapshot, some config, output⟩ t = .ok (records, p) ↔
      ∃ k, t.loadConfig config = .ok k ∧ [.loadedConfig config] = records ∧ .ofConfig k = p := by
  simp only [loadPolicy]
  cases t.loadConfig config <;> simp [Except.map]

theorem RenderFailure.report_rejected {r : Resource} {source : String} {reason : Rejection} :
    (load (.rejected r source reason)).report = (LoadError.rejected r source reason).message := by
  unfold report
  dsimp only

namespace Run

variable {t : FileTree} {verbose : Bool} {job : RenderJob} {d : String}

/-- A run that is to print its diagram does so if and only if everything can be loaded. -/
theorem ofJob_prints_iff (ho : job.output = none) :
    (ofJob verbose job t).Prints d ↔
      ∃ m records p, t.loadModel job.snapshot = .ok m ∧ job.loadPolicy t = .ok (records, p) ∧
        m.render p = d := by
  rw [ofJob, RenderJob.run]
  cases hm : t.loadModel job.snapshot with
  | error e => simp [Prints]
  | ok m =>
    cases hp : job.loadPolicy t with
    | error e => simp [Prints]
    | ok rp =>
      obtain ⟨records, p⟩ := rp
      simp [Prints, RenderJob.openOutput, ho]

/-- A run fails if its snapshot cannot be loaded. -/
theorem ofJob_of_error (job : RenderJob) {e : LoadError}
    (h : t.loadModel job.snapshot = .error e) :
    ofJob verbose job t = ⟨1, "", Console.shown (RenderFailure.load e).report, t, none⟩ := by
  have hlog : logText verbose [] = "" := by cases verbose <;> rfl
  rw [ofJob, RenderJob.run, h]
  simp only
  rw [hlog, String.empty_append]

theorem ofCommandLine_render {argv : List String} {snapshot : String}
    {filters output : Option String}
    (h : Invocation.parse argv = .ok ⟨verbose, .render snapshot filters output⟩) :
    ofCommandLine argv t = ofJob verbose (jobOf snapshot filters output) t := by
  rw [ofCommandLine, h]
  rfl

/-- A run reports what its snapshot is refused for. -/
theorem ofCommandLine_of_rejected {argv : List String} {snapshot : String}
    {filters output : Option String} {reason : Rejection}
    (h : Invocation.parse argv = .ok ⟨verbose, .render snapshot filters output⟩)
    (hload : t.loadModel snapshot = .error (.rejected .snapshot snapshot reason)) :
    ofCommandLine argv t =
      ⟨1, "", Console.shown (LoadError.rejected .snapshot snapshot reason).message, t, none⟩ := by
  rw [ofCommandLine_render h, ofJob_of_error (jobOf snapshot filters output) hload,
    RenderFailure.report_rejected]

end Run

/-! ### The service -/

theorem RenderRequest.ofJson_model (v : Document) :
    ofJson (.object [("model", v)]) =
      (⟨·, none⟩) <$> Check.under (.key "model") (Model.ofJson v) := by
  change mk <$> Check.under (.key "model") (Model.ofJson v) <*> pure none = _
  cases Model.ofJson v <;> rfl

theorem RenderRequest.ofJson_filters (v : Document) {c : Document} (hc : c ≠ .null) :
    ofJson (.object [("model", v), ("filters", c)]) =
      (fun m k => ⟨m, some k⟩) <$> Check.under (.key "model") (Model.ofJson v)
        <*> Check.under (.key "filters") (FilterConfig.ofJson c) := by
  change mk <$> Check.under (.key "model") (Model.ofJson v)
    <*> Check.under (.key "filters") (Check.nullable c (FilterConfig.ofJson c)) = _
  have hn : Check.nullable c (FilterConfig.ofJson c) = some <$> FilterConfig.ofJson c := by
    cases c <;> first | rfl | exact absurd rfl hc
  rw [hn]
  cases Model.ofJson v <;> cases FilterConfig.ofJson c <;> rfl

namespace Service

variable {r : Request} {v : Document} {d : String}

theorem Request.Asks.respond_eq (h : r.Asks v) : respond r = renderValue v := by
  simp [respond, h.path, h.method, h.body, renderContent]

theorem renderValue_eq_diagram_iff :
    renderValue v = .diagram d ↔ ∃ q, RenderRequest.ofJson v = .ok q ∧ q.diagram = d := by
  rw [renderValue]
  cases RenderRequest.ofJson v with
  | ok q => simp [Reply.diagram]
  | bad p ps =>
    simp only [refuse]
    split_ifs <;> simp [Reply.diagram]

end Service

/-! ### Values in an answer -/

namespace Json

variable {v w : Document}

theorem allFinite_iff {vs : List Document} : allFinite vs = true ↔ ∀ v ∈ vs, v.isFinite = true := by
  induction vs with
  | nil => simp [allFinite]
  | cons v vs ih => simp [allFinite, ih]

theorem allFieldsFinite_iff {fields : List (String × Document)} :
    allFieldsFinite fields = true ↔ ∀ f ∈ fields, f.2.isFinite = true := by
  induction fields with
  | nil => simp [allFieldsFinite]
  | cons f fields ih => simp [allFieldsFinite, ih]

theorem isFinite_of_step? {s : Step} (h : step? v s = some w) (hv : v.isFinite = true) :
    w.isFinite = true := by
  unfold step? at h
  split at h
  · rw [isFinite, allFieldsFinite_iff] at hv
    obtain ⟨f, hf, rfl⟩ := Option.map_eq_some_iff.1 h
    exact hv f (List.mem_of_find?_eq_some hf)
  · rw [isFinite, allFinite_iff] at hv
    exact hv w (List.mem_of_getElem? h)
  · simp at h

theorem isFinite_of_follow? {path : List Step} (h : v.follow? path = some w)
    (hv : v.isFinite = true) : w.isFinite = true := by
  induction path generalizing v with
  | nil => simpa [← (Option.some.inj h : v = w)] using hv
  | cons s path ih =>
    rw [follow?, List.foldlM_cons] at h
    obtain ⟨u, hu, h⟩ := Option.bind_eq_some_iff.1 h
    exact ih h (isFinite_of_step? hu hv)

end Json

theorem Step.isFinite_toJson (s : Step) : s.toJson.isFinite = true := by
  cases s <;> rfl

/-- The values that a model is refused for are parts of the document. -/
theorem Model.isFinite_input {v : Document} {p : Problem Empty} (hv : v.isFinite = true)
    (hp : p ∈ (ofJson v).problems) : p.input.isFinite = true := by
  obtain ⟨hinside, hmissing⟩ := (((exact_ofJson v).mem_iff p).1 hp).follow?
  by_cases hc : p.cause = .missing
  · exact Json.isFinite_of_follow? (hmissing hc).2.2 hv
  · exact Json.isFinite_of_follow? (hinside hc) hv

namespace Report

variable {place : List Step} {p : Problem Empty}

theorem isFinite_jsonProblem (h : p.input.isFinite = true) :
    (jsonProblem place p).isFinite = true := by
  have hplace : Json.allFinite ((place ++ p.path).map Step.toJson) = true := by
    rw [Json.allFinite_iff]
    intro v hv
    obtain ⟨s, -, rfl⟩ := List.mem_map.1 hv
    exact s.isFinite_toJson
  have hcontext : Json.allFieldsFinite (contextOf p.cause) = true := by
    cases p.cause <;> rfl
  simp only [jsonProblem, jsonEntry, Json.isFinite, List.cons_append, List.nil_append,
    Json.allFieldsFinite, hplace, h, Bool.true_and]
  split_ifs
  · rfl
  · simp [Json.allFieldsFinite, Json.isFinite, hcontext]

theorem corresponds_jsonProblem (p : Problem Empty) :
    Corresponds (jsonProblem [.key "body", .key "model"] p) p := by
  refine ⟨_, p.cause.code .request, rfl, rfl, ?_, rfl⟩
  cases p.cause <;> simp [Cause.code]

end Report

/-! ### Agreement -/

namespace Service

theorem refuse_eq_answer {entries : List Document} (h : ∀ w ∈ entries, w.isFinite = true) :
    refuse entries = .answer 422 (.object [("detail", .array entries)]) := by
  have hfinite := Json.allFinite_iff.2 h
  simp [refuse, Json.isFinite, Json.allFieldsFinite, hfinite]

/-- The answer to a model that is refused has an entry for each problem. -/
theorem renderValue_of_bad {v : Document} {p : Problem Empty} {ps : List (Problem Empty)}
    (hv : v.isFinite = true) (h : Model.ofJson v = .bad p ps) :
    renderValue (.object [("model", v)]) = .answer 422 (.object [("detail",
      .array ((p :: ps).map (Report.jsonProblem [.key "body", .key "model"])))]) := by
  have hbad : RenderRequest.ofJson (.object [("model", v)]) =
      .bad (p.under (.key "model")) (ps.map (Problem.under (.key "model"))) := by
    rw [RenderRequest.ofJson_model, h]
    rfl
  have hentries : (p.under (.key "model") :: ps.map (Problem.under (.key "model"))).map
      (Report.jsonProblem bodyPlace) =
      (p :: ps).map (Report.jsonProblem [.key "body", .key "model"]) := by
    rw [← List.map_cons, List.map_map]
    rfl
  rw [renderValue, hbad]
  simp only [hentries]
  refine refuse_eq_answer fun w hw => ?_
  obtain ⟨q, hq, rfl⟩ := List.mem_map.1 hw
  exact Report.isFinite_jsonProblem (Model.isFinite_input hv (h ▸ hq))

variable {t : FileTree} {snapshot config : String} {v c : Document} {argv : List String}
  {verbose : Bool} {r : Request} {d : String}

/-- Without a filter configuration, the program prints the diagram of the answer. -/
theorem prints_iff_diagram (hv : t.Describes .snapshot snapshot v)
    (hargv : Invocation.parse argv = .ok ⟨verbose, .render snapshot none none⟩)
    (hr : r.Asks (.object [("model", v)])) :
    (Run.ofCommandLine argv t).Prints d ↔ respond r = .diagram d := by
  rw [Run.ofCommandLine_render hargv, Run.ofJob_prints_iff rfl, hr.respond_eq,
    renderValue_eq_diagram_iff, RenderRequest.ofJson_model, Run.jobOf, hv.loadModel_eq]
  simp only [Check.under, map_eq_ok_iff, mapProblems_eq_ok_iff, mapError_toExcept_eq_ok_iff]
  constructor
  · rintro ⟨m, _, _, hm, ⟨⟩, rfl⟩
    exact ⟨_, ⟨m, hm, rfl⟩, rfl⟩
  · rintro ⟨_, ⟨m, hm, rfl⟩, rfl⟩
    exact ⟨m, _, _, hm, rfl, rfl⟩

/-- With a filter configuration, the program prints the diagram of the answer. -/
theorem prints_iff_diagram_filtered (hv : t.Describes .snapshot snapshot v)
    (hc : t.Describes .filterConfig config c) (hnull : c ≠ .null)
    (hargv : Invocation.parse argv = .ok ⟨verbose, .render snapshot (some config) none⟩)
    (hr : r.Asks (.object [("model", v), ("filters", c)])) :
    (Run.ofCommandLine argv t).Prints d ↔ respond r = .diagram d := by
  -- An empty path would mean that there are no filters.
  have hpath : Run.pathOf (some config) = some config := by
    simp [Run.pathOf, Option.filter, hc.path_ne]
  rw [Run.ofCommandLine_render hargv, Run.ofJob_prints_iff rfl, hr.respond_eq,
    renderValue_eq_diagram_iff, RenderRequest.ofJson_filters v hnull, Run.jobOf, hpath,
    hv.loadModel_eq]
  simp only [RenderJob.loadPolicy_eq_ok_iff, hc.loadConfig_eq, Check.under, seq_eq_ok_iff,
    map_eq_ok_iff, mapProblems_eq_ok_iff, mapError_toExcept_eq_ok_iff]
  constructor
  · rintro ⟨m, _, _, hm, ⟨k, hk, rfl, rfl⟩, rfl⟩
    exact ⟨_, ⟨_, k, ⟨m, hm, rfl⟩, hk, rfl⟩, rfl⟩
  · rintro ⟨_, ⟨_, k, ⟨m, hm, rfl⟩, hk, rfl⟩, rfl⟩
    exact ⟨m, _, _, hm, ⟨k, hk, rfl, rfl⟩, rfl⟩

/-- **The program and the service agree.** They draw the same diagram of the same snapshot, with and
without a filter configuration, and one of them draws if and only if the other one does. A snapshot
that is refused has the same problems in both reports, in the same order. -/
theorem respond_agrees {argv' : List String} {verbose' : Bool} {r' : Request}
    (hv : t.Describes .snapshot snapshot v)
    (hc : t.Describes .filterConfig config c) (hnull : c ≠ .null)
    (hargv : Invocation.parse argv = .ok ⟨verbose, .render snapshot none none⟩)
    (hargv' : Invocation.parse argv' = .ok ⟨verbose', .render snapshot (some config) none⟩)
    (hr : r.Asks (.object [("model", v)]))
    (hr' : r'.Asks (.object [("model", v), ("filters", c)])) :
    (∀ d, (Run.ofCommandLine argv t).Prints d ↔ respond r = .diagram d) ∧
    (∀ d, (Run.ofCommandLine argv' t).Prints d ↔ respond r' = .diagram d) ∧
    (v.isFinite = true → (∀ m, Model.ofJson v ≠ .ok m) →
      ∃ ps entries, ps ≠ [] ∧
        t.loadModel snapshot = .error (.rejected .snapshot snapshot (.invalid ps)) ∧
        (Run.ofCommandLine argv t).exitCode = 1 ∧
        (Run.ofCommandLine argv t).errors = Console.shown
          (LoadError.rejected .snapshot snapshot (.invalid ps)).message ∧
        respond r = .answer 422 (.object [("detail", .array entries)]) ∧
        List.Forall₂ Report.Corresponds entries ps) := by
  -- The two checks are one function, so that only the wrappings have to be compared.
  refine ⟨fun d => prints_iff_diagram hv hargv hr,
    fun d => prints_iff_diagram_filtered hv hc hnull hargv' hr', fun hfinite hinvalid => ?_⟩
  cases hm : Model.ofJson v with
  | ok m => exact absurd hm (hinvalid m)
  | bad p ps =>
    have hload : t.loadModel snapshot =
        .error (.rejected .snapshot snapshot (.invalid (p :: ps))) := by
      rw [hv.loadModel_eq, hm]
      rfl
    have hrun := Run.ofCommandLine_of_rejected hargv hload
    refine ⟨p :: ps, _, List.cons_ne_nil _ _, hload, by rw [hrun], by rw [hrun],
      hr.respond_eq.trans (renderValue_of_bad hfinite hm), ?_⟩
    rw [List.forall₂_map_left_iff]
    exact List.forall₂_same.2 fun q _ => Report.corresponds_jsonProblem q

/-! ### A sample -/

/-- A snapshot of one class, and its text. -/
def oneClass : Document × String :=
  (.object [("types", .array [.object [("name", .str "A")]])],
    "\x7b\"types\":[\x7b\"name\":\"A\"\x7d]\x7d")

/-- A snapshot in which a number stands for a type, and its text. -/
def numberForType : Document × String :=
  (.object [("types", .array [.int 1])], "\x7b\"types\":[1]\x7d")

/-- Files with the two snapshots, and with an empty filter configuration. -/
def sampleTree : FileTree := .ofList []
  [("class.json", .file (Utf8.encode oneClass.2)),
    ("number.json", .file (Utf8.encode numberForType.2)),
    ("filters.json", .file (Utf8.encode "\x7b\x7d"))]

/-- A request with a JSON text. -/
def jsonRequest (text : String) : Request where
  method := "POST"
  path := "/render"
  mediaType := some "application/json"
  body := Utf8.encode text

/-- The text of a body with a model, and with more fields. -/
def bodyText (model more : String) : String := "\x7b\"model\":" ++ model ++ more ++ "\x7d"

/-- The field with an empty filter configuration. -/
def noFilters : String := ",\"filters\":\x7b\x7d"

theorem describes_of_toOption {source : Resource} {path text : String}
    (ht : (t.textAt source path).toOption = some text) (hr : Json.Strict.read text = .ok v) :
    t.Describes source path v := by
  refine ⟨text, ?_, hr⟩
  cases h : t.textAt source path <;> simp_all [Except.toOption]

theorem textAt_sampleTree :
    (sampleTree.textAt .snapshot "class.json").toOption = some oneClass.2 ∧
    (sampleTree.textAt .snapshot "number.json").toOption = some numberForType.2 ∧
    (sampleTree.textAt .filterConfig "filters.json").toOption = some "\x7b\x7d" := by
  decide +kernel

theorem strictRead_sample :
    Json.Strict.read oneClass.2 = .ok oneClass.1 ∧
    Json.Strict.read numberForType.2 = .ok numberForType.1 ∧
    Json.Strict.read "\x7b\x7d" = .ok (.object []) :=
  ⟨by cbv, by cbv, by cbv⟩

theorem describes_class : sampleTree.Describes .snapshot "class.json" oneClass.1 :=
  describes_of_toOption textAt_sampleTree.1 strictRead_sample.1

theorem describes_number : sampleTree.Describes .snapshot "number.json" numberForType.1 :=
  describes_of_toOption textAt_sampleTree.2.1 strictRead_sample.2.1

theorem describes_filters : sampleTree.Describes .filterConfig "filters.json" (.object []) :=
  describes_of_toOption textAt_sampleTree.2.2 strictRead_sample.2.2

theorem asks_of_text? {text : String} (hne : Utf8.encode text ≠ [])
    (ht : Body.text? (Utf8.encode text) = some text) (hr : Json.Lenient.read text = .ok v) :
    (jsonRequest text).Asks v := by
  have hj : MediaType.isJson (some "application/json") = true := by decide +kernel
  refine ⟨rfl, rfl, ?_⟩
  simp [Body.content, jsonRequest, hne, hj, ht, hr]

/-- The texts of requests for the diagrams of the two snapshots, without and with filters. -/
def sampleBodies : List String :=
  [bodyText oneClass.2 "", bodyText oneClass.2 noFilters, bodyText numberForType.2 "",
    bodyText numberForType.2 noFilters]

theorem text?_sampleBodies :
    ∀ text ∈ sampleBodies, Utf8.encode text ≠ [] ∧ Body.text? (Utf8.encode text) = some text := by
  decide +kernel

theorem asks_of_mem_sampleBodies {text : String} (h : text ∈ sampleBodies)
    (hr : Json.Lenient.read text = .ok v) : (jsonRequest text).Asks v :=
  asks_of_text? (text?_sampleBodies text h).1 (text?_sampleBodies text h).2 hr

theorem lenientRead_sample :
    Json.Lenient.read (bodyText oneClass.2 "") = .ok (.object [("model", oneClass.1)]) ∧
    Json.Lenient.read (bodyText oneClass.2 noFilters) =
      .ok (.object [("model", oneClass.1), ("filters", .object [])]) ∧
    Json.Lenient.read (bodyText numberForType.2 "") = .ok (.object [("model", numberForType.1)]) ∧
    Json.Lenient.read (bodyText numberForType.2 noFilters) =
      .ok (.object [("model", numberForType.1), ("filters", .object [])]) :=
  ⟨by cbv, by cbv, by cbv, by cbv⟩

theorem asks_class :
    (jsonRequest (bodyText oneClass.2 "")).Asks (.object [("model", oneClass.1)]) :=
  asks_of_mem_sampleBodies (by simp [sampleBodies]) lenientRead_sample.1

theorem asks_class_filters :
    (jsonRequest (bodyText oneClass.2 noFilters)).Asks
      (.object [("model", oneClass.1), ("filters", .object [])]) :=
  asks_of_mem_sampleBodies (by simp [sampleBodies]) lenientRead_sample.2.1

theorem asks_number :
    (jsonRequest (bodyText numberForType.2 "")).Asks (.object [("model", numberForType.1)]) :=
  asks_of_mem_sampleBodies (by simp [sampleBodies]) lenientRead_sample.2.2.1

theorem asks_number_filters :
    (jsonRequest (bodyText numberForType.2 noFilters)).Asks
      (.object [("model", numberForType.1), ("filters", .object [])]) :=
  asks_of_mem_sampleBodies (by simp [sampleBodies]) lenientRead_sample.2.2.2

theorem isPlain_sample : IsPlain "class.json" ∧ IsPlain "number.json" ∧ IsPlain "filters.json" := by
  simp [IsPlain]

/-- The class is drawn with and without filters, and the number is refused. -/
theorem respond_agrees_sample :
    respond (jsonRequest (bodyText oneClass.2 "")) = .diagram "classDiagram\n    class A\n" ∧
    respond (jsonRequest (bodyText oneClass.2 noFilters)) = .diagram "classDiagram\n    class A\n" ∧
    ∃ ps entries, ps ≠ [] ∧
      sampleTree.loadModel "number.json" =
        .error (.rejected .snapshot "number.json" (.invalid ps)) ∧
      respond (jsonRequest (bodyText numberForType.2 "")) =
        .answer 422 (.object [("detail", .array entries)]) ∧
      List.Forall₂ Report.Corresponds entries ps := by
  obtain ⟨hclass, hnumber, hfilters⟩ := isPlain_sample
  have hdrawn := respond_agrees describes_class describes_filters (by simp)
    (Invocation.parse_render hclass) (Invocation.parse_render_filters hclass hfilters)
    asks_class asks_class_filters
  have hrefused := respond_agrees describes_number describes_filters (by simp)
    (Invocation.parse_render hnumber) (Invocation.parse_render_filters hnumber hfilters)
    asks_number asks_number_filters
  have hproblems : (Model.ofJson numberForType.1).problems.isEmpty = false := by decide +kernel
  refine ⟨(hdrawn.1 _).1 ⟨by decide +kernel, by decide +kernel⟩,
    (hdrawn.2.1 _).1 ⟨by decide +kernel, by decide +kernel⟩, ?_⟩
  obtain ⟨ps, entries, hne, hload, -, -, hanswer, hall⟩ := hrefused.2.2 rfl fun m hm => by
    simp [hm, problems] at hproblems
  exact ⟨ps, entries, hne, hload, hanswer, hall⟩

end Service

end ClassDiagram
