import ClassDiagram.Proofs.Check.Configuration
import ClassDiagram.Proofs.CommandLine.Outcome
import ClassDiagram.Proofs.Filter.Equivalence
import ClassDiagram.Session.Run

/-!
# Routes to a policy

A policy is made of a configuration, of its parts, or of nothing, and it makes no difference which
way is taken. A part that is left out means its default, and a part that is given as an empty list
leaves nothing out.

* `FilterConfig.ofValues_given?` and `FilterConfig.policy_ofConfig` compare the policies of a
  configuration;
* `ConfigPart.Excludes` is one reason to leave out an edge, `Policy.keeps_iff` says that there are
  no reasons but these and the origin of a type;
* `Model.DrawnByDefault` says what the ways without a configuration draw;
* `FilterConfig.routes_agree` puts these together.
-/

namespace ClassDiagram

open Check Checked CommandLine

/-! ### Policies of a configuration -/

namespace Policy

@[simp]
theorem specialBases_ofConfig (c : FilterConfig) : (ofConfig c).specialBases = c.specialBases := rfl

@[simp]
theorem specialInterfaces_ofConfig (c : FilterConfig) :
    (ofConfig c).specialInterfaces = c.specialInterfaces := rfl

@[simp]
theorem frameworkRules_ofConfig (c : FilterConfig) :
    (ofConfig c).frameworkRules = c.frameworkNamespaces.map NamespaceRule.mk := rfl

theorem tagOf_toJson (t : SpecialType) : tagOf (Enumeration.toJson t) = .ok t := by
  rw [tagOf, choice_ok]
  rfl

theorem patternOf_str (s : String) : patternOf (.str s) = .ok s := rfl

end Policy

namespace FilterConfig

open ConfigPart

variable {fields : List (String × Document)} {c c' : FilterConfig}

/-- The values that are given for a part are those of the configuration; where none are given, the
default takes their place. -/
theorem mapM_given?_eq_ok {α ε : Type} {f : α → Document} {read : Document → Except ε α}
    {as defaults : List α} (h : ofJson (.object fields) = .ok c) (part : ConfigPart)
    (hread : ∀ a, read (f a) = .ok a) (hinj : Function.Injective f)
    (hvalues : part.values c = as.map f) (hdefaults : part.defaults = defaults.map f) :
    ∃ o : Option (List α), (part.given? fields).mapM (·.mapM read) = .ok o ∧
      o.getD defaults = as := by
  obtain hsome | ⟨hnone, hdefault⟩ := given?_cases h part
  · refine ⟨some as, ?_, rfl⟩
    rw [hsome, hvalues, Option.mapM_some, mapM_map_eq_ok (k := id) hread, List.map_id]
    rfl
  · refine ⟨none, by rw [hnone]; rfl, ?_⟩
    rw [hvalues, hdefaults] at hdefault
    exact (hinj.list_map hdefault).symm

/-- The parts that an object gives make the policy of the configuration that is read from it. -/
theorem ofValues_given? (h : ofJson (.object fields) = .ok c) :
    Policy.ofValues (given? fields .specialBases) (given? fields .specialInterfaces)
      (given? fields .frameworkNamespaces) = .ok (Policy.ofConfig c) := by
  have htag := Enumeration.toJson_injective (ρ := Empty) (α := SpecialType)
  obtain ⟨bases, hbases, hb⟩ :=
    mapM_given?_eq_ok h .specialBases Policy.tagOf_toJson htag rfl rfl
  obtain ⟨interfaces, hinterfaces, hi⟩ :=
    mapM_given?_eq_ok h .specialInterfaces Policy.tagOf_toJson htag rfl rfl
  obtain ⟨patterns, hpatterns, hn⟩ :=
    mapM_given?_eq_ok h .frameworkNamespaces Policy.patternOf_str (fun _ _ => Json.str.inj) rfl rfl
  rw [Policy.ofValues, hbases, hinterfaces, hpatterns, Policy.ofConfig, ← hb, ← hi, ← hn]
  rfl

/-- A draft that was not edited describes the policy of its configuration. -/
theorem policy_ofConfig (c : FilterConfig) :
    (DraftConfig.ofConfig c).policy = .ok (Policy.ofConfig c) := by
  have htags (ts : List SpecialType) :
      DraftConfig.tags (.array (ts.map Enumeration.toJson)) = .ok (some ts) := by
    have hts : (ts.map Enumeration.toJson).mapM DraftConfig.tagOfItem = .ok (ts.map some) :=
      mapM_map_eq_ok (fun t => by rw [Enumeration.toJson, DraftConfig.tagOfItem,
        Enumeration.ofName?_name]) ts
    rw [DraftConfig.tags, DraftConfig.itemsOf]
    simp only [Except.bind, bind, hts, List.filterMap_map, pure, Except.pure]
    simp
  have hpatterns : (c.frameworkNamespaces.map Json.str).mapM Policy.patternOf =
      .ok c.frameworkNamespaces := by
    rw [mapM_map_eq_ok (k := id) Policy.patternOf_str, List.map_id]
  simp only [DraftConfig.policy, DraftConfig.ofConfig, htags, DraftConfig.itemsOf, bind,
    Except.bind, Option.mapM_some, hpatterns]
  rfl

/-- Configurations with the same values in each part draw the same diagrams. -/
theorem render_eq_of_values (h : ∀ (part : ConfigPart) v, v ∈ part.values c ↔ v ∈ part.values c')
    (m : Model) : m.render (.ofConfig c) = m.render (.ofConfig c') := by
  have htag (s : SpecialType) (ss : List SpecialType) :
      (Enumeration.toJson s : Document) ∈ ss.map Enumeration.toJson ↔ s ∈ ss :=
    List.mem_map_of_injective Enumeration.toJson_injective
  have hrules (r : NamespaceRule) :
      r ∈ (Policy.ofConfig c).frameworkRules ↔ r ∈ (Policy.ofConfig c').frameworkRules := by
    have hpattern (s : String) : s ∈ c.frameworkNamespaces ↔ s ∈ c'.frameworkNamespaces := by
      simpa [values] using h .frameworkNamespaces (.str s)
    simp [hpattern]
  have hequiv : (Policy.ofConfig c).Equivalent (Policy.ofConfig c') := {
    specialBases := fun s => by
      simpa [values, htag] using h .specialBases (Enumeration.toJson s)
    specialInterfaces := fun s => by
      simpa [values, htag] using h .specialInterfaces (Enumeration.toJson s)
    rules := fun r hr hne => ⟨r, (hrules r).1 hr, hne, List.prefix_rfl⟩
    rules_symm := fun r hr hne => ⟨r, (hrules r).2 hr, hne, List.prefix_rfl⟩ }
  exact hequiv.render_eq m

end FilterConfig

/-! ### Reasons to leave out an edge -/

/-- The part is a reason to leave the edge out. -/
def ConfigPart.Excludes (p : Policy) (e : Edge) : ConfigPart → Prop
  | frameworkNamespaces => ∃ r ∈ p.frameworkRules, r.covers e.target.namespaceName = true
  | specialBases => e.kind = .generalization ∧ ∃ s ∈ p.specialBases, e.target.special = some s
  | specialInterfaces =>
    e.kind = .realization ∧ ∃ s ∈ p.specialInterfaces, e.target.special = some s

namespace Policy

variable {p : Policy} {e : Edge}

theorem isFrameworkOwned_iff : p.isFrameworkOwned e.target = true ↔
    e.target.origin = .framework ∨ ConfigPart.frameworkNamespaces.Excludes p e := by
  simp [isFrameworkOwned, ConfigPart.Excludes]

theorem any_contains_iff {ss : List SpecialType} {o : Option SpecialType} :
    o.any (ss.contains ·) = true ↔ ∃ s ∈ ss, o = some s := by
  cases o <;> simp

/-- An edge is left out because of where its target comes from, or because of a part of the
configuration, and for no other reason. -/
theorem keeps_iff : p.keeps e = true ↔
    e.target.origin ≠ .framework ∧ ∀ part : ConfigPart, ¬ part.Excludes p e := by
  have hparts : (∀ part : ConfigPart, ¬ part.Excludes p e) ↔
      ¬ ConfigPart.frameworkNamespaces.Excludes p e ∧ ¬ ConfigPart.specialBases.Excludes p e ∧
        ¬ ConfigPart.specialInterfaces.Excludes p e :=
    ⟨fun h => ⟨h _, h _, h _⟩, fun h part => by cases part <;> simp [h]⟩
  rw [hparts]
  -- Each kind of edge asks for the tags of one part only.
  cases hk : e.kind with
  | realization =>
    have htag : p.isSpecialInterface e.target = true ↔
        ConfigPart.specialInterfaces.Excludes p e := by
      rw [isSpecialInterface, any_contains_iff]
      simp [ConfigPart.Excludes, hk]
    have hbases : ¬ ConfigPart.specialBases.Excludes p e := by
      simp [ConfigPart.Excludes, hk]
    rw [keeps, hk, admitsInterface, Bool.not_eq_true', Bool.or_eq_false_iff]
    simp only [← Bool.not_eq_true, htag, isFrameworkOwned_iff]
    tauto
  | generalization =>
    have htag : p.isSpecialBase e.target = true ↔ ConfigPart.specialBases.Excludes p e := by
      rw [isSpecialBase, any_contains_iff]
      simp [ConfigPart.Excludes, hk]
    have hinterfaces : ¬ ConfigPart.specialInterfaces.Excludes p e := by
      simp [ConfigPart.Excludes, hk]
    rw [keeps, hk, admitsBase, Bool.not_eq_true', Bool.or_eq_false_iff]
    simp only [← Bool.not_eq_true, htag, isFrameworkOwned_iff]
    tauto

end Policy

namespace FilterConfig

open ConfigPart

variable {fields : List (String × Document)} {c : FilterConfig} {e : Edge}

/-- A part that is given as an empty list is no reason to leave an edge out. -/
theorem not_excludes_of_given?_eq_nil (h : ofJson (.object fields) = .ok c) {part : ConfigPart}
    (hempty : part.given? fields = some []) : ¬ part.Excludes (.ofConfig c) e := by
  have hnil : part.values c = [] := by
    obtain hsome | ⟨hnone, -⟩ := given?_cases h part
    · exact Option.some.inj (hsome.symm.trans hempty)
    · simp [hnone] at hempty
  cases part <;> simp_all [values, Excludes]

theorem mem_keptEdges_iff (h : ofJson (.object fields) = .ok c) (m : Model) :
    e ∈ m.keptEdges (.ofConfig c) ↔ e ∈ m.edges ∧ e.target.origin ≠ .framework ∧
      ∀ part : ConfigPart, part.given? fields ≠ some [] → ¬ part.Excludes (.ofConfig c) e := by
  rw [Model.keptEdges, List.mem_filter, Policy.keeps_iff]
  refine and_congr_right' (and_congr_right' (forall_congr' fun part => ?_))
  exact ⟨fun hpart _ => hpart, fun hpart => by
    by_cases hempty : part.given? fields = some []
    · exact not_excludes_of_given?_eq_nil h hempty
    · exact hpart hempty⟩

end FilterConfig

/-! ### Without a configuration -/

/-- All ways to draw a model without saying what to leave out succeed, and they come to the text. -/
structure Model.DrawnByDefault (m : Model) (text : String) : Prop where
  /-- With the empty configuration. -/
  config : ∃ c, FilterConfig.ofJson (.object [] : Document) = .ok c ∧ m.render (.ofConfig c) = text
  /-- By a request of which the filters are absent, null or empty. -/
  request (r : Service.Request) (body : List (String × Document)) (v : Document)
    (hr : r.Asks (.object body)) (hv : Json.get? body "model" = some v)
    (hm : Model.ofJson v = .ok m)
    (hfilters : Json.get? body "filters" ∈ [none, some .null, some (.object [])]) :
    Service.respond r = .diagram text
  /-- By a run without filters. -/
  program (t : FileTree) (argv : List String) (verbose : Bool) (snapshot : String)
    (output : Option String) (target : Option FilePath)
    (hargv : Invocation.parse argv = .ok ⟨verbose, .render snapshot none output⟩)
    (hm : t.loadModel snapshot = .ok m) (ho : t.Opens output target) :
    (Run.ofCommandLine argv t).Delivers t target text
  /-- In a session, without a policy. -/
  session (s : Session) (name : String) (hm : s.value name = .ok (.built (.model m))) :
    s.perform (.render name none) = .ok (s, .str text)

theorem FilterConfig.ofJson_nil : ofJson (.object [] : Document) = .ok {} :=
  ofJson_object_eq_ok_iff.2 fun part => by cases part <;> rfl

theorem RenderRequest.ofJson_object_eq_ok_iff {body : List (String × Document)}
    {q : RenderRequest} : ofJson (.object body) = .ok q ↔
      Yields body Keys.model none Model.ofJson q.model ∧
      Yields body Keys.filters (some none) (fun v => nullable v (FilterConfig.ofJson v))
        q.filters := by
  simp only [ofJson, seq_eq_ok_iff, map_eq_ok_iff, ← required_eq_ok_iff_yields,
    ← optional_eq_ok_iff_yields]
  constructor
  · rintro ⟨_, _, ⟨_, hm, rfl⟩, hf, rfl⟩
    exact ⟨hm, hf⟩
  · rintro ⟨hm, hf⟩
    exact ⟨_, _, ⟨_, hm, rfl⟩, hf, rfl⟩

/-- Filters that are absent, null or empty ask for the standard policy. -/
theorem RenderRequest.exists_policy_standard {body : List (String × Document)} {m : Model}
    {v : Document} (hv : Json.get? body "model" = some v) (hm : Model.ofJson v = .ok m)
    (hfilters : Json.get? body "filters" ∈ [none, some .null, some (.object [])]) :
    ∃ q, ofJson (.object body) = .ok q ∧ q.model = m ∧ q.policy = .standard := by
  have hmodel : Yields body Keys.model none Model.ofJson m := by
    simpa [Yields, Json.first?, Keys.model, hv] using hm
  have hread (o : Option FilterConfig)
      (ho : Yields body Keys.filters (some none) (fun v => nullable v (FilterConfig.ofJson v)) o) :
      ofJson (.object body) = .ok ⟨m, o⟩ :=
    ofJson_object_eq_ok_iff.2 ⟨hmodel, ho⟩
  have hfirst : Json.first? body Keys.filters = Json.get? body "filters" := by
    simp [Json.first?, Keys.filters]
  simp only [Yields, hfirst] at hread
  simp only [List.mem_cons, List.not_mem_nil, or_false] at hfilters
  obtain habsent | hnull | hempty := hfilters
  · exact ⟨_, hread none (by simp [habsent]), rfl, rfl⟩
  · exact ⟨_, hread none (by rw [hnull]; rfl), rfl, rfl⟩
  · have hnil : nullable (.object [] : Document) (FilterConfig.ofJson (.object [] : Document)) =
        .ok (some {}) := by
      rw [FilterConfig.ofJson_nil]
      rfl
    exact ⟨_, hread (some {}) (by rw [hempty]; exact hnil), rfl, rfl⟩

/-- Without a configuration, diagrams are drawn under the standard policy. -/
theorem Model.drawnByDefault (m : Model) : m.DrawnByDefault (m.render .standard) where
  config := ⟨{}, FilterConfig.ofJson_nil, rfl⟩
  request r body v hr hv hm hfilters := by
    obtain ⟨q, hq, rfl, hp⟩ := RenderRequest.exists_policy_standard hv hm hfilters
    rw [hr.respond_eq, Service.renderValue_eq_diagram_iff]
    exact ⟨q, hq, by rw [RenderRequest.diagram, hp]⟩
  program t argv verbose snapshot output target hargv hm ho := by
    have hpolicy : t.LoadsPolicy none .standard := .standard fun path => by simp [InForce]
    have hrun := RenderJob.run_jobOf_eq_ok_iff.2 ⟨m, _, target, hm, hpolicy, ho, rfl⟩
    rw [Run.ofCommandLine_render hargv]
    exact Run.ofJob_of_drawing verbose hrun
  session s name hm := by
    exact s.perform_render_none (by rw [Session.model, hm]; rfl)

/-! ### Agreement -/

/-- **All routes to a policy agree.** A configuration that is read from an object draws what is
drawn with the values that the object gives, and with nothing for the parts that it leaves out; so
does its draft. A part that is left out may as well list its default, under any of its keys, at any
place and in any order. Of the parts only those leave out edges that are not given as empty lists.
The ways to draw without a configuration all draw the same. -/
theorem FilterConfig.routes_agree {fields : List (String × Document)} {c : FilterConfig}
    (h : FilterConfig.ofJson (.object fields) = .ok c) :
    (∃ p q, Policy.ofValues (ConfigPart.specialBases.given? fields)
        (ConfigPart.specialInterfaces.given? fields)
        (ConfigPart.frameworkNamespaces.given? fields) = .ok p ∧
      (DraftConfig.ofConfig c).policy = .ok q ∧
      ∀ m : Model, m.render (.ofConfig c) = m.render p ∧ m.render (.ofConfig c) = m.render q) ∧
    (∀ (part : ConfigPart) key before after ds, fields = before ++ after →
      Json.first? fields part.keys = none → key ∈ part.keys → (∀ v, v ∈ ds ↔ v ∈ part.defaults) →
      ∃ c', FilterConfig.ofJson (.object (before ++ (key, .array ds) :: after)) = .ok c' ∧
        ∀ m : Model, m.render (.ofConfig c') = m.render (.ofConfig c)) ∧
    (∀ (m : Model) e, e ∈ m.keptEdges (.ofConfig c) ↔
      e ∈ m.edges ∧ e.target.origin ≠ .framework ∧
        ∀ part : ConfigPart, part.given? fields ≠ some [] → ¬ part.Excludes (.ofConfig c) e) ∧
    (∀ m : Model, m.DrawnByDefault (m.render .standard)) := by
  refine ⟨⟨_, _, ofValues_given? h, policy_ofConfig c, fun m => ⟨rfl, rfl⟩⟩, ?_,
    fun m e => mem_keptEdges_iff h m, Model.drawnByDefault⟩
  rintro part key before after ds rfl hnone hkey hds
  obtain ⟨c', hc', hvalues⟩ := ofJson_writtenOut h hnone hkey hds
  exact ⟨c', hc', render_eq_of_values hvalues⟩

/-- A configuration without the part for interfaces, and with an empty one for base types. -/
def acmeFields : List (String × Document) :=
  [("special_base_types", .array []), ("frameworkNamespaces", .array [.str "Acme", .str "Acme"])]

/-- The configuration comes to the policy of its parts, the default of the interfaces may be listed
backwards, the root of all classes is not left out, and a request with an empty configuration is
answered as one without. -/
theorem FilterConfig.routes_agree_acme :
    ∃ c, FilterConfig.ofJson (.object acmeFields) = .ok c ∧
      (∃ p, Policy.ofValues (some []) none (some [.str "Acme", .str "Acme"]) = .ok p ∧
        ∀ m : Model, m.render (.ofConfig c) = m.render p) ∧
      (∃ c', FilterConfig.ofJson (.object (acmeFields ++ [("special_interfaces",
          .array ConfigPart.specialInterfaces.defaults.reverse)])) = .ok c' ∧
        ∀ m : Model, m.render (.ofConfig c') = m.render (.ofConfig c)) ∧
      ⟨.generalization, Policy.tagged .object, ""⟩ ∈
        (Model.probe .generalization (Policy.tagged .object)).keptEdges (.ofConfig c) ∧
      Service.respond (Service.jsonRequest
        (Service.bodyText Service.oneClass.2 Service.noFilters)) =
          .diagram "classDiagram\n    class A\n" := by
  have hc : FilterConfig.ofJson (.object acmeFields) =
      .ok { frameworkNamespaces := ["Acme", "Acme"], specialBases := [] } :=
    ofJson_object_eq_ok_iff.2 fun part => by cases part <;> rfl
  obtain ⟨⟨p, _, hp, -, hrender⟩, hwritten, hkept, hdefault⟩ := routes_agree hc
  refine ⟨_, hc, ⟨p, hp, fun m => (hrender m).1⟩, ?_, (hkept _ _).2 ⟨?_, by decide, ?_⟩, ?_⟩
  · exact hwritten .specialInterfaces "special_interfaces" acmeFields [] _ rfl rfl (by decide)
      fun v => List.mem_reverse
  · simp [Model.edges_probe]
  · intro part hpart
    cases part with
    | frameworkNamespaces => simp [ConfigPart.Excludes, Policy.tagged, NamespaceRule.covers]
    | specialBases => exact absurd rfl hpart
    | specialInterfaces => simp [ConfigPart.Excludes]
  · have hdrawn : (Model.ofJson Service.oneClass.1).result?.map (·.render .standard) =
        some "classDiagram\n    class A\n" := by
      decide +kernel
    cases hm : Model.ofJson Service.oneClass.1 with
    | bad p ps => simp [hm, Checked.result?] at hdrawn
    | ok m =>
      rw [hm] at hdrawn
      rw [← Option.some.inj hdrawn]
      exact (hdefault m).request _ _ _ Service.asks_class_filters rfl hm (by simp [Json.get?])

end ClassDiagram
