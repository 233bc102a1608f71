import ClassDiagram.Proofs.Check.RoundTrip
import ClassDiagram.Proofs.Session.Independence

/-!
# Snapshots

A policy is a snapshot of the draft that it was made of, drafts are separate from each other, and
built values do not change.

* `Session.configured` says how a new configuration stays apart from all others, and
  `Session.policyOf_run` that a new policy stays as it is until it is changed itself;
* `Session.step_set_of_built` says what cannot be assigned to in a built value, and
  `Session.get_of_built` that such a value is always shown as it was made;
* `Session.snapshots` puts together what a session keeps of policies, drafts and built values.
-/

namespace ClassDiagram

/-- The name that a step gives to a new configuration. -/
def SessionStep.configures? : SessionStep → Option String
  | .validate name .config _ | .make name .config _ _ => some name
  | _ => none

/-! ### Policies from drafts -/

theorem Policy.text_of_patternOf {v : Document} {s : String} (h : patternOf v = .ok s) :
    ∃ t, v = .str t := by
  cases v with
  | str t => exact ⟨t, rfl⟩
  | ready r => exact r.elim
  | _ => cases h

/-- No policy is made of a draft in which anything but a text stands among the namespaces. -/
theorem DraftConfig.texts_of_policy {d : DraftConfig} {p : Policy} (h : d.policy = .ok p)
    {vs : List Document} (hvs : d.frameworkNamespaces = .array vs) :
    ∀ v ∈ vs, ∃ t, v = .str t := by
  obtain ⟨bases, -, h⟩ := bind_eq_ok_iff.1 h
  obtain ⟨interfaces, -, h⟩ := bind_eq_ok_iff.1 h
  obtain ⟨items, hitems, h⟩ := bind_eq_ok_iff.1 h
  obtain ⟨patterns, hpatterns, -⟩ := bind_eq_ok_iff.1 h
  rw [hvs] at hitems
  cases hitems
  obtain ⟨ps, hps, -⟩ := bind_eq_ok_iff.1 hpatterns
  intro v hv
  obtain ⟨s, hs⟩ := exists_ok_of_mapM hps v hv
  exact Policy.text_of_patternOf hs

namespace Session

open Checked

variable {s t : Session} {st : SessionStep} {name : String} {v : Document}
  {w : Stored}

/-! ### Configurations -/

/-- A new configuration is a new draft, and shown as what it is. -/
theorem step_of_configures? (h : st.configures? = some name) (hv : (s.step st).2 = .ok v) :
    ∃ c, (s.step st).1 = s.bindCell name (.draft (.ofConfig c)) ∧
      (DraftConfig.ofConfig c).toJson = v := by
  have hbuild {ρ : Type} [Holds ρ] {w : Json ρ} {b : Built} (hb : build .config w = .ok b)
      (hperform : s.perform st = .ok (s.bindBuilt name b, b.toJson)) :
      ∃ c, (s.step st).1 = s.bindCell name (.draft (.ofConfig c)) ∧
        (DraftConfig.ofConfig c).toJson = v := by
    obtain ⟨c, -, rfl⟩ := map_eq_ok_iff.1 hb
    rw [step, hperform] at hv ⊢
    cases hv
    exact ⟨c, rfl, rfl⟩
  rw [snd_step] at hv
  cases hperform : s.perform st with
  | error fault =>
    rw [hperform] at hv
    cases hv
  | ok result =>
    cases st with
    | validate other record text =>
      cases record <;> cases h
      obtain ⟨b, hb, hresult⟩ := bind_eq_ok_iff.1 hperform
      cases hresult
      obtain ⟨w, -, hw⟩ := readAs_eq_ok_iff.1 (mapError_eq_ok_iff.1 hb)
      exact hbuild hw hperform
    | make other record fields sources =>
      cases record <;> cases h
      obtain ⟨input, -, hresult⟩ := bind_eq_ok_iff.1 hperform
      obtain ⟨b, hb, hresult⟩ := bind_eq_ok_iff.1 hresult
      cases hresult
      exact hbuild (mapError_toExcept_eq_ok_iff.1 hb) hperform
    | _ => cases h

/-- What a configuration is that is made of no other values does not depend on the session. -/
theorem snd_step_of_configures? (h : st.configures? = some name) (hused : st.used = []) :
    (s.step st).2 = (t.step st).2 := by
  rw [snd_step, snd_step]
  cases st with
  | validate other record text => exact map_bind_congr fun b => rfl
  | make other record fields sources =>
    have hsources : ∀ f ∈ sources, s.sourceInput f.2 = t.sourceInput f.2 := by
      rintro ⟨field, source⟩ hf
      have hnames : source.names = [] := List.flatMap_eq_nil_iff.1 hused _ hf
      cases source with
      | one => cases hnames
      | many names =>
        cases hnames
        rfl
    rw [perform, perform, inputFields_congr fields hsources]
    exact map_bind_congr fun input => map_bind_congr fun b => rfl
  | _ => cases h

theorem get_eq (hv : s.value name = .ok w) :
    (s.step (.get name [])).2 = .ok (w.toJson s.cells) := by
  have hpart : s.part name [] = .ok w := by
    rw [part, hv]
    rfl
  rw [snd_step, perform, hpart]
  rfl

/-- A step gives a name to a new configuration, which is apart from all others. -/
structure Configured (s : Session) (st : SessionStep) (name : String) (v : Document) : Prop where
  /-- It is a draft. -/
  value : (s.step st).1.value name = .ok (.draft s.cells.length)
  /-- No name stands for that draft yet, or for a document in it. -/
  fresh : ∀ n b, s.binding? n = some b → b.cell? ≠ some s.cells.length
  /-- Whatever is made later stands in another cell. -/
  later : ∀ after, s.cells.length < ((s.step st).1.run after).1.cells.length
  /-- It is shown as it was made until it is edited itself, whatever else is edited. -/
  stays : ∀ after, (s.step st).1.Never (Binds · · name) after →
    (s.step st).1.Never (edited? · · = some s.cells.length) after →
    (((s.step st).1.run after).1.step (.get name [])).2 = .ok v
  /-- Made of no other values, it is the same in every session, whatever was edited there. -/
  same : st.used = [] → ∀ t : Session, (t.step st).2 = .ok v

theorem configured (hs : s.Settled) (h : st.configures? = some name) (hv : (s.step st).2 = .ok v) :
    s.Configured st name v := by
  obtain ⟨c, hstep, hc⟩ := step_of_configures? h hv
  have hvalue : (s.step st).1.value name = .ok (.draft s.cells.length) := by
    rw [hstep]
    exact value_of_binding? (binding?_give_self s name _)
  have hcells : (s.step st).1.cells = s.cells ++ [.draft (.ofConfig c)] := by
    rw [hstep]
    rfl
  have hlength : s.cells.length < (s.step st).1.cells.length := by
    simp [hcells]
  refine ⟨hvalue, fun n b hb hcell => ?_, fun after => ?_, fun after hnever hedit => ?_,
    fun hused t => ?_⟩
  · exact Nat.lt_irrefl _ ((hs n b hb).lt_of_cell? hcell)
  · exact Nat.lt_of_lt_of_le hlength (length_le_run _ after)
  · have hend : ((s.step st).1.run after).1.value name = .ok (.draft s.cells.length) :=
      value_run hnever (by simp) hvalue
    rw [get_eq hend, Stored.toJson, cell_run hedit hlength, hcells, List.getElem?_concat_length]
    exact congrArg Except.ok hc
  · rw [← hv, snd_step_of_configures? h hused]

/-- A new policy stays as it is until it is changed itself. -/
theorem policyOf_run {o : PolicyObject} {after : List SessionStep}
    (hnever : (s.bindCell name (.policy o)).Never (Changes · · name s.cells.length) after) :
    ((s.bindCell name (.policy o)).run after).1.policyOf name = .ok o := by
  have hvalue : ((s.bindCell name (.policy o)).run after).1.value name =
      .ok (.policy s.cells.length) :=
    value_run (hnever.imp fun _ _ => .inl) nofun (value_of_binding? (binding?_give_self s name _))
  have hlength : s.cells.length < (s.bindCell name (.policy o)).cells.length := by simp [bindCell]
  have hcell := cell_run (hnever.imp fun _ _ => .inr) hlength
  rw [bindCell, List.getElem?_concat_length] at hcell
  rw [policyOf, hvalue]
  change Except.ok (policyIn _ _) = _
  rw [policyIn, bindCell, hcell]
  rfl

/-- The policy of the defaults is the same in every session, and stays so until it is changed
itself, and drawing without a policy uses it. -/
theorem defaults_apart (s : Session) (name m : String) :
    (∀ after, (s.step (.policy name .defaults)).1.Never (Changes · · name s.cells.length) after →
      ((s.step (.policy name .defaults)).1.run after).1.policyOf name =
        .ok (.made Policy.standard)) ∧
      (s.step (.render m none)).2 =
        (s.model m "classes").map fun m => .str (m.render Policy.standard) := by
  refine ⟨fun after hnever => policyOf_run hnever, ?_⟩
  rw [snd_step]
  cases hm : s.model m "classes" with
  | error fault =>
    rw [perform, hm]
    rfl
  | ok m =>
    rw [perform_render_none s hm]
    rfl

/-! ### Built values -/

/-- A value without cells takes an attribute only if it is built and the attribute is private, or if
it is a word and no vocabulary keeps the attribute. -/
theorem replace_of_fixed {a : Attribute} (s : Session) (value : Document) (hv : w.Fixed)
    (hbuilt : ∀ b, w = .built b → a.isPrivate = false)
    (hword : ∀ u, w = .word u → (u.keeper? a.name).isSome) :
    ∃ fault, s.replace w a value = .error fault := by
  cases hv with
  | built b =>
    rw [replace, if_neg (by simp [hbuilt b rfl])]
    exact ⟨_, rfl⟩
  | word u =>
    obtain ⟨vocabulary, hkept⟩ := Option.isSome_iff_exists.1 (hword u rfl)
    simp only [replace, hkept]
    exact ⟨_, rfl⟩
  | data | tags | sequence => exact ⟨_, rfl⟩

theorem fixed_of_built {b : Built} {path : List PathItem} (hb : s.value name = .ok (.built b))
    (h : s.part name path = .ok w) : w.Fixed := by
  rw [part, hb] at h
  exact (Stored.Fixed.built b).follow (mapError_eq_ok_iff.1 h)

theorem step_set_of_built {b : Built} (hb : s.value name = .ok (.built b)) {path : List PathItem}
    {a : Attribute} (value : Document)
    (hbuilt : ∀ c, s.part name path = .ok (.built c) → a.isPrivate = false)
    (hword : ∀ u, s.part name path = .ok (.word u) → (u.keeper? a.name).isSome) :
    ∃ fault, s.step (.set name path a value) = (s, .error fault) := by
  cases hperform : s.perform (.set name path a value) with
  | error fault => exact ⟨fault, by rw [step, hperform]⟩
  | ok result =>
    obtain ⟨w, hw, hresult⟩ := bind_eq_ok_iff.1 hperform
    obtain ⟨t, ht, -⟩ := bind_eq_ok_iff.1 hresult
    obtain ⟨fault, hfault⟩ := replace_of_fixed s value (fixed_of_built hb hw)
      (fun c hc => hbuilt c (hc ▸ hw)) (fun u hu => hword u (hu ▸ hw))
    cases hfault.symm.trans ht

/-- Whatever is attached to a built value or to a part of it, the session stays as it is. -/
theorem fst_step_set_of_built {b : Built} (hb : s.value name = .ok (.built b))
    (path : List PathItem) (a : Attribute) (value : Document) :
    (s.step (.set name path a value)).1 = s := by
  cases hperform : s.perform (.set name path a value) with
  | error fault => rw [step, hperform]
  | ok result =>
    obtain ⟨w, hw, hresult⟩ := bind_eq_ok_iff.1 hperform
    obtain ⟨t, ht, hresult⟩ := bind_eq_ok_iff.1 hresult
    cases hresult
    rw [step_of_perform hperform]
    rcases replace_cases ht with rfl | ⟨cell, hcell, -⟩
    · rfl
    · cases (Stored.cell?_of_fixed (fixed_of_built hb hw)).symm.trans hcell

/-- A built value is shown as it was made until its name is given to something else. -/
theorem get_of_built {b : Built} (hb : s.value name = .ok (.built b)) {after : List SessionStep}
    (hnever : s.Never (Binds · · name) after) :
    ((s.run after).1.step (.get name [])).2 = .ok b.toJson := by
  have hend : (s.run after).1.value name = .ok (.built b) := value_run hnever (by simp) hb
  rw [get_eq hend]
  rfl

/-! ### Steps that fail -/

theorem step_of_error {fault : SessionFault} (h : (s.step st).2 = .error fault) :
    (s.step st).1 = s := by
  rcases s.step_cases st with ⟨-, shown, hshown⟩ | ⟨hsame, -⟩
  · cases h.symm.trans hshown
  · exact hsame

theorem step_policy_of_not_text {c : String} {cell : Nat} {d : DraftConfig} {vs : List Document}
    (hc : s.value c = .ok (.draft cell)) (hd : s.cells[cell]? = some (.draft d))
    (hvs : d.frameworkNamespaces = .array vs) (hv : v ∈ vs) (htext : ∀ text, v ≠ .str text) :
    ∃ fault, s.step (.policy name (.draft c)) = (s, .error fault) := by
  have hpolicy : s.policyFrom (.draft c) = d.policy.mapError .noPolicy := by
    rw [policyFrom, hc]
    change ((s.draftIn cell).policy).mapError _ = _
    rw [draftIn, hd]
    rfl
  cases hp : d.policy with
  | error fault =>
    refine ⟨.noPolicy fault, ?_⟩
    rw [step, perform, hpolicy, hp]
    rfl
  | ok p =>
    obtain ⟨text, rfl⟩ := DraftConfig.texts_of_policy hp hvs v hv
    exact absurd rfl (htext text)

/-! ### Snapshots -/

/-- **Policies are snapshots, and built values do not change.**

A policy that is not changed itself answers the same about the same model or type, whatever else was
done since it was made; edits do not change what it is asked about, unless that takes something from
an edited draft; and no edit of a draft changes a policy. Every new configuration is apart from all
others and from the defaults. Nothing that is assigned to a built value or to a part of it is seen
in the session, and only private attributes and those of words can be assigned to at all. A step
that fails leaves the session as it was, and such a step is one that makes a policy of a draft with
anything but a text among its namespaces. -/
theorem snapshots :
    (∀ (before : List SessionStep) (p : String) (cell : Nat),
      (run {} before).1.value p = .ok (.policy cell) →
      (∀ steps steps' : List SessionStep,
        (run {} before).1.Never (Changes · · p cell) steps →
        (run {} before).1.Never (Changes · · p cell) steps' →
        ∀ st : SessionStep, st.asks p [] = true →
          (∀ n, st.subject? = some n → ((run {} before).1.run steps).1.value n =
            ((run {} before).1.run steps').1.value n) →
          (((run {} before).1.run steps).1.step st).2 =
            (((run {} before).1.run steps').1.step st).2) ∧
      (∀ (D : List String) (steps steps' : List SessionStep), (run {} before).1.Separate D →
        SameBut (·.EditsIn D) (·.KeepsTo D) steps steps' →
        (p ∈ D → (run {} before).1.Never (Changes · · p cell) steps ∧
          (run {} before).1.Never (Changes · · p cell) steps') →
        (run {} before).1.answers p D steps = (run {} before).1.answers p D steps') ∧
      ∀ (st : SessionStep) (target : String) (i : Nat), st.target? = some target →
        (run {} before).1.value target = .ok (.draft i) →
        ¬ (run {} before).1.Changes st p cell) ∧
    ((∀ (before : List SessionStep) (st : SessionStep) (name : String) (v : Document),
        st.configures? = some name → ((run {} before).1.step st).2 = .ok v →
        (run {} before).1.Configured st name v) ∧
      ∀ (s : Session) (name m : String),
        (∀ after,
          (s.step (.policy name .defaults)).1.Never (Changes · · name s.cells.length) after →
          ((s.step (.policy name .defaults)).1.run after).1.policyOf name =
            .ok (.made Policy.standard)) ∧
        (s.step (.render m none)).2 =
          (s.model m "classes").map fun m => .str (m.render Policy.standard)) ∧
    (∀ (s : Session) (name : String) (b : Built), s.value name = .ok (.built b) →
      (∀ (path : List PathItem) (a : Attribute) (value : Document),
        (∀ c, s.part name path = .ok (.built c) → a.isPrivate = false) →
        (∀ w, s.part name path = .ok (.word w) → (w.keeper? a.name).isSome) →
        ∃ fault, s.step (.set name path a value) = (s, .error fault)) ∧
      (∀ (path : List PathItem) (a : Attribute) (value : Document),
        (s.step (.set name path a value)).1 = s) ∧
      ∀ after, s.Never (Binds · · name) after →
        ((s.run after).1.step (.get name [])).2 = .ok b.toJson) ∧
    (∀ (s : Session) (st : SessionStep) (fault : SessionFault), (s.step st).2 = .error fault →
      (s.step st).1 = s) ∧
    ∀ (s : Session) (name c : String) (cell : Nat) (d : DraftConfig) (vs : List Document)
      (v : Document), s.value c = .ok (.draft cell) → s.cells[cell]? = some (.draft d) →
      d.frameworkNamespaces = .array vs → v ∈ vs → (∀ text, v ≠ .str text) →
      ∃ fault, s.step (.policy name (.draft c)) = (s, .error fault) := by
  refine ⟨fun before p cell hp => ⟨?_, ?_, ?_⟩,
    ⟨fun before st name v h hv => configured (settled_run before) h hv, defaults_apart⟩,
    fun s name b hb => ⟨?_, fst_step_set_of_built hb, fun after => get_of_built hb⟩,
    fun s st fault => step_of_error,
    fun s name c cell d vs v hc hd hvs hv htext => step_policy_of_not_text hc hd hvs hv htext⟩
  · intro steps steps' hnever hnever' st hst hsubject
    exact answer_eq_of_subject_eq (settled_run before) hp hnever hnever' hst hsubject
  · intro D steps steps' hD hsame hnever
    exact answers_eq_of_sameBut (settled_run before) hD hp hsame hnever
  · intro st target i htarget hdraft
    exact (settled_run before).not_changes (faithful_run before) hp hdraft htarget
  · intro path a value hbuilt hword
    exact step_set_of_built hb value hbuilt hword

/-! ### A sample -/

/-- Steps that build a configuration, an empty model, and a policy of the configuration. -/
def prepared : List SessionStep :=
  [.make "c" .config [] [], .make "m" .model [] [], .policy "p" (.draft "c")]

/-- The session after these steps, with other namespaces in the configuration. -/
def preparedWith (namespaces : List Document) : Session where
  names := [("p", .value (.policy 1)), ("m", .value (.built (.model {}))), ("c", .value (.draft 0))]
  cells := [.draft { DraftConfig.ofConfig {} with frameworkNamespaces := .array namespaces },
    .policy (.made (Policy.ofConfig {}))]

theorem run_prepared :
    (run {} prepared).1 = preparedWith [.str "System", .str "Microsoft"] := by
  have hc : build .config (.object [] : Json Built) = .ok (.config (.ofConfig {})) := rfl
  have hm : build .model (.object [] : Json Built) = .ok (.model {}) := rfl
  rw [prepared, run_cons, step_make rfl hc, run_cons, step_make rfl hm]
  rfl

/-- An edit of the configuration. -/
def otherNamespace : SessionStep :=
  .set "c" [] ⟨"framework_namespaces", by decide⟩ (.array [.str "Foo"])

theorem step_otherNamespace (namespaces : List Document) :
    (preparedWith namespaces).step otherNamespace = (preparedWith [.str "Foo"], .ok .null) := rfl

/-- Steps that build a type whose name is a namespace of the configuration, and ask the policy about
it. -/
def askAboutNamespace : List SessionStep :=
  [.pick "x" "c" [.part "framework_namespaces", .index 0], .make "t" .type [] [("name", .one "x")],
    .flags "p" "t"]

theorem answers_askAboutNamespace (text : String) (rest : List Document) :
    (preparedWith (.str text :: rest)).answers "p" [] askAboutNamespace =
      [.ok (((Policy.ofConfig {}).flags { name := text }).toJson { name := text })] := by
  let picked := (preparedWith (.str text :: rest)).bind "x" (.text text)
  have hpick : (preparedWith (.str text :: rest)).step
      (.pick "x" "c" [.part "framework_namespaces", .index 0]) = (picked, .ok (.str text)) := rfl
  have hbuild : build .type (.object [("name", .str text)] : Json Built) =
      .ok (.type { name := text }) := by
    refine map_ok Built.type ?_
    rw [TypeSymbol.ofJson_object]
    rfl
  have hmake : picked.step (.make "t" .type [] [("name", .one "x")]) =
      (picked.bind "t" (.built (.type { name := text })), _) := step_make rfl hbuild
  rw [askAboutNamespace, answers_cons, hpick, answers_cons, hmake, answers_cons,
    if_neg (by decide), if_neg (by decide), if_pos (by decide)]
  rfl

/-- Steps that build a configuration, a policy of it, and a type with a tag. -/
def tagged : List SessionStep :=
  [.make "c" .config [] [], .policy "p" (.draft "c"),
    .make "t" .type [("name", .str "A"), ("special", .str "Object")] []]

/-- The session after these steps. -/
def taggedSession : Session where
  names := [("t", .value (.built (.type { name := "A", special := some .object }))),
    ("p", .value (.policy 1)), ("c", .value (.draft 0))]
  cells := [.draft (.ofConfig {}), .policy (.made (Policy.ofConfig {}))]

theorem run_tagged : (run {} tagged).1 = taggedSession := by
  have hc : build .config (.object [] : Json Built) = .ok (.config (.ofConfig {})) := rfl
  have ht : build .type (.object [("name", .str "A"), ("special", .str "Object")] : Json Built) =
      .ok (.type { name := "A", special := some .object }) := by
    refine map_ok Built.type ?_
    rw [TypeSymbol.ofJson_object]
    rfl
  rw [tagged, run_cons, step_make rfl hc, run_cons]
  change (run _ [.make "t" .type _ _]).1 = _
  rw [run_cons, step_make rfl ht]
  rfl

/-- Steps that make a new policy, and assign to it. -/
def assignToNew : List SessionStep :=
  [.policy "q" (.draft "c"), .set "q" [] ⟨"special_base_types", by decide⟩ (.array [])]

/-- A namespace that is no text is added to the configuration. -/
def numberedNamespace : SessionStep := .append "c" "framework_namespaces" (.int 5)

/-- Edits may change what a policy answers about a type that is made of an edited draft. They may
also make a step fail that gives a name away, and what is then assigned by that name goes to the
policy. Private attributes and those of words can be assigned to. -/
theorem answers_depend_on_edits :
    (¬ ∀ (before steps steps' : List SessionStep) (p : String) (cell : Nat),
      (run {} before).1.value p = .ok (.policy cell) →
      SameBut (·.target?.isSome) (fun _ => True) steps steps' →
      (run {} before).1.Never (Binds · · p) steps → (run {} before).1.Never (Binds · · p) steps' →
      (run {} before).1.answers p [] steps = (run {} before).1.answers p [] steps') ∧
    (¬ ∀ (before steps steps' : List SessionStep) (p : String) (cell : Nat) (st : SessionStep),
      (run {} before).1.value p = .ok (.policy cell) →
      SameBut (·.target?.isSome) (fun _ => True) steps steps' →
      (run {} before).1.Never (Binds · · p) steps → (run {} before).1.Never (Binds · · p) steps' →
      st.asks p [] = true →
      (∀ n, st.subject? = some n → ((run {} before).1.run steps).1.value n =
        ((run {} before).1.run steps').1.value n) →
      (((run {} before).1.run steps).1.step st).2 = (((run {} before).1.run steps').1.step st).2) ∧
    ((run {} tagged).1.step (.set "t" [] ⟨"_note", by decide⟩ (.int 1))).2 = .ok .null ∧
    ((run {} tagged).1.step (.set "t" [.part "kind"] ⟨"note", by decide⟩ (.int 1))).2 =
      .ok .null := by
  refine ⟨fun h => ?_, fun h => ?_, by rw [run_tagged]; rfl, by rw [run_tagged]; rfl⟩
  · -- The type gets its name from the configuration, before the edit or after it.
    have hsame : SameBut (·.target?.isSome) (fun _ => True) askAboutNamespace
        (otherNamespace :: askAboutNamespace) :=
      .right rfl (.both trivial (.both trivial (.both trivial .nil)))
    have heq := h prepared _ _ "p" 1 (by rw [run_prepared]; rfl) hsame
      (never_binds (by decide)) (never_binds (by decide))
    rw [answers_cons, if_neg (by decide), run_prepared, step_otherNamespace, List.nil_append,
      answers_askAboutNamespace, answers_askAboutNamespace] at heq
    simp [Policy.Flags.toJson, TypeSymbol.qualifiedName] at heq
  · -- With a number among the namespaces there is no new policy: the name stands for the old one.
    have hsame : SameBut (·.target?.isSome) (fun _ => True) (.pick "q" "p" [] :: assignToNew)
        (.pick "q" "p" [] :: numberedNamespace :: assignToNew) :=
      .both trivial (.right rfl (.both trivial (.both trivial .nil)))
    have heq := h tagged _ _ "p" 1 (.flags "p" "t") (by rw [run_tagged]; rfl) hsame
      (never_binds (by decide)) (never_binds (by decide)) rfl (by
        rintro n ⟨⟩
        rw [run_tagged]
        rfl)
    rw [run_tagged] at heq
    change Except.ok (Policy.Flags.toJson ⟨true, false, false, true, false⟩ _) =
      Except.ok (Policy.Flags.toJson ⟨false, false, false, true, true⟩ _) at heq
    simp [Policy.Flags.toJson] at heq

theorem separate_prepared : (run {} prepared).1.Separate ["c"] := by
  rw [run_prepared]
  rintro n hn m hm b c i hb hc hbi hci
  cases List.mem_singleton.1 hn
  cases hb
  cases hbi
  have hm : m ≠ "c" := fun h => hm (List.mem_singleton.2 h)
  -- The only other name of a cell is that of the policy.
  rcases List.mem_cons.1 (mem_of_binding? hc) with h | h
  · cases h
    cases hci
  · rcases List.mem_cons.1 h with h | h
    · cases h
      cases hci
    · cases List.mem_singleton.1 h
      exact hm rfl

theorem not_changes_otherNamespace (namespaces : List Document) :
    ¬ (preparedWith namespaces).Changes otherNamespace "p" 1 := by
  rintro (⟨hbound, -⟩ | hedited)
  · cases hbound
  · cases hedited

/-- An empty model is drawn the same before and after an edit, the configuration and the policy of
the defaults are what they were made, the model is never changed, and neither a name without a value
nor a namespace that is a number changes anything. -/
theorem snapshots_prepared :
    (((run {} prepared).1.run [otherNamespace]).1.step (.render "m" (some "p"))).2 =
      ((run {} prepared).1.step (.render "m" (some "p"))).2 ∧
    (run {} prepared).1.answers "p" ["c"] [otherNamespace, .render "m" (some "p")] =
      [.ok (.str "classDiagram\n")] ∧
    ¬ (run {} prepared).1.Changes otherNamespace "p" 1 ∧
    Configured {} (.make "c" .config [] []) "c" (DraftConfig.ofConfig {}).toJson ∧
    (step {} (.policy "p" .defaults)).1.policyOf "p" = .ok (.made Policy.standard) ∧
    (∃ fault, (run {} prepared).1.step (.set "m" [] ⟨"types", by decide⟩ .null) =
      ((run {} prepared).1, .error fault)) ∧
    ((run {} prepared).1.step (.set "m" [] ⟨"_note", by decide⟩ .null)).1 = (run {} prepared).1 ∧
    (((run {} prepared).1.run [otherNamespace]).1.step (.get "m" [])).2 =
      .ok (Model.toJson {}) ∧
    ((run {} prepared).1.step (.get "y" [])).1 = (run {} prepared).1 ∧
    ∃ fault, (preparedWith [.int 5]).step (.policy "p" (.draft "c")) =
      (preparedWith [.int 5], .error fault) := by
  obtain ⟨hpolicies, ⟨hconfigured, hdefaults⟩, hbuilt, herror, hpolicy⟩ := snapshots
  have hm : (run {} prepared).1.value "m" = .ok (.built (.model {})) := by
    rw [run_prepared]
    rfl
  obtain ⟨hset, hattach, hget⟩ := hbuilt _ "m" (.model {}) hm
  have hp : (run {} prepared).1.value "p" = .ok (.policy 1) := by
    rw [run_prepared]
    rfl
  obtain ⟨hanswer, hanswers, hdraft⟩ := hpolicies prepared "p" 1 hp
  have hpart : (run {} prepared).1.part "m" [] = .ok (.built (.model {})) := by
    rw [run_prepared]
    rfl
  refine ⟨?_, ?_, hdraft otherNamespace "c" 0 rfl (by rw [run_prepared]; rfl),
    hconfigured [] _ "c" _ rfl (by rw [step_make rfl rfl]; rfl),
    (hdefaults {} "p" "m").1 [] trivial,
    hset [] _ _ (fun c _ => by decide) (fun w hw => by cases hpart.symm.trans hw), hattach [] _ _,
    hget _ (never_binds (by decide)), herror _ _ (.noName "y") (by rw [run_prepared]; rfl), ?_⟩
  · have hsubject (n : String) (hn : SessionStep.subject? (.render "m" (some "p")) = some n) :
        ((run {} prepared).1.run [otherNamespace]).1.value n =
          ((run {} prepared).1.run []).1.value n := by
      cases hn
      rw [run_prepared]
      rfl
    have hnever : (run {} prepared).1.Never (Changes · · "p" 1) [otherNamespace] := by
      rw [run_prepared]
      exact ⟨not_changes_otherNamespace _, trivial⟩
    exact hanswer [otherNamespace] [] hnever trivial _ (by decide) hsubject
  · have hsame : SameBut (·.EditsIn ["c"]) (·.KeepsTo ["c"])
        [otherNamespace, .render "m" (some "p")] [.render "m" (some "p")] :=
      .left ⟨"c", List.mem_singleton.2 rfl, rfl⟩ (.both ⟨nofun, nofun⟩ .nil)
    rw [hanswers ["c"] _ _ separate_prepared hsame (fun h => by simp at h), run_prepared]
    rfl
  · exact hpolicy _ "p" "c" 0 _ [.int 5] (.int 5) rfl rfl rfl List.mem_cons_self nofun

end Session

end ClassDiagram
