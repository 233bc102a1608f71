import ClassDiagram.Proofs.Session.Twin

/-!
# Answers and edits

Two runs that go on from one session, of which one has edits that the other one has not. A policy
that is there from the start answers the same in both, unless it is edited itself, or is asked about
something that takes a part from an edited draft.

* `SameBut` relates the steps of the two runs;
* `Session.answers` collects what a policy is asked for;
* `Session.Changes` says that a step gives the name of a policy away, or assigns to the policy;
* `Session.answer_eq_of_subject_eq` says what an answer depends on;
* `Session.answers_eq_of_sameBut` compares the answers of the two runs.
-/

namespace ClassDiagram

/-! ### Steps with and without edits -/

namespace SessionStep

/-- What a step takes from some names goes to such names again, and only from them is something
picked for them. -/
def KeepsTo (D : List String) (st : SessionStep) : Prop :=
  (∀ name, st.bound? = some name → name ∉ D → ∀ n ∈ st.used, n ∉ D) ∧
  ∀ name origin path, st = .pick name origin path → name ∈ D → origin ∈ D

/-- The step edits something by one of some names. -/
def EditsIn (D : List String) (st : SessionStep) : Prop := ∃ n ∈ D, st.target? = some n

/-- The name of the model or the type that a policy is asked about. -/
def subject? : SessionStep → Option String
  | .render m _ => some m
  | .flags _ t => some t
  | _ => none

/-- The step asks a policy about a model or a type, but for those under some names. -/
def asks (p : String) (D : List String) : SessionStep → Bool
  | .render m (some q) => q == p && !D.contains m
  | .flags q t => q == p && !D.contains t
  | _ => false

variable {D : List String} {st : SessionStep} {p : String}

theorem bound?_of_target? {n : String} (h : st.target? = some n) : st.bound? = none := by
  cases st <;> first | rfl | cases h

theorem used_of_target? {n : String} (h : st.target? = some n) : st.used = [n] := by
  cases st <;> cases h <;> rfl

theorem EditsIn.asks_eq_false (h : st.EditsIn D) : st.asks p D = false := by
  obtain ⟨n, -, h⟩ := h
  cases st <;> first | rfl | cases h

theorem EditsIn.within (h : st.EditsIn D) : st.Within D where
  bound name hname := by
    obtain ⟨n, -, h⟩ := h
    cases (bound?_of_target? h).symm.trans hname
  origin name origin path hpick := by
    obtain ⟨n, -, hn⟩ := h
    cases hpick
    cases hn
  target name hname := by
    obtain ⟨n, hn, htarget⟩ := h
    cases htarget.symm.trans hname
    exact hn

/-- A step belongs to the names, or has nothing to do with them. -/
theorem KeepsTo.cases (h : st.KeepsTo D) :
    st.Within D ∨ ((∀ n ∈ st.used, n ∉ D) ∧ ∀ name, st.bound? = some name → name ∉ D) := by
  by_cases hout : (∀ n ∈ st.used, n ∉ D) ∧ ∀ name, st.bound? = some name → name ∉ D
  · exact .inr hout
  · have hbound : ∀ name, st.bound? = some name → name ∈ D := by
      intro name hname
      by_contra hnot
      refine hout ⟨h.1 name hname hnot, fun other hother => ?_⟩
      cases hname.symm.trans hother
      exact hnot
    refine .inl ⟨hbound, fun name origin path hpick => ?_, fun name hname => ?_⟩
    · exact h.2 name origin path hpick (hbound name (hpick ▸ rfl))
    · by_contra hnot
      refine hout ⟨fun n hn => ?_, fun other hother => ?_⟩
      · rw [used_of_target? hname, List.mem_singleton] at hn
        rwa [hn]
      · cases (bound?_of_target? hname).symm.trans hother

end SessionStep

/-- One list of steps is the other one with steps of one kind added and left out. The steps that
both of them have are of another kind. -/
inductive SameBut (extra common : SessionStep → Prop) :
    List SessionStep → List SessionStep → Prop where
  | nil : SameBut extra common [] []
  | left {st : SessionStep} {steps steps' : List SessionStep} (hst : extra st)
      (h : SameBut extra common steps steps') : SameBut extra common (st :: steps) steps'
  | right {st : SessionStep} {steps steps' : List SessionStep} (hst : extra st)
      (h : SameBut extra common steps steps') : SameBut extra common steps (st :: steps')
  | both {st : SessionStep} {steps steps' : List SessionStep} (hst : common st)
      (h : SameBut extra common steps steps') : SameBut extra common (st :: steps) (st :: steps')

namespace Session

variable {D : List String} {s s' : Session} {st : SessionStep} {p : String} {cell : Nat}
  {steps steps' : List SessionStep}

/-- What a policy is asked for in a run, but for models and types under some names. -/
def answers (s : Session) (p : String) (D : List String) (steps : List SessionStep) :
    List (Except SessionFault Document) :=
  ((steps.zip (s.run steps).2).filter (·.1.asks p D)).map (·.2)

theorem answers_cons :
    s.answers p D (st :: steps) =
      (if st.asks p D then [(s.step st).2] else []) ++ (s.step st).1.answers p D steps := by
  rw [answers, run_cons, List.zip_cons_cons, List.filter_cons]
  split_ifs <;> rfl

/-! ### Answers of a policy -/

theorem snd_step (s : Session) (st : SessionStep) : (s.step st).2 = (s.perform st).map (·.2) := by
  rw [step]
  cases s.perform st <;> rfl

/-- The answer of a policy depends on the policy and on what it is asked about. -/
theorem step_eq_of_asks (hp : s.policyOf p = s'.policyOf p) (hst : st.asks p D = true)
    (h : ∀ n ∉ D, st.subject? = some n →
      s.model n "classes" = s'.model n "classes" ∧ s.type n = s'.type n) :
    (s.step st).2 = (s'.step st).2 := by
  rw [snd_step, snd_step]
  cases st with
  | render m q =>
    cases q with
    | none => cases hst
    | some q =>
      obtain ⟨rfl, hm⟩ : q = p ∧ m ∉ D := by simpa [SessionStep.asks] using hst
      rw [perform, perform, (h m hm rfl).1, Option.elim_some, Option.elim_some, hp]
      exact map_bind_congr fun m => map_bind_congr fun o =>
        map_bind_congr fun text => rfl
  | flags q t =>
    obtain ⟨rfl, ht⟩ : q = p ∧ t ∉ D := by simpa [SessionStep.asks] using hst
    rw [perform, perform, (h t ht rfl).2, hp]
    exact map_bind_congr fun o => map_bind_congr fun t =>
      map_bind_congr fun flags => rfl
  | _ => cases hst

/-- The step gives the name to something else, or assigns to what is in the cell. -/
def Changes (s : Session) (st : SessionStep) (name : String) (cell : Nat) : Prop :=
  s.Binds st name ∨ s.edited? st = some cell

/-- No edit of a draft changes a policy. -/
theorem Settled.not_changes {target : String} {i : Nat} (hs : s.Settled) (hkinds : s.Faithful)
    (hp : s.value p = .ok (.policy cell)) (hdraft : s.value target = .ok (.draft i))
    (htarget : st.target? = some target) : ¬ s.Changes st p cell := by
  rintro (⟨hbound, -⟩ | hedited)
  · cases (SessionStep.bound?_of_target? htarget).symm.trans hbound
  · obtain ⟨other, v, hother, hb, hv⟩ := hs.binding?_of_edited? hedited
    cases htarget.symm.trans hother
    cases hb.symm.trans (binding?_of_value hdraft nofun)
    cases hv
    -- The cell would hold both a draft and a policy.
    obtain ⟨c, hc, hcdraft⟩ := hkinds target _ cell (binding?_of_value hdraft nofun) rfl
    obtain ⟨d, hd, hdpolicy⟩ := hkinds p _ cell (binding?_of_value hp nofun) rfl
    cases hc.symm.trans hd
    cases hcdraft.trans hdpolicy.symm

/-- A name stands for one cell in both sessions, in which there is the same. -/
structure SamePolicy (p : String) (cell : Nat) (s s' : Session) : Prop where
  value : s.value p = .ok (.policy cell)
  value' : s'.value p = .ok (.policy cell)
  there : cell < s.cells.length
  there' : cell < s'.cells.length
  content : s.cells[cell]? = s'.cells[cell]?

namespace SamePolicy

theorem refl (hs : s.Settled) (hp : s.value p = .ok (.policy cell)) : SamePolicy p cell s s := by
  have hthere := (hs p _ (binding?_of_value hp nofun)).lt_of_cell? rfl
  exact ⟨hp, hp, hthere, hthere, rfl⟩

theorem symm (h : SamePolicy p cell s s') : SamePolicy p cell s' s :=
  ⟨h.value', h.value, h.there', h.there, h.content.symm⟩

theorem step (h : SamePolicy p cell s s') (hst : ¬ s.Changes st p cell) :
    SamePolicy p cell (s.step st).1 s' where
  value := value_step (fun hbinds => hst (.inl hbinds)) nofun h.value
  value' := h.value'
  there := Nat.lt_of_lt_of_le h.there (s.length_le_step st)
  there' := h.there'
  content := (cell_step (fun hedited => hst (.inr hedited)) h.there).trans h.content

theorem run (h : SamePolicy p cell s s') (hsteps : s.Never (Changes · · p cell) steps) :
    SamePolicy p cell (s.run steps).1 s' :=
  hsteps.invariant (I := (SamePolicy p cell · s')) (fun _ _ hst h => h.step hst) h

theorem policyOf_eq (h : SamePolicy p cell s s') : s.policyOf p = s'.policyOf p := by
  have hin : s.policyIn cell = s'.policyIn cell := by rw [policyIn, policyIn, h.content]
  rw [policyOf, policyOf, h.value, h.value']
  exact congrArg Except.ok hin

end SamePolicy

/-- Whatever was done since a policy was made, unless the policy was changed, it answers the same
about the same value. -/
theorem answer_eq_of_subject_eq (hs : s.Settled) (hp : s.value p = .ok (.policy cell))
    (hnever : s.Never (Changes · · p cell) steps) (hnever' : s.Never (Changes · · p cell) steps')
    (hst : st.asks p [] = true)
    (hsubject : ∀ n, st.subject? = some n →
      (s.run steps).1.value n = (s.run steps').1.value n) :
    ((s.run steps).1.step st).2 = ((s.run steps').1.step st).2 := by
  have hsame := (((SamePolicy.refl hs hp).run hnever).symm.run hnever').symm
  refine step_eq_of_asks hsame.policyOf_eq hst fun n _ hn => ?_
  rw [model, model, type, type, hsubject n hn]
  exact ⟨rfl, rfl⟩

theorem answers_eq_of_twin (h : Twin D s s')
    (hsame : SameBut (·.EditsIn D) (·.KeepsTo D) steps steps')
    (hp : p ∈ D → SamePolicy p cell s s' ∧ s.Never (Changes · · p cell) steps ∧
      s'.Never (Changes · · p cell) steps') :
    s.answers p D steps = s'.answers p D steps' := by
  -- The sessions remain twins. Only a policy of the other names has to be looked after besides.
  induction hsame generalizing s s' with
  | nil => rfl
  | left hst _ ih =>
    rw [answers_cons, if_neg (by simp [hst.asks_eq_false]), List.nil_append]
    refine ih (h.aside hst.within) fun hmem => ?_
    obtain ⟨hpolicy, hnever, hnever'⟩ := hp hmem
    exact ⟨hpolicy.step hnever.1, hnever.2, hnever'⟩
  | right hst _ ih =>
    rw [answers_cons (s := s'), if_neg (by simp [hst.asks_eq_false]), List.nil_append]
    refine ih (h.symm.aside hst.within).symm fun hmem => ?_
    obtain ⟨hpolicy, hnever, hnever'⟩ := hp hmem
    exact ⟨(hpolicy.symm.step hnever'.1).symm, hnever, hnever'.2⟩
  | @both st steps steps' hst _ ih =>
    have htwin : Twin D (s.step st).1 (s'.step st).1 := by
      -- What belongs to the other names may come to something else on either side.
      rcases hst.cases with hwithin | ⟨hused, hbound⟩
      · exact ((h.aside hwithin).symm.aside hwithin).symm
      · exact (h.step hused hbound).1
    have hrest := ih htwin fun hmem => by
      obtain ⟨hpolicy, hnever, hnever'⟩ := hp hmem
      exact ⟨((hpolicy.step hnever.1).symm.step hnever'.1).symm, hnever.2, hnever'.2⟩
    rw [answers_cons, answers_cons (s := s'), hrest]
    split_ifs with hasks
    · obtain ⟨R, hR⟩ := h
      have hpolicy : s.policyOf p = s'.policyOf p := by
        by_cases hmem : p ∈ D
        · exact (hp hmem).1.policyOf_eq
        · exact hR.policyOf_eq hmem
      rw [step_eq_of_asks hpolicy hasks fun n hn _ => ⟨hR.model_eq hn _, hR.type_eq hn⟩]
    · rfl

/-- No cell stands both under one of some names and under another name, nor does a document that a
cell holds. -/
def Separate (s : Session) (D : List String) : Prop :=
  ∀ n ∈ D, ∀ m ∉ D, ∀ b c i, s.binding? n = some b → s.binding? m = some c →
    b.cell? = some i → c.cell? ≠ some i

theorem twin_refl (hs : s.Settled) (hD : s.Separate D) : Twin D s s := by
  -- The cells that correspond are those outside, each to itself.
  let R (i j : Nat) : Prop :=
    i = j ∧ ∃ m ∉ D, ∃ b, s.binding? m = some b ∧ b.cell? = some i
  have hself {b : Binding} (hb : b.Sound s.cells.length) (hR : ∀ i, b.cell? = some i → R i i) :
      b.Twin R b := by
    cases hb with
    | fixed hv => exact .value (.fixed hv)
    | @cell v i hv =>
      cases v with
      | draft => exact .value (.draft (hR _ rfl))
      | policy => exact .value (.policy (hR _ rfl))
      | _ => cases hv
    | held _ field => exact .held (hR _ rfl) field
  refine ⟨R, {
    settled := hs
    settled' := hs
    binding := fun name hname => ?_
    cells := ?_
    unique := ?_
    apart := ?_
    apart' := ?_ }⟩
  · cases hb : s.binding? name with
    | none => exact .inl ⟨rfl, rfl⟩
    | some b =>
      have hb' := hself (hs name b hb) fun i hi => ⟨rfl, name, hname, b, hb, hi⟩
      exact .inr ⟨b, b, rfl, rfl, hb'⟩
  · rintro i _ ⟨rfl, m, -, b, hb, hi⟩
    exact ⟨_, List.getElem?_eq_getElem ((hs m b hb).lt_of_cell? hi),
      List.getElem?_eq_getElem _⟩
  · rintro i _ k _ ⟨rfl, -⟩ ⟨rfl, -⟩
    exact Iff.rfl
  · rintro n hn b hb i _ ⟨rfl, m, hm, c, hc, hi⟩ hbi
    exact hD n hn m hm b c i hb hc hbi hi
  · rintro n hn b hb i _ ⟨rfl, m, hm, c, hc, hi⟩ hbi
    exact hD n hn m hm b c i hb hc hbi hi

/-- Edits by some names, and whatever takes something from these names, do not change what a policy
answers about other names. Where the policy is under one of these names itself, it must not be
changed. -/
theorem answers_eq_of_sameBut (hs : s.Settled) (hD : s.Separate D)
    (hp : s.value p = .ok (.policy cell))
    (hsame : SameBut (·.EditsIn D) (·.KeepsTo D) steps steps')
    (hnever : p ∈ D → s.Never (Changes · · p cell) steps ∧ s.Never (Changes · · p cell) steps') :
    s.answers p D steps = s.answers p D steps' :=
  answers_eq_of_twin (twin_refl hs hD) hsame fun hmem =>
    ⟨.refl hs hp, (hnever hmem).1, (hnever hmem).2⟩

end Session

end ClassDiagram
