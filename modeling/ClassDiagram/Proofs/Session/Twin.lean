import ClassDiagram.Proofs.Session.Effect

/-!
# Sessions that differ in some names

Two sessions that agree outside of some names, and in the cells that stand there, and what a step
does to both of them. A step that has to do with the other names only may be left out on either
side.

* `Parallel` compares two outcomes;
* `Stored.Twin` and `Binding.Twin` compare values but for the numbers of their cells;
* `Session.TwinBy` compares two sessions;
* `Session.TwinBy.aside` is about a step on one side, `Session.TwinBy.perform` about a step on both.
-/

namespace ClassDiagram

/-! ### Names in steps -/

/-- The names whose values are used. -/
def Source.names : Source → List String
  | one name => [name]
  | many names => names

/-- The names whose values are used. -/
def PolicySource.names : PolicySource → List String
  | draft name => [name]
  | _ => []

namespace SessionStep

/-- The names whose values a step uses. -/
def used : SessionStep → List String
  | .parse .. | .validate .. => []
  | .make _ _ _ sources => sources.flatMap (·.2.names)
  | .policy _ source => source.names
  | .pick _ origin _ => [origin]
  | .render m p => m :: p.toList
  | .typeNames m => [m]
  | .flags p t => [p, t]
  | .get target _ => [target]
  | .equal first second => [first, second]
  | .distinct names => names
  | .set target _ _ _ => [target]
  | .append target _ _ => [target]

/-- What a step changes belongs to some names only. -/
structure Within (D : List String) (st : SessionStep) : Prop where
  bound : ∀ name, st.bound? = some name → name ∈ D
  origin : ∀ name origin path, st = .pick name origin path → origin ∈ D
  target : ∀ name, st.target? = some name → name ∈ D

end SessionStep

/-! ### Outcomes -/

/-- Two computations fail alike, or come to results that correspond. -/
inductive Parallel {ε α β : Type} (Q : α → β → Prop) : Except ε α → Except ε β → Prop where
  | error (e : ε) : Parallel Q (.error e) (.error e)
  | ok {a : α} {b : β} (h : Q a b) : Parallel Q (.ok a) (.ok b)

namespace Parallel

variable {ε δ α α' β β' : Type} {Q : α → β → Prop} {P : α' → β' → Prop}
  {x : Except ε α} {y : Except ε β}

theorem bind {f : α → Except ε α'} {g : β → Except ε β'} (h : Parallel Q x y)
    (hf : ∀ a b, Q a b → Parallel P (f a) (g b)) : Parallel P (x >>= f) (y >>= g) := by
  cases h with
  | error e => exact .error e
  | ok hab => exact hf _ _ hab

theorem bind_eq {γ : Type} {f : α → Except ε γ} {g : β → Except ε γ} (h : Parallel Q x y)
    (hf : ∀ a b, Q a b → f a = g b) : x >>= f = y >>= g := by
  cases h with
  | error e => rfl
  | ok hab => exact hf _ _ hab

theorem mapError (h : Parallel Q x y) (f : ε → δ) : Parallel Q (x.mapError f) (y.mapError f) := by
  cases h with
  | error e => exact .error (f e)
  | ok hab => exact .ok hab

theorem of_eq {x y : Except ε α} (h : x = y) : Parallel Eq x y := by
  rw [h]
  cases y with
  | error e => exact .error e
  | ok a => exact .ok rfl

theorem mapM {γ : Type} {f : γ → Except ε α} {g : γ → Except ε β} {cs : List γ}
    (h : ∀ c ∈ cs, Parallel Q (f c) (g c)) : Parallel (List.Forall₂ Q) (cs.mapM f) (cs.mapM g) := by
  induction cs with
  | nil => exact .ok .nil
  | cons c cs ih =>
    rw [List.forall_mem_cons] at h
    rw [List.mapM_cons, List.mapM_cons]
    exact h.1.bind fun a b hab => (ih h.2).bind fun as bs habs => .ok (.cons hab habs)

end Parallel

theorem map_eq_of_forall₂ {α β γ : Type} {Q : α → β → Prop} {f : α → γ} {g : β → γ} {as : List α}
    {bs : List β} (h : List.Forall₂ Q as bs) (hf : ∀ a b, Q a b → f a = g b) :
    as.map f = bs.map g := by
  induction h with
  | nil => rfl
  | cons hab _ ih => rw [List.map_cons, List.map_cons, hf _ _ hab, ih]

/-! ### Values -/

/-- Cells of the same content, by their numbers on either side. -/
def SameCells (R : Nat → Nat → Prop) (cs ds : List Cell) : Prop :=
  ∀ i j, R i j → ∃ c, cs[i]? = some c ∧ ds[j]? = some c

/-- No number corresponds to two. -/
def OneToOne (R : Nat → Nat → Prop) : Prop := ∀ i j k l, R i j → R k l → (i = k ↔ j = l)

namespace Stored

/-- The values are equal, or stand for cells that correspond. -/
inductive Twin (R : Nat → Nat → Prop) : Stored → Stored → Prop where
  | fixed {v : Stored} (hv : v.Fixed) : Twin R v v
  | draft {i j : Nat} (h : R i j) : Twin R (.draft i) (.draft j)
  | policy {i j : Nat} (h : R i j) : Twin R (.policy i) (.policy j)

namespace Twin

variable {R : Nat → Nat → Prop} {v v' w w' : Stored} {cs ds : List Cell} {vs ws : List Stored}

theorem stored {i j : Nat} (c : Cell) (h : R i j) : Twin R (c.stored i) (c.stored j) := by
  cases c with
  | draft => exact .draft h
  | policy => exact .policy h

theorem symm (h : Twin R v w) : Twin (fun j i => R i j) w v := by
  cases h with
  | fixed hv => exact .fixed hv
  | draft h => exact .draft h
  | policy h => exact .policy h

theorem mono {R' : Nat → Nat → Prop} (hR : ∀ i j, R i j → R' i j) (h : Twin R v w) :
    Twin R' v w := by
  cases h with
  | fixed hv => exact .fixed hv
  | draft h => exact .draft (hR _ _ h)
  | policy h => exact .policy (hR _ _ h)

theorem cell?_cases (h : Twin R v w) :
    (v.Fixed ∧ v = w) ∨ ∃ i j, R i j ∧ v.cell? = some i ∧ w.cell? = some j := by
  cases h with
  | fixed hv => exact .inl ⟨hv, rfl⟩
  | draft h | policy h => exact .inr ⟨_, _, h, rfl, rfl⟩

theorem kindWord_eq (h : Twin R v w) : v.kindWord = w.kindWord := by
  cases h <;> rfl

theorem isChangeable_eq (h : Twin R v w) : v.isChangeable = w.isChangeable := by
  cases h <;> rfl

theorem toJson_eq (hR : SameCells R cs ds) (h : Twin R v w) : v.toJson cs = w.toJson ds := by
  cases h with
  | fixed hv => exact hv.toJson_eq cs ds
  | draft h | policy h =>
    obtain ⟨c, hc, hd⟩ := hR _ _ h
    rw [toJson, toJson, hc, hd]

theorem toInput_eq (hR : SameCells R cs ds) (h : Twin R v w) : v.toInput cs = w.toInput ds := by
  cases h with
  | fixed hv => exact hv.toInput_eq cs ds
  | draft h =>
    obtain ⟨c, hc, hd⟩ := hR _ _ h
    rw [toInput, toInput, hc, hd]
  | policy => rw [toInput, toInput]

theorem part_eq (hR : SameCells R cs ds) (h : Twin R v w) (name : String) :
    v.part cs name = w.part ds name := by
  cases h with
  | fixed hv => exact hv.part_eq cs ds name
  | draft h | policy h =>
    obtain ⟨c, hc, hd⟩ := hR _ _ h
    simp only [Stored.part, part?, hc, hd, kindWord]

theorem part (hR : SameCells R cs ds) (h : Twin R v w) (name : String) :
    Parallel (Twin R) (v.part cs name) (w.part ds name) := by
  rw [← h.part_eq hR]
  cases hu : v.part cs name with
  | error fault => exact .error fault
  | ok u => exact .ok (.fixed (fixed_part hu))

theorem item (h : Twin R v w) (i : Int) : Parallel (Twin R) (v.item i) (w.item i) := by
  cases h with
  | fixed hv =>
    cases hw : v.item i with
    | error fault => exact .error fault
    | ok w => exact .ok (.fixed (hv.item hw))
  | draft | policy => exact .error _

theorem follow (hR : SameCells R cs ds) (h : Twin R v w) (path : List PathItem) :
    Parallel (Twin R) (v.follow cs path) (w.follow ds path) := by
  induction path generalizing v w with
  | nil => exact .ok h
  | cons step path ih =>
    cases step with
    | part name => exact (h.part hR name).bind fun _ _ hvw => ih hvw
    | index i => exact (h.item i).bind fun _ _ hvw => ih hvw

/-! Two values are compared alike on both sides: drafts by their content, and policies by their
numbers, of which none corresponds to two. -/

theorem settled (hR : SameCells R cs ds) (h : Twin R v w) :
    Twin R (v.settled cs) (w.settled ds) := by
  cases h with
  | fixed hv =>
    cases hv with
    | sequence hvs => exact .fixed (.sequence hvs)
    | built b => exact .fixed (.built b)
    | data v => exact .fixed (.data v)
    | word w => exact .fixed (.data (.str w.text))
    | tags names => exact .fixed (.tags names)
  | draft h =>
    obtain ⟨c, hc, hd⟩ := hR _ _ h
    rw [Stored.settled, Stored.settled, hc, hd]
    cases c with
    | draft d => exact .fixed (.built (.config d))
    | policy o => exact .draft h
  | policy h => exact .policy h

theorem alike_eq (hR : OneToOne R) (hv : Twin R v v') (hw : Twin R w w') :
    v.alike w = v'.alike w' := by
  have hnumber {i j k l : Nat} (hij : R i j) (hkl : R k l) : (i == k) = (j == l) := by
    rw [Bool.eq_iff_iff, beq_iff_eq, beq_iff_eq]
    exact hR i j k l hij hkl
  cases hv with
  | fixed hv =>
    cases hw with
    | fixed => rfl
    | draft | policy => cases hv <;> rfl
  | draft hij =>
    cases hw with
    | fixed hw => cases hw <;> rfl
    | draft hkl => exact hnumber hij hkl
    | policy => rfl
  | policy hij =>
    cases hw with
    | fixed hw => cases hw <;> rfl
    | draft => rfl
    | policy hkl => exact hnumber hij hkl

theorem same_eq (hcells : SameCells R cs ds) (hR : OneToOne R) (hv : Twin R v v')
    (hw : Twin R w w') : v.same cs w = v'.same ds w' :=
  (hv.settled hcells).alike_eq hR (hw.settled hcells)

theorem any_same_eq (hcells : SameCells R cs ds) (hR : OneToOne R) (hv : Twin R v v')
    (h : List.Forall₂ (Twin R) vs ws) :
    vs.any (v.same cs ·) = ws.any (v'.same ds ·) := by
  induction h with
  | nil => rfl
  | cons hw _ ih => rw [List.any_cons, List.any_cons, hv.same_eq hcells hR hw, ih]

/-- Of the values that may change, the first ones are of the same kind. -/
theorem find?_isChangeable (h : List.Forall₂ (Twin R) vs ws) :
    (vs.find? isChangeable).map kindWord = (ws.find? isChangeable).map kindWord := by
  induction h with
  | nil => rfl
  | @cons v w vs ws hvw _ ih =>
    rw [List.find?_cons, List.find?_cons, ← hvw.isChangeable_eq]
    cases v.isChangeable with
    | true => exact congrArg some hvw.kindWord_eq
    | false => exact ih

end Twin

end Stored

/-! ### Names -/

namespace Binding

/-- The names stand for equal values, for cells that correspond, or for documents that such cells
hold under one name. -/
inductive Twin (R : Nat → Nat → Prop) : Binding → Binding → Prop where
  | value {v w : Stored} (h : v.Twin R w) : Twin R (.value v) (.value w)
  | held {i j : Nat} (h : R i j) (field : String) : Twin R (.held i field) (.held j field)

namespace Twin

variable {R : Nat → Nat → Prop} {b c : Binding} {cs ds : List Cell}

theorem current (hR : SameCells R cs ds) (h : Twin R b c) :
    (b.current cs).Twin R (c.current ds) := by
  cases h with
  | value h => exact h
  | held h field =>
    obtain ⟨d, hc, hd⟩ := hR _ _ h
    rw [Binding.current, Binding.current, hc, hd]
    exact .fixed (.data _)

theorem symm (h : Twin R b c) : Twin (fun j i => R i j) c b := by
  cases h with
  | value h => exact .value h.symm
  | held h field => exact .held (R := fun j i => R i j) h field

theorem mono {R' : Nat → Nat → Prop} (hR : ∀ i j, R i j → R' i j) (h : Twin R b c) :
    Twin R' b c := by
  cases h with
  | value h => exact .value (h.mono hR)
  | held h field => exact .held (hR _ _ h) field

theorem exists_of_cell? {i : Nat} (h : Twin R b c) (hi : b.cell? = some i) : ∃ j, R i j := by
  cases h with
  | value h =>
    rcases h.cell?_cases with ⟨hv, -⟩ | ⟨k, j, hkj, hk, -⟩
    · cases (Stored.cell?_of_fixed hv).symm.trans hi
    · cases hk.symm.trans hi
      exact ⟨j, hkj⟩
  | held h field =>
    cases hi
    exact ⟨_, h⟩

theorem sound (hR : SameCells R cs ds) (h : Twin R b c) : b.Sound cs.length := by
  have hlt {i j : Nat} (hij : R i j) : i < cs.length := by
    obtain ⟨c, hc, -⟩ := hR i j hij
    exact (List.getElem?_eq_some_iff.1 hc).1
  cases h with
  | value h =>
    rcases h.cell?_cases with ⟨hv, -⟩ | ⟨i, j, hij, hi, -⟩
    · exact .fixed hv
    · exact .cell hi (hlt hij)
  | held h field => exact .held (hlt h) field

theorem release {i j : Nat} (hR : SameCells R cs ds)
    (hunique : ∀ k l, R k l → (k = i ↔ l = j)) (h : Twin R b c) (field : String) :
    Twin R (b.release cs i field) (c.release ds j field) := by
  cases h with
  | value h => exact .value h
  | @held k l hkl f =>
    simp only [Binding.release, hunique k l hkl]
    split_ifs
    · exact .value (current hR (.held hkl f))
    · exact .held hkl f

end Twin

end Binding

/-! ### Sessions -/

namespace Session

theorem inputFields_congr {s t : Session} (fields : List (String × Document))
    {sources : List (String × Source)}
    (h : ∀ f ∈ sources, s.sourceInput f.2 = t.sourceInput f.2) :
    s.inputFields fields sources = t.inputFields fields sources := by
  rw [inputFields, inputFields]
  -- The sources are taken one after the other, on top of fields that are known already.
  generalize (fields.map fun f => (f.1, (f.2.lift : Json Built))) = known
  induction sources generalizing known with
  | nil => rfl
  | cons source sources ih =>
    rw [List.forall_mem_cons] at h
    rw [List.foldlM_cons, List.foldlM_cons, h.1]
    congr 1
    funext next
    exact ih h.2 next

/-- The sessions agree outside of some names. The cells that stand there correspond one to one, and
they stand under none of the other names. -/
structure TwinBy (R : Nat → Nat → Prop) (D : List String) (s s' : Session) : Prop where
  settled : s.Settled
  settled' : s'.Settled
  binding : ∀ name ∉ D, (s.binding? name = none ∧ s'.binding? name = none) ∨
    ∃ b c, s.binding? name = some b ∧ s'.binding? name = some c ∧ b.Twin R c
  cells : SameCells R s.cells s'.cells
  unique : OneToOne R
  apart : ∀ name ∈ D, ∀ b, s.binding? name = some b → ∀ i j, R i j → b.cell? ≠ some i
  apart' : ∀ name ∈ D, ∀ b, s'.binding? name = some b → ∀ i j, R i j → b.cell? ≠ some j

namespace TwinBy

variable {R : Nat → Nat → Prop} {D : List String} {s s' t : Session} {st : SessionStep}
  {name : String}

theorem symm (h : TwinBy R D s s') : TwinBy (fun j i => R i j) D s' s where
  settled := h.settled'
  settled' := h.settled
  binding name hname := by
    refine (h.binding name hname).imp And.symm ?_
    exact fun ⟨b, c, hb, hc, hbc⟩ => ⟨c, b, hc, hb, hbc.symm⟩
  cells j i hij := by
    obtain ⟨c, hc, hc'⟩ := h.cells i j hij
    exact ⟨c, hc', hc⟩
  unique j i l k hij hkl := (h.unique i j k l hij hkl).symm
  apart name hname b hb j i hij := h.apart' name hname b hb i j hij
  apart' name hname b hb j i hij := h.apart name hname b hb i j hij

theorem lt_length (h : TwinBy R D s s') {i j : Nat} (hij : R i j) : i < s.cells.length := by
  obtain ⟨c, hc, -⟩ := h.cells i j hij
  exact (List.getElem?_eq_some_iff.1 hc).1

/-! ### A step on one side -/

/-- A step that belongs to the other names does not edit the cells that correspond. -/
theorem edited?_ne (h : TwinBy R D s s') (hst : st.Within D) {i j : Nat} (hij : R i j) :
    s.edited? st ≠ some i := by
  intro hi
  obtain ⟨target, v, htarget, hb, hv⟩ := h.settled.binding?_of_edited? hi
  exact h.apart target (hst.target target htarget) _ hb i j hij hv

theorem effect_binding? (h : TwinBy R D s s') (heffect : s.Effect st t) (hst : st.Within D)
    (hname : name ∉ D) : t.binding? name = s.binding? name := by
  have hgive {other : String} {b : Binding} (hother : st.bound? = some other) :
      (s.give other b).binding? name = s.binding? name := by
    have hne : name ≠ other := fun he => hname (he ▸ hst.bound other hother)
    exact binding?_give_of_ne hne s b
  cases heffect with
  | shows => rfl
  | binds hbound => exact hgive hbound
  | picks => exact hgive rfl
  | makes _ hbound => exact hgive hbound
  | @assigns _ cell field value hedited =>
    -- No name outside stands for anything in the cell, which stands under a name inside.
    refine (binding?_release s cell field name).trans ?_
    rcases h.binding name hname with ⟨hb, -⟩ | ⟨b, c, hb, -, hbc⟩
    · rw [hb, Option.map_none]
    · rw [hb, Option.map_some, Binding.release_of_cell?_ne fun hcell => ?_]
      obtain ⟨j, hij⟩ := hbc.exists_of_cell? hcell
      exact h.edited?_ne hst hij hedited
  | grows => rfl

theorem effect_apart (h : TwinBy R D s s') (heffect : s.Effect st t) (hst : st.Within D)
    (hname : name ∈ D) {b : Binding} (hb : t.binding? name = some b) {i j : Nat} (hij : R i j) :
    b.cell? ≠ some i := by
  intro hcell
  have hgive {other : String} {c : Binding} (hc : c.cell? ≠ some i)
      (hb : (s.give other c).binding? name = some b) : False := by
    by_cases hne : name = other
    · rw [hne, binding?_give_self] at hb
      cases hb
      exact hc hcell
    · rw [binding?_give_of_ne hne] at hb
      exact h.apart name hname b hb i j hij hcell
  cases heffect with
  | shows => exact h.apart name hname b hb i j hij hcell
  | binds _ hv => exact hgive (fun he => by cases (Stored.cell?_of_fixed hv).symm.trans he) hb
  | @picks other origin path v hv =>
    refine hgive (fun he => ?_) hb
    obtain ⟨c, hc, hcorigin⟩ := h.settled.cell?_picked hv he
    exact h.apart origin (hst.origin other origin path rfl) c hc i j hij hcorigin
  | makes c =>
    have hlt := h.lt_length hij
    refine hgive (fun he => ?_) hb
    cases (Stored.cell?_stored c _).symm.trans he
    exact Nat.lt_irrefl _ hlt
  | @assigns _ cell field value =>
    have hb : (s.release cell field).binding? name = some b := hb
    obtain ⟨c, hc, rfl⟩ := exists_of_binding?_release hb
    exact h.apart name hname c hc i j hij (Binding.cell?_release hcell)
  | grows => exact h.apart name hname b hb i j hij hcell

/-- The sessions still agree when one of them takes a step that belongs to the other names. -/
theorem aside (h : TwinBy R D s s') (hst : st.Within D) : TwinBy R D (s.step st).1 s' := by
  rcases s.step_cases st with ⟨heffect, -⟩ | ⟨hsame, -⟩
  · generalize (s.step st).1 = t at heffect ⊢
    exact {
      settled := heffect.settled h.settled
      settled' := h.settled'
      binding := fun name hname => by
        rw [h.effect_binding? heffect hst hname]
        exact h.binding name hname
      cells := fun i j hij => by
        rw [heffect.cell_eq (h.edited?_ne hst hij) (h.lt_length hij)]
        exact h.cells i j hij
      unique := h.unique
      apart := fun name hname b hb i j hij => h.effect_apart heffect hst hname hb hij
      apart' := h.apart' }
  · rwa [hsame]

/-! ### Reading on both sides -/

theorem value (h : TwinBy R D s s') (hname : name ∉ D) :
    Parallel (Stored.Twin R) (s.value name) (s'.value name) := by
  rw [Session.value, Session.value]
  rcases h.binding name hname with ⟨hb, hc⟩ | ⟨b, c, hb, hc, hbc⟩ <;> rw [hb, hc]
  · exact .error _
  · exact .ok (hbc.current h.cells)

theorem part (h : TwinBy R D s s') (hname : name ∉ D) (path : List PathItem) :
    Parallel (Stored.Twin R) (s.part name path) (s'.part name path) :=
  (h.value hname).bind fun _ _ hvw => (hvw.follow h.cells path).mapError _

theorem values (h : TwinBy R D s s') {names : List String} (hnames : ∀ n ∈ names, n ∉ D) :
    Parallel (List.Forall₂ (Stored.Twin R)) (names.mapM s.value) (names.mapM s'.value) :=
  Parallel.mapM fun n hn => h.value (hnames n hn)

theorem model_eq (h : TwinBy R D s s') (hname : name ∉ D) (wanted : String) :
    s.model name wanted = s'.model name wanted :=
  (h.value hname).bind_eq fun _ _ hvw => by cases hvw <;> rfl

theorem type_eq (h : TwinBy R D s s') (hname : name ∉ D) : s.type name = s'.type name :=
  (h.value hname).bind_eq fun _ _ hvw => by cases hvw <;> rfl

theorem draftIn_eq (h : TwinBy R D s s') {i j : Nat} (hij : R i j) :
    s.draftIn i = s'.draftIn j := by
  obtain ⟨c, hc, hc'⟩ := h.cells i j hij
  rw [draftIn, draftIn, hc, hc']

theorem policyIn_eq (h : TwinBy R D s s') {i j : Nat} (hij : R i j) :
    s.policyIn i = s'.policyIn j := by
  obtain ⟨c, hc, hc'⟩ := h.cells i j hij
  rw [policyIn, policyIn, hc, hc']

theorem policyOf_eq (h : TwinBy R D s s') (hname : name ∉ D) :
    s.policyOf name = s'.policyOf name :=
  (h.value hname).bind_eq fun v w hvw => by
    cases hvw with
    | fixed hv => cases hv <;> rfl
    | draft => rfl
    | policy hij => exact congrArg Except.ok (h.policyIn_eq hij)

theorem policyFrom_eq (h : TwinBy R D s s') {source : PolicySource}
    (hsource : ∀ n ∈ source.names, n ∉ D) : s.policyFrom source = s'.policyFrom source := by
  cases source with
  | draft name =>
    refine (h.value (hsource name List.mem_cons_self)).bind_eq fun v w hvw => ?_
    cases hvw with
    | fixed hv => cases hv <;> rfl
    | draft hij => simp only [h.draftIn_eq hij]
    | policy => rfl
  | _ => rfl

theorem sourceInput_eq (h : TwinBy R D s s') {source : Source}
    (hsource : ∀ n ∈ source.names, n ∉ D) : s.sourceInput source = s'.sourceInput source := by
  cases source with
  | one name =>
    refine (h.value (hsource name List.mem_cons_self)).bind_eq fun v w hvw => ?_
    rw [hvw.toInput_eq h.cells]
  | many names =>
    refine (h.values hsource).bind_eq fun vs ws hvws => ?_
    rw [map_eq_of_forall₂ hvws fun v w hvw => hvw.toInput_eq h.cells]

theorem inputFields_eq (h : TwinBy R D s s') (fields : List (String × Document))
    {sources : List (String × Source)} (hsources : ∀ f ∈ sources, ∀ n ∈ f.2.names, n ∉ D) :
    s.inputFields fields sources = s'.inputFields fields sources :=
  inputFields_congr fields fun f hf => h.sourceInput_eq (hsources f hf)

/-! ### Changes on both sides -/

theorem give (h : TwinBy R D s s') (hname : name ∉ D) {b c : Binding} (hbc : b.Twin R c) :
    TwinBy R D (s.give name b) (s'.give name c) := by
  have hne {other : String} (hother : other ∈ D) : other ≠ name := fun he => hname (he ▸ hother)
  exact {
    settled := h.settled.give (hbc.sound h.cells)
    settled' := h.settled'.give (hbc.symm.sound h.symm.cells)
    binding := fun other hother => by
      by_cases he : other = name
      · rw [he, binding?_give_self, binding?_give_self]
        exact .inr ⟨b, c, rfl, rfl, hbc⟩
      · rw [binding?_give_of_ne he, binding?_give_of_ne he]
        exact h.binding other hother
    cells := h.cells
    unique := h.unique
    apart := fun other hother b hb => by
      rw [binding?_give_of_ne (hne hother)] at hb
      exact h.apart other hother b hb
    apart' := fun other hother b hb => by
      rw [binding?_give_of_ne (hne hother)] at hb
      exact h.apart' other hother b hb }

/-- The cells that correspond, and one more on either side. -/
def Also (R : Nat → Nat → Prop) (k l : Nat) (i j : Nat) : Prop := R i j ∨ i = k ∧ j = l

theorem addCell (h : TwinBy R D s s') (c : Cell) :
    TwinBy (Also R s.cells.length s'.cells.length) D { s with cells := s.cells ++ [c] }
      { s' with cells := s'.cells ++ [c] } := by
  have hlt {i j : Nat} (hij : R i j) : i < s.cells.length ∧ j < s'.cells.length :=
    ⟨h.lt_length hij, h.symm.lt_length hij⟩
  exact {
    settled := h.settled.of_cells (by simp)
    settled' := h.settled'.of_cells (by simp)
    binding := fun name hname => (h.binding name hname).imp_right
      fun ⟨b, c, hb, hc, hbc⟩ => ⟨b, c, hb, hc, hbc.mono fun i j => .inl⟩
    cells := by
      rintro i j (hij | ⟨rfl, rfl⟩)
      · obtain ⟨d, hd, hd'⟩ := h.cells i j hij
        exact ⟨d, by simp [List.getElem?_append_left (hlt hij).1, hd],
          by simp [List.getElem?_append_left (hlt hij).2, hd']⟩
      · exact ⟨c, List.getElem?_concat_length, List.getElem?_concat_length⟩
    unique := by
      rintro i j k l (hij | ⟨rfl, rfl⟩) (hkl | ⟨rfl, rfl⟩)
      · exact h.unique i j k l hij hkl
      · have := hlt hij
        omega
      · have := hlt hkl
        omega
      · exact ⟨fun _ => rfl, fun _ => rfl⟩
    apart := by
      rintro name hname b hb i j (hij | ⟨rfl, rfl⟩)
      · exact h.apart name hname b hb i j hij
      · exact fun hcell => Nat.lt_irrefl _ ((h.settled name b hb).lt_of_cell? hcell)
    apart' := by
      rintro name hname b hb i j (hij | ⟨rfl, rfl⟩)
      · exact h.apart' name hname b hb i j hij
      · exact fun hcell => Nat.lt_irrefl _ ((h.settled' name b hb).lt_of_cell? hcell) }

theorem edit (h : TwinBy R D s s') {i j : Nat} (hij : R i j)
    (change : Cell → Cell) : TwinBy R D (s.edit i change) (s'.edit j change) where
  settled := h.settled.of_cells (Nat.le_of_eq (length_edit ..).symm)
  settled' := h.settled'.of_cells (Nat.le_of_eq (length_edit ..).symm)
  binding := h.binding
  cells k l hkl := by
    obtain ⟨c, hc, hc'⟩ := h.cells k l hkl
    have hiff := h.unique i j k l hij hkl
    by_cases hik : i = k
    · refine ⟨change c, ?_, ?_⟩
      · simp [Session.edit, hc, hik]
      · simp [Session.edit, hc', hiff.1 hik]
    · refine ⟨c, ?_, ?_⟩
      · simp [Session.edit, hc, hik]
      · simp [Session.edit, hc', mt hiff.2 hik]
  unique := h.unique
  apart := h.apart
  apart' := h.apart'

theorem release (h : TwinBy R D s s') {i j : Nat} (hij : R i j) (field : String) :
    TwinBy R D (s.release i field) (s'.release j field) where
  settled := h.settled.release i field
  settled' := h.settled'.release j field
  binding name hname := by
    rw [binding?_release, binding?_release]
    refine (h.binding name hname).imp (fun ⟨hb, hc⟩ => by rw [hb, hc]; exact ⟨rfl, rfl⟩) ?_
    rintro ⟨b, c, hb, hc, hbc⟩
    rw [hb, hc]
    exact ⟨_, _, rfl, rfl,
      hbc.release h.cells (fun k l hkl => h.unique k l i j hkl hij) field⟩
  cells := h.cells
  unique := h.unique
  apart name hname b hb k l hkl hcell := by
    obtain ⟨c, hc, rfl⟩ := exists_of_binding?_release hb
    exact h.apart name hname c hc k l hkl (Binding.cell?_release hcell)
  apart' name hname b hb k l hkl hcell := by
    obtain ⟨c, hc, rfl⟩ := exists_of_binding?_release hb
    exact h.apart' name hname c hc k l hkl (Binding.cell?_release hcell)

theorem assign (h : TwinBy R D s s') {i j : Nat} (hij : R i j) (field : String)
    (value : Document) : TwinBy R D (s.assign i field value) (s'.assign j field value) :=
  (h.release hij field).edit hij _

/-- The parts that are picked on both sides are given the same way. -/
theorem picked (h : TwinBy R D s s') {origin : String} (horigin : origin ∉ D)
    {path : List PathItem} {v w : Stored} (hvw : v.Twin R w) :
    (s.picked origin path v).Twin R (s'.picked origin path w) := by
  -- Only a document one step from a cell, or one that is held already, is more than a value.
  have hvalue : (Binding.value v).Twin R (.value w) := .value hvw
  rw [picked.eq_def, picked.eq_def]
  rcases h.binding origin horigin with ⟨hb, hc⟩ | ⟨b, c, hb, hc, hbc⟩ <;> rw [hb, hc]
  · exact hvalue
  · cases hbc with
    | value hroot =>
      rcases path with - | ⟨field | _, - | _⟩
      case cons.part.nil =>
        cases hvw with
        | draft | policy => exact hvalue
        | fixed hv =>
          cases hv with
          | data d =>
            rcases hroot.cell?_cases with ⟨hfixed, rfl⟩ | ⟨i, j, hij, hi, hj⟩
            · simpa only [Stored.cell?_of_fixed hfixed, Option.elim_none] using hvalue
            · simpa only [hi, hj, Option.elim_some] using .held hij field
          | _ => exact hvalue
      all_goals exact hvalue
    | held hij field =>
      cases path with
      | nil => exact .held hij field
      | cons => exact hvalue

end TwinBy

/-- The sessions agree outside of some names. -/
def Twin (D : List String) (s s' : Session) : Prop := ∃ R, TwinBy R D s s'

namespace TwinBy

variable {R : Nat → Nat → Prop} {D : List String} {s s' : Session} {st : SessionStep}
  {name : String} {v w : Stored}

theorem bindCell (h : TwinBy R D s s') (hname : name ∉ D) (c : Cell) :
    Twin D (s.bindCell name c) (s'.bindCell name c) :=
  ⟨_, (h.addCell c).give hname (.value (.stored c (.inr ⟨rfl, rfl⟩)))⟩

theorem bindBuilt (h : TwinBy R D s s') (hname : name ∉ D) (b : Built) :
    Twin D (s.bindBuilt name b) (s'.bindBuilt name b) := by
  cases b with
  | config d => exact h.bindCell hname (.draft d)
  | _ => exact ⟨R, h.give hname (.value (.fixed (.built _)))⟩

theorem replace (h : TwinBy R D s s') (hvw : v.Twin R w) (a : Attribute) (value : Document) :
    Parallel (Twin D) (s.replace v a value) (s'.replace w a value) := by
  have hok : Parallel (Twin D) (.ok s : Except SessionFault Session) (.ok s') := .ok ⟨R, h⟩
  cases hvw with
  | fixed hv =>
    cases hv with
    | built =>
      rw [Session.replace, Session.replace]
      split_ifs
      · exact hok
      · exact .error _
    | word w =>
      simp only [Session.replace]
      cases w.keeper? a.name with
      | none => exact hok
      | some vocabulary => exact .error _
    | data | tags | sequence => exact .error _
  | draft hij =>
    rw [Session.replace, Session.replace]
    split_ifs
    · exact hok
    · exact .ok ⟨R, h.assign hij _ _⟩
    · exact .error _
  | policy hij => exact .ok ⟨R, h.assign hij _ _⟩

theorem extend (h : TwinBy R D s s') (hvw : v.Twin R w) (field : String) (value : Document) :
    Parallel (Twin D) (s.extend v field value) (s'.extend w field value) := by
  have hpart : (v.part s.cells field).mapError SessionFault.noPath =
      (w.part s'.cells field).mapError .noPath := by
    rw [hvw.part_eq h.cells]
  refine (Parallel.of_eq hpart).bind fun list _ hlist => ?_
  cases hlist
  cases list with
  | data d =>
    cases d with
    | array vs =>
      rcases hvw.cell?_cases with ⟨hv, rfl⟩ | ⟨i, j, hij, hi, hj⟩
      · rw [Stored.cell?_of_fixed hv]
        exact .ok ⟨R, h⟩
      · rw [hi, hj]
        exact .ok ⟨R, h.edit hij _⟩
    | _ => exact .error _
  | _ => exact .error _

theorem countDistinct_eq (h : TwinBy R D s s') {vs ws : List Stored}
    (hvw : List.Forall₂ (Stored.Twin R) vs ws) : s.countDistinct vs = s'.countDistinct ws := by
  induction hvw with
  | nil => rfl
  | cons hv hrest ih =>
    rw [countDistinct, countDistinct, hv.any_same_eq h.cells h.unique hrest, ih]

/-- A step that uses and binds no other names does the same to both sessions. -/
theorem perform (h : TwinBy R D s s') (hused : ∀ n ∈ st.used, n ∉ D)
    (hbound : ∀ name, st.bound? = some name → name ∉ D) :
    Parallel (fun r r' => Twin D r.1 r'.1 ∧ r.2 = r'.2) (s.perform st) (s'.perform st) := by
  cases st with
  | parse name text =>
    refine (Parallel.of_eq rfl).bind fun m _ hm => ?_
    cases hm
    exact .ok ⟨⟨R, h.give (hbound name rfl) (.value (.fixed (.built _)))⟩, rfl⟩
  | validate name record text =>
    refine (Parallel.of_eq rfl).bind fun b _ hb => ?_
    cases hb
    exact .ok ⟨h.bindBuilt (hbound name rfl) b, rfl⟩
  | make name record fields sources =>
    have hsources : ∀ f ∈ sources, ∀ n ∈ f.2.names, n ∉ D := fun f hf n hn =>
      hused n (List.mem_flatMap.2 ⟨f, hf, hn⟩)
    refine (Parallel.of_eq (h.inputFields_eq fields hsources)).bind fun input _ hinput => ?_
    cases hinput
    refine (Parallel.of_eq rfl).bind fun b _ hb => ?_
    cases hb
    exact .ok ⟨h.bindBuilt (hbound name rfl) b, rfl⟩
  | policy name source =>
    refine (Parallel.of_eq (h.policyFrom_eq hused)).bind fun p _ hp => ?_
    cases hp
    exact .ok ⟨h.bindCell (hbound name rfl) _, rfl⟩
  | pick name origin path =>
    have horigin : origin ∉ D := hused origin List.mem_cons_self
    refine (h.part horigin path).bind fun v w hvw => ?_
    exact .ok ⟨⟨R, h.give (hbound name rfl) (h.picked horigin hvw)⟩, hvw.toJson_eq h.cells⟩
  | render model policy =>
    refine (Parallel.of_eq (h.model_eq (hused model List.mem_cons_self) _)).bind fun m _ hm => ?_
    cases hm
    have hpolicy : policy.elim (.ok (.made Policy.standard)) s.policyOf =
        policy.elim (.ok (.made Policy.standard)) s'.policyOf := by
      cases policy with
      | none => rfl
      | some p => exact h.policyOf_eq (hused p (List.mem_cons_of_mem _ List.mem_cons_self))
    refine (Parallel.of_eq hpolicy).bind fun p _ hp => ?_
    cases hp
    refine (Parallel.of_eq rfl).bind fun text _ htext => ?_
    cases htext
    exact .ok ⟨⟨R, h⟩, rfl⟩
  | typeNames model =>
    refine (Parallel.of_eq (h.model_eq (hused model List.mem_cons_self) _)).bind fun m _ hm => ?_
    cases hm
    exact .ok ⟨⟨R, h⟩, rfl⟩
  | flags policy type =>
    refine (Parallel.of_eq (h.policyOf_eq (hused policy List.mem_cons_self))).bind fun p _ hp => ?_
    cases hp
    have htype := hused type (List.mem_cons_of_mem _ List.mem_cons_self)
    refine (Parallel.of_eq (h.type_eq htype)).bind fun t _ ht => ?_
    cases ht
    refine (Parallel.of_eq rfl).bind fun flags _ hflags => ?_
    cases hflags
    exact .ok ⟨⟨R, h⟩, rfl⟩
  | get target path =>
    refine (h.part (hused target List.mem_cons_self) path).bind fun v w hvw => ?_
    exact .ok ⟨⟨R, h⟩, hvw.toJson_eq h.cells⟩
  | equal first second =>
    have hsecond := hused second (List.mem_cons_of_mem _ List.mem_cons_self)
    refine (h.value (hused first List.mem_cons_self)).bind fun v v' hv => ?_
    refine (h.value hsecond).bind fun w w' hw => ?_
    exact .ok ⟨⟨R, h⟩, congrArg Json.bool (hv.same_eq h.cells h.unique hw)⟩
  | distinct names =>
    refine (h.values hused).bind fun vs ws hvws => ?_
    have hfind := Stored.Twin.find?_isChangeable hvws
    generalize vs.find? Stored.isChangeable = v, ws.find? Stored.isChangeable = w at hfind
    cases v with
    | none =>
      cases w with
      | none =>
        have hcount := h.countDistinct_eq hvws
        exact .ok ⟨⟨R, h⟩, congrArg (fun n : Nat => Json.int n) hcount⟩
      | some w => cases hfind
    | some v =>
      cases w with
      | none => cases hfind
      | some w =>
        have hkind : v.kindWord = w.kindWord := Option.some.inj hfind
        simp only [hkind]
        exact .error _
  | set target path a value =>
    refine (h.part (hused target List.mem_cons_self) path).bind fun v w hvw => ?_
    exact (h.replace hvw a value).bind fun t t' ht => .ok ⟨ht, rfl⟩
  | append target field value =>
    refine (h.value (hused target List.mem_cons_self)).bind fun v w hvw => ?_
    exact (h.extend hvw field value).bind fun t t' ht => .ok ⟨ht, rfl⟩

end TwinBy

namespace Twin

variable {D : List String} {s s' : Session} {st : SessionStep}

theorem symm (h : Twin D s s') : Twin D s' s := by
  obtain ⟨R, h⟩ := h
  exact ⟨_, h.symm⟩

theorem aside (h : Twin D s s') (hst : st.Within D) : Twin D (s.step st).1 s' := by
  obtain ⟨R, h⟩ := h
  exact ⟨R, h.aside hst⟩

theorem step (h : Twin D s s') (hused : ∀ n ∈ st.used, n ∉ D)
    (hbound : ∀ name, st.bound? = some name → name ∉ D) :
    Twin D (s.step st).1 (s'.step st).1 ∧ (s.step st).2 = (s'.step st).2 := by
  obtain ⟨R, h'⟩ := h
  have hperform := h'.perform hused hbound
  rw [Session.step, Session.step]
  generalize s.perform st = x, s'.perform st = y at hperform
  cases hperform with
  | error fault => exact ⟨⟨R, h'⟩, rfl⟩
  | ok hresult => exact ⟨hresult.1, congrArg Except.ok hresult.2⟩

end Twin

end Session

end ClassDiagram
