import ClassDiagram.Proofs.Session.Made

/-!
# What a step does to a session

A step that succeeds gives a name to a value, changes one cell, or does nothing but show something.
A step that fails does nothing. All that a session keeps from one step to the next follows from
this.

* `Stored.Fixed` says that a value stands for no cell, so that nothing in it can change;
* `Session.Effect` lists what a step can do, `Session.effect_of_perform` says that the list is
  complete;
* `Session.Settled` says that cells stand under names only, never inside other values, and
  `Session.settled_run` that this is so in every session;
* `Session.Never` says that something does not happen in a run, `Session.value_run` and
  `Session.cell_run` what a run keeps then.
-/

namespace ClassDiagram

/-! ### Steps -/

namespace SessionStep

/-- The name that a step gives to a value. -/
def bound? : SessionStep → Option String
  | .parse name _ | .validate name _ _ | .make name _ _ _ | .policy name _ | .pick name _ _ =>
    some name
  | _ => none

/-- The name by which a step edits something: it assigns to an attribute, or adds an item to a
list. -/
def target? : SessionStep → Option String
  | .set target _ _ _ | .append target _ _ => some target
  | _ => none

end SessionStep

/-! ### Values without cells -/

namespace Stored

/-- The value stands for no cell, and there is none in it. -/
inductive Fixed : Stored → Prop where
  | built (b : Built) : Fixed (.built b)
  | data (v : Document) : Fixed (.data v)
  | word (w : Word) : Fixed (.word w)
  | tags (names : List String) : Fixed (.tags names)
  | sequence {vs : List Stored} (h : ∀ v ∈ vs, Fixed v) : Fixed (.sequence vs)

variable {cells : List Cell} {cell : Nat} {v w : Stored}

theorem cell?_of_fixed (hv : v.Fixed) : v.cell? = none := by
  cases hv <;> rfl

theorem cell?_stored (c : Cell) (i : Nat) : (c.stored i).cell? = some i := by
  cases c <;> rfl

theorem Fixed.items {α : Type} (f : α → Built) (as : List α) :
    Fixed (.sequence (as.map fun a => .built (f a))) :=
  .sequence (List.forall_mem_map.2 fun a _ => .built (f a))

theorem Fixed.of_has {b : Built} (h : b.Has w) : w.Fixed := by
  cases h with
  | plain => exact .data _
  | word => exact .word _
  | base => exact .built _
  | parameters | members | interfaces | types => exact .items _ _

theorem Fixed.of_part (h : Cell.Part w) : w.Fixed := by
  cases h with
  | data v => exact .data v
  | tags names => exact .tags names
  | rules rs => exact .items _ rs

/-- No part stands for a cell. -/
theorem fixed_part {name : String} (h : v.part cells name = .ok w) : w.Fixed := by
  rcases part_cases h with ⟨b, rfl, hw⟩ | hw
  · exact .of_has (Built.has_of_part? hw)
  · exact .of_part hw

theorem Fixed.item {i : Int} (hv : v.Fixed) (h : v.item i = .ok w) : w.Fixed := by
  rcases item_cases h with ⟨vs, rfl, hw⟩ | ⟨d, rfl⟩
  · cases hv with
    | sequence hvs => exact hvs w hw
  · exact .data d

theorem Fixed.follow {path : List PathItem} (hv : v.Fixed) (h : v.follow cells path = .ok w) :
    w.Fixed := by
  induction path generalizing v with
  | nil =>
    cases h
    exact hv
  | cons step path ih =>
    cases step with
    | part name =>
      obtain ⟨u, hu, h⟩ := bind_eq_ok_iff.1 h
      exact ih (fixed_part hu) h
    | index i =>
      obtain ⟨u, hu, h⟩ := bind_eq_ok_iff.1 h
      exact ih (hv.item hu) h

/-- A path from a cell leads nowhere else but to the cell itself, or to a value without cells. -/
theorem fixed_of_follow_cell {path : List PathItem} (hv : v.cell? = some cell)
    (h : v.follow cells path = .ok w) : w.Fixed ∨ w = v := by
  cases path with
  | nil =>
    cases h
    exact .inr rfl
  | cons step path =>
    cases step with
    | part name =>
      obtain ⟨u, hu, h⟩ := bind_eq_ok_iff.1 h
      exact .inl ((fixed_part hu).follow h)
    | index i =>
      obtain ⟨u, hu, -⟩ := bind_eq_ok_iff.1 h
      cases v with
      | draft | policy => cases hu
      | _ => cases hv

/-! What is read of a value without cells does not depend on the cells of the session. -/

theorem Fixed.part_eq (hv : v.Fixed) (cs ds : List Cell) (name : String) :
    v.part cs name = v.part ds name := by
  cases hv <;> rfl

theorem Fixed.toInput_eq (hv : v.Fixed) (cs ds : List Cell) : v.toInput cs = v.toInput ds := by
  induction hv with
  | sequence _ ih =>
    rw [toInput, toInput, allToInput_eq_map, allToInput_eq_map, List.map_congr_left ih]
  | _ => rfl

theorem allToJson_eq_map (cs : List Cell) (vs : List Stored) :
    allToJson cs vs = vs.map (toJson cs) := by
  induction vs with
  | nil => rfl
  | cons v vs ih => rw [allToJson, ih, List.map_cons]

theorem Fixed.toJson_eq (hv : v.Fixed) (cs ds : List Cell) : v.toJson cs = v.toJson ds := by
  induction hv with
  | sequence _ ih =>
    rw [toJson, toJson, allToJson_eq_map, allToJson_eq_map, List.map_congr_left ih]
  | _ => rfl

end Stored

/-! ### What names stand for -/

namespace Binding

/-- The cell that a name stands for, or of which it stands for a document. -/
def cell? : Binding → Option Nat
  | value v => v.cell?
  | held cell _ => some cell

/-- A name stands for a value without cells, for one of so many cells, or for a document that one of
them holds. -/
inductive Sound (count : Nat) : Binding → Prop where
  | fixed {v : Stored} (hv : v.Fixed) : Sound count (.value v)
  | cell {v : Stored} {cell : Nat} (hv : v.cell? = some cell) (h : cell < count) :
      Sound count (.value v)
  | held {cell : Nat} (h : cell < count) (field : String) : Sound count (.held cell field)

variable {count cell : Nat} {b : Binding}

theorem Sound.lt_of_cell? (hb : b.Sound count) (h : b.cell? = some cell) : cell < count := by
  cases hb with
  | fixed hv => cases (Stored.cell?_of_fixed hv).symm.trans h
  | cell hv hcell =>
    cases hv.symm.trans h
    exact hcell
  | held hcell =>
    cases h
    exact hcell

theorem Sound.mono {more : Nat} (hb : b.Sound count) (h : count ≤ more) : b.Sound more := by
  cases hb with
  | fixed hv => exact .fixed hv
  | cell hv hcell => exact .cell hv (Nat.lt_of_lt_of_le hcell h)
  | held hcell field => exact .held (Nat.lt_of_lt_of_le hcell h) field

theorem Sound.current {cells : List Cell} (hb : b.Sound count) :
    (b.current cells).Fixed ∨ ∃ v cell, b = .value v ∧ v.cell? = some cell := by
  cases hb with
  | fixed hv => exact .inl hv
  | cell hv => exact .inr ⟨_, _, rfl, hv⟩
  | held => exact .inl (.data _)

theorem cell?_release {cells : List Cell} {i : Nat} {field : String}
    (h : (b.release cells i field).cell? = some cell) : b.cell? = some cell := by
  cases b with
  | value v => exact h
  | held j f =>
    rw [release] at h
    split_ifs at h
    · cases h
    · exact h

theorem release_of_cell?_ne {cells : List Cell} {field : String} (h : b.cell? ≠ some cell) :
    b.release cells cell field = b := by
  cases b with
  | value v => rfl
  | held i f =>
    rw [release]
    exact if_neg fun hi => h (congrArg some hi.1)

theorem Sound.release (hb : b.Sound count) (cells : List Cell) (i : Nat) (field : String) :
    (b.release cells i field).Sound count := by
  cases hb with
  | fixed hv => exact .fixed hv
  | cell hv h => exact .cell hv h
  | held h f =>
    rw [Binding.release]
    split_ifs
    · exact .fixed (.data _)
    · exact .held h f

end Binding

namespace Session

variable {s s' : Session} {st : SessionStep} {name other : String} {v : Stored} {b : Binding}

theorem binding?_give_self (s : Session) (name : String) (b : Binding) :
    (s.give name b).binding? name = some b := by
  simp [binding?, give]

theorem binding?_give_of_ne (h : other ≠ name) (s : Session) (b : Binding) :
    (s.give name b).binding? other = s.binding? other := by
  have hfind : (s.names.filter (·.1 != name)).find? (·.1 == other) =
      s.names.find? (·.1 == other) := by
    rw [List.find?_filter]
    congr 1
    funext entry
    by_cases he : entry.1 = other <;> simp [he, h]
  simp [binding?, give, hfind, h.symm]

theorem binding?_release (s : Session) (cell : Nat) (field name : String) :
    (s.release cell field).binding? name =
      (s.binding? name).map (·.release s.cells cell field) := by
  simp only [binding?, release, List.find?_map, Option.map_map]
  rfl

theorem exists_of_binding?_release {cell : Nat} {field : String}
    (h : (s.release cell field).binding? name = some b) :
    ∃ c, s.binding? name = some c ∧ c.release s.cells cell field = b :=
  Option.map_eq_some_iff.1 ((binding?_release ..).symm.trans h)

/-- Only a document can be the value of a name without being what the name stands for. -/
theorem binding?_of_value (h : s.value name = .ok v) (hv : ∀ d, v ≠ .data d) :
    s.binding? name = some (.value v) := by
  obtain ⟨b, hb, rfl⟩ := value_eq_ok_iff.1 h
  cases b with
  | value v => exact hb
  | held cell part => exact absurd rfl (hv _)

theorem value_of_binding? (h : s.binding? name = some (.value v)) : s.value name = .ok v :=
  value_eq_ok_iff.2 ⟨_, h, rfl⟩

/-! ### Where cells stand -/

/-- What a name stands for is there, and no cell stands inside of it. -/
def Settled (s : Session) : Prop :=
  ∀ name b, s.binding? name = some b → b.Sound s.cells.length

theorem Settled.give (hs : s.Settled) (hb : b.Sound s.cells.length) : (s.give name b).Settled := by
  intro other b' hb'
  by_cases hother : other = name
  · rw [hother, binding?_give_self] at hb'
    cases hb'
    exact hb
  · rw [binding?_give_of_ne hother] at hb'
    exact hs other b' hb'

theorem Settled.of_cells (hs : s.Settled) {cells : List Cell}
    (h : s.cells.length ≤ cells.length) : Settled { s with cells := cells } :=
  fun name b hb => (hs name b hb).mono h

theorem Settled.release (hs : s.Settled) (cell : Nat) (field : String) :
    (s.release cell field).Settled := by
  intro name b hb
  obtain ⟨b', hb', rfl⟩ := exists_of_binding?_release hb
  exact (hs name b' hb').release s.cells cell field

/-- A path leads to a value without cells, unless it leads nowhere and stays at a cell. -/
theorem Settled.part {path : List PathItem} (hs : s.Settled) (h : s.part name path = .ok v) :
    v.Fixed ∨ ∃ cell, v.cell? = some cell ∧ s.binding? name = some (.value v) := by
  obtain ⟨u, hu, h⟩ := bind_eq_ok_iff.1 h
  have h := mapError_eq_ok_iff.1 h
  obtain ⟨b, hb, rfl⟩ := value_eq_ok_iff.1 hu
  rcases (hs name b hb).current with hfixed | ⟨u, cell, rfl, hcell⟩
  · exact .inl (hfixed.follow h)
  · refine (Stored.fixed_of_follow_cell hcell h).imp_right fun hv => ⟨cell, ?_⟩
    rw [hv]
    exact ⟨hcell, hb⟩

/-- What is picked is tied to a cell only if that from which it is picked is. -/
theorem Settled.cell?_picked {path : List PathItem} {cell : Nat} (hs : s.Settled)
    (h : s.part name path = .ok v) (hcell : (s.picked name path v).cell? = some cell) :
    ∃ b, s.binding? name = some b ∧ b.cell? = some cell := by
  have hvalue (hv : (Binding.value v).cell? = some cell) :
      ∃ b, s.binding? name = some b ∧ b.cell? = some cell := by
    rcases hs.part h with hfixed | ⟨i, -, hb⟩
    · cases (Stored.cell?_of_fixed hfixed).symm.trans hv
    · exact ⟨_, hb, hv⟩
  rw [picked.eq_def] at hcell
  split at hcell
  next w field _ hb =>
    cases hw : w.cell? with
    | none =>
      rw [hw] at hcell
      exact hvalue hcell
    | some i =>
      rw [hw] at hcell
      exact ⟨_, hb, hw.trans hcell⟩
  next i field hb => exact ⟨_, hb, hcell⟩
  next => exact hvalue hcell

theorem Settled.picked {path : List PathItem} (hs : s.Settled) (h : s.part name path = .ok v) :
    (s.picked name path v).Sound s.cells.length := by
  have hvalue : (Binding.value v).Sound s.cells.length := by
    rcases hs.part h with hfixed | ⟨i, -, hb⟩
    · exact .fixed hfixed
    · exact hs name _ hb
  rcases s.picked_cases name path v with heq | ⟨cell, field, heq⟩
  · rwa [heq]
  · have hpicked : (s.picked name path v).cell? = some cell := by
      rw [heq]
      rfl
    obtain ⟨b, hb, hcell⟩ := hs.cell?_picked h hpicked
    rw [heq]
    exact .held ((hs name b hb).lt_of_cell? hcell) field

/-! ### Steps and their effect -/

open Checked

/-- The cell that a step edits. -/
def edited? (s : Session) : SessionStep → Option Nat
  | .set target path _ _ =>
    match s.part target path with
    | .ok v => v.cell?
    | .error _ => none
  | .append target _ _ =>
    match s.value target with
    | .ok v => v.cell?
    | .error _ => none
  | _ => none

/-- What a step can do to a session when it succeeds. -/
inductive Effect (s : Session) : SessionStep → Session → Prop where
  /-- It shows something. -/
  | shows {st : SessionStep} (h : st.bound? = none) : s.Effect st s
  /-- It gives a name to a value without cells. -/
  | binds {st : SessionStep} {name : String} {v : Stored} (h : st.bound? = some name)
      (hv : v.Fixed) : s.Effect st (s.bind name v)
  /-- It gives a name to a part of a value. -/
  | picks {name origin : String} {path : List PathItem} {v : Stored}
      (h : s.part origin path = .ok v) :
      s.Effect (.pick name origin path) (s.give name (s.picked origin path v))
  /-- It gives a name to a new cell. -/
  | makes {st : SessionStep} {name : String} (c : Cell) (h : st.bound? = some name) :
      s.Effect st (s.bindCell name c)
  /-- It assigns to an attribute of what is in a cell. -/
  | assigns {st : SessionStep} {cell : Nat} (field : String) (value : Document)
      (h : s.edited? st = some cell) : s.Effect st (s.assign cell field value)
  /-- It adds an item to a list that a cell holds. -/
  | grows {st : SessionStep} {cell : Nat} (field : String) (value : Document)
      (h : s.edited? st = some cell) : s.Effect st (s.edit cell (·.assign field value))

theorem effect_of_build {ρ : Type} [Holds ρ] {r : Record} {w : Json ρ} {b : Built}
    (hb : build r w = .ok b) (h : st.bound? = some name) : s.Effect st (s.bindBuilt name b) := by
  cases r with
  | request => cases hb
  | config =>
    obtain ⟨c, -, rfl⟩ := map_eq_ok_iff.1 hb
    exact .makes (.draft (.ofConfig c)) h
  | _ =>
    obtain ⟨a, -, rfl⟩ := map_eq_ok_iff.1 hb
    exact .binds h (.built _)

theorem effect_of_replace {target : String} {a : Attribute} {path : List PathItem}
    {value : Document} (hv : s.part target path = .ok v) (h : s.replace v a value = .ok s') :
    s.Effect (.set target path a value) s' := by
  rcases replace_cases h with rfl | ⟨cell, hcell, rfl⟩
  · exact .shows rfl
  · refine .assigns _ _ ?_
    rw [edited?, hv]
    exact hcell

theorem effect_of_extend {target field : String} {value : Document}
    (hv : s.value target = .ok v) (h : s.extend v field value = .ok s') :
    s.Effect (.append target field value) s' := by
  rcases extend_cases h with rfl | ⟨cell, vs, hcell, rfl⟩
  · exact .shows rfl
  · refine .grows _ _ ?_
    rw [edited?, hv]
    exact hcell

/-- Whatever a step does when it succeeds is in the list. -/
theorem effect_of_perform {shown : Document} (h : s.perform st = .ok (s', shown)) :
    s.Effect st s' := by
  cases st with
  | parse name text =>
    obtain ⟨m, -, h⟩ := bind_eq_ok_iff.1 h
    cases h
    exact .binds rfl (.built _)
  | validate name record text =>
    obtain ⟨b, hb, h⟩ := bind_eq_ok_iff.1 h
    cases h
    obtain ⟨w, -, hw⟩ := readAs_eq_ok_iff.1 (mapError_eq_ok_iff.1 hb)
    exact effect_of_build hw rfl
  | make name record fields sources =>
    obtain ⟨input, -, h⟩ := bind_eq_ok_iff.1 h
    obtain ⟨b, hb, h⟩ := bind_eq_ok_iff.1 h
    cases h
    exact effect_of_build (mapError_toExcept_eq_ok_iff.1 hb) rfl
  | policy name source =>
    obtain ⟨p, -, h⟩ := bind_eq_ok_iff.1 h
    cases h
    exact .makes (.policy (.made p)) rfl
  | pick name origin path =>
    obtain ⟨u, hu, h⟩ := bind_eq_ok_iff.1 h
    cases h
    exact .picks hu
  | set target path a value =>
    obtain ⟨u, hu, h⟩ := bind_eq_ok_iff.1 h
    obtain ⟨t, ht, h⟩ := bind_eq_ok_iff.1 h
    cases h
    exact effect_of_replace hu ht
  | append target field value =>
    obtain ⟨u, hu, h⟩ := bind_eq_ok_iff.1 h
    obtain ⟨t, ht, h⟩ := bind_eq_ok_iff.1 h
    cases h
    exact effect_of_extend hu ht
  | distinct names =>
    obtain ⟨vs, -, h⟩ := bind_eq_ok_iff.1 h
    split at h <;> cases h
    exact .shows rfl
  | render | flags =>
    obtain ⟨_, -, h⟩ := bind_eq_ok_iff.1 h
    obtain ⟨_, -, h⟩ := bind_eq_ok_iff.1 h
    obtain ⟨_, -, h⟩ := bind_eq_ok_iff.1 h
    cases h
    exact .shows rfl
  | equal =>
    obtain ⟨_, -, h⟩ := bind_eq_ok_iff.1 h
    obtain ⟨_, -, h⟩ := bind_eq_ok_iff.1 h
    cases h
    exact .shows rfl
  | typeNames | get =>
    obtain ⟨_, -, h⟩ := bind_eq_ok_iff.1 h
    cases h
    exact .shows rfl

/-- A step has an effect, or it fails and has none. -/
theorem step_cases (s : Session) (st : SessionStep) :
    (s.Effect st (s.step st).1 ∧ ∃ shown, (s.step st).2 = .ok shown) ∨
      ((s.step st).1 = s ∧ ∃ fault, (s.step st).2 = .error fault) := by
  rw [step]
  cases h : s.perform st with
  | ok result => exact .inl ⟨effect_of_perform h, _, rfl⟩
  | error fault => exact .inr ⟨rfl, fault, rfl⟩

theorem step_of_perform {shown : Document} (h : s.perform st = .ok (s', shown)) :
    s.step st = (s', .ok shown) := by
  rw [step, h]

theorem step_make {record : Record} {fields : List (String × Document)}
    {sources : List (String × Source)} {input : List (String × Json Built)} {b : Built}
    (hinput : s.inputFields fields sources = .ok input)
    (hb : build record (.object input) = .ok b) :
    s.step (.make name record fields sources) = (s.bindBuilt name b, .ok b.toJson) :=
  step_of_perform (bind_eq_ok_iff.2
    ⟨input, hinput, bind_eq_ok_iff.2 ⟨b, mapError_toExcept_eq_ok_iff.2 hb, rfl⟩⟩)

/-- The name of an edited cell is the one by which it is edited. -/
theorem Settled.binding?_of_edited? {cell : Nat} (hs : s.Settled) (h : s.edited? st = some cell) :
    ∃ target v, st.target? = some target ∧ s.binding? target = some (.value v) ∧
      v.cell? = some cell := by
  cases st with
  | set target path a value =>
    rw [edited?] at h
    split at h
    next v hpart =>
      rcases hs.part hpart with hfixed | ⟨i, -, hb⟩
      · cases (Stored.cell?_of_fixed hfixed).symm.trans h
      · exact ⟨target, v, rfl, hb, h⟩
    next => cases h
  | append target field value =>
    rw [edited?] at h
    split at h
    next v hvalue =>
      refine ⟨target, v, rfl, binding?_of_value hvalue ?_, h⟩
      rintro d rfl
      cases h
    next => cases h
  | _ => cases h

theorem length_edit (s : Session) (cell : Nat) (change : Cell → Cell) :
    (s.edit cell change).cells.length = s.cells.length :=
  List.length_modify ..

theorem length_assign (s : Session) (cell : Nat) (field : String) (value : Document) :
    (s.assign cell field value).cells.length = s.cells.length :=
  List.length_modify ..

theorem Effect.settled (h : s.Effect st s') (hs : s.Settled) : s'.Settled := by
  cases h with
  | shows => exact hs
  | binds _ hv => exact hs.give (.fixed hv)
  | picks hv => exact hs.give (hs.picked hv)
  | makes c _ =>
    have hlength : s.cells.length < (s.cells ++ [c]).length := by simp
    exact (hs.of_cells (Nat.le_of_lt hlength)).give (.cell (Stored.cell?_stored c _) hlength)
  | @assigns _ cell field value =>
    exact (hs.release cell field).of_cells (Nat.le_of_eq (length_assign ..).symm)
  | grows => exact hs.of_cells (Nat.le_of_eq (length_edit ..).symm)

theorem Settled.step (hs : s.Settled) (st : SessionStep) : (s.step st).1.Settled := by
  rcases s.step_cases st with ⟨heffect, -⟩ | ⟨hsame, -⟩
  · exact heffect.settled hs
  · rwa [hsame]

theorem settled_run (steps : List SessionStep) : (run {} steps).1.Settled :=
  invariant_run (fun _ st hs => hs.step st) (s := {}) nofun steps

/-! ### Kinds of cells -/

/-- What stands for a cell is of the kind of what is in the cell. -/
def Faithful (s : Session) : Prop :=
  ∀ name v i, s.binding? name = some (.value v) → v.cell? = some i →
    ∃ c : Cell, s.cells[i]? = some c ∧ v = c.stored i

theorem Faithful.give (hs : s.Faithful)
    (hb : ∀ v i, b = .value v → v.cell? = some i →
      ∃ c : Cell, s.cells[i]? = some c ∧ v = c.stored i) :
    (s.give name b).Faithful := by
  intro other v i hv hi
  by_cases hother : other = name
  · rw [hother, binding?_give_self] at hv
    exact hb v i (Option.some.inj hv) hi
  · rw [binding?_give_of_ne hother] at hv
    exact hs other v i hv hi

theorem Faithful.release (hs : s.Faithful) (cell : Nat) (field : String) :
    (s.release cell field).Faithful := by
  intro name v i hb hi
  obtain ⟨c, hc, hcv⟩ := exists_of_binding?_release hb
  cases c with
  | value w =>
    cases hcv
    exact hs name v i hc hi
  | held j f =>
    -- A document that is let go of stands for no cell.
    rw [Binding.release] at hcv
    split_ifs at hcv
    cases hcv
    cases hi

theorem Faithful.of_cells (hs : s.Faithful) {cells : List Cell}
    (h : ∀ i c, s.cells[i]? = some c → ∃ d : Cell, cells[i]? = some d ∧ d.stored i = c.stored i) :
    Faithful { s with cells := cells } := by
  intro name v i hb hi
  obtain ⟨c, hc, rfl⟩ := hs name v i hb hi
  obtain ⟨d, hd, hdc⟩ := h i c hc
  exact ⟨d, hd, hdc.symm⟩

theorem Faithful.edit (hs : s.Faithful) (cell : Nat) (field : String) (value : Document) :
    (s.edit cell (·.assign field value)).Faithful := by
  refine hs.of_cells fun i c hc => ?_
  rw [List.getElem?_modify, hc]
  by_cases hi : cell = i
  · exact ⟨_, by simp [hi], Cell.stored_assign c field value i⟩
  · exact ⟨c, by simp [hi], rfl⟩

theorem Effect.faithful (h : s.Effect st s') (hsettled : s.Settled) (hs : s.Faithful) :
    s'.Faithful := by
  cases h with
  | shows => exact hs
  | binds _ hv =>
    refine hs.give fun w i hw hi => ?_
    cases hw
    cases (Stored.cell?_of_fixed hv).symm.trans hi
  | @picks name origin path v hv =>
    refine hs.give fun w i hw hi => ?_
    rcases s.picked_cases origin path v with heq | ⟨cell, field, heq⟩
    · cases heq.symm.trans hw
      rcases hsettled.part hv with hfixed | ⟨j, -, hb⟩
      · cases (Stored.cell?_of_fixed hfixed).symm.trans hi
      · exact hs origin v i hb hi
    · cases heq.symm.trans hw
  | makes c _ =>
    -- The new cell comes last, and the others keep their numbers.
    have hcells : Faithful { s with cells := s.cells ++ [c] } :=
      hs.of_cells fun i d hd => ⟨d, by
        rw [List.getElem?_append_left (List.getElem?_eq_some_iff.1 hd).1, hd], rfl⟩
    refine hcells.give fun w i hw hi => ?_
    cases hw
    cases (Stored.cell?_stored c _).symm.trans hi
    exact ⟨c, List.getElem?_concat_length, rfl⟩
  | @assigns _ cell field value => exact (hs.release cell field).edit cell field value
  | @grows _ cell field value => exact hs.edit cell field value

theorem Faithful.step (hs : s.Faithful) (hsettled : s.Settled) (st : SessionStep) :
    (s.step st).1.Faithful := by
  rcases s.step_cases st with ⟨heffect, -⟩ | ⟨hsame, -⟩
  · exact heffect.faithful hsettled hs
  · rwa [hsame]

theorem faithful_run (steps : List SessionStep) : (run {} steps).1.Faithful :=
  (invariant_run (s := {}) (I := fun s => s.Settled ∧ s.Faithful)
    (fun _ st hs => ⟨hs.1.step st, hs.2.step hs.1 st⟩) ⟨nofun, nofun⟩ steps).2

/-! ### Names -/

/-- The step gives a name to a value, and does not fail. -/
def Binds (s : Session) (st : SessionStep) (name : String) : Prop :=
  st.bound? = some name ∧ ∃ shown, (s.step st).2 = .ok shown

theorem Effect.binding?_eq (h : s.Effect st s') (hname : st.bound? ≠ some name)
    (hb : s.binding? name = some (.value v)) : s'.binding? name = some (.value v) := by
  have hgive {other : String} {b : Binding} (hother : st.bound? = some other) :
      (s.give other b).binding? name = some (.value v) := by
    have hne : name ≠ other := fun he => hname (he ▸ hother)
    rwa [binding?_give_of_ne hne]
  cases h with
  | shows => exact hb
  | binds h => exact hgive h
  | picks => exact hgive rfl
  | makes _ h => exact hgive h
  | @assigns _ cell field value =>
    have hrelease := s.binding?_release cell field name
    rw [hb] at hrelease
    exact hrelease
  | grows => exact hb

/-- A value keeps its name until the name is given to another one. -/
theorem value_step (h : ¬ s.Binds st name) (hv : ∀ d, v ≠ .data d) (hs : s.value name = .ok v) :
    (s.step st).1.value name = .ok v := by
  rcases s.step_cases st with ⟨heffect, hok⟩ | ⟨hsame, -⟩
  · exact value_of_binding?
      (heffect.binding?_eq (fun hname => h ⟨hname, hok⟩) (binding?_of_value hs hv))
  · rwa [hsame]

/-! ### Cells -/

/-- A new cell comes after those that are there, and a cell changes when it is edited. -/
theorem Effect.cell_eq {cell : Nat} (h : s.Effect st s') (hedit : s.edited? st ≠ some cell)
    (hcell : cell < s.cells.length) : s'.cells[cell]? = s.cells[cell]? := by
  have hmodify {i : Nat} (change : Cell → Cell) (hi : s.edited? st = some i) :
      (s.cells.modify i change)[cell]? = s.cells[cell]? := by
    have hne : i ≠ cell := fun heq => hedit (heq ▸ hi)
    exact List.getElem?_modify_ne change s.cells hne
  cases h with
  | makes => exact List.getElem?_append_left hcell
  | assigns field value h | grows field value h => exact hmodify _ h
  | _ => rfl

theorem Effect.length_le (h : s.Effect st s') : s.cells.length ≤ s'.cells.length := by
  cases h with
  | makes => exact (List.sublist_append_left _ _).length_le
  | assigns => exact Nat.le_of_eq (length_assign ..).symm
  | grows => exact Nat.le_of_eq (length_edit ..).symm
  | _ => exact Nat.le_refl _

theorem cell_step {cell : Nat} (h : s.edited? st ≠ some cell) (hcell : cell < s.cells.length) :
    (s.step st).1.cells[cell]? = s.cells[cell]? := by
  rcases s.step_cases st with ⟨heffect, -⟩ | ⟨hs, -⟩
  · exact heffect.cell_eq h hcell
  · rw [hs]

theorem length_le_step (s : Session) (st : SessionStep) :
    s.cells.length ≤ (s.step st).1.cells.length := by
  rcases s.step_cases st with ⟨heffect, -⟩ | ⟨hs, -⟩
  · exact heffect.length_le
  · exact Nat.le_of_eq (congrArg (·.cells.length) hs.symm)

/-! ### Runs -/

theorem run_cons (s : Session) (st : SessionStep) (steps : List SessionStep) :
    s.run (st :: steps) =
      (((s.step st).1.run steps).1, (s.step st).2 :: ((s.step st).1.run steps).2) := rfl

theorem length_le_run (s : Session) (steps : List SessionStep) :
    s.cells.length ≤ (s.run steps).1.cells.length :=
  invariant_run (I := fun t => s.cells.length ≤ t.cells.length)
    (fun t st h => Nat.le_trans h (t.length_le_step st)) (Nat.le_refl _) steps

/-- No step of a run is of a kind, each in the session as it finds it. -/
def Never (P : Session → SessionStep → Prop) : Session → List SessionStep → Prop
  | _, [] => True
  | s, st :: steps => ¬ P s st ∧ Never P (s.step st).1 steps

theorem Never.imp {P Q : Session → SessionStep → Prop} {steps : List SessionStep}
    (hPQ : ∀ s st, P s st → Q s st) (h : s.Never Q steps) : s.Never P steps := by
  induction steps generalizing s with
  | nil => trivial
  | cons st steps ih => exact ⟨fun hst => h.1 (hPQ s st hst), ih h.2⟩

/-- What every other step preserves, a run without steps of the kind preserves. -/
theorem Never.invariant {P : Session → SessionStep → Prop} {I : Session → Prop}
    {steps : List SessionStep} (h : s.Never P steps)
    (hstep : ∀ s st, ¬ P s st → I s → I (s.step st).1) (hs : I s) : I (s.run steps).1 := by
  induction steps generalizing s with
  | nil => exact hs
  | cons st steps ih => exact ih h.2 (hstep s st h.1 hs)

theorem never_binds {steps : List SessionStep} (h : ∀ st ∈ steps, st.bound? ≠ some name) :
    s.Never (Binds · · name) steps := by
  induction steps generalizing s with
  | nil => trivial
  | cons st steps ih =>
    rw [List.forall_mem_cons] at h
    exact ⟨fun hbinds => h.1 hbinds.1, ih h.2⟩

theorem value_run {steps : List SessionStep} (h : s.Never (Binds · · name) steps)
    (hv : ∀ d, v ≠ .data d) (hs : s.value name = .ok v) :
    (s.run steps).1.value name = .ok v :=
  h.invariant (fun _ _ hst hs => value_step hst hv hs) hs

/-- A cell stays as it is until it is edited. -/
theorem cell_run {steps : List SessionStep} {cell : Nat}
    (h : s.Never (edited? · · = some cell) steps) (hcell : cell < s.cells.length) :
    (s.run steps).1.cells[cell]? = s.cells[cell]? :=
  (h.invariant (I := fun t => cell < t.cells.length ∧ t.cells[cell]? = s.cells[cell]?)
    (fun t st hst ht => ⟨Nat.lt_of_lt_of_le ht.1 (t.length_le_step st),
      (cell_step hst ht.1).trans ht.2⟩) ⟨hcell, rfl⟩).2

end Session

end ClassDiagram
