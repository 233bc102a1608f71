import ClassDiagram.Load.Text
import ClassDiagram.Proofs.Check.Spelling
import ClassDiagram.Proofs.Session.Argument
import ClassDiagram.Proofs.Session.RoundTrip
import Mathlib.Data.Fintype.EquivFin

/-!
# Models made piece by piece

A model can be made of its parts: each object of a snapshot becomes a value of its own, made from
its plain fields and from the values that its parts have become. If the snapshot is accepted, every
step succeeds, and in the end there is the model that is read from the snapshot.

* `Constructs` are the sequences of such steps;
* `Constructs.run` says that they succeed, and `constructible` that there are such sequences;
* `Session.construction_agrees` compares them with reading.
-/

namespace ClassDiagram

open Checked Check

/-! ### Constructions -/

/-- A place of a snapshot is to be a record, and this value stands there. -/
def Document.HasPart (v : Document) (r : Record) (d : Document) : Prop :=
  ∃ path, (Shape.record .model).Leads v path (.record r) d

/-- The steps make values from objects of a snapshot, the parts of an object before the object
itself. Before them the names stand for the objects of the first scaffold, and then for those of the
second one. -/
inductive Constructs (v : Document) : Scaffold → List SessionStep → Scaffold → Prop where
  | done {Γ} : Constructs v Γ [] Γ
  | construct {Γ Δ name r fields args steps} (hpart : v.HasPart r (.object fields))
      (hargs : Scaffold.Supplies Γ r.fields fields args)
      (h : Constructs v (Function.update Γ name (some (r, .object fields))) steps Δ) :
      Constructs v Γ (.construct name r args :: steps) Δ

namespace Session

variable {v d : Document} {Γ Δ : Scaffold} {s : Session} {r : Record} {name : String}
  {fields : List (String × Document)} {args : List (String × Argument)} {b : Built}

theorem exists_build (hr : r ∈ Record.symbols) (hd : (Shape.record r).Fits d) :
    ∃ b, build r d = .ok b := by
  have hok {α : Type} {x : Result Empty α} {f : α → Built}
      (hx : (Shape.record r).Exact d x.problems) : ∃ b, f <$> x = .ok b := by
    obtain ⟨a, ha⟩ := exists_ok_iff.2 (List.eq_nil_iff_forall_not_mem.2 fun p hp =>
      hd p ((hx.mem_iff p).1 hp))
    exact ⟨f a, map_eq_ok_iff.2 ⟨a, ha, rfl⟩⟩
  cases r with
  | parameter => exact hok (Parameter.exact_ofJson d)
  | member => exact hok (Member.exact_ofJson d)
  | type => exact hok (TypeSymbol.exact_ofJson d)
  | model => exact hok (Model.exact_ofJson d)
  | rule => simp [Record.symbols] at hr
  | config => simp [Record.symbols] at hr
  | request => simp [Record.symbols] at hr

theorem bindBuilt_of_build (hr : r ∈ Record.symbols) (h : build r d = .ok b) (s : Session)
    (name : String) : s.bindBuilt name b = s.bind name (.built b) := by
  cases b with
  | config c =>
    rw [← record_of_build h] at hr
    simp [Record.symbols, Built.record] at hr
  | _ => rfl

theorem Holds.bind (hΓ : s.Holds Γ) (h : build r d = .ok b) (name : String) :
    (s.bind name (.built b)).Holds (Function.update Γ name (some (r, d))) := by
  intro n r' d' hn
  by_cases hname : n = name
  · rw [hname, Function.update_self] at hn
    cases hn
    exact ⟨b, h, hname ▸ binding?_give_self s n _⟩
  · rw [Function.update_of_ne hname] at hn
    obtain ⟨c, hc, hbinding⟩ := hΓ n r' d' hn
    exact ⟨c, hc, (binding?_give_of_ne hname s _).trans hbinding⟩

/-- A value that is made from arguments is the one that is read from the object. -/
theorem Holds.step_construct (hΓ : s.Holds Γ) (hr : r ∈ Record.symbols)
    (hargs : Γ.Supplies r.fields fields args) (hb : build r (.object fields) = .ok b)
    (name : String) :
    s.step (.construct name r args) = (s.bind name (.built b), .ok b.toJson) := by
  obtain ⟨input, hinput, hgiven⟩ := exists_inputFields hargs.distinct fun a ha =>
    hΓ.exists_argumentInput (hargs.named a ha)
  have hbuild := hΓ.build_input hr (hargs.agrees hgiven) hb
  rw [SessionStep.construct, step_make hinput hbuild, bindBuilt_of_build hr hb]

end Session

namespace Constructs

open Session

variable {v d : Document} {Γ Δ Θ : Scaffold} {s : Session} {steps steps' : List SessionStep}

/-- All steps succeed, and then the names stand for what was built from their objects. -/
theorem run (h : Constructs v Γ steps Δ) (hv : (Shape.record .model).Fits v) (hΓ : s.Holds Γ) :
    (∀ x ∈ (s.run steps).2, ∃ shown, x = .ok shown) ∧ (s.run steps).1.Holds Δ := by
  induction h generalizing s with
  | done => exact ⟨List.forall_mem_nil _, hΓ⟩
  | @construct Γ Δ name r fields args steps hpart hargs _ ih =>
    obtain ⟨path, hpath⟩ := hpart
    have hr : (Shape.record r).IsSymbolic :=
      Shape.IsSymbolic.of_leads (by simp [Shape.IsSymbolic, Record.symbols]) hpath
    obtain ⟨b, hb⟩ := exists_build hr (hv.of_leads hpath)
    have hstep := hΓ.step_construct hr hargs hb name
    obtain ⟨hok, hΔ⟩ := ih (hΓ.bind hb name)
    rw [run_cons, hstep]
    exact ⟨List.forall_mem_cons.2 ⟨⟨_, rfl⟩, hok⟩, hΔ⟩

theorem append (h : Constructs v Γ steps Δ) (h' : Constructs v Δ steps' Θ) :
    Constructs v Γ (steps ++ steps') Θ := by
  induction h with
  | done => exact h'
  | construct hpart hargs _ ih => exact .construct hpart hargs (ih h')

end Constructs

/-! ### Constructions of a snapshot -/

theorem Shape.Leads.sizeOf_le {s t : Shape} {v w : Document} {path : List Step}
    (h : s.Leads v path t w) : sizeOf w ≤ sizeOf v := by
  induction h with
  | here => exact Nat.le_refl _
  | nonnull _ _ ih => exact ih
  | item _ hv _ ih =>
    have hlt := Json.sizeOf_lt_of_mem_array (List.mem_of_getElem? hv)
    omega
  | field _ hv _ ih =>
    obtain ⟨-, hget⟩ := Field.mem_keys_of_value? hv
    obtain ⟨field, hfield, rfl⟩ := Option.map_eq_some_iff.1 hget
    have hlt := Json.sizeOf_lt_of_mem_object (List.mem_of_find?_eq_some hfield)
    omega

/-- An argument still stands for a value, if its names stand for what they stood for. -/
theorem Scaffold.Gives.congr {Γ Δ : Scaffold} {shape : Shape} {w : Document} {a : Argument}
    (h : Γ.Gives shape w a) (hnames : ∀ n ∈ a.names, Δ n = Γ n) : Δ.Gives shape w a := by
  induction h with
  | single hs => exact .single hs
  | null => exact .null
  | nonnull hv _ ih => exact .nonnull hv (ih hnames)
  | one h => exact .one ((hnames _ List.mem_cons_self).trans h)
  | @many r vs ns h =>
    refine .many ?_
    simp only [Argument.names] at hnames
    induction h with
    | nil => exact .nil
    | cons hn _ ih =>
      rw [List.forall_mem_cons] at hnames
      exact .cons (hnames.1.trans hn) (ih hnames.2)

section Existence

variable {v w d : Document} {r : Record} {shape : Shape} {fields : List (String × Document)}

/-- The object can be made, from whatever stands already, and so that some names still stand for
what they stood for. -/
def Constructible (v : Document) (r : Record) (d : Document) : Prop :=
  ∀ Γ (kept : Finset String), ∃ steps Δ name, Constructs v Γ steps Δ ∧ Δ name = some (r, d) ∧
    ∀ n ∈ kept, Δ n = Γ n

/-- An argument for the value can be made in such a way. -/
def Givable (v : Document) (shape : Shape) (w : Document) : Prop :=
  ∀ Γ (kept : Finset String), ∃ steps Δ a, Constructs v Γ steps Δ ∧ Δ.Gives shape w a ∧
    (∀ n ∈ a.names, (Δ n).isSome) ∧ ∀ n ∈ kept, Δ n = Γ n

theorem isSome_of_forall₂ {Γ : Scaffold} {ns : List String} {ds : List Document}
    (h : List.Forall₂ (fun n d => Γ n = some (r, d)) ns ds) : ∀ n ∈ ns, (Γ n).isSome := by
  induction h with
  | nil => exact List.forall_mem_nil _
  | cons hn _ ih => exact List.forall_mem_cons.2 ⟨by rw [hn, Option.isSome_some], ih⟩

theorem exists_names {ds : List Document} (h : ∀ d ∈ ds, Constructible v r d) (Γ : Scaffold)
    (kept : Finset String) : ∃ steps Δ ns, Constructs v Γ steps Δ ∧
      List.Forall₂ (fun n d => Δ n = some (r, d)) ns ds ∧ ∀ n ∈ kept, Δ n = Γ n := by
  induction ds generalizing Γ kept with
  | nil => exact ⟨[], Γ, [], .done, .nil, fun _ _ => rfl⟩
  | cons d ds ih =>
    rw [List.forall_mem_cons] at h
    obtain ⟨steps, Δ, n, hsteps, hn, hkept⟩ := h.1 Γ kept
    obtain ⟨steps', Θ, ns, hsteps', hns, hkept'⟩ := ih h.2 Δ (insert n kept)
    rw [Finset.forall_mem_insert] at hkept'
    refine ⟨steps ++ steps', Θ, n :: ns, hsteps.append hsteps', .cons ?_ hns, fun k hk => ?_⟩
    · rw [hkept'.1, hn]
    · rw [hkept'.2 k hk, hkept k hk]

/-- An argument can be made for a value, if the objects in it can be made. -/
theorem givable (hs : shape.IsSymbolic) (hw : shape.Fits w)
    (hparts : ∀ r d path, shape.Leads w path (.record r) d → Constructible v r d) :
    Givable v shape w := by
  intro Γ kept
  induction shape with
  | nullable s ih =>
    by_cases hnull : w = .null
    · rw [hnull]
      exact ⟨[], Γ, .plain .null, .done, .null, List.forall_mem_nil _, fun _ _ => rfl⟩
    · obtain ⟨steps, Δ, a, hsteps, ha, hnames, hkept⟩ := ih hs (hw.nonnull hnull)
        fun r d path h => hparts r d path (.nonnull hnull h)
      exact ⟨steps, Δ, a, hsteps, .nonnull hnull ha, hnames, hkept⟩
  | record r =>
    obtain ⟨steps, Δ, n, hsteps, hn, hkept⟩ := hparts r w [] .here Γ kept
    exact ⟨steps, Δ, .one n, hsteps, .one hn, by simp [Argument.names, hn], hkept⟩
  | sequence item =>
    cases item with
    | record r =>
      obtain ⟨ws, rfl⟩ := hw.exists_array
      obtain ⟨steps, Δ, ns, hsteps, hns, hkept⟩ := exists_names (fun d hd => by
        obtain ⟨i, hi⟩ := List.mem_iff_getElem?.1 hd
        exact hparts r d [.index i] (.item rfl hi .here)) Γ kept
      exact ⟨steps, Δ, .many ns, hsteps, .many hns, isSome_of_forall₂ hns, hkept⟩
    | _ => exact hs.elim
  | list => exact hs.elim
  | _ => exact ⟨[], Γ, .plain w, .done, .single trivial, List.forall_mem_nil _, fun _ _ => rfl⟩

theorem findSome?_eq_some_of_unique {α β : Type} {f : α → Option β} {as : List α} {a : α} {b : β}
    (ha : a ∈ as) (hb : f a = some b) (hunique : ∀ a' ∈ as, a' ≠ a → f a' = none) :
    as.findSome? f = some b := by
  cases hfind : as.findSome? f with
  | none => cases hb.symm.trans (List.findSome?_eq_none_iff.1 hfind a ha)
  | some c =>
    obtain ⟨a', ha', hc⟩ := List.exists_of_findSome?_eq_some hfind
    by_cases haa : a' = a
    · rw [← hc, haa, hb]
    · cases hc.symm.trans (hunique a' ha' haa)

theorem given?_cons (k l : String) (a : Argument) (args : List (String × Argument)) :
    Argument.given? ((k, a) :: args) l = if k = l then some a else Argument.given? args l := by
  by_cases h : k = l <;> simp [Argument.given?, h]

namespace Scaffold.Supplies

variable {Γ : Scaffold} {f : Field} {fs : List Field} {args : List (String × Argument)}

/-- Keys of other fields are no keys of this one. -/
theorem given?_eq_none (hkeys : ∀ a ∈ args, ∃ g ∈ fs, a.1 ∈ g.keys)
    (hdisjoint : ∀ g ∈ fs, ∀ k ∈ f.keys, k ∉ g.keys) {k : String} (hk : k ∈ f.keys) :
    Argument.given? args k = none := by
  rw [Argument.given?, Option.map_eq_none_iff, Session.find?_eq_none_iff]
  intro hmem
  obtain ⟨a, ha, rfl⟩ := List.mem_map.1 hmem
  obtain ⟨g, hg, hkg⟩ := hkeys a ha
  exact hdisjoint g hg _ hk hkg

/-- A field without a value needs no argument. -/
theorem skip (h : Γ.Supplies fs fields args) (hkeys : ∀ a ∈ args, ∃ g ∈ fs, a.1 ∈ g.keys)
    (hdisjoint : ∀ g ∈ fs, ∀ k ∈ f.keys, k ∉ g.keys) (hvalue : f.value? fields = none) :
    Γ.Supplies (f :: fs) fields args where
  distinct := h.distinct
  named := h.named
  given := by
    refine List.forall_mem_cons.2 ⟨?_, h.given⟩
    have hnone : f.keys.findSome? (Argument.given? args) = none :=
      List.findSome?_eq_none_iff.2 fun k hk => given?_eq_none hkeys hdisjoint hk
    rw [← f.map_value?_eq_first?, hvalue, hnone]
    exact .none

/-- The argument for another field comes in under a key of that field. -/
theorem cons (h : Γ.Supplies fs fields args) (hkeys : ∀ a ∈ args, ∃ g ∈ fs, a.1 ∈ g.keys)
    (hdisjoint : ∀ g ∈ fs, ∀ k ∈ f.keys, k ∉ g.keys) {k : String} {a : Argument}
    (hvalue : f.value? fields = some (k, w)) (ha : Γ.Gives f.shape w a)
    (hnames : ∀ n ∈ a.names, (Γ n).isSome) : Γ.Supplies (f :: fs) fields ((k, a) :: args) where
  distinct := by
    obtain ⟨hk, -⟩ := Field.mem_keys_of_value? hvalue
    refine List.nodup_cons.2 ⟨fun hmem => ?_, h.distinct⟩
    obtain ⟨b, hb, rfl⟩ := List.mem_map.1 hmem
    obtain ⟨g, hg, hkg⟩ := hkeys b hb
    exact hdisjoint g hg _ hk hkg
  named := List.forall_mem_cons.2 ⟨hnames, h.named⟩
  given := by
    obtain ⟨hk, -⟩ := Field.mem_keys_of_value? hvalue
    refine List.forall_mem_cons.2 ⟨?_, fun g hg => ?_⟩
    · have hfirst : f.keys.findSome? (Argument.given? ((k, a) :: args)) = some a := by
        refine findSome?_eq_some_of_unique hk (by rw [given?_cons, if_pos rfl]) fun l hl hlk => ?_
        rw [given?_cons, if_neg (Ne.symm hlk), given?_eq_none hkeys hdisjoint hl]
      rw [← f.map_value?_eq_first?, hvalue, hfirst]
      exact .some ha
    · have hsame : g.keys.findSome? (Argument.given? ((k, a) :: args)) =
          g.keys.findSome? (Argument.given? args) := by
        refine Field.findSome?_congr fun l hl => ?_
        rw [given?_cons, if_neg]
        rintro rfl
        exact hdisjoint g hg k hk hl
      rw [hsame]
      exact h.given g hg

end Scaffold.Supplies

/-- Arguments can be made for some fields of an object, if an argument can be made for each value
of a field. -/
theorem exists_arguments {fs : List Field}
    (hdisjoint : fs.Pairwise fun f g => ∀ k ∈ f.keys, k ∉ g.keys)
    (hgivable : ∀ f ∈ fs, ∀ k w, f.value? fields = some (k, w) → Givable v f.shape w)
    (Γ : Scaffold) (kept : Finset String) :
    ∃ steps Δ args, Constructs v Γ steps Δ ∧ Δ.Supplies fs fields args ∧
      (∀ a ∈ args, ∃ f ∈ fs, a.1 ∈ f.keys) ∧ ∀ n ∈ kept, Δ n = Γ n := by
  induction fs generalizing Γ kept with
  | nil =>
    exact ⟨[], Γ, [], .done, ⟨List.nodup_nil, List.forall_mem_nil _, List.forall_mem_nil _⟩,
      List.forall_mem_nil _, fun _ _ => rfl⟩
  | cons f fs ih =>
    rw [List.pairwise_cons] at hdisjoint
    rw [List.forall_mem_cons] at hgivable
    obtain ⟨hdisjoint, hpairs⟩ := hdisjoint
    have hothers {args : List (String × Argument)} (hkeys : ∀ a ∈ args, ∃ g ∈ fs, a.1 ∈ g.keys) :
        ∀ a ∈ args, ∃ g ∈ f :: fs, a.1 ∈ g.keys := fun a ha =>
      let ⟨g, hg, hk⟩ := hkeys a ha
      ⟨g, List.mem_cons_of_mem f hg, hk⟩
    cases hvalue : f.value? fields with
    | none =>
      obtain ⟨steps, Δ, args, hsteps, hargs, hkeys, hkept⟩ := ih hpairs hgivable.2 Γ kept
      exact ⟨steps, Δ, args, hsteps, hargs.skip hkeys hdisjoint hvalue, hothers hkeys, hkept⟩
    | some field =>
      obtain ⟨k, w⟩ := field
      obtain ⟨hk, -⟩ := Field.mem_keys_of_value? hvalue
      obtain ⟨steps, Δ, a, hsteps, ha, hnames, hkept⟩ := hgivable.1 k w hvalue Γ kept
      -- What the names of the argument stand for is kept while the other arguments are made.
      obtain ⟨steps', Θ, args, hsteps', hargs, hkeys, hkept'⟩ :=
        ih hpairs hgivable.2 Δ (kept ∪ a.names.toFinset)
      have hsame : ∀ n ∈ a.names, Θ n = Δ n := fun n hn => hkept' n (by simp [hn])
      have hnames' : ∀ n ∈ a.names, (Θ n).isSome := fun n hn => hsame n hn ▸ hnames n hn
      refine ⟨steps ++ steps', Θ, (k, a) :: args, hsteps.append hsteps',
        hargs.cons hkeys hdisjoint hvalue (ha.congr hsame) hnames',
        List.forall_mem_cons.2 ⟨⟨f, List.mem_cons_self, hk⟩, hothers hkeys⟩, fun n hn => ?_⟩
      rw [hkept' n (Finset.mem_union_left _ hn), hkept n hn]

/-- Every object of a snapshot can be made, its parts first. -/
theorem constructible (hv : (Shape.record .model).Fits v) (d : Document) {r : Record}
    {path : List Step} (h : (Shape.record .model).Leads v path (.record r) d) :
    Constructible v r d := by
  obtain ⟨fields, hd⟩ := (hv.of_leads h).exists_object
  have hr : (Shape.record r).IsSymbolic :=
    Shape.IsSymbolic.of_leads (by simp [Shape.IsSymbolic, Record.symbols]) h
  intro Γ kept
  have hgivable : ∀ f ∈ r.fields, ∀ k w, f.value? fields = some (k, w) → Givable v f.shape w := by
    intro f hf k w hw
    have hleads : (Shape.record r).Leads d [.key k] f.shape w := hd ▸ .field hf hw .here
    refine givable (Record.isSymbolic_of_mem_fields r hr f hf) (hv.of_leads (h.trans hleads))
      fun r' d' path' h' => ?_
    have hlt : sizeOf d' < sizeOf d := by
      obtain ⟨-, hget⟩ := Field.mem_keys_of_value? hw
      obtain ⟨field, hfield, rfl⟩ := Option.map_eq_some_iff.1 hget
      have hlt := Json.sizeOf_lt_of_mem_object (List.mem_of_find?_eq_some hfield)
      have hle := h'.sizeOf_le
      rw [hd]
      omega
    exact constructible hv d' ((h.trans hleads).trans h')
  obtain ⟨steps, Δ, args, hsteps, hargs, -, hkept⟩ :=
    exists_arguments r.keys_disjoint hgivable Γ kept
  obtain ⟨name, hname⟩ := Infinite.exists_notMem_finset kept
  have hlast : Constructs v Δ [.construct name r args]
      (Function.update Δ name (some (r, .object fields))) :=
    .construct ⟨path, hd ▸ h⟩ hargs .done
  refine ⟨_, _, name, hsteps.append hlast, by rw [Function.update_self, hd], fun n hn => ?_⟩
  have hne : n ≠ name := fun he => hname (he ▸ hn)
  rw [Function.update_of_ne hne, hkept n hn]
termination_by sizeOf d

end Existence

/-! ### Constructions and reading -/

namespace Session

variable {text : String} {v : Document} {m : Model}

theorem holds_nothing (s : Session) : s.Holds fun _ => none := fun _ _ _ h => nomatch h

/-- **Making a model piece by piece agrees with reading it.** Take any steps that make a value from
each object of a snapshot, the parts of an object before the object itself: from its plain fields,
under any of their keys, and from the values that its parts became. If the snapshot is accepted, all
steps succeed, each name has the value that is read from its object alone, and the name of the whole
snapshot has the model that is read from its text. There are such steps. -/
theorem construction_agrees (hv : Json.Strict.read text = .ok v) (hm : Model.read text = .ok m) :
    (∀ (s : Session) (steps : List SessionStep) (Γ : Scaffold),
      Constructs v (fun _ => none) steps Γ →
        (∀ x ∈ (s.run steps).2, ∃ shown, x = .ok shown) ∧
        (∀ name r d, Γ name = some (r, d) →
          ∃ b, build r d = .ok b ∧ (s.run steps).1.value name = .ok (.built b)) ∧
        ∀ name, Γ name = some (.model, v) →
          (s.run steps).1.value name = .ok (.built (.model m))) ∧
    ∃ steps Γ name, Constructs v (fun _ => none) steps Γ ∧ Γ name = some (.model, v) := by
  have hok : Model.ofJson v = .ok m := by
    obtain ⟨w, hw, h⟩ := readAs_eq_ok_iff.1 hm
    cases hv.symm.trans hw
    exact h
  have hfits : (Shape.record .model).Fits v := fun p hp => by
    have hmem := ((Model.exact_ofJson v).mem_iff p).2 hp
    rw [hok] at hmem
    cases hmem
  constructor
  · intro s steps Γ h
    obtain ⟨hsteps, hΓ⟩ := h.run hfits s.holds_nothing
    refine ⟨hsteps, fun name r d hname => ?_, fun name hname => ?_⟩
    · obtain ⟨b, hb, hbinding⟩ := hΓ name r d hname
      exact ⟨b, hb, value_of_binding? hbinding⟩
    · obtain ⟨b, hb, hbinding⟩ := hΓ name .model v hname
      obtain ⟨m', hm', rfl⟩ := map_eq_ok_iff.1 hb
      cases hok.symm.trans hm'
      exact value_of_binding? hbinding
  · obtain ⟨steps, Γ, name, hsteps, hname, -⟩ :=
      constructible hfits v .here (fun _ => none) ∅
    exact ⟨steps, Γ, name, hsteps, hname⟩

/-- The entry of an interface. -/
def plainFields : List (String × Document) := [("name", .str "I")]

/-- The entry of a class that lists the interface twice. -/
def listingFields : List (String × Document) :=
  [("name", .str "Cart"),
    ("implementedInterfaces", .array [.object plainFields, .object plainFields])]

/-- The entries in a snapshot. -/
def listingSnapshot : List (String × Document) := [("types", .array [.object listingFields])]

/-- The text of the snapshot. -/
def listingText : String :=
  "\x7b\"types\":[\x7b\"name\":\"Cart\",\"implementedInterfaces\":" ++
    "[\x7b\"name\":\"I\"\x7d,\x7b\"name\":\"I\"\x7d]\x7d]\x7d"

/-- The interface is made once and given twice, under a key that the snapshot does not have. -/
def listingSteps : List SessionStep := [
  .construct "i" .type [("name", .plain (.str "I"))],
  .construct "c" .type
    [("name", .plain (.str "Cart")), ("implemented_interfaces", .many ["i", "i"])],
  .construct "m" .model [("types", .many ["c"])]]

theorem constructs_listing : ∃ Γ,
    Constructs (.object listingSnapshot) (fun _ => none) listingSteps Γ ∧
    Γ "m" = some (.model, .object listingSnapshot) := by
  have hinterface : Scaffold.Supplies (fun _ => none) (Record.fields .type) plainFields
      [("name", .plain (.str "I"))] := by
    refine ⟨by decide, by simp [Argument.names], ?_⟩
    simp only [Record.fields, List.forall_mem_cons]
    exact ⟨.some (.single trivial), .none, .none, .none, .none, .none, .none, .none,
      List.forall_mem_nil _⟩
  have hclass (Γ : Scaffold) (hi : Γ "i" = some (.type, .object plainFields)) :
      Γ.Supplies (Record.fields .type) listingFields
        [("name", .plain (.str "Cart")), ("implemented_interfaces", .many ["i", "i"])] := by
    refine ⟨by decide, by simp [Argument.names, hi], ?_⟩
    simp only [Record.fields, List.forall_mem_cons]
    exact ⟨.some (.single trivial), .none, .none, .none, .none, .none,
      .some (.many (.cons hi (.cons hi .nil))), .none, List.forall_mem_nil _⟩
  have hmodel (Γ : Scaffold) (hc : Γ "c" = some (.type, .object listingFields)) :
      Γ.Supplies (Record.fields .model) listingSnapshot [("types", .many ["c"])] := by
    refine ⟨by decide, by simp [Argument.names, hc], ?_⟩
    simp only [Record.fields, List.forall_mem_cons]
    exact ⟨.some (.many (.cons hc .nil)), List.forall_mem_nil _⟩
  have hleads : (Shape.record .model).Leads (.object listingSnapshot) [.key "types", .index 0]
      (.record .type) (.object listingFields) :=
    .field List.mem_cons_self rfl (.item rfl rfl .here)
  have hinner : (Shape.record .type).Leads (.object listingFields)
      [.key "implementedInterfaces", .index 0] (.record .type) (.object plainFields) :=
    .field (List.mem_of_getElem? (i := 6) rfl) rfl (.item rfl rfl .here)
  exact ⟨_, .construct ⟨_, hleads.trans hinner⟩ hinterface
    (.construct ⟨_, hleads⟩ (hclass _ (Function.update_self ..))
      (.construct ⟨_, .here⟩ (hmodel _ (Function.update_self ..)) .done)), Function.update_self ..⟩

theorem construction_agrees_listing :
    ∃ m, Model.read listingText = .ok m ∧
      (run {} listingSteps).1.value "m" = .ok (.built (.model m)) := by
  have hread : Json.Strict.read listingText = .ok (.object listingSnapshot) := by cbv
  obtain ⟨m, hm⟩ := exists_ok_iff.2 (List.isEmpty_iff.1 (by decide +kernel :
    (Model.ofJson (.object listingSnapshot : Document)).problems.isEmpty = true))
  have hmodel : Model.read listingText = .ok m := readAs_eq_ok_iff.2 ⟨_, hread, hm⟩
  obtain ⟨Γ, hsteps, hname⟩ := constructs_listing
  obtain ⟨-, -, hvalue⟩ := (construction_agrees hread hmodel).1 {} listingSteps Γ hsteps
  exact ⟨m, hmodel, hvalue "m" hname⟩

end Session

end ClassDiagram
