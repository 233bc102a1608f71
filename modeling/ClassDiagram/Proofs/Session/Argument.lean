import ClassDiagram.Proofs.Check.Fit
import ClassDiagram.Proofs.Session.Effect
import Mathlib.Data.List.Nodup

/-!
# Arguments of new values

A new value is made from arguments under keys. Some are plain, and some come from values that were
made before. If the arguments stand for the fields of an object that is accepted, the value that is
made is the one that is read from the object.

* `Argument` is what is given under a key, `SessionStep.construct` makes a value from arguments;
* `Scaffold` is what names stand for, `Scaffold.Gives` compares an argument with the value of a
  field and `Scaffold.Supplies` compares the arguments with an object;
* `Session.Holds.build_input` says that an object and its arguments build the same value.
-/

namespace ClassDiagram

open Checked Check

/-! ### Arguments -/

/-- What is given for a field of a new value. -/
inductive Argument where
  /-- A plain value. -/
  | plain (v : Document)
  /-- The value of a name. -/
  | one (name : String)
  /-- The values of some names. -/
  | many (names : List String)

namespace Argument

/-- The names whose values are given. -/
def names : Argument → List String
  | plain _ => []
  | one n => [n]
  | many ns => ns

/-- The plain value that is given, if it is one. -/
def plain? : Argument → Option Document
  | plain v => some v
  | _ => none

/-- Where the values that are given come from, unless a plain value is given. -/
def source? : Argument → Option Source
  | plain _ => none
  | one n => some (.one n)
  | many ns => some (.many ns)

/-- What is given under a key. -/
def given? (args : List (String × Argument)) (key : String) : Option Argument :=
  (args.find? (·.1 == key)).map (·.2)

end Argument

/-- The step that makes a value of a record from arguments. -/
def SessionStep.construct (name : String) (r : Record) (args : List (String × Argument)) :
    SessionStep :=
  .make name r (args.filterMap fun a => a.2.plain?.map (a.1, ·))
    (args.filterMap fun a => a.2.source?.map (a.1, ·))

/-! ### Scaffolds -/

/-- What names stand for while values are made from the objects of a document: an object, and the
record that it is to be. -/
abbrev Scaffold := String → Option (Record × Document)

namespace Scaffold

/-- The argument stands for a value of the shape: it is the value itself if that is a single one or
null, and else it names what stands for the value, or for its items. -/
inductive Gives (Γ : Scaffold) : Shape → Document → Argument → Prop where
  | single {s v} (hs : Shape.IsSingle s) : Gives Γ s v (.plain v)
  | null {s} : Gives Γ (.nullable s) .null (.plain .null)
  | nonnull {s v a} (hv : v ≠ .null) (h : Gives Γ s v a) : Gives Γ (.nullable s) v a
  | one {r v n} (h : Γ n = some (r, v)) : Gives Γ (.record r) v (.one n)
  | many {r vs ns} (h : List.Forall₂ (fun n v => Γ n = some (r, v)) ns vs) :
      Gives Γ (.sequence (.record r)) (.array vs) (.many ns)

/-- The arguments stand for the values that an object has of some fields. They have different keys,
and a field may be given under any of its keys. -/
structure Supplies (Γ : Scaffold) (fs : List Field) (fields : List (String × Document))
    (args : List (String × Argument)) : Prop where
  distinct : (args.map Prod.fst).Nodup
  named : ∀ a ∈ args, ∀ n ∈ a.2.names, (Γ n).isSome
  given : ∀ f ∈ fs, Option.Rel (Γ.Gives f.shape) (Json.first? fields f.keys)
    (f.keys.findSome? (Argument.given? args))

end Scaffold

theorem forall₂_of_forall₂ {α β γ : Type} {R : α → β → Prop} {S : α → γ → Prop} {T : β → γ → Prop}
    (hT : ∀ a b c, R a b → S a c → T b c) {as : List α} {bs : List β} {cs : List γ}
    (hbs : List.Forall₂ R as bs) (hcs : List.Forall₂ S as cs) : List.Forall₂ T bs cs := by
  induction hbs generalizing cs with
  | nil =>
    cases hcs
    exact .nil
  | cons hab _ ih =>
    obtain ⟨c, cs', hac, hcs', rfl⟩ := List.forall₂_cons_left_iff.1 hcs
    exact .cons (hT _ _ _ hab hac) (ih hcs')

/-! ### Inputs -/

namespace Session

/-- What is given as a part of a value that is to be built. -/
def argumentInput (s : Session) : Argument → Except SessionFault (Json Built)
  | .plain v => .ok v.lift
  | .one n => s.sourceInput (.one n)
  | .many ns => s.sourceInput (.many ns)

/-- The names stand for what was built from the objects. -/
def Holds (s : Session) (Γ : Scaffold) : Prop :=
  ∀ n r d, Γ n = some (r, d) → ∃ b, build r d = .ok b ∧ s.binding? n = some (.value (.built b))

section Inputs

variable {s : Session} {args : List (String × Argument)}

theorem map_fst_filterMap_sublist {α β : Type} (f : α → Option β) (as : List (String × α)) :
    ((as.filterMap fun a => (f a.2).map (a.1, ·)).map Prod.fst).Sublist (as.map Prod.fst) := by
  induction as with
  | nil => exact .slnil
  | cons a as ih =>
    cases hf : f a.2 with
    | none => simpa [List.filterMap_cons, hf] using ih.cons a.1
    | some b => simpa [List.filterMap_cons, hf] using ih

theorem find?_of_mem {α : Type} {as : List (String × α)} (hdistinct : (as.map Prod.fst).Nodup)
    {a : String × α} (ha : a ∈ as) : as.find? (·.1 == a.1) = some a := by
  cases hfind : as.find? (·.1 == a.1) with
  | none => simpa using List.find?_eq_none.1 hfind a ha
  | some b =>
    have hb : b.1 = a.1 := by simpa using List.find?_some hfind
    rw [List.inj_on_of_nodup_map hdistinct (List.mem_of_find?_eq_some hfind) ha hb]

theorem find?_eq_none_iff {α : Type} {as : List (String × α)} {k : String} :
    as.find? (·.1 == k) = none ↔ k ∉ as.map Prod.fst := by
  simp only [List.find?_eq_none, beq_iff_eq, List.mem_map, not_exists, not_and]

/-- Sources come to stand under their keys, and nothing else changes. -/
theorem exists_foldlM_put (sources : List (String × Source)) (known : List (String × Json Built))
    (hdistinct : (sources.map Prod.fst).Nodup)
    (hinput : ∀ f ∈ sources, ∃ w, s.sourceInput f.2 = .ok w) :
    ∃ input, sources.foldlM (fun known f => do return Json.put f.1 (← s.sourceInput f.2) known)
        known = .ok input ∧
      (∀ f ∈ sources, ∃ w, s.sourceInput f.2 = .ok w ∧ Json.get? input f.1 = some w) ∧
      ∀ k ∉ sources.map Prod.fst, Json.get? input k = Json.get? known k := by
  induction sources generalizing known with
  | nil => exact ⟨known, rfl, List.forall_mem_nil _, fun _ _ => rfl⟩
  | cons f sources ih =>
    rw [List.map_cons, List.nodup_cons] at hdistinct
    rw [List.forall_mem_cons] at hinput
    obtain ⟨⟨w, hw⟩, hinput⟩ := hinput
    obtain ⟨input, hfold, hsources, hothers⟩ := ih (Json.put f.1 w known) hdistinct.2 hinput
    refine ⟨input, ?_, List.forall_mem_cons.2 ⟨⟨w, hw, ?_⟩, hsources⟩, fun k hk => ?_⟩
    · rw [List.foldlM_cons, hw]
      exact hfold
    · rw [hothers f.1 hdistinct.1, Json.get?_put_self]
    · rw [List.map_cons, List.mem_cons, not_or] at hk
      rw [hothers k hk.2, Json.get?_put_of_ne hk.1]

/-- Only the sources among the arguments have sources, and a key is that of one argument. -/
theorem notMem_sources_of_plain (hdistinct : (args.map Prod.fst).Nodup) {k : String} {v : Document}
    (hk : (k, .plain v) ∈ args) :
    k ∉ (args.filterMap fun a => a.2.source?.map (a.1, ·)).map Prod.fst := by
  intro hmem
  obtain ⟨⟨l, source⟩, hsource, rfl⟩ := List.mem_map.1 hmem
  obtain ⟨a, ha, hmap⟩ := List.mem_filterMap.1 hsource
  obtain ⟨source, ha', h⟩ := Option.map_eq_some_iff.1 hmap
  cases h
  rw [List.inj_on_of_nodup_map hdistinct ha hk rfl] at ha'
  cases ha'

theorem argumentInput_of_source? {a : Argument} {source : Source} (h : a.source? = some source) :
    s.argumentInput a = s.sourceInput source := by
  cases a <;> cases h <;> rfl

/-- Under each key stands what is given under it. -/
theorem exists_inputFields (hdistinct : (args.map Prod.fst).Nodup)
    (hinput : ∀ a ∈ args, ∃ w, s.argumentInput a.2 = .ok w) :
    ∃ input, s.inputFields (args.filterMap fun a => a.2.plain?.map (a.1, ·))
        (args.filterMap fun a => a.2.source?.map (a.1, ·)) = .ok input ∧
      ∀ k, Option.Rel (fun a w => s.argumentInput a = .ok w) (Argument.given? args k)
        (Json.get? input k) := by
  set plains := args.filterMap fun a => a.2.plain?.map (a.1, ·) with hplains
  set sources := args.filterMap fun a => a.2.source?.map (a.1, ·) with hsources
  have hplainKeys := map_fst_filterMap_sublist Argument.plain? args
  have hsourceKeys := map_fst_filterMap_sublist Argument.source? args
  obtain ⟨input, hfold, hgiven, hothers⟩ := s.exists_foldlM_put sources
    (plains.map fun f => (f.1, f.2.lift)) (hdistinct.sublist hsourceKeys) fun f hf => by
      obtain ⟨a, ha, hmap⟩ := List.mem_filterMap.1 hf
      obtain ⟨source, hsource, rfl⟩ := Option.map_eq_some_iff.1 hmap
      rw [← argumentInput_of_source? hsource]
      exact hinput a ha
  refine ⟨input, hfold, fun k => ?_⟩
  have hknown : Json.get? (plains.map fun f => (f.1, f.2.lift)) k =
      (plains.find? (·.1 == k)).map fun f => (f.2.lift : Json Built) := by
    simp [Json.get?, List.find?_map, Function.comp_def]
  rw [Argument.given?]
  cases hfind : args.find? (·.1 == k) with
  | none =>
    have hk := find?_eq_none_iff.1 hfind
    have hplain : plains.find? (·.1 == k) = none :=
      find?_eq_none_iff.2 fun h => hk (hplainKeys.subset h)
    rw [hothers k fun h => hk (hsourceKeys.subset h), hknown, hplain]
    exact .none
  | some a =>
    obtain ⟨l, a⟩ := a
    obtain rfl : l = k := by simpa using List.find?_some hfind
    have ha := List.mem_of_find?_eq_some hfind
    have hsourced {source : Source} (hsource : a.source? = some source) :
        Option.Rel (fun a w => s.argumentInput a = .ok w) (some a) (Json.get? input l) := by
      obtain ⟨w, hw, hget⟩ := hgiven (l, source)
        (List.mem_filterMap.2 ⟨_, ha, Option.map_eq_some_iff.2 ⟨_, hsource, rfl⟩⟩)
      rw [hget]
      exact .some ((argumentInput_of_source? hsource).trans hw)
    cases a with
    | plain v =>
      have hv : (l, v) ∈ plains := List.mem_filterMap.2 ⟨_, ha, rfl⟩
      rw [hothers l (notMem_sources_of_plain hdistinct ha), hknown,
        find?_of_mem (hdistinct.sublist hplainKeys) hv]
      exact .some rfl
    | one n => exact hsourced rfl
    | many ns => exact hsourced rfl

end Inputs

end Session

/-! ### Values that are given -/

theorem Document.lift_ne_null {v : Document} (hv : v ≠ .null) : (v.lift : Json Built) ≠ .null := by
  cases v with
  | null => exact absurd rfl hv
  | ready r => exact r.elim
  | _ => nofun

namespace Check

theorem carries_text (v : Document) : Carries text text v (v.lift : Json Built) := by
  intro a h
  cases v with
  | str s =>
    cases h
    rfl
  | ready r => exact r.elim
  | _ => cases h

theorem flagOfInt_eq_ok_iff {ρ : Type} {n : Int} {v : Json ρ} {b : Bool} :
    flagOfInt n v = .ok b ↔ (n = 0 ∧ b = false) ∨ (n = 1 ∧ b = true) := by
  rw [flagOfInt]
  split_ifs with h0 h1 <;> simp [fault, pure, *, eq_comm]

theorem carries_flag (v : Document) : Carries flag flag v (v.lift : Json Built) := by
  intro a h
  cases v with
  | bool b =>
    cases h
    rfl
  | int n => exact flagOfInt_eq_ok_iff.2 (flagOfInt_eq_ok_iff.1 h)
  | float x =>
    rw [Document.lift, Json.map]
    simp only [flag] at h ⊢
    split at h
    next =>
      split_ifs at h ⊢
      · exact flagOfInt_eq_ok_iff.2 (flagOfInt_eq_ok_iff.1 h)
      · cases h
    next => cases h
  | str s =>
    rw [Document.lift, Json.map]
    simp only [flag] at h ⊢
    split_ifs at h ⊢
    · cases h
      rfl
    · cases h
      rfl
    · cases h
  | ready r => exact r.elim
  | _ => cases h

theorem carries_choice (α : Type) [Enumeration α] (v : Document) :
    Carries (choice α) (choice α) v (v.lift : Json Built) := by
  intro a h
  cases v with
  | str s =>
    rw [Document.lift, Json.map, choice]
    rw [choice] at h
    cases hs : Enumeration.ofName? α s with
    | none =>
      rw [hs] at h
      cases h
    | some b =>
      rw [hs] at h
      cases h
      rfl
  | ready r => exact r.elim
  | _ => cases h

end Check

/-- A built value that is ready is read as what its object is read as. -/
def ReadyAs {α : Type} (r : Record) (check : Document → Result Empty α)
    (check' : Json Built → Result Built α) : Prop :=
  ∀ d b, Session.build r d = .ok b → Carries check check' d (.ready b)

theorem Parameter.readyAs : ReadyAs .parameter ofJson ofJson := by
  intro d b hb p hp
  obtain ⟨q, hq, rfl⟩ := map_eq_ok_iff.1 hb
  cases hq.symm.trans hp
  rfl

theorem Member.readyAs : ReadyAs .member ofJson ofJson := by
  intro d b hb m hm
  obtain ⟨q, hq, rfl⟩ := map_eq_ok_iff.1 hb
  cases hq.symm.trans hm
  rfl

theorem TypeSymbol.readyAs : ReadyAs .type ofJson ofJson := by
  intro d b hb t ht
  obtain ⟨q, hq, rfl⟩ := map_eq_ok_iff.1 hb
  cases hq.symm.trans ht
  rw [ofJson]
  rfl

namespace Session

variable {s : Session} {Γ : Scaffold} {r : Record} {shape : Shape} {α : Type}
  {check : Document → Result Empty α} {check' : Json Built → Result Built α} {v : Document}
  {a : Argument} {w : Json Built}

theorem carries_single (hs : shape.IsSingle)
    (hcheck : ∀ v, Carries check check' v (Document.lift v)) (h : Γ.Gives shape v a)
    (hw : s.argumentInput a = .ok w) : Carries check check' v w := by
  cases h with
  | single =>
    cases hw
    exact hcheck v
  | _ => exact hs.elim

namespace Holds

theorem argumentInput_one (hΓ : s.Holds Γ) {n : String} (h : Γ n = some (r, v)) :
    ∃ b, build r v = .ok b ∧ s.argumentInput (.one n) = .ok (.ready b) := by
  obtain ⟨b, hb, hbinding⟩ := hΓ n r v h
  exact ⟨b, hb, bind_eq_ok_iff.2 ⟨_, value_of_binding? hbinding, rfl⟩⟩

theorem mapM_value (hΓ : s.Holds Γ) {ns : List String} {vs : List Document}
    (h : List.Forall₂ (fun n v => Γ n = some (r, v)) ns vs) :
    ∃ bs, List.Forall₂ (fun v b => build r v = .ok b) vs bs ∧
      ns.mapM s.value = .ok (bs.map Stored.built) := by
  induction h with
  | nil => exact ⟨[], .nil, rfl⟩
  | cons hn _ ih =>
    obtain ⟨b, hb, hbinding⟩ := hΓ _ _ _ hn
    obtain ⟨bs, hbs, hvalues⟩ := ih
    refine ⟨b :: bs, .cons hb hbs, ?_⟩
    rw [List.mapM_cons, value_of_binding? hbinding, hvalues]
    rfl

theorem argumentInput_many (hΓ : s.Holds Γ) {ns : List String} {vs : List Document}
    (h : List.Forall₂ (fun n v => Γ n = some (r, v)) ns vs) :
    ∃ bs, List.Forall₂ (fun v b => build r v = .ok b) vs bs ∧
      s.argumentInput (.many ns) = .ok (.array (bs.map Json.ready)) := by
  obtain ⟨bs, hbs, hvalues⟩ := hΓ.mapM_value h
  refine ⟨bs, hbs, bind_eq_ok_iff.2 ⟨_, hvalues, ?_⟩⟩
  rw [List.map_map]
  rfl

theorem exists_argumentInput (hΓ : s.Holds Γ) (h : ∀ n ∈ a.names, (Γ n).isSome) :
    ∃ w, s.argumentInput a = .ok w := by
  have hvalue : ∀ n ∈ a.names, ∃ v, s.value n = .ok v := by
    intro n hn
    obtain ⟨⟨r, d⟩, hd⟩ := Option.isSome_iff_exists.1 (h n hn)
    obtain ⟨b, -, hbinding⟩ := hΓ n r d hd
    exact ⟨_, value_of_binding? hbinding⟩
  cases a with
  | plain v => exact ⟨_, rfl⟩
  | one n =>
    obtain ⟨v, hv⟩ := hvalue n List.mem_cons_self
    exact ⟨_, bind_eq_ok_iff.2 ⟨v, hv, rfl⟩⟩
  | many ns =>
    obtain ⟨vs, hvs⟩ := exists_mapM hvalue
    exact ⟨_, bind_eq_ok_iff.2 ⟨vs, hvs, rfl⟩⟩

theorem ne_null (hΓ : s.Holds Γ) (h : Γ.Gives shape v a) (hw : s.argumentInput a = .ok w)
    (hv : v ≠ .null) : w ≠ .null := by
  induction h with
  | single =>
    cases hw
    exact Document.lift_ne_null hv
  | null => exact absurd rfl hv
  | nonnull _ _ ih => exact ih hw hv
  | one h =>
    obtain ⟨b, -, hinput⟩ := hΓ.argumentInput_one h
    cases hinput.symm.trans hw
    nofun
  | many h =>
    obtain ⟨bs, -, hinput⟩ := hΓ.argumentInput_many h
    cases hinput.symm.trans hw
    nofun

theorem carries_record (hΓ : s.Holds Γ) (hready : ReadyAs r check check')
    (h : Γ.Gives (.record r) v a) (hw : s.argumentInput a = .ok w) : Carries check check' v w := by
  cases h with
  | single hs => exact hs.elim
  | one h =>
    obtain ⟨b, hb, hinput⟩ := hΓ.argumentInput_one h
    cases hinput.symm.trans hw
    exact hready v b hb

theorem carries_sequence (hΓ : s.Holds Γ) (hready : ReadyAs r check check')
    (h : Γ.Gives (.sequence (.record r)) v a) (hw : s.argumentInput a = .ok w) :
    Carries (sequence check) (sequence check') v w := by
  cases h with
  | single hs => exact hs.elim
  | @many _ vs ns h =>
    obtain ⟨bs, hbs, hinput⟩ := hΓ.argumentInput_many h
    cases hinput.symm.trans hw
    intro as h
    obtain ⟨_, ⟨⟩, has⟩ := sequence_eq_ok_iff.1 h
    refine sequence_eq_ok_iff.2 ⟨_, rfl, List.forall₂_map_left_iff.2 ?_⟩
    exact forall₂_of_forall₂ (fun v b a hb ha => hready v b hb a ha) hbs has

theorem carries_nullable (hΓ : s.Holds Γ)
    (hcheck : ∀ a w, Γ.Gives shape v a → s.argumentInput a = .ok w → Carries check check' v w)
    (h : Γ.Gives (.nullable shape) v a) (hw : s.argumentInput a = .ok w) :
    Carries (fun v => nullable v (check v)) (fun w => nullable w (check' w)) v w := by
  cases h with
  | single hs => exact hs.elim
  | null =>
    cases hw
    intro o ho
    cases ho
    rfl
  | nonnull hv h => exact Check.carries_nullable (hcheck a w h hw) hv (hΓ.ne_null h hw hv)

end Holds

end Session

/-! ### Objects and their arguments -/

/-- Under some keys, an object has a value of a shape and an input has what is given for it. -/
def Scaffold.Agrees (Γ : Scaffold) (s : Session) (fields : List (String × Document))
    (input : List (String × Json Built)) (keys : List String) (shape : Shape) : Prop :=
  Option.Rel (fun v w => ∃ a, Γ.Gives shape v a ∧ s.argumentInput a = .ok w)
    (Json.first? fields keys) (Json.first? input keys)

section Agrees

variable {Γ : Scaffold} {s : Session} {r : Record} {fields : List (String × Document)}
  {args : List (String × Argument)} {input : List (String × Json Built)} {keys : List String}
  {shape : Shape} {α : Type} {check : Document → Result Empty α}
  {check' : Json Built → Result Built α}

theorem rel_findSome? {α β γ : Type} {R : β → γ → Prop} {f : α → Option β} {g : α → Option γ}
    (h : ∀ a, Option.Rel R (f a) (g a)) (as : List α) :
    Option.Rel R (as.findSome? f) (as.findSome? g) := by
  induction as with
  | nil => exact .none
  | cons a as ih =>
    have ha := h a
    rw [List.findSome?_cons, List.findSome?_cons]
    generalize f a = x, g a = y at ha
    cases ha with
    | none => exact ih
    | some hbc => exact .some hbc

theorem Scaffold.Supplies.agrees {fs : List Field} (h : Γ.Supplies fs fields args)
    (hinput : ∀ k, Option.Rel (fun a w => s.argumentInput a = .ok w) (Argument.given? args k)
      (Json.get? input k)) : ∀ f ∈ fs, Γ.Agrees s fields input f.keys f.shape := by
  intro f hf
  have hgiven := h.given f hf
  have hfound : Option.Rel (fun a w => s.argumentInput a = .ok w)
      (f.keys.findSome? (Argument.given? args)) (Json.first? input f.keys) :=
    rel_findSome? hinput f.keys
  rw [Scaffold.Agrees]
  generalize Json.first? fields f.keys = x, f.keys.findSome? (Argument.given? args) = y,
    Json.first? input f.keys = z at hgiven hfound
  cases hgiven with
  | none =>
    cases hfound
    exact .none
  | some hva =>
    cases hfound with
    | some haw => exact .some ⟨_, hva, haw⟩

namespace Scaffold.Agrees

theorem carries (h : Γ.Agrees s fields input keys shape)
    (hcheck : ∀ v a w, Γ.Gives shape v a → s.argumentInput a = .ok w → Carries check check' v w) :
    Option.Rel (Carries check check') (Json.first? fields keys) (Json.first? input keys) := by
  rw [Agrees] at h
  generalize Json.first? fields keys = x, Json.first? input keys = y at h
  cases h with
  | none => exact .none
  | some h =>
    obtain ⟨a, hva, haw⟩ := h
    exact .some (hcheck _ a _ hva haw)

theorem text (h : Γ.Agrees s fields input keys .text) :
    Option.Rel (Carries Check.text Check.text) (Json.first? fields keys)
      (Json.first? input keys) :=
  h.carries fun _ _ _ => Session.carries_single trivial carries_text

theorem flag (h : Γ.Agrees s fields input keys .flag) :
    Option.Rel (Carries Check.flag Check.flag) (Json.first? fields keys)
      (Json.first? input keys) :=
  h.carries fun _ _ _ => Session.carries_single trivial carries_flag

theorem choice [Enumeration α] (h : Γ.Agrees s fields input keys (.oneOf α)) :
    Option.Rel (Carries (Check.choice α) (Check.choice α)) (Json.first? fields keys)
      (Json.first? input keys) :=
  h.carries fun _ _ _ => Session.carries_single trivial (carries_choice α)

theorem nullableChoice [Enumeration α] (hΓ : s.Holds Γ)
    (h : Γ.Agrees s fields input keys (.nullable (.oneOf α))) :
    Option.Rel (Carries (fun v => nullable v (Check.choice α v))
      fun w => nullable w (Check.choice α w)) (Json.first? fields keys) (Json.first? input keys) :=
  h.carries fun _ _ _ => hΓ.carries_nullable fun _ _ =>
    Session.carries_single trivial (carries_choice α)

theorem sequence (hΓ : s.Holds Γ) (hready : ReadyAs r check check')
    (h : Γ.Agrees s fields input keys (.sequence (.record r))) :
    Option.Rel (Carries (Check.sequence check) (Check.sequence check')) (Json.first? fields keys)
      (Json.first? input keys) :=
  h.carries fun _ _ _ => hΓ.carries_sequence hready

theorem nullable (hΓ : s.Holds Γ) (hready : ReadyAs r check check')
    (h : Γ.Agrees s fields input keys (.nullable (.record r))) :
    Option.Rel (Carries (fun v => Check.nullable v (check v))
      fun w => Check.nullable w (check' w)) (Json.first? fields keys) (Json.first? input keys) :=
  h.carries fun _ _ _ => hΓ.carries_nullable fun _ _ => hΓ.carries_record hready

end Scaffold.Agrees

end Agrees

namespace Session

variable {Γ : Scaffold} {s : Session} {fields : List (String × Document)}
  {input : List (String × Json Built)}

/-- A symbol is read from the input as it is read from the object. -/
theorem readParameter {p : Parameter}
    (hagrees : ∀ f ∈ Record.parameter.fields, Γ.Agrees s fields input f.keys f.shape)
    (h : p.Read fields) : p.Read input := by
  simp only [Record.fields, List.forall_mem_cons, Field.required, Field.optional] at hagrees
  obtain ⟨hname, htype, -⟩ := hagrees
  exact ⟨h.name.carry hname.text, h.typeName.carry htype.text⟩

theorem Holds.readMember {m : Member} (hΓ : s.Holds Γ)
    (hagrees : ∀ f ∈ Record.member.fields, Γ.Agrees s fields input f.keys f.shape)
    (h : m.Read fields) : m.Read input := by
  simp only [Record.fields, List.forall_mem_cons, Field.required, Field.optional] at hagrees
  obtain ⟨hkind, hname, htype, hvisibility, hstatic, himplicit, haccessor, hparameters, -⟩ :=
    hagrees
  exact {
    kind := h.kind.carry hkind.choice
    name := h.name.carry hname.text
    typeName := h.typeName.carry htype.text
    visibility := h.visibility.carry hvisibility.choice
    isStatic := h.isStatic.carry hstatic.flag
    isImplicit := h.isImplicit.carry himplicit.flag
    isAccessor := h.isAccessor.carry haccessor.flag
    parameters := h.parameters.carry (hparameters.sequence hΓ Parameter.readyAs) }

theorem Holds.readType {t : TypeSymbol} {is : List TypeSymbol} (hΓ : s.Holds Γ)
    (hagrees : ∀ f ∈ Record.type.fields, Γ.Agrees s fields input f.keys f.shape)
    (h : TypeSymbol.Read fields is t) : TypeSymbol.Read input is t := by
  simp only [Record.fields, List.forall_mem_cons, Field.required, Field.optional] at hagrees
  obtain ⟨hname, hkind, hspace, horigin, hspecial, hmembers, hinterfaces, hbase, -⟩ := hagrees
  exact {
    name := h.name.carry hname.text
    kind := h.kind.carry hkind.choice
    namespaceName := h.namespaceName.carry hspace.text
    origin := h.origin.carry horigin.choice
    special := h.special.carry (hspecial.nullableChoice hΓ)
    members := h.members.carry (hmembers.sequence hΓ Member.readyAs)
    listed := h.listed.carry (hinterfaces.sequence hΓ TypeSymbol.readyAs)
    interfaces_eq := h.interfaces_eq
    base := h.base.carry (hbase.nullable hΓ TypeSymbol.readyAs) }

/-- What is built from an object is built from its arguments as well. -/
theorem Holds.build_input {r : Record} {b : Built} (hΓ : s.Holds Γ) (hr : r ∈ Record.symbols)
    (hagrees : ∀ f ∈ r.fields, Γ.Agrees s fields input f.keys f.shape)
    (h : build r (.object fields) = .ok b) : build r (.object input) = .ok b := by
  cases r with
  | parameter =>
    obtain ⟨p, hp, rfl⟩ := map_eq_ok_iff.1 h
    have hread := readParameter hagrees (Parameter.ofJson_object_eq_ok_iff.1 hp)
    exact map_eq_ok_iff.2 ⟨p, Parameter.ofJson_object_eq_ok_iff.2 hread, rfl⟩
  | member =>
    obtain ⟨m, hm, rfl⟩ := map_eq_ok_iff.1 h
    have hread := hΓ.readMember hagrees (Member.ofJson_object_eq_ok_iff.1 hm)
    exact map_eq_ok_iff.2 ⟨m, Member.ofJson_object_eq_ok_iff.2 hread, rfl⟩
  | type =>
    obtain ⟨t, ht, rfl⟩ := map_eq_ok_iff.1 h
    obtain ⟨is, hread⟩ := TypeSymbol.ofJson_object_eq_ok_iff.1 ht
    have hinput := TypeSymbol.ofJson_object_eq_ok_iff.2 ⟨is, hΓ.readType hagrees hread⟩
    exact map_eq_ok_iff.2 ⟨t, hinput, rfl⟩
  | model =>
    obtain ⟨m, hm, rfl⟩ := map_eq_ok_iff.1 h
    simp only [Record.fields, List.forall_mem_cons, Field.optional] at hagrees
    have htypes := hagrees.1.sequence hΓ TypeSymbol.readyAs
    have hread := (Model.ofJson_object_eq_ok_iff.1 hm).carry htypes
    exact map_eq_ok_iff.2 ⟨m, Model.ofJson_object_eq_ok_iff.2 hread, rfl⟩
  | rule => simp [Record.symbols] at hr
  | config => simp [Record.symbols] at hr
  | request => simp [Record.symbols] at hr

end Session

end ClassDiagram
