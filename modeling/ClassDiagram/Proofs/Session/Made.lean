import ClassDiagram.Proofs.Check.Accepted
import ClassDiagram.Session.Run

/-!
# Values that were made

The values that come from reading a document or from putting parts together, and the parts of such
values. A session keeps no other built values.

* `Built.Made` says that a value was made;
* `Built.Sound` is what all such values have in common;
* `Session.AllMade` says that every built value that a session keeps was made, and
  `Session.AllMade.run` that this stays so.
-/

namespace ClassDiagram

variable {ρ : Type}

namespace Built

/-- The value was read from a document or put together from parts, or is a part of such a value. A
configuration becomes part of nothing, so that nothing is asked of one that stands among the
parts. -/
inductive Made : Built → Prop where
  /-- It was read from a document. -/
  | read {r : Record} {v : Document} {b : Built} (h : Session.build r v = .ok b) : Made b
  /-- It was put together from parts. -/
  | put {r : Record} {v : Json Built} {b : Built}
      (hparts : ∀ c, v.Part c → c.record ≠ .config → Made c) (h : Session.build r v = .ok b) :
      Made b
  /-- It is a part. -/
  | part {b c : Built} {name : String} (hb : Made b) (h : b.part? name = some (.built c)) : Made c
  /-- It is an item of a part. -/
  | item {b c : Built} {name : String} {vs : List Stored} (hb : Made b)
      (h : b.part? name = some (.sequence vs)) (hc : .built c ∈ vs) : Made c

/-- Types list no interface twice, at any depth, and a configuration is as it was read. -/
def Sound : Built → Prop
  | type t => t.InterfacesDistinct
  | model m => ∀ t ∈ m.types, t.InterfacesDistinct
  | config d => ∃ c, d = DraftConfig.ofConfig c
  | _ => True

/-! ### Parts -/

/-- What a part of a value can be. -/
inductive Has : Built → Stored → Prop where
  | plain {b : Built} {v : Document} : Has b (.data v)
  | word {b : Built} {w : Word} : Has b (.word w)
  | parameters (m : Member) :
      Has (.member m) (.sequence (m.parameters.map fun p => .built (.parameter p)))
  | members (t : TypeSymbol) :
      Has (.type t) (.sequence (t.members.map fun m => .built (.member m)))
  | interfaces (t : TypeSymbol) :
      Has (.type t) (.sequence (t.interfaces.map fun i => .built (.type i)))
  | base {t u : TypeSymbol} (h : u ∈ t.base) : Has (.type t) (.built (.type u))
  | types (m : Model) : Has (.model m) (.sequence (m.types.map fun t => .built (.type t)))

theorem has_of_part? {b : Built} {name : String} {w : Stored} (h : b.part? name = some w) :
    b.Has w := by
  cases b with
  | parameter p =>
    simp only [part?, Parameter.part?.eq_def] at h
    split at h <;> cases h <;> exact .plain
  | member m =>
    simp only [part?, Member.part?.eq_def] at h
    split at h
    case h_8 =>
      cases h
      exact .parameters m
    case h_1 | h_4 =>
      cases h
      exact .word
    all_goals cases h
    all_goals exact .plain
  | type t =>
    simp only [part?, TypeSymbol.part?.eq_def] at h
    split at h
    case h_2 | h_4 =>
      cases h
      exact .word
    case h_5 =>
      cases hs : t.special <;> rw [hs] at h <;> cases h
      · exact .plain
      · exact .word
    case h_6 =>
      cases h
      exact .members t
    case h_7 =>
      cases h
      exact .interfaces t
    case h_8 =>
      cases hu : t.base with
      | none =>
        rw [hu] at h
        cases h
        exact .plain
      | some u =>
        rw [hu] at h
        cases h
        exact .base hu
    all_goals cases h
    all_goals exact .plain
  | model m =>
    simp only [part?, Model.part?.eq_def] at h
    split at h <;> cases h
    exact .types m
  | rule r =>
    simp only [part?, NamespaceRule.part?.eq_def] at h
    split at h <;> cases h <;> exact .plain
  | config d =>
    obtain ⟨part, -, hpart⟩ := Option.map_eq_some_iff.1 h
    cases hpart
    exact .plain

/-- Every rule can be read. -/
theorem made_rule (r : NamespaceRule) : (rule r).Made :=
  .read (r := .rule) (v := .object [("prefix", .str r.pattern)]) rfl

theorem Sound.part {b c : Built} {name : String} (hb : b.Sound)
    (h : b.part? name = some (.built c)) : c.Sound := by
  cases has_of_part? h with
  | base hu =>
    cases hb with
    | intro _ _ hbase => exact hbase _ hu

theorem Sound.item {b c : Built} {name : String} {vs : List Stored} (hb : b.Sound)
    (h : b.part? name = some (.sequence vs)) (hc : .built c ∈ vs) : c.Sound := by
  cases has_of_part? h with
  | parameters m =>
    obtain ⟨p, -, hp⟩ := List.mem_map.1 hc
    cases hp
    trivial
  | members t =>
    obtain ⟨m, -, hm⟩ := List.mem_map.1 hc
    cases hm
    trivial
  | interfaces t =>
    obtain ⟨i, hi, hic⟩ := List.mem_map.1 hc
    cases hic
    cases hb with
    | intro _ hinterfaces _ => exact hinterfaces i hi
  | types m =>
    obtain ⟨t, ht, htc⟩ := List.mem_map.1 hc
    cases htc
    exact hb t ht

end Built

/-! ### Building -/

namespace Session

open Checked

/-- What is built is sound, if that holds of the parts that are used. -/
theorem sound_of_build [Holds ρ] {r : Record} {v : Json ρ} {b : Built}
    (hparts : ∀ p, v.Part p → (Holds.built p).record ≠ .config → (Holds.built p).Sound)
    (h : build r v = .ok b) : b.Sound := by
  have htypes (w : Json ρ) (hw : ∀ p, w.Part p → v.Part p) {t : TypeSymbol}
      (ht : TypeSymbol.ofJson w = .ok t) : t.InterfacesDistinct :=
    TypeSymbol.interfacesDistinct_of_ofJson w (fun p hp u hu => by
      have hsound := hparts p (hw p hp)
      rw [hu] at hsound
      exact hsound nofun) ht
  cases r with
  | request => cases h
  | type =>
    obtain ⟨t, ht, rfl⟩ := map_eq_ok_iff.1 h
    exact htypes v (fun _ hp => hp) ht
  | model =>
    obtain ⟨m, hm, rfl⟩ := map_eq_ok_iff.1 h
    rcases Model.ofJson_eq_ok hm with ⟨p, rfl, hp⟩ | ⟨fields, rfl, hlisted⟩
    · have hsound := hparts p .here
      rw [hp] at hsound
      exact hsound nofun
    · intro t ht
      obtain ⟨w, hw, hwt⟩ := hlisted t ht
      exact htypes w (fun _ => hw.part) hwt
  | config =>
    obtain ⟨c, -, rfl⟩ := map_eq_ok_iff.1 h
    exact ⟨c, rfl⟩
  | _ =>
    obtain ⟨a, -, rfl⟩ := map_eq_ok_iff.1 h
    trivial

end Session

/-- Whatever was made is sound. -/
theorem Built.Made.sound {b : Built} (h : b.Made) : b.Sound := by
  induction h with
  | read h => exact Session.sound_of_build (fun p => p.elim) h
  | put _ h ih => exact Session.sound_of_build ih h
  | part _ h ih => exact ih.part h
  | item _ h hc ih => exact ih.item h hc

/-! ### Values of a session -/

/-- What a part of something that may change can be. -/
inductive Cell.Part : Stored → Prop where
  | data (v : Document) : Cell.Part (.data v)
  | tags (names : List String) : Cell.Part (.tags names)
  | rules (rs : List NamespaceRule) : Cell.Part (.sequence (rs.map fun r => .built (.rule r)))

theorem Cell.part_of_part? {c : Cell} {name : String} {w : Stored} (h : c.part? name = some w) :
    Cell.Part w := by
  cases c with
  | draft d =>
    obtain ⟨part, -, rfl⟩ := Option.map_eq_some_iff.1 h
    exact .data _
  | policy o =>
    simp only [Cell.part?, PolicyObject.part?.eq_def] at h
    split at h
    next v _ =>
      cases h
      exact .data v
    next =>
      obtain ⟨part, -, rfl⟩ := Option.map_eq_some_iff.1 h
      cases part with
      | frameworkNamespaces => exact .rules _
      | _ => exact .tags _

namespace Stored

/-- Every built value in it was made. -/
inductive AllMade : Stored → Prop where
  | built {b : Built} (h : b.Made) : AllMade (.built b)
  | draft (cell : Nat) : AllMade (.draft cell)
  | policy (cell : Nat) : AllMade (.policy cell)
  | data (v : Document) : AllMade (.data v)
  | word (w : Word) : AllMade (.word w)
  | tags (names : List String) : AllMade (.tags names)
  | sequence {vs : List Stored} (h : ∀ v ∈ vs, AllMade v) : AllMade (.sequence vs)

variable {cells : List Cell} {v w : Stored}

theorem AllMade.of_part (h : Cell.Part w) : w.AllMade := by
  cases h with
  | data v => exact .data v
  | tags names => exact .tags names
  | rules rs => exact .sequence (List.forall_mem_map.2 fun r _ => .built (Built.made_rule r))

/-- A cell in which there is something may be anything that stands under its number. -/
theorem AllMade.stored (c : Cell) (i : Nat) : (c.stored i).AllMade := by
  cases c with
  | draft => exact .draft i
  | policy => exact .policy i

theorem allMade_of_part? {b : Built} {name : String} (hb : b.Made) (h : b.part? name = some w) :
    w.AllMade := by
  have hitems {α : Type} {f : α → Built} {as : List α}
      (hseq : w = .sequence (as.map fun a => .built (f a))) : w.AllMade := by
    rw [hseq] at h ⊢
    refine .sequence (List.forall_mem_map.2 fun a ha => .built (hb.item h ?_))
    exact List.mem_map_of_mem ha
  cases Built.has_of_part? h with
  | plain => exact .data _
  | word => exact .word _
  | base => exact .built (hb.part h)
  | _ => exact hitems rfl

theorem mem_of_itemAt {α : Type} {as : List α} {i : Int} {a : α} (h : itemAt as i = some a) :
    a ∈ as := by
  unfold itemAt at h
  split_ifs at h
  · exact List.mem_of_getElem? h
  · exact List.mem_of_getElem? h

theorem part_eq_ok_iff {name : String} :
    v.part cells name = .ok w ↔ v.part? cells name = some w := by
  rw [Stored.part]
  cases v.part? cells name <;> simp

/-- A part belongs to a built value, or it is like one of something that may change. -/
theorem part_cases {name : String} (h : v.part cells name = .ok w) :
    (∃ b, v = .built b ∧ b.part? name = some w) ∨ Cell.Part w := by
  have h := part_eq_ok_iff.1 h
  cases v with
  | built b => exact .inl ⟨b, rfl, h⟩
  | draft | policy =>
    obtain ⟨c, -, hc⟩ := Option.bind_eq_some_iff.1 h
    exact .inr (Cell.part_of_part? hc)
  | word x =>
    obtain ⟨text, -, rfl⟩ := Option.map_eq_some_iff.1 h
    exact .inr (.data _)
  | _ => cases h

theorem found_eq_ok_iff {kind : String} {o : Option Stored} :
    found kind o = .ok w ↔ o = some w := by
  cases o <;> simp [found]

/-- An item is one of the values of a sequence, or a document. -/
theorem item_cases {i : Int} (h : v.item i = .ok w) :
    (∃ vs, v = .sequence vs ∧ w ∈ vs) ∨ ∃ d, w = .data d := by
  have hdata {α : Type} {f : α → Document} {o : Option α}
      (ho : (o.map fun a => data (f a)) = some w) : ∃ d, w = .data d := by
    obtain ⟨a, -, rfl⟩ := Option.map_eq_some_iff.1 ho
    exact ⟨_, rfl⟩
  rw [Stored.item.eq_def] at h
  split at h
  case h_1 vs => exact .inl ⟨vs, rfl, mem_of_itemAt (found_eq_ok_iff.1 h)⟩
  case h_2 | h_3 | h_4 => exact .inr (hdata (found_eq_ok_iff.1 h))
  all_goals cases h

theorem AllMade.part {name : String} (hv : v.AllMade) (h : v.part cells name = .ok w) :
    w.AllMade := by
  rcases part_cases h with ⟨b, rfl, hw⟩ | hw
  · cases hv with
    | built hb => exact allMade_of_part? hb hw
  · exact .of_part hw

theorem AllMade.item {i : Int} (hv : v.AllMade) (h : v.item i = .ok w) : w.AllMade := by
  rcases item_cases h with ⟨vs, rfl, hw⟩ | ⟨d, rfl⟩
  · cases hv with
    | sequence hvs => exact hvs w hw
  · exact .data d

theorem AllMade.follow {path : List PathItem} (hv : v.AllMade)
    (h : v.follow cells path = .ok w) : w.AllMade := by
  induction path generalizing v with
  | nil =>
    cases h
    exact hv
  | cons step path ih =>
    cases step with
    | part name =>
      obtain ⟨u, hu, h⟩ := bind_eq_ok_iff.1 h
      exact ih (hv.part hu) h
    | index i =>
      obtain ⟨u, hu, h⟩ := bind_eq_ok_iff.1 h
      exact ih (hv.item hu) h

end Stored

/-! ### Parts of new values -/

/-- Of the built values in a value, all but configurations were made. -/
def Json.PartsMade (v : Json Built) : Prop := ∀ c, v.Part c → c.record ≠ .config → c.Made

namespace Json

theorem mem_put {k : String} {v : Json ρ} {fields : List (String × Json ρ)}
    {f : String × Json ρ} (h : f ∈ put k v fields) : f.2 = v ∨ f ∈ fields := by
  induction fields with
  | nil =>
    obtain rfl := List.mem_singleton.1 h
    exact .inl rfl
  | cons g fields ih =>
    rw [put] at h
    split_ifs at h
    · rcases List.mem_cons.1 h with rfl | h
      · exact .inl rfl
      · exact .inr (List.mem_cons_of_mem g h)
    · rcases List.mem_cons.1 h with rfl | h
      · exact .inr List.mem_cons_self
      · exact (ih h).imp_right (List.mem_cons_of_mem g)

theorem mapItems_eq_map {σ : Type} (f : ρ → σ) (vs : List (Json ρ)) :
    mapItems f vs = vs.map (Json.map f) := by
  induction vs with
  | nil => rfl
  | cons v vs ih => rw [mapItems, ih, List.map_cons]

theorem mapFields_eq_map {σ : Type} (f : ρ → σ) (fields : List (String × Json ρ)) :
    mapFields f fields = fields.map fun field => (field.1, field.2.map f) := by
  induction fields with
  | nil => rfl
  | cons field fields ih =>
    obtain ⟨k, v⟩ := field
    rw [mapFields, ih, List.map_cons]

/-- There are no built values in a document. -/
theorem not_part_lift (d : Document) (c : ρ) : ¬ Part c d.lift := by
  intro h
  -- The induction follows the way to the part, which goes through documents only.
  generalize hw : (Document.lift d : Json ρ) = w at h
  induction h generalizing d with
  | here =>
    cases d with
    | ready r => exact r.elim
    | _ => cases hw
  | @item v vs hv _ ih =>
    cases d with
    | array items =>
      obtain rfl : mapItems Empty.elim items = vs := Json.array.inj hw
      rw [mapItems_eq_map] at hv
      obtain ⟨u, -, hu⟩ := List.mem_map.1 hv
      exact ih u hu
    | ready r => exact r.elim
    | _ => cases hw
  | @field f fields hf _ ih =>
    cases d with
    | object items =>
      obtain rfl : mapFields Empty.elim items = fields := Json.object.inj hw
      rw [mapFields_eq_map] at hf
      obtain ⟨u, -, hu⟩ := List.mem_map.1 hf
      exact ih u.2 (congrArg Prod.snd hu)
    | ready r => exact r.elim
    | _ => cases hw

theorem PartsMade.lift (d : Document) : PartsMade d.lift :=
  fun c hc _ => absurd hc (not_part_lift d c)

theorem PartsMade.array {vs : List (Json Built)} (h : ∀ v ∈ vs, v.PartsMade) :
    PartsMade (.array vs) := by
  intro c hc hrecord
  cases hc with
  | item hv hc => exact h _ hv c hc hrecord

theorem PartsMade.object {fields : List (String × Json Built)} (h : ∀ f ∈ fields, f.2.PartsMade) :
    PartsMade (.object fields) := by
  intro c hc hrecord
  cases hc with
  | field hf hc => exact h _ hf c hc hrecord

end Json

theorem Stored.allToInput_eq_map (cells : List Cell) (vs : List Stored) :
    allToInput cells vs = vs.map (toInput cells) := by
  induction vs with
  | nil => rfl
  | cons v vs ih => rw [allToInput, ih, List.map_cons]

theorem Stored.AllMade.partsMade_toInput {cells : List Cell} {v : Stored} (hv : v.AllMade) :
    (v.toInput cells).PartsMade := by
  induction hv with
  | built hb =>
    intro c hc _
    cases hc
    exact hb
  | draft | policy =>
    intro c hc hrecord
    rw [toInput] at hc
    cases hc
    exact absurd rfl hrecord
  | data v => exact .lift v
  | word w =>
    intro c hc _
    cases hc
  | tags names =>
    rw [toInput]
    refine .array (List.forall_mem_map.2 fun name _ => ?_)
    intro c hc _
    cases hc
  | sequence _ ih =>
    rw [toInput, allToInput_eq_map]
    exact .array (List.forall_mem_map.2 ih)

/-! ### Sessions -/

namespace Session

open Checked

/-- Every built value of the session was made. -/
def AllMade (s : Session) : Prop := ∀ name v, (name, .value v) ∈ s.names → v.AllMade

variable {s s' : Session} {name : String} {v : Stored}

theorem value_eq_ok_iff : s.value name = .ok v ↔ ∃ b, s.binding? name = some b ∧
    b.current s.cells = v := by
  rw [value]
  cases s.binding? name <;> simp

theorem mem_of_binding? {b : Binding} (h : s.binding? name = some b) : (name, b) ∈ s.names := by
  obtain ⟨entry, hentry, rfl⟩ := Option.map_eq_some_iff.1 h
  obtain rfl : entry.1 = name := by simpa using List.find?_some hentry
  exact List.mem_of_find?_eq_some hentry

/-- What an assignment to a value does: nothing that is seen in the value, or it changes the cell
that the value stands for. -/
theorem replace_cases {a : Attribute} {d : Document} (h : s.replace v a d = .ok s') :
    s' = s ∨ ∃ cell, v.cell? = some cell ∧ s' = s.assign cell a.name d := by
  rw [Session.replace.eq_def] at h
  split at h
  case h_1 cell =>
    split_ifs at h <;> cases h
    · exact .inl rfl
    · exact .inr ⟨cell, rfl, rfl⟩
  case h_2 cell =>
    cases h
    exact .inr ⟨cell, rfl, rfl⟩
  case h_3 =>
    split_ifs at h
    cases h
    exact .inl rfl
  case h_4 =>
    split at h <;> cases h
    exact .inl rfl
  case h_5 => cases h

/-- What adding an item to a list of a value does: nothing, or the list grows in the cell that the
value stands for. -/
theorem extend_cases {field : String} {d : Document} (h : s.extend v field d = .ok s') :
    s' = s ∨ ∃ cell vs, v.cell? = some cell ∧
      s' = s.edit cell (·.assign field (.array (vs ++ [d]))) := by
  obtain ⟨list, -, h⟩ := bind_eq_ok_iff.1 h
  split at h <;> cases h
  case h_1 vs cell hcell => exact .inr ⟨cell, vs, hcell, rfl⟩
  case h_2 => exact .inl rfl

theorem AllMade.value (hs : s.AllMade) (h : s.value name = .ok v) : v.AllMade := by
  obtain ⟨b, hb, rfl⟩ := value_eq_ok_iff.1 h
  cases b with
  | value v => exact hs name v (mem_of_binding? hb)
  | held cell part => exact .data _

theorem AllMade.part {path : List PathItem} (hs : s.AllMade) (h : s.part name path = .ok v) :
    v.AllMade := by
  obtain ⟨u, hu, h⟩ := bind_eq_ok_iff.1 h
  exact (hs.value hu).follow (mapError_eq_ok_iff.1 h)

theorem AllMade.give {b : Binding} (hs : s.AllMade) (hb : ∀ v, b = .value v → v.AllMade) :
    (s.give name b).AllMade := by
  intro other v hv
  rcases List.mem_cons.1 hv with hv | hv
  · cases hv
    exact hb v rfl
  · exact hs other v (List.mem_of_mem_filter hv)

theorem AllMade.bind (hs : s.AllMade) (hv : v.AllMade) : (s.bind name v).AllMade := by
  refine hs.give fun w hw => ?_
  cases hw
  exact hv

/-- What a path leads to is given to a name as a value, or as a document that a cell holds. -/
theorem picked_cases (s : Session) (origin : String) (path : List PathItem) (v : Stored) :
    s.picked origin path v = .value v ∨
      ∃ cell field, s.picked origin path v = .held cell field := by
  rw [picked.eq_def]
  split
  next w field _ _ =>
    cases w.cell? with
    | none => exact .inl rfl
    | some cell => exact .inr ⟨cell, field, rfl⟩
  next cell field _ => exact .inr ⟨cell, field, rfl⟩
  next => exact .inl rfl

theorem AllMade.pick {origin : String} {path : List PathItem} (hs : s.AllMade) (hv : v.AllMade) :
    (s.give name (s.picked origin path v)).AllMade := by
  refine hs.give fun w hw => ?_
  rcases s.picked_cases origin path v with h | ⟨cell, part, h⟩ <;> cases h.symm.trans hw
  exact hv

theorem AllMade.release {cell : Nat} {field : String} (hs : s.AllMade) :
    (s.release cell field).AllMade := by
  intro name v hv
  obtain ⟨⟨other, b⟩, hb, heq⟩ := List.mem_map.1 hv
  cases b with
  | value u =>
    cases heq
    exact hs _ _ hb
  | held i p =>
    simp only [Binding.release] at heq
    split_ifs at heq <;> cases heq
    exact .data _

theorem AllMade.bindCell (hs : s.AllMade) (c : Cell) : (s.bindCell name c).AllMade :=
  AllMade.bind (v := c.stored s.cells.length) hs (.stored c _)

theorem AllMade.bindBuilt {b : Built} (hs : s.AllMade) (hb : b.Made) :
    (s.bindBuilt name b).AllMade := by
  cases b with
  | config d => exact hs.bindCell (.draft d)
  | _ => exact hs.bind (.built hb)

theorem AllMade.values {names : List String} {vs : List Stored} (hs : s.AllMade)
    (h : names.mapM s.value = .ok vs) : ∀ v ∈ vs, v.AllMade := by
  induction names generalizing vs with
  | nil =>
    cases h
    simp
  | cons name names ih =>
    rw [List.mapM_cons] at h
    obtain ⟨v, hv, h⟩ := bind_eq_ok_iff.1 h
    obtain ⟨vs, hvs, h⟩ := bind_eq_ok_iff.1 h
    cases h
    exact List.forall_mem_cons.2 ⟨hs.value hv, ih hvs⟩

theorem AllMade.partsMade_sourceInput {source : Source} {v : Json Built} (hs : s.AllMade)
    (h : s.sourceInput source = .ok v) : v.PartsMade := by
  cases source with
  | one name =>
    obtain ⟨u, hu, h⟩ := bind_eq_ok_iff.1 h
    cases h
    exact (hs.value hu).partsMade_toInput
  | many names =>
    obtain ⟨vs, hvs, h⟩ := bind_eq_ok_iff.1 h
    cases h
    exact .array (List.forall_mem_map.2 fun u hu => (hs.values hvs u hu).partsMade_toInput)

theorem AllMade.partsMade_inputFields {fields : List (String × Document)}
    {sources : List (String × Source)} {input : List (String × Json Built)} (hs : s.AllMade)
    (h : s.inputFields fields sources = .ok input) : ∀ f ∈ input, f.2.PartsMade := by
  have hfields : ∀ f ∈ fields.map fun f => (f.1, (f.2.lift : Json Built)), f.2.PartsMade :=
    List.forall_mem_map.2 fun f _ => .lift f.2
  rw [inputFields] at h
  -- The sources are taken one after the other, on top of fields that are known already.
  generalize (fields.map fun f => (f.1, (f.2.lift : Json Built))) = known at h hfields
  induction sources generalizing known with
  | nil =>
    cases h
    exact hfields
  | cons source sources ih =>
    rw [List.foldlM_cons] at h
    obtain ⟨next, hnext, h⟩ := bind_eq_ok_iff.1 h
    obtain ⟨v, hv, hput⟩ := bind_eq_ok_iff.1 hnext
    cases hput
    refine ih _ h fun f hf => ?_
    rcases Json.mem_put hf with hf | hf
    · rw [hf]
      exact hs.partsMade_sourceInput hv
    · exact hfields f hf

theorem AllMade.assign {cell : Nat} {field : String} {v : Document} (hs : s.AllMade) :
    (s.assign cell field v).AllMade := by
  have hreleased : (s.release cell field).AllMade := hs.release
  exact hreleased

theorem AllMade.replace {target : Stored} {a : Attribute} {v : Document} (hs : s.AllMade)
    (h : s.replace target a v = .ok s') : s'.AllMade := by
  rcases replace_cases h with rfl | ⟨cell, -, rfl⟩
  · exact hs
  · exact hs.assign

theorem AllMade.extend {target : Stored} {field : String} {v : Document} (hs : s.AllMade)
    (h : s.extend target field v = .ok s') : s'.AllMade := by
  rcases extend_cases h with rfl | ⟨cell, vs, -, rfl⟩
  · exact hs
  · exact hs

/-- One step keeps only what was made. -/
theorem AllMade.perform {st : SessionStep} {v : Document} (hs : s.AllMade)
    (h : s.perform st = .ok (s', v)) : s'.AllMade := by
  cases st with
  | parse name text =>
    obtain ⟨m, hm, h⟩ := bind_eq_ok_iff.1 h
    cases h
    obtain ⟨w, -, hw⟩ := readAs_eq_ok_iff.1 (mapError_eq_ok_iff.1 (mapError_eq_ok_iff.1 hm))
    have hbuild : build .model w = .ok (.model m) := map_eq_ok_iff.2 ⟨m, hw, rfl⟩
    exact hs.bind (.built (.read hbuild))
  | validate name record text =>
    obtain ⟨b, hb, h⟩ := bind_eq_ok_iff.1 h
    cases h
    obtain ⟨w, -, hw⟩ := readAs_eq_ok_iff.1 (mapError_eq_ok_iff.1 hb)
    exact hs.bindBuilt (.read hw)
  | make name record fields sources =>
    obtain ⟨input, hinput, h⟩ := bind_eq_ok_iff.1 h
    obtain ⟨b, hb, h⟩ := bind_eq_ok_iff.1 h
    cases h
    have hparts := Json.PartsMade.object (hs.partsMade_inputFields hinput)
    exact hs.bindBuilt (.put hparts (mapError_toExcept_eq_ok_iff.1 hb))
  | policy name source =>
    obtain ⟨p, -, h⟩ := bind_eq_ok_iff.1 h
    cases h
    exact hs.bindCell (.policy (.made p))
  | pick name origin path =>
    obtain ⟨u, hu, h⟩ := bind_eq_ok_iff.1 h
    cases h
    exact hs.pick (hs.part hu)
  | render model policy =>
    obtain ⟨m, -, h⟩ := bind_eq_ok_iff.1 h
    obtain ⟨p, -, h⟩ := bind_eq_ok_iff.1 h
    obtain ⟨diagram, -, h⟩ := bind_eq_ok_iff.1 h
    cases h
    exact hs
  | typeNames model =>
    obtain ⟨m, -, h⟩ := bind_eq_ok_iff.1 h
    cases h
    exact hs
  | flags policy type =>
    obtain ⟨p, -, h⟩ := bind_eq_ok_iff.1 h
    obtain ⟨t, -, h⟩ := bind_eq_ok_iff.1 h
    obtain ⟨f, -, h⟩ := bind_eq_ok_iff.1 h
    cases h
    exact hs
  | get target path =>
    obtain ⟨u, -, h⟩ := bind_eq_ok_iff.1 h
    cases h
    exact hs
  | equal first second =>
    obtain ⟨u, -, h⟩ := bind_eq_ok_iff.1 h
    obtain ⟨w, -, h⟩ := bind_eq_ok_iff.1 h
    cases h
    exact hs
  | distinct names =>
    obtain ⟨vs, -, h⟩ := bind_eq_ok_iff.1 h
    split at h <;> cases h
    exact hs
  | set target path field value =>
    obtain ⟨u, -, h⟩ := bind_eq_ok_iff.1 h
    obtain ⟨t, ht, h⟩ := bind_eq_ok_iff.1 h
    cases h
    exact hs.replace ht
  | append target field value =>
    obtain ⟨u, -, h⟩ := bind_eq_ok_iff.1 h
    obtain ⟨t, ht, h⟩ := bind_eq_ok_iff.1 h
    cases h
    exact hs.extend ht

theorem AllMade.step (hs : s.AllMade) (st : SessionStep) : (s.step st).1.AllMade := by
  rw [Session.step.eq_def]
  split
  next h => exact hs.perform h
  next => exact hs

/-- What every step preserves, a run preserves. -/
theorem invariant_run {I : Session → Prop} (hstep : ∀ s st, I s → I (s.step st).1) (hs : I s)
    (steps : List SessionStep) : I (s.run steps).1 := by
  induction steps generalizing s with
  | nil => exact hs
  | cons st steps ih => exact ih (hstep s st hs)

/-- However a session goes on, every built value that it keeps was made. -/
theorem AllMade.run (hs : s.AllMade) (steps : List SessionStep) : (s.run steps).1.AllMade :=
  invariant_run (fun _ st hs => hs.step st) hs steps

end Session

end ClassDiagram
