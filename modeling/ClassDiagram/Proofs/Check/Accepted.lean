import ClassDiagram.Check.Filter
import ClassDiagram.Check.Symbol
import ClassDiagram.Proofs.Check.Outcome

/-!
# What an accepted value consists of

A value that is accepted was put together from values that were accepted, and those stand inside the
one that was read.

* `Json.Part` are the built parts inside a value;
* `Json.Listed` are the items of the arrays of an object;
* there is one lemma for each check of a value, a sequence and a field, and `ofJson_eq_ok` for each
  record.
-/

namespace ClassDiagram

variable {ρ : Type}

/-! ### Inside a value -/

namespace Json

/-- A built part stands somewhere inside a value. -/
inductive Part (r : ρ) : Json ρ → Prop where
  | here : Part r (.ready r)
  | item {v : Json ρ} {vs : List (Json ρ)} (hv : v ∈ vs) (h : Part r v) : Part r (.array vs)
  | field {f : String × Json ρ} {fields : List (String × Json ρ)} (hf : f ∈ fields)
      (h : Part r f.2) : Part r (.object fields)

/-- A value is an item of one of the arrays of an object. -/
def Listed (fields : List (String × Json ρ)) (w : Json ρ) : Prop :=
  ∃ f ∈ fields, ∃ vs, f.2 = .array vs ∧ w ∈ vs

namespace Listed

variable {fields : List (String × Json ρ)} {w : Json ρ}

theorem sizeOf_lt (h : Listed fields w) : sizeOf w < sizeOf (object fields) := by
  obtain ⟨f, hf, vs, hvs, hw⟩ := h
  have hfield := sizeOf_lt_of_mem_object hf
  rw [hvs] at hfield
  exact Nat.lt_trans (sizeOf_lt_of_mem_array hw) hfield

theorem part {r : ρ} (h : Listed fields w) (hr : Part r w) : Part r (.object fields) := by
  obtain ⟨f, hf, vs, hvs, hw⟩ := h
  exact .field hf (hvs ▸ .item hw hr)

end Listed

end Json

/-! ### Checks of parts -/

namespace Check

open Checked

variable {α : Type} {fields : List (String × Json ρ)} {keys : List String} {a : α}
  {check : Json.FieldOf fields → Result ρ α}

theorem required_eq_ok (h : required fields keys check = .ok a) : ∃ f, check f = .ok a := by
  rw [required] at h
  split at h
  next f _ => exact ⟨f, mapProblems_eq_ok_iff.1 h⟩
  next => cases h

theorem optional_eq_ok {absent : α} (h : optional fields keys absent check = .ok a) :
    a = absent ∨ ∃ f, check f = .ok a := by
  rw [optional] at h
  split at h
  next f _ => exact .inr ⟨f, mapProblems_eq_ok_iff.1 h⟩
  next => cases h; exact .inl rfl

theorem nullable_eq_ok {v : Json ρ} {x : Result ρ α} {o : Option α} (h : nullable v x = .ok o) :
    ∀ a ∈ o, x = .ok a := by
  rintro a rfl
  rw [nullable.eq_def] at h
  split at h
  next => cases h
  next =>
    obtain ⟨b, hb, hba⟩ := map_eq_ok_iff.1 h
    cases hba
    exact hb

theorem itemsFrom_eq_ok {check : Json ρ → Result ρ α} {vs : List (Json ρ)} {as : List α} {i : Nat}
    (h : itemsFrom i vs (fun v _ => check v) = .ok as) :
    ∀ a ∈ as, ∃ w ∈ vs, check w = .ok a := by
  induction vs generalizing i as with
  | nil =>
    cases h
    simp
  | cons v vs ih =>
    obtain ⟨g, rest, hg, hrest, rfl⟩ := seq_eq_ok_iff.1 h
    obtain ⟨b, hb, rfl⟩ := map_eq_ok_iff.1 hg
    refine List.forall_mem_cons.2 ⟨⟨v, List.mem_cons_self, mapProblems_eq_ok_iff.1 hb⟩, ?_⟩
    exact fun a ha => (ih hrest a ha).imp fun w hw => hw.imp_left (List.mem_cons_of_mem v)

theorem sequence_eq_ok {check : Json ρ → Result ρ α} {v : Json ρ} {as : List α}
    (h : sequence check v = .ok as) :
    ∃ vs, v = .array vs ∧ ∀ a ∈ as, ∃ w ∈ vs, check w = .ok a := by
  cases v with
  | array vs => exact ⟨vs, rfl, itemsFrom_eq_ok h⟩
  | _ => cases h

/-- The items of a sequence that may be missing are those of one of the arrays of the object. -/
theorem optional_sequence_eq_ok {check : Json ρ → Result ρ α} {as : List α}
    (h : optional fields keys [] (fun f => sequence check f.1.2) = .ok as) :
    ∀ a ∈ as, ∃ w, Json.Listed fields w ∧ check w = .ok a := by
  rcases optional_eq_ok h with rfl | ⟨f, hf⟩
  · simp
  · obtain ⟨vs, hvs, has⟩ := sequence_eq_ok hf
    intro a ha
    obtain ⟨w, hw, hwa⟩ := has a ha
    exact ⟨w, ⟨f.1, f.2, vs, hvs, hw⟩, hwa⟩

theorem optional_nullable_eq_ok {check : Json ρ → Result ρ α} {o : Option α}
    (h : optional fields keys none (fun f => nullable f.1.2 (check f.1.2)) = .ok o) :
    ∀ a ∈ o, ∃ f ∈ fields, check f.2 = .ok a := by
  rcases optional_eq_ok h with rfl | ⟨f, hf⟩
  · simp
  · exact fun a ha => ⟨f.1, f.2, nullable_eq_ok hf a ha⟩

end Check

/-! ### Records -/

open Checked Check

variable [Holds ρ]

theorem Parameter.ofJson_eq_ok {v : Json ρ} {p : Parameter} (h : ofJson v = .ok p) :
    (∃ r, v = .ready r ∧ Holds.built r = .parameter p) ∨
      ∃ fields, v = .object fields ∧ fields ≠ [] := by
  cases v with
  | object fields =>
    obtain ⟨g, -, hg, -, -⟩ := seq_eq_ok_iff.1 h
    obtain ⟨name, hname, -⟩ := map_eq_ok_iff.1 hg
    obtain ⟨f, -⟩ := required_eq_ok hname
    exact .inr ⟨fields, rfl, List.ne_nil_of_mem f.2⟩
  | ready r =>
    simp only [ofJson] at h
    split at h
    next q hq =>
      cases h
      exact .inl ⟨r, rfl, hq⟩
    next => cases h
  | _ => cases h

theorem Member.ofJson_eq_ok {v : Json ρ} {m : Member} (h : ofJson v = .ok m) :
    (∃ r, v = .ready r ∧ Holds.built r = .member m) ∨
      ∃ fields, v = .object fields ∧ fields ≠ [] ∧
        ∀ p ∈ m.parameters, ∃ w, Json.Listed fields w ∧ Parameter.ofJson w = .ok p := by
  cases v with
  | object fields =>
    obtain ⟨_, parameters, h₇, hparameters, rfl⟩ := seq_eq_ok_iff.1 h
    obtain ⟨_, isAccessor, h₆, -, rfl⟩ := seq_eq_ok_iff.1 h₇
    obtain ⟨_, isImplicit, h₅, -, rfl⟩ := seq_eq_ok_iff.1 h₆
    obtain ⟨_, isStatic, h₄, -, rfl⟩ := seq_eq_ok_iff.1 h₅
    obtain ⟨_, visibility, h₃, -, rfl⟩ := seq_eq_ok_iff.1 h₄
    obtain ⟨_, typeName, h₂, -, rfl⟩ := seq_eq_ok_iff.1 h₃
    obtain ⟨_, name, h₁, hname, rfl⟩ := seq_eq_ok_iff.1 h₂
    obtain ⟨kind, -, rfl⟩ := map_eq_ok_iff.1 h₁
    obtain ⟨f, -⟩ := required_eq_ok hname
    exact .inr ⟨fields, rfl, List.ne_nil_of_mem f.2, optional_sequence_eq_ok hparameters⟩
  | ready r =>
    simp only [ofJson] at h
    split at h
    next q hq =>
      cases h
      exact .inl ⟨r, rfl, hq⟩
    next => cases h
  | _ => cases h

theorem TypeSymbol.ofJson_eq_ok {v : Json ρ} {t : TypeSymbol} (h : ofJson v = .ok t) :
    (∃ r, v = .ready r ∧ Holds.built r = .type t) ∨
      ∃ fields interfaces, v = .object fields ∧ fields ≠ [] ∧
        t.interfaces = firstOccurrences interfaces ∧
        (∀ m ∈ t.members, ∃ w, Json.Listed fields w ∧ Member.ofJson w = .ok m) ∧
        (∀ i ∈ interfaces, ∃ w, Json.Listed fields w ∧ ofJson w = .ok i) ∧
        ∀ b ∈ t.base, ∃ f ∈ fields, ofJson f.2 = .ok b := by
  cases v with
  | object fields =>
    rw [ofJson_object] at h
    -- The fields come apart from the last one to the first.
    obtain ⟨_, base, h₇, hbase, rfl⟩ := seq_eq_ok_iff.1 h
    obtain ⟨_, interfaces, h₆, hinterfaces, rfl⟩ := seq_eq_ok_iff.1 h₇
    obtain ⟨_, members, h₅, hmembers, rfl⟩ := seq_eq_ok_iff.1 h₆
    obtain ⟨_, special, h₄, -, rfl⟩ := seq_eq_ok_iff.1 h₅
    obtain ⟨_, origin, h₃, -, rfl⟩ := seq_eq_ok_iff.1 h₄
    obtain ⟨_, namespaceName, h₂, -, rfl⟩ := seq_eq_ok_iff.1 h₃
    obtain ⟨_, kind, h₁, -, rfl⟩ := seq_eq_ok_iff.1 h₂
    obtain ⟨name, hname, rfl⟩ := map_eq_ok_iff.1 h₁
    obtain ⟨f, -⟩ := required_eq_ok hname
    exact .inr ⟨fields, interfaces, rfl, List.ne_nil_of_mem f.2, rfl,
      optional_sequence_eq_ok hmembers, optional_sequence_eq_ok hinterfaces,
      optional_nullable_eq_ok hbase⟩
  | ready r =>
    rw [ofJson] at h
    split at h
    next q hq =>
      cases h
      exact .inl ⟨r, rfl, hq⟩
    next => cases h
  | _ =>
    rw [ofJson] at h
    cases h
    all_goals simp

theorem Model.ofJson_eq_ok {v : Json ρ} {m : Model} (h : ofJson v = .ok m) :
    (∃ r, v = .ready r ∧ Holds.built r = .model m) ∨
      ∃ fields, v = .object fields ∧
        ∀ t ∈ m.types, ∃ w, Json.Listed fields w ∧ TypeSymbol.ofJson w = .ok t := by
  cases v with
  | object fields =>
    obtain ⟨types, htypes, rfl⟩ := map_eq_ok_iff.1 h
    exact .inr ⟨fields, rfl, optional_sequence_eq_ok htypes⟩
  | ready r =>
    simp only [ofJson] at h
    split at h
    next q hq =>
      cases h
      exact .inl ⟨r, rfl, hq⟩
    next => cases h
  | _ => cases h

/-! ### Types without repeated interfaces -/

namespace TypeSymbol

theorem firstOccurrencesFrom_sublist (seen : List (String × String)) (ts : List TypeSymbol) :
    (firstOccurrencesFrom seen ts).Sublist ts := by
  fun_induction firstOccurrencesFrom seen ts with
  | case1 => exact .slnil
  | case2 _ t ts _ ih => exact ih.cons t
  | case3 _ t ts _ ih => exact ih.cons_cons t

theorem identity_notMem_of_seen {seen : List (String × String)} {ts : List TypeSymbol}
    {t : TypeSymbol} (h : t ∈ firstOccurrencesFrom seen ts) : t.identity ∉ seen := by
  fun_induction firstOccurrencesFrom seen ts with
  | case1 => simp at h
  | case2 _ _ _ _ ih => exact ih h
  | case3 seen u ts hu ih =>
    rcases List.mem_cons.1 h with rfl | h
    · exact hu
    · exact fun hseen => ih h (List.mem_cons_of_mem _ hseen)

theorem nodup_firstOccurrencesFrom (seen : List (String × String)) (ts : List TypeSymbol) :
    ((firstOccurrencesFrom seen ts).map identity).Nodup := by
  fun_induction firstOccurrencesFrom seen ts with
  | case1 => exact List.nodup_nil
  | case2 _ _ _ _ ih => exact ih
  | case3 seen t ts ht ih =>
    rw [List.map_cons, List.nodup_cons]
    refine ⟨fun hmem => ?_, ih⟩
    obtain ⟨u, hu, hut⟩ := List.mem_map.1 hmem
    exact identity_notMem_of_seen hu (hut ▸ List.mem_cons_self)

/-- Nothing is left out of a list without repetitions. -/
theorem firstOccurrencesFrom_of_nodup {seen : List (String × String)} {ts : List TypeSymbol}
    (hts : (ts.map identity).Nodup) (hseen : ∀ t ∈ ts, t.identity ∉ seen) :
    firstOccurrencesFrom seen ts = ts := by
  induction ts generalizing seen with
  | nil => rfl
  | cons t ts ih =>
    rw [List.map_cons, List.nodup_cons] at hts
    rw [List.forall_mem_cons] at hseen
    rw [firstOccurrencesFrom, if_neg hseen.1, ih hts.2]
    intro u hu hmem
    rcases List.mem_cons.1 hmem with heq | hmem
    · exact hts.1 (heq ▸ List.mem_map_of_mem hu)
    · exact hseen.2 u hu hmem

/-- A type that is accepted lists no interface twice, if that holds of the types in it that were
built before. -/
theorem interfacesDistinct_of_ofJson (v : Json ρ)
    (hparts : ∀ r, v.Part r → ∀ t, Holds.built r = .type t → t.InterfacesDistinct) {t : TypeSymbol}
    (h : ofJson v = .ok t) : t.InterfacesDistinct := by
  rcases ofJson_eq_ok h with ⟨r, rfl, hr⟩ | ⟨fields, interfaces, rfl, -, ht, -, hinterfaces, hbase⟩
  · exact hparts r .here t hr
  · -- The list itself is free of repetitions, the types in it were read from smaller values.
    refine .intro ?_ (fun i hi => ?_) fun b hb => ?_
    · rw [ht]
      exact nodup_firstOccurrencesFrom [] interfaces
    · rw [ht] at hi
      obtain ⟨w, hw, hwi⟩ := hinterfaces i ((firstOccurrencesFrom_sublist [] interfaces).subset hi)
      have hsize := hw.sizeOf_lt
      exact interfacesDistinct_of_ofJson w (fun r hr => hparts r (hw.part hr)) hwi
    · obtain ⟨f, hf, hfb⟩ := hbase b hb
      have hsize := Json.sizeOf_lt_of_mem_object hf
      exact interfacesDistinct_of_ofJson f.2 (fun r hr => hparts r (.field hf hr)) hfb
termination_by sizeOf v

end TypeSymbol

end ClassDiagram
