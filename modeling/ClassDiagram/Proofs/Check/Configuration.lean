import ClassDiagram.Filter.Draft
import ClassDiagram.Proofs.Check.Reading
import ClassDiagram.Proofs.Check.RoundTrip
import Mathlib.Data.Set.List

/-!
# What configurations are read from

A configuration is read from an object exactly if each of its parts lists what the object gives for
it, or else its default. So a part that is left out may as well list the values of its default.

* `ConfigPart.keys` are the keys of a part, `ConfigPart.values` and `ConfigPart.defaults` what it
  lists, `ConfigPart.given?` what an object gives for it;
* `FilterConfig.ofJson_object_eq_ok_iff` says when a configuration is read;
* `FilterConfig.ofJson_writtenOut` reads one in which a default is written out.
-/

namespace ClassDiagram

open Check Checked

/-! ### Parts of a configuration -/

namespace ConfigPart

/-- The keys under which a part may stand. -/
def keys : ConfigPart → List String
  | frameworkNamespaces => Keys.frameworkNamespaces
  | specialBases => Keys.specialBases
  | specialInterfaces => Keys.specialInterfaces

/-- The values in a part of a configuration. -/
def values (c : FilterConfig) : ConfigPart → List Document
  | frameworkNamespaces => c.frameworkNamespaces.map .str
  | specialBases => c.specialBases.map Enumeration.toJson
  | specialInterfaces => c.specialInterfaces.map Enumeration.toJson

/-- The values in a part that is left out. -/
def defaults : ConfigPart → List Document := values {}

/-- The values that an object gives for a part, unless it leaves the part out. -/
def given? (fields : List (String × Document)) (part : ConfigPart) : Option (List Document) :=
  match Json.first? fields part.keys with
  | some (.array vs) => some vs
  | _ => none

/-- No key belongs to two parts. -/
theorem eq_of_mem_keys (part part' : ConfigPart) :
    ∀ key ∈ part.keys, key ∈ part'.keys → part = part' := by
  cases part <;> cases part' <;> decide

end ConfigPart

/-! ### Reading a configuration -/

theorem Enumeration.toJson_injective {ρ α : Type} [Enumeration α] [LawfulEnumeration α] :
    Function.Injective (toJson : α → Json ρ) := by
  intro a b h
  exact LawfulEnumeration.eq_of_name_eq a b (Json.str.inj h)

namespace Check

variable {ρ α : Type} {v : Json ρ} {as absent : List α}

theorem choice_eq_ok_iff [Enumeration α] [LawfulEnumeration α] {a : α} :
    choice α v = .ok a ↔ v = Enumeration.toJson a :=
  ⟨eq_str_of_choice_eq_ok, fun h => h ▸ choice_ok a⟩

theorem list_eq_ok_iff {check : Json ρ → Result ρ α} {f : α → Json ρ}
    (hf : ∀ v a, check v = .ok a ↔ v = f a) : list check v = .ok as ↔ v = .array (as.map f) := by
  cases v with
  | array vs =>
    simp only [list, items, itemsFrom_eq_ok_iff, hf, Json.array.injEq]
    rw [← List.forall₂_map_right_iff, List.forall₂_eq_eq_eq]
  | _ => simp [list, fault]

theorem yields_list_iff {check : Json ρ → Result ρ α} {f : α → Json ρ}
    {fields : List (String × Json ρ)} {keys : List String}
    (hf : ∀ v a, check v = .ok a ↔ v = f a) (hinj : Function.Injective f) :
    Yields fields keys (some absent) (list check) as ↔
      (Json.first? fields keys).getD (.array (absent.map f)) = .array (as.map f) := by
  rw [Yields]
  cases Json.first? fields keys with
  | none => simp [hinj.list_map.eq_iff]
  | some v => simp [list_eq_ok_iff hf]

end Check

namespace FilterConfig

open ConfigPart

variable {fields : List (String × Document)} {c c' : FilterConfig} {part : ConfigPart}

/-- A configuration is read from an object if each of its parts is what the object has for it, or
else the default. -/
theorem ofJson_object_eq_ok_iff :
    ofJson (.object fields) = .ok c ↔
      ∀ part : ConfigPart, (Json.first? fields part.keys).getD (.array part.defaults) =
        .array (part.values c) := by
  have hread : ofJson (.object fields) = .ok c ↔
      Yields fields Keys.frameworkNamespaces (some defaultFrameworkNamespaces) (list text)
        c.frameworkNamespaces ∧
      Yields fields Keys.specialBases (some defaultSpecialBases) (list (choice SpecialType))
        c.specialBases ∧
      Yields fields Keys.specialInterfaces (some defaultSpecialInterfaces)
        (list (choice SpecialType)) c.specialInterfaces := by
    simp only [ofJson, seq_eq_ok_iff, map_eq_ok_iff, ← optional_eq_ok_iff_yields]
    constructor
    · rintro ⟨_, _, ⟨_, _, ⟨_, hn, rfl⟩, hb, rfl⟩, hi, rfl⟩
      exact ⟨hn, hb, hi⟩
    · rintro ⟨hn, hb, hi⟩
      exact ⟨_, _, ⟨_, _, ⟨_, hn, rfl⟩, hb, rfl⟩, hi, rfl⟩
  rw [hread, yields_list_iff (fun _ _ => text_eq_ok_iff) fun _ _ => Json.str.inj,
    yields_list_iff (fun _ _ => choice_eq_ok_iff) Enumeration.toJson_injective,
    yields_list_iff (fun _ _ => choice_eq_ok_iff) Enumeration.toJson_injective]
  constructor
  · rintro ⟨hn, hb, hi⟩ part
    cases part with
    | frameworkNamespaces => exact hn
    | specialBases => exact hb
    | specialInterfaces => exact hi
  · exact fun h => ⟨h .frameworkNamespaces, h .specialBases, h .specialInterfaces⟩

theorem given?_cases (h : ofJson (.object fields) = .ok c) (part : ConfigPart) :
    part.given? fields = some (part.values c) ∨
      part.given? fields = none ∧ part.values c = part.defaults := by
  have hpart := ofJson_object_eq_ok_iff.1 h part
  rw [given?]
  cases hfirst : Json.first? fields part.keys with
  | none =>
    rw [hfirst] at hpart
    exact .inr ⟨rfl, (Json.array.inj hpart).symm⟩
  | some v =>
    rw [hfirst, Option.getD_some] at hpart
    rw [hpart]
    exact .inl rfl

end FilterConfig

/-! ### Defaults that are written out -/

namespace ConfigPart

variable {part : ConfigPart} {ds : List Document}

/-- Any values of a kind that the default has can stand in a part. -/
theorem exists_values_eq (c : FilterConfig) (h : ∀ v ∈ ds, v ∈ part.defaults) :
    ∃ c', part.values c' = ds ∧ ∀ part', part' ≠ part → part'.values c' = part'.values c := by
  have hmap {α : Type} {f : α → Document} {as : List α} (has : ∀ v ∈ ds, v ∈ as.map f) :
      ∃ bs : List α, bs.map f = ds := by
    rw [← Set.mem_range, Set.range_list_map]
    exact fun v hv => List.exists_of_mem_map (has v hv) |>.imp fun _ ha => ha.2
  cases part with
  | frameworkNamespaces =>
    obtain ⟨ss, rfl⟩ := hmap h
    exact ⟨{ c with frameworkNamespaces := ss }, rfl, fun part' hne => by cases part' <;> trivial⟩
  | specialBases =>
    obtain ⟨ts, rfl⟩ := hmap h
    exact ⟨{ c with specialBases := ts }, rfl, fun part' hne => by cases part' <;> trivial⟩
  | specialInterfaces =>
    obtain ⟨ts, rfl⟩ := hmap h
    exact ⟨{ c with specialInterfaces := ts }, rfl, fun part' hne => by cases part' <;> trivial⟩

end ConfigPart

namespace FilterConfig

open ConfigPart

variable {before after : List (String × Document)} {c : FilterConfig} {part : ConfigPart}
  {key : String} {ds : List Document}

/-- A part that is left out may as well list the values of its default. -/
theorem ofJson_writtenOut (h : ofJson (.object (before ++ after)) = .ok c)
    (hnone : Json.first? (before ++ after) part.keys = none) (hkey : key ∈ part.keys)
    (hds : ∀ v, v ∈ ds ↔ v ∈ part.defaults) :
    ∃ c', ofJson (.object (before ++ (key, .array ds) :: after)) = .ok c' ∧
      ∀ (part' : ConfigPart) v, v ∈ part'.values c' ↔ v ∈ part'.values c := by
  have hread := ofJson_object_eq_ok_iff.1 h
  have hdefault : part.defaults = part.values c := by
    simpa [hnone] using hread part
  obtain ⟨c', hpart, hother⟩ := exists_values_eq c fun v hv => (hds v).1 hv
  refine ⟨c', ofJson_object_eq_ok_iff.2 fun part' => ?_, fun part' v => ?_⟩
  · by_cases he : part' = part
    · rw [he, Json.first?_insert_of_mem hnone hkey, hpart]
      rfl
    · -- The key is one of the other part alone.
      have hnotMem : key ∉ part'.keys := fun hkey' => he (eq_of_mem_keys _ _ key hkey' hkey)
      rw [Json.first?_insert_of_notMem hnotMem, hother part' he]
      exact hread part'
  · by_cases he : part' = part
    · rw [he, hpart, hds, hdefault]
    · rw [hother part' he]

end FilterConfig

end ClassDiagram
