import ClassDiagram.Proofs.Check.RoundTrip
import ClassDiagram.Proofs.Session.Made

/-!
# Built values and their JSON

Whatever was made, from a document or from parts that were made before, is read back from its JSON.

* `Session.build_toJson`, `Session.regular_toJson` and `Session.depth_toJson_le` sum up the records;
* `Built.made_round_trip` is the round trip, in memory and through a text, and says that the JSON of
  anything that was accepted is a normal form.
-/

namespace ClassDiagram

variable {ρ : Type}

namespace Session

open Checked

variable [Holds ρ] {r : Record} {b : Built}

theorem record_of_build {v : Json ρ} (h : build r v = .ok b) : b.record = r := by
  cases r with
  | request => cases h
  | _ =>
    obtain ⟨a, -, rfl⟩ := map_eq_ok_iff.1 h
    rfl

/-- The JSON of a sound value is read as the value. -/
theorem build_toJson (h : b.Sound) : build b.record b.toJson = .ok b := by
  cases b with
  | parameter p => exact map_ok Built.parameter p.ofJson_toJson
  | member m => exact map_ok Built.member m.ofJson_toJson
  | type t => exact map_ok Built.type (TypeSymbol.ofJson_toJson h)
  | model m => exact map_ok Built.model (Model.ofJson_toJson h)
  | rule r => exact map_ok Built.rule r.ofJson_toJson
  | config d =>
    obtain ⟨c, rfl⟩ := h
    exact map_ok (fun c => Built.config (DraftConfig.ofConfig c)) c.ofJson_toJson

theorem regular_toJson (h : b.Sound) : Json.Regular b.toJson := by
  cases b with
  | parameter p => exact p.regular_toJson
  | member m => exact m.regular_toJson
  | type t => exact t.regular_toJson
  | model m => exact m.regular_toJson
  | rule r => exact r.regular_toJson
  | config d =>
    obtain ⟨c, rfl⟩ := h
    exact c.regular_toJson

/-- The JSON of what was built is no deeper than the document, but for lists that the document may
leave out. -/
theorem depth_toJson_le {v : Document} (h : build r v = .ok b) :
    b.toJson.depth ≤ max 2 v.depth := by
  cases r with
  | parameter =>
    obtain ⟨p, hp, rfl⟩ := map_eq_ok_iff.1 h
    exact Nat.le_trans (Parameter.depth_toJson_le hp) (Nat.le_max_right 2 _)
  | member =>
    obtain ⟨m, hm, rfl⟩ := map_eq_ok_iff.1 h
    exact Nat.le_trans (Member.depth_toJson_le hm) (Nat.le_max_right 2 _)
  | type =>
    obtain ⟨t, ht, rfl⟩ := map_eq_ok_iff.1 h
    exact Nat.le_trans (TypeSymbol.depth_toJson_le v ht) (Nat.le_max_right 2 _)
  | model =>
    obtain ⟨m, hm, rfl⟩ := map_eq_ok_iff.1 h
    have hle := Model.depth_toJson_le hm
    exact Nat.le_trans hle (by omega)
  | rule =>
    obtain ⟨r, -, rfl⟩ := map_eq_ok_iff.1 h
    exact Nat.le_trans (by decide : 1 ≤ 2) (Nat.le_max_left 2 _)
  | config =>
    obtain ⟨c, -, rfl⟩ := map_eq_ok_iff.1 h
    exact Nat.le_trans c.depth_toJson_le (Nat.le_max_left 2 _)
  | request => cases h

end Session

namespace Built

open Session Checked

/-- **The JSON of what was built is read back.** It is read as the same value, in memory and
through a text of either reader, as far as it is not nested too deep for a file. So the JSON of
whatever was accepted is a normal form: it is accepted again, as the same value. -/
theorem made_round_trip :
    (∀ b : Built, b.Made → b.toJson.depth ≤ Json.Strict.nestingLimit →
      readAs (build b.record) (Document.text b.toJson) = .ok b ∧
      Json.Lenient.read (Document.text b.toJson) = .ok b.toJson ∧
      build b.record b.toJson = .ok b) ∧
    (∀ r text b, readAs (build r) text = .ok b →
      readAs (build r) (Document.text b.toJson) = .ok b) ∧
    ∀ r (v : Document) b, build r v = .ok b → build r b.toJson = .ok b := by
  have htext {b : Built} (hb : b.Sound) (hdepth : b.toJson.depth ≤ Json.Strict.nestingLimit) :
      readAs (build b.record) (Document.text b.toJson) = .ok b :=
    readAs_eq_ok_iff.2
      ⟨b.toJson, Json.Strict.read_text (regular_toJson hb) hdepth, build_toJson hb⟩
  refine ⟨fun b hmade hdepth => ?_, fun r text b h => ?_, fun r v b h => ?_⟩
  · have hb := hmade.sound
    exact ⟨htext hb hdepth, Json.Lenient.read_text (regular_toJson hb), build_toJson hb⟩
  · -- What was read from a text is not too deep, and its JSON is hardly deeper.
    obtain ⟨v, hv, hbuild⟩ := readAs_eq_ok_iff.1 h
    have hbound := Json.Strict.depth_le_of_read hv
    have hle := depth_toJson_le hbuild
    have hlimit : 2 ≤ Json.Strict.nestingLimit := by decide
    have hdepth : b.toJson.depth ≤ Json.Strict.nestingLimit := by omega
    rw [← record_of_build hbuild]
    exact htext (Made.read hbuild).sound hdepth
  · rw [← record_of_build h]
    exact build_toJson (Made.read h).sound

/-- One interface, described in two ways. -/
def shops : List TypeSymbol := [{ name := "IShop", kind := .interfaceType }, { name := "IShop" }]

/-- A class that lists an interface twice. -/
def cartDocument : Document :=
  .object [("name", .str "Cart"), ("implementedInterfaces", .array (shops.map TypeSymbol.toJson))]

/-- What is built of the class. -/
def cart : Built :=
  .type { name := "Cart", interfaces := [{ name := "IShop", kind := .interfaceType }] }

theorem build_cartDocument : build .type cartDocument = .ok cart := by
  have hshops : ∀ i ∈ shops, TypeSymbol.ofJson (i.toJson : Document) = .ok i := by
    intro i hi
    have hi : i.interfaces = [] ∧ i.base = none := by
      rcases List.mem_pair.1 hi with rfl | rfl <;> exact ⟨rfl, rfl⟩
    exact TypeSymbol.ofJson_toJson (.intro (by simp [hi.1]) (by simp [hi.1]) (by simp [hi.2]))
  refine map_ok Built.type ?_
  rw [cartDocument, TypeSymbol.ofJson_object]
  exact map_ok TypeSymbol.assemble (Check.required_ok _ rfl (Check.text_ok "Cart"))
    |> (seq_ok · rfl) |> (seq_ok · rfl) |> (seq_ok · rfl) |> (seq_ok · rfl) |> (seq_ok · rfl)
    |> (seq_ok · (Check.optional_ok _ _ rfl (Check.sequence_ok hshops)))
    |> (seq_ok · rfl)

/-- The class is read back without the interface that it listed again. -/
theorem made_round_trip_cart :
    readAs (build .type) (Document.text cart.toJson) = .ok cart ∧
      build .type cart.toJson = .ok cart := by
  obtain ⟨hmade, htext, hdocument⟩ := made_round_trip
  have hread := (hmade cart (.read build_cartDocument) (by decide)).1
  exact ⟨htext .type _ cart hread, hdocument .type cartDocument cart build_cartDocument⟩

end Built

end ClassDiagram
