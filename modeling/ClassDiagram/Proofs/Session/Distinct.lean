import ClassDiagram.Proofs.Check.RoundTrip
import ClassDiagram.Proofs.Session.Effect

/-!
# No repeated interfaces in a session

Whatever a session keeps, no type in it lists an interface twice.

* `TypeSymbol.OccursIn` and `Stored.Contains` find the types inside a type and inside a value, to
  any depth;
* `Session.interfaces_distinct_of_run` is the invariant of all sessions.
-/

namespace ClassDiagram

/-- A type is another one, or stands among its interfaces or as its base, to any depth. -/
inductive TypeSymbol.OccursIn (t : TypeSymbol) : TypeSymbol → Prop where
  | here : OccursIn t t
  | interface {u i : TypeSymbol} (hi : i ∈ u.interfaces) (h : OccursIn t i) : OccursIn t u
  | base {u b : TypeSymbol} (hb : b ∈ u.base) (h : OccursIn t b) : OccursIn t u

/-- A type stands somewhere in a value: in a type, in one of the types of a model, or in an item of
a sequence of such values. -/
inductive Stored.Contains (t : TypeSymbol) : Stored → Prop where
  | type {u : TypeSymbol} (h : t.OccursIn u) : Contains t (.built (.type u))
  | model {m : Model} {u : TypeSymbol} (hu : u ∈ m.types) (h : t.OccursIn u) :
      Contains t (.built (.model m))
  | item {vs : List Stored} {v : Stored} (hv : v ∈ vs) (h : Contains t v) :
      Contains t (.sequence vs)

theorem TypeSymbol.InterfacesDistinct.of_occursIn {t u : TypeSymbol} (hu : u.InterfacesDistinct)
    (h : t.OccursIn u) : t.InterfacesDistinct := by
  induction h with
  | here => exact hu
  | interface hi _ ih =>
    cases hu with
    | intro _ hinterfaces _ => exact ih (hinterfaces _ hi)
  | base hb _ ih =>
    cases hu with
    | intro _ _ hbase => exact ih (hbase _ hb)

theorem Stored.AllMade.interfacesDistinct {t : TypeSymbol} {v : Stored} (hv : v.AllMade)
    (h : v.Contains t) : t.InterfacesDistinct := by
  induction h with
  | type h =>
    cases hv with
    | built hb => exact TypeSymbol.InterfacesDistinct.of_occursIn hb.sound h
  | model hu h =>
    cases hv with
    | built hb => exact TypeSymbol.InterfacesDistinct.of_occursIn (hb.sound _ hu) h
  | item hw _ ih =>
    cases hv with
    | sequence hvs => exact ih (hvs _ hw)

namespace Session

open Checked

/-- **A session never keeps a type that lists an interface twice.** After any steps, whether they
succeed or fail, and in any value that a name stands for then, the interfaces of every type, to any
depth, differ from each other in namespace or name. -/
theorem interfaces_distinct_of_run (steps : List SessionStep) {name : String} {v : Stored}
    (hv : (run {} steps).1.value name = .ok v) {t : TypeSymbol} (ht : v.Contains t) :
    t.interfaces.Pairwise fun i j => (i.namespaceName, i.name) ≠ (j.namespaceName, j.name) := by
  have hempty : AllMade {} := nofun
  have hmade : v.AllMade := (hempty.run steps).value hv
  cases hmade.interfacesDistinct ht with
  | intro hdistinct _ _ => exact List.pairwise_map.1 hdistinct

/-- Steps that build an interface, the same one under another description, and a class that lists
both of them and the first one once more. -/
def cartSteps : List SessionStep := [
  .make "shop" .type [("name", .str "IShop")] [],
  .make "again" .type [("name", .str "IShop"), ("kind", .str "Interface")] [],
  .make "cart" .type [("name", .str "Cart")]
    [("implementedInterfaces", .many ["shop", "again", "shop"])]]

/-- The interfaces that the class lists. -/
def listed : List TypeSymbol :=
  [{ name := "IShop" }, { name := "IShop", kind := .interfaceType }, { name := "IShop" }]

/-- The class that is built. -/
def cart : TypeSymbol := { name := "Cart", interfaces := [{ name := "IShop" }] }

theorem ofJson_cart :
    TypeSymbol.ofJson (.object [("name", .str "Cart"),
      ("implementedInterfaces", .array (listed.map fun t => .ready (Built.type t)))]) =
      .ok cart := by
  have hlisted : ∀ t ∈ listed, TypeSymbol.ofJson (.ready (Built.type t)) = .ok t := by
    intro t _
    rw [TypeSymbol.ofJson]
    rfl
  rw [TypeSymbol.ofJson_object]
  exact map_ok TypeSymbol.assemble (Check.required_ok _ rfl (Check.text_ok "Cart"))
    |> (seq_ok · rfl) |> (seq_ok · rfl) |> (seq_ok · rfl) |> (seq_ok · rfl) |> (seq_ok · rfl)
    |> (seq_ok · (Check.optional_ok _ _ rfl (Check.sequence_ok hlisted)))
    |> (seq_ok · rfl)

theorem value_cartSteps :
    (run {} cartSteps).1.value "cart" = .ok (.built (.type cart)) := by
  have hbuild {fields : List (String × Json Built)} {t : TypeSymbol}
      (h : TypeSymbol.ofJson (.object fields) = .ok t) :
      build .type (.object fields) = .ok (.type t) := map_ok Built.type h
  have hshop : TypeSymbol.ofJson (.object [("name", .str "IShop")] : Json Built) =
      .ok { name := "IShop" } := by
    rw [TypeSymbol.ofJson_object]
    rfl
  have hagain : TypeSymbol.ofJson
      (.object [("name", .str "IShop"), ("kind", .str "Interface")] : Json Built) =
      .ok { name := "IShop", kind := .interfaceType } := by
    rw [TypeSymbol.ofJson_object]
    rfl
  rw [cartSteps, run_cons, step_make rfl (hbuild hshop), run_cons, step_make rfl (hbuild hagain),
    run_cons, step_make rfl (hbuild ofJson_cart)]
  rfl

/-- The class that is built lists the interface once. -/
theorem interfaces_distinct_cart :
    (run {} cartSteps).1.value "cart" = .ok (.built (.type cart)) ∧
      cart.interfaces.Pairwise fun i j => (i.namespaceName, i.name) ≠ (j.namespaceName, j.name) :=
  ⟨value_cartSteps, interfaces_distinct_of_run cartSteps value_cartSteps (.type .here)⟩

end Session

end ClassDiagram
