import ClassDiagram.Check.Filter
import ClassDiagram.Check.Symbol
import ClassDiagram.Json.Strict
import ClassDiagram.Report.Message

/-!
# Symbols and filters from text

A text is read as JSON as a whole, and then checked as a whole.

* `Rejection` says why a text was refused, `Rejection.report` words it;
* `readAs` reads a text and checks its value, for any check.
-/

namespace ClassDiagram

/-- Why a text is not what it was to be. -/
inductive Rejection where
  /-- It is no JSON value. -/
  | malformed (text : String) (fault : Fault Json.Strict.Cause)
  /-- Something is wrong with its value. -/
  | invalid (problems : List (Problem Empty))

/-- The report of a text that was to be a record. -/
def Rejection.report (r : Record) : Rejection → String
  | malformed text fault => Report.ofText r (Json.Strict.message text fault) text
  | invalid problems => Report.ofProblems .file r problems

/-- What the value of a text is, by the given check. -/
def readAs {α : Type} (check : Document → Check.Result Empty α) (text : String) :
    Except Rejection α :=
  match Json.Strict.read text with
  | .error fault => .error (.malformed text fault)
  | .ok v => (check v).toExcept.mapError .invalid

theorem readAs_eq {α : Type} {check : Document → Check.Result Empty α} {text : String}
    {v : Document} (h : Json.Strict.read text = .ok v) :
    readAs check text = (check v).toExcept.mapError .invalid := by
  simp only [readAs, h]

theorem readAs_eq_ok_iff {α : Type} {check : Document → Check.Result Empty α} {text : String}
    {a : α} :
    readAs check text = .ok a ↔ ∃ v, Json.Strict.read text = .ok v ∧ check v = .ok a := by
  constructor
  · intro h
    cases hv : Json.Strict.read text with
    | error fault =>
      rw [readAs, hv] at h
      cases h
    | ok v =>
      rw [readAs_eq hv] at h
      cases hc : check v with
      | ok b =>
        rw [hc] at h
        cases h
        exact ⟨v, rfl, hc⟩
      | bad p ps =>
        rw [hc] at h
        cases h
  · rintro ⟨v, hv, hc⟩
    rw [readAs_eq hv, hc]
    rfl

/-- The model that a text describes. -/
def Model.read (text : String) : Except Rejection Model := readAs Model.ofJson text

/-- The type that a text describes. -/
def TypeSymbol.read (text : String) : Except Rejection TypeSymbol := readAs TypeSymbol.ofJson text

/-- The configuration that a text describes. -/
def FilterConfig.read (text : String) : Except Rejection FilterConfig :=
  readAs FilterConfig.ofJson text

end ClassDiagram
