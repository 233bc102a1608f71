import ClassDiagram.Check.Problem

/-!
# Checking parts of a value

The checks that all records share: texts, truth values, vocabularies, sequences, and the fields of
an object under any of their keys.

* `Check.text`, `Check.flag` and `Check.choice` check single values;
* `Check.sequence` checks a sequence of parts, `Check.list` a sequence of settings;
* `Check.required` and `Check.optional` check a field of an object.
-/

namespace ClassDiagram.Check

variable {ρ α : Type}

/-- The outcome of a check of a value with parts of type `ρ`. -/
abbrev Result (ρ α : Type) := Checked (Problem ρ) α

/-- One problem at the value itself. -/
def fault (cause : Cause) (v : Json ρ) : Result ρ α := .bad ⟨[], cause, v⟩ []

/-- The outcome seen from the value of which the step leads to the checked one. -/
def under (s : Step) (r : Result ρ α) : Result ρ α := r.mapProblems (Problem.under s)

/-! ### Single values -/

/-- A text. -/
def text : Json ρ → Result ρ String
  | .str s => pure s
  | v => fault .notText v

/-- The least number that fits into 64 bits, as a signed one. -/
def leastWord : Int := -(Nat.pow 2 63 : Int)

/-- A number that fits into 64 bits, as a signed one. -/
def isWord (n : Int) : Bool := leastWord ≤ n && n < (Nat.pow 2 63 : Int)

/-- A number that fits into 64 bits when it comes as a float: this has to be above the least one. -/
def isFloatWord (n : Int) : Bool := isWord n && n ≠ leastWord

/-- The truth value that a number stands for. -/
def flagOfInt (n : Int) (v : Json ρ) : Result ρ Bool :=
  if n = 0 then pure false
  else if n = 1 then pure true
  else if isWord n then fault .unclearFlag v
  else fault .notFlag v

/-- The words for truth, in lower case. -/
def trueWords : List String := ["1", "on", "t", "true", "y", "yes"]

/-- The words for falsehood, in lower case. -/
def falseWords : List String := ["0", "off", "f", "false", "n", "no"]

/-- A truth value. The numbers 0 and 1 and some words stand for truth values too; ASCII letters of
either case make the words. -/
def flag (v : Json ρ) : Result ρ Bool :=
  match v with
  | .bool b => pure b
  | .int n => flagOfInt n v
  | .float x =>
    match x.toInt? with
    | some n => if isFloatWord n then flagOfInt n v else fault .notFlag v
    | none => fault .notFlag v
  | .str s =>
    let word := String.ofList (s.toList.map Char.toLower)
    if word ∈ trueWords then pure true
    else if word ∈ falseWords then pure false
    else fault .unclearFlag v
  | _ => fault .notFlag v

/-- A value of a vocabulary, by its exact spelling. -/
def choice (α : Type) [Enumeration α] (v : Json ρ) : Result ρ α :=
  match v with
  | .str s => ((Enumeration.ofName? α s).map pure).getD (fault (.notAmong (Enumeration.names α)) v)
  | _ => fault (.notAmong (Enumeration.names α)) v

/-- A value that may be null, given the outcome of its check as a value that may not. -/
def nullable (v : Json ρ) (r : Result ρ α) : Result ρ (Option α) :=
  match v with
  | .null => pure none
  | _ => some <$> r

/-! ### Sequences -/

/-- The items of a sequence, of which the first one has the number `i`. -/
def itemsFrom (i : Nat) : (vs : List (Json ρ)) → ((v : Json ρ) → v ∈ vs → Result ρ α) →
    Result ρ (List α)
  | [], _ => pure []
  | v :: vs, check =>
    List.cons <$> under (.index i) (check v List.mem_cons_self)
      <*> itemsFrom (i + 1) vs fun w h => check w (List.mem_cons_of_mem v h)

/-- The items of a sequence, each checked. -/
def items (vs : List (Json ρ)) (check : (v : Json ρ) → v ∈ vs → Result ρ α) : Result ρ (List α) :=
  itemsFrom 0 vs check

/-- A sequence of parts, each checked; the check may use that a part is smaller than the whole. -/
def parts (v : Json ρ) (check : (w : Json ρ) → sizeOf w < sizeOf v → Result ρ α) :
    Result ρ (List α) :=
  match v with
  | .array vs => items vs fun w h => check w (Json.sizeOf_lt_of_mem_array h)
  | v => fault .notSequence v

/-- A sequence of parts, each checked. -/
def sequence (check : Json ρ → Result ρ α) (v : Json ρ) : Result ρ (List α) :=
  parts v fun w _ => check w

/-- A list of settings, each checked. -/
def list (check : Json ρ → Result ρ α) : Json ρ → Result ρ (List α)
  | .array vs => items vs fun v _ => check v
  | v => fault .notList v

/-! ### Fields -/

/-- A field that has to be there, under the first of its keys that is; the first key names it when
it is missing. -/
def required (fields : List (String × Json ρ)) (keys : List String)
    (check : Json.FieldOf fields → Result ρ α) : Result ρ α :=
  match Json.lookup? fields keys with
  | some f => under (.key f.1.1) (check f)
  | none => .bad ⟨[.key (keys.headD "")], .missing, .object fields⟩ []

/-- A field that may be missing, under the first of its keys that is there. -/
def optional (fields : List (String × Json ρ)) (keys : List String) (absent : α)
    (check : Json.FieldOf fields → Result ρ α) : Result ρ α :=
  match Json.lookup? fields keys with
  | some f => under (.key f.1.1) (check f)
  | none => pure absent

end ClassDiagram.Check
