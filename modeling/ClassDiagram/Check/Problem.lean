import ClassDiagram.Filter.Draft

/-!
# What can be wrong with a value

A JSON value that is to be a symbol or a filter is checked in full: every offending place is
reported, with what is wrong there and the value that was found.

* `Record` names what an object can be read as;
* `Built` is any of the values that reading can result in, ready to be part of another one;
* `Cause` is what is wrong, `Problem` also says where;
* `Checked` is the outcome of a check: a result, or at least one problem.
-/

namespace ClassDiagram

/-- What an object is read as. -/
inductive Record where
  | parameter
  | member
  | type
  | model
  | rule
  | config
  | request
deriving DecidableEq, Repr, Inhabited

/-- A value that was built before, and may stand where JSON of the same kind may stand. -/
inductive Built where
  | parameter (p : Parameter)
  | member (m : Member)
  | type (t : TypeSymbol)
  | model (m : Model)
  | rule (r : NamespaceRule)
  | config (d : DraftConfig)
deriving Repr, Inhabited

/-- Which kind of value was built. -/
def Built.record : Built → Record
  | parameter _ => .parameter
  | member _ => .member
  | type _ => .type
  | model _ => .model
  | rule _ => .rule
  | config _ => .config

/-- Parts of type `ρ` stand for built values. -/
class Holds (ρ : Type) where
  /-- The built value that a part stands for. -/
  built : ρ → Built

instance : Holds Built where built := id

instance : Holds Empty where built := Empty.elim

/-- One step from a value to a part of it. -/
inductive Step where
  /-- To the value under a key. -/
  | key (k : String)
  /-- To the item of a number. -/
  | index (i : Nat)
deriving DecidableEq, Repr, Inhabited

/-- What is wrong with a value, or with its absence. -/
inductive Cause where
  /-- A required field is missing; the value is the object without it. -/
  | missing
  /-- It is no text. -/
  | notText
  /-- It is nothing that could be a truth value. -/
  | notFlag
  /-- It could be a truth value, but is none of their spellings. -/
  | unclearFlag
  /-- It is none of the spellings of a vocabulary. -/
  | notAmong (names : List String)
  /-- It is no sequence of parts. -/
  | notSequence
  /-- It is no list of settings. -/
  | notList
  /-- It is no object that could be read as the record. -/
  | notRecord (r : Record)
  /-- It was to replace a part of something that does not change. -/
  | frozen
deriving DecidableEq, Repr

/-- An offending place of a value. -/
structure Problem (ρ : Type) where
  /-- The way to the place. -/
  path : List Step
  /-- What is wrong. -/
  cause : Cause
  /-- The value that was found there. -/
  input : Json ρ
deriving Repr

/-- The problem seen from the value of which the step leads to the offending one. -/
def Problem.under {ρ : Type} (s : Step) (p : Problem ρ) : Problem ρ :=
  { p with path := s :: p.path }

/-- The outcome of a check: a result, or every problem that was found, of which there is one at
least. -/
inductive Checked (ε α : Type) where
  /-- Nothing is wrong. -/
  | ok (result : α)
  /-- Something is wrong. -/
  | bad (first : ε) (others : List ε)
deriving Repr

namespace Checked

variable {ε α β : Type}

/-- What is wrong. -/
def problems : Checked ε α → List ε
  | ok _ => []
  | bad p ps => p :: ps

/-- The result, if nothing is wrong. -/
def result? : Checked ε α → Option α
  | ok a => some a
  | bad .. => none

/-- A function and its argument, both checked: the problems of both are reported. -/
def seq : Checked ε (α → β) → Checked ε α → Checked ε β
  | ok f, ok a => ok (f a)
  | ok _, bad p ps => bad p ps
  | bad p ps, ok _ => bad p ps
  | bad p ps, bad q qs => bad p (ps ++ q :: qs)

instance : Applicative (Checked ε) where
  pure := ok
  seq f x := seq f (x ())

/-- Each problem changed by a function. -/
def mapProblems {δ : Type} (f : ε → δ) : Checked ε α → Checked δ α
  | ok a => ok a
  | bad p ps => bad (f p) (ps.map f)

/-- The outcome with its problems as an error. -/
def toExcept : Checked ε α → Except (List ε) α
  | ok a => .ok a
  | bad p ps => .error (p :: ps)

theorem problems_seq (f : Checked ε (α → β)) (x : Checked ε α) :
    (f <*> x).problems = f.problems ++ x.problems := by
  cases f <;> cases x <;> simp [Seq.seq, seq, problems]

theorem problems_map (g : α → β) (x : Checked ε α) : (g <$> x).problems = x.problems := by
  cases x <;> simp [Functor.map, seq, problems]

end Checked

end ClassDiagram
