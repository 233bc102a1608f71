import ClassDiagram.Json.Token

/-!
# The grammar of JSON

A reader of tokens that knows at each moment what may follow: a value, a key, a comma. It keeps
the containers that are still open, and takes one token at a time.

* `Expectation` is what may follow, `SyntaxFault` what can go wrong, and `Fault` also says where;
* `ReadState.step` takes one token, `ReadState.finish` the end of the text;
* `Json.ofLexemes` reads a whole value.
-/

namespace ClassDiagram

/-- What may follow at some place of a text. -/
inductive Expectation where
  /-- A value. -/
  | value
  /-- A value or the end of an array that has just begun. -/
  | firstItem
  /-- A value behind a comma of an array. -/
  | item
  /-- A comma or the end of an array. -/
  | itemEnd
  /-- A key or the end of an object that has just begun. -/
  | firstKey
  /-- A key behind a comma of an object. -/
  | key
  /-- A colon. -/
  | colon
  /-- A comma or the end of an object. -/
  | fieldEnd
  /-- Nothing: the value is complete. -/
  | nothing
deriving DecidableEq, Repr

/-- Why a text is no JSON value; `ε` are the reports of bad tokens. -/
inductive SyntaxFault (ε : Type) where
  /-- Another token, or none, stands where something else may follow. -/
  | unexpected (expected : Expectation) (found : Option (Token ε))
  /-- Characters are no token. -/
  | broken (cause : ε)
  /-- Containers are nested too deep. -/
  | tooDeep

/-- What is wrong with a text, and how many characters stand before it. -/
structure Fault (ε : Type) where
  /-- What is wrong. -/
  cause : SyntaxFault ε
  /-- How many characters stand before it. -/
  offset : Nat

/-- An open container, with what is complete in it. -/
inductive Frame where
  /-- An array with its items, the last one first. -/
  | array (items : List Document)
  /-- An object with its fields, and the key that waits for its value. -/
  | object (fields : List (String × Document)) (key : String)

/-- How far the reading of a value has come. The frames are the open containers around what is
being read, the innermost first. -/
inductive ReadState where
  /-- Nothing is read. -/
  | start
  /-- An array has just begun. -/
  | firstItem (outer : List Frame)
  /-- A comma of an array is read. -/
  | nextItem (items : List Document) (outer : List Frame)
  /-- An item is read. -/
  | itemEnd (items : List Document) (outer : List Frame)
  /-- An object has just begun. -/
  | firstKey (outer : List Frame)
  /-- A comma of an object is read. -/
  | nextKey (fields : List (String × Document)) (outer : List Frame)
  /-- A key is read. -/
  | colon (fields : List (String × Document)) (key : String) (outer : List Frame)
  /-- The colon behind a key is read. -/
  | field (fields : List (String × Document)) (key : String) (outer : List Frame)
  /-- A field is read. -/
  | fieldEnd (fields : List (String × Document)) (outer : List Frame)
  /-- The value is complete. -/
  | done (v : Document)

namespace ReadState

/-- What may follow. -/
def expectation : ReadState → Expectation
  | start => .value
  | firstItem _ => .firstItem
  | nextItem .. => .item
  | itemEnd .. => .itemEnd
  | firstKey _ => .firstKey
  | nextKey .. => .key
  | colon .. => .colon
  | field .. => .value
  | fieldEnd .. => .fieldEnd
  | done _ => .nothing

/-- A value is complete, inside the given containers. -/
def complete (v : Document) : List Frame → ReadState
  | [] => done v
  | .array items :: outer => itemEnd (v :: items) outer
  | .object fields key :: outer => fieldEnd (Json.put key v fields) outer

variable {ε : Type}

/-- The fault of a token that may not follow. -/
def refuse (s : ReadState) (l : Lexeme ε) : Except (Fault ε) ReadState :=
  .error ⟨.unexpected s.expectation (some l.token), l.start⟩

/-- A value begins in state `s`, inside the given containers. -/
def beginValue (s : ReadState) (outer : List Frame) (l : Lexeme ε) : Except (Fault ε) ReadState :=
  match l.token with
  | .str x => .ok (complete (.str x) outer)
  | .literal v => .ok (complete v outer)
  | .openArray => .ok (firstItem outer)
  | .openObject => .ok (firstKey outer)
  | .broken cause offset _ => .error ⟨.broken cause, l.start + offset⟩
  | _ => s.refuse l

/-- A key begins in state `s`, behind the given fields. -/
def beginKey (s : ReadState) (fields : List (String × Document)) (outer : List Frame)
    (l : Lexeme ε) : Except (Fault ε) ReadState :=
  match l.token with
  | .str x => .ok (colon fields x outer)
  | .broken cause offset true => .error ⟨.broken cause, l.start + offset⟩
  | _ => s.refuse l

/-- So many containers are open, or more. -/
def isFull (limit : Option Nat) (outer : List Frame) : Bool := limit.any (· ≤ outer.length)

/-- Takes one token. With a limit, a container that is not empty may lie inside fewer containers
than the limit: an array over it is refused at its first token, an object behind its first colon. -/
def step (limit : Option Nat) (s : ReadState) (l : Lexeme ε) : Except (Fault ε) ReadState :=
  match s with
  | start => s.beginValue [] l
  | firstItem outer =>
    match l.token with
    | .closeArray => .ok (complete (.array []) outer)
    | _ =>
      if isFull limit outer then .error ⟨.tooDeep, l.start⟩
      else s.beginValue (.array [] :: outer) l
  | nextItem items outer => s.beginValue (.array items :: outer) l
  | itemEnd items outer =>
    match l.token with
    | .comma => .ok (nextItem items outer)
    | .closeArray => .ok (complete (.array items.reverse) outer)
    | _ => s.refuse l
  | firstKey outer =>
    match l.token with
    | .closeObject => .ok (complete (.object []) outer)
    | _ => s.beginKey [] outer l
  | nextKey fields outer => s.beginKey fields outer l
  | colon fields key outer =>
    match l.token with
    | .colon =>
      if fields.isEmpty && isFull limit outer then .error ⟨.tooDeep, l.start + 1⟩
      else .ok (field fields key outer)
    | _ => s.refuse l
  | field fields key outer => s.beginValue (.object fields key :: outer) l
  | fieldEnd fields outer =>
    match l.token with
    | .comma => .ok (nextKey fields outer)
    | .closeObject => .ok (complete (.object fields) outer)
    | _ => s.refuse l
  | done _ => s.refuse l

/-- The text ends, at the given number of characters. -/
def finish (length : Nat) : ReadState → Except (Fault ε) Document
  | done v => .ok v
  | s => .error ⟨.unexpected s.expectation none, length⟩

end ReadState

namespace Json

/-- The value that the tokens of a text of the given length spell. -/
def ofLexemes {ε : Type} (limit : Option Nat) (length : Nat) (ls : List (Lexeme ε)) :
    Except (Fault ε) Document :=
  (ls.foldlM (ReadState.step limit) ReadState.start).bind (ReadState.finish length)

end Json

end ClassDiagram
