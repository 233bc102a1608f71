import ClassDiagram.Check.Filter
import ClassDiagram.Check.Symbol
import ClassDiagram.Diagram.Render
import ClassDiagram.Json.Writer
import ClassDiagram.Report.Entry
import ClassDiagram.Service.Body

/-!
# The rendering service

A service that draws the model in the body of a request, with the filters that come with it.

* `RenderRequest` is what the body is read as;
* `Service.respond` answers a request, `Reply` is an answer or the failure to give one.
-/

namespace ClassDiagram

/-! ### Requests -/

/-- A request for a diagram. -/
structure RenderRequest where
  /-- The model to draw. -/
  model : Model
  /-- The filters to draw it with. -/
  filters : Option FilterConfig
deriving Repr

namespace Keys

/-- The model of a request. -/
def model : List String := ["model"]

/-- The filters of a request. -/
def filters : List String := ["filters"]

end Keys

namespace RenderRequest

/-- A request from JSON. -/
def ofJson (v : Document) : Check.Result Empty RenderRequest :=
  match v with
  | .object fields =>
    RenderRequest.mk
      <$> Check.required fields Keys.model (fun f => Model.ofJson f.1.2)
      <*> Check.optional fields Keys.filters none
        (fun f => Check.nullable f.1.2 (FilterConfig.ofJson f.1.2))
  | _ => Check.fault (.notRecord .request) v

/-- The policy that a request asks for. -/
def policy (r : RenderRequest) : Policy := (r.filters.map Policy.ofConfig).getD Policy.standard

/-- The diagram that a request asks for. -/
def diagram (r : RenderRequest) : String := r.model.render r.policy

end RenderRequest

/-! ### Replies -/

/-- The reply to a request. -/
inductive Reply where
  /-- An answer, with its status. -/
  | answer (status : Nat) (body : Document)
  /-- No answer: it would hold a number that is not finite. -/
  | unwritable
  /-- No answer: it would hold bytes that are no text. -/
  | undecodable (fault : Utf8.Fault)

namespace Service

/-- A request that comes to the service. -/
structure Request where
  /-- Its method. -/
  method : String
  /-- The path that it asks for. -/
  path : String
  /-- The header that names its media type. -/
  mediaType : Option String
  /-- Its body. -/
  body : List UInt8
deriving DecidableEq, Repr

/-- An answer that says one thing. -/
def detail (status : Nat) (text : String) : Reply :=
  .answer status (.object [("detail", .str text)])

/-- The answer that lists what is wrong, if it can be written. -/
def refuse (entries : List Document) : Reply :=
  let body : Document := .object [("detail", .array entries)]
  if body.isFinite then .answer 422 body else .unwritable

/-- Where the body of a request stands in the places of its problems. -/
def bodyPlace : List Step := [.key "body"]

/-- The answer to a value that is to be a request. -/
def renderValue (v : Document) : Reply :=
  match RenderRequest.ofJson v with
  | .ok r => .answer 200 (.object [("diagram", .str r.diagram)])
  | .bad p ps => refuse ((p :: ps).map (Report.jsonProblem bodyPlace))

/-- The answer to a body that is to be a request. -/
def renderContent : Body.Content → Reply
  | .empty => refuse [Report.jsonProblem bodyPlace ⟨[], .missing, .null⟩]
  | .value v => renderValue v
  | .malformed cause offset =>
    match Json.Lenient.message? cause with
    | some text =>
      refuse [Report.jsonEntry "json_invalid" (bodyPlace ++ [.index offset]) "JSON decode error"
        (.object []) [("error", .str text)]]
    | none => detail 400 "There was an error parsing the body"
  | .unreadable => detail 400 "There was an error parsing the body"
  | .undecodable fault => .undecodable fault

/-- The answer to a request. -/
def respond (r : Request) : Reply :=
  match r.path with
  | "/render" =>
    if r.method = "POST" then renderContent (Body.content r.mediaType r.body)
    else detail 405 "Method Not Allowed"
  | "/health" =>
    if r.method = "GET" then .answer 200 (.object [("status", .str "ok")])
    else detail 405 "Method Not Allowed"
  | _ => detail 404 "Not Found"

end Service

end ClassDiagram
