import DbLifecycle.Json.Printer

/-!
# Requests and responses

* `Request`: method, path, body and type of a request.
* `Response`: status, type and body of a response; `allow` lists the methods of a known path.
* `Response.json`, `Response.plain`, `Response.bare`: the forms responses take.
-/

namespace DbLifecycle.Http

/-- A request. -/
structure Request where
  method : String
  path : String
  body : String := ""
  contentType : Option String := none
  deriving DecidableEq, Repr

/-- A response. -/
structure Response where
  status : Nat
  contentType : Option String := none
  body : String := ""
  allow : Option (List String) := none
  deriving DecidableEq, Repr

namespace Response

/-- A JSON body. -/
def json (status : Nat) (v : Json) : Response :=
  { status, contentType := some "application/json", body := v.compact }

/-- A body of plain text. -/
def plain (status : Nat) (text : String) : Response :=
  { status, contentType := some "text/plain; charset=utf-8", body := text }

/-- No body. -/
def bare (status : Nat) : Response := { status }

/-- The same response without its body. -/
def withoutBody (r : Response) : Response := { r with body := "" }

end Response

end DbLifecycle.Http
