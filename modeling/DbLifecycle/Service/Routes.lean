import DbLifecycle.Http.MediaType
import DbLifecycle.Service.Body
import DbLifecycle.Service.Users

/-!
# The routes of the service

* `Route`: the paths of the service, `Route.ofPath?`, and the methods each of them has.
* `extractId`, `extractUser`: the id in a path, and the user in a body.
* `Service.handle`: what a route gives for a request.
-/

namespace DbLifecycle

open Http

/-! ## Routes -/

/-- The paths of the service. -/
inductive Route where
  | health
  | users
  /-- A user, by the characters that stand for the id. -/
  | user (id : List Char)
  deriving DecidableEq, Repr

namespace Route

/-- Whether a character may stand in the scheme of an absolute target. -/
def isSchemeChar (c : Char) : Bool := c.isAlphanum || c == '+' || c == '-' || c == '.'

/-- What follows the address of an absolute target: a scheme, two slashes, and an address, which is
not empty. -/
def afterAddress? (target : List Char) : Option (List Char) :=
  match target.dropWhile isSchemeChar with
  | ':' :: '/' :: '/' :: r =>
    let rest := r.dropWhile fun c => c != '/' && c != '?' && c != '#'
    if rest.length < r.length then some rest else none
  | _ => none

/-- The path of a request, without what follows a question mark or a number sign. An absolute target
without a path stands for the root. -/
def pathOf (target : String) : List Char :=
  let path (cs : List Char) : List Char := cs.takeWhile fun c => c != '?' && c != '#'
  match afterAddress? target.toList with
  | some rest => if (path rest).isEmpty then ['/'] else path rest
  | none => path target.toList

/-- The route of a path. -/
def ofPath? (path : List Char) : Option Route :=
  match path.splitOn '/' with
  | [[], p] =>
    if p = "health".toList then some .health
    else if p = "users".toList then some .users
    else none
  | [[], p, id] => if p = "user".toList ∧ id ≠ [] then some (.user id) else none
  | _ => none

/-- The methods of a route, in order. -/
def methods : Route → List String
  | .health => ["GET", "HEAD"]
  | .users => ["GET", "HEAD", "POST"]
  | .user _ => ["DELETE", "GET", "HEAD", "PUT"]

end Route

/-! ## Input -/

/-- A part of a request, or the response that refuses it. -/
abbrev Extracted (α : Type) := Except Response α

/-- The id in a path. -/
def extractId (cs : List Char) : Extracted Int :=
  match Percent.decode cs with
  | .error _ => .error (.plain 400 "Invalid URL: Invalid UTF-8 in `user_id`")
  | .ok s =>
    match Text.Integer.signed? (Text.Integer.minSigned 32) (Text.Integer.maxSigned 32) s.toList with
    | some n => .ok n
    | none =>
      .error (.plain 400
        ("Invalid URL: Cannot parse `user_id` with value `" ++ s ++ "` to a `i32`"))

/-- The greatest number of bytes of a body that is read. -/
def maxBody : Nat := 2097152

/-- The user in the body of a request. -/
def extractUser (q : Request) : Extracted UserInput :=
  if !(q.contentType.map MediaType.isJson).getD false then
    .error (.plain 415 "Expected request with `Content-Type: application/json`")
  else if maxBody < q.body.utf8ByteSize then
    .error (.plain 413 "Failed to buffer the request body: length limit exceeded")
  else
    let cs := q.body.toList
    match Body.user cs with
    | .ok u => .ok u
    | .error .grammar => .error (.plain 400 "Failed to parse the request body as JSON")
    | .error (.data path m rest) =>
      let (line, column) := Body.place cs rest
      .error (.plain 422
        ("Failed to deserialize the JSON body into the target type: " ++
          (match path with
          | some p => p ++ ": "
          | none => "") ++ m.message ++ " at line " ++ toString line ++ " column " ++
          toString column))

/-! ## Answers -/

namespace Service

/-- A result as JSON, or the failure. -/
def answer {α : Type} (encode : α → Json) : Users.Result α → Answer × World
  | (.ok v, w) => ({ response := .json 200 (encode v) }, w)
  | (.error f, w) => (.ofFailure f, w)

/-- The response to a deletion: a user that was not there is reported without a failure. -/
def deletion (id : Int) : Users.Result Bool → Answer × World
  | (.ok true, w) =>
    ({ response := .json 200 (Status.mk ("Deleted user " ++ toString id)).toJson }, w)
  | (.ok false, w) => ({ response := notFoundResponse (Users.missingText id) }, w)
  | (.error f, w) => (.ofFailure f, w)

/-- Goes on with a part of the request, or refuses it. -/
def extracting {α : Type} (part : Extracted α) (next : α → Answer × World) (w : World) :
    Answer × World :=
  match part with
  | .ok v => next v
  | .error response => ({ response }, w)

/-- The answer to a method that a route has. -/
def onRoute (q : Request) (method : String) (w : World) : Route → Answer × World
  | .health => ({ response := .plain 200 "OK" }, w)
  | .users =>
    if method = "POST" then
      extracting (extractUser q) (fun u => answer User.toJson (Users.create u w)) w
    else answer (fun us => .arr (us.map User.toJson)) (Users.list w)
  | .user cs =>
    extracting (extractId cs) (fun id =>
      if method = "PUT" then
        extracting (extractUser q) (fun u => answer User.toJson (Users.update id u w)) w
      else if method = "DELETE" then deletion id (Users.delete id w)
      else answer User.toJson (Users.get id w)) w

/-- What the routes give for a request. -/
def handle (q : Request) (w : World) : Answer × World :=
  match Route.ofPath? (Route.pathOf q.path) with
  | none => ({ response := .bare 404 }, w)
  | some route =>
    if q.method ∈ route.methods then
      onRoute q (if q.method = "HEAD" then "GET" else q.method) w route
    else ({ response := { status := 405, allow := some route.methods } }, w)

end Service

/-- The response of a host with the routes of the service to a request. -/
def Host.respond (host : Host) (q : Request) (w : World) : Response × World :=
  let (a, w) := Service.handle q w
  let w := match host.handlerFor? a with
    | some (f, _) => w.log (.handlerApplied f.message)
    | none => w
  let response := host.responseTo a
  (if q.method = "HEAD" then response.withoutBody else response, w)

end DbLifecycle
