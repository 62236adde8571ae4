import DbLifecycle.Json.Decode
import DbLifecycle.Validation

/-!
# Users

* `User`: a user with an id.
* `UserInput`: what a client gives to create or change a user, and `UserInput.validate`.
* `validateId`: ids are positive.
* `User.toJson`, `User.decode`, `UserInput.decode`: their JSON forms.
-/

namespace DbLifecycle

/-- What a client says about a user. -/
structure UserInput where
  username : String
  name : Option String := none
  familyName : Option String := none
  deriving DecidableEq, Repr

/-- A user. -/
structure User where
  id : Int
  username : String
  name : Option String
  familyName : Option String
  deriving DecidableEq, Repr

/-- The user that an input describes under an id. -/
def UserInput.withId (u : UserInput) (id : Int) : User := ⟨id, u.username, u.name, u.familyName⟩

/-! ## Validation -/

/-- The greatest length of a name. -/
def maxName : Nat := 50

/-- The greatest length of a user name. -/
def maxUsername : Nat := 20

/-- A name that is there must not be too long. -/
def checkName (field : String) : Option String → List (String × Violation)
  | some s => if s.length ≤ maxName then [] else [(field, .length none maxName s none)]
  | none => []

/-- A user name has at least one character and not too many. -/
def checkUsername (s : String) : List (String × Violation) :=
  if 1 ≤ s.length ∧ s.length ≤ maxUsername then []
  else [("username",
    .length (some 1) maxUsername s (some "username must be 1-20 characters"))]

/-- The fields of an input that are out of bounds. -/
def UserInput.violations (u : UserInput) : List (String × Violation) :=
  checkName "family_name" u.familyName ++ checkName "name" u.name ++ checkUsername u.username

/-- Checks the fields of an input. -/
def UserInput.validate (u : UserInput) : Except Invalid Unit :=
  if u.violations.isEmpty then .ok () else .error ⟨u.violations⟩

/-- Checks an id. -/
def validateId (id : Int) : Except Invalid Unit :=
  if 1 ≤ id then .ok ()
  else .error ⟨[("user_id", .range 1 id (some "user_id must be positive"))]⟩

/-! ## JSON -/

open Json

/-- The JSON form of an input. -/
def UserInput.toJson (u : UserInput) : Json :=
  .obj [("username", .str u.username), ("name", .text? u.name),
    ("family_name", .text? u.familyName)]

/-- The JSON form of a user. -/
def User.toJson (u : User) : Json :=
  .obj [("id", .int u.id), ("username", .str u.username), ("name", .text? u.name),
    ("family_name", .text? u.familyName)]

/-- An input from an object or an array of all three fields. -/
def UserInput.decode (v : Json) : Except Mismatch UserInput := do
  match ← asFields "UserInDto" v with
  | .named ms =>
    let familyName ← given? "family_name" (asOption asText) ms
    let name ← given? "name" (asOption asText) ms
    let username ← given? "username" asText ms
    let username ← required "username" username
    .ok ⟨username, name.join, familyName.join⟩
  | .listed items =>
    let username ← listed "UserInDto" 3 0 asText none items
    let name ← listed "UserInDto" 3 1 (asOption asText) none items
    let familyName ← listed "UserInDto" 3 2 (asOption asText) none items
    noneLeft 3 items
    .ok ⟨username, name, familyName⟩

/-- A user from an object or an array of all four fields. -/
def User.decode (v : Json) : Except Mismatch User := do
  match ← asFields "Model" v with
  | .named ms =>
    let familyName ← given? "family_name" (asOption asText) ms
    let id ← given? "id" asInt32 ms
    let name ← given? "name" (asOption asText) ms
    let username ← given? "username" asText ms
    let id ← required "id" id
    let username ← required "username" username
    .ok ⟨id, username, name.join, familyName.join⟩
  | .listed items =>
    let id ← listed "Model" 4 0 asInt32 none items
    let username ← listed "Model" 4 1 asText none items
    let name ← listed "Model" 4 2 (asOption asText) none items
    let familyName ← listed "Model" 4 3 (asOption asText) none items
    noneLeft 4 items
    .ok ⟨id, username, name, familyName⟩

/-- The id of a path, from an object or an array. -/
def decodeId (v : Json) : Except Mismatch Int := do
  match ← asFields "UserPath" v with
  | .named ms => do required "user_id" (← given? "user_id" asInt32 ms)
  | .listed items =>
    let id ← listed "UserPath" 1 0 asInt32 none items
    noneLeft 1 items
    .ok id

/-- The message of a deletion. -/
structure Status where
  message : String
  deriving DecidableEq, Repr

/-- The JSON form of a message. -/
def Status.toJson (s : Status) : Json := .obj [("message", .str s.message)]

/-- A message from an object or an array. -/
def Status.decode (v : Json) : Except Mismatch Status := do
  match ← asFields "StatusDto" v with
  | .named ms => do .ok ⟨← required "message" (← given? "message" asText ms)⟩
  | .listed items =>
    let message ← listed "StatusDto" 1 0 asText none items
    noneLeft 1 items
    .ok ⟨message⟩

end DbLifecycle
