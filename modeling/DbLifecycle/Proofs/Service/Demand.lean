import DbLifecycle.Proofs.Walk
import DbLifecycle.Service.Routes

/-!
# What requests ask for

A request asks one thing of the users, or nothing. Read this way, the routes are five operations on
users, and what is not asked of the users gets the same response in every world.

* `Demand`, `Finding`: what can be asked of the users, and what comes of it if nothing fails.
* `Http.Request.demand`: what a request asks of the users, or its response if that is nothing.
  `Http.Request.inRange_of_demand`: the ids that are asked for.
* **`Service.handle_eq`**: the routes do what a request asks.
* `Exchange`, `Host.exchanges`: requests made one after another.
* `World.Serves`: the table that requests work on; `World.Serves.find`, `World.Serves.change`: what
  reading and changing it gives.
-/

namespace DbLifecycle

open Http

/-! ## Demands -/

/-- What can be asked of the users. -/
inductive Demand where
  | list
  | create (u : UserInput)
  | get (id : Int)
  | update (id : Int) (u : UserInput)
  | delete (id : Int)
  deriving DecidableEq, Repr

/-- What comes of a demand if nothing fails. -/
inductive Finding where
  | users (us : List User)
  | user (u : User)
  | deleted (id : Int)
  /-- There was nothing to delete. -/
  | absent (id : Int)
  deriving DecidableEq, Repr

/-- The id that is asked for. -/
def Demand.id? : Demand → Option Int
  | .list | .create _ => none
  | .get id | .update id _ | .delete id => some id

/-- The response to who asked. -/
def Finding.response : Finding → Response
  | .users us => .json 200 (.arr (us.map User.toJson))
  | .user u => .json 200 u.toJson
  | .deleted id => .json 200 (Status.mk ("Deleted user " ++ toString id)).toJson
  | .absent id => notFoundResponse (Users.missingText id)

theorem Failure.status_response_ne (f : Failure) : f.response.status ≠ 200 := by
  unfold Failure.response Response.json
  cases f.cause <;> simp

/-- What the routes give for a result. -/
def Answer.ofResult : Except Failure Finding → Answer
  | .ok f => { response := f.response }
  | .error f => .ofFailure f

/-- Changes the value of a result. -/
def Users.mapResult {α β : Type} (f : α → β) (r : Users.Result α) : Users.Result β :=
  (r.1.map f, r.2)

/-- Does what is asked. -/
def Demand.perform : Demand → World → Users.Result Finding
  | .list, w => Users.mapResult .users (Users.list w)
  | .create u, w => Users.mapResult .user (Users.create u w)
  | .get id, w => Users.mapResult .user (Users.get id w)
  | .update id u, w => Users.mapResult .user (Users.update id u w)
  | .delete id, w =>
    Users.mapResult (fun wasThere => if wasThere then .deleted id else .absent id)
      (Users.delete id w)

/-! ## Requests -/

/-- What a request with a method that the route has asks of the users. -/
def Route.demand (q : Request) (method : String) : Route → Extracted Demand
  | .health => .error (.plain 200 "OK")
  | .users => if method = "POST" then (extractUser q).map .create else .ok .list
  | .user cs =>
    (extractId cs).bind fun id =>
      if method = "PUT" then (extractUser q).map (.update id)
      else if method = "DELETE" then .ok (.delete id)
      else .ok (.get id)

theorem inRange_of_extractId {cs : List Char} {id : Int} (h : extractId cs = .ok id) :
    Users.InRange id := by
  unfold extractId at h
  split at h
  · cases h
  · split at h
    · rename_i hread
      cases h
      exact Text.Integer.bounds_of_signed? hread
    · cases h

theorem Route.inRange_of_demand {q : Request} {method : String} {route : Route} {d : Demand}
    (h : route.demand q method = .ok d) : ∀ id ∈ d.id?, Users.InRange id := by
  have hbody : ∀ {f : UserInput → Demand}, (extractUser q).map f = .ok d → ∃ u, d = f u := by
    intro f hf
    obtain ⟨u, -, rfl⟩ := map_eq_ok_iff.mp hf
    exact ⟨u, rfl⟩
  cases route with
  | health => cases h
  | users =>
    rw [demand] at h
    split at h
    · obtain ⟨u, rfl⟩ := hbody h
      exact nofun
    · cases h
      exact nofun
  | user cs =>
    obtain ⟨id, hid, h⟩ := bind_eq_ok_iff.mp h
    have hrange : ∀ k ∈ some id, Users.InRange k := by
      rintro k ⟨⟩
      exact inRange_of_extractId hid
    split at h
    · obtain ⟨u, rfl⟩ := hbody h
      exact hrange
    · split at h <;> cases h <;> exact hrange

namespace Http.Request

/-- What a request asks of the users, or its response if that is nothing. -/
def demand (q : Request) : Extracted Demand :=
  match Route.ofPath? (Route.pathOf q.path) with
  | none => .error (.bare 404)
  | some route =>
    if q.method ∈ route.methods then
      route.demand q (if q.method = "HEAD" then "GET" else q.method)
    else .error { status := 405, allow := some route.methods }

/-- An id that is asked for is read from a path, as one of a user. -/
theorem inRange_of_demand {q : Request} {d : Demand} (h : q.demand = .ok d) :
    ∀ id ∈ d.id?, Users.InRange id := by
  unfold demand at h
  split at h
  · cases h
  · split at h
    · exact Route.inRange_of_demand h
    · cases h

/-- What is sent back: without its body if only the head was asked for. -/
def sent (q : Request) (r : Response) : Response := if q.method = "HEAD" then r.withoutBody else r

@[simp] theorem status_sent (q : Request) (r : Response) : (q.sent r).status = r.status := by
  unfold sent
  split <;> rfl

end Http.Request

namespace Service

/-- What is answered to what was asked of the users, or to who asked nothing of them. -/
def meet (asked : Extracted Demand) (w : World) : Answer × World :=
  match asked with
  | .ok d => (.ofResult (d.perform w).1, (d.perform w).2)
  | .error response => ({ response }, w)

theorem answer_eq {α : Type} (encode : α → Json) (f : α → Finding)
    (h : ∀ v, (f v).response = .json 200 (encode v)) (r : Users.Result α) :
    answer encode r = (.ofResult (Users.mapResult f r).1, (Users.mapResult f r).2) := by
  obtain ⟨result, w⟩ := r
  cases result with
  | error e => rfl
  | ok v => simp only [answer, Users.mapResult, Except.map, Answer.ofResult, h]

theorem deletion_eq (id : Int) (w : World) :
    deletion id (Users.delete id w) = meet (.ok (.delete id)) w := by
  rw [meet, Demand.perform]
  obtain ⟨result, w'⟩ := Users.delete id w
  cases result with
  | error e => rfl
  | ok wasThere => cases wasThere <;> rfl

theorem extracting_eq {α : Type} (part : Extracted α) (f : α → Demand)
    (next : α → Answer × World) (w : World) (h : ∀ x, next x = meet (.ok (f x)) w) :
    extracting part next w = meet (part.map f) w := by
  cases part with
  | error response => rfl
  | ok x => exact h x

theorem onRoute_eq (q : Request) (method : String) (w : World) (route : Route) :
    onRoute q method w route = meet (route.demand q method) w := by
  have huser : ∀ u : User, (Finding.user u).response = .json 200 u.toJson := fun _ => rfl
  cases route with
  | health => rfl
  | users =>
    rw [onRoute, Route.demand]
    split
    · exact extracting_eq _ _ _ w fun u => answer_eq _ .user huser _
    · exact answer_eq _ .users (fun _ => rfl) _
  | user cs =>
    rw [onRoute, Route.demand]
    cases extractId cs with
    | error response => rfl
    | ok id =>
      simp only [extracting, Except.bind]
      split
      · exact extracting_eq _ _ _ w fun u => answer_eq _ .user huser _
      · split
        · exact deletion_eq id w
        · exact answer_eq _ .user huser _

/-- **The routes do what a request asks.** -/
theorem handle_eq (q : Request) (w : World) : handle q w = meet q.demand w := by
  unfold handle Request.demand
  cases Route.ofPath? (Route.pathOf q.path) with
  | none => rfl
  | some route =>
    dsimp only
    split
    · exact onRoute_eq q _ w route
    · rfl

end Service

/-! ## Exchanges -/

/-- A request to a host, and what came of it. -/
structure Exchange where
  request : Request
  before : World
  response : Response
  after : World

namespace Host

/-- A request is made. -/
def exchange (host : Host) (w : World) (q : Request) : Exchange :=
  ⟨q, w, (host.respond q w).1, (host.respond q w).2⟩

/-- Requests are made one after another. -/
def exchanges (host : Host) : World → List Request → List Exchange
  | _, [] => []
  | w, q :: r => host.exchange w q :: host.exchanges (host.exchange w q).after r

variable (host : Host)

theorem response_exchange (w : World) (q : Request) :
    (host.exchange w q).response = q.sent (host.responseTo (Service.meet q.demand w).1) := by
  rw [← Service.handle_eq]
  rfl

/-- What a host does beyond its routes is no more than to tell an observer. -/
theorem after_exchange (w : World) (q : Request) :
    (host.exchange w q).after = (Service.meet q.demand w).2 ∨
      ∃ e, (host.exchange w q).after = (Service.meet q.demand w).2.log e := by
  rw [← Service.handle_eq]
  simp only [exchange, respond]
  cases host.handlerFor? (Service.handle q w).1 with
  | none => exact .inl rfl
  | some found => exact .inr ⟨_, rfl⟩

end Host

/-! ## The table of the users -/

namespace Pool

variable {p : Pool} {t : Table} {d : Disk} {α : Type}

/-- The table of the users that a pool leads to. -/
def table (p : Pool) (d : Disk) : Except DbError Table := p.read (fun t => t) d

theorem table_eq_ok_iff :
    p.table d = .ok t ↔ ∃ db, d.database p.place = .ok db ∧ db.users = .ok t := by
  unfold table read
  cases hd : d.database p.place with
  | error f => simp
  | ok db => cases ht : db.users <;> simp [ht]

theorem read_of_table (h : p.table d = .ok t) (query : Table → α) :
    p.read query d = .ok (query t) := by
  obtain ⟨db, hd, ht⟩ := table_eq_ok_iff.mp h
  simp only [read, hd, ht]

end Pool

theorem Database.users_setUsers (db : Database) (t : Table) : (db.setUsers t).users = .ok t := by
  simp only [users, setUsers, Dict.get?_insert, if_true]

theorem Disk.database_setDatabase (d : Disk) (p : Place) (db : Database) :
    (d.setDatabase p db).database p = .ok db := by
  cases p with
  | memory name => simp [setDatabase, database, Dict.get?_insert]
  | file path => simp [setDatabase, database, Dict.get?_insert]

/-- What a statement makes of a table, over a connection that may write or may not. -/
def Table.execute {α : Type} (t : Table) (writable : Bool)
    (statement : Table → Except SqliteFailure (Table × α)) : Except Failure α × Table :=
  if !writable then (.error (.ofDbError (.execution (.sqlite .readOnly))), t)
  else
    match statement t with
    | .ok (t', v) => (.ok v, t')
    | .error f => (.error (.ofDbError (.execution (.sqlite f))), t)

namespace World

/-- Requests work on a table, through the pool of the default alias. -/
structure Serves (w : World) (pool : Pool) (t : Table) : Prop where
  required : w.require defaultAlias = .ok pool
  found : pool.table w.disk = .ok t

namespace Serves

variable {w : World} {pool : Pool} {t t' : Table} {α : Type}

theorem log (h : w.Serves pool t) (e : Event) : (w.log e).Serves pool t := ⟨h.required, h.found⟩

theorem eq (h : w.Serves pool t) (h' : w.Serves pool t') : t = t' :=
  Except.ok.inj (h.found.symm.trans h'.found)

theorem withPool (h : w.Serves pool t) (next : Pool → World → Users.Result α) :
    Users.withPool next w = next pool w := by
  rw [Users.withPool, h.required]

theorem find (h : w.Serves pool t) (id : Int) :
    Users.find id pool w =
      match t.find? id with
      | some u => (.ok u, w)
      | none => (.error (.ofError (.notFound (Users.missingText id))), w) := by
  rw [Users.find, Pool.read_of_table h.found]
  cases t.find? id <;> rfl

/-- **A statement changes the table**, or fails and changes nothing. -/
theorem change (h : w.Serves pool t) (statement : Table → Except SqliteFailure (Table × α)) :
    (Users.change statement pool w).1 = (t.execute pool.writable statement).1 ∧
      (Users.change statement pool w).2.Serves pool (t.execute pool.writable statement).2 := by
  obtain ⟨db, hd, ht⟩ := Pool.table_eq_ok_iff.mp h.found
  unfold Table.execute
  simp only [Users.change, Pool.write, hd, ht]
  cases pool.writable with
  | false => exact ⟨rfl, h⟩
  | true =>
    cases hst : statement t with
    | error f => exact ⟨rfl, h⟩
    | ok changed =>
      refine ⟨rfl, h.required, Pool.table_eq_ok_iff.mpr ⟨_, ?_, Database.users_setUsers db _⟩⟩
      exact Disk.database_setDatabase _ _ _

end Serves

end World

end DbLifecycle
