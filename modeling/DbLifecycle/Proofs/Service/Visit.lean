import DbLifecycle.Proofs.Database.Likeness
import DbLifecycle.Service.Routes

/-!
# Visits

What is done with a service between its start and its end: requests to its host, and uses of its
registry. What is done next may depend on every reply so far.

* `Use`, `Reply`, `Use.perform`: a request or a use, and what comes of it.
* `Visit`, `Visit.run`: a plan of uses, and all replies to it.
* `Host.respond_alike`, **`Visit.run_alike`**: a visit cannot tell worlds apart that have the same
  files and connections, nor hosts that have the same handlers.
-/

namespace DbLifecycle

open World

/-! ## Users -/

section Users

variable {w v : World} {p q : Pool} {α : Type}

theorem Pool.read_of_toLink (hpq : p.toLink = q.toLink) (query : Table → α) (d : Disk) :
    p.read query d = q.read query d := by
  unfold Pool.read
  rw [hpq]

theorem Pool.write_of_toLink (hpq : p.toLink = q.toLink)
    (statement : Table → Except SqliteFailure (Table × α)) (d : Disk) :
    p.write statement d = q.write statement d := by
  unfold Pool.write
  rw [hpq]

namespace Users

theorem checked_alike {next next' : World → Result α} (check : Except Invalid Unit)
    (hnext : Alike Like (next w) (next' v)) (h : Like w v) :
    Alike Like (checked check next w) (checked check next' v) := by
  cases check with
  | ok u => exact hnext
  | error e => exact ⟨rfl, h⟩

theorem withPool_alike {next : Pool → World → Result α}
    (hnext : ∀ {p q}, p.toLink = q.toLink → Alike Like (next p w) (next q v)) (h : Like w v) :
    Alike Like (withPool next w) (withPool next v) := by
  unfold withPool
  rcases h.require defaultAlias with ⟨e, hw, hv⟩ | ⟨p, q, hw, hv, hpq⟩
  · rw [hw, hv]
    exact ⟨rfl, h⟩
  · rw [hw, hv]
    exact hnext hpq

theorem find_alike (id : Int) (hpq : p.toLink = q.toLink) (h : Like w v) :
    Alike Like (find id p w) (find id q v) := by
  unfold find
  rw [Pool.read_of_toLink hpq, h.disk]
  cases q.read (·.find? id) v.disk with
  | error e => exact ⟨rfl, h⟩
  | ok found => cases found <;> exact ⟨rfl, h⟩

theorem change_alike (statement : Table → Except SqliteFailure (Table × α))
    (hpq : p.toLink = q.toLink) (h : Like w v) :
    Alike Like (change statement p w) (change statement q v) := by
  unfold change
  rw [Pool.write_of_toLink hpq, h.disk]
  cases q.write statement v.disk with
  | error e => exact ⟨rfl, h⟩
  | ok written => exact ⟨rfl, h.setDisk written.1⟩

theorem list_alike (h : Like w v) : Alike Like (list w) (list v) := by
  refine withPool_alike (fun {p q} hpq => ?_) h
  rw [Pool.read_of_toLink hpq, h.disk]
  cases (q.read (·.rows) v.disk).bind decoded <;> exact ⟨rfl, h⟩

theorem numbered_alike {a b : Result User} (h : Alike Like a b) :
    Alike Like (numbered a) (numbered b) := by
  obtain ⟨result, w', v', rfl, rfl, h'⟩ := h.exists_eq
  cases result with
  | error e => exact ⟨rfl, h'⟩
  | ok user =>
    rw [numbered, numbered]
    split <;> exact ⟨rfl, h'⟩

theorem create_alike (u : UserInput) (h : Like w v) : Alike Like (create u w) (create u v) :=
  numbered_alike (checked_alike _ (withPool_alike (fun hpq => change_alike _ hpq h) h) h)

theorem get_alike (id : Int) (h : Like w v) : Alike Like (get id w) (get id v) :=
  checked_alike _ (withPool_alike (fun hpq => find_alike id hpq h) h) h

theorem update_alike (id : Int) (u : UserInput) (h : Like w v) :
    Alike Like (update id u w) (update id u v) := by
  refine checked_alike _ (checked_alike _ (withPool_alike (fun {p q} hpq => ?_) h) h) h
  obtain ⟨found, w', v', hw, hv, h'⟩ := (find_alike id hpq h).exists_eq
  rw [hw, hv]
  cases found with
  | error e => exact ⟨rfl, h'⟩
  | ok user => exact change_alike _ hpq h'

theorem delete_alike (id : Int) (h : Like w v) : Alike Like (delete id w) (delete id v) :=
  checked_alike _ (withPool_alike (fun hpq => change_alike _ hpq h) h) h

end Users

end Users

/-! ## Requests -/

section Requests

variable {w v : World} {α : Type}

namespace Service

theorem answer_alike (encode : α → Json) {a b : Users.Result α} (h : Alike Like a b) :
    Alike Like (answer encode a) (answer encode b) := by
  obtain ⟨result, w', v', rfl, rfl, h'⟩ := h.exists_eq
  cases result <;> exact ⟨rfl, h'⟩

theorem deletion_alike (id : Int) {a b : Users.Result Bool} (h : Alike Like a b) :
    Alike Like (deletion id a) (deletion id b) := by
  obtain ⟨result, w', v', rfl, rfl, h'⟩ := h.exists_eq
  cases result with
  | error f => exact ⟨rfl, h'⟩
  | ok wasThere => cases wasThere <;> exact ⟨rfl, h'⟩

theorem extracting_alike (part : Extracted α) {next next' : α → Answer × World}
    (hnext : ∀ x, Alike Like (next x) (next' x)) (h : Like w v) :
    Alike Like (extracting part next w) (extracting part next' v) := by
  cases part with
  | error response => exact ⟨rfl, h⟩
  | ok x => exact hnext x

theorem onRoute_alike (q : Http.Request) (method : String) (route : Route) (h : Like w v) :
    Alike Like (onRoute q method w route) (onRoute q method v route) := by
  cases route with
  | health => exact ⟨rfl, h⟩
  | users =>
    simp only [onRoute]
    split
    · exact extracting_alike _ (fun u => answer_alike _ (Users.create_alike u h)) h
    · exact answer_alike _ (Users.list_alike h)
  | user cs =>
    refine extracting_alike _ (fun id => ?_) h
    split
    · exact extracting_alike _ (fun u => answer_alike _ (Users.update_alike id u h)) h
    · split
      · exact deletion_alike id (Users.delete_alike id h)
      · exact answer_alike _ (Users.get_alike id h)

theorem handle_alike (q : Http.Request) (h : Like w v) :
    Alike Like (handle q w) (handle q v) := by
  unfold handle
  cases Route.ofPath? (Route.pathOf q.path) with
  | none => exact ⟨rfl, h⟩
  | some route =>
    dsimp only
    split
    · exact onRoute_alike q _ route h
    · exact ⟨rfl, h⟩

end Service

/-- **Hosts with the same handlers respond alike.** -/
theorem Host.respond_alike {host host' : Host} (hhost : host.handlers = host'.handlers)
    (q : Http.Request) (h : Like w v) : Alike Like (host.respond q w) (host'.respond q v) := by
  obtain ⟨a, w', v', hw, hv, h'⟩ := (Service.handle_alike q h).exists_eq
  have hfor : host.handlerFor? a = host'.handlerFor? a := by
    unfold Host.handlerFor?
    rw [hhost]
  unfold Host.respond Host.responseTo
  rw [hw, hv]
  dsimp only
  rw [hfor]
  refine ⟨rfl, ?_⟩
  cases host'.handlerFor? a with
  | none => exact h'
  | some found => exact h'.log _ _

end Requests

/-! ## Visits -/

/-- Something that is done with a running service. -/
inductive Use where
  /-- A request to the host. -/
  | request (q : Http.Request)
  | aliases
  | require (aliasName : String)
  | openAll (c : Config)
  | closeAll
  /-- Databases are read and changed, through whatever connections are open. -/
  | work (f : Dict Link → Disk → String × Disk)

/-- What comes of it. -/
inductive Reply where
  | response (r : Http.Response)
  | aliases (names : List String)
  | connection (found : Except Error Link)
  | opened (outcome : Outcome Error Unit)
  | closed (outcome : Outcome DbError Unit)
  | text (s : String)

/-- Does something with a service. -/
def Use.perform (driver : Driver) (host : Host) (w : World) : Use → Reply × World
  | .request q => let (r, w) := host.respond q w; (.response r, w)
  | .aliases => (.aliases w.aliases, w)
  | .require aliasName => (.connection ((w.require aliasName).map (·.toLink)), w)
  | .openAll c => let (outcome, w) := w.openAll driver c; (.opened outcome, w)
  | .closeAll => let (outcome, w) := w.closeAll driver; (.closed outcome, w)
  | .work f => let (s, disk) := f w.links w.disk; (.text s, { w with disk })

/-- A plan of what to do with a service, up to a value or an error. -/
inductive Visit (ε α : Type) where
  | leave (ending : Except ε α)
  | next (use : Use) (rest : Reply → Visit ε α)

variable {ε α : Type}

/-- Carries out a plan, and collects all replies. -/
def Visit.run (driver : Driver) (host : Host) :
    Visit ε α → World → (List Reply × Except ε α) × World
  | .leave ending, w => (([], ending), w)
  | .next use rest, w =>
    let (reply, w) := use.perform driver host w
    let ((replies, ending), w) := (rest reply).run driver host w
    ((reply :: replies, ending), w)

section Visit

variable (driver : Driver) {host host' : Host} {w v : World}

theorem Use.perform_alike (hhost : host.handlers = host'.handlers) (use : Use) (h : Like w v) :
    Alike Like (use.perform driver host w) (use.perform driver host' v) := by
  cases use with
  | request q =>
    obtain ⟨r, w', v', hw, hv, h'⟩ := (Host.respond_alike hhost q h).exists_eq
    rw [Use.perform, Use.perform, hw, hv]
    exact ⟨rfl, h'⟩
  | aliases => exact ⟨congrArg Reply.aliases h.aliases, h⟩
  | require aliasName =>
    rw [Use.perform, Use.perform]
    rcases h.require aliasName with ⟨e, hw, hv⟩ | ⟨p, q, hw, hv, hpq⟩
    · rw [hw, hv]
      exact ⟨rfl, h⟩
    · rw [hw, hv]
      exact ⟨congrArg (fun link => Reply.connection (.ok link)) hpq, h⟩
  | openAll c =>
    obtain ⟨outcome, w', v', hw, hv, h'⟩ := (h.openAll driver c).exists_eq
    rw [Use.perform, Use.perform, hw, hv]
    exact ⟨rfl, h'⟩
  | closeAll =>
    obtain ⟨outcome, w', v', hw, hv, h'⟩ := (h.closeAll driver).exists_eq
    rw [Use.perform, Use.perform, hw, hv]
    exact ⟨rfl, h'⟩
  | work f =>
    rw [Use.perform, Use.perform, h.links, h.disk]
    exact ⟨rfl, h.setDisk _⟩

/-- **A visit gets the same replies** from hosts with the same handlers in worlds with the same files
and connections. -/
theorem Visit.run_alike (hhost : host.handlers = host'.handlers) (visit : Visit ε α)
    (h : Like w v) : Alike Like (visit.run driver host w) (visit.run driver host' v) := by
  induction visit generalizing w v with
  | leave ending => exact ⟨rfl, h⟩
  | next use rest ih =>
    obtain ⟨reply, w', v', hw, hv, h'⟩ :=
      (Use.perform_alike driver hhost use h).exists_eq
    obtain ⟨replies, w'', v'', hw', hv', h''⟩ := (ih reply h').exists_eq
    rw [Visit.run, Visit.run, hw, hv]
    dsimp only
    rw [hw', hv']
    exact ⟨rfl, h''⟩

end Visit

end DbLifecycle
