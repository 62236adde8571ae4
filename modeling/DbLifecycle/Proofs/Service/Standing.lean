import DbLifecycle.Proofs.Lifecycle.Limits
import DbLifecycle.Proofs.Lifecycle.Turns
import DbLifecycle.Proofs.Service.Demand

/-!
# Requests at any time

The routes of a service do not know how far its coordinator is: for every request they look for the
default connection in the registry that they share with it. Requests come at any time, before a
start and after an end, between a failed start and the next, and between the hooks of a host.

* `Demand.check`, `Http.Request.refusal`: the response while there is no default connection.
* **`Host.exchange_of_unserved`**: such a request is refused, by every host, and nothing changes.
* `Happening`, `Incident`, `Service.incidents`: what happens to a service, one after another.
* `Happening.perform_of_call`, `Happening.perform_of_no_call`: what becomes of its coordinator.
* **`Service.answered_only_when_ready`**: users are reached only through a coordinator that is
  ready.
-/

namespace DbLifecycle

open Http

/-! ## Without the default connection -/

/-- The checks that come before a connection is looked for. -/
def Demand.check : Demand → Except Invalid Unit
  | .list => .ok ()
  | .create u => u.validate
  | .get id | .delete id => validateId id
  | .update id u => do
    validateId id
    u.validate

/-- The response while there is no default connection: what is invalid is refused for itself. -/
def Http.Request.refusal (q : Request) : Response :=
  q.sent <| match q.demand with
  | .error response => response
  | .ok d =>
    match d.check with
    | .error e => .json 400 (.obj [("error", .str e.message)])
    | .ok _ => .json 500 (.obj [("error", .str "Connection \"default\" is not open")])

theorem Users.checked_eq {α : Type} (check : Except Invalid Unit) (next : World → Users.Result α)
    (w : World) : Users.checked check next w =
      match check with
      | .ok _ => next w
      | .error e => (.error (.ofInvalid e), w) := rfl

theorem World.require_of_notMem {w : World} {a : String} (h : a ∉ w.aliases) :
    w.require a = .error (.unknownConnection a) := by
  unfold require
  cases hget : w.pools.get? a with
  | none => rfl
  | some pool =>
    exact absurd (Dict.contains_iff.mp (by rw [Dict.contains, hget]; rfl)) h

theorem Users.withPool_of_unserved {α : Type} {w : World} (h : defaultAlias ∉ w.aliases)
    (next : Pool → World → Users.Result α) :
    Users.withPool next w = (.error (.ofError (.unknownConnection defaultAlias)), w) := by
  unfold Users.withPool
  rw [World.require_of_notMem h]

/-- Every demand checks its input and then looks for the connection. -/
theorem Demand.perform_of_unserved {w : World} (h : defaultAlias ∉ w.aliases) (d : Demand) :
    d.perform w =
      match d.check with
      | .error e => (.error (.ofInvalid e), w)
      | .ok _ => (.error (.ofError (.unknownConnection defaultAlias)), w) := by
  cases d with
  | list => simp only [perform, check, Users.list, Users.withPool_of_unserved h, Users.mapResult,
      Except.map]
  | create u =>
    simp only [perform, check, Users.create, Users.checked_eq, Users.withPool_of_unserved h]
    cases u.validate <;> rfl
  | get id =>
    simp only [perform, check, Users.get, Users.checked_eq, Users.withPool_of_unserved h]
    cases validateId id <;> rfl
  | update id u =>
    simp only [perform, check, Users.update, Users.checked_eq, Users.withPool_of_unserved h]
    cases validateId id with
    | error e => rfl
    | ok _ => cases u.validate <;> rfl
  | delete id =>
    simp only [perform, check, Users.delete, Users.checked_eq, Users.withPool_of_unserved h]
    cases validateId id <;> rfl

/-- A failure without a kind gets the general response, whatever handlers there are. -/
theorem Host.exchange_of_no_kind {host : Host} {q : Request} {w w' : World} {f : Failure}
    (h : Service.handle q w = (.ofFailure f, w')) (hf : f.kind? = none) :
    (host.exchange w q).response = q.sent f.response ∧ (host.exchange w q).after = w' := by
  have hfor : host.handlerFor? (.ofFailure f) = none := by
    simp only [handlerFor?, Answer.ofFailure, Option.bind_some, hf, Option.bind_none,
      Option.map_none]
  simp only [exchange, respond, h, hfor, responseTo]
  exact ⟨rfl, trivial⟩

/-- **Without the default connection a request is refused**, whatever handlers the host has, and
nothing changes. -/
theorem Host.exchange_of_unserved {w : World} (h : defaultAlias ∉ w.aliases) (host : Host)
    (q : Request) :
    (host.exchange w q).response = q.refusal ∧ (host.exchange w q).after = w := by
  have hhandle := Service.handle_eq q w
  cases hd : q.demand with
  | error response =>
    rw [hd, Service.meet] at hhandle
    simp only [exchange, respond, hhandle, Request.refusal, hd]
    exact ⟨rfl, rfl⟩
  | ok d =>
    rw [hd, Service.meet, d.perform_of_unserved h] at hhandle
    cases hcheck : d.check with
    | error e =>
      simp only [hcheck] at hhandle
      simp only [Request.refusal, hd, hcheck]
      exact exchange_of_no_kind hhandle rfl
    | ok _ =>
      simp only [hcheck] at hhandle
      simp only [Request.refusal, hd, hcheck]
      exact exchange_of_no_kind hhandle rfl

/-- What a part of a request is refused with is no success. -/
theorem status_of_extractId {cs : List Char} {r : Response} (h : extractId cs = .error r) :
    r.status = 400 := by
  unfold extractId at h
  split at h
  · cases h
    rfl
  · split at h
    · cases h
    · cases h
      rfl

theorem status_of_extractUser {q : Request} {r : Response} (h : extractUser q = .error r) :
    r.status ∈ [400, 413, 415, 422] := by
  unfold extractUser at h
  split at h
  · cases h
    simp [Response.plain]
  · split at h
    · cases h
      simp [Response.plain]
    · dsimp only at h
      split at h
      · cases h
      · cases h
        simp [Response.plain]
      · cases h
        simp [Response.plain]

/-- A request that asks nothing of the users succeeds only if it asks for the service's health. -/
theorem Route.status_of_demand {q : Request} {method : String} {route : Route} {r : Response}
    (hroute : route ≠ .health) (h : route.demand q method = .error r) : r.status ≠ 200 := by
  have huser : ∀ {f : UserInput → Demand}, (extractUser q).map f = .error r → r.status ≠ 200 := by
    intro f hmap
    cases hu : extractUser q with
    | ok u => simp [hu, Except.map] at hmap
    | error r' =>
      simp only [hu, Except.map, Except.error.injEq] at hmap
      have hstatus := status_of_extractUser hu
      rw [hmap] at hstatus
      intro h200
      simp [h200] at hstatus
  cases route with
  | health => exact absurd rfl hroute
  | users =>
    rw [demand] at h
    split at h
    · exact huser h
    · cases h
  | user cs =>
    rw [demand] at h
    cases hid : extractId cs with
    | error r' =>
      simp only [hid, Except.bind, Except.error.injEq] at h
      rw [← h, status_of_extractId hid]
      decide
    | ok id =>
      simp only [hid, Except.bind] at h
      split at h
      · exact huser h
      · split at h <;> cases h

/-- **Nothing but the health of the service is told with success** without a connection. -/
theorem Http.Request.status_refusal_ne {q : Request}
    (h : Route.ofPath? (Route.pathOf q.path) ≠ some .health) : q.refusal.status ≠ 200 := by
  unfold refusal
  rw [status_sent]
  cases hd : q.demand with
  | ok d =>
    dsimp only
    cases d.check <;> simp [Response.json]
  | error response =>
    dsimp only
    unfold demand at hd
    cases hroute : Route.ofPath? (Route.pathOf q.path) with
    | none =>
      simp only [hroute, Except.error.injEq] at hd
      rw [← hd]
      decide
    | some route =>
      simp only [hroute] at hd
      split at hd
      · exact route.status_of_demand (fun hh => h (hh ▸ hroute)) hd
      · rw [← Except.error.inj hd]
        simp

/-! ## Requests and pools -/

theorem World.aliases_eq_of_pools {w w' : World} (h : w'.pools = w.pools) :
    w'.aliases = w.aliases := by
  unfold World.aliases
  rw [h]

namespace Users

variable {α : Type} (w : World)

theorem pools_checked (check : Except Invalid Unit) {next : World → Result α}
    (h : (next w).2.pools = w.pools) : (checked check next w).2.pools = w.pools := by
  unfold checked
  split
  · exact h
  · rfl

theorem pools_withPool {next : Pool → World → Result α}
    (h : ∀ pool, (next pool w).2.pools = w.pools) : (withPool next w).2.pools = w.pools := by
  unfold withPool
  split
  · exact h _
  · rfl

theorem pools_change (statement : Table → Except SqliteFailure (Table × α)) (pool : Pool) :
    (change statement pool w).2.pools = w.pools := by
  unfold change
  split <;> rfl

theorem numbered_snd (r : Result User) : (numbered r).2 = r.2 := by
  obtain ⟨result, w⟩ := r
  cases result with
  | error e => rfl
  | ok user =>
    rw [numbered]
    split <;> rfl

theorem find_snd (id : Int) (pool : Pool) : (find id pool w).2 = w := by
  unfold find
  split <;> rfl

end Users

/-- Whatever is asked of the users, no pool is opened or closed. -/
theorem Demand.pools_perform (d : Demand) (w : World) : (d.perform w).2.pools = w.pools := by
  cases d with
  | list =>
    refine Users.pools_withPool w fun pool => ?_
    split <;> rfl
  | create u =>
    show (Users.numbered _).2.pools = _
    rw [Users.numbered_snd]
    exact Users.pools_checked w _ (Users.pools_withPool w (Users.pools_change w _))
  | get id =>
    exact Users.pools_checked w _ (Users.pools_withPool w fun pool => by rw [Users.find_snd])
  | update id u =>
    refine Users.pools_checked w _ (Users.pools_checked w _ (Users.pools_withPool w fun pool => ?_))
    have hfind := Users.find_snd w id pool
    split
    · rename_i found w' hw'
      rw [hw'] at hfind
      rw [Users.pools_change, ← hfind]
    · rename_i e w' hw'
      rw [hw'] at hfind
      rw [← hfind]
  | delete id => exact Users.pools_checked w _ (Users.pools_withPool w (Users.pools_change w _))

theorem Host.aliases_exchange (host : Host) (w : World) (q : Request) :
    (host.exchange w q).after.aliases = w.aliases := by
  have hmeet : (Service.meet q.demand w).2.pools = w.pools := by
    cases q.demand with
    | error response => rfl
    | ok d => exact d.pools_perform w
  refine World.aliases_eq_of_pools ?_
  rcases host.after_exchange w q with h | ⟨e, h⟩
  · rw [h, hmeet]
  · rw [h, World.pools_log, hmeet]

/-- Coordinator and registry agree as long as neither state nor aliases change. -/
theorem Life.Agrees.congr {o : Options} {calls : List Record} {l l' : Life World}
    (h : Life.Agrees o calls l) (hstate : l'.state = l.state)
    (haliases : l'.world.aliases = l.world.aliases) : Life.Agrees o calls l' where
  settled := hstate ▸ h.settled
  aliases_of_ready hr := by
    obtain ⟨s, hs, hstarts, c, hc, hkeys⟩ := h.aliases_of_ready (hstate ▸ hr)
    exact ⟨s, hs, hstarts, c, hc, haliases.trans hkeys⟩
  aliases_of_not_ready hr := haliases.trans (h.aliases_of_not_ready (hstate ▸ hr))
  aliases_sorted := haliases ▸ h.aliases_sorted
  starts := hstate ▸ h.starts
  closes := hstate ▸ h.closes

/-! ## What happens to a service -/

/-- What may happen to a service. -/
inductive Happening where
  /-- Who owns the coordinator calls it. -/
  | call (c : Call)
  /-- The coordinator is handed to the host, which starts it in the background. -/
  | register
  /-- The task in the background has its turn, or the host calls a hook. -/
  | turn (t : Turn)
  | request (q : Request)

namespace Happening

/-- The response if this is a request, and what has become of the service. -/
def perform (r : Resources World) (o : Options) (host : Host) :
    Happening → Background × World → Option Response × Background × World
  | .call c, (b, w) =>
    let (_, _, l) := Life.perform r o c host ⟨b.state, w⟩
    (none, { b with state := l.state }, l.world)
  | .register, (b, w) =>
    let (b, _, w) := Background.register r o b.state host w
    (none, b, w)
  | .turn t, p => (none, (Background.turn r o t p).2)
  | .request q, (b, w) => (some (host.exchange w q).response, b, (host.exchange w q).after)

/-- The call of the coordinator that this makes. The task starts it once, and the first startup
after that makes no call of its own. -/
def call? (pending : Pending) : Happening → Option Call
  | .call c => some c
  | .turn .task => if pending = .scheduled then some .init else none
  | .turn (.hook .startup) =>
    match pending with
    | .finished _ => none
    | _ => some .init
  | .turn (.hook .shutdown) => some .close
  | .register | .request _ => none

variable {r : Resources World} {o : Options} {host : Host} {h : Happening} {b : Background}
  {w : World}

/-- **The coordinator becomes what its call makes of it.** -/
theorem perform_of_call {c : Call} (hc : h.call? b.pending = some c) :
    (h.perform r o host (b, w)).2.1.state = (Life.perform r o c host ⟨b.state, w⟩).2.2.state ∧
      (h.perform r o host (b, w)).2.2 = (Life.perform r o c host ⟨b.state, w⟩).2.2.world := by
  obtain ⟨state, pending⟩ := b
  cases h with
  | call c' =>
    cases hc
    exact ⟨rfl, rfl⟩
  | register => cases hc
  | request q => cases hc
  | turn t =>
    cases t with
    | task =>
      cases pending with
      | scheduled =>
        cases hc
        exact ⟨rfl, rfl⟩
      | finished result => cases hc
      | taken => cases hc
    | hook hook =>
      cases hook with
      | startup =>
        cases pending with
        | scheduled =>
          cases hc
          exact ⟨rfl, rfl⟩
        | finished result => cases hc
        | taken =>
          cases hc
          exact ⟨rfl, rfl⟩
      | shutdown =>
        cases hc
        exact ⟨rfl, rfl⟩

/-- **Without a call, coordinator and pools stay as they are.** -/
theorem perform_of_no_call {driver : Driver} {catalog : Catalog} (hc : h.call? b.pending = none) :
    (h.perform (World.resources driver catalog) o host (b, w)).2.1.state = b.state ∧
      (h.perform (World.resources driver catalog) o host (b, w)).2.2.aliases = w.aliases := by
  obtain ⟨state, pending⟩ := b
  cases h with
  | call c => cases hc
  | register =>
    simp only [perform, Background.register]
    cases o.addHandlers <;> exact ⟨trivial, rfl⟩
  | request q => exact ⟨rfl, host.aliases_exchange w q⟩
  | turn t =>
    cases t with
    | task =>
      cases pending with
      | scheduled => cases hc
      | finished result => exact ⟨rfl, rfl⟩
      | taken => exact ⟨rfl, rfl⟩
    | hook hook =>
      cases hook with
      | startup =>
        cases pending with
        | scheduled => cases hc
        | finished result => exact ⟨rfl, rfl⟩
        | taken => cases hc
      | shutdown => cases hc

end Happening

/-! ## Incidents -/

/-- Something that happens, and what it meets: the databases, the files, and the handlers of the
host. -/
structure Occasion where
  driver : Driver
  disk : Disk
  host : Host
  happening : Happening

/-- Something that has happened to a service: to its coordinator, and to what that shares with the
routes. -/
structure Incident where
  occasion : Occasion
  before : Background × World
  response : Option Response
  after : Background × World

namespace Service

open Life

variable (catalog : Catalog) (o : Options)

/-- Something happens. -/
def incident (p : Background × World) (x : Occasion) : Incident :=
  let p := (p.1, { p.2 with disk := x.disk })
  let (response, after) :=
    x.happening.perform (World.resources x.driver catalog) o x.host p
  ⟨x, p, response, after⟩

/-- What happens, one after another; before each, files come and go. -/
def incidents (p : Background × World) : List Occasion → List Incident
  | [] => []
  | x :: rest =>
    let i := incident catalog o p x
    i :: incidents i.after rest

/-- The call of the coordinator that was made, and what came of it. -/
def call? (i : Incident) : Option Record :=
  (i.occasion.happening.call? i.before.1.pending).map fun c =>
    record catalog o ⟨i.before.1.state, i.before.2⟩
      ⟨i.occasion.driver, i.occasion.disk, c, i.occasion.host⟩

/-- The calls that were made, one after another. -/
def calls (is : List Incident) : List Record := is.filterMap (call? catalog o)

theorem calls_cons (i : Incident) (is : List Incident) :
    calls catalog o (i :: is) = (call? catalog o i).toList ++ calls catalog o is := by
  rw [calls, List.filterMap_cons]
  cases call? catalog o i <;> rfl

/-- A call has panicked, or coordinator and registry agree. -/
def Sound (calls : List Record) (p : Background × World) : Prop :=
  (∃ x ∈ calls, x.outcome.isPanic = true) ∨ Agrees o calls ⟨p.1.state, p.2⟩

variable {catalog o} {calls : List Record} {p : Background × World} {x : Occasion}

/-- **Whatever happens, coordinator and registry go on to agree**, unless a call panics. -/
theorem Sound.incident (h : Sound o calls p) (x : Occasion) :
    Sound o (calls ++ (call? catalog o (Service.incident catalog o p x)).toList)
      (Service.incident catalog o p x).after := by
  obtain ⟨b, w⟩ := p
  cases hc : x.happening.call? b.pending with
  | none =>
    have hcall : call? catalog o (Service.incident catalog o (b, w) x) = none := by
      rw [call?]
      exact Option.map_eq_none_iff.mpr hc
    have hkept : (Service.incident catalog o (b, w) x).after.1.state = b.state ∧
        (Service.incident catalog o (b, w) x).after.2.aliases = w.aliases :=
      Happening.perform_of_no_call hc
    rw [hcall, Option.toList_none, List.append_nil]
    exact h.imp_right fun h => h.congr hkept.1 hkept.2
  | some c =>
    have hcall : call? catalog o (Service.incident catalog o (b, w) x) = some (record catalog o
        ⟨b.state, { w with disk := x.disk }⟩ ⟨x.driver, x.disk, c, x.host⟩) := by
      rw [call?]
      exact Option.map_eq_some_iff.mpr ⟨c, hc, rfl⟩
    have hmade : (Service.incident catalog o (b, w) x).after.1.state =
          (record catalog o ⟨b.state, { w with disk := x.disk }⟩
            ⟨x.driver, x.disk, c, x.host⟩).after.state ∧
        (Service.incident catalog o (b, w) x).after.2 =
          (record catalog o ⟨b.state, { w with disk := x.disk }⟩
            ⟨x.driver, x.disk, c, x.host⟩).after.world :=
      Happening.perform_of_call hc
    rw [hcall, Option.toList_some]
    rcases h with ⟨y, hy, hpanic⟩ | h
    · exact .inl ⟨y, List.mem_append_left _ hy, hpanic⟩
    · cases hpanic : (record catalog o ⟨b.state, { w with disk := x.disk }⟩
        ⟨x.driver, x.disk, c, x.host⟩).outcome.isPanic with
      | true => exact .inl ⟨_, by simp, hpanic⟩
      | false =>
        have hagrees := (Agrees.record (h.withDisk x.disk) ⟨x.driver, x.disk, c, x.host⟩ hpanic).1
        exact .inr (hagrees.congr hmade.1 (congrArg World.aliases hmade.2))

/-- Every incident happens to a service that is sound. -/
theorem Sound.incidents {xs : List Occasion} (h : Sound o calls p) :
    ∀ pre i post, Service.incidents catalog o p xs = pre ++ i :: post →
      ∃ p' x, i = Service.incident catalog o p' x ∧
        Sound o (calls ++ Service.calls catalog o pre) p' := by
  induction xs generalizing calls p with
  | nil =>
    intro pre i post hi
    cases pre <;> cases hi
  | cons x rest ih =>
    rw [Service.incidents]
    intro pre i post hi
    cases pre with
    | nil =>
      cases hi
      exact ⟨p, x, rfl, by rwa [Service.calls, List.filterMap_nil, List.append_nil]⟩
    | cons first pre =>
      obtain ⟨rfl, htail⟩ := List.cons_eq_cons.mp hi
      obtain ⟨p', y, hy, hsound⟩ := ih (h.incident x) pre i post htail
      exact ⟨p', y, hy, by rwa [calls_cons, ← List.append_assoc]⟩

/-- Every call that was made met its files and its driver, and what came of it is its record. -/
theorem record_of_mem_calls {is : List Incident} {y : Record}
    (hy : y ∈ Service.calls catalog o is) : y = record catalog o y.before y.moment := by
  obtain ⟨i, -, hi⟩ := List.mem_filterMap.mp hy
  obtain ⟨c, -, rfl⟩ := Option.map_eq_some_iff.mp hi
  rfl

/-- A call that panicked was a start beyond its limits, or its driver panics over others. -/
theorem beyond_limits_of_panic {is : List Incident} {y : Record}
    (hy : y ∈ Service.calls catalog o is) (hpanic : y.outcome.isPanic = true) :
    ¬ (y.moment.driver.Guarded ∧
      ∀ c, o.load y.before.world.disk.text? = .ok c → c.Feasible) := by
  rintro ⟨hd, hc⟩
  have hnp := perform_isPanic_of_feasible hd catalog hc y.moment.call y.moment.host
  rw [record_of_mem_calls hy] at hpanic
  exact absurd (hnp.symm.trans hpanic) (by decide)

/-- **Users are reached only through a coordinator that is ready.** A coordinator is called, handed
to a host, started in its background and called by its hooks, and meanwhile requests come to hosts
with whatever handlers; before each of these files come and go, and at each the databases answer as
they like. A request while there is no default connection is refused: its response depends on
nothing but the request, and nothing changes. And there is such a connection only if the coordinator
is ready, and was started from a configuration that has one, unless a call has panicked before: a
start over limits that no pool can have. -/
theorem answered_only_when_ready (catalog : Catalog) (o : Options) (b : Background) (w : World)
    (hb : b.state = .unstarted) (hw : w.aliases = []) (xs : List Occasion)
    (pre post : List Incident) (i : Incident)
    (hi : incidents catalog o (b, w) xs = pre ++ i :: post) (q : Request)
    (hq : i.occasion.happening = .request q) :
    (defaultAlias ∉ i.before.2.aliases → i.response = some q.refusal ∧ i.after = i.before) ∧
    (Route.ofPath? (Route.pathOf q.path) ≠ some .health → q.refusal.status ≠ 200) ∧
    (defaultAlias ∈ i.before.2.aliases →
      (i.before.1.state = .ready ∧ ∃ y ∈ Service.calls catalog o pre, y.starts ∧
        ∃ c, o.load y.before.world.disk.text? = .ok c ∧ i.before.2.aliases = c.connections.keys) ∨
      ∃ y ∈ Service.calls catalog o pre, y.outcome.isPanic = true ∧
        ¬ (y.moment.driver.Guarded ∧
          ∀ c, o.load y.before.world.disk.text? = .ok c → c.Feasible)) := by
  have hstart : Sound o [] (b, w) := .inr (by rw [hb]; exact .initial hw)
  obtain ⟨p, x, rfl, hsound⟩ := hstart.incidents pre i post hi
  rw [List.nil_append] at hsound
  refine ⟨fun hunserved => ?_, Request.status_refusal_ne, fun hserved => ?_⟩
  · have hx : x.happening = .request q := hq
    obtain ⟨hresponse, hafter⟩ := x.host.exchange_of_unserved hunserved q
    simp only [Service.incident, hx, Happening.perform] at hresponse hafter ⊢
    rw [hresponse, hafter]
    exact ⟨rfl, rfl⟩
  · rcases hsound with ⟨y, hy, hpanic⟩ | hagrees
    · exact .inr ⟨y, hy, hpanic, beyond_limits_of_panic hy hpanic⟩
    · by_cases hready : p.1.state = .ready
      · exact .inl ⟨hready, hagrees.aliases_of_ready hready⟩
      · have hnil : p.2.aliases = [] := hagrees.aliases_of_not_ready hready
        rw [show (Service.incident catalog o p x).before.2.aliases = [] from hnil] at hserved
        cases hserved

/-- A service that is asked before its start, while it runs, and after its end. -/
def visited : List Occasion :=
  [⟨.standard, {}, {}, .request ⟨"GET", "/users", "", none⟩⟩,
    ⟨.standard, {}, {}, .register⟩, ⟨.standard, {}, {}, .turn (.hook .startup)⟩,
    ⟨.standard, {}, {}, .turn (.hook .shutdown)⟩,
    ⟨.standard, {}, {}, .request ⟨"GET", "/user/0", "", none⟩⟩]

/-- After the end, an id that is no id is refused for itself. -/
theorem answered_only_when_ready_visited :
    ({} : Background).state = .unstarted ∧ ({} : World).aliases = [] ∧
    ∃ pre i, incidents .standard .oneFile ({}, {}) visited = pre ++ [i] ∧
      i.occasion.happening = .request ⟨"GET", "/user/0", "", none⟩ ∧
      i.response = some (Request.refusal ⟨"GET", "/user/0", "", none⟩) := by
  refine ⟨rfl, rfl, [_, _, _, _], _, rfl, rfl, ?_⟩
  exact ((answered_only_when_ready .standard .oneFile {} {} rfl rfl visited [_, _, _, _] [] _ rfl
    _ rfl).1 (by decide)).1

/-- The files that a service with one database leaves. -/
def servedDisk : Disk :=
  (Life.init (World.resources .standard .standard) .oneFile ⟨.unstarted, {}⟩).2.world.disk

/-- A start gets stuck at its second pool, and requests reach the users through the first. -/
theorem answered_while_initializing :
    (incidents .standard (.twoFiles { maxConnections := some 0 }) ({}, {})
      [⟨.standard, servedDisk, {}, .call .init⟩,
        ⟨.standard, servedDisk, {}, .request ⟨"GET", "/users", "", none⟩⟩]).map
      (fun i => (i.before.1.state, i.response.map (·.status))) =
    [(.unstarted, none), (.initializing, some 200)] := by
  decide

end Service

end DbLifecycle
