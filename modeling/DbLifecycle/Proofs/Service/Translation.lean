import DbLifecycle.Proofs.Service.Reference
import DbLifecycle.Proofs.Service.Visit

/-!
# What the standard handlers change

Two hosts get the same requests, one without handlers and one with the standard handlers. Their
databases stay the same, and so do their responses but for two sorts of failures.

* `Users.Fails`: the failures that an operation on users can end in.
* `Service.fails_of_failure`: a route fails in these ways only, and answers with what the failure
  stands for.
* `Exchange.Translated`: an exchange with a host without handlers, and the one with the other host.
* **`Host.exchanges_translated`**: every exchange is translated, however many there were before.
-/

namespace DbLifecycle

open Http

/-! ## Failures -/

theorem DbError.kind?_of_isConstraint {e : DbError} (h : e.isConstraint = true) :
    e.kind? = some .integrityViolation := by
  cases e with
  | execution cause => exact if_pos h
  | query cause => exact if_pos h
  | _ => cases h

namespace Users

/-- The failures that an operation on users can end in. -/
inductive Fails : Failure → Prop where
  | invalid (e : Invalid) : Fails (.ofInvalid e)
  | unopened (a : String) : Fails (.ofError (.unknownConnection a))
  | missing (m : String) : Fails (.ofError (.notFound m))
  | query (e : SqliteFailure) : Fails (.ofDbError (.query (.sqlite e)))
  | statement (e : SqliteFailure) : Fails (.ofDbError (.execution (.sqlite e)))
  | undecodable : Fails (.ofDbError Users.undecodable)
  | unnumbered : Fails (.ofDbError .noInsertId)

/-- Those that are neither a missing row nor a violated constraint have no kind. -/
theorem Fails.kind?_eq_none {f : Failure} (h : Fails f)
    (hmissing : ∀ m, f ≠ .ofError (.notFound m))
    (hconstraint : ∀ e : DbError, e.isConstraint = true → f ≠ .ofDbError e) : f.kind? = none := by
  have hdatabase : ∀ e : DbError, f = .ofDbError e → (∀ t, e ≠ .recordNotFound t) →
      f.kind? = none := by
    rintro e rfl he
    have hfree : e.isConstraint = false := Bool.eq_false_iff.mpr fun hc => hconstraint e hc rfl
    show e.kind? = none
    cases e <;> simp_all [DbError.kind?]
  cases h with
  | invalid e => rfl
  | unopened a => rfl
  | missing m => exact absurd rfl (hmissing m)
  | query e => exact hdatabase _ rfl (by simp)
  | statement e => exact hdatabase _ rfl (by simp)
  | undecodable => exact hdatabase _ rfl (by simp [Users.undecodable])
  | unnumbered => exact hdatabase _ rfl (by simp)

def Regular {α : Type} (r : Result α) : Prop := ∀ f, r.1 = .error f → Fails f

variable {α β : Type}

theorem Regular.error {f : Failure} (h : Fails f) (w : World) :
    Regular ((.error f, w) : Result α) := by
  intro g hg
  cases hg
  exact h

theorem Regular.ok (v : α) (w : World) : Regular ((.ok v, w) : Result α) := by
  intro f hf
  cases hf

theorem Regular.map {r : Result α} (h : Regular r) (f : α → β) : Regular (mapResult f r) := by
  obtain ⟨result, w⟩ := r
  cases result with
  | ok v => exact .ok (f v) w
  | error e => exact .error (h e rfl) w

theorem checked_regular {check : Except Invalid Unit} {next : World → Result α} {w : World}
    (h : Regular (next w)) : Regular (checked check next w) := by
  cases check with
  | ok u => exact h
  | error e => exact .error (.invalid e) w

theorem withPool_regular {next : Pool → World → Result α} {w : World}
    (h : ∀ pool, Regular (next pool w)) : Regular (withPool next w) := by
  unfold withPool World.require
  cases w.pools.get? defaultAlias with
  | some pool => exact h pool
  | none => exact .error (.unopened _) w

theorem exists_query {p : Pool} {query : Table → α} {d : Disk} {e : DbError}
    (h : p.read query d = .error e) : ∃ f, e = .query (.sqlite f) := by
  unfold Pool.read at h
  split at h
  · exact ⟨_, (Except.error.inj h).symm⟩
  · split at h
    · exact ⟨_, (Except.error.inj h).symm⟩
    · cases h

theorem exists_statement {p : Pool} {statement : Table → Except SqliteFailure (Table × α)}
    {d : Disk} {e : DbError} (h : p.write statement d = .error e) :
    ∃ f, e = .execution (.sqlite f) := by
  unfold Pool.write at h
  split at h
  · exact ⟨_, (Except.error.inj h).symm⟩
  · split at h
    · exact ⟨_, (Except.error.inj h).symm⟩
    · split at h
      · exact ⟨_, (Except.error.inj h).symm⟩
      · split at h
        · exact ⟨_, (Except.error.inj h).symm⟩
        · cases h

theorem find_regular (id : Int) (pool : Pool) (w : World) : Regular (find id pool w) := by
  unfold find
  cases hread : pool.read (·.find? id) w.disk with
  | ok found =>
    cases found with
    | some u => exact .ok u w
    | none => exact .error (.missing _) w
  | error e =>
    obtain ⟨f, rfl⟩ := exists_query hread
    exact .error (.query f) w

theorem change_regular (statement : Table → Except SqliteFailure (Table × α)) (pool : Pool)
    (w : World) : Regular (change statement pool w) := by
  unfold change
  cases hwrite : pool.write statement w.disk with
  | ok written => exact .ok written.2 _
  | error e =>
    obtain ⟨f, rfl⟩ := exists_statement hwrite
    exact .error (.statement f) w

theorem list_regular (w : World) : Regular (list w) := by
  refine withPool_regular fun pool => ?_
  cases hread : pool.read (·.rows) w.disk with
  | ok us =>
    by_cases hall : ∀ v ∈ us, InRange v.id
    · simp only [Except.bind, decoded, if_pos hall]
      exact .ok us w
    · simp only [Except.bind, decoded, if_neg hall]
      exact .error .undecodable w
  | error e =>
    obtain ⟨f, rfl⟩ := exists_query hread
    exact .error (.query f) w

theorem numbered_regular {r : Result User} (h : Regular r) : Regular (numbered r) := by
  obtain ⟨result, w⟩ := r
  cases result with
  | error e => exact h
  | ok user =>
    rw [numbered]
    split
    · exact .ok user w
    · exact .error .unnumbered w

theorem create_regular (u : UserInput) (w : World) : Regular (create u w) :=
  numbered_regular (checked_regular (withPool_regular fun p => change_regular _ p w))

theorem update_regular (id : Int) (u : UserInput) (w : World) : Regular (update id u w) := by
  refine checked_regular (checked_regular (withPool_regular fun pool => ?_))
  have hfind := find_regular id pool w
  generalize find id pool w = r at hfind ⊢
  obtain ⟨found, w'⟩ := r
  cases found with
  | ok v => exact change_regular _ pool w'
  | error e => exact .error (hfind e rfl) w'

/-- What is asked of the users fails in these ways only. -/
theorem perform_regular (d : Demand) (w : World) : Regular (d.perform w) := by
  cases d with
  | list => exact (list_regular w).map _
  | create u => exact (create_regular u w).map _
  | get id => exact (checked_regular (withPool_regular fun p => find_regular id p w)).map _
  | update id u => exact (update_regular id u w).map _
  | delete id => exact (checked_regular (withPool_regular fun p => change_regular _ p w)).map _

end Users

/-- A route fails in these ways only, and answers with what the failure stands for. -/
theorem Service.fails_of_failure {q : Request} {w : World} {f : Failure}
    (h : (handle q w).1.failure = some f) : Users.Fails f ∧ (handle q w).1.response = f.response := by
  rw [handle_eq] at h ⊢
  cases hq : q.demand with
  | error r =>
    rw [hq] at h
    cases h
  | ok d =>
    rw [hq, meet] at h
    rw [meet]
    have hregular := Users.perform_regular d w
    cases hd : (d.perform w).1 with
    | ok found =>
      rw [hd] at h
      cases h
    | error e =>
      rw [hd] at h
      cases h
      exact ⟨hregular f hd, rfl⟩

/-! ## Handlers -/

/-- The response of a host with the standard handlers, where one without any sends that of the
route. -/
theorem Host.responseTo_standard (host : Host) (a : Answer) :
    host.addStandardHandlers.responseTo a =
      match a.failure.bind fun f => f.kind?.map fun k => k.response f.message with
      | some r => r
      | none => a.response := by
  have hhandlers : ∀ k, host.addStandardHandlers.handlers k = some k.standardHandler := by
    intro k
    cases k <;> rfl
  unfold responseTo handlerFor?
  cases a.failure with
  | none => rfl
  | some f =>
    cases hk : f.kind? with
    | none => simp [hk]
    | some k => simp [hk, hhandlers, ErrorKind.standardHandler]

theorem Host.responseTo_bare {host : Host} (h : ∀ k, host.handlers k = none) (a : Answer) :
    host.responseTo a = a.response := by
  have hnone : host.handlerFor? a = none := by
    unfold handlerFor?
    cases a.failure with
    | none => rfl
    | some f => cases f.kind? <;> simp [h]
  rw [responseTo, hnone]

/-! ## Exchanges -/

/-- Why the route of an exchange failed, if it did. -/
def Exchange.failure? (x : Exchange) : Option Failure :=
  (Service.handle x.request x.before).1.failure

/-- An exchange with a host without handlers, and one with the standard handlers. -/
structure Exchange.Translated (x y : Exchange) : Prop where
  request : y.request = x.request
  /-- The databases are the same afterwards. -/
  disk : y.after.disk = x.after.disk
  notFound : ∀ m, x.failure? = some (.ofError (.notFound m)) →
    x.response = x.request.sent (.json 500 (.obj [("error", .str m)])) ∧
    y.response = x.request.sent (.json 404 (.obj [("detail", .str m)]))
  violation : ∀ e, e.isConstraint = true → x.failure? = some (.ofDbError e) →
    x.response = x.request.sent (.json 500 (.obj [("error", .str e.message)])) ∧
    y.response = x.request.sent (.json 422 (.obj [("detail", .arr [.obj [("loc", .arr []),
      ("msg", .str e.message), ("type", .str "IntegrityError")]])]))
  /-- Everything else is answered alike. -/
  same : (∀ m, x.failure? ≠ some (.ofError (.notFound m))) →
    (∀ e, e.isConstraint = true → x.failure? ≠ some (.ofDbError e)) → y.response = x.response
  /-- So is a request without an open connection. -/
  unopened : ∀ a, x.failure? = some (.ofError (.unknownConnection a)) →
    x.response.status = 500 ∧ y.response = x.response
  /-- So is what is not answered as a fault of the server. -/
  faultless : x.response.status ≠ 500 → y.response = x.response

section Exchanges

variable {host : Host} {w v : World}

/-- Both hosts get the same answer from the route, and end in worlds with the same files and
connections. -/
theorem Host.exchange_alike (hbare : ∀ k, host.handlers k = none) (h : w.Like v) (q : Request) :
    let a := (Service.handle q w).1
    (host.exchange w q).after.Like (host.addStandardHandlers.exchange v q).after ∧
    (host.exchange w q).response = q.sent a.response ∧
    (host.addStandardHandlers.exchange v q).response =
      q.sent (host.addStandardHandlers.responseTo a) := by
  intro a
  obtain ⟨hanswer, hlike⟩ := Service.handle_alike q h
  refine ⟨?_, ?_, ?_⟩
  · have hw := host.after_exchange w q
    have hv := host.addStandardHandlers.after_exchange v q
    rw [← Service.handle_eq] at hw hv
    -- the hosts may tell their observers different things, which no later request depends on
    rcases hw with hw | ⟨e, hw⟩ <;> rcases hv with hv | ⟨e', hv⟩ <;> rw [hw, hv]
    · exact hlike
    · exact ⟨hlike.disk, hlike.links⟩
    · exact ⟨hlike.disk, hlike.links⟩
    · exact hlike.log e e'
  · rw [response_exchange, ← Service.handle_eq, responseTo_bare hbare]
  · rw [response_exchange, ← Service.handle_eq, ← hanswer]

theorem Host.exchange_translated (hbare : ∀ k, host.handlers k = none) (h : w.Like v)
    (q : Request) :
    (host.exchange w q).after.Like (host.addStandardHandlers.exchange v q).after ∧
      (host.exchange w q).Translated (host.addStandardHandlers.exchange v q) := by
  obtain ⟨hafter, hx, hy⟩ := host.exchange_alike hbare h q
  have hfails : ∀ {f}, (Service.handle q w).1.failure = some f →
      Users.Fails f ∧ (host.exchange w q).response = q.sent f.response := by
    intro f hf
    obtain ⟨hfails, hresponse⟩ := Service.fails_of_failure hf
    exact ⟨hfails, by rw [hx, hresponse]⟩
  have hhandled : ∀ {f k}, (Service.handle q w).1.failure = some f → f.kind? = some k →
      (host.addStandardHandlers.exchange v q).response = q.sent (k.response f.message) := by
    intro f k hf hk
    rw [hy, responseTo_standard, hf, Option.bind_some, hk, Option.map_some]
  have hsame : (∀ m, (Service.handle q w).1.failure ≠ some (.ofError (.notFound m))) →
      (∀ e : DbError, e.isConstraint = true →
        (Service.handle q w).1.failure ≠ some (.ofDbError e)) →
      (host.addStandardHandlers.exchange v q).response = (host.exchange w q).response := by
    intro hmissing hconstraint
    rw [hx, hy, responseTo_standard]
    cases hf : (Service.handle q w).1.failure with
    | none => rfl
    | some f =>
      have hkind : f.kind? = none := (hfails hf).1.kind?_eq_none
        (fun m hm => hmissing m (hm ▸ hf)) (fun e he hfe => hconstraint e he (hfe ▸ hf))
      rw [Option.bind_some, hkind]
      rfl
  refine ⟨hafter, rfl, hafter.disk.symm, ?_, ?_, hsame, ?_, ?_⟩
  · intro m hf
    exact ⟨(hfails hf).2, hhandled hf rfl⟩
  · intro e he hf
    exact ⟨(hfails hf).2, hhandled hf (e.kind?_of_isConstraint he)⟩
  · intro a hf
    refine ⟨?_, hsame (fun m hm => ?_) (fun e _ he => ?_)⟩
    · rw [(hfails hf).2, Request.status_sent]
      rfl
    · cases hf.symm.trans hm
    · cases hf.symm.trans he
  · intro hstatus
    refine hsame (fun m hf => hstatus ?_) (fun e _ hf => hstatus ?_)
    · rw [(hfails hf).2, Request.status_sent]
      rfl
    · rw [(hfails hf).2, Request.status_sent]
      rfl

/-- **Registering the standard handlers translates the responses to missing rows and violated
constraints, and does nothing else**: hosts that get the same requests, in worlds with the same files
and connections, leave the same databases after each of them. -/
theorem Host.exchanges_translated (hbare : ∀ k, host.handlers k = none) (h : w.Like v)
    (qs : List Request) :
    List.Forall₂ Exchange.Translated (host.exchanges w qs)
      (host.addStandardHandlers.exchanges v qs) := by
  induction qs generalizing w v with
  | nil => exact .nil
  | cons q r ih =>
    obtain ⟨hafter, htranslated⟩ := exchange_translated hbare h q
    exact .cons htranslated (ih hafter)

/-- A missing row and a name that is taken. -/
theorem Host.exchanges_translated_twice :
    let w := World.onFile true .ofAda
    let qs : List Request := [{ method := "GET", path := "/user/2" }, .enter]
    (∀ k, ({} : Host).handlers k = none) ∧ w.Like w ∧
    (Host.exchanges {} w qs).map (·.response.status) = [500, 500] ∧
    ((addStandardHandlers {}).exchanges w qs).map (·.response.status) = [404, 422] ∧
    List.Forall₂ Exchange.Translated (Host.exchanges {} w qs)
      ((addStandardHandlers {}).exchanges w qs) := by
  intro w qs
  have hbare : ∀ k, ({} : Host).handlers k = none := fun _ => rfl
  have hlike : w.Like w := ⟨rfl, rfl⟩
  have hstatus : (Host.exchanges {} w qs).map (·.response.status) = [500, 500] := by
    decide +kernel
  have hstatus' : ((addStandardHandlers {}).exchanges w qs).map (·.response.status) = [404, 422] := by
    decide +kernel
  exact ⟨hbare, hlike, hstatus, hstatus', Host.exchanges_translated hbare hlike qs⟩

end Exchanges

end DbLifecycle
