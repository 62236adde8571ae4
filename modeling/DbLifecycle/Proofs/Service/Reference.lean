import DbLifecycle.Proofs.Database.Directory
import DbLifecycle.Proofs.Service.Demand

/-!
# Answers from a directory

What is asked of the users is answered from a map of their fields by id. Over any sequence of
requests the answers are those of the map, and the table is the map's listing, as long as there is
room for the ids.

* `UserInput.Fits`: the bounds of an input; `UserInput.validate_eq`: they are what is checked.
* `Directory.reply`: what a directory answers, and what becomes of it.
* `Demand.told`: what is told of an answer; users with longer ids cannot be.
* `Demand.perform_mirrors`: a demand on a table gives what is told of its directory's reply.
  `Host.exchange_mirrors`: so does a request to a host.
* `Directory.Room`: no longer id comes up.
* **`Host.follows_directory`**: with room for the ids, requests get the replies, one after another.
-/

namespace DbLifecycle

open Http

/-! ## Bounds -/

/-- The bounds of an input: a user name of 1 to 20 characters, names of at most 50. -/
def UserInput.Fits (u : UserInput) : Prop :=
  (1 ≤ u.username.length ∧ u.username.length ≤ 20) ∧ (∀ s ∈ u.name, s.length ≤ 50) ∧
    ∀ s ∈ u.familyName, s.length ≤ 50

instance (u : UserInput) : Decidable u.Fits := by unfold UserInput.Fits; infer_instance

theorem checkName_eq_nil_iff {field : String} {name : Option String} :
    checkName field name = [] ↔ ∀ s ∈ name, s.length ≤ 50 := by
  cases name with
  | none => exact iff_of_true rfl fun s hs => absurd hs (Option.not_mem_none s)
  | some s =>
    rw [checkName, ite_eq_left_iff]
    simp [maxName]

theorem checkUsername_eq_nil_iff {s : String} :
    checkUsername s = [] ↔ 1 ≤ s.length ∧ s.length ≤ 20 := by
  rw [checkUsername, ite_eq_left_iff]
  simp [maxUsername]

/-- Why an input is refused. -/
def UserInput.refusal (u : UserInput) : Invalid := ⟨u.violations⟩

/-- The bounds are what is checked. -/
theorem UserInput.validate_eq (u : UserInput) :
    u.validate = if u.Fits then .ok () else .error u.refusal := by
  have hfits : u.violations.isEmpty = true ↔ u.Fits := by
    rw [List.isEmpty_iff, violations, List.append_eq_nil_iff, List.append_eq_nil_iff,
      checkName_eq_nil_iff, checkName_eq_nil_iff, checkUsername_eq_nil_iff]
    exact ⟨fun ⟨⟨hf, hn⟩, hu⟩ => ⟨hu, hn, hf⟩, fun ⟨hu, hn, hf⟩ => ⟨⟨hf, hn⟩, hu⟩⟩
  unfold validate
  by_cases h : u.Fits
  · rw [if_pos h, if_pos (hfits.mpr h)]
  · rw [if_neg h, if_neg fun hv => h (hfits.mp hv)]
    rfl

/-- Why an id is refused. -/
def idRefusal (id : Int) : Invalid := ⟨[("user_id", .range 1 id (some "user_id must be positive"))]⟩

/-! ## Replies -/

namespace Failure

/-- Nobody has an id. -/
def missing (id : Int) : Failure := .ofError (.notFound (Users.missingText id))

/-- Somebody else has a user name. -/
def taken : Failure := .ofDbError (.execution (.sqlite (.unique "users.username")))

/-- The connection may not write. -/
def readOnly : Failure := .ofDbError (.execution (.sqlite .readOnly))

end Failure

namespace Directory

/-- What a directory answers to a demand, and what becomes of it. Over a connection that may not
write, what passes all checks fails where it would have to write. -/
def reply (m : Directory) (writable : Bool) : Demand → Except Failure Finding × Directory
  | .list => (.ok (.users m.listing), m)
  | .create u =>
    if ¬ u.Fits then (.error (.ofInvalid u.refusal), m)
    else if ¬ writable then (.error .readOnly, m)
    else if m.isTaken u.username none then (.error .taken, m)
    else (.ok (.user (u.withId (m.last + 1))), m.add u)
  | .get id =>
    if id < 1 then (.error (.ofInvalid (idRefusal id)), m)
    else
      match m.fields id with
      | some u => (.ok (.user (u.withId id)), m)
      | none => (.error (.missing id), m)
  | .update id u =>
    if id < 1 then (.error (.ofInvalid (idRefusal id)), m)
    else if ¬ u.Fits then (.error (.ofInvalid u.refusal), m)
    else if m.fields id = none then (.error (.missing id), m)
    else if ¬ writable then (.error .readOnly, m)
    else if m.isTaken u.username (some id) then (.error .taken, m)
    else (.ok (.user (u.withId id)), m.set id u)
  | .delete id =>
    if id < 1 then (.error (.ofInvalid (idRefusal id)), m)
    else if ¬ writable then (.error .readOnly, m)
    else if m.fields id = none then (.ok (.absent id), m)
    else (.ok (.deleted id), m.remove id)

theorem remove_of_absent {m : Directory} {id : Int} (h : m.fields id = none) : m.remove id = m := by
  refine congrArg (Directory.mk · _) (funext fun k => ?_)
  by_cases hk : k = id
  · rw [if_pos hk, hk, h]
  · rw [if_neg hk]

/-- What was asked of a directory, what it answered, and what became of it. -/
structure Turn where
  demand : Demand
  result : Except Failure Finding
  after : Directory

/-- Demands one after another. -/
def turns (m : Directory) (writable : Bool) : List Demand → List Turn
  | [] => []
  | d :: r => ⟨d, (m.reply writable d).1, (m.reply writable d).2⟩ ::
      (m.reply writable d).2.turns writable r

/-- What is not answered with success changes nothing. -/
theorem reply_eq_self {m : Directory} {writable : Bool} {d : Demand} (host : Host)
    (h : (host.responseTo (.ofResult (m.reply writable d).1)).status ≠ 200) :
    (m.reply writable d).2 = m := by
  cases d with
  | list => rfl
  | create u =>
    rw [reply] at h ⊢
    split_ifs at h ⊢
    all_goals first | rfl | exact absurd rfl h
  | get id =>
    rw [reply]
    split_ifs
    · rfl
    · cases m.fields id <;> rfl
  | update id u =>
    rw [reply] at h ⊢
    split_ifs at h ⊢
    all_goals first | rfl | exact absurd rfl h
  | delete id =>
    rw [reply] at h ⊢
    split_ifs at h ⊢
    all_goals first | rfl | exact absurd rfl h

end Directory

/-! ## Long ids -/

/-- What is told of a reply: nothing of a user that is added, or of any that are listed, if the id
has more than 32 bits. -/
def Demand.told (d : Demand) (result : Except Failure Finding) : Except Failure Finding :=
  match d, result with
  | .list, .ok (.users us) =>
    if ∀ v ∈ us, Users.InRange v.id then result else .error (.ofDbError Users.undecodable)
  | .create _, .ok (.user v) =>
    if Users.InRange v.id then result else .error (.ofDbError .noInsertId)
  | _, _ => result

theorem Demand.eq_ok_of_told {d : Demand} {result : Except Failure Finding} {f : Finding}
    (h : d.told result = .ok f) : result = .ok f := by
  unfold told at h
  split at h
  · split at h
    · exact h
    · cases h
  · split at h
    · exact h
    · cases h
  · exact h

/-- No user that a directory lists meanwhile has an id of more than 32 bits. -/
def Directory.Room (m : Directory) (writable : Bool) (ds : List Demand) : Prop :=
  ∀ y ∈ m.turns writable ds, ∀ v ∈ y.after.listing, Users.InRange v.id

instance (m : Directory) (writable : Bool) (ds : List Demand) : Decidable (m.Room writable ds) := by
  unfold Directory.Room
  infer_instance

/-- If the ids of all users have 32 bits, everything is told. -/
theorem Directory.told_reply {m : Directory} (h : m.Given) {writable : Bool} {d : Demand}
    (hroom : ∀ v ∈ (m.reply writable d).2.listing, Users.InRange v.id) :
    d.told (m.reply writable d).1 = (m.reply writable d).1 := by
  cases d with
  | list => exact if_pos hroom
  | create u =>
    have hnew : u.withId (m.last + 1) ∈ (m.add u).listing :=
      (mem_listing (h.add u)).mpr (if_pos rfl)
    rw [reply] at hroom ⊢
    split_ifs at hroom ⊢
    all_goals first | rfl | exact if_pos (hroom _ hnew)
  | get id => rfl
  | update id u => rfl
  | delete id => rfl

theorem Users.mapResult_numbered (u : UserInput) (r : Users.Result User) :
    mapResult Finding.user (numbered r) =
      ((Demand.create u).told (mapResult Finding.user r).1, (mapResult Finding.user r).2) := by
  obtain ⟨result, w⟩ := r
  cases result with
  | error e => rfl
  | ok v =>
    by_cases hid : InRange v.id <;> simp [mapResult, numbered, Demand.told, Except.map, hid]

/-! ## Tables -/

namespace Users

variable {α : Type}

theorem checked_input (u : UserInput) (next : World → Result α) (w : World) :
    checked u.validate next w = if u.Fits then next w else (.error (.ofInvalid u.refusal), w) := by
  rw [UserInput.validate_eq]
  split <;> rfl

theorem checked_id (id : Int) (next : World → Result α) (w : World) :
    checked (validateId id) next w =
      if id < 1 then (.error (.ofInvalid (idRefusal id)), w) else next w := by
  unfold validateId
  by_cases h : id < 1
  · rw [if_pos h, if_neg (Int.not_le.mpr h)]
    rfl
  · rw [if_neg h, if_pos (Int.not_lt.mp h)]
    rfl

end Users

/-- A result over the table of a pool is one over its directory. -/
structure Mirrors (pool : Pool) (e : Entity) (r : Users.Result Finding)
    (s : Except Failure Finding × Directory) : Prop where
  result : r.1 = s.1
  table : ∃ t, r.2.Serves pool t ∧ t.Ordered ∧ t.entity = e ∧ t.directory = s.2

section Mirrors

variable {w : World} {pool : Pool} {t : Table}

theorem Mirrors.same (hs : w.Serves pool t) (ht : t.Ordered) (result : Except Failure Finding) :
    Mirrors pool t.entity (result, w) (result, t.directory) :=
  ⟨rfl, t, hs, ht, rfl, rfl⟩

theorem Mirrors.change {α : Type} (hs : w.Serves pool t) {f : α → Finding}
    {statement : Table → Except SqliteFailure (Table × α)} {t' : Table} {v : α}
    {m : Directory} (hw : pool.writable = true) (hst : statement t = .ok (t', v))
    (ht' : t'.Ordered ∧ t'.directory = m) (he : t'.entity = t.entity) :
    Mirrors pool t.entity (Users.mapResult f (Users.change statement pool w)) (.ok (f v), m) := by
  obtain ⟨hresult, hserves⟩ := hs.change statement
  have hexec : t.execute pool.writable statement = (.ok v, t') := by
    simp [Table.execute, hw, hst]
  rw [hexec] at hresult hserves
  exact ⟨congrArg (Except.map f) hresult, t', hserves, ht'.1, he, ht'.2⟩

theorem Mirrors.failure {α : Type} (hs : w.Serves pool t) (ht : t.Ordered) (f : α → Finding)
    {statement : Table → Except SqliteFailure (Table × α)} {e : Failure}
    (hexec : t.execute pool.writable statement = (.error e, t)) :
    Mirrors pool t.entity (Users.mapResult f (Users.change statement pool w))
      (.error e, t.directory) := by
  obtain ⟨hresult, hserves⟩ := hs.change statement
  rw [hexec] at hresult hserves
  exact ⟨congrArg (Except.map f) hresult, t, hserves, ht, rfl, rfl⟩

theorem Table.execute_readOnly {α : Type} (hw : ¬ pool.writable = true)
    (statement : Table → Except SqliteFailure (Table × α)) :
    t.execute pool.writable statement = (.error .readOnly, t) := by
  simp [Table.execute, Bool.not_eq_true _ ▸ hw, Failure.readOnly]

/-- Adding a row mirrors the reply, whatever is told of it. -/
theorem insert_mirrors (hs : w.Serves pool t) (ht : t.Ordered) (u : UserInput) :
    Mirrors pool t.entity (Users.mapResult Finding.user
        (Users.checked u.validate (Users.withPool (Users.change (·.insert u))) w))
      (t.directory.reply pool.writable (.create u)) := by
  rw [Users.checked_input, Directory.reply]
  by_cases hfits : u.Fits
  · rw [if_pos hfits, if_neg (not_not.mpr hfits), hs.withPool]
    by_cases hw : pool.writable = true
    · rw [if_neg (not_not.mpr hw), ← ht.isTaken_eq]
      by_cases htaken : t.isTaken u.username none = true
      · rw [if_pos htaken]
        refine .failure hs ht _ ?_
        simp [Table.execute, hw, Table.insert, htaken, Table.duplicate, Failure.taken]
      · rw [if_neg htaken]
        refine .change hs hw ?_ (ht.insert u) rfl
        rw [Table.insert, if_neg htaken]
        rfl
    · rw [if_pos hw]
      exact .failure hs ht _ (Table.execute_readOnly hw _)
  · rw [if_neg hfits, if_pos hfits]
    exact .same hs ht _

theorem create_mirrors (hs : w.Serves pool t) (ht : t.Ordered) (u : UserInput) :
    let reply := t.directory.reply pool.writable (.create u)
    Mirrors pool t.entity ((Demand.create u).perform w)
      ((Demand.create u).told reply.1, reply.2) := by
  obtain ⟨hresult, htable⟩ := insert_mirrors hs ht u
  rw [Demand.perform, Users.create, Users.mapResult_numbered u]
  exact ⟨congrArg (Demand.create u).told hresult, htable⟩

theorem list_mirrors (hs : w.Serves pool t) (ht : t.Ordered) :
    let reply := t.directory.reply pool.writable .list
    Mirrors pool t.entity (Demand.list.perform w) (Demand.list.told reply.1, reply.2) := by
  rw [Demand.perform, Users.list, hs.withPool, Pool.read_of_table hs.found, ht.rows_eq]
  by_cases hall : ∀ v ∈ t.directory.listing, Users.InRange v.id
  · simp only [Directory.reply, Demand.told, Except.bind, Users.decoded, if_pos hall]
    exact .same hs ht _
  · simp only [Directory.reply, Demand.told, Except.bind, Users.decoded, if_neg hall]
    exact .same hs ht _

theorem get_mirrors (hs : w.Serves pool t) (ht : t.Ordered) (id : Int) :
    Mirrors pool t.entity ((Demand.get id).perform w)
      (t.directory.reply pool.writable (.get id)) := by
  rw [Demand.perform, Users.get, Users.checked_id, Directory.reply]
  by_cases hid : id < 1
  · rw [if_pos hid, if_pos hid]
    exact .same hs ht _
  · rw [if_neg hid, if_neg hid, hs.withPool, hs.find]
    cases hf : t.find? id with
    | none =>
      rw [Table.fields_directory_eq_none_iff.mpr hf]
      exact .same hs ht _
    | some v =>
      rw [Table.fields_directory_of_find? hf, ← Table.id_of_find? hf]
      exact .same hs ht _

theorem update_mirrors (hs : w.Serves pool t) (ht : t.Ordered) (id : Int) (u : UserInput) :
    Mirrors pool t.entity ((Demand.update id u).perform w)
      (t.directory.reply pool.writable (.update id u)) := by
  rw [Demand.perform, Users.update, Users.checked_id, Directory.reply]
  by_cases hid : id < 1
  · rw [if_pos hid, if_pos hid]
    exact .same hs ht _
  rw [if_neg hid, if_neg hid, Users.checked_input]
  -- the row is looked up before anything is written: a missing id comes before a name that is taken
  by_cases hfits : u.Fits
  · rw [if_pos hfits, if_neg (not_not.mpr hfits), hs.withPool, hs.find]
    cases hf : t.find? id with
    | none =>
      rw [if_pos (Table.fields_directory_eq_none_iff.mpr hf)]
      exact .same hs ht _
    | some v =>
      have hfields := Table.fields_directory_ne_none hf
      rw [if_neg hfields]
      by_cases hw : pool.writable = true
      · rw [if_neg (not_not.mpr hw), ← ht.isTaken_eq]
        by_cases htaken : t.isTaken u.username (some id) = true
        · rw [if_pos htaken]
          refine .failure hs ht _ ?_
          simp [Table.execute, hw, Table.update, htaken, Table.duplicate, Failure.taken, Except.map]
        · rw [if_neg htaken]
          refine .change hs hw ?_ (ht.update hfields u) rfl
          rw [Table.update, if_neg htaken]
          rfl
      · rw [if_pos hw]
        exact .failure hs ht _ (Table.execute_readOnly hw _)
  · rw [if_neg hfits, if_pos hfits]
    exact .same hs ht _

theorem delete_mirrors (hs : w.Serves pool t) (ht : t.Ordered) (id : Int) :
    Mirrors pool t.entity ((Demand.delete id).perform w)
      (t.directory.reply pool.writable (.delete id)) := by
  rw [Demand.perform, Users.delete, Users.checked_id, Directory.reply]
  by_cases hid : id < 1
  · rw [if_pos hid, if_pos hid]
    exact .same hs ht _
  rw [if_neg hid, if_neg hid, hs.withPool]
  by_cases hw : pool.writable = true
  · rw [if_neg (not_not.mpr hw)]
    cases hf : t.find? id with
    | none =>
      -- the statement is executed, but there is no row for it
      have habsent := Table.fields_directory_eq_none_iff.mpr hf
      rw [if_pos habsent]
      refine .change (v := false) hs hw (by rw [hf]; rfl) ⟨(ht.delete id).1, ?_⟩ rfl
      rw [(ht.delete id).2, Directory.remove_of_absent habsent]
    | some v =>
      have hfields := Table.fields_directory_ne_none hf
      rw [if_neg hfields]
      exact .change (v := true) hs hw (by rw [hf]; rfl) (ht.delete id) rfl
  · rw [if_pos hw]
    exact .failure hs ht _ (Table.execute_readOnly hw _)

/-- A demand on a table gives what is told of its directory's reply. -/
theorem Demand.perform_mirrors (hs : w.Serves pool t) (ht : t.Ordered) (d : Demand) :
    let reply := t.directory.reply pool.writable d
    Mirrors pool t.entity (d.perform w) (d.told reply.1, reply.2) := by
  cases d with
  | list => exact list_mirrors hs ht
  | create u => exact create_mirrors hs ht u
  | get id => exact get_mirrors hs ht id
  | update id u => exact update_mirrors hs ht id u
  | delete id => exact delete_mirrors hs ht id

end Mirrors

/-! ## Hosts -/

/-- An exchange goes as a turn of a directory. -/
structure Exchange.Follows (host : Host) (pool : Pool) (e : Entity) (x : Exchange)
    (y : Directory.Turn) : Prop where
  response : x.response = x.request.sent (host.responseTo (.ofResult y.result))
  /-- The table lists the directory, and gives the next id as it does. -/
  table : ∃ t, x.after.Serves pool t ∧ t.entity = e ∧ t.rows = y.after.listing ∧
    t.rows.Pairwise (·.id < ·.id) ∧ t.lastId = y.after.last
  /-- What is out of bounds is refused as such. -/
  refused : ∀ e, y.result = .error (.ofInvalid e) → x.response.status = 400
  /-- Whatever else is not answered with success changes nothing either. -/
  kept : x.response.status ≠ 200 → ∀ t, x.before.Serves pool t → x.after.Serves pool t

section Host

variable (host : Host) {w : World} {pool : Pool} {t : Table}

/-- A request gets what is told of the reply of the directory, and leaves the table it lists, whether
or not there is room for the ids. -/
theorem Host.exchange_mirrors (hs : w.Serves pool t) (ht : t.Ordered) {q : Request} {d : Demand}
    (hq : q.demand = .ok d) :
    let reply := t.directory.reply pool.writable d
    (host.exchange w q).response = q.sent (host.responseTo (.ofResult (d.told reply.1))) ∧
    ∃ t', (host.exchange w q).after.Serves pool t' ∧ t'.Ordered ∧ t'.entity = t.entity ∧
      t'.directory = reply.2 := by
  intro reply
  obtain ⟨hresult, t', hs', ht', he, hd⟩ := Demand.perform_mirrors hs ht d
  refine ⟨?_, t', ?_, ht', he, hd⟩
  · rw [host.response_exchange, hq, Service.meet, hresult]
  · rcases host.after_exchange w q with h | ⟨e, h⟩
    · rw [h, hq]
      exact hs'
    · rw [h, hq]
      exact hs'.log e

theorem Host.exchange_follows (hs : w.Serves pool t) (ht : t.Ordered) {q : Request} {d : Demand}
    (hq : q.demand = .ok d)
    (hroom : ∀ v ∈ (t.directory.reply pool.writable d).2.listing, Users.InRange v.id) :
    let reply := t.directory.reply pool.writable d
    (∃ t', (host.exchange w q).after.Serves pool t' ∧ t'.Ordered ∧ t'.entity = t.entity ∧
      t'.directory = reply.2) ∧
    Exchange.Follows host pool t.entity (host.exchange w q) ⟨d, reply.1, reply.2⟩ := by
  intro reply
  obtain ⟨hresponse, t', hafter, ht', he, hd⟩ := host.exchange_mirrors hs ht hq
  rw [Directory.told_reply ht.directory_given hroom] at hresponse
  refine ⟨⟨t', hafter, ht', he, hd⟩, hresponse, ⟨t', hafter, he, ?_, ht'.sorted, ?_⟩, ?_, ?_⟩
  · rw [ht'.rows_eq, hd]
  · exact congrArg Directory.last hd
  · intro e hrefused
    rw [hresponse, show reply.1 = _ from hrefused, Request.status_sent]
    rfl
  · intro hstatus t₀ hs₀
    rw [hresponse, Request.status_sent] at hstatus
    have hsame : t' = t := ht.ext ht' he (hd.trans (Directory.reply_eq_self host hstatus))
    rw [← hs.eq hs₀, ← hsame]
    exact hafter

/-- **Requests follow a directory.** Over a table in order, requests that ask something of the users
are answered one after another as the directory of the table answers them, and leave the table it
lists, as long as there is room for the ids. Beyond what the directory's own rules say, a request
that is not answered with success changes nothing. -/
theorem Host.follows_directory (hs : w.Serves pool t) (ht : t.Ordered) {qs : List Request}
    {ds : List Demand} (hq : List.Forall₂ (fun q d => q.demand = .ok d) qs ds)
    (hroom : t.directory.Room pool.writable ds) :
    List.Forall₂ (Exchange.Follows host pool t.entity) (host.exchanges w qs)
      (t.directory.turns pool.writable ds) := by
  induction hq generalizing w t with
  | nil => exact .nil
  | cons hq _ ih =>
    obtain ⟨hfirst, hrest⟩ := List.forall_mem_cons.mp hroom
    obtain ⟨⟨t', hs', ht', he, hd⟩, hfollows⟩ := host.exchange_follows hs ht hq hfirst
    refine .cons hfollows ?_
    rw [← hd] at hrest
    rw [← he, ← hd]
    exact ih hs' ht' hrest

/-! ### On one file -/

/-- A table with one user, before two who are gone. -/
def Table.ofAda : Table := { entity := .users, rows := [⟨1, "ada", none, none⟩], lastId := 3 }

/-- A pool on a file. -/
def Pool.onFile (writable : Bool) : Pool :=
  { place := .file "app.db", writable, options := {}, id := 0 }

/-- A world with a table in a file, and a pool on it. -/
def World.onFile (writable : Bool) (t : Table) : World where
  disk := { files := .singleton "app.db" (.database (Database.empty.setUsers t)) }
  pools := .singleton defaultAlias (.onFile writable)

/-- Adds a user. -/
def Http.Request.enter : Request where
  method := "POST"
  path := "/users"
  body := "\x7b\"username\": \"ada\"\x7d"
  contentType := some "application/json"

/-- Renames the user of an id. -/
def Http.Request.rename : Request where
  method := "PUT"
  path := "/user/1"
  body := "\x7b\"username\": \"eve\"\x7d"
  contentType := some "application/json"

/-- Deletes the user of an id. -/
def Http.Request.erase : Request := { method := "DELETE", path := "/user/1" }

theorem Host.follows_directory_renamed :
    ((World.onFile true .ofAda).Serves (.onFile true) .ofAda ∧ Table.ofAda.Ordered) ∧
    List.Forall₂ (fun q d => q.demand = .ok d) [Request.rename, .erase, .erase]
      [.update 1 ⟨"eve", none, none⟩, .delete 1, .delete 1] ∧
    Table.ofAda.directory.Room true [.update 1 ⟨"eve", none, none⟩, .delete 1, .delete 1] ∧
    List.Forall₂ (Exchange.Follows {} (.onFile true) .users)
      (Host.exchanges {} (.onFile true .ofAda) [.rename, .erase, .erase])
      (Table.ofAda.directory.turns true [.update 1 ⟨"eve", none, none⟩, .delete 1, .delete 1]) := by
  have hs : (World.onFile true .ofAda).Serves (.onFile true) .ofAda := ⟨rfl, rfl⟩
  have ht : Table.ofAda.Ordered := ⟨by decide, by decide, by decide⟩
  have hrename : Request.rename.demand = .ok (.update 1 ⟨"eve", none, none⟩) := by decide +kernel
  have herase : Request.erase.demand = .ok (.delete 1) := by decide +kernel
  have hq : List.Forall₂ (fun q d => q.demand = .ok d) [Request.rename, .erase, .erase]
      [.update 1 ⟨"eve", none, none⟩, .delete 1, .delete 1] :=
    .cons hrename (.cons herase (.cons herase .nil))
  have hroom : Table.ofAda.directory.Room true
      [.update 1 ⟨"eve", none, none⟩, .delete 1, .delete 1] := by decide +kernel
  exact ⟨⟨hs, ht⟩, hq, hroom, Host.follows_directory {} hs ht hq hroom⟩

/-- A table whose only user has the last id but one of 32 bits. -/
def Table.ofBob : Table :=
  { entity := .users, rows := [⟨2147483646, "bob", none, none⟩], lastId := 2147483647 }

/-- A directory that may be written is not what a connection that may not write follows. Nor is its
directory what a table follows that gives out ids beyond those of users. -/
theorem Host.not_follows_written_directory :
    (¬ ∀ (host : Host) (w : World) (pool : Pool) (t : Table) (qs : List Request) (ds : List Demand),
      w.Serves pool t → t.Ordered → (∀ v ∈ t.rows, v.id ≤ 2147483646) →
      List.Forall₂ (fun q d => q.demand = .ok d) qs ds →
      List.Forall₂ (Exchange.Follows host pool t.entity) (host.exchanges w qs)
        (t.directory.turns true ds)) ∧
    ¬ ∀ (host : Host) (w : World) (pool : Pool) (t : Table) (qs : List Request) (ds : List Demand),
      w.Serves pool t → t.Ordered → (∀ v ∈ t.rows, v.id ≤ 2147483646) →
      List.Forall₂ (fun q d => q.demand = .ok d) qs ds →
      List.Forall₂ (Exchange.Follows host pool t.entity) (host.exchanges w qs)
        (t.directory.turns pool.writable ds) := by
  constructor
  · intro h
    have herase : Request.erase.demand = .ok (.delete 1) := by decide +kernel
    have hfollows := h {} (.onFile false .ofAda) (.onFile false) .ofAda [.erase] [.delete 1]
      ⟨rfl, rfl⟩ ⟨by decide, by decide, by decide⟩ (by decide) (.cons herase .nil)
    cases hfollows with
    | cons hfirst _ =>
      have hstatus := congrArg Response.status hfirst.response
      exact absurd hstatus (by decide +kernel)
  · intro h
    have ht : Table.ofBob.Ordered := ⟨by decide, by decide, by decide⟩
    have henter : Request.enter.demand = .ok (.create ⟨"ada", none, none⟩) := by decide +kernel
    have hfollows := h {} (.onFile true .ofBob) (.onFile true) .ofBob [.enter]
      [.create ⟨"ada", none, none⟩] ⟨rfl, rfl⟩ ht (by decide) (.cons henter .nil)
    -- the listing is as long as the last id, so the directory is asked through the table
    have hreply : (Table.ofBob.directory.reply true (.create ⟨"ada", none, none⟩)).1 =
        .ok (.user ⟨2147483648, "ada", none, none⟩) := by
      rw [Directory.reply, if_neg (not_not.mpr (by decide)), if_neg (by decide), ← ht.isTaken_eq]
      rfl
    cases hfollows with
    | cons hfirst _ =>
      have hstatus := congrArg Response.status hfirst.response
      rw [Request.status_sent, show (Pool.onFile true).writable = true from rfl, hreply] at hstatus
      exact absurd hstatus (by decide +kernel)

end Host

end DbLifecycle
