import DbLifecycle.Proofs.Service.Reference

/-!
# Chronicles of a table

What holds of a table of users that was empty once, whatever has been requested since.

* `Deed`: what was asked of the users with success; `Exchange.deed?`: that of an exchange.
* `lastWritten`, `removedIds`: what a list of deeds tells about an id.
* `Directory.Accounts`: a directory is what a list of deeds has made of an empty one.
  `Directory.Accounts.reply`, `Directory.Accounts.untold`: every demand keeps this, whether or not
  its reply is told.
* `Table.Sound`: bounds, names and ids of the rows of a table.
* **`Host.chronicle`**: after every request, to the routes or to none, the table is sound, no id is
  given again, and what is returned is what was written last.
-/

namespace DbLifecycle

open Http

/-! ## Deeds -/

/-- What was asked of the users with success, and what came of it. -/
structure Deed where
  demand : Demand
  finding : Finding
  deriving DecidableEq

namespace Deed

/-- The id that gets fields by a creation or an update, and the fields. -/
def written? : Deed → Option (Int × UserInput)
  | ⟨.create u, .user v⟩ => some (v.id, u)
  | ⟨.update id u, .user _⟩ => some (id, u)
  | _ => none

/-- The id whose user is removed. -/
def removed? : Deed → Option Int
  | ⟨.delete _, .deleted id⟩ => some id
  | _ => none

/-- The users that are returned. -/
def returned (x : Deed) : List User :=
  match x.finding with
  | .users us => us
  | .user u => [u]
  | _ => []

end Deed

/-- The fields that were last written for an id. -/
def lastWritten (ds : List Deed) (id : Int) : Option UserInput :=
  (((ds.filterMap Deed.written?).filter (·.1 = id)).map (·.2)).getLast?

/-- The ids whose users were removed. -/
def removedIds (ds : List Deed) : List Int := ds.filterMap Deed.removed?

/-- What was asked of the users in an exchange, if it was and succeeded. -/
def Exchange.deed? (x : Exchange) : Option Deed :=
  match x.request.demand with
  | .error _ => none
  | .ok d =>
    match (d.perform x.before).1 with
    | .error _ => none
    | .ok f => some ⟨d, f⟩

theorem lastWritten_concat (ds : List Deed) (x : Deed) (id : Int) :
    lastWritten (ds ++ [x]) id =
      match x.written? with
      | some (k, u) => if k = id then some u else lastWritten ds id
      | none => lastWritten ds id := by
  unfold lastWritten
  cases hx : x.written? with
  | none => simp [hx]
  | some e =>
    by_cases hid : e.1 = id
    · simp [hx, hid]
    · simp [hx, hid]

theorem mem_removedIds_concat {ds : List Deed} {x : Deed} {id : Int} :
    id ∈ removedIds (ds ++ [x]) ↔ id ∈ removedIds ds ∨ x.removed? = some id := by
  simp [removedIds]

/-! ## Directories -/

namespace Directory

/-- A directory is what some deeds have made of an empty one. -/
structure Accounts (m : Directory) (ds : List Deed) : Prop where
  given : m.Given
  fits : ∀ {id u}, m.fields id = some u → u.Fits
  /-- Nobody shares a user name. -/
  distinct : ∀ {id id' u u'}, m.fields id = some u → m.fields id' = some u' →
    u.username = u'.username → id = id'
  /-- A longer id may be in use without a deed that tells it. -/
  written : ∀ {id u}, Users.InRange id → m.fields id = some u → lastWritten ds id = some u
  /-- An id that was removed was given before, so the next one is another. -/
  removed : ∀ {id}, id ∈ removedIds ds → id ≤ m.last ∧ m.fields id = none

namespace Accounts

variable {m : Directory} {ds : List Deed}

theorem empty : Accounts ⟨fun _ => none, 0⟩ [] where
  given := ⟨le_refl 0, fun _ h => absurd h Bool.false_ne_true⟩
  fits h := nomatch h
  distinct h := nomatch h
  written _ h := nomatch h
  removed h := nomatch h

/-- Deeds that neither write nor remove change nothing. -/
theorem concat (h : m.Accounts ds) {x : Deed} (hw : x.written? = none) (hr : x.removed? = none) :
    m.Accounts (ds ++ [x]) where
  given := h.given
  fits := h.fits
  distinct := h.distinct
  written hid hu := by
    rw [lastWritten_concat, hw]
    exact h.written hid hu
  removed hid := by
    rw [mem_removedIds_concat, hr, or_iff_left (Option.some_ne_none _).symm] at hid
    exact h.removed hid

/-- The fields of an id are set, and a user name is taken only if that id has it. The deeds tell so
unless the id is too long. -/
theorem set (h : m.Accounts ds) {ds' : List Deed} {id : Int} {u : UserInput} {last : Int}
    (hfits : u.Fits) (hfree : ¬ m.isTaken u.username (some id) = true)
    (hw : ∀ k, Users.InRange k →
      lastWritten ds' k = if k = id then some u else lastWritten ds k)
    (hr : ∀ k, k ∈ removedIds ds' ↔ k ∈ removedIds ds)
    (hid : id ∉ removedIds ds) (hlast : m.last ≤ last)
    (hgiven : Given { m.set id u with last }) :
    Accounts { m.set id u with last } ds' := by
  -- nobody else has the name, so only the id itself can be found under it
  have hothers : ∀ {k v}, k ≠ id → m.fields k = some v → v.username ≠ u.username := by
    intro k v hk hv hname
    apply hfree
    rw [isTaken_iff h.given]
    exact ⟨k, v, hv, hname, fun hki => hk (Option.some.inj hki)⟩
  have hfields : ∀ k, (m.set id u).fields k = if k = id then some u else m.fields k := fun _ => rfl
  refine ⟨hgiven, ?_, ?_, ?_, ?_⟩
  · intro k v hv
    rw [hfields] at hv
    split at hv
    · rwa [← Option.some.inj hv]
    · exact h.fits hv
  · intro k k' v v' hv hv' hname
    rw [hfields] at hv hv'
    split at hv <;> split at hv'
    · omega
    · rename_i hk hk'
      rw [← Option.some.inj hv] at hname
      exact absurd hname.symm (hothers hk' hv')
    · rename_i hk hk'
      rw [← Option.some.inj hv'] at hname
      exact absurd hname (hothers hk hv)
    · exact h.distinct hv hv' hname
  · intro k v hrange hv
    rw [hfields] at hv
    rw [hw k hrange]
    split at hv
    · rename_i hk
      rw [if_pos hk, hv]
    · rename_i hk
      rw [if_neg hk]
      exact h.written hrange hv
  · intro k hk
    rw [hr] at hk
    obtain ⟨hgone, hnone⟩ := h.removed hk
    have hki : k ≠ id := fun hki => hid (hki ▸ hk)
    refine ⟨le_trans hgone hlast, ?_⟩
    rw [hfields, if_neg hki, hnone]

/-- The deed that sets the fields of an id tells so. -/
theorem set_concat (h : m.Accounts ds) {x : Deed} {id : Int} {u : UserInput} {last : Int}
    (hfits : u.Fits) (hfree : ¬ m.isTaken u.username (some id) = true)
    (hw : x.written? = some (id, u)) (hr : x.removed? = none)
    (hid : id ∉ removedIds ds) (hlast : m.last ≤ last)
    (hgiven : Given { m.set id u with last }) :
    Accounts { m.set id u with last } (ds ++ [x]) := by
  refine h.set hfits hfree (fun k _ => ?_) (fun k => ?_) hid hlast hgiven
  · rw [lastWritten_concat, hw]
    exact if_congr eq_comm rfl rfl
  · rw [mem_removedIds_concat, hr, or_iff_left (Option.some_ne_none _).symm]

/-- What was removed had been given, and the next id has not been. -/
theorem next_notMem (h : m.Accounts ds) : m.last + 1 ∉ removedIds ds := by
  intro hid
  have := (h.removed hid).1
  omega

theorem next_not_isTaken (h : m.Accounts ds) {name : String}
    (hfree : ¬ m.isTaken name none = true) : ¬ m.isTaken name (some (m.last + 1)) = true := by
  intro htaken
  obtain ⟨id, v, hv, hname, -⟩ := (isTaken_iff h.given).mp htaken
  exact hfree ((isTaken_iff h.given).mpr ⟨id, v, hv, hname, Option.some_ne_none id⟩)

theorem remove (h : m.Accounts ds) {x : Deed} {id : Int} (hid : m.fields id ≠ none)
    (hw : x.written? = none) (hr : x.removed? = some id) :
    (m.remove id).Accounts (ds ++ [x]) := by
  have hkept : ∀ {k v}, (m.remove id).fields k = some v → k ≠ id ∧ m.fields k = some v := by
    intro k v hv
    change (if k = id then none else m.fields k) = some v at hv
    split at hv
    · exact absurd hv.symm (Option.some_ne_none v)
    · exact ⟨‹_›, hv⟩
  refine ⟨h.given.remove id, fun hv => h.fits (hkept hv).2, fun hv hv' => ?_, ?_, ?_⟩
  · exact h.distinct (hkept hv).2 (hkept hv').2
  · intro k v hrange hv
    rw [lastWritten_concat, hw]
    exact h.written hrange (hkept hv).2
  · intro k hk
    show k ≤ m.last ∧ (if k = id then none else m.fields k) = none
    rw [mem_removedIds_concat, hr, Option.some.injEq] at hk
    by_cases hki : k = id
    · rw [if_pos hki, hki]
      exact ⟨(h.given.fields id (Option.isSome_iff_ne_none.mpr hid)).2, rfl⟩
    · rw [if_neg hki]
      exact h.removed (hk.resolve_right (Ne.symm hki))

/-- A demand that succeeds is one more deed, and what it returns is what the directory has. -/
theorem reply (h : m.Accounts ds) {writable : Bool} {d : Demand} {f : Finding}
    (hf : (m.reply writable d).1 = .ok f) :
    (m.reply writable d).2.Accounts (ds ++ [⟨d, f⟩]) ∧
      ∀ v ∈ Deed.returned ⟨d, f⟩, (m.reply writable d).2.fields v.id = some v.input := by
  cases d with
  | list =>
    cases hf
    exact ⟨h.concat rfl rfl, fun v hv => (mem_listing h.given).mp hv⟩
  | create u =>
    rw [Directory.reply] at hf ⊢
    split_ifs at hf ⊢ with hfits hw hfree
    cases hf
    refine ⟨h.set_concat hfits (h.next_not_isTaken hfree) rfl rfl h.next_notMem (by omega)
      (h.given.add u), ?_⟩
    intro v hv
    cases List.mem_singleton.mp hv
    exact if_pos rfl
  | get id =>
    rw [Directory.reply] at hf ⊢
    split_ifs at hf ⊢ with hid
    cases hu : m.fields id with
    | none =>
      rw [hu] at hf
      cases hf
    | some u =>
      rw [hu] at hf
      cases hf
      refine ⟨h.concat rfl rfl, fun v hv => ?_⟩
      cases List.mem_singleton.mp hv
      exact hu
  | update id u =>
    rw [Directory.reply] at hf ⊢
    split_ifs at hf ⊢ with hid hfits hsome hw hfree
    cases hf
    have hold : id ∉ removedIds ds := fun hgone => hsome (h.removed hgone).2
    have hgiven := h.given.fields id (Option.isSome_iff_ne_none.mpr hsome)
    refine ⟨h.set_concat hfits hfree rfl rfl hold (le_refl _) (h.given.set hgiven u), ?_⟩
    intro v hv
    cases List.mem_singleton.mp hv
    exact if_pos rfl
  | delete id =>
    rw [Directory.reply] at hf ⊢
    split_ifs at hf ⊢ with hid hw hnone
    · cases hf
      exact ⟨h.concat rfl rfl, fun v hv => absurd hv List.not_mem_nil⟩
    · cases hf
      exact ⟨h.remove hnone rfl rfl, fun v hv => absurd hv List.not_mem_nil⟩

/-- A user that is added under a longer id is no deed. -/
theorem add_long (h : m.Accounts ds) {u : UserInput} (hfits : u.Fits)
    (hfree : ¬ m.isTaken u.username none = true) (hlong : ¬ Users.InRange (m.last + 1)) :
    (m.add u).Accounts ds := by
  refine h.set hfits (h.next_not_isTaken hfree) (fun k hk => ?_) (fun _ => Iff.rfl) h.next_notMem
    (by omega) (h.given.add u)
  have hne : k ≠ m.last + 1 := by
    rintro rfl
    exact hlong hk
  rw [if_neg hne]

end Accounts

/-- A demand that fails changes nothing. -/
theorem reply_of_error {m : Directory} {writable : Bool} {d : Demand} {e : Failure}
    (he : (m.reply writable d).1 = .error e) : (m.reply writable d).2 = m := by
  refine reply_eq_self {} ?_
  have hnone : Host.handlerFor? {} (.ofFailure e) = none := by
    show (e.kind?.bind fun _ => none).map _ = none
    rw [Option.bind_fun_none, Option.map_none]
  rw [he, Answer.ofResult, Host.responseTo, hnone]
  exact e.status_response_ne

/-- A demand that is not told to have succeeded is no deed. -/
theorem Accounts.untold {m : Directory} {ds : List Deed} (h : m.Accounts ds) {writable : Bool}
    {d : Demand} {e : Failure} (he : d.told (m.reply writable d).1 = .error e) :
    (m.reply writable d).2.Accounts ds := by
  cases hreply : (m.reply writable d).1 with
  | error e' =>
    rw [reply_of_error hreply]
    exact h
  | ok f =>
    rw [hreply] at he
    cases d with
    | list => exact h
    | create u =>
      rw [Directory.reply] at hreply ⊢
      split_ifs at hreply ⊢ with hfits hw hfree
      cases hreply
      exact h.add_long hfits hfree fun hrange => by simp [Demand.told, hrange] at he
    | get id => cases he
    | update id u => cases he
    | delete id => cases he

/-- Who is told of has an id of 32 bits, if who is asked for has. -/
theorem inRange_of_told {m : Directory} {writable : Bool} {d : Demand} {f : Finding}
    (hid : ∀ id ∈ d.id?, Users.InRange id) (hf : d.told (m.reply writable d).1 = .ok f) :
    ∀ v ∈ Deed.returned ⟨d, f⟩, Users.InRange v.id := by
  intro v hv
  have hreply : (m.reply writable d).1 = .ok f := Demand.eq_ok_of_told hf
  cases d with
  | list =>
    cases hreply
    by_cases hall : ∀ v ∈ m.listing, Users.InRange v.id
    · exact hall v hv
    · simp only [reply, Demand.told, if_neg hall] at hf
      cases hf
  | create u =>
    rw [reply] at hf hreply
    split_ifs at hf hreply
    cases hreply
    rw [List.mem_singleton.mp hv]
    by_cases hnew : Users.InRange (u.withId (m.last + 1)).id
    · exact hnew
    · simp only [Demand.told, if_neg hnew] at hf
      cases hf
  | get id =>
    rw [reply] at hreply
    split_ifs at hreply
    cases hu : m.fields id with
    | none =>
      rw [hu] at hreply
      cases hreply
    | some u =>
      rw [hu] at hreply
      cases hreply
      rw [List.mem_singleton.mp hv]
      exact hid id rfl
  | update id u =>
    rw [reply] at hreply
    split_ifs at hreply
    cases hreply
    rw [List.mem_singleton.mp hv]
    exact hid id rfl
  | delete id =>
    rw [reply] at hreply
    split_ifs at hreply <;> cases hreply <;> cases hv

end Directory

/-! ## Tables -/

/-- Bounds, names and ids of the rows of a table. -/
structure Table.Sound (t : Table) : Prop where
  usernames : (t.rows.map (·.username)).Nodup
  fits : ∀ v ∈ t.rows, v.input.Fits
  ids : (t.rows.map (·.id)).Nodup
  positive : ∀ v ∈ t.rows, 1 ≤ v.id

theorem Table.Ordered.sound {t : Table} (ht : t.Ordered) {ds : List Deed}
    (h : t.directory.Accounts ds) : t.Sound := by
  have hids : (t.rows.map (·.id)).Nodup := by
    rw [List.nodup_iff_pairwise_ne, List.pairwise_map]
    exact ht.sorted.imp Int.ne_of_lt
  have hnames : (t.rows.map (·.username)).Nodup := by
    refine List.Nodup.map_on ?_ (List.Nodup.of_map _ hids)
    intro v hv v' hv' hname
    exact ht.eq_of_id hv hv' (h.distinct (ht.fields_of_mem hv) (ht.fields_of_mem hv') hname)
  exact ⟨hnames, fun v hv => h.fits (ht.fields_of_mem hv), hids, fun v hv => (ht.given v hv).1⟩

/-! ## Runs -/

/-- The table of the users is what some deeds have made of an empty one. -/
def World.Accounts (w : World) (pool : Pool) (ds : List Deed) : Prop :=
  ∃ t, w.Serves pool t ∧ t.Ordered ∧ t.directory.Accounts ds

section Runs

variable (host : Host) {w : World} {pool : Pool} {ds : List Deed}

theorem World.Serves.accounts {e : Entity} (hs : w.Serves pool { entity := e }) :
    w.Accounts pool [] := by
  refine ⟨_, hs, ⟨le_refl 0, List.Pairwise.nil, ?_⟩, .empty⟩
  intro v hv
  exact absurd hv List.not_mem_nil

/-- An exchange is one more deed or none, and what it returns was written last and not removed. -/
theorem Host.exchange_accounts (h : w.Accounts pool ds) (q : Request) :
    let x := host.exchange w q
    x.after.Accounts pool (ds ++ x.deed?.toList) ∧
    ∀ d ∈ x.deed?, x.response = q.sent d.finding.response ∧
      ∀ v ∈ d.returned, lastWritten (ds ++ [d]) v.id = some v.input ∧
        v.id ∉ removedIds (ds ++ [d]) := by
  obtain ⟨t, hs, ht, hdir⟩ := h
  intro x
  cases hq : q.demand with
  | error r =>
    have hnone : x.deed? = none := by
      show Exchange.deed? (host.exchange w q) = none
      simp only [Exchange.deed?, Host.exchange, hq]
    rw [hnone, Option.toList_none, List.append_nil]
    refine ⟨⟨t, ?_, ht, hdir⟩, fun d hd => absurd hd (Option.not_mem_none d)⟩
    rcases host.after_exchange w q with hx | ⟨e, hx⟩
    · rw [hx, hq]
      exact hs
    · rw [hx, hq]
      exact hs.log e
  | ok d =>
    obtain ⟨hresponse, t', hs', ht', -, hdir'⟩ := host.exchange_mirrors hs ht hq
    have hdeed : x.deed? = match d.told (t.directory.reply pool.writable d).1 with
        | .error _ => none
        | .ok f => some ⟨d, f⟩ := by
      show Exchange.deed? (host.exchange w q) = _
      simp only [Exchange.deed?, Host.exchange, hq, (Demand.perform_mirrors hs ht d).result]
    cases htold : d.told (t.directory.reply pool.writable d).1 with
    | error e =>
      simp only [htold] at hdeed
      rw [hdeed, Option.toList_none, List.append_nil]
      exact ⟨⟨t', hs', ht', hdir' ▸ hdir.untold htold⟩,
        fun d hd => absurd hd (Option.not_mem_none d)⟩
    | ok f =>
      simp only [htold] at hdeed
      have hrange := Directory.inRange_of_told (Request.inRange_of_demand hq) htold
      obtain ⟨haccounts, hreturned⟩ := hdir.reply (Demand.eq_ok_of_told htold)
      rw [hdeed, Option.toList_some]
      refine ⟨⟨t', hs', ht', hdir' ▸ haccounts⟩, fun d' hd' => ?_⟩
      cases hd'
      refine ⟨by rw [hresponse, htold]; rfl, fun v hv => ?_⟩
      have hv' := hreturned v hv
      refine ⟨haccounts.written (hrange v hv) hv', fun hgone => ?_⟩
      rw [(haccounts.removed hgone).2] at hv'
      exact Option.some_ne_none _ hv'.symm

theorem Host.exchanges_accounts (h : w.Accounts pool ds) {qs : List Request}
    {pre post : List Exchange} {x : Exchange} (hx : host.exchanges w qs = pre ++ x :: post) :
    ∃ w' : World, w'.Accounts pool (ds ++ pre.filterMap Exchange.deed?) ∧
      x = host.exchange w' x.request := by
  induction pre generalizing w ds qs with
  | nil =>
    cases qs with
    | nil => cases hx
    | cons q r =>
      obtain ⟨rfl, -⟩ := List.cons.inj hx
      rw [List.filterMap_nil, List.append_nil]
      exact ⟨w, h, rfl⟩
  | cons y pre ih =>
    cases qs with
    | nil => cases hx
    | cons q r =>
      obtain ⟨rfl, hrest⟩ := List.cons.inj hx
      obtain ⟨w', hw', hx'⟩ := ih (host.exchange_accounts h q).1 hrest
      refine ⟨w', ?_, hx'⟩
      rw [List.append_assoc] at hw'
      cases hd : (host.exchange w q).deed? with
      | none =>
        rw [hd] at hw'
        rw [List.filterMap_cons_none hd]
        exact hw'
      | some d =>
        rw [hd] at hw'
        rw [List.filterMap_cons_some hd]
        exact hw'

/-- **A table that was empty once**, after any exchange since, has sound rows, and none under an id
that was removed. What the exchange returned is in its response, has been written last for its id,
and has not been removed. -/
theorem Host.chronicle {e : Entity} (hs : w.Serves pool { entity := e }) {qs : List Request}
    {pre post : List Exchange} {x : Exchange} (hx : host.exchanges w qs = pre ++ x :: post) :
    let ds := (pre ++ [x]).filterMap Exchange.deed?
    (∃ t, x.after.Serves pool t ∧ t.Sound ∧ ∀ v ∈ t.rows, v.id ∉ removedIds ds) ∧
    ∀ d ∈ x.deed?, x.response = x.request.sent d.finding.response ∧
      ∀ v ∈ d.returned, lastWritten ds v.id = some v.input ∧ v.id ∉ removedIds ds := by
  intro ds
  obtain ⟨w', hw', hx'⟩ := host.exchanges_accounts hs.accounts hx
  obtain ⟨⟨t, hst, ht, hdir⟩, hreturned⟩ := host.exchange_accounts hw' x.request
  rw [← hx'] at hst hdir hreturned
  have hds : ds = pre.filterMap Exchange.deed? ++ x.deed?.toList := by
    show (pre ++ [x]).filterMap Exchange.deed? = _
    rw [List.filterMap_append]
    cases hd : x.deed? with
    | none => rw [List.filterMap_cons_none hd]; rfl
    | some d => rw [List.filterMap_cons_some hd]; rfl
  rw [List.nil_append, ← hds] at hdir
  refine ⟨⟨t, hst, ht.sound hdir, fun v hv hgone => ?_⟩, fun d hd => ?_⟩
  · have hnone := (hdir.removed hgone).2
    rw [ht.fields_of_mem hv] at hnone
    exact Option.some_ne_none _ hnone
  · rw [hds, show x.deed? = some d from hd]
    exact hreturned d hd

/-! ### On one file -/

/-- A user is added, renamed and removed, and one of the same name is added. -/
def reentry : List Exchange :=
  Host.exchanges {} (.onFile true { entity := .users }) [.enter, .rename, .erase, .enter]

/-- Whose user was removed does not come back: the second user of a name has another id. -/
theorem Host.chronicle_reentered :
    (World.onFile true { entity := .users }).Serves (.onFile true) { entity := .users } ∧
    ∃ x, reentry = reentry.take 3 ++ x :: [] ∧
      x.deed? = some ⟨.create ⟨"ada", none, none⟩, .user ⟨2, "ada", none, none⟩⟩ ∧
      ∀ d ∈ x.deed?, ∀ v ∈ d.returned,
        v.id ∉ removedIds ((reentry.take 3 ++ [x]).filterMap Exchange.deed?) := by
  have hs : (World.onFile true { entity := .users }).Serves (.onFile true)
      { entity := .users } := ⟨rfl, rfl⟩
  let x := Host.exchange {} (Host.exchange {} (Host.exchange {} (Host.exchange {}
    (.onFile true { entity := .users }) .enter).after .rename).after .erase).after .enter
  have hx : reentry = reentry.take 3 ++ x :: [] := rfl
  have hdeed : x.deed? = some ⟨.create ⟨"ada", none, none⟩, .user ⟨2, "ada", none, none⟩⟩ := by
    decide +kernel
  exact ⟨hs, x, hx, hdeed, fun d hd v hv => (((Host.chronicle {} hs hx).2 d hd).2 v hv).2⟩

end Runs

end DbLifecycle
