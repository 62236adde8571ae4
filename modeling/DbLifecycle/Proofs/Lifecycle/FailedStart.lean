import DbLifecycle.Proofs.Database.Likeness
import DbLifecycle.Proofs.Lifecycle.History

/-!
# Failed starts

A start can fail before anything is opened, at any connection, and at any table. Each time all is as
before: what was opened is closed, and the next start has the same prospects as a first one.

* `Life.Trigger`: what makes a start fail, and the aliases that were attempted until then.
* `Life.Start.ledger`: the pools of a failed start are closed, each once.
* **`Life.failed_start_restores`**: what holds after every start that fails.
-/

namespace DbLifecycle

namespace Life

open World

/-- What makes a start fail with an error, and the aliases attempted until then. -/
inductive Trigger (driver : Driver) (catalog : Catalog) (o : Options) (w : World) :
    Error → List String → Prop
  | unloaded {e : ConfigError} (h : o.load w.disk.text? = .error e) :
      Trigger driver catalog o w (.configuration e) []
  | unmodelled {c : Config} {e : ConfigError} (h : o.load w.disk.text? = .ok c)
      (he : catalog.validate c.apps = .error e) : Trigger driver catalog o w (.configuration e) []
  /-- A connection fails; those before it were opened, those after it are not attempted. -/
  | refused {c : Config} {qs pre post : List Request} {q : Request} {v : World} {cause : DbError}
      (ha : Accepted catalog o w c qs) (hqs : qs = pre ++ q :: post) (hv : Opens driver w pre v)
      (hq : driver.openPool q.url q.settings v.disk = .error cause) :
      Trigger driver catalog o w (.connection cause) (pre.map (·.aliasName) ++ [q.aliasName])
  /-- A table fails; those before it were created, and all connections opened. -/
  | uncreated {c : Config} {qs : List Request} {v : World} {d : Disk}
      {pre post : List (Link × Entity)} {s : Link × Entity} {cause : DbError}
      (ha : Accepted catalog o w c qs) (hv : Opens driver w qs v)
      (hss : v.plannedTables catalog c.apps.entries = pre ++ s :: post)
      (hpre : Creates driver v.disk pre d) (hs : driver.create s.1 true s.2 d = .error cause) :
      Trigger driver catalog o w (.schema cause) c.connections.keys

/-- The pools that were opened and closed between two worlds: each is new, and closing was asked of
each once. -/
structure Balanced (w w' : World) (tried : List String) : Prop where
  attempts : w'.attempts = w.attempts ++ tried
  pools : ∃ made gone, w'.created = w.created ++ made ∧ w'.retired = w.retired ++ gone ∧
    made.Nodup ∧ gone.Perm made

theorem Balanced.refl (w : World) : Balanced w w [] where
  attempts := (List.append_nil _).symm
  pools := ⟨[], [], (List.append_nil _).symm, (List.append_nil _).symm, .nil, .nil⟩

/-- Connections that were opened and then closed, in the order of their aliases. -/
theorem Balanced.of_closes {w v u w' : World} {qs : List Request} {tried : List String}
    (hv : Opened w qs v) (hn : (qs.map (·.aliasName)).Nodup) (hpools : u.pools = v.pools)
    (hretired : u.retired = v.retired) (hcreated : u.created = v.created)
    (hattempts : u.attempts = w.attempts ++ tried)
    (hw' : Closes u (qs.map (·.aliasName)) w') : Balanced w w' tried where
  attempts := hw'.attempts.trans hattempts
  pools := by
    have hids : (qs.map (·.aliasName)).filterMap u.poolId? = List.range' w.nextPool qs.length := by
      rw [← hv.poolIds hn]
      exact List.filterMap_congr fun a _ => by rw [poolId?, poolId?, hpools]
    refine ⟨List.range' w.nextPool qs.length, List.range' w.nextPool qs.length, ?_, ?_,
      List.nodup_range', .refl _⟩
    · rw [hw'.created, hcreated, hv.created]
    · rw [hw'.retired hn, hretired, hv.retired, hids]

/-- **The pools of a failed start are closed, each once**, and its error is what made it fail. -/
theorem Start.ledger {driver : Driver} {catalog : Catalog} {o : Options} {w : World} {e : Error}
    {l : Life World} (h : Start driver catalog o w (.error e, l)) (hw : w.aliases = []) :
    ∃ tried, Trigger driver catalog o w e tried ∧ Balanced w l.world tried := by
  cases h with
  | unloaded h => exact ⟨[], .unloaded h, .refl w⟩
  | unmodelled h he => exact ⟨[], .unmodelled h he, .refl w⟩
  | @refused c qs pre post q v cause ha hqs hv hq =>
    have hn : (pre.map (·.aliasName)).Nodup := by
      have hall := ha.nodup
      rw [hqs, List.map_append] at hall
      exact hall.of_append_left
    have hundo := undo_closes driver (v.log (.openFailed q.aliasName cause)) (pre.map (·.aliasName))
    refine ⟨_, .refused ha hqs hv hq, .of_closes (u := v.log (.openFailed q.aliasName cause))
      hv.opened hn rfl rfl ?_ ?_ hundo⟩
    · rw [created_log]
      exact List.append_nil _
    · rw [attempts_log, hv.opened.attempts, List.append_assoc]
      rfl
  | @uncreated c qs v u w' pre post s cause ha hv hgen hss hpre hs hu hw' =>
    have haliases : u.aliases = qs.map (·.aliasName) := by
      rw [hu.aliases, ha.aliases]
      refine Dict.keys_ext fun a => ?_
      have hmem := hv.opened.mem_aliases a
      rw [ha.aliases, hw, or_iff_left List.not_mem_nil] at hmem
      exact hmem
    rw [haliases] at hw'
    have hattempts : u.attempts = w.attempts ++ c.connections.keys := by
      rw [hu.attempts, hv.opened.attempts, ha.aliases]
    exact ⟨_, .uncreated ha hv hss hpre hs,
      .of_closes hv.opened ha.nodup hu.pools hu.retired hu.created hattempts hw'⟩

/-- A call that starts but fails has done what starting does, and left its host alone. -/
theorem init_of_perform_error {σ : Type} {r : Resources σ} {o : Options} {call : Call}
    {host host' : Host} {w : σ} {e : Error} {l : Life σ} (hcall : call.operation = .init)
    (h : perform r o call host ⟨.unstarted, w⟩ = (.error e, host', l)) :
    init r o ⟨.unstarted, w⟩ = (.error e, l) ∧ host' = host := by
  cases call with
  | init =>
    rw [perform_init] at h
    obtain ⟨hout, hrest⟩ := Prod.mk.inj h
    obtain ⟨hhost, hl⟩ := Prod.mk.inj hrest
    exact ⟨Prod.ext hout hl, hhost.symm⟩
  | activate =>
    rw [perform] at h
    by_cases hok : (init r o ⟨.unstarted, w⟩).1 = .ok ()
    · have hinit : init r o ⟨.unstarted, w⟩ = (.ok (), (init r o ⟨.unstarted, w⟩).2) :=
        Prod.ext hok rfl
      rw [activate_of_init_ok host hinit] at h
      have hready := init_state_of_ok hinit
      cases hadd : o.addHandlers with
      | false =>
        rw [hadd, if_neg Bool.false_ne_true] at h
        cases h
      | true =>
        rw [hadd, if_pos rfl, registerHandlers, if_pos hready] at h
        cases h
    · rw [activate_of_init_ne_ok host hok] at h
      obtain ⟨hout, hrest⟩ := Prod.mk.inj h
      obtain ⟨hhost, hl⟩ := Prod.mk.inj hrest
      exact ⟨Prod.ext hout hl, hhost.symm⟩
  | close => cases hcall
  | registerHandlers => cases hcall

/-- **A start that fails leaves everything as it was.** The registry has nothing open, and neither
does it afterwards; the pools that were opened are closed, each once; the error is that of what
failed, not of the closing, and nothing behind it was attempted; the host is as it was. Whatever the
databases answer from then on, starting again is like starting anew with the same files. -/
theorem failed_start_restores (driver : Driver) (catalog : Catalog) (o : Options) (call : Call)
    (hcall : call.operation = .init) (host host' : Host) (w : World) (hw : w.aliases = [])
    (e : Error) (l : Life World)
    (h : perform (resources driver catalog) o call host ⟨.unstarted, w⟩ = (.error e, host', l)) :
    l.state = .unstarted ∧ l.world.aliases = [] ∧ host' = host ∧
    (∃ tried, Trigger driver catalog o w e tried ∧ Balanced w l.world tried) ∧
    ∀ driver' : Driver, Alike (Related Like) (init (resources driver' catalog) o l)
      (init (resources driver' catalog) o ⟨.unstarted, { disk := l.world.disk }⟩) := by
  obtain ⟨hinit, hhost⟩ := init_of_perform_error hcall h
  have hstart := init_start driver catalog o w
  rw [hinit] at hstart
  obtain ⟨hstate, haliases⟩ := hstart.aliases_of_error hw
  have hlike : Like l.world { disk := l.world.disk } :=
    ⟨rfl, by unfold links; rw [aliases_eq_nil_iff.mp haliases]; rfl⟩
  exact ⟨hstate, haliases, hhost, hstart.ledger hw,
    fun driver' => (like_simulation driver' catalog).init o ⟨hstate, hlike⟩⟩

/-- A start that opens its connection, and cannot create its table. -/
theorem failed_start_restores_tableless :
    Call.activate.operation = .init ∧ ({} : World).aliases = [] ∧
    (perform (resources .tableless .standard) .oneFile .activate {} ⟨.unstarted, {}⟩).1 =
      .error (.schema (.execution (.text "disk is full"))) ∧
    (perform (resources .tableless .standard) .oneFile .activate {}
      ⟨.unstarted, {}⟩).2.2.world.aliases = [] := by
  have herror : (perform (resources .tableless .standard) .oneFile .activate {}
      ⟨.unstarted, {}⟩).1 = .error (.schema (.execution (.text "disk is full"))) := by decide
  have hrestored := failed_start_restores .tableless .standard .oneFile .activate rfl {} _ {} rfl
    _ _ (Prod.ext herror rfl)
  exact ⟨rfl, rfl, herror, hrestored.2.1⟩

end Life

end DbLifecycle
