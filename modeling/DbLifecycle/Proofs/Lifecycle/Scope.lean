import DbLifecycle.Proofs.Lifecycle.Simulation
import DbLifecycle.Proofs.Lifecycle.Start

/-!
# Scopes release what they opened

A scope is watched through resources that leave a mark whenever a coordinator opens or closes, and a
body that leaves a mark when it has ended. The marks do not change what the scope does.

A body is called before it is run. Whatever the run does, everything is closed after it. A panic of
the call is not caught, and nothing is closed.

* `Resources.marked`, `markEnd`: resources and bodies that leave marks.
* `StartMarks`: the marks that starting can leave.
* `verdict`: what a scope ends with.
* **`Life.scope_releases_once`**: what was opened is closed once, after the body, unless the call of
  the body panics; nothing that the body says is hidden by the closing.
-/

namespace DbLifecycle

variable {σ ε α : Type}

/-! ## Marks -/

/-- What is seen of a scope from outside. -/
inductive ScopeMark where
  /-- Opening the connections was tried. -/
  | opened (succeeded : Bool)
  /-- The body has ended, however it did. -/
  | ended
  /-- Closing all connections was asked for. -/
  | closed
  deriving DecidableEq, Repr

/-- Resources that leave a mark whenever connections are opened or closed. -/
def Resources.marked (r : Resources σ) : Resources (σ × List ScopeMark) where
  readFile p := r.readFile p.1
  openAll c p := let (outcome, w) := r.openAll c p.1; (outcome, w, p.2 ++ [.opened outcome.isOk])
  closeAll p := let (outcome, w) := r.closeAll p.1; (outcome, w, p.2 ++ [.closed])
  aliases p := r.aliases p.1
  require p := r.require p.1
  validate := r.validate
  generate pool app models p :=
    let (outcome, w) := r.generate pool app models p.1
    (outcome, w, p.2)
  log e p := (r.log e p.1, p.2)

/-- A body that leaves a mark when it has ended. -/
def markEnd (body : Life.ScopeBody σ ε α) : Life.ScopeBody (σ × List ScopeMark) ε α :=
  fun host p =>
    match body host p.1 with
    | (.future run, w) =>
      (.future fun q => let (outcome, w) := run q.1; (outcome, w, q.2 ++ [.ended]), w, p.2)
    | (.panic text, w) => (.panic text, w, p.2 ++ [.ended])

/-- The mark of a body changes nothing but itself. -/
theorem markEnd_alike (body : Life.ScopeBody σ ε α) (host : Host) {p : σ × List ScopeMark} {w : σ}
    (h : p.1 = w) :
    Life.Called.Alike (fun p w => p.1 = w) (markEnd body host p).1 (body host w).1 ∧
      (markEnd body host p).2.1 = (body host w).2 := by
  subst h
  unfold markEnd
  obtain ⟨called, v⟩ := body host p.1
  cases called with
  | future run =>
    refine ⟨.future ?_, rfl⟩
    rintro q w rfl
    exact ⟨rfl, rfl⟩
  | panic text => exact ⟨.panic text, rfl⟩

/-- **Marks change nothing** but themselves. -/
theorem Resources.marked_simulation (r : Resources σ) :
    Simulation Eq (fun p w => p.1 = w) r.marked r where
  readFile h := by rw [← h]; rfl
  openAll c {p w} h := by subst h; exact ⟨rfl, rfl⟩
  closeAll {p w} h := by subst h; exact ⟨rfl, rfl⟩
  aliases h := by rw [← h]; rfl
  require a {p w} h := by
    subst h
    cases hr : r.require p.1 a with
    | error e => exact .inl ⟨e, hr, rfl⟩
    | ok pool => exact .inr ⟨pool, pool, hr, rfl, rfl⟩
  validate _ := rfl
  generate {pool pool'} app models {p w} hpool h := by
    subst hpool h
    exact ⟨rfl, rfl⟩
  log e {p w} h := by subst h; rfl

/-- The marks that starting leaves, by how it ends. -/
inductive StartMarks : Outcome Error Unit → List ScopeMark → Prop
  /-- Nothing was opened. -/
  | unopened {e : Error} : StartMarks (.error e) []
  /-- Opening failed, and has cleaned up after itself. -/
  | refused {e : Error} : StartMarks (.error e) [.opened false]
  /-- What was opened is closed again. -/
  | undone {e : Error} : StartMarks (.error e) [.opened true, .closed]
  | started : StartMarks (.ok ()) [.opened true]
  | panicked {text : String} : StartMarks (.panic text) [.opened true]

/-- What a scope ends with whose body has run, given how the body and the closing ended. -/
def verdict (lift : Error → ε) : Outcome ε α → Outcome DbError Unit → Outcome ε α
  | .panic text, _ => .panic text
  | .error b, _ => .error b
  | .ok _, .error e => .error (lift (.connection e))
  | .ok _, .panic text => .panic text
  | .ok x, .ok _ => .ok x

namespace Life

/-! ## Starting -/

section Start

variable {r : Resources σ} {o : Options}

theorem generateEach_marks (apps : List (String × App)) (p : σ × List ScopeMark) :
    (generateEach r.marked apps p).2.2 = p.2 := by
  induction apps generalizing p with
  | nil => rfl
  | cons a rest ih =>
    obtain ⟨name, app⟩ := a
    rw [generateEach]
    split
    · rfl
    · rename_i pool _
      have hmarks : (r.marked.generate pool name app.models p).2.2 = p.2 := rfl
      split
      · rename_i u p' hp'
        rw [hp'] at hmarks
        rw [ih p']
        exact hmarks
      · rename_i stop p' _ hp'
        rw [hp'] at hmarks
        exact hmarks

theorem rollBack_marks (hclose : ∀ w, (r.closeAll w).1.isPanic = false) (e : Error)
    (p : σ × List ScopeMark) :
    ∃ w, rollBack r.marked e p = (.error e, ⟨.unstarted, w, p.2 ++ [.closed]⟩) := by
  have hnp := hclose p.1
  have hmarked : r.marked.closeAll p =
      ((r.closeAll p.1).1, (r.closeAll p.1).2, p.2 ++ [.closed]) := rfl
  rw [rollBack, hmarked]
  cases hc : (r.closeAll p.1).1 with
  | ok u => exact ⟨_, rfl⟩
  | error closing => exact ⟨_, rfl⟩
  | panic text =>
    rw [hc] at hnp
    cases hnp

theorem finishInit_marks (hclose : ∀ w, (r.closeAll w).1.isPanic = false) (generate : Bool)
    (c : Config) (p : σ × List ScopeMark) (hp : p.2 = [.opened true]) :
    StartMarks (finishInit r.marked generate c p).1
      (finishInit r.marked generate c p).2.world.2 := by
  cases generate with
  | false =>
    show StartMarks (.ok ()) p.2
    rw [hp]
    exact .started
  | true =>
    have hmarks := generateEach_marks (r := r) c.apps.entries (r.marked.log .generating p)
    rw [show (r.marked.log .generating p).2 = p.2 from rfl, hp] at hmarks
    rw [finishInit, if_pos rfl]
    generalize generateEach r.marked c.apps.entries (r.marked.log .generating p) = end_ at hmarks ⊢
    obtain ⟨outcome, w, ms⟩ := end_
    obtain rfl : ms = [.opened true] := hmarks
    cases outcome with
    | ok u => exact .started
    | error e =>
      obtain ⟨w', hw'⟩ := rollBack_marks hclose e (w, [.opened true])
      dsimp only
      rw [hw']
      exact .undone
    | panic text => exact .panicked

/-- **Starting closes what it opened, unless it succeeds** or the creation of tables panics. -/
theorem init_marks (hopen : ∀ c w, (r.openAll c w).1.isPanic = false)
    (hclose : ∀ w, (r.closeAll w).1.isPanic = false) (w : σ) :
    StartMarks (init r.marked o ⟨.unstarted, w, []⟩).1
      (init r.marked o ⟨.unstarted, w, []⟩).2.world.2 := by
  cases hload : o.load (r.readFile w) with
  | error e =>
    rw [init_unloaded (r := r.marked) (w := (w, [])) hload]
    exact .unopened
  | ok c =>
    cases hval : r.validate c.apps with
    | error e =>
      rw [init_invalid (r := r.marked) (w := (w, [])) hload hval]
      exact .unopened
    | ok u =>
      have hnp := hopen c w
      have hmarked : r.marked.openAll c (w, []) =
          ((r.openAll c w).1, (r.openAll c w).2, [.opened (r.openAll c w).1.isOk]) := rfl
      rw [init_valid (r := r.marked) (w := (w, [])) hload hval, openConfig, hmarked]
      cases ho : (r.openAll c w).1 with
      | ok u => exact finishInit_marks hclose o.generateSchemas c _ rfl
      | error e => exact .refused
      | panic text =>
        rw [ho] at hnp
        cases hnp

/-- What the body of a scope is given to start with. -/
theorem activate_marks (hopen : ∀ c w, (r.openAll c w).1.isPanic = false)
    (hclose : ∀ w, (r.closeAll w).1.isPanic = false) (host : Host) (w : σ)
    (h : (init r.marked o ⟨.unstarted, w, []⟩).1 = .ok ()) :
    ∃ host' w', activate r.marked o host ⟨.unstarted, w, []⟩ =
      (.ok (), host', ⟨.ready, w', [.opened true]⟩) := by
  have hm := init_marks (o := o) hopen hclose w
  generalize hend : init r.marked o ⟨.unstarted, w, []⟩ = end_ at h hm
  obtain ⟨outcome, state, w', ms⟩ := end_
  obtain rfl : outcome = .ok () := h
  obtain rfl : state = .ready := init_state_of_ok hend
  obtain rfl : ms = [.opened true] := by cases hm; rfl
  rw [activate_of_init_ok host hend]
  cases o.addHandlers with
  | false => exact ⟨host, w', rfl⟩
  | true => exact ⟨_, _, rfl⟩

/-- The marks apart, a plain coordinator hands the same to the body. -/
theorem activate_unmarked {host host' : Host} {w w' : σ} {state : State} {ms : List ScopeMark}
    (h : activate r.marked o host ⟨.unstarted, w, []⟩ = (.ok (), host', ⟨state, w', ms⟩)) :
    activate r o host ⟨.unstarted, w⟩ = (.ok (), host', ⟨state, w'⟩) := by
  have hl : Related (fun (p : σ × List ScopeMark) v => p.1 = v) ⟨.unstarted, w, []⟩
      ⟨.unstarted, w⟩ := ⟨rfl, rfl⟩
  obtain ⟨outcome, a, b, ha, hb, hab⟩ := (r.marked_simulation.activate o host hl).exists_eq
  obtain ⟨host'', l, ⟨state', v⟩, rfl, rfl, hlm⟩ := hab.exists_eq
  rw [h] at ha
  cases ha
  obtain ⟨rfl, rfl⟩ := hlm
  exact hb

end Start

/-! ## Ending -/

section End

variable {r : Resources σ}

theorem close_marks (w : σ) (ms : List ScopeMark) :
    ∃ w', close r.marked ⟨.ready, w, ms⟩ =
      ((r.closeAll w).1.mapError .connection, ⟨.closed, w', ms ++ [.closed]⟩) := by
  have hmarked : r.marked.closeAll (w, ms) =
      ((r.closeAll w).1, (r.closeAll w).2, ms ++ [.closed]) := rfl
  rw [close, if_pos rfl, hmarked]
  cases (r.closeAll w).1 with
  | ok u => exact ⟨_, rfl⟩
  | error e => exact ⟨_, rfl⟩
  | panic text => exact ⟨_, rfl⟩

theorem settle_marks (lift : Error → ε) (answer : Outcome ε α) {closing : Outcome DbError Unit}
    (hnp : closing.isPanic = false) (w : σ) (ms : List ScopeMark) :
    ∃ w', settle r.marked lift answer (closing.mapError .connection, ⟨.closed, w, ms⟩) =
      (verdict lift answer closing, ⟨.closed, w', ms⟩) := by
  cases closing with
  | ok u => cases answer <;> exact ⟨_, rfl⟩
  | error e => cases answer <;> exact ⟨_, rfl⟩
  | panic text => cases hnp

end End

/-- The body does not run if starting fails. -/
theorem scope_of_init_error {r : Resources σ} {o : Options} {l : Life σ} {e : Error}
    (h : (init r o l).1 = .error e) (lift : Error → ε) (body : ScopeBody σ ε α)
    (host : Host) : scope r o lift body host l = (.error (lift e), (init r o l).2) := by
  have hne : (init r o l).1 ≠ .ok () := by simp [h]
  rw [scope, activate_of_init_ne_ok host hne, h]

theorem scope_of_init_panic {r : Resources σ} {o : Options} {l : Life σ} {text : String}
    (h : (init r o l).1 = .panic text) (lift : Error → ε) (body : ScopeBody σ ε α)
    (host : Host) : scope r o lift body host l = (.panic text, (init r o l).2) := by
  have hne : (init r o l).1 ≠ .ok () := by simp [h]
  rw [scope, activate_of_init_ne_ok host hne, h]

/-- If starting succeeds, the body is called and run on what was opened. Everything is closed after
the run, and nothing after a call that panics. -/
theorem scope_of_activate {r : Resources σ} (hclose : ∀ w, (r.closeAll w).1.isPanic = false)
    {o : Options} {host host' : Host} {w w' : σ} (lift : Error → ε) (body : ScopeBody σ ε α)
    (h : activate r.marked o host ⟨.unstarted, w, []⟩ =
      (.ok (), host', ⟨.ready, w', [.opened true]⟩)) :
    let run := scope r.marked o lift (markEnd body) host ⟨.unstarted, w, []⟩
    match body host' w' with
    | (.future future, v) =>
      let (answer, v) := future v
      run.1 = verdict lift answer (r.closeAll v).1 ∧
        run.2.world.2 = [.opened true, .ended, .closed]
    | (.panic text, _) => run.1 = .panic text ∧ run.2.world.2 = [.opened true, .ended] := by
  rw [scope, h]
  dsimp only [markEnd]
  obtain ⟨called, v⟩ := body host' w'
  cases called with
  | panic text => exact ⟨rfl, rfl⟩
  | future future =>
    dsimp only
    obtain ⟨answer, u⟩ := future v
    obtain ⟨u', hclosed⟩ := close_marks (r := r) u ([.opened true] ++ [.ended])
    obtain ⟨_, hsettled⟩ := settle_marks lift answer (hclose u) u'
      [.opened true, .ended, .closed]
    dsimp only
    rw [hclosed]
    exact ⟨congrArg Prod.fst hsettled, congrArg (·.2.world.2) hsettled⟩

/-- **A scope releases what it opened exactly once**, after its body, whatever opening, creating
tables, the run of the body and closing do. The body is called exactly if starting succeeds, and its
panic or error is never hidden by an error of closing. Opening and closing do not panic; a panic of
creating tables or of the call of the body passes through, and only then nothing is closed. -/
theorem scope_releases_once (r : Resources σ)
    (hopen : ∀ c w, (r.openAll c w).1.isPanic = false)
    (hclose : ∀ w, (r.closeAll w).1.isPanic = false) (o : Options) (lift : Error → ε)
    (body : ScopeBody σ ε α) (host : Host) (w : σ) :
    let run := scope r.marked o lift (markEnd body) host ⟨.unstarted, w, []⟩
    let marks := run.2.world.2
    Alike (Related fun p v => p.1 = v) run (scope r o lift body host ⟨.unstarted, w⟩) ∧
    match (init r o ⟨.unstarted, w⟩).1 with
    | .error e => run.1 = .error (lift e) ∧ marks.count .ended = 0 ∧
      marks.count .closed = marks.count (.opened true) ∧ marks.count (.opened true) ≤ 1
    | .ok _ =>
      let (_, host', l) := activate r o host ⟨.unstarted, w⟩
      match body host' l.world with
      | (.future future, v) =>
        let (answer, v) := future v
        run.1 = verdict lift answer (r.closeAll v).1 ∧ marks = [.opened true, .ended, .closed]
      | (.panic text, _) => run.1 = .panic text ∧ marks = [.opened true, .ended]
    | .panic text => run.1 = .panic text ∧ marks = [.opened true] := by
  have hS := r.marked_simulation
  have hl : Related (fun (p : σ × List ScopeMark) v => p.1 = v) ⟨.unstarted, w, []⟩
      ⟨.unstarted, w⟩ := ⟨rfl, rfl⟩
  refine ⟨hS.scope o lift (fun host _ _ => markEnd_alike body host) host hl, ?_⟩
  have hm := init_marks (o := o) hopen hclose w
  have hinit : (init r.marked o ⟨.unstarted, w, []⟩).1 = (init r o ⟨.unstarted, w⟩).1 :=
    (hS.init o hl).1
  rw [← hinit]
  cases hout : (init r.marked o ⟨.unstarted, w, []⟩).1 with
  | error e =>
    rw [hout] at hm
    rw [scope_of_init_error hout]
    refine ⟨rfl, ?_⟩
    generalize (init r.marked o ⟨.unstarted, w, []⟩).2.world.2 = marks at hm ⊢
    cases hm <;> decide
  | ok u =>
    obtain ⟨host', w', hact⟩ := activate_marks hopen hclose host w hout
    rw [activate_unmarked hact]
    exact scope_of_activate hclose lift body hact
  | panic text =>
    rw [hout] at hm
    rw [scope_of_init_panic hout]
    refine ⟨rfl, ?_⟩
    generalize (init r.marked o ⟨.unstarted, w, []⟩).2.world.2 = marks at hm ⊢
    cases hm
    rfl

/-- Databases in memory that cannot be closed. -/
def clinging : Driver where
  connect _ options d := .ok ({ d with nextMemory := d.nextMemory + 1 },
    { place := .memory (Disk.ownMemory d.nextMemory), writable := true, options })
  create := Link.createTable
  close _ := .error (.connection (.text "still in use"))

/-- The error of a body is not hidden by that of closing. -/
theorem scope_releases_once_clinging :
    (∀ c w, ((World.resources clinging .standard).openAll c w).1.isPanic = false) ∧
    (∀ w, ((World.resources clinging .standard).closeAll w).1.isPanic = false) ∧
    (scope (World.resources clinging .standard).marked .oneFile id
      (markEnd (.ofRun fun _ w => (.error (.notFound "user"), w))) {} ⟨.unstarted, {}, []⟩).1 =
      (.error (.notFound "user") : Outcome Error Unit) := by
  have hopen : ∀ c w, ((World.resources clinging .standard).openAll c w).1.isPanic = false :=
    fun c w => World.openAll_isPanic (fun _ _ _ => rfl) w c
  have hclose : ∀ w, ((World.resources clinging .standard).closeAll w).1.isPanic = false :=
    fun w => World.closeAliases_isPanic clinging w w.aliases
  have hrun := (scope_releases_once (World.resources clinging .standard) hopen hclose .oneFile id
    (.ofRun fun _ w => ((.error (.notFound "user") : Outcome Error Unit), w)) {} {}).2
  have hinit : (init (World.resources clinging .standard) .oneFile ⟨.unstarted, {}⟩).1 =
      .ok () := by decide
  rw [hinit] at hrun
  exact ⟨hopen, hclose, hrun.1⟩

/-- A body that panics as soon as it is called leaves its connection open. -/
theorem not_scope_releases_once :
    let body : ScopeBody World Error Unit := fun _ w => (.panic "early", w)
    let run := scope (World.resources .standard .standard).marked .oneFile id (markEnd body) {}
      ⟨.unstarted, {}, []⟩
    let (w, marks) := run.2.world
    run.1 = .panic "early" ∧ marks.count (.opened true) = 1 ∧ marks.count .ended = 1 ∧
      marks.count .closed = 0 ∧ w.aliases = [defaultAlias] := by
  decide

end Life

end DbLifecycle
