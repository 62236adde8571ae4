import DbLifecycle.Proofs.Lifecycle.Start

/-!
# Histories of a coordinator

A coordinator is called again and again; between the calls files come and go, and at each call the
databases answer as they like. Over every such history the state and the registry agree.

* `Call`, `Life.perform`: what a coordinator can be asked for.
* `Moment`, `Record`, `Life.history`: the calls with what they met, and what came of them.
* `Life.Agrees`, `Life.Agrees.record`: the invariant, and that a call preserves it.
* `Record.Regular`, **`Life.history_regular`**: what holds of every call of every history.
-/

namespace DbLifecycle

/-! ## Calls -/

/-- What a coordinator can be asked for. -/
inductive Call where
  | init
  | activate
  | close
  | registerHandlers
  deriving DecidableEq, Repr

/-- The operation that a call asks the state for. -/
def Call.operation : Call → Operation
  | .init | .activate => .init
  | .close => .close
  | .registerHandlers => .registerHandlers

/-- The state in which an operation is allowed. -/
def Operation.allowedIn : Operation → State
  | .init => .unstarted
  | .close | .registerHandlers => .ready

namespace Life

variable {σ : Type}

/-- What a call gives; calls that are not about hosts leave the host as it is. -/
def perform (r : Resources σ) (o : Options) (call : Call) (host : Host) (l : Life σ) :
    Outcome Error Unit × Host × Life σ :=
  match call with
  | .init => let (outcome, l) := init r o l; (outcome, host, l)
  | .activate => activate r o host l
  | .close => let (outcome, l) := close r l; (outcome, host, l)
  | .registerHandlers => registerHandlers r host l

theorem perform_init (r : Resources σ) (o : Options) (host : Host) (l : Life σ) :
    perform r o .init host l = ((init r o l).1, host, (init r o l).2) := rfl

theorem perform_close (r : Resources σ) (o : Options) (host : Host) (l : Life σ) :
    perform r o .close host l = ((close r l).1, host, (close r l).2) := rfl

/-- **A call that the state does not allow changes nothing** and is told the state. -/
theorem perform_of_not_allowed (r : Resources σ) (o : Options) (call : Call) (host : Host)
    (l : Life σ) (h : l.state ≠ call.operation.allowedIn) :
    perform r o call host l = (.error (.lifecycle call.operation l.state), host, l) := by
  cases call with
  | init => simp only [perform, init_of_not_unstarted h, Call.operation]
  | activate =>
    have hinit := init_of_not_unstarted (r := r) (o := o) h
    have hne : (init r o l).1 ≠ .ok () := by
      rw [hinit]
      exact fun h => by cases h
    rw [perform, activate_of_init_ne_ok host hne, hinit]
    rfl
  | close => simp only [perform, close_of_not_ready h, Call.operation]
  | registerHandlers => simp only [perform, registerHandlers_of_not_ready h, Call.operation]

end Life

/-! ## Records -/

/-- A call, and what it meets: the databases, the files, and the host it is given. -/
structure Moment where
  driver : Driver
  disk : Disk
  call : Call
  host : Host

/-- A call that was made, and what came of it. -/
structure Record where
  moment : Moment
  before : Life World
  outcome : Outcome Error Unit
  host : Host
  after : Life World

namespace Record

/-- The call started the coordinator. -/
def starts (x : Record) : Bool :=
  x.moment.call.operation = .init && x.outcome = .ok ()

/-- The call closed the coordinator, whether or not the pools could be closed properly. -/
def closes (x : Record) : Bool :=
  x.moment.call = .close && x.before.state = .ready

/-- The call registered the handlers with its host. -/
def equips (o : Options) (x : Record) : Bool :=
  x.outcome = .ok () &&
    (x.moment.call = .registerHandlers || x.moment.call = .activate && o.addHandlers)

end Record

namespace Life

open World

/-- A coordinator that finds other files. -/
def withDisk (l : Life World) (disk : Disk) : Life World :=
  { l with world := { l.world with disk } }

/-- A call is made at a moment. -/
def record (catalog : Catalog) (o : Options) (l : Life World) (m : Moment) : Record :=
  let (outcome, host, after) := perform (resources m.driver catalog) o m.call m.host l
  ⟨m, l, outcome, host, after⟩

/-- The records of calls made one after another; before each, files come and go. -/
def history (catalog : Catalog) (o : Options) (l : Life World) : List Moment → List Record
  | [] => []
  | m :: r =>
    let x := record catalog o (l.withDisk m.disk) m
    x :: history catalog o x.after r

end Life

/-- What calls, all of them, have made of a coordinator. -/
structure Life.Agrees (o : Options) (calls : List Record) (l : Life World) : Prop where
  settled : l.state ≠ .initializing
  /-- What is open is what the start has loaded. -/
  aliases_of_ready : l.state = .ready → ∃ s ∈ calls, s.starts ∧
    ∃ c, o.load s.before.world.disk.text? = .ok c ∧ l.world.aliases = c.connections.keys
  aliases_of_not_ready : l.state ≠ .ready → l.world.aliases = []
  aliases_sorted : l.world.aliases.Pairwise (· < ·)
  /-- One call has started the coordinator, unless it is unstarted. -/
  starts : calls.countP Record.starts = if l.state = .unstarted then 0 else 1
  /-- One call has closed the coordinator if it is closed. -/
  closes : calls.countP Record.closes = if l.state = .closed then 1 else 0

/-- What holds of every call. -/
structure Record.Regular (o : Options) (x : Record) : Prop where
  transition : x.after.state = x.before.state ∨
    x.before.state = .unstarted ∧ x.after.state = .ready ∧ x.starts ∨
    x.before.state = .ready ∧ x.after.state = .closed ∧ x.closes
  ready_of_starts : x.starts → x.after.state = .ready
  /-- Closing counts even if it reports an error. -/
  closed_of_closes : x.closes → x.after.state = .closed
  refused : x.before.state ≠ x.moment.call.operation.allowedIn →
    x.outcome = .error (.lifecycle x.moment.call.operation x.before.state) ∧
      x.after = x.before ∧ x.host = x.moment.host
  registers : x.moment.call = .registerHandlers → x.before.state = .ready → x.outcome = .ok ()
  host : x.host = if x.equips o then x.moment.host.addStandardHandlers else x.moment.host

namespace Life

open World

/-! ## One call -/

/-- What a call does that its state allows. -/
inductive Step (o : Options) (call : Call) (host : Host) (l : Life World) :
    Outcome Error Unit × Host × Life World → Prop
  | failed {e : Error} {w : World} (hcall : call.operation = .init) (hl : l.state = .unstarted)
      (hw : w.aliases = []) : Step o call host l (.error e, host, ⟨.unstarted, w⟩)
  | started {c : Config} {w : World} (hcall : call.operation = .init) (hl : l.state = .unstarted)
      (hc : o.load l.world.disk.text? = .ok c) (hw : w.aliases = c.connections.keys)
      {host' : Host} (hhost : host' =
        if call = .activate ∧ o.addHandlers then host.addStandardHandlers else host) :
      Step o call host l (.ok (), host', ⟨.ready, w⟩)
  | panicked {text : String} {host' : Host} {l' : Life World} :
      Step o call host l (.panic text, host', l')
  | closed {outcome : Outcome Error Unit} {w : World} (hcall : call = .close)
      (hl : l.state = .ready) (hw : w.aliases = []) :
      Step o call host l (outcome, host, ⟨.closed, w⟩)
  | registered {w : World} (hcall : call = .registerHandlers) (hl : l.state = .ready)
      (hw : w.aliases = l.world.aliases) :
      Step o call host l (.ok (), host.addStandardHandlers, ⟨.ready, w⟩)

theorem aliases_eq_nil_iff {w : World} : w.aliases = [] ↔ w.pools = .empty :=
  ⟨Dict.eq_empty_of_keys, fun h => by unfold aliases; rw [h, Dict.keys_empty]⟩

/-- Nothing is left open by a start that fails. -/
theorem Start.aliases_of_error {driver : Driver} {catalog : Catalog} {o : Options} {w : World}
    {e : Error} {l : Life World} (h : Start driver catalog o w (.error e, l))
    (hw : w.aliases = []) : l.state = .unstarted ∧ l.world.aliases = [] := by
  cases h with
  | unloaded _ => exact ⟨rfl, hw⟩
  | unmodelled _ _ => exact ⟨rfl, hw⟩
  | @refused c qs pre post q v cause ha hqs hv hq =>
    refine ⟨rfl, aliases_eq_nil_iff.mpr ?_⟩
    refine (undo_closes driver (v.log (.openFailed q.aliasName cause)) _).pools_eq_empty
      fun a hmem => ?_
    rw [aliases_log, hv.opened.mem_aliases, hw] at hmem
    exact hmem.resolve_right List.not_mem_nil
  | uncreated _ _ _ _ _ _ _ hw' =>
    exact ⟨rfl, aliases_eq_nil_iff.mpr (hw'.pools_eq_empty fun _ ha => ha)⟩

/-- All connections of the configuration, and no others, are open after a start. -/
theorem Start.aliases_of_ok {driver : Driver} {catalog : Catalog} {o : Options} {w : World}
    {l : Life World} (h : Start driver catalog o w (.ok (), l)) (hw : w.aliases = []) :
    l.state = .ready ∧
      ∃ c, o.load w.disk.text? = .ok c ∧ l.world.aliases = c.connections.keys := by
  cases h with
  | @ready c qs v w' ha hv hw' _ =>
    refine ⟨rfl, c, ha.loaded, ?_⟩
    refine hw'.aliases.trans (Dict.keys_ext fun a => ?_)
    have hmem := hv.opened.mem_aliases a
    rw [ha.aliases, hw, or_iff_left List.not_mem_nil] at hmem
    exact hmem

/-- A ready coordinator gives a host its handlers, and nothing else changes. -/
theorem registerHandlers_keeps (driver : Driver) (catalog : Catalog) (host : Host) (w : World) :
    ∃ w', registerHandlers (resources driver catalog) host ⟨.ready, w⟩ =
      (.ok (), host.addStandardHandlers, ⟨.ready, w'⟩) ∧ Keeps w w' :=
  ⟨_, rfl, (Keeps.log w rfl rfl).trans ((Keeps.log _ rfl rfl).trans (.log _ rfl rfl))⟩

/-- Starting with a host. -/
theorem activate_step (driver : Driver) (catalog : Catalog) (o : Options) (host : Host) (w : World)
    (hw : w.aliases = []) :
    Step o .activate host ⟨.unstarted, w⟩
      (activate (resources driver catalog) o host ⟨.unstarted, w⟩) := by
  have hs := init_start driver catalog o w
  generalize hend : init (resources driver catalog) o ⟨.unstarted, w⟩ = end_ at hs
  obtain ⟨outcome, state, w'⟩ := end_
  cases outcome with
  | ok u =>
    obtain ⟨rfl, c, hc, hw'⟩ := hs.aliases_of_ok hw
    rw [activate_of_init_ok host hend]
    cases hadd : o.addHandlers with
    | false =>
      rw [if_neg Bool.false_ne_true]
      exact .started (l := ⟨.unstarted, w⟩) rfl rfl hc hw' (by simp [hadd])
    | true =>
      obtain ⟨v, hv, hk⟩ := registerHandlers_keeps driver catalog host w'
      rw [if_pos rfl, hv]
      exact .started (l := ⟨.unstarted, w⟩) rfl rfl hc (hk.aliases.trans hw') (by simp [hadd])
  | error e =>
    obtain ⟨rfl, hw'⟩ := hs.aliases_of_error hw
    have hne : (init (resources driver catalog) o ⟨.unstarted, w⟩).1 ≠ .ok () := by simp [hend]
    rw [activate_of_init_ne_ok host hne, hend]
    exact .failed rfl rfl hw'
  | panic text =>
    have hne : (init (resources driver catalog) o ⟨.unstarted, w⟩).1 ≠ .ok () := by simp [hend]
    rw [activate_of_init_ne_ok host hne, hend]
    exact .panicked

/-- Every allowed call is one of the steps. -/
theorem perform_step (driver : Driver) (catalog : Catalog) (o : Options) (call : Call) (host : Host)
    (l : Life World) (hl : l.state = call.operation.allowedIn)
    (hw : l.state ≠ .ready → l.world.aliases = []) :
    Step o call host l (perform (resources driver catalog) o call host l) := by
  obtain ⟨state, w⟩ := l
  cases call with
  | init =>
    obtain rfl : state = .unstarted := hl
    have hnil : w.aliases = [] := hw (by simp)
    have hs := init_start driver catalog o w
    rw [perform_init]
    generalize init (resources driver catalog) o ⟨.unstarted, w⟩ = end_ at hs ⊢
    obtain ⟨outcome, state, w'⟩ := end_
    cases outcome with
    | ok u =>
      obtain ⟨rfl, c, hc, hw'⟩ := hs.aliases_of_ok hnil
      exact .started (l := ⟨.unstarted, w⟩) rfl rfl hc hw' (by simp)
    | error e =>
      obtain ⟨rfl, hw'⟩ := hs.aliases_of_error hnil
      exact .failed rfl rfl hw'
    | panic text => exact .panicked
  | activate =>
    obtain rfl : state = .unstarted := hl
    exact activate_step driver catalog o host w (hw (by simp))
  | close =>
    obtain rfl : state = .ready := hl
    have hc := close_closes driver catalog w
    have hstate := close_state_of_ready (r := resources driver catalog) (l := ⟨.ready, w⟩) rfl
    rw [perform_close]
    generalize close (resources driver catalog) ⟨.ready, w⟩ = end_ at hc hstate ⊢
    obtain ⟨outcome, state, w'⟩ := end_
    obtain rfl : state = .closed := hstate
    exact .closed rfl rfl (aliases_eq_nil_iff.mpr (hc.pools_eq_empty fun _ ha => ha))
  | registerHandlers =>
    obtain rfl : state = .ready := hl
    obtain ⟨v, hv, hk⟩ := registerHandlers_keeps driver catalog host w
    rw [perform, hv]
    exact .registered rfl rfl hk.aliases

/-! ## All calls -/

namespace Agrees

variable {o : Options} {calls : List Record} {l : Life World} {x : Record}

theorem initial {w : World} (hw : w.aliases = []) : Agrees o [] ⟨.unstarted, w⟩ where
  settled := by simp
  aliases_of_ready h := by cases h
  aliases_of_not_ready _ := hw
  aliases_sorted := w.pools.keys_sorted
  starts := rfl
  closes := rfl

/-- The files of the next moment do not matter. -/
theorem withDisk (h : Agrees o calls l) (disk : Disk) : Agrees o calls (l.withDisk disk) :=
  ⟨h.settled, h.aliases_of_ready, h.aliases_of_not_ready, h.aliases_sorted, h.starts, h.closes⟩

/-- A call that neither starts nor closes leaves state and aliases. -/
theorem quiet {l' : Life World} (h : Agrees o calls l) (hs : x.starts = false)
    (hc : x.closes = false) (hstate : l'.state = l.state)
    (haliases : l'.world.aliases = l.world.aliases) : Agrees o (calls ++ [x]) l' where
  settled := by rw [hstate]; exact h.settled
  aliases_of_ready hr := by
    obtain ⟨s, hmem, hs', c, hload, hkeys⟩ := h.aliases_of_ready (hstate ▸ hr)
    exact ⟨s, List.mem_append_left _ hmem, hs', c, hload, haliases.trans hkeys⟩
  aliases_of_not_ready hr := haliases.trans (h.aliases_of_not_ready (hstate ▸ hr))
  aliases_sorted := l'.world.pools.keys_sorted
  starts := by rw [List.countP_append, List.countP_singleton, hs, h.starts, hstate]; rfl
  closes := by rw [List.countP_append, List.countP_singleton, hc, h.closes, hstate]; rfl

theorem start {w : World} {c : Config} (h : Agrees o calls l) (hl : l.state = .unstarted)
    (hs : x.starts) (hc : x.closes = false)
    (hload : o.load x.before.world.disk.text? = .ok c) (hw : w.aliases = c.connections.keys) :
    Agrees o (calls ++ [x]) ⟨.ready, w⟩ where
  settled := by simp
  aliases_of_ready _ := ⟨x, by simp, hs, c, hload, hw⟩
  aliases_of_not_ready hr := absurd rfl hr
  aliases_sorted := w.pools.keys_sorted
  starts := by simp [List.countP_append, hs, h.starts, hl]
  closes := by simp [List.countP_append, hc, h.closes, hl]

theorem close {w : World} (h : Agrees o calls l) (hl : l.state = .ready) (hs : x.starts = false)
    (hc : x.closes) (hw : w.aliases = []) : Agrees o (calls ++ [x]) ⟨.closed, w⟩ where
  settled := by simp
  aliases_of_ready hr := by cases hr
  aliases_of_not_ready _ := hw
  aliases_sorted := w.pools.keys_sorted
  starts := by simp [List.countP_append, hs, h.starts, hl]
  closes := by simp [List.countP_append, hc, h.closes, hl]

end Agrees

section Record

variable {o : Options} {calls : List Record} {l : Life World} {m : Moment}
  {outcome : Outcome Error Unit} {host : Host} {after : Life World}

/-- A call that its state allows is regular. -/
theorem Step.regular (h : Step o m.call m.host l (outcome, host, after))
    (hallowed : l.state = m.call.operation.allowedIn) (hp : outcome.isPanic = false) :
    Record.Regular o ⟨m, l, outcome, host, after⟩ := by
  have hrefused : l.state ≠ m.call.operation.allowedIn →
      outcome = .error (.lifecycle m.call.operation l.state) ∧ after = l ∧ host = m.host :=
    fun hne => absurd hallowed hne
  cases h with
  | failed hcall hl hw =>
    have hclose : m.call ≠ .close := fun hc => by rw [hc] at hcall; cases hcall
    exact
      { transition := .inl hl.symm
        ready_of_starts := fun hx => by simp [Record.starts] at hx
        closed_of_closes := fun hx => by simp [Record.closes, hclose] at hx
        refused := hrefused
        registers := fun hc => by rw [hc] at hcall; cases hcall
        host := by simp [Record.equips] }
  | started hcall hl hc hw hhost =>
    have hclose : m.call ≠ .close := fun hc => by rw [hc] at hcall; cases hcall
    have hreg : m.call ≠ .registerHandlers := fun hc => by rw [hc] at hcall; cases hcall
    exact
      { transition := .inr (.inl ⟨hl, rfl, by simp [Record.starts, hcall]⟩)
        ready_of_starts := fun _ => rfl
        closed_of_closes := fun hx => by simp [Record.closes, hclose] at hx
        refused := hrefused
        registers := fun hc => absurd hc hreg
        host := by simp [Record.equips, hreg, hhost] }
  | panicked => cases hp
  | closed hcall hl hw =>
    exact
      { transition := .inr (.inr ⟨hl, rfl, by simp [Record.closes, hcall, hl]⟩)
        ready_of_starts := fun hx => by simp [Record.starts, hcall, Call.operation] at hx
        closed_of_closes := fun _ => rfl
        refused := hrefused
        registers := fun hc => by rw [hcall] at hc; cases hc
        host := by simp [Record.equips, hcall] }
  | registered hcall hl hw =>
    exact
      { transition := .inl hl.symm
        ready_of_starts := fun hx => by simp [Record.starts, hcall, Call.operation] at hx
        closed_of_closes := fun hx => by simp [Record.closes, hcall] at hx
        refused := hrefused
        registers := fun _ _ => rfl
        host := by simp [Record.equips, hcall] }

/-- A call that its state allows preserves the invariant. -/
theorem Agrees.step (h : Agrees o calls l) (hstep : Step o m.call m.host l (outcome, host, after))
    (hp : outcome.isPanic = false) :
    Agrees o (calls ++ [⟨m, l, outcome, host, after⟩]) after := by
  cases hstep with
  | failed hcall hl hw =>
    have hclose : m.call ≠ .close := fun hc => by rw [hc] at hcall; cases hcall
    have hnil : l.world.aliases = [] := h.aliases_of_not_ready (by rw [hl]; simp)
    exact h.quiet (by simp [Record.starts]) (by simp [Record.closes, hclose]) hl.symm
      (hw.trans hnil.symm)
  | started hcall hl hc hw hhost =>
    have hclose : m.call ≠ .close := fun hc => by rw [hc] at hcall; cases hcall
    exact h.start hl (by simp [Record.starts, hcall]) (by simp [Record.closes, hclose]) hc hw
  | panicked => cases hp
  | closed hcall hl hw =>
    exact h.close hl (by simp [Record.starts, hcall, Call.operation])
      (by simp [Record.closes, hcall, hl]) hw
  | registered hcall hl hw =>
    exact h.quiet (by simp [Record.starts, hcall, Call.operation])
      (by simp [Record.closes, hcall]) hl.symm hw

/-- A call that its state does not allow is regular and preserves the invariant. -/
theorem Agrees.refuse (h : Agrees o calls l) (hne : l.state ≠ m.call.operation.allowedIn) :
    Agrees o (calls ++ [⟨m, l, .error (.lifecycle m.call.operation l.state), m.host, l⟩]) l ∧
      Record.Regular o ⟨m, l, .error (.lifecycle m.call.operation l.state), m.host, l⟩ := by
  have hc : ¬ (m.call = .close ∧ l.state = .ready) := fun hc =>
    hne (by rw [hc.1, hc.2]; rfl)
  refine ⟨h.quiet (by simp [Record.starts]) (by simpa [Record.closes] using hc) rfl rfl, ?_⟩
  exact
    { transition := .inl rfl
      ready_of_starts := fun hx => by simp [Record.starts] at hx
      closed_of_closes := fun hx => absurd (by simpa [Record.closes] using hx) hc
      refused := fun _ => ⟨rfl, rfl, rfl⟩
      registers := fun hcall hready => absurd (by rw [hcall, hready]; rfl) hne
      host := by simp [Record.equips] }

end Record

/-- **Every call is regular and preserves the invariant**, unless it panics. -/
theorem Agrees.record {catalog : Catalog} {o : Options} {calls : List Record} {l : Life World}
    (h : Agrees o calls l) (m : Moment)
    (hp : (record catalog o l m).outcome.isPanic = false) :
    Agrees o (calls ++ [Life.record catalog o l m]) (Life.record catalog o l m).after ∧
      (Life.record catalog o l m).Regular o := by
  unfold Life.record at hp ⊢
  by_cases hallowed : l.state = m.call.operation.allowedIn
  · have hstep := perform_step m.driver catalog o m.call m.host l hallowed h.aliases_of_not_ready
    exact ⟨h.step hstep hp, hstep.regular hallowed hp⟩
  · rw [perform_of_not_allowed _ _ _ _ _ hallowed]
    exact h.refuse hallowed

/-- The invariant along a history, from any point of it. -/
theorem Agrees.history {catalog : Catalog} {o : Options} {ms : List Moment} {calls : List Record}
    {l : Life World} (h : Agrees o calls l)
    (hp : ∀ x ∈ Life.history catalog o l ms, x.outcome.isPanic = false) :
    ∀ pre x post, Life.history catalog o l ms = pre ++ x :: post →
      Agrees o (calls ++ pre ++ [x]) x.after ∧ x.Regular o := by
  induction ms generalizing calls l with
  | nil =>
    intro pre x post hx
    cases pre <;> cases hx
  | cons m r ih =>
    rw [Life.history] at hp ⊢
    obtain ⟨hm, hr⟩ := List.forall_mem_cons.mp hp
    have hstep := (h.withDisk m.disk).record m hm
    intro pre x post hx
    cases pre with
    | nil =>
      cases hx
      rwa [List.append_nil]
    | cons y pre =>
      obtain ⟨rfl, htail⟩ := List.cons_eq_cons.mp hx
      have hrest := ih hstep.1 hr pre x post htail
      rwa [List.append_assoc calls, List.singleton_append] at hrest

/-- **Over every history, state and registry agree.** A coordinator starts with nothing open, and is
called again and again; before each call files come and go, and at each the databases answer as they
like. If no call panics, then after every call the invariant holds, and every call is regular. -/
theorem history_regular (catalog : Catalog) (o : Options) (w : World) (ms : List Moment)
    (hw : w.aliases = [])
    (hp : ∀ x ∈ history catalog o ⟨.unstarted, w⟩ ms, x.outcome.isPanic = false) :
    (∀ pre x post, history catalog o ⟨.unstarted, w⟩ ms = pre ++ x :: post →
      Agrees o (pre ++ [x]) x.after ∧ x.Regular o) ∧
    (history catalog o ⟨.unstarted, w⟩ ms).countP Record.starts ≤ 1 ∧
    (history catalog o ⟨.unstarted, w⟩ ms).countP Record.closes ≤ 1 := by
  have hall := (Agrees.initial (o := o) hw).history hp
  refine ⟨hall, ?_⟩
  rcases List.eq_nil_or_concat (history catalog o ⟨.unstarted, w⟩ ms) with hnil | ⟨pre, x, hx⟩
  · rw [hnil]
    exact ⟨Nat.zero_le 1, Nat.zero_le 1⟩
  · rw [List.concat_eq_append] at hx
    have hlast := (hall pre x [] hx).1
    rw [hx]
    constructor
    · refine hlast.starts.le.trans ?_
      split <;> omega
    · refine hlast.closes.le.trans ?_
      split <;> omega

/-- A coordinator that fails to create its tables, starts nevertheless, and is closed. -/
def retried : List Moment :=
  [⟨.tableless, {}, .activate, {}⟩, ⟨.standard, {}, .registerHandlers, {}⟩,
    ⟨.standard, {}, .activate, {}⟩, ⟨.standard, {}, .close, {}⟩, ⟨.standard, {}, .init, {}⟩]

theorem history_regular_retried :
    (∀ x ∈ history .standard .oneFile ⟨.unstarted, {}⟩ retried, x.outcome.isPanic = false) ∧
      (history .standard .oneFile ⟨.unstarted, {}⟩ retried).countP Record.starts ≤ 1 :=
  ⟨by decide, (history_regular .standard .oneFile {} retried rfl (by decide)).2.1⟩

end Life

end DbLifecycle
