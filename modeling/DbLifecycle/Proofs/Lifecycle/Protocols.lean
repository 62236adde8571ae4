import DbLifecycle.Lifecycle.Background
import DbLifecycle.Proofs.Lifecycle.History
import DbLifecycle.Proofs.Lifecycle.Scope
import DbLifecycle.Proofs.Service.Visit

/-!
# Three ways to the same end

A service can be run in a scope, step by step, or by the hooks of its host. Whatever its options and
files are, and whatever is done with it while it runs, the three ways cannot be told apart.

* `Resources.beside`: resources that carry notes about a run, which nothing depends on.
* `Course`, `Life.stepByStep`, `Life.byHooks`: the two ways besides `Life.scope`.
* `Sight`, `Visit.watched`: what a visit sees of the service, noted down.
* **`Life.protocols_agree`**: the three ways agree.
-/

namespace DbLifecycle

variable {σ τ δ ε α : Type}

/-! ## Notes -/

/-- The same resources, beside notes. -/
def Resources.beside (δ : Type) (r : Resources σ) : Resources (σ × δ) :=
  r.zoom Prod.fst fun w p => (w, p.2)

/-- Related worlds with equal notes. -/
def Beside (R : σ → τ → Prop) (p : σ × δ) (q : τ × δ) : Prop := R p.1 q.1 ∧ p.2 = q.2

theorem Beside.equivalence {R : σ → σ → Prop} (h : Equivalence R) :
    Equivalence (Beside (δ := δ) R) where
  refl p := ⟨h.refl p.1, rfl⟩
  symm hR := ⟨h.symm hR.1, hR.2.symm⟩
  trans hR hR' := ⟨h.trans hR.1 hR'.1, hR.2.trans hR'.2⟩

theorem World.Like.equivalence : Equivalence World.Like where
  refl _ := ⟨rfl, rfl⟩
  symm h := ⟨h.disk.symm, h.links.symm⟩
  trans h h' := ⟨h.disk.trans h'.disk, h.links.trans h'.links⟩

/-- Notes do not tell resources apart. -/
theorem Simulation.beside {P : Pool → Pool → Prop} {R : σ → τ → Prop} {r : Resources σ}
    {s : Resources τ} (h : Simulation P R r s) :
    Simulation P (Beside R) (r.beside δ) (s.beside δ) where
  readFile hR := h.readFile hR.1
  openAll c _ _ hR := ⟨(h.openAll c hR.1).1, (h.openAll c hR.1).2, hR.2⟩
  closeAll hR := ⟨(h.closeAll hR.1).1, (h.closeAll hR.1).2, hR.2⟩
  aliases hR := h.aliases hR.1
  require a _ _ hR := h.require a hR.1
  validate := h.validate
  generate app models _ _ hpq hR :=
    ⟨(h.generate app models hpq hR.1).1, (h.generate app models hpq hR.1).2, hR.2⟩
  log e _ _ hR := ⟨h.log e hR.1, hR.2⟩

/-- Notes change nothing, and nothing changes the notes. -/
theorem Resources.beside_simulation (r : Resources σ) (notes : δ) :
    Simulation Eq (fun p w => p = (w, notes)) (r.beside δ) r where
  readFile h := by rw [h]; rfl
  openAll c {p w} h := by subst h; exact ⟨rfl, rfl⟩
  closeAll {p w} h := by subst h; exact ⟨rfl, rfl⟩
  aliases h := by rw [h]; rfl
  require a {p w} h := by
    subst h
    cases hr : r.require w a with
    | error e => exact .inl ⟨e, hr, rfl⟩
    | ok pool => exact .inr ⟨pool, pool, hr, rfl, rfl⟩
  validate _ := rfl
  generate {pool pool'} app models {p w} hpool h := by
    subst hpool h
    exact ⟨rfl, rfl⟩
  log e {p w} h := by subst h; rfl

/-! ## Ways to run a service -/

/-- How a service was run: what came of the start, and what was left at the end. -/
structure Course (σ : Type) where
  start : Outcome Error Unit
  state : State
  host : Host
  world : σ

namespace Life

/-- Starts with the host, runs the body, and closes whatever the body ends with. -/
def stepByStep (r : Resources σ) (o : Options) (body : Host → σ → Except ε α × σ) (host : Host)
    (w : σ) : Course σ :=
  match activate r o host ⟨.unstarted, w⟩ with
  | (.ok _, host, l) =>
    let (_, w) := body host l.world
    let (_, l) := close r { l with world := w }
    ⟨.ok (), l.state, host, l.world⟩
  | (stop, host, l) => ⟨stop, l.state, host, l.world⟩

/-- Hands a coordinator to the host, and runs the body between the hooks. -/
def byHooks (r : Resources σ) (o : Options) (body : Host → σ → Except ε α × σ) (host : Host)
    (w : σ) : Course σ :=
  let (b, host, w) := Background.register r o .unstarted host w
  match Background.startup r o b w with
  | (.ok _, b, w) =>
    let (_, w) := body host w
    let (_, b, w) := Background.shutdown r b w
    ⟨.ok (), b.state, host, w⟩
  | (stop, b, w) => ⟨stop, b.state, host, w⟩

/-- Runs the body in a scope. -/
def inScope (r : Resources σ) (o : Options) (lift : Error → ε)
    (body : Host → σ → Except ε α × σ) (host : Host) (w : σ) : Outcome ε α × Life σ :=
  scope r o lift (.ofRun fun host w => let (ending, w) := body host w; (.ofExcept ending, w)) host
    ⟨.unstarted, w⟩

end Life

/-- The host of a running service: it has the standard handlers if the options ask for them. -/
def Options.equip (o : Options) (host : Host) : Host :=
  if o.addHandlers then host.addStandardHandlers else host

/-! ## What a visit sees -/

/-- What a visit sees of a service, and how it ends. -/
structure Sight (ε α : Type) where
  handlers : ErrorKind → Option Handler
  connections : Dict Link
  replies : List Reply
  ending : Except ε α

/-- A visit that notes down what it sees. -/
def Visit.watched (driver : Driver) (visit : Visit ε α) (host : Host)
    (p : World × List (Sight ε α)) : Except ε α × (World × List (Sight ε α)) :=
  let ((replies, ending), w) := visit.run driver host p.1
  (ending, w, p.2 ++ [⟨host.handlers, p.1.links, replies, ending⟩])

theorem Visit.watched_alike (driver : Driver) {host host' : Host}
    (hhost : host.handlers = host'.handlers) (visit : Visit ε α)
    {p q : World × List (Sight ε α)} (h : Beside World.Like p q) :
    Alike (Beside World.Like) (visit.watched driver host p) (visit.watched driver host' q) := by
  obtain ⟨⟨replies, ending⟩, w, v, hw, hv, h'⟩ :=
    (visit.run_alike driver hhost h.1).exists_eq
  unfold Visit.watched
  rw [hw, hv, hhost, h.1.links, h.2]
  exact ⟨rfl, h', rfl⟩

namespace Life

open World

/-! ## Runs beside notes -/

section Beside

variable (r : Resources σ) (o : Options) (state : State) (w : σ) (notes : δ)

theorem init_beside : init (r.beside δ) o ⟨state, w, notes⟩ =
    ((init r o ⟨state, w⟩).1,
      ⟨(init r o ⟨state, w⟩).2.state, (init r o ⟨state, w⟩).2.world, notes⟩) := by
  obtain ⟨outcome, ⟨s, p⟩, m, ha, hb, hl⟩ :=
    ((Resources.beside_simulation r notes).init o (l := ⟨state, w, notes⟩) (m := ⟨state, w⟩)
      ⟨rfl, rfl⟩).exists_eq
  obtain ⟨rfl, rfl⟩ := hl
  rw [ha, hb]

theorem close_beside : close (r.beside δ) ⟨state, w, notes⟩ =
    ((close r ⟨state, w⟩).1,
      ⟨(close r ⟨state, w⟩).2.state, (close r ⟨state, w⟩).2.world, notes⟩) := by
  obtain ⟨outcome, ⟨s, p⟩, m, ha, hb, hl⟩ :=
    ((Resources.beside_simulation r notes).close (l := ⟨state, w, notes⟩) (m := ⟨state, w⟩)
      ⟨rfl, rfl⟩).exists_eq
  obtain ⟨rfl, rfl⟩ := hl
  rw [ha, hb]

end Beside

/-! ## Ways that start alike -/

section Ways

variable {P : Pool → Pool → Prop} {R : σ → σ → Prop} {r : Resources σ} {o : Options} {w v : σ}
  (body : Host → σ → Except ε α × σ)

/-- A host that takes part in a start is equipped, and only tells about that. -/
theorem activate_related (hR : Equivalence R) (hlog : ∀ e w, R (r.log e w) w) (host : Host)
    (hinit : init r o ⟨.unstarted, w⟩ = (.ok (), ⟨.ready, v⟩)) :
    ∃ v', activate r o host ⟨.unstarted, w⟩ = (.ok (), o.equip host, ⟨.ready, v'⟩) ∧ R v' v := by
  rw [activate_of_init_ok host hinit]
  unfold Options.equip
  cases o.addHandlers with
  | false => exact ⟨v, rfl, hR.refl v⟩
  | true => exact ⟨_, rfl, hR.trans (hlog _ _) (hR.trans (hlog _ _) (hlog _ _))⟩

/-- A host that is handed a coordinator is equipped at once, and only tells about that. -/
theorem register_related (hR : Equivalence R) (hlog : ∀ e w, R (r.log e w) w) (host : Host)
    (w : σ) : ∃ w', Background.register r o .unstarted host w =
      ({}, (o.equip host).installHooks, w') ∧ R w' w := by
  unfold Background.register Options.equip
  cases o.addHandlers with
  | false => exact ⟨_, rfl, hlog _ _⟩
  | true => exact ⟨_, rfl, hR.trans (hlog _ _) (hR.trans (hlog _ _) (hlog _ _))⟩

/-- The first hook gives what the start in the background gives. -/
theorem startup_scheduled (r : Resources σ) (o : Options) (w : σ) :
    Background.startup r o {} w =
      (Background.joined (init r o ⟨.unstarted, w⟩).1,
        ⟨(init r o ⟨.unstarted, w⟩).2.state, .taken⟩, (init r o ⟨.unstarted, w⟩).2.world) := rfl

/-- The end of a scope only tells about errors of closing. -/
theorem settle_related (hR : Equivalence R) (hlog : ∀ e w, R (r.log e w) w) (lift : Error → ε)
    (ending : Except ε α) (closing : Outcome Error Unit × Life σ) :
    R (settle r lift (.ofExcept ending) closing).2.world closing.2.world := by
  obtain ⟨outcome, l⟩ := closing
  cases outcome <;> cases ending <;> first | exact hR.refl _ | exact hlog _ _

/-- The ways agree if starting succeeds: the body is run after it on the same, and closing comes
after the body. -/
theorem ways_of_init_ok (hR : Equivalence R) (hlog : ∀ e w, R (r.log e w) w)
    (hS : Simulation P R r r) (host : Host) (lift : Error → ε)
    (hbody : ∀ {w v}, R w v → Alike R (body (o.equip host).installHooks w) (body (o.equip host) v))
    (hinit : init r o ⟨.unstarted, w⟩ = (.ok (), ⟨.ready, v⟩)) :
    ∃ v', R v' v ∧
      let l := (close r ⟨.ready, (body (o.equip host) v').2⟩).2
      stepByStep r o body host w = ⟨.ok (), .closed, o.equip host, l.world⟩ ∧
      (∃ w', byHooks r o body host w = ⟨.ok (), .closed, (o.equip host).installHooks, w'⟩ ∧
        R w' l.world) ∧
      R (inScope r o lift body host w).2.world l.world := by
  obtain ⟨v', hact, hv'⟩ := activate_related hR hlog host hinit
  obtain ⟨w₀, hreg, hw₀⟩ := register_related (o := o) hR hlog host w
  refine ⟨v', hv', ?_, ?_, ?_⟩
  · unfold stepByStep
    rw [hact]
    dsimp only
    rw [close_state_of_ready rfl]
  · -- the start in the background finds a world that has only been told of the registration
    obtain ⟨start, l, m, ha, hb, hl⟩ :=
      (hS.init o (l := ⟨.unstarted, w₀⟩) (m := ⟨.unstarted, w⟩) ⟨rfl, hw₀⟩).exists_eq
    rw [hinit] at hb
    cases hb
    obtain ⟨state, v₀⟩ := l
    obtain ⟨rfl, hv₀⟩ := hl
    obtain ⟨ending, u₀, u, hu₀, hu, hrel⟩ := (hbody (hR.trans hv₀ (hR.symm hv'))).exists_eq
    have hclose := hS.close (l := ⟨.ready, u₀⟩) (m := ⟨.ready, u⟩) ⟨rfl, hrel⟩
    refine ⟨(close r ⟨.ready, u₀⟩).2.world, ?_, ?_⟩
    · unfold byHooks
      rw [hreg]
      dsimp only
      rw [startup_scheduled, ha]
      dsimp only [Background.joined]
      rw [hu₀]
      dsimp only [Background.shutdown]
      rw [close_state_of_ready rfl]
    · rw [hu]
      exact hclose.2.2
  · unfold inScope scope
    rw [hact]
    exact settle_related hR hlog lift _ _

/-- The ways agree if starting does not succeed: the body is not run. -/
theorem ways_of_init_ne_ok (hR : Equivalence R) (hlog : ∀ e w, R (r.log e w) w)
    (hS : Simulation P R r r) (host : Host) {start : Outcome Error Unit} {l : Life σ}
    (hinit : init r o ⟨.unstarted, w⟩ = (start, l)) (hne : start ≠ .ok ()) :
    stepByStep r o body host w = ⟨start, l.state, host, l.world⟩ ∧
    ∃ w', byHooks r o body host w =
      ⟨Background.joined start, l.state, (o.equip host).installHooks, w'⟩ ∧ R w' l.world := by
  obtain ⟨w₀, hreg, hw₀⟩ := register_related (o := o) hR hlog host w
  obtain ⟨start', l', m, ha, hb, hl⟩ :=
    (hS.init o (l := ⟨.unstarted, w₀⟩) (m := ⟨.unstarted, w⟩) ⟨rfl, hw₀⟩).exists_eq
  have hact := activate_of_init_ne_ok host (by rw [hinit]; exact hne)
  rw [hinit] at hb hact
  cases hb
  refine ⟨?_, l'.world, ?_, hl.2⟩
  · unfold stepByStep
    rw [hact]
    cases start with
    | ok u => exact absurd rfl hne
    | error e => rfl
    | panic text => rfl
  · unfold byHooks
    rw [hreg]
    dsimp only
    rw [startup_scheduled, ha, ← hl.1]
    cases start with
    | ok u => exact absurd rfl hne
    | error e => rfl
    | panic text => rfl

end Ways

/-! ## Agreement -/

variable (driver : Driver) (catalog : Catalog)

/-- A closed service has no connection open. -/
theorem aliases_of_close (w : World) :
    (close (resources driver catalog) ⟨.ready, w⟩).2.world.aliases = [] :=
  aliases_eq_nil_iff.mpr ((close_closes driver catalog w).pools_eq_empty fun _ ha => ha)

/-- **The three ways to run a service agree**, whatever its options, its entities, and the files
before it are, and whatever is done with it. If it starts, every visit sees the same handlers,
connections and replies, and leaves the same files and no connection behind. If it does not start,
no visit takes place, and the error is the same. The hooks of a host differ in equipping it before
the start, and in telling of a panic as an error. -/
theorem protocols_agree (o : Options) (disk : Disk) (host : Host) (lift : Error → ε)
    (visit : Visit ε α) :
    let r := (resources driver catalog).beside (List (Sight ε α))
    let w : World × List (Sight ε α) := ({ disk }, [])
    let enclosed := inScope r o lift (visit.watched driver) host w
    let stepped := stepByStep r o (visit.watched driver) host w
    let hooked := byHooks r o (visit.watched driver) host w
    let (start, began) := init (resources driver catalog) o ⟨.unstarted, { disk }⟩
    stepped.start = start ∧ hooked.start = Background.joined start ∧
    Beside Like enclosed.2.world stepped.world ∧ Beside Like hooked.world stepped.world ∧
    match start with
    | .ok _ =>
      (∃ sight : Sight ε α, stepped.world.2 = [sight] ∧ sight.connections = began.world.links ∧
        sight.handlers = (o.equip host).handlers) ∧
      stepped.world.1.aliases = [] ∧ stepped.state = .closed ∧ hooked.state = .closed ∧
      stepped.host = o.equip host ∧ hooked.host = (o.equip host).installHooks
    | .error e =>
      enclosed.1 = .error (lift e) ∧ stepped.world.2 = [] ∧ stepped.world.1.aliases = [] ∧
      stepped.state = .unstarted ∧ hooked.state = .unstarted ∧
      stepped.host = host ∧ hooked.host = (o.equip host).installHooks
    | .panic text => enclosed.1 = .panic text ∧ stepped.world.2 = [] := by
  have hR : Equivalence (Beside (δ := List (Sight ε α)) Like) := Beside.equivalence Like.equivalence
  have hlog : ∀ e (p : World × List (Sight ε α)),
      Beside Like (((resources driver catalog).beside _).log e p) p :=
    fun e p => ⟨⟨rfl, rfl⟩, rfl⟩
  have hS := (like_simulation driver catalog).beside (δ := List (Sight ε α))
  have hinit := init_beside (resources driver catalog) o .unstarted { disk } ([] : List (Sight ε α))
  have hstart := init_start driver catalog o { disk }
  generalize hend : init (resources driver catalog) o ⟨.unstarted, { disk }⟩ = end_ at hinit hstart
  obtain ⟨start, state, v⟩ := end_
  dsimp only at hinit ⊢
  cases start with
  | ok u =>
    obtain rfl : state = .ready := init_state_of_ok hend
    have hhandlers : (o.equip host).installHooks.handlers = (o.equip host).handlers := rfl
    obtain ⟨v', hv', hstepped, ⟨w', hhooked, hw'⟩, hinside⟩ :=
      ways_of_init_ok (visit.watched driver) hR hlog hS host lift
        (fun h => visit.watched_alike driver hhandlers h) hinit
    rw [hstepped, hhooked]
    refine ⟨rfl, rfl, hinside, hw', ?_, ?_, rfl, rfl, rfl, rfl⟩
    · obtain ⟨u, notes⟩ := v'
      obtain rfl : notes = [] := hv'.2
      rw [close_beside]
      exact ⟨_, rfl, hv'.1.links, rfl⟩
    · rw [close_beside]
      exact aliases_of_close driver catalog _
  | error e =>
    obtain ⟨hstate, haliases⟩ := hstart.aliases_of_error rfl
    obtain ⟨hstepped, w', hhooked, hw'⟩ :=
      ways_of_init_ne_ok (visit.watched driver) hR hlog hS host hinit (by simp)
    have hinside := scope_of_init_error (congrArg Prod.fst hinit) lift
      (.ofRun fun host p => let (ending, p) := visit.watched driver host p; (.ofExcept ending, p))
      host
    rw [hinit] at hinside
    rw [inScope, hinside, hstepped, hhooked]
    exact ⟨rfl, rfl, hR.refl _, hw', rfl, rfl, haliases, hstate, hstate, rfl, rfl⟩
  | panic text =>
    obtain ⟨hstepped, w', hhooked, hw'⟩ :=
      ways_of_init_ne_ok (visit.watched driver) hR hlog hS host hinit (by simp)
    have hinside := scope_of_init_panic (congrArg Prod.fst hinit) lift
      (.ofRun fun host p => let (ending, p) := visit.watched driver host p; (.ofExcept ending, p))
      host
    rw [hinit] at hinside
    rw [inScope, hinside, hstepped, hhooked]
    exact ⟨rfl, rfl, hR.refl _, hw', rfl, rfl⟩

end Life

end DbLifecycle
