import DbLifecycle.Lifecycle.Scope

/-!
# Resources that cannot be told apart

A coordinator knows its resources by their operations only. If the operations of two resources
answer alike and keep their worlds related, whatever a coordinator does answers alike, too.

* `Alike`: equal outcomes and related worlds; `Life.Called.Alike`: calls that give alike.
* `Simulation`: two resources whose operations answer alike.
* **`Simulation.init`**, `Simulation.close`, `Simulation.activate`, `Simulation.scope`: a
  coordinator cannot tell them apart.
-/

namespace DbLifecycle

variable {σ τ ε α : Type} {P : Pool → Pool → Prop} {R : σ → τ → Prop}

/-- Equal outcomes and related worlds. -/
def Alike (R : σ → τ → Prop) (a : α × σ) (b : α × τ) : Prop := a.1 = b.1 ∧ R a.2 b.2

theorem Alike.exists_eq {a : α × σ} {b : α × τ} (h : Alike R a b) :
    ∃ x w v, a = (x, w) ∧ b = (x, v) ∧ R w v := by
  obtain ⟨x, w⟩ := a
  obtain ⟨y, v⟩ := b
  obtain ⟨rfl, hR⟩ := h
  exact ⟨x, w, v, rfl, rfl, hR⟩

/-- Equal states and related worlds. -/
def Life.Related (R : σ → τ → Prop) (l : Life σ) (m : Life τ) : Prop :=
  l.state = m.state ∧ R l.world m.world

/-- Calls that panic with the same text, or give runs that answer alike. -/
inductive Life.Called.Alike (R : σ → τ → Prop) :
    Called (σ → Outcome ε α × σ) → Called (τ → Outcome ε α × τ) → Prop
  | future {run : σ → Outcome ε α × σ} {run' : τ → Outcome ε α × τ}
      (h : ∀ {w v}, R w v → DbLifecycle.Alike R (run w) (run' v)) :
      Called.Alike R (.future run) (.future run')
  | panic (text : String) : Called.Alike R (.panic text) (.panic text)

/-- The operations of two resources answer alike on related worlds, and hand out related pools. -/
structure Simulation (P : Pool → Pool → Prop) (R : σ → τ → Prop) (r : Resources σ)
    (s : Resources τ) : Prop where
  readFile : ∀ {w v}, R w v → r.readFile w = s.readFile v
  openAll : ∀ c {w v}, R w v → Alike R (r.openAll c w) (s.openAll c v)
  closeAll : ∀ {w v}, R w v → Alike R (r.closeAll w) (s.closeAll v)
  aliases : ∀ {w v}, R w v → r.aliases w = s.aliases v
  require : ∀ a {w v}, R w v →
    (∃ e, r.require w a = .error e ∧ s.require v a = .error e) ∨
      ∃ p q, r.require w a = .ok p ∧ s.require v a = .ok q ∧ P p q
  validate : ∀ apps, r.validate apps = s.validate apps
  generate : ∀ {p q} app models {w v}, P p q → R w v →
    Alike R (r.generate p app models w) (s.generate q app models v)
  log : ∀ e {w v}, R w v → R (r.log e w) (s.log e v)

namespace Simulation

open Life

variable {r : Resources σ} {s : Resources τ} {w : σ} {v : τ}

/-! ## Starting -/

theorem generateEach (h : Simulation P R r s) (apps : List (String × App)) (hR : R w v) :
    Alike R (Life.generateEach r apps w) (Life.generateEach s apps v) := by
  induction apps generalizing w v with
  | nil => exact ⟨rfl, hR⟩
  | cons a rest ih =>
    obtain ⟨name, app⟩ := a
    rw [Life.generateEach, Life.generateEach]
    rcases h.require app.connection hR with ⟨e, hr, hs⟩ | ⟨p, q, hr, hs, hpq⟩
    · rw [hr, hs]
      exact ⟨rfl, hR⟩
    · rw [hr, hs]
      obtain ⟨outcome, w', v', ha, hb, hR'⟩ := (h.generate name app.models hpq hR).exists_eq
      dsimp only
      rw [ha, hb]
      cases outcome with
      | ok u => exact ih hR'
      | error e => exact ⟨rfl, hR'⟩
      | panic text => exact ⟨rfl, hR'⟩

theorem rollBack (h : Simulation P R r s) (e : Error) (hR : R w v) :
    Alike (Related R) (Life.rollBack r e w) (Life.rollBack s e v) := by
  obtain ⟨outcome, w', v', ha, hb, hR'⟩ := (h.closeAll hR).exists_eq
  rw [Life.rollBack, Life.rollBack, ha, hb]
  cases outcome with
  | ok u => exact ⟨rfl, rfl, hR'⟩
  | error closing => exact ⟨rfl, rfl, h.log _ hR'⟩
  | panic text => exact ⟨rfl, rfl, hR'⟩

theorem finishInit (h : Simulation P R r s) (generate : Bool) (c : Config) (hR : R w v) :
    Alike (Related R) (Life.finishInit r generate c w) (Life.finishInit s generate c v) := by
  unfold Life.finishInit
  cases generate with
  | false => exact ⟨rfl, rfl, hR⟩
  | true =>
    obtain ⟨outcome, w', v', ha, hb, hR'⟩ :=
      (h.generateEach c.apps.entries (h.log .generating hR)).exists_eq
    rw [if_pos rfl, if_pos rfl, ha, hb]
    cases outcome with
    | ok u => exact ⟨rfl, rfl, hR'⟩
    | error e => exact h.rollBack e hR'
    | panic text => exact ⟨rfl, rfl, hR'⟩

theorem openConfig (h : Simulation P R r s) (generate : Bool) (c : Config) (hR : R w v) :
    Alike (Related R) (Life.openConfig r generate c w) (Life.openConfig s generate c v) := by
  obtain ⟨outcome, w', v', ha, hb, hR'⟩ := (h.openAll c hR).exists_eq
  rw [Life.openConfig, Life.openConfig, ha, hb]
  cases outcome with
  | ok u =>
    dsimp only
    rw [h.aliases hR']
    exact h.finishInit generate c (h.log _ hR')
  | error e => exact ⟨rfl, rfl, hR'⟩
  | panic text => exact ⟨rfl, rfl, hR'⟩

/-- **Starting answers alike.** -/
theorem init (h : Simulation P R r s) (o : Options) {l : Life σ} {m : Life τ} (hl : Related R l m) :
    Alike (Related R) (Life.init r o l) (Life.init s o m) := by
  obtain ⟨state, w⟩ := l
  obtain ⟨state', v⟩ := m
  obtain ⟨rfl, hR⟩ := hl
  unfold Life.init
  by_cases hst : state = .unstarted
  · simp only [hst, if_true, h.readFile hR]
    cases o.load (s.readFile v) with
    | error e => exact ⟨rfl, rfl, hR⟩
    | ok c =>
      dsimp only
      rw [h.validate]
      cases s.validate c.apps with
      | error e => exact ⟨rfl, rfl, hR⟩
      | ok u => exact h.openConfig o.generateSchemas c hR
  · simp only [hst, if_false]
    exact ⟨rfl, rfl, hR⟩

/-! ## Closing, and hosts -/

/-- **Closing answers alike.** -/
theorem close (h : Simulation P R r s) {l : Life σ} {m : Life τ} (hl : Related R l m) :
    Alike (Related R) (Life.close r l) (Life.close s m) := by
  obtain ⟨state, w⟩ := l
  obtain ⟨state', v⟩ := m
  obtain ⟨rfl, hR⟩ := hl
  unfold Life.close
  by_cases hst : state = .ready
  · obtain ⟨outcome, w', v', ha, hb, hR'⟩ := (h.closeAll hR).exists_eq
    rw [if_pos hst, if_pos hst, ha, hb]
    cases outcome with
    | ok u => exact ⟨rfl, rfl, h.log _ hR'⟩
    | error e => exact ⟨rfl, rfl, hR'⟩
    | panic text => exact ⟨rfl, rfl, hR'⟩
  · rw [if_neg hst, if_neg hst]
    exact ⟨rfl, rfl, hR⟩

theorem installHandlers (h : Simulation P R r s) (host : Host) (hR : R w v) :
    Alike R (Life.installHandlers r host w) (Life.installHandlers s host v) :=
  ⟨rfl, h.log _ (h.log _ hR)⟩

theorem registerHandlers (h : Simulation P R r s) (host : Host) {l : Life σ} {m : Life τ}
    (hl : Related R l m) :
    Alike (Alike (Related R)) (Life.registerHandlers r host l)
      (Life.registerHandlers s host m) := by
  obtain ⟨state, w⟩ := l
  obtain ⟨state', v⟩ := m
  obtain ⟨rfl, hR⟩ := hl
  unfold Life.registerHandlers
  by_cases hst : state = .ready
  · rw [if_pos hst, if_pos hst]
    exact ⟨rfl, rfl, rfl, h.log _ (h.installHandlers host hR).2⟩
  · rw [if_neg hst, if_neg hst]
    exact ⟨rfl, rfl, rfl, hR⟩

/-- **Starting with a host answers alike.** -/
theorem activate (h : Simulation P R r s) (o : Options) (host : Host) {l : Life σ} {m : Life τ}
    (hl : Related R l m) :
    Alike (Alike (Related R)) (Life.activate r o host l) (Life.activate s o host m) := by
  obtain ⟨outcome, l', m', ha, hb, hl'⟩ := (h.init o hl).exists_eq
  rw [Life.activate, Life.activate, ha, hb]
  cases outcome with
  | ok u =>
    cases o.addHandlers with
    | false => exact ⟨rfl, rfl, hl'⟩
    | true => exact h.registerHandlers host hl'
  | error e => exact ⟨rfl, rfl, hl'⟩
  | panic text => exact ⟨rfl, rfl, hl'⟩

/-! ## Scopes -/

theorem settle (h : Simulation P R r s) (lift : Error → ε) (outcome : Outcome ε α)
    {a : Outcome Error Unit × Life σ} {b : Outcome Error Unit × Life τ}
    (hab : Alike (Related R) a b) :
    Alike (Related R) (Life.settle r lift outcome a) (Life.settle s lift outcome b) := by
  obtain ⟨closed, l, m, rfl, rfl, hl⟩ := hab.exists_eq
  cases closed with
  | ok u => cases outcome <;> exact ⟨rfl, hl⟩
  | error e =>
    cases outcome with
    | ok x => exact ⟨rfl, hl⟩
    | error e' => exact ⟨rfl, hl.1, h.log _ hl.2⟩
    | panic text => exact ⟨rfl, hl.1, h.log _ hl.2⟩
  | panic text => cases outcome <;> exact ⟨rfl, hl⟩

/-- **A scope answers alike** if its bodies do. -/
theorem scope (h : Simulation P R r s) (o : Options) (lift : Error → ε)
    {body : ScopeBody σ ε α} {body' : ScopeBody τ ε α}
    (hbody : ∀ host {w v}, R w v →
      Called.Alike R (body host w).1 (body' host v).1 ∧ R (body host w).2 (body' host v).2)
    (host : Host) {l : Life σ} {m : Life τ} (hl : Related R l m) :
    Alike (Related R) (Life.scope r o lift body host l) (Life.scope s o lift body' host m) := by
  obtain ⟨outcome, a, b, ha, hb, hab⟩ := (h.activate o host hl).exists_eq
  obtain ⟨host', l', m', rfl, rfl, hl'⟩ := hab.exists_eq
  rw [Life.scope, Life.scope, ha, hb]
  cases outcome with
  | ok u =>
    obtain ⟨hcall, hR⟩ := hbody host' hl'.2
    dsimp only
    generalize body host' l'.world = a at hcall hR ⊢
    generalize body' host' m'.world = b at hcall hR ⊢
    obtain ⟨called, w⟩ := a
    obtain ⟨called', v⟩ := b
    cases hcall with
    | future hrun =>
      obtain ⟨answer, w', v', hw, hv, hR'⟩ := (hrun hR).exists_eq
      dsimp only
      rw [hw, hv]
      exact h.settle lift answer (h.close ⟨hl'.1, hR'⟩)
    | panic text => exact ⟨rfl, hl'.1, hR⟩
  | error e => exact ⟨rfl, hl'⟩
  | panic text => exact ⟨rfl, hl'⟩

end Simulation

end DbLifecycle
