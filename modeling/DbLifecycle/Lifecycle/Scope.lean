import DbLifecycle.Lifecycle.Coordinator

/-!
# Scopes

* `Life.ScopeBody`: bodies, which are called first and run then.
* `Life.scope`: starts, runs a body, and closes whatever the run ends with. Its own panic or error
  wins over an error of closing. A panic of the call goes past the closing.
-/

namespace DbLifecycle

namespace Life

variable {σ ε α : Type}

/-- What calling a body gives. -/
inductive Called (φ : Type) where
  /-- What is left to run. -/
  | future (run : φ)
  /-- The call itself panics. -/
  | panic (text : String)

/-- The body of a scope. The call takes the host and may already change the world. -/
abbrev ScopeBody (σ ε α : Type) := Host → σ → Called (σ → Outcome ε α × σ) × σ

/-- A body that does nothing until it is run. -/
def ScopeBody.ofRun (run : Host → σ → Outcome ε α × σ) : ScopeBody σ ε α :=
  fun host w => (.future (run host), w)

/-- What a scope ends with, given how its body and the closing ended. A panic of the closing
supersedes everything. -/
def settle (r : Resources σ) (lift : Error → ε) :
    Outcome ε α → Outcome Error Unit × Life σ → Outcome ε α × Life σ
  | _, (.panic text, l) => (.panic text, l)
  | .panic text, (.error e, l) =>
    (.panic text, { l with world := r.log (.closeFailedAfterPanic e) l.world })
  | .error b, (.error e, l) =>
    (.error b, { l with world := r.log (.closeFailedAfterError e) l.world })
  | .ok _, (.error e, l) => (.error (lift e), l)
  | outcome, (.ok _, l) => (outcome, l)

/-- Starts, runs the body with the host, and closes. The body is not called if starting fails. -/
def scope (r : Resources σ) (o : Options) (lift : Error → ε) (body : ScopeBody σ ε α)
    (host : Host) (l : Life σ) : Outcome ε α × Life σ :=
  match activate r o host l with
  | (.ok _, host, l) =>
    match body host l.world with
    | (.future run, w) =>
      let (outcome, w) := run w
      settle r lift outcome (close r { l with world := w })
    -- only panics of the run are caught
    | (.panic text, w) => (.panic text, { l with world := w })
  | (.error e, _, l) => (.error (lift e), l)
  | (.panic text, _, l) => (.panic text, l)

end Life

end DbLifecycle
