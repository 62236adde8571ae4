import DbLifecycle.Config.Options
import DbLifecycle.Database.Pool
import DbLifecycle.Event
import DbLifecycle.Outcome

/-!
# Resources

What a coordinator drives, for any kind of world: files to read a configuration from, a registry of
connections, a generator of tables, and an observer.

* `Resources`: the operations on a world.
* `Resources.zoom`: the same operations on a larger world.
-/

namespace DbLifecycle

/-- The operations a coordinator needs on a world. -/
structure Resources (σ : Type) where
  /-- The text of a file. -/
  readFile : σ → String → Option String
  /-- Opens the connections of a configuration, all or none. -/
  openAll : Config → σ → Outcome Error Unit × σ
  /-- Closes all connections. -/
  closeAll : σ → Outcome DbError Unit × σ
  /-- The aliases of open connections, in order. -/
  aliases : σ → List String
  /-- The open pool of an alias. -/
  require : σ → (aliasName : String) → Except Error Pool
  /-- Checks the model locations of apps before anything is opened. -/
  validate : Dict App → Except Error Unit
  /-- Creates the missing tables of an app, given its name and locations, on a pool. -/
  generate : Pool → (app : String) → List String → σ → Outcome Error Unit × σ
  /-- Tells an observer. -/
  log : Event → σ → σ

namespace Resources

variable {σ τ : Type}

/-- Works on the part of a larger world. -/
def zoom (get : τ → σ) (set : σ → τ → τ) (r : Resources σ) : Resources τ where
  readFile w := r.readFile (get w)
  openAll c w := let (o, v) := r.openAll c (get w); (o, set v w)
  closeAll w := let (o, v) := r.closeAll (get w); (o, set v w)
  aliases w := r.aliases (get w)
  require w := r.require (get w)
  validate := r.validate
  generate pool app models w :=
    let (o, v) := r.generate pool app models (get w)
    (o, set v w)
  log e w := set (r.log e (get w)) w

end Resources

end DbLifecycle
