import DbLifecycle.Database.Registry

/-!
# Creating tables

* `World.generate`: creates the tables of an app on its connection.
* `World.createEach`: the statements one after another, up to the first that fails.
-/

namespace DbLifecycle

namespace World

variable (driver : Driver)

/-- Creates the tables of entities one after another; the first failure ends it. -/
def createEach (w : World) (link : Link) (safe : Bool) : List Entity → Outcome Error Unit × World
  | [] => (.ok (), w)
  | e :: r =>
    match driver.create link safe e w.disk with
    | .ok disk => createEach { w with disk } link safe r
    | .error e => (.error (.schema e), w)

/-- Creates the tables at some locations on a pool, in the name of an app. -/
def generate (w : World) (catalog : Catalog) (pool : Pool) (app : String) (models : List String)
    (safe : Bool) : Outcome Error Unit × World :=
  let entities := catalog.entities models
  if entities.isEmpty then (.ok (), w.log (.noModels app))
  else
    (w.log (.creating app (catalog.schema pool.dialect models safe))).createEach driver pool.toLink
      safe entities

end World

end DbLifecycle
