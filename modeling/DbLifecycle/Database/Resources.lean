import DbLifecycle.Database.Generate
import DbLifecycle.Lifecycle.Resources

/-!
# The resources of a service

* `World.resources`: files, pools and tables of a world, as a coordinator drives them.
-/

namespace DbLifecycle

namespace World

variable (driver : Driver) (catalog : Catalog) (w : World)

/-- The resources of a world, with a driver and the entities of a catalog. Tables that are already
there are kept. -/
def resources : Resources World where
  readFile w := w.disk.text?
  openAll c w := w.openAll driver c
  closeAll w := w.closeAll driver
  aliases := World.aliases
  require := World.require
  validate apps := (catalog.validate apps).mapError .configuration
  generate pool app models w := w.generate driver catalog pool app models true
  log := World.log

@[simp] theorem resources_readFile : (resources driver catalog).readFile w = w.disk.text? := rfl

@[simp] theorem resources_openAll (c : Config) :
    (resources driver catalog).openAll c w = w.openAll driver c := rfl

@[simp] theorem resources_closeAll :
    (resources driver catalog).closeAll w = w.closeAll driver := rfl

@[simp] theorem resources_aliases : (resources driver catalog).aliases w = w.aliases := rfl

@[simp] theorem resources_require (aliasName : String) :
    (resources driver catalog).require w aliasName = w.require aliasName := rfl

@[simp] theorem resources_validate (apps : Dict App) :
    (resources driver catalog).validate apps =
      (catalog.validate apps).mapError .configuration := rfl

@[simp] theorem resources_generate (pool : Pool) (app : String) (models : List String) :
    (resources driver catalog).generate pool app models w =
      w.generate driver catalog pool app models true := rfl

@[simp] theorem resources_log (e : Event) : (resources driver catalog).log e w = w.log e := rfl

end World

end DbLifecycle
