import DbLifecycle.Database.Resources

/-!
# Stages

A world whose calls are counted, and may go wrong when a script says so.

* `Cue`, `Script`: what calls do, one after another; when a script has come to its end they do their
  work.
* `Stage`: a world, what is left of its script, and the calls so far.
* `Stage.plain`, `Stage.scripted`: the resources of a stage, past its script and with it.
-/

namespace DbLifecycle

/-- What a call does. -/
inductive Cue where
  | work
  | fail
  | notFound
  | panic
  /-- Nothing is done, and success is reported. -/
  | skip
  deriving DecidableEq, Repr

/-- What calls do, in turn. -/
structure Script where
  opening : List Cue := []
  closing : List Cue := []
  generating : List Cue := []
  deriving DecidableEq, Repr

/-- A world with a script and counters. -/
structure Stage where
  world : World := {}
  script : Script := {}
  opens : Nat := 0
  closes : Nat := 0
  deriving DecidableEq

namespace Stage

/-- What the next call does. -/
def nextCue (cues : List Cue) : Cue := cues.head?.getD .work

/-- The stage with another world. -/
def setWorld (w : World) (s : Stage) : Stage := { s with world := w }

/-- Opens connections as the script says. -/
def openAll (c : Config) (s : Stage) : Outcome Error Unit × Stage :=
  let cue := nextCue s.script.opening
  let s := { s with
    opens := s.opens + 1, script := { s.script with opening := s.script.opening.tail } }
  match cue with
  | .fail => (.error (.connection (.custom "connection refused")), s)
  | .notFound => (.error (.connection (.recordNotFound "no database")), s)
  | .panic => (.panic "open panicked", s)
  | .skip => (.ok (), s)
  | .work => let (o, w) := s.world.openAll .standard c; (o, s.setWorld w)

/-- Closes all connections as the script says; a failure is reported after they have been closed. -/
def closeAll (s : Stage) : Outcome DbError Unit × Stage :=
  let cue := nextCue s.script.closing
  let s := { s with
    closes := s.closes + 1, script := { s.script with closing := s.script.closing.tail } }
  let (o, w) := s.world.closeAll .standard
  match cue with
  | .fail => (.error (.custom "close failed"), s.setWorld w)
  | .panic => (.panic "close panicked", s)
  | .skip => (.ok (), s)
  | _ => (o, s.setWorld w)

/-- The resources of the world, past the script. -/
def plain (catalog : Catalog) : Resources Stage :=
  (World.resources .standard catalog).zoom world setWorld

/-- Creates tables as the script says. -/
def generate (catalog : Catalog) (pool : Pool) (app : String) (models : List String) (s : Stage) :
    Outcome Error Unit × Stage :=
  let cue := nextCue s.script.generating
  let s := { s with script := { s.script with generating := s.script.generating.tail } }
  match cue with
  | .fail => (.error (.schema (.custom ("schema of " ++ app))), s)
  | .panic => (.panic "generate panicked", s)
  | _ => (plain catalog).generate pool app models s

/-- The resources of the world, with the script. -/
def scripted (catalog : Catalog) : Resources Stage :=
  { plain catalog with openAll, closeAll, generate := generate catalog }

end Stage

end DbLifecycle
