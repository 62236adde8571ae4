import DbLifecycle.Database.Generate
import DbLifecycle.Proofs.Walk
import Mathlib.Data.List.Induction

/-!
# What a catalog renders and executes

A catalog is built call by call: a call names a location, or registers an entity at one. From it
statements are rendered and executed, and apps are checked against it.

* `Catalog.Call`, `Catalog.ofCalls`: the calls, and the catalog they build.
* `Catalog.get?_ofCalls`: a location holds what was registered at it, in that order.
* `Catalog.schema_flatten`: the text of several lists of locations.
* `Entity.createStatement_eq`: a safe statement is the other one with three words more.
* `World.Execution`: statements are executed one after another, up to the first that fails.
* `World.generate_executes`, `World.generate_executing`: what is executed for a list of locations.
* **`Catalog.rendering`**: what is rendered, what is accepted and what is executed.
-/

namespace DbLifecycle

/-! ## Texts with separators -/

/-- Texts of several lists may be joined list by list, if those without text are left out. -/
theorem intercalate_flatten {sep : String} {parts : List (List String)}
    (h : ∀ part ∈ parts, part ≠ [] → sep.intercalate part ≠ "") :
    sep.intercalate parts.flatten =
      sep.intercalate ((parts.map sep.intercalate).filter (· ≠ "")) := by
  induction parts with
  | nil => rfl
  | cons part rest ih =>
    obtain ⟨hpart, hrest⟩ := List.forall_mem_cons.mp h
    have htail := ih hrest
    rw [List.flatten_cons, List.map_cons]
    by_cases hnil : part = []
    · subst hnil
      rw [List.nil_append, String.intercalate_nil, List.filter_cons_of_neg (by simp)]
      exact htail
    · have hkept : sep.intercalate part ≠ "" := hpart hnil
      rw [List.filter_cons_of_pos (by simpa using hkept)]
      by_cases hflat : rest.flatten = []
      · -- no text follows, so that nothing is left of the rest
        have hnone : (rest.map sep.intercalate).filter (· ≠ "") = [] := by
          refine List.filter_eq_nil_iff.mpr fun text htext => ?_
          obtain ⟨other, hother, rfl⟩ := List.mem_map.mp htext
          rw [List.flatten_eq_nil_iff.mp hflat other hother]
          simp
        rw [hflat, hnone, List.append_nil, String.intercalate_singleton]
      · have hsome : (rest.map sep.intercalate).filter (· ≠ "") ≠ [] := by
          intro hnone
          refine hflat (List.flatten_eq_nil_iff.mpr fun other hother => ?_)
          by_contra hne
          have hempty := List.filter_eq_nil_iff.mp hnone _ (List.mem_map_of_mem hother)
          exact hrest other hother hne (by simpa using hempty)
        rw [String.intercalate_append_of_ne_nil hnil hflat, htail,
          String.intercalate_cons_of_ne_nil hsome]

/-! ## Statements -/

/-- What a statement says behind its first words. -/
def Entity.description (d : Dialect) (e : Entity) : String :=
  d.quoted e.name ++ " ( " ++ ", ".intercalate (e.definitions d) ++ " );"

/-- **A safe statement is the other one with three words more.** -/
theorem Entity.createStatement_eq (d : Dialect) (e : Entity) :
    e.createStatement d false = "CREATE TABLE " ++ e.description d ∧
      e.createStatement d true = "CREATE TABLE IF NOT EXISTS " ++ e.description d := by
  have hwords : "CREATE TABLE IF NOT EXISTS " = "CREATE TABLE " ++ "IF NOT EXISTS " := rfl
  rw [hwords]
  unfold createStatement description
  simp only [Bool.false_eq_true, if_false, if_true, String.append_empty, String.append_assoc,
    and_self]

theorem Entity.createStatement_ne_empty (d : Dialect) (safe : Bool) (e : Entity) :
    e.createStatement d safe ≠ "" := by
  cases safe
  · rw [(createStatement_eq d e).1]
    simp
  · rw [(createStatement_eq d e).2]
    simp

namespace Catalog

/-! ## Building -/

/-- A call that builds a catalog: it names a location, or registers an entity at one. -/
inductive Call where
  | location (name : String)
  | entity (location : String) (e : Entity)

namespace Call

/-- The location that a call mentions. -/
def mentioned : Call → String
  | location name => name
  | entity name _ => name

/-- The entity that a call registers at a location. -/
def entityAt? (place : String) : Call → Option Entity
  | location _ => none
  | entity name e => if name = place then some e else none

/-- The catalog after a call. -/
def apply (c : Catalog) : Call → Catalog
  | location name => c.addLocation name
  | entity name e => c.register name e

end Call

/-- The catalog that calls build one after another. -/
def ofCalls (calls : List Call) : Catalog := calls.foldl Call.apply empty

/-- The entities that calls register at a location, in their order. -/
def registered (calls : List Call) (place : String) : List Entity :=
  calls.filterMap (Call.entityAt? place)

variable {c : Catalog} {calls : List Call} {d : Dialect} {models : List String} {safe : Bool}

/-- A call makes its location known, adds to it what it registers, and touches no other. -/
theorem Call.get?_apply (call : Call) (place : String) :
    (call.apply c).modules.get? place =
      if call.mentioned = place then
        some ((c.modules.get? place).getD [] ++ (call.entityAt? place).toList)
      else c.modules.get? place := by
  cases call with
  | location name =>
    rw [apply, addLocation, Dict.get?_insert]
    by_cases hplace : name = place
    · simp [mentioned, entityAt?, hplace]
    · simp [mentioned, hplace]
  | entity name e =>
    rw [apply, register, Dict.get?_insert]
    by_cases hplace : name = place
    · simp [mentioned, entityAt?, hplace]
    · simp [mentioned, hplace]

/-- A call that mentions another location registers nothing at this one. -/
theorem Call.entityAt?_eq_none {call : Call} {place : String} (h : call.mentioned ≠ place) :
    call.entityAt? place = none := by
  cases call with
  | location name => rfl
  | entity name e => exact if_neg h

theorem registered_of_notMem {place : String} (h : place ∉ calls.map Call.mentioned) :
    registered calls place = [] := by
  refine List.filterMap_eq_nil_iff.mpr fun call hcall => Call.entityAt?_eq_none ?_
  rintro rfl
  exact h (List.mem_map_of_mem hcall)

/-- **A location holds what was registered at it, in that order**; it is known if it was
mentioned. -/
theorem get?_ofCalls (calls : List Call) (place : String) :
    (ofCalls calls).modules.get? place =
      if place ∈ calls.map Call.mentioned then some (registered calls place) else none := by
  induction calls using List.reverseRecOn with
  | nil => rfl
  | append_singleton calls call ih =>
    have hstep : ofCalls (calls ++ [call]) = call.apply (ofCalls calls) := by
      rw [ofCalls, List.foldl_append]
      rfl
    have hregistered : registered (calls ++ [call]) place =
        registered calls place ++ (call.entityAt? place).toList := by
      rw [registered, List.filterMap_append, List.filterMap_cons, List.filterMap_nil]
      cases call.entityAt? place <;> rfl
    have hmentioned : place ∈ (calls ++ [call]).map Call.mentioned ↔
        place ∈ calls.map Call.mentioned ∨ call.mentioned = place := by
      rw [List.map_append, List.mem_append, List.map_singleton, List.mem_singleton]
      exact or_congr_right eq_comm
    rw [hstep, Call.get?_apply, ih, hregistered]
    by_cases hcall : call.mentioned = place
    · rw [if_pos hcall, if_pos (hmentioned.mpr (.inr hcall))]
      by_cases hplace : place ∈ calls.map Call.mentioned
      · rw [if_pos hplace, Option.getD_some]
      · rw [if_neg hplace, registered_of_notMem hplace, Option.getD_none]
    · rw [if_neg hcall, Call.entityAt?_eq_none hcall, Option.toList_none, List.append_nil]
      exact if_congr (by rw [hmentioned, or_iff_left hcall]) rfl rfl

/-- A location is known exactly if it was mentioned. -/
theorem contains_ofCalls_iff {place : String} :
    (ofCalls calls).contains place = true ↔ place ∈ calls.map Call.mentioned := by
  rw [contains, Dict.contains, get?_ofCalls]
  split <;> simp [*]

/-- The entities of a list of locations: place by place in the list what was registered there. -/
theorem entities_ofCalls (calls : List Call) (models : List String) :
    (ofCalls calls).entities models = models.flatMap (registered calls) := by
  refine List.flatMap_congr fun place _ => ?_
  rw [get?_ofCalls]
  split
  · rfl
  · rename_i hplace
    exact (registered_of_notMem hplace).symm

/-! ## Rendering -/

theorem statements_flatten (c : Catalog) (d : Dialect) (parts : List (List String)) (safe : Bool) :
    c.statements d parts.flatten safe =
      (parts.map fun models => c.statements d models safe).flatten := by
  induction parts with
  | nil => rfl
  | cons models rest ih =>
    rw [List.flatten_cons, List.map_cons, List.flatten_cons, ← ih]
    simp only [statements, entities, List.flatMap_append, List.map_append]

/-- Where there is a statement there is text. -/
theorem schema_ne_empty (h : c.statements d models safe ≠ []) : c.schema d models safe ≠ "" := by
  rw [schema]
  obtain ⟨text, rest, htexts⟩ := List.exists_cons_of_ne_nil h
  have htext : text ≠ "" := by
    have hmem : text ∈ c.statements d models safe := by
      rw [htexts]
      exact List.mem_cons_self
    obtain ⟨e, -, rfl⟩ := List.mem_map.mp hmem
    exact e.createStatement_ne_empty d safe
  rw [htexts]
  cases rest with
  | nil => rwa [String.intercalate_singleton]
  | cons other rest =>
    rw [String.intercalate_cons_cons]
    simp [htext]

/-- **The text of several lists of locations is that of each on a line of its own**, those without
text left out. -/
theorem schema_flatten (c : Catalog) (d : Dialect) (parts : List (List String)) (safe : Bool) :
    c.schema d parts.flatten safe =
      "\n".intercalate ((parts.map fun models => c.schema d models safe).filter (· ≠ "")) := by
  rw [schema, statements_flatten, intercalate_flatten, List.map_map]
  · rfl
  · intro part hpart hne
    obtain ⟨models, -, rfl⟩ := List.mem_map.mp hpart
    exact schema_ne_empty hne

/-! ## Acceptance -/

/-- Apps are accepted exactly if all their locations are known. -/
theorem validate_eq_ok_iff {apps : Dict App} : c.validate apps = .ok () ↔
    ∀ name app, apps.get? name = some app → ∀ place ∈ app.models, c.contains place = true := by
  unfold validate
  rw [forM_eq_ok_iff]
  constructor
  · intro h name app hname place hplace
    have hok := h (name, app) (Dict.get?_eq_some_iff.mp hname)
    dsimp only at hok
    split at hok
    · cases hok
    · rename_i hnone
      simpa using List.find?_eq_none.mp hnone place hplace
  · intro h a ha
    have hknown := h a.1 a.2 (Dict.get?_eq_some_iff.mpr ha)
    have hnone : a.2.models.find? (fun place => !c.contains place) = none :=
      List.find?_eq_none.mpr fun place hplace => by simp [hknown place hplace]
    dsimp only
    rw [hnone]

end Catalog

/-- A driver that creates the table of an entity by executing the statement for it. -/
def Driver.executing (driver : Driver) (run : Link → String → Disk → Except DbError Disk) :
    Driver where
  connect := driver.connect
  create link safe e := run link (e.createStatement link.dialect safe)
  close := driver.close

namespace World

/-! ## Execution -/

section

variable {α β : Type}

/-- Statements are executed one after another, and none of them fails. -/
inductive Executes (step : α → Disk → Except DbError Disk) : Disk → List α → Disk → Prop
  | nil (d : Disk) : Executes step d [] d
  | cons {d d₁ d' : Disk} {a : α} {r : List α} (ha : step a d = .ok d₁)
      (hr : Executes step d₁ r d') : Executes step d (a :: r) d'

/-- How executing statements ends: with all of them, or at the first that fails. Nothing but the
disk changes. -/
inductive Execution (step : α → Disk → Except DbError Disk) (as : List α) (w : World) :
    Outcome Error Unit × World → Prop
  | all {disk : Disk} (h : Executes step w.disk as disk) :
      Execution step as w (.ok (), { w with disk })
  | upTo {done rest : List α} {a : α} {disk : Disk} {cause : DbError}
      (has : as = done ++ a :: rest) (h : Executes step w.disk done disk)
      (ha : step a disk = .error cause) :
      Execution step as w (.error (.schema cause), { w with disk })

variable {f : α → β} {step : β → Disk → Except DbError Disk} {as : List α}

theorem Executes.map {d d' : Disk} (h : Executes (fun a => step (f a)) d as d') :
    Executes step d (as.map f) d' := by
  induction h with
  | nil d => exact .nil d
  | cons ha _ ih => exact .cons ha ih

/-- What stands for statements may be replaced by them. -/
theorem Execution.map {w : World} {end_ : Outcome Error Unit × World}
    (h : Execution (fun a => step (f a)) as w end_) : Execution step (as.map f) w end_ := by
  cases h with
  | all h => exact .all h.map
  | upTo has h ha => exact .upTo (by rw [has, List.map_append, List.map_cons]) h.map ha

end

theorem createEach_executes (driver : Driver) (link : Link) (safe : Bool) (es : List Entity)
    (w : World) : Execution (driver.create link safe) es w (w.createEach driver link safe es) := by
  induction es generalizing w with
  | nil => exact .all (.nil w.disk)
  | cons e r ih =>
    rw [createEach]
    cases he : driver.create link safe e w.disk with
    | error cause => exact .upTo (List.nil_append _).symm (.nil w.disk) he
    | ok disk =>
      dsimp only
      generalize hend : createEach driver { w with disk } link safe r = end_
      have hrest := ih { w with disk }
      rw [hend] at hrest
      cases hrest with
      | all h => exact .all (.cons he h)
      | upTo has h hfails => exact .upTo (by rw [has, List.cons_append]) (.cons he h) hfails

/-- The tables of a list of locations are created one after another, all of them or up to the first
that fails, and an observer is told the text of the statements before, if there are any. -/
theorem generate_executes (driver : Driver) (catalog : Catalog) (w : World) (pool : Pool)
    (app : String) (models : List String) (safe : Bool) :
    Execution (driver.create pool.toLink safe) (catalog.entities models)
      (w.log (if catalog.entities models = [] then .noModels app
        else .creating app (catalog.schema pool.dialect models safe)))
      (w.generate driver catalog pool app models safe) := by
  rw [generate]
  cases he : catalog.entities models with
  | nil => exact .all (.nil w.disk)
  | cons e r => exact createEach_executes driver pool.toLink safe (e :: r) _

/-- If the driver executes statements, these are the ones that are rendered. -/
theorem generate_executing (driver : Driver) (run : Link → String → Disk → Except DbError Disk)
    (catalog : Catalog) (w : World) (pool : Pool) (app : String) (models : List String)
    (safe : Bool) :
    Execution (run pool.toLink) (catalog.statements pool.dialect models safe)
      (w.log (if catalog.entities models = [] then .noModels app
        else .creating app (catalog.schema pool.dialect models safe)))
      (w.generate (driver.executing run) catalog pool app models safe) := by
  have hcreated : Execution (fun e => run pool.toLink (e.createStatement pool.dialect safe))
      (catalog.entities models) _ _ :=
    generate_executes (driver.executing run) catalog w pool app models safe
  exact hcreated.map

end World

namespace Catalog

/-- **What a catalog renders, accepts and executes.** Rendering gives a statement for each place of
the list of locations and each entity registered at that location, in this order, each on a line of
its own; the text of several lists is that of each, those without text left out. The safe text has
three words more in every statement. Apps are accepted exactly if every location they list was
mentioned in a call, and then none of them is skipped. The tables are created one after another, up
to the first that fails. A driver that executes statements executes those that are rendered for the
dialect of the connection, in this order, and an observer is told their text before. -/
theorem rendering (calls : List Call) :
    (∀ d models safe, (ofCalls calls).schema d models safe =
      "\n".intercalate ((models.flatMap (registered calls)).map (Entity.createStatement d safe))) ∧
    (∀ d (parts : List (List String)) safe, (ofCalls calls).schema d parts.flatten safe =
      "\n".intercalate
        ((parts.map fun models => (ofCalls calls).schema d models safe).filter (· ≠ ""))) ∧
    (∀ d, ∃ tail : Entity → String, ∀ models,
      (ofCalls calls).schema d models false = "\n".intercalate
        ((models.flatMap (registered calls)).map fun e => "CREATE TABLE " ++ tail e) ∧
      (ofCalls calls).schema d models true = "\n".intercalate
        ((models.flatMap (registered calls)).map fun e =>
          "CREATE TABLE IF NOT EXISTS " ++ tail e)) ∧
    (∀ apps : Dict App,
      ((ofCalls calls).validate apps = .ok () ↔ ∀ name app, apps.get? name = some app →
        ∀ place ∈ app.models, place ∈ calls.map Call.mentioned) ∧
      ((ofCalls calls).validate apps = .ok () → ∀ name app, apps.get? name = some app →
        ∀ place ∈ app.models,
          (ofCalls calls).modules.get? place = some (registered calls place))) ∧
    ∀ (driver : Driver) (w : World) (pool : Pool) (app : String) (models : List String)
      (safe : Bool),
      let told := w.log (if models.flatMap (registered calls) = [] then .noModels app
        else .creating app ((ofCalls calls).schema pool.dialect models safe))
      World.Execution (driver.create pool.toLink safe) (models.flatMap (registered calls)) told
        (w.generate driver (ofCalls calls) pool app models safe) ∧
      ∀ run : Link → String → Disk → Except DbError Disk,
        World.Execution (run pool.toLink)
          ((models.flatMap (registered calls)).map (Entity.createStatement pool.dialect safe)) told
          (w.generate (driver.executing run) (ofCalls calls) pool app models safe) := by
  have hschema : ∀ d models safe, (ofCalls calls).schema d models safe =
      "\n".intercalate
        ((models.flatMap (registered calls)).map (Entity.createStatement d safe)) := by
    intro d models safe
    rw [schema, statements, entities_ofCalls]
  refine ⟨hschema, fun d parts safe => schema_flatten _ d parts safe,
    fun d => ⟨Entity.description d, fun models => ⟨?_, ?_⟩⟩,
    fun apps => ⟨?_, fun hvalid name app happ place hplace => ?_⟩,
    fun driver w pool app models safe => ⟨?_, fun run => ?_⟩⟩
  · rw [hschema]
    exact congrArg _ (List.map_congr_left fun e _ => (e.createStatement_eq d).1)
  · rw [hschema]
    exact congrArg _ (List.map_congr_left fun e _ => (e.createStatement_eq d).2)
  · simp only [validate_eq_ok_iff, contains_ofCalls_iff]
  · rw [get?_ofCalls, if_pos]
    exact contains_ofCalls_iff.mp (validate_eq_ok_iff.mp hvalid name app happ place hplace)
  · rw [← entities_ofCalls]
    exact World.generate_executes driver (ofCalls calls) w pool app models safe
  · rw [← entities_ofCalls]
    exact World.generate_executing driver run (ofCalls calls) w pool app models safe

/-- Apps that list a registered location and an empty one are accepted, and neither is skipped. -/
theorem rendering_users :
    let calls : List Call := [.entity "models" .users, .location "empty"]
    let apps : Dict App := .singleton "m" { models := ["models", "empty"] }
    (ofCalls calls).validate apps = .ok () ∧
      (ofCalls calls).modules.get? "models" = some [.users] ∧
      (ofCalls calls).modules.get? "empty" = some [] := by
  intro calls apps
  have hvalid : (ofCalls calls).validate apps = .ok () := by decide
  have hkept := ((rendering calls).2.2.2.1 apps).2 hvalid "m" _ rfl
  exact ⟨hvalid, hkept "models" (by decide), hkept "empty" (by decide)⟩

end Catalog

end DbLifecycle
