import DbLifecycle.Database.Resources
import DbLifecycle.Proofs.Lifecycle.Simulation

/-!
# What the past does not matter to

Worlds remember the numbers of their pools and all events, but nothing they do depends on that. Two
worlds with the same files and the same connections behave alike, however they got there.

* `World.links`: what the open pools lead to, by alias.
* `World.Like`: the same files and the same connections.
* **`World.like_simulation`**: a coordinator cannot tell such worlds apart.
-/

namespace DbLifecycle

namespace World

/-- What the open pools lead to, by alias. -/
def links (w : World) : Dict Link := w.pools.map fun _ p => p.toLink

/-- The same files and the same connections. -/
structure Like (w v : World) : Prop where
  disk : w.disk = v.disk
  links : w.links = v.links

theorem links_insert (d : Dict Pool) (a : String) (p : Pool) :
    (d.insert a p).map (fun _ p => p.toLink) =
      (d.map fun _ p => p.toLink).insert a p.toLink :=
  Dict.ext_get? fun k => by
    rw [Dict.get?_map, Dict.get?_insert, Dict.get?_insert, Dict.get?_map]
    split <;> rfl

theorem links_erase (d : Dict Pool) (a : String) :
    (d.erase a).map (fun _ p => p.toLink) = (d.map fun _ p => p.toLink).erase a :=
  Dict.ext_get? fun k => by
    rw [Dict.get?_map, Dict.get?_erase, Dict.get?_erase, Dict.get?_map]
    split <;> rfl

/-- Whether a place is reached is seen from the links. -/
theorem isReached_eq (w : World) (place : Place) :
    w.isReached place = w.links.values.any fun l => l.place = place := by
  unfold isReached links Dict.values Dict.map
  rw [List.map_map, List.any_map, List.any_map]
  rfl

namespace Like

variable {w v : World}

theorem aliases (h : Like w v) : w.aliases = v.aliases := by
  have hw : w.links.keys = w.aliases := Dict.keys_map _ _
  have hv : v.links.keys = v.aliases := Dict.keys_map _ _
  rw [← hw, ← hv, h.links]

theorem get? (h : Like w v) (a : String) :
    (w.pools.get? a).map (·.toLink) = (v.pools.get? a).map (·.toLink) := by
  have hw : w.links.get? a = (w.pools.get? a).map (·.toLink) := Dict.get?_map _ _ _
  have hv : v.links.get? a = (v.pools.get? a).map (·.toLink) := Dict.get?_map _ _ _
  rw [← hw, ← hv, h.links]

/-- An alias is open in both or in none, and leads to the same. -/
theorem get?_cases (h : Like w v) (a : String) :
    (w.pools.get? a = none ∧ v.pools.get? a = none) ∨
      ∃ p q, w.pools.get? a = some p ∧ v.pools.get? a = some q ∧ p.toLink = q.toLink := by
  have hlink := h.get? a
  cases hw : w.pools.get? a with
  | none =>
    cases hv : v.pools.get? a with
    | none => exact .inl ⟨rfl, rfl⟩
    | some q => simp [hw, hv] at hlink
  | some p =>
    cases hv : v.pools.get? a with
    | none => simp [hw, hv] at hlink
    | some q =>
      rw [hw, hv] at hlink
      exact .inr ⟨p, q, rfl, rfl, Option.some.inj hlink⟩

theorem setDisk (h : Like w v) (disk : Disk) : Like { w with disk } { v with disk } :=
  ⟨rfl, h.links⟩

/-- Different things may be recorded. -/
theorem log (h : Like w v) (e e' : Event) : Like (w.log e) (v.log e') := ⟨h.disk, h.links⟩

theorem erase (h : Like w v) (a : String) :
    Like { w with pools := w.pools.erase a } { v with pools := v.pools.erase a } where
  disk := h.disk
  links := by
    show (w.pools.erase a).map _ = (v.pools.erase a).map _
    rw [links_erase, links_erase]
    exact congrArg (·.erase a) h.links

theorem insert (h : Like w v) (a : String) (link : Link) (m n : Nat) :
    Like { w with pools := w.pools.insert a { link with id := m }, nextPool := w.nextPool + 1 }
      { v with pools := v.pools.insert a { link with id := n }, nextPool := v.nextPool + 1 } where
  disk := h.disk
  links := by
    show (w.pools.insert a _).map _ = (v.pools.insert a _).map _
    rw [links_insert, links_insert]
    exact congrArg (·.insert a link) h.links

theorem drop (h : Like w v) {p q : Pool} (hpq : p.toLink = q.toLink) :
    Like (w.drop p) (v.drop q) := by
  have hreached : w.isReached p.place = v.isReached q.place := by
    rw [isReached_eq, isReached_eq, h.links, hpq]
  unfold World.drop
  rw [hreached]
  split
  · exact h
  · exact ⟨by rw [h.disk, hpq], h.links⟩

/-! ## Closing -/

variable (driver : Driver)

theorem closePool (h : Like w v) (a : String) {p q : Pool} (hpq : p.toLink = q.toLink) :
    Alike Like (w.closePool driver a p) (v.closePool driver a q) := by
  have hd := h.drop hpq
  unfold World.closePool
  rw [hpq]
  cases driver.close q.toLink with
  | error e => exact ⟨rfl, hd.disk, hd.links⟩
  | ok u => exact ⟨rfl, hd.disk, hd.links⟩

theorem closeEach (h : Like w v) (aliases : List String) :
    Alike Like (w.closeEach driver aliases) (v.closeEach driver aliases) := by
  induction aliases generalizing w v with
  | nil => exact ⟨rfl, h⟩
  | cons a r ih =>
    rw [World.closeEach, World.closeEach]
    rcases h.get?_cases a with ⟨hw, hv⟩ | ⟨p, q, hw, hv, hpq⟩
    · rw [hw, hv]
      exact ih h
    · rw [hw, hv]
      obtain ⟨report, w', v', hw', hv', h'⟩ := ((h.erase a).closePool driver a hpq).exists_eq
      obtain ⟨reports, w'', v'', hw'', hv'', h''⟩ := (ih h').exists_eq
      dsimp only
      rw [hw', hv']
      dsimp only
      rw [hw'', hv'']
      exact ⟨rfl, h''⟩

theorem closeAliases (h : Like w v) (aliases : List String) :
    Alike Like (w.closeAliases driver aliases) (v.closeAliases driver aliases) := by
  obtain ⟨reports, w', v', hw, hv, h'⟩ := (h.closeEach driver aliases).exists_eq
  rw [World.closeAliases, World.closeAliases, hw, hv]
  dsimp only
  cases firstError? reports with
  | none => exact ⟨rfl, h'⟩
  | some e => exact ⟨rfl, h'.log _ _⟩

theorem closeAll (h : Like w v) : Alike Like (w.closeAll driver) (v.closeAll driver) := by
  unfold World.closeAll
  rw [h.aliases]
  exact h.closeAliases driver v.aliases

theorem undo (h : Like w v) (done : List String) :
    Like (w.undo driver done) (v.undo driver done) := by
  obtain ⟨outcome, w', v', hw, hv, h'⟩ := (h.closeAliases driver done).exists_eq
  rw [World.undo, World.undo, hw, hv]
  cases outcome with
  | ok u => exact h'
  | error e => exact h'.log _ _
  | panic text => exact h'

/-! ## Opening -/

theorem place (h : Like w v) (a : String) (link : Link) :
    Like (w.place a link) (v.place a link) := by
  have hi := h.insert a link w.nextPool v.nextPool
  unfold World.place
  rcases h.get?_cases a with ⟨hw, hv⟩ | ⟨p, q, hw, hv, hpq⟩
  · rw [hw, hv]
    exact hi.log _ _
  · rw [hw, hv]
    exact (hi.drop hpq).log _ _

theorem openEach (h : Like w v) (done : List String) (qs : List Request) :
    Alike Like (w.openEach driver done qs) (v.openEach driver done qs) := by
  induction qs generalizing w v done with
  | nil => exact ⟨rfl, h⟩
  | cons q r ih =>
    rw [World.openEach, World.openEach, h.disk]
    cases driver.openPool q.url q.settings v.disk with
    | ok opened => exact ih ((h.setDisk opened.1).place q.aliasName opened.2) _
    | error e => exact ⟨rfl, (h.log _ _).undo driver done⟩
    | panic text => exact ⟨rfl, h⟩

theorem openAll (h : Like w v) (c : Config) :
    Alike Like (w.openAll driver c) (v.openAll driver c) := by
  unfold World.openAll
  cases requests c with
  | error e => exact ⟨rfl, h⟩
  | ok qs => exact h.openEach driver [] qs

/-! ## Creating tables -/

theorem createEach (h : Like w v) (link : Link) (safe : Bool) (es : List Entity) :
    Alike Like (w.createEach driver link safe es) (v.createEach driver link safe es) := by
  induction es generalizing w v with
  | nil => exact ⟨rfl, h⟩
  | cons e r ih =>
    rw [World.createEach, World.createEach, h.disk]
    cases driver.create link safe e v.disk with
    | ok disk => exact ih (h.setDisk disk)
    | error cause => exact ⟨rfl, h⟩

theorem generate (h : Like w v) (catalog : Catalog) {p q : Pool} (hpq : p.toLink = q.toLink)
    (app : String) (models : List String) (safe : Bool) :
    Alike Like (w.generate driver catalog p app models safe)
      (v.generate driver catalog q app models safe) := by
  unfold World.generate
  rw [hpq]
  cases catalog.entities models with
  | nil => exact ⟨rfl, h.log _ _⟩
  | cons e r => exact (h.log _ _).createEach driver q.toLink safe (e :: r)

theorem require (h : Like w v) (a : String) :
    (∃ e, w.require a = .error e ∧ v.require a = .error e) ∨
      ∃ p q, w.require a = .ok p ∧ v.require a = .ok q ∧ p.toLink = q.toLink := by
  unfold World.require
  rcases h.get?_cases a with ⟨hw, hv⟩ | ⟨p, q, hw, hv, hpq⟩
  · rw [hw, hv]
    exact .inl ⟨_, rfl, rfl⟩
  · rw [hw, hv]
    exact .inr ⟨p, q, rfl, rfl, hpq⟩

end Like

/-- **A coordinator cannot tell worlds apart that have the same files and connections.** -/
theorem like_simulation (driver : Driver) (catalog : Catalog) :
    Simulation (fun p q => p.toLink = q.toLink) Like (resources driver catalog)
      (resources driver catalog) where
  readFile h := by rw [resources_readFile, resources_readFile, h.disk]
  openAll c _ _ h := h.openAll driver c
  closeAll h := h.closeAll driver
  aliases h := h.aliases
  require a _ _ h := h.require a
  validate _ := rfl
  generate app models _ _ hpq h := h.generate driver catalog hpq app models true
  log e _ _ h := h.log e e

end World

end DbLifecycle
