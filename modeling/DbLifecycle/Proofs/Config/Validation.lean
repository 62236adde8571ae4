import DbLifecycle.Config.Options
import DbLifecycle.Proofs.Config.Loading

/-!
# Which configurations are accepted

A configuration is accepted if it has connections and apps, every connection has a URL, and every
app lives on a connection that is there. Of several faults the first in this order is named, and of
those alike the one under the least alias or name.

* `Config.Valid`: what is accepted.
* `Config.FirstFault`: the fault that is named.
* `Dict.forM_entries_eq_error_iff`: a walk of a dictionary fails at the least key that fails.
* **`Config.validation`**: acceptance, the fault that is named, and what this means for one URL with
  modules.
-/

namespace DbLifecycle

/-! ## Walks of a dictionary -/

namespace Dict

variable {α ε : Type} {d : Dict α} {f : String → α → Except ε Unit}

theorem forM_entries_eq_ok_iff : (d.entries.forM fun a => f a.1 a.2) = .ok () ↔
    ∀ k v, d.get? k = some v → f k v = .ok () := by
  simp only [forM_eq_ok_iff, get?_eq_some_iff, Prod.forall]

/-- A walk of a dictionary fails at the least key that fails. -/
theorem forM_entries_eq_error_iff {e : ε} : (d.entries.forM fun a => f a.1 a.2) = .error e ↔
    ∃ k v, d.get? k = some v ∧ f k v = .error e ∧
      ∀ j w, j < k → d.get? j = some w → f j w = .ok () := by
  rw [forM_eq_error_iff]
  constructor
  · rintro ⟨before, ⟨k, v⟩, after, hentries, hbefore, hv⟩
    have hsorted := d.sorted
    rw [hentries] at hsorted
    obtain ⟨-, hafter, -⟩ := List.pairwise_append.mp hsorted
    refine ⟨k, v, get?_eq_some_iff.mpr (by rw [hentries]; simp), hv, fun j w hj hw => ?_⟩
    rw [get?_eq_some_iff, hentries, List.mem_append, List.mem_cons] at hw
    rcases hw with hw | hw | hw
    · exact forM_eq_ok_iff.mp hbefore _ hw
    · cases hw
      exact absurd hj (String.lt_irrefl _)
    · exact absurd (String.lt_trans hj (List.rel_of_pairwise_cons hafter hw)) (String.lt_irrefl _)
  · rintro ⟨k, v, hk, hv, hleast⟩
    obtain ⟨before, after, hentries⟩ := List.append_of_mem (get?_eq_some_iff.mp hk)
    have hsorted := d.sorted
    rw [hentries] at hsorted
    obtain ⟨-, -, hbefore⟩ := List.pairwise_append.mp hsorted
    refine ⟨before, (k, v), after, hentries, forM_eq_ok_iff.mpr fun a ha => ?_, hv⟩
    refine hleast a.1 a.2 (hbefore a ha (k, v) List.mem_cons_self) (get?_eq_some_iff.mpr ?_)
    rw [hentries]
    exact List.mem_append_left _ ha

end Dict

namespace Config

/-! ## What is accepted -/

/-- What an accepted configuration has. -/
structure Valid (c : Config) : Prop where
  connections : c.connections.isEmpty = false
  apps : c.apps.isEmpty = false
  urls : ∀ name spec, c.connections.get? name = some spec → ∃ url, spec.toUrl = .ok url
  homes : ∀ name app, c.apps.get? name = some app → app.connection ∈ c.connections.keys

/-- The fault that is named: the first of these, and of those alike the one of the least key. -/
inductive FirstFault (c : Config) : ConfigError → Prop
  | noConnections (h : c.connections.isEmpty = true) : FirstFault c .noConnections
  | noApps (hconnections : c.connections.isEmpty = false) (h : c.apps.isEmpty = true) :
    FirstFault c .noApps
  /-- The connection of an alias has no URL, and those of all smaller aliases do. -/
  | url {name : String} {spec : ConnectionSpec} {e : ConfigError}
    (hconnections : c.connections.isEmpty = false) (happs : c.apps.isEmpty = false)
    (hspec : c.connections.get? name = some spec) (he : spec.toUrl = .error e)
    (hleast : ∀ other spec', other < name → c.connections.get? other = some spec' →
      ∃ url, spec'.toUrl = .ok url) : FirstFault c e
  /-- An app lives on no connection, and all apps of smaller names live on one. -/
  | unknownConnection {name : String} {app : App}
    (hconnections : c.connections.isEmpty = false) (happs : c.apps.isEmpty = false)
    (hurls : ∀ other spec, c.connections.get? other = some spec → ∃ url, spec.toUrl = .ok url)
    (happ : c.apps.get? name = some app) (hunknown : app.connection ∉ c.connections.keys)
    (hleast : ∀ other app', other < name → c.apps.get? other = some app' →
      app'.connection ∈ c.connections.keys) :
    FirstFault c (.unknownConnection name app.connection)

/-! ## Validation -/

section Validate

variable {c : Config} {e : ConfigError}

/-- The check of one connection: it has a URL. -/
def checkUrl (spec : ConnectionSpec) : Except ConfigError Unit := spec.toUrl.map fun _ => ()

/-- The check of one app: its connection is there. -/
def checkHome (c : Config) (name : String) (app : App) : Except ConfigError Unit :=
  if c.connections.contains app.connection then .ok ()
  else .error (.unknownConnection name app.connection)

theorem checkUrl_eq_ok_iff {spec : ConnectionSpec} :
    checkUrl spec = .ok () ↔ ∃ url, spec.toUrl = .ok url := by
  simp [checkUrl, map_eq_ok_iff]

theorem checkUrl_eq_error_iff {spec : ConnectionSpec} :
    checkUrl spec = .error e ↔ spec.toUrl = .error e := by
  unfold checkUrl
  cases spec.toUrl <;> simp [Except.map]

theorem checkHome_eq_ok_iff {name : String} {app : App} :
    checkHome c name app = .ok () ↔ app.connection ∈ c.connections.keys := by
  rw [checkHome, ← Dict.contains_iff]
  split <;> simp_all

theorem checkHome_eq_error_iff {name : String} {app : App} :
    checkHome c name app = .error e ↔
      app.connection ∉ c.connections.keys ∧ e = .unknownConnection name app.connection := by
  rw [checkHome, ← Dict.contains_iff]
  cases c.connections.contains app.connection <;> simp [eq_comm]

/-- Where there are connections and apps, validation checks them all, in the order of their keys. -/
theorem validate_of_nonempty (hconnections : c.connections.isEmpty = false)
    (happs : c.apps.isEmpty = false) : c.validate =
      (c.connections.entries.forM fun a => checkUrl a.2) >>= fun _ =>
        c.apps.entries.forM fun a => checkHome c a.1 a.2 := by
  have hvalues : (c.connections.values.forM fun spec => do let _ ← spec.toUrl) =
      c.connections.entries.forM fun a => checkUrl a.2 := by
    rw [Dict.values, List.forM_eq_forM, List.forM_eq_forM, List.forM_map]
    rfl
  unfold validate
  rw [hconnections, happs, hvalues]
  rfl

/-- **What is accepted.** -/
theorem validate_eq_ok_iff_valid : c.validate = .ok () ↔ c.Valid := by
  rw [validate_eq_ok_iff]
  constructor
  · rintro ⟨hconnections, happs, hurls, hhomes⟩
    refine ⟨hconnections, happs, fun name spec hspec => ?_, fun name app happ => ?_⟩
    · exact hurls spec (List.mem_map_of_mem (Dict.get?_eq_some_iff.mp hspec))
    · exact hhomes _ (Dict.get?_eq_some_iff.mp happ)
  · rintro ⟨hconnections, happs, hurls, hhomes⟩
    refine ⟨hconnections, happs, fun spec hspec => ?_, fun a ha => ?_⟩
    · obtain ⟨a, ha, rfl⟩ := List.mem_map.mp hspec
      exact hurls a.1 a.2 (Dict.get?_eq_some_iff.mpr ha)
    · exact hhomes a.1 a.2 (Dict.get?_eq_some_iff.mpr ha)

/-- The walk of the connections fails at the least alias whose connection has no URL. -/
theorem walkUrls_eq_error_iff :
    (c.connections.entries.forM fun a => checkUrl a.2) = .error e ↔
      ∃ name spec, c.connections.get? name = some spec ∧ spec.toUrl = .error e ∧
        ∀ other spec', other < name → c.connections.get? other = some spec' →
          ∃ url, spec'.toUrl = .ok url := by
  rw [Dict.forM_entries_eq_error_iff (f := fun _ => checkUrl)]
  simp only [checkUrl_eq_ok_iff, checkUrl_eq_error_iff]

theorem walkUrls_eq_ok_iff :
    (c.connections.entries.forM fun a => checkUrl a.2) = .ok () ↔
      ∀ name spec, c.connections.get? name = some spec → ∃ url, spec.toUrl = .ok url := by
  rw [Dict.forM_entries_eq_ok_iff (f := fun _ => checkUrl)]
  simp only [checkUrl_eq_ok_iff]

/-- The walk of the apps fails at the least name whose app has no connection. -/
theorem walkHomes_eq_error_iff :
    (c.apps.entries.forM fun a => checkHome c a.1 a.2) = .error e ↔
      ∃ name app, c.apps.get? name = some app ∧
        (app.connection ∉ c.connections.keys ∧ e = .unknownConnection name app.connection) ∧
        ∀ other app', other < name → c.apps.get? other = some app' →
          app'.connection ∈ c.connections.keys := by
  rw [Dict.forM_entries_eq_error_iff (f := checkHome c)]
  simp only [checkHome_eq_ok_iff, checkHome_eq_error_iff]

/-- **The fault that is named.** -/
theorem validate_eq_error_iff : c.validate = .error e ↔ c.FirstFault e := by
  cases hconnections : c.connections.isEmpty with
  | true =>
    have hvalidate : c.validate = .error .noConnections := by
      unfold validate
      rw [hconnections]
      rfl
    rw [hvalidate, Except.error.injEq]
    refine ⟨fun h => h ▸ .noConnections hconnections, fun h => ?_⟩
    cases h <;> simp_all
  | false =>
    cases happs : c.apps.isEmpty with
    | true =>
      have hvalidate : c.validate = .error .noApps := by
        unfold validate
        rw [hconnections, happs]
        rfl
      rw [hvalidate, Except.error.injEq]
      refine ⟨fun h => h ▸ .noApps hconnections happs, fun h => ?_⟩
      cases h <;> simp_all
    | false =>
      rw [validate_of_nonempty hconnections happs, bind_eq_error_iff, walkUrls_eq_error_iff]
      constructor
      · rintro (⟨name, spec, hspec, he, hleast⟩ | ⟨_, hurls, hhomes⟩)
        · exact .url hconnections happs hspec he hleast
        · obtain ⟨name, app, happ, ⟨hunknown, rfl⟩, hleast⟩ := walkHomes_eq_error_iff.mp hhomes
          exact .unknownConnection hconnections happs (walkUrls_eq_ok_iff.mp hurls) happ hunknown
            hleast
      · intro h
        cases h with
        | noConnections h => simp [h] at hconnections
        | noApps _ h => simp [h] at happs
        | url _ _ hspec he hleast => exact .inl ⟨_, _, hspec, he, hleast⟩
        | unknownConnection _ _ hurls happ hunknown hleast =>
          exact .inr ⟨(), walkUrls_eq_ok_iff.mpr hurls,
            walkHomes_eq_error_iff.mpr ⟨_, _, happ, ⟨hunknown, rfl⟩, hleast⟩⟩

end Validate

/-! ## One URL with modules -/

section OfUrl

variable {url : String} {modules : Dict (List String)}

theorem get?_connections_ofUrl {name : String} {spec : ConnectionSpec} :
    (ofUrl url modules).connections.get? name = some spec ↔
      defaultAlias = name ∧ ConnectionSpec.url url = spec := by
  rw [ofUrl, Dict.singleton, Dict.get?_insert]
  split <;> simp_all

theorem isEmpty_apps_ofUrl : (ofUrl url modules).apps.isEmpty = modules.isEmpty :=
  List.isEmpty_map

theorem connection_of_apps_ofUrl {name : String} {app : App}
    (h : (ofUrl url modules).apps.get? name = some app) : app.connection = defaultAlias := by
  rw [ofUrl, Dict.get?_map] at h
  obtain ⟨models, -, rfl⟩ := Option.map_eq_some_iff.mp h
  rfl

/-- One URL with modules is accepted if the URL resolves and there is a module. -/
theorem valid_ofUrl_iff : (ofUrl url modules).Valid ↔
    (∃ resolved, normalizeUrl url = .ok resolved) ∧ modules.isEmpty = false := by
  constructor
  · intro h
    exact ⟨h.urls _ _ (get?_connections_ofUrl.mpr ⟨rfl, rfl⟩), isEmpty_apps_ofUrl.symm.trans h.apps⟩
  · rintro ⟨hurl, hmodules⟩
    refine ⟨rfl, isEmpty_apps_ofUrl.trans hmodules, fun name spec hspec => ?_,
      fun name app happ => ?_⟩
    · obtain ⟨-, rfl⟩ := get?_connections_ofUrl.mp hspec
      exact hurl
    · rw [connection_of_apps_ofUrl happ]
      exact List.mem_cons_self

/-- What one URL with modules makes, by its look-ups. -/
theorem eq_ofUrl_iff {config : Config} : config = ofUrl url modules ↔
    config.connections.entries = [(defaultAlias, .url url)] ∧
      ∀ name, config.apps.get? name =
        (modules.get? name).map fun models => ⟨models, defaultAlias⟩ := by
  constructor
  · rintro rfl
    exact ⟨rfl, fun name => Dict.get?_map _ _ _⟩
  · rintro ⟨hconnections, happs⟩
    obtain ⟨connections, apps⟩ := config
    obtain rfl : connections = .singleton defaultAlias (.url url) := by
      obtain ⟨entries, sorted⟩ := connections
      obtain rfl : entries = [(defaultAlias, .url url)] := hconnections
      rfl
    obtain rfl : apps = modules.map fun _ models => { models } :=
      Dict.ext_get? fun name => (happs name).trans
        (Dict.get?_map (fun _ models => ({ models } : App)) modules name).symm
    rfl

theorem load_urlModules_eq_ok_iff {readFile : String → Except ConfigError Config}
    {config : Config} : (Source.urlModules url modules).load readFile = .ok config ↔
      (ofUrl url modules).Valid ∧ config = ofUrl url modules := by
  change ((ofUrl url modules).validate >>= fun _ => .ok (ofUrl url modules)) = _ ↔ _
  rw [bind_eq_ok_iff, ← validate_eq_ok_iff_valid]
  constructor
  · rintro ⟨_, hvalid, h⟩
    exact ⟨hvalid, (Except.ok.inj h).symm⟩
  · rintro ⟨hvalid, rfl⟩
    exact ⟨(), hvalid, rfl⟩

end OfUrl

/-- **Which configurations are accepted, and what is said of the others.** A configuration is
accepted exactly if it is valid, and else its first fault is named. So one URL with modules gives a
configuration exactly if the URL resolves and there is a module; it has the one connection `default`
with the URL as it was given, and exactly the given apps, each on that connection. -/
theorem validation :
    (∀ c : Config, (c.validate = .ok () ↔ c.Valid) ∧ ∀ e, c.validate = .error e ↔ c.FirstFault e) ∧
    ∀ (readFile : String → Except ConfigError Config) (url : String) (modules : Dict (List String)),
      ((∃ config, (Source.urlModules url modules).load readFile = .ok config) ↔
        (∃ resolved, normalizeUrl url = .ok resolved) ∧ modules.isEmpty = false) ∧
      ∀ config, (Source.urlModules url modules).load readFile = .ok config ↔
        ((∃ resolved, normalizeUrl url = .ok resolved) ∧ modules.isEmpty = false) ∧
          config.connections.entries = [("default", .url url)] ∧
          ∀ name, config.apps.get? name =
            (modules.get? name).map fun models => ⟨models, "default"⟩ := by
  refine ⟨fun c => ⟨validate_eq_ok_iff_valid, fun e => validate_eq_error_iff⟩,
    fun readFile url modules => ⟨?_, fun config => ?_⟩⟩
  · simp only [load_urlModules_eq_ok_iff, valid_ofUrl_iff, exists_and_left, exists_eq, and_true]
  · rw [load_urlModules_eq_ok_iff, valid_ofUrl_iff, eq_ofUrl_iff]
    rfl

end Config

end DbLifecycle
