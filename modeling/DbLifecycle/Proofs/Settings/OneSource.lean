import DbLifecycle.Proofs.Config.Carried
import DbLifecycle.Proofs.Settings.Precedence

/-!
# Where settings take their configuration from

Settings that could be read name one source: the configuration file if there is one, and otherwise
the URL with the models. They name none exactly if they have neither, and as the URL has a default,
this means that some layer took it away.

* `OrmSettings.source_toOptions`: the source of settings of the database.
* `Settings.reads_of_load`: the settings are what is read from their keys.
* **`Settings.load_source`**: the source of settings that were loaded, and when there is none.
-/

namespace DbLifecycle

/-- A file goes before a URL, and without either there is no source. -/
theorem OrmSettings.source_toOptions (s : OrmSettings) :
    s.toOptions.source =
      match s.configFile, s.url with
      | some path, _ => .ok (.file path)
      | none, some url => .ok (.urlModules url (.singleton modelsApp s.models))
      | none, none => .error .noSource := by
  obtain ⟨url, configFile, models, generateSchemas, addHandlers⟩ := s
  cases configFile <;> cases url <;> rfl

namespace Value

variable {α : Type} {item : Value → Reading α}

theorem asOption_eq_none_iff {v : Value} {o : Option α} (h : v.asOption item = .ok o) :
    o = none ↔ ∃ origin, v = .scalar origin .null := by
  unfold asOption at h
  split at h
  · cases h
    exact iff_of_true rfl ⟨_, rfl⟩
  · rename_i hnull
    obtain ⟨a, -, rfl⟩ := map_eq_ok_iff.mp h
    exact iff_of_false (by simp) fun ⟨origin, hv⟩ => hnull origin hv

/-- What a field that is there is read as. -/
theorem of_given? {name : String} {ms : List (String × Value)} {o : Option α}
    (h : given? name item ms = .ok o) :
    match Entries.lookup name ms with
    | none => o = none
    | some v => ∃ a, item v = .ok a ∧ o = some a := by
  unfold given? at h
  cases hfound : Entries.lookup name ms with
  | none =>
    rw [hfound] at h
    exact (Except.ok.inj h).symm
  | some v =>
    rw [hfound] at h
    obtain ⟨a, ha, rfl⟩ := map_eq_ok_iff.mp h
    exact ⟨a, within_eq_ok_iff.mp ha, rfl⟩

end Value

namespace Settings

open Value

variable {ls : List Layer} {s : Settings}

/-- What is read from the keys of a table. -/
structure Reads (orm : OrmSettings) (ls : List Layer) : Prop where
  url : ∃ v, effective? ls ⟨"orm", "db_url"⟩ = some v ∧ v.asOption asText = .ok orm.url
  configFile :
    (effective? ls ⟨"orm", "config_file"⟩ = none ∧ orm.configFile = none) ∨
      ∃ v, effective? ls ⟨"orm", "config_file"⟩ = some v ∧ v.asOption asText = .ok orm.configFile
  models : ∃ v, effective? ls ⟨"orm", "models"⟩ = some v ∧ v.asList asText = .ok orm.models

theorem reads_of_asOrm {ms : List (String × Value)} {orm : OrmSettings}
    (horm : (combine ls).get? "orm" = some (.table none ms))
    (hurl : ∃ v, effective? ls ⟨"orm", "db_url"⟩ = some v)
    (hmodels : ∃ v, effective? ls ⟨"orm", "models"⟩ = some v)
    (h : (table none ms).asOrm = .ok orm) : Reads orm ls := by
  have hat : ∀ f, effective? ls ⟨"orm", f⟩ = Entries.lookup f ms := by
    intro f
    rw [effective?, field?, horm]
    rfl
  obtain ⟨_, hfields, h⟩ := bind_eq_ok_iff.mp h
  cases hfields
  obtain ⟨url, hreadUrl, h⟩ := bind_eq_ok_iff.mp h
  obtain ⟨configFile, hreadFile, h⟩ := bind_eq_ok_iff.mp h
  obtain ⟨models, hreadModels, h⟩ := bind_eq_ok_iff.mp h
  obtain ⟨_, -, h⟩ := bind_eq_ok_iff.mp h
  obtain ⟨_, -, h⟩ := bind_eq_ok_iff.mp h
  obtain ⟨_, -, h⟩ := bind_eq_ok_iff.mp h
  obtain ⟨_, -, h⟩ := bind_eq_ok_iff.mp h
  cases h
  have hreadUrl := of_given? hreadUrl
  have hreadFile := of_given? hreadFile
  have hreadModels := of_given? hreadModels
  rw [← hat] at hreadUrl hreadFile hreadModels
  obtain ⟨v, hv⟩ := hurl
  obtain ⟨w, hw⟩ := hmodels
  rw [hv] at hreadUrl
  rw [hw] at hreadModels
  obtain ⟨u, hu, rfl⟩ := hreadUrl
  obtain ⟨l, hl, rfl⟩ := hreadModels
  refine ⟨⟨v, hv, hu⟩, ?_, ⟨w, hw, hl⟩⟩
  cases hx : effective? ls ⟨"orm", "config_file"⟩ with
  | none =>
    rw [hx] at hreadFile
    rw [hreadFile]
    exact .inl ⟨rfl, rfl⟩
  | some x =>
    rw [hx] at hreadFile
    obtain ⟨c, hc, rfl⟩ := hreadFile
    exact .inr ⟨x, rfl, hc⟩

/-- The settings are what is read from their keys, as long as `orm` is a table. -/
theorem reads_of_load {files : Files} {env : Dict String} (h : load files env = .ok s)
    (hrun : layers files env = .ok ls) (hls : ∀ l ∈ ls, Tabled "orm" l) : Reads s.orm ls := by
  obtain ⟨shared, own, rfl⟩ := exists_layers hrun
  obtain ⟨ms, horm⟩ := exists_table hls laidBy_defaults_url
  have hpresent : ∀ f, Value.laidBy "orm" f defaults ≠ [] →
      ∃ v, effective? [defaults, shared, own, environmentLayer env] ⟨"orm", f⟩ = some v := by
    intro f hf
    rw [effective?, (field?_combine hls).2 f, List.flatMap_cons]
    exact exists_overlaid (List.append_ne_nil_of_left_ne_nil hf _) none
  refine reads_of_asOrm horm (hpresent _ laidBy_defaults_url) (hpresent _ laidBy_defaults_models) ?_
  rw [load_of_layers hrun] at h
  have hread : (combine [defaults, shared, own, environmentLayer env]).asSettings = .ok s := by
    cases hs : (combine [defaults, shared, own, environmentLayer env]).asSettings with
    | error e =>
      rw [hs] at h
      cases h
    | ok t =>
      rw [hs] at h
      cases h
      rfl
  obtain ⟨_, -, hread⟩ := bind_eq_ok_iff.mp hread
  obtain ⟨o, hgiven, hread⟩ := bind_eq_ok_iff.mp hread
  obtain ⟨_, -, hread⟩ := bind_eq_ok_iff.mp hread
  obtain ⟨orm, hrequired, hread⟩ := bind_eq_ok_iff.mp hread
  cases hread
  have hfound := of_given? hgiven
  rw [show Entries.lookup "orm" _ = _ from horm] at hfound
  obtain ⟨t, ht, rfl⟩ := hfound
  cases hrequired
  exact ht

/-- **The source of settings that were loaded** is their configuration file if they have one, else
their URL with their models for the one app, and there is none exactly if they have neither. As long
as every layer has a table for `orm`, if anything, the file, the URL and the models are what is read
from what stands at their keys, and there is no URL exactly if null was laid there last. -/
theorem load_source {files : Files} {env : Dict String} (h : load files env = .ok s) :
    (s.orm.toOptions.source =
      match s.orm.configFile, s.orm.url with
      | some path, _ => .ok (.file path)
      | none, some url => .ok (.urlModules url (.singleton modelsApp s.orm.models))
      | none, none => .error .noSource) ∧
    ∀ ls, layers files env = .ok ls → (∀ l ∈ ls, Tabled "orm" l) →
      Reads s.orm ls ∧
      (s.orm.url = none ↔
        ∃ qs o, ls.flatMap (Value.laidBy "orm" "db_url") = qs ++ [⟨[], .scalar o .null⟩]) := by
  refine ⟨s.orm.source_toOptions, fun ls hrun hls => ?_⟩
  have hreads := reads_of_load h hrun hls
  refine ⟨hreads, ?_⟩
  obtain ⟨v, hv, hurl⟩ := hreads.url
  rw [effective?, (field?_combine hls).2 "db_url"] at hv
  have hne : ls.flatMap (Value.laidBy "orm" "db_url") ≠ [] := by
    intro hempty
    rw [hempty] at hv
    cases hv
  rw [asOption_eq_none_iff hurl, ← overlaid_eq_null_iff hne, hv]
  simp

/-- The settings of a file that has nothing but a URL, or null in its place. -/
theorem asSettings_url {o : Option Origin} {x : Value.Scalar} {url : Option String}
    (hurl : (Value.scalar o x).asOption asText = .ok url) :
    let shared : Layer := [("orm", .table o [("db_url", .scalar o x)])]
    (combine [defaults, shared, shared, []]).asSettings =
      .ok ⟨⟨"0.0.0.0", 3000⟩, ⟨url, none, ["models"], true, true⟩⟩ := by
  intro shared
  have horm : keySteps "orm" = [.name "orm"] := by decide
  have hport : (3000 : Nat) ≤ Text.Integer.maxUnsigned 16 := by decide
  have hcombine : combine [defaults, shared, shared, []] = .table none
      [("orm", .table none [("add_exception_handlers", .scalar none (.bool true)),
          ("db_url", .scalar o x), ("generate_schemas", .scalar none (.bool true)),
          ("models", .list none [.scalar none (.text "models")])]),
        ("server", .table none [("host", .scalar none (.text "0.0.0.0")),
          ("port", .scalar none (.int 3000))])] := by
    simp only [combine, List.foldl_cons, List.foldl_nil, merge_defaults]
    simp [shared, merge, horm, put, overlay, overlayMembers, get?, members, tableOrigin,
      Entries.insert, Entries.lookup, -String.lt_iff_ltb]
  rw [hcombine]
  simp [asSettings, asServer, asOrm, asFields, given?, required, members, Entries.lookup, within,
    asText, asNat16, asNat64, asBool, asList, readItems, hurl, hport, bind, Except.bind, Except.map,
    Except.mapError]

/-- A URL in a file. -/
theorem load_source_url :
    let files := onlyFile "config/default.json" "\x7b\"orm\":\x7b\"db_url\":\"sqlite://a.db\"\x7d\x7d"
    ∃ s ls, load files .empty = .ok s ∧ layers files .empty = .ok ls ∧
      (∀ l ∈ ls, Tabled "orm" l) ∧ Reads s.orm ls ∧
      s.orm.toOptions.source =
        .ok (.urlModules "sqlite://a.db" (.singleton "models" ["models"])) := by
  intro files
  let o := Origin.file "config/default.json"
  let layer : Layer :=
    [("orm", table (some o) [("db_url", .scalar (some o) (.text "sqlite://a.db"))])]
  have hplain : Json.Plain 2 (.obj [("orm", .obj [("db_url", .str "sqlite://a.db")])]) :=
    Json.plain_member _ (Json.plain_member _ (Json.plain_str 0 _))
  have hlayers : layers files .empty = .ok [defaults, layer, layer, []] :=
    layers_onlyFile (by decide) (by decide) hplain (by decide)
  have hload : load files .empty =
      .ok ⟨⟨"0.0.0.0", 3000⟩, ⟨some "sqlite://a.db", none, ["models"], true, true⟩⟩ := by
    have hurl : (Value.scalar (some o) (.text "sqlite://a.db")).asOption asText =
        .ok (some "sqlite://a.db") := rfl
    rw [load_of_layers hlayers, asSettings_url hurl]
    rfl
  have htables : ∀ l ∈ [defaults, layer, layer, []], Tabled "orm" l := by decide
  obtain ⟨hsource, hrun⟩ := load_source hload
  exact ⟨_, _, hload, hlayers, htables, (hrun _ hlayers htables).1, hsource⟩

/-- Null in place of the URL leaves the settings without a source. -/
theorem load_source_null :
    let files := onlyFile "config/default.json" "\x7b\"orm\":\x7b\"db_url\":null\x7d\x7d"
    ∃ s, load files .empty = .ok s ∧ s.orm.configFile = none ∧
      s.orm.toOptions.source = .error .noSource := by
  intro files
  let o := Origin.file "config/default.json"
  let layer : Layer := [("orm", table (some o) [("db_url", .scalar (some o) .null)])]
  have hplain : Json.Plain 2 (.obj [("orm", .obj [("db_url", .null)])]) :=
    Json.plain_member _ (Json.plain_member _ ⟨trivial, trivial, Nat.zero_le 0⟩)
  have hlayers : layers files .empty = .ok [defaults, layer, layer, []] :=
    layers_onlyFile (by decide) (by decide) hplain (by decide)
  have hload : load files .empty =
      .ok ⟨⟨"0.0.0.0", 3000⟩, ⟨none, none, ["models"], true, true⟩⟩ := by
    have hurl : (Value.scalar (some o) .null).asOption asText = .ok none := rfl
    rw [load_of_layers hlayers, asSettings_url hurl]
    rfl
  exact ⟨_, hload, rfl, OrmSettings.source_toOptions _⟩

end Settings

end DbLifecycle
