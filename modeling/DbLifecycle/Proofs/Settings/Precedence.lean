import Mathlib.Data.List.Forall2
import Mathlib.Data.String.Basic
import DbLifecycle.Proofs.Config.Layering
import DbLifecycle.Proofs.Config.Written
import DbLifecycle.Proofs.Walk
import DbLifecycle.Settings

/-!
# Which layer decides a setting

The settings are read from four layers that are laid over one another. As long as `server` and `orm`
are tables, each of their keys stands for itself, and the highest layer that sets a key as a whole
decides what is read there.

* `Settings.Key`, `Settings.keys`: the keys of the settings.
* `Settings.effective?`: what stands at a key once all layers have been laid over one another.
* `Settings.effective?_eq`: this is what the layers lay at that key, one over another.
* `Settings.load_congr`: the settings depend on nothing but what stands at their keys.
* **`Settings.precedence`**: the highest layer that sets a key hides the lower ones there, and no
  layer touches other keys than those it sets.
-/

namespace DbLifecycle

namespace Value

/-! ## Reading what reads alike -/

section

variable {α : Type} {item : Value → Reading α}

/-- A reader that cannot tell tables from one another. -/
def Respects (item : Value → Reading α) : Prop := ∀ {v w}, Alike v w → item v = item w

theorem respects_asText : Respects asText := by
  intro v w h
  cases h <;> rfl

theorem respects_asNat16 : Respects asNat16 := by
  intro v w h
  cases h <;> rfl

theorem respects_asBool : Respects asBool := by
  intro v w h
  cases h <;> rfl

theorem respects_asList (item : Value → Reading α) : Respects (asList item) := by
  intro v w h
  cases h <;> rfl

theorem Respects.asOption (hitem : Respects item) : Respects (asOption item) := by
  intro v w h
  cases h with
  | refl => rfl
  | tables ms ns => exact congrArg (Except.map some) (hitem (.tables ms ns))

theorem given?_congr (hitem : Respects item) {name : String} {ms ns : List (String × Value)}
    (h : Option.Rel Alike (Entries.lookup name ms) (Entries.lookup name ns)) :
    given? name item ms = given? name item ns := by
  unfold given?
  generalize Entries.lookup name ms = v, Entries.lookup name ns = w at h
  cases h with
  | none => rfl
  | some h => exact congrArg (fun r => (within (.key name) r).map some) (hitem h)

end

theorem asServer_congr {ms ns : List (String × Value)}
    (hhost : Option.Rel Alike (Entries.lookup "host" ms) (Entries.lookup "host" ns))
    (hport : Option.Rel Alike (Entries.lookup "port" ms) (Entries.lookup "port" ns)) :
    (table none ms).asServer = (table none ns).asServer := by
  have hhost := given?_congr respects_asText hhost
  have hport := given?_congr respects_asNat16 hport
  simp only [asServer, asFields, hhost, hport, bind, Except.bind]

theorem asOrm_congr {ms ns : List (String × Value)}
    (hurl : Option.Rel Alike (Entries.lookup "db_url" ms) (Entries.lookup "db_url" ns))
    (hfile : Option.Rel Alike (Entries.lookup "config_file" ms) (Entries.lookup "config_file" ns))
    (hmodels : Option.Rel Alike (Entries.lookup "models" ms) (Entries.lookup "models" ns))
    (hschemas : Option.Rel Alike (Entries.lookup "generate_schemas" ms)
      (Entries.lookup "generate_schemas" ns))
    (hhandlers : Option.Rel Alike (Entries.lookup "add_exception_handlers" ms)
      (Entries.lookup "add_exception_handlers" ns)) :
    (table none ms).asOrm = (table none ns).asOrm := by
  have hurl := given?_congr respects_asText.asOption hurl
  have hfile := given?_congr respects_asText.asOption hfile
  have hmodels := given?_congr (respects_asList asText) hmodels
  have hschemas := given?_congr respects_asBool hschemas
  have hhandlers := given?_congr respects_asBool hhandlers
  simp only [asOrm, asFields, hurl, hfile, hmodels, hschemas, hhandlers, bind, Except.bind]

end Value

namespace Settings

open Value

/-! ## Keys -/

/-- A key of the settings: a table and one of its fields. -/
structure Key where
  table : String
  field : String
  deriving DecidableEq, Repr

/-- The keys of the settings. -/
def keys : List Key :=
  [⟨"server", "host"⟩, ⟨"server", "port"⟩, ⟨"orm", "db_url"⟩, ⟨"orm", "config_file"⟩,
   ⟨"orm", "models"⟩, ⟨"orm", "generate_schemas"⟩, ⟨"orm", "add_exception_handlers"⟩]

/-- What a layer lays at a key. -/
def Key.laidBy (k : Key) (l : Layer) : List Laid := Value.laidBy k.table k.field l

/-- Layers whose entries put nothing but tables at the tables of the settings. -/
def Tables (ls : List Layer) : Prop := ∀ k ∈ keys, ∀ l ∈ ls, Tabled k.table l

instance (ls : List Layer) : Decidable (Tables ls) :=
  inferInstanceAs (Decidable (∀ k ∈ keys, ∀ l ∈ ls, Tabled k.table l))

/-- What stands at a key once layers have been laid over one another. -/
def effective? (ls : List Layer) (k : Key) : Option Value := field? k.table k.field (combine ls)

variable {ls ls' : List Layer} {k : Key}

theorem field?_combine {t : String} (hls : ∀ l ∈ ls, Tabled t l) :
    HasTable t (combine ls) ∧
      ∀ f, field? t f (combine ls) = overlaid none (ls.flatMap (Value.laidBy t f)) := by
  have hstep : ∀ v, HasTable t v → HasTable t (ls.foldl (fun v l => merge l v) v) ∧
      ∀ f, field? t f (ls.foldl (fun v l => merge l v) v) =
        overlaid (field? t f v) (ls.flatMap (Value.laidBy t f)) := by
    induction ls with
    | nil => exact fun v hv => ⟨hv, fun f => rfl⟩
    | cons l r ih =>
      intro v hv
      have hl := hls l List.mem_cons_self
      obtain ⟨htable, hfield⟩ := ih (fun m hm => hls m (List.mem_cons_of_mem l hm)) _ (hv.merge hl)
      refine ⟨htable, fun f => ?_⟩
      rw [List.flatMap_cons, overlaid_append, ← field?_merge hl hv]
      exact hfield f
  exact hstep (.table none []) nofun

/-- What stands at a key is what the layers lay there, one over another. -/
theorem effective?_eq (hk : k ∈ keys) (hls : Tables ls) :
    effective? ls k = overlaid none (ls.flatMap k.laidBy) :=
  (field?_combine (hls k hk)).2 k.field

/-! ## What the settings depend on -/

theorem exists_layers {files : Files} {env : Dict String} (h : layers files env = .ok ls) :
    ∃ shared own, ls = [defaults, shared, own, environmentLayer env] := by
  obtain ⟨shared, -, h⟩ := bind_eq_ok_iff.mp h
  obtain ⟨own, -, h⟩ := bind_eq_ok_iff.mp h
  exact ⟨shared, own, (Except.ok.inj h).symm⟩

theorem load_of_layers {files : Files} {env : Dict String} (h : layers files env = .ok ls) :
    load files env = (combine ls).asSettings.mapError ConfigError.value := by
  unfold load
  rw [h]
  simp only [bind, Except.bind]
  cases (combine ls).asSettings <;> rfl

/-- A table of the settings that the defaults are in is there. -/
theorem exists_table {t f : String} {rest : List Layer}
    (hls : ∀ l ∈ defaults :: rest, Tabled t l) (hdefault : Value.laidBy t f defaults ≠ []) :
    ∃ ms, (combine (defaults :: rest)).get? t = some (.table none ms) := by
  have hne : (defaults :: rest).flatMap (Value.laidBy t f) ≠ [] := by
    rw [List.flatMap_cons]
    exact List.append_ne_nil_of_left_ne_nil hdefault _
  obtain ⟨htable, hfield⟩ := field?_combine hls
  obtain ⟨v, hv⟩ := exists_overlaid hne none
  rw [← hfield] at hv
  obtain ⟨w, hw, -⟩ := Option.bind_eq_some_iff.mp hv
  obtain ⟨ms, rfl⟩ := htable w hw
  exact ⟨ms, hw⟩

theorem laidBy_defaults_host : Value.laidBy "server" "host" defaults ≠ [] := List.cons_ne_nil _ _

theorem laidBy_defaults_url : Value.laidBy "orm" "db_url" defaults ≠ [] := List.cons_ne_nil _ _

theorem laidBy_defaults_models : Value.laidBy "orm" "models" defaults ≠ [] := List.cons_ne_nil _ _

/-- The settings depend on nothing but what stands at their keys. -/
theorem asSettings_congr {v w : Value} {server server' orm orm' : List (String × Value)}
    (hserver : v.get? "server" = some (.table none server))
    (hserver' : w.get? "server" = some (.table none server'))
    (horm : v.get? "orm" = some (.table none orm)) (horm' : w.get? "orm" = some (.table none orm'))
    (h : ∀ k ∈ keys, Option.Rel Value.Alike (field? k.table k.field v) (field? k.table k.field w)) :
    v.asSettings = w.asSettings := by
  have hatServer : ∀ f, ⟨"server", f⟩ ∈ keys →
      Option.Rel Value.Alike (Entries.lookup f server) (Entries.lookup f server') := by
    intro f hf
    have hfield := h _ hf
    rwa [field?, field?, hserver, hserver'] at hfield
  have hatOrm : ∀ f, ⟨"orm", f⟩ ∈ keys →
      Option.Rel Value.Alike (Entries.lookup f orm) (Entries.lookup f orm') := by
    intro f hf
    have hfield := h _ hf
    rwa [field?, field?, horm, horm'] at hfield
  have hreadServer := asServer_congr (hatServer "host" (by decide)) (hatServer "port" (by decide))
  have hreadOrm := asOrm_congr (hatOrm "db_url" (by decide)) (hatOrm "config_file" (by decide))
    (hatOrm "models" (by decide)) (hatOrm "generate_schemas" (by decide))
    (hatOrm "add_exception_handlers" (by decide))
  rw [get?] at hserver hserver' horm horm'
  simp only [asSettings, given?, hserver, hserver', horm, horm', hreadServer, hreadOrm]

theorem load_congr {files files' : Files} {env env' : Dict String}
    (hrun : layers files env = .ok ls) (hrun' : layers files' env' = .ok ls') (hls : Tables ls)
    (hls' : Tables ls')
    (h : ∀ k ∈ keys, Option.Rel Value.Alike (effective? ls k) (effective? ls' k)) :
    load files env = load files' env' := by
  obtain ⟨shared, own, rfl⟩ := exists_layers hrun
  obtain ⟨shared', own', rfl⟩ := exists_layers hrun'
  have hserverKey : ⟨"server", "host"⟩ ∈ keys := by decide
  have hormKey : ⟨"orm", "db_url"⟩ ∈ keys := by decide
  obtain ⟨server, hserver⟩ := exists_table (hls _ hserverKey) laidBy_defaults_host
  obtain ⟨server', hserver'⟩ := exists_table (hls' _ hserverKey) laidBy_defaults_host
  obtain ⟨orm, horm⟩ := exists_table (hls _ hormKey) laidBy_defaults_url
  obtain ⟨orm', horm'⟩ := exists_table (hls' _ hormKey) laidBy_defaults_url
  rw [load_of_layers hrun, load_of_layers hrun',
    asSettings_congr hserver hserver' horm horm' h]

/-! ## Which layer decides -/

/-- A layer sets a key as a whole, and not only an item of a list there. -/
def SetsWhole (k : Key) (l : Layer) : Prop := ∃ p ∈ k.laidBy l, p.Whole

/-- Layers that lay the same at all keys but one. -/
def SameButFor (k : Key) (l l' : Layer) : Prop := ∀ j ∈ keys, j ≠ k → j.laidBy l = j.laidBy l'

/-- A layer that sets a key as a whole hides what lower ones lay there. -/
theorem SetsWhole.alike {l : Layer} (hl : SetsWhole k l) (below below' above : List Layer) :
    Option.Rel Value.Alike (overlaid none ((below ++ l :: above).flatMap k.laidBy))
      (overlaid none ((below' ++ l :: above).flatMap k.laidBy)) := by
  obtain ⟨p, hp, hwhole⟩ := hl
  obtain ⟨ps, qs, hpq⟩ := List.append_of_mem hp
  have hparts : ∀ ls : List Layer, (ls ++ l :: above).flatMap k.laidBy =
      (ls.flatMap k.laidBy ++ ps) ++ p :: (qs ++ above.flatMap k.laidBy) := by
    intro ls
    rw [List.flatMap_append, List.flatMap_cons, hpq]
    simp
  rw [hparts, hparts]
  exact alike_overlaid hwhole _ _ _

theorem flatMap_laidBy_congr {j : Key} (hj : j ∈ keys) (hjk : j ≠ k)
    (h : List.Forall₂ (SameButFor k) ls ls') : ls.flatMap j.laidBy = ls'.flatMap j.laidBy := by
  induction h with
  | nil => rfl
  | cons hl _ ih => rw [List.flatMap_cons, List.flatMap_cons, hl j hj hjk, ih]

/-- An entry for a key under its own name lays nothing at other keys. -/
theorem sameButFor_entry {e : String × Value} {way : List KeyStep}
    (he : keySteps e.1 = .name k.table :: .name k.field :: way) (xs ys : Layer) :
    SameButFor k (xs ++ e :: ys) (xs ++ ys) := by
  intro j _ hjk
  have hnone : laid j.table j.field e = [] := by
    rw [laid, he]
    exact if_neg fun h => hjk (by cases j; cases k; simp_all)
  rw [Key.laidBy, Key.laidBy, Value.laidBy, Value.laidBy, List.flatMap_append, List.flatMap_append,
    List.flatMap_cons, hnone, List.nil_append]

/-- A member of a table for a key lays nothing at other keys. -/
theorem sameButFor_member {key : String} (hkey : keySteps key = [.name k.table]) (o : Option Origin)
    (v : Value) (ms ns : List (String × Value)) (xs ys : Layer) :
    SameButFor k (xs ++ (key, .table o (ms ++ (k.field, v) :: ns)) :: ys)
      (xs ++ (key, .table o (ms ++ ns)) :: ys) := by
  intro j _ hjk
  have hsame : laid j.table j.field (key, .table o (ms ++ (k.field, v) :: ns)) =
      laid j.table j.field (key, .table o (ms ++ ns)) := by
    simp only [laid, hkey, members]
    split
    · rename_i htable
      have hfield : k.field ≠ j.field := fun h => hjk (by cases j; cases k; simp_all)
      rw [List.filter_append, List.filter_cons_of_neg (by simpa using hfield),
        ← List.filter_append]
    · rfl
  rw [Key.laidBy, Key.laidBy, Value.laidBy, Value.laidBy, List.flatMap_append, List.flatMap_append,
    List.flatMap_cons, List.flatMap_cons, hsame]

/-! ## One file -/

/-- The only regular file is the one at a path. -/
def onlyFile (path text : String) : Files := fun p => if p = path then some text else none

/-- The layers of a service whose only file is the JSON file of the defaults' name. -/
theorem layers_onlyFile {text : String} {ms : List (String × Json)} {env : Dict String} {n : Nat}
    (henv : environmentName env = "default") (htext : withoutMark text = (Json.obj ms).compact)
    (h : Json.Plain n (.obj ms)) (hn : n ≤ Json.maxDepth) :
    layers (onlyFile "config/default.json" text) env =
      .ok [defaults, ofJsonMembers (.file "config/default.json") ms,
        ofJsonMembers (.file "config/default.json") ms, environmentLayer env] := by
  have hexact : String.ofList ("config/default".toList.reverse.dropWhile (· == '/')).reverse =
      "config/default" := by decide
  have hcandidates : candidates "config/default" = ["config/default.toml", "config/default.json",
      "config/default.yaml", "config/default.yml"] := by decide
  have hformat : Format.ofPath? "config/default.json" = some .json := by decide
  have htidy : tidyPath "config/default.json" = "config/default.json" := by decide
  have hentries : fileEntries "config/default.json" text =
      .ok (ofJsonMembers (.file "config/default.json") ms) := by
    unfold fileEntries
    rw [hformat]
    dsimp only [Format.entries?]
    rw [htext, Json.parse?_compact h.ordered h.whole (Nat.le_trans h.depth hn), htidy]
    rfl
  have hlayer : layerOf (onlyFile "config/default.json" text) "config/default" =
      .ok (ofJsonMembers (.file "config/default.json") ms) := by
    have hno : onlyFile "config/default.json" text "config/default" = none := if_neg (by decide)
    have hnot : onlyFile "config/default.json" text "config/default.toml" = none :=
      if_neg (by decide)
    have hyes : onlyFile "config/default.json" text "config/default.json" = some text := if_pos rfl
    unfold layerOf
    dsimp only
    rw [hexact, hno, hcandidates]
    simp only [List.findSome?, hnot, hyes, Option.map_none, Option.map_some, hentries]
  have hname : "config/" ++ "default" = "config/default" := by decide
  unfold layers
  rw [henv, hname, hlayer]
  rfl

/-- The layer of a single variable. -/
theorem environmentLayer_singleton {name value key : String} (h : variableKey? name = some key) :
    environmentLayer (.singleton name value) =
      [(key, .scalar (some .environment) (.text value))] := by
  have hentries : (Dict.singleton name value).entries = [(name, value)] := rfl
  rw [environmentLayer, hentries]
  simp only [List.filterMap_cons, List.filterMap_nil, h, Option.map_some]

/-- What the defaults amount to. -/
theorem merge_defaults : merge defaults (.table none []) = .table none
    [("orm", .table none [("add_exception_handlers", .scalar none (.bool true)),
        ("db_url", .scalar none (.text "sqlite://:memory:")),
        ("generate_schemas", .scalar none (.bool true)),
        ("models", .list none [.scalar none (.text "models")])]),
      ("server", .table none [("host", .scalar none (.text "0.0.0.0")),
        ("port", .scalar none (.int 3000))])] := by
  have hhost : keySteps "server.host" = [.name "server", .name "host"] := by decide
  have hport : keySteps "server.port" = [.name "server", .name "port"] := by decide
  have hurl : keySteps "orm.db_url" = [.name "orm", .name "db_url"] := by decide
  have hmodels : keySteps "orm.models" = [.name "orm", .name "models"] := by decide
  have hschemas : keySteps "orm.generate_schemas" = [.name "orm", .name "generate_schemas"] := by
    decide
  have hhandlers : keySteps "orm.add_exception_handlers" =
      [.name "orm", .name "add_exception_handlers"] := by decide
  simp [defaults, merge, hhost, hport, hurl, hmodels, hschemas, hhandlers, put, overlay, get?,
    members, tableOrigin, Entries.insert, Entries.lookup, absent, -String.lt_iff_ltb]

/-! ## The law -/

/-- **The highest layer that sets a key decides.** As long as `server` and `orm` are tables wherever
they are present:
what stands at a key is, up to the members of tables, what the highest layer that sets it as a whole
gives on its own; so two runs whose layers below that one differ at this key alone have the same
result; layers that differ at one key alone give the same at all others, and an entry for a key, or
a member of its table, makes no other difference; but an item of a list is replaced in the list
that the lower layers give. -/
theorem precedence {k : Key} (hk : k ∈ keys) :
    (∀ (below above : List Layer) (l : Layer), Tables (below ++ l :: above) → SetsWhole k l →
      (∀ m ∈ above, k.laidBy m = []) →
      Option.Rel Value.Alike (effective? (below ++ l :: above) k) (effective? [l] k)) ∧
    (∀ (below below' above : List Layer) (l : Layer) (files files' : Files)
      (env env' : Dict String), layers files env = .ok (below ++ l :: above) →
      layers files' env' = .ok (below' ++ l :: above) → Tables (below ++ l :: above) →
      Tables (below' ++ l :: above) → SetsWhole k l → List.Forall₂ (SameButFor k) below below' →
      load files env = load files' env') ∧
    (∀ ls ls' : List Layer, Tables ls → Tables ls' → List.Forall₂ (SameButFor k) ls ls' →
      ∀ j ∈ keys, j ≠ k → effective? ls j = effective? ls' j) ∧
    ((∀ (e : String × Value) (way : List KeyStep) (xs ys : Layer),
        keySteps e.1 = .name k.table :: .name k.field :: way →
        SameButFor k (xs ++ e :: ys) (xs ++ ys)) ∧
      ∀ (key : String) (o : Option Origin) (v : Value) (ms ns : List (String × Value))
        (xs ys : Layer), keySteps key = [.name k.table] →
        SameButFor k (xs ++ (key, .table o (ms ++ (k.field, v) :: ns)) :: ys)
          (xs ++ (key, .table o (ms ++ ns)) :: ys)) ∧
    ∀ (ls : List Layer) (l : Layer) (o o' : Option Origin) (vs : List Value) (n : Nat)
      (x : Value.Scalar), Tables (ls ++ [l]) → effective? ls k = some (.list o vs) →
      k.laidBy l = [⟨[.index n], .scalar o' x⟩] → n < vs.length →
      effective? (ls ++ [l]) k = some (.list o (vs.set n (.scalar o' x))) := by
  refine ⟨fun below above l hls hl habove => ?_, fun below below' above l files files' env env' hrun
    hrun' hls hls' hl hbelow => load_congr hrun hrun' hls hls' fun j hj => ?_,
    fun ls ls' hls hls' h j hj hjk => ?_,
    ⟨fun e way xs ys he => sameButFor_entry he xs ys,
      fun key o v ms ns xs ys hkey => sameButFor_member hkey o v ms ns xs ys⟩,
    fun ls l o o' vs n x hls hvs hl hn => ?_⟩
  · have halone : Tables [l] := fun j hj m hm => hls j hj m (by simp_all)
    have hnone : above.flatMap k.laidBy = [] := List.flatMap_eq_nil_iff.mpr habove
    have hhidden := hl.alike below [] above
    rw [effective?_eq hk hls, effective?_eq hk halone]
    simpa [hnone] using hhidden
  · rw [effective?_eq hj hls, effective?_eq hj hls']
    by_cases hjk : j = k
    · rw [hjk]
      exact hl.alike below below' above
    · rw [List.flatMap_append, List.flatMap_append, flatMap_laidBy_congr hj hjk hbelow]
      exact rel_alike_refl _
  · rw [effective?_eq hj hls, effective?_eq hj hls', flatMap_laidBy_congr hj hjk h]
  · have hlower : Tables ls := fun j hj m hm => hls j hj m (List.mem_append_left [l] hm)
    rw [effective?_eq hk hlower] at hvs
    rw [effective?_eq hk hls, List.flatMap_append, overlaid_append, hvs, List.flatMap_singleton, hl]
    simp [Laid.over, put, items, withRoom, overlay, Nat.sub_eq_zero_of_le hn]

/-- A URL in the environment hides the one in the file. -/
theorem precedence_url :
    let files := onlyFile "config/default.json" "\x7b\"orm\":\x7b\"db_url\":\"sqlite://a.db\"\x7d\x7d"
    let files' := onlyFile "config/default.json" "\x7b\"orm\":\x7b\x7d\x7d"
    let env : Dict String := .singleton "ORM_LIFESPAN__ORM__DB_URL" "sqlite://b.db"
    let k : Key := ⟨"orm", "db_url"⟩
    (∃ below below' l, layers files env = .ok (below ++ [l]) ∧
      layers files' env = .ok (below' ++ [l]) ∧ Tables (below ++ [l]) ∧ Tables (below' ++ [l]) ∧
      SetsWhole k l ∧ List.Forall₂ (SameButFor k) below below') ∧
    load files env = load files' env := by
  intro files files' env k
  let o := Origin.file "config/default.json"
  let layer := [("orm", table (some o) [("db_url", .scalar (some o) (.text "sqlite://a.db"))])]
  let layer' := [("orm", table (some o) [])]
  let l : Layer := [("orm.db_url", .scalar (some .environment) (.text "sqlite://b.db"))]
  have henv : environmentName env = "default" := by decide
  have hl : environmentLayer env = l := environmentLayer_singleton (by decide)
  have hplain : Json.Plain 2 (.obj [("orm", .obj [("db_url", .str "sqlite://a.db")])]) :=
    Json.plain_member _ (Json.plain_member _ (Json.plain_str 0 _))
  have hplain' : Json.Plain 2 (.obj [("orm", .obj [])]) :=
    Json.plain_member _ (Json.plain_obj .nil nofun)
  have hlayers : layers files env = .ok [defaults, layer, layer, l] := by
    rw [← hl]
    exact layers_onlyFile henv (by decide) hplain (by decide)
  have hlayers' : layers files' env = .ok [defaults, layer', layer', l] := by
    rw [← hl]
    exact layers_onlyFile henv (by decide) hplain' (by decide)
  have htables : Tables [defaults, layer, layer, l] := by decide
  have htables' : Tables [defaults, layer', layer', l] := by decide
  have hwhole : SetsWhole k l :=
    ⟨⟨[], _⟩, List.mem_singleton.mpr rfl, fun _ _ => (List.cons_ne_nil _ _).symm⟩
  have hsame : List.Forall₂ (SameButFor k) [defaults, layer, layer] [defaults, layer', layer'] := by
    have hlayer : SameButFor k layer layer' := sameButFor_member (by decide) (some o) _ [] [] [] []
    exact .cons (fun _ _ _ => rfl) (.cons hlayer (.cons hlayer .nil))
  exact ⟨⟨[defaults, layer, layer], [defaults, layer', layer'], l, hlayers, hlayers', htables,
    htables', hwhole, hsame⟩,
    (precedence (by decide)).2.1 _ _ [] l files files' env env hlayers hlayers' htables htables'
      hwhole hsame⟩

/-- The settings of a file that lists two models, where the environment replaces the first one. -/
theorem asSettings_item (o o' : Option Origin) (a b c : String) :
    let shared : Layer := [("orm", .table o
      [("models", .list o [.scalar o (.text a), .scalar o (.text b)])])]
    (combine [defaults, shared, shared, [("orm.models[0]", .scalar o' (.text c))]]).asSettings =
      .ok ⟨⟨"0.0.0.0", 3000⟩, ⟨some "sqlite://:memory:", none, [c, b], true, true⟩⟩ := by
  intro shared
  have horm : keySteps "orm" = [.name "orm"] := by decide
  have hitem : keySteps "orm.models[0]" = [.name "orm", .name "models", .index 0] := by decide
  have hport : (3000 : Nat) ≤ Text.Integer.maxUnsigned 16 := by decide
  have hcombine : combine [defaults, shared, shared, [("orm.models[0]", .scalar o' (.text c))]] =
      .table none
        [("orm", .table none [("add_exception_handlers", .scalar none (.bool true)),
            ("db_url", .scalar none (.text "sqlite://:memory:")),
            ("generate_schemas", .scalar none (.bool true)),
            ("models", .list o [.scalar o' (.text c), .scalar o (.text b)])]),
          ("server", .table none [("host", .scalar none (.text "0.0.0.0")),
            ("port", .scalar none (.int 3000))])] := by
    simp only [combine, List.foldl_cons, List.foldl_nil, merge_defaults]
    simp [shared, merge, horm, hitem, put, overlay, overlayMembers, get?, members, tableOrigin,
      items, withRoom, Entries.insert, Entries.lookup, absent, -String.lt_iff_ltb]
  rw [hcombine]
  simp [asSettings, asServer, asOrm, asFields, given?, required, members, Entries.lookup, within,
    asText, asNat16, asNat64, asBool, asList, readItems, Value.asOption, hport, bind, Except.bind,
    Except.map, Except.mapError]

/-- The text of a file that lists two models. -/
def modelsText (a b : String) : String :=
  "\x7b\"orm\":\x7b\"models\":[\"" ++ a ++ "\",\"" ++ b ++ "\"]\x7d\x7d"

/-- An item of a list does not hide the list of a lower layer: two runs whose files differ in the
models alone have different results, though the environment has a higher value for this key. -/
theorem not_precedence_item :
    let files := onlyFile "config/default.json" (modelsText "a" "b")
    let files' := onlyFile "config/default.json" (modelsText "c" "d")
    let env : Dict String := .singleton "ORM_LIFESPAN__ORM__MODELS[0]" "x"
    let k : Key := ⟨"orm", "models"⟩
    (∃ below below' l, layers files env = .ok (below ++ [l]) ∧
      layers files' env = .ok (below' ++ [l]) ∧ Tables (below ++ [l]) ∧ Tables (below' ++ [l]) ∧
      k.laidBy l ≠ [] ∧ List.Forall₂ (SameButFor k) below below') ∧
    (load files env).map (·.orm.models) = .ok ["x", "b"] ∧
    (load files' env).map (·.orm.models) = .ok ["x", "d"] := by
  intro files files' env k
  let o := Origin.file "config/default.json"
  let layer := fun a b : String => [("orm", table (some o)
    [("models", .list (some o) [.scalar (some o) (.text a), .scalar (some o) (.text b)])])]
  let l : Layer := [("orm.models[0]", .scalar (some .environment) (.text "x"))]
  have henv : environmentName env = "default" := by decide
  have hl : environmentLayer env = l := environmentLayer_singleton (by decide)
  have hplain : ∀ a b, Json.Plain 3 (.obj [("orm", .obj [("models", .texts [a, b])])]) :=
    fun a b => Json.plain_member _ (Json.plain_member _ (Json.plain_texts 0 [a, b]))
  have hlayers : layers files env = .ok [defaults, layer "a" "b", layer "a" "b", l] := by
    rw [← hl]
    exact layers_onlyFile henv (by decide) (hplain "a" "b") (by decide)
  have hlayers' : layers files' env = .ok [defaults, layer "c" "d", layer "c" "d", l] := by
    rw [← hl]
    exact layers_onlyFile henv (by decide) (hplain "c" "d") (by decide)
  have hsame : SameButFor k (layer "a" "b") (layer "c" "d") := fun j hj hjk =>
    (sameButFor_member (by decide) (some o) _ [] [] [] [] j hj hjk).trans
      (sameButFor_member (by decide) (some o) _ [] [] [] [] j hj hjk).symm
  refine ⟨⟨[defaults, layer "a" "b", layer "a" "b"], [defaults, layer "c" "d", layer "c" "d"], l,
    hlayers, hlayers', by decide, by decide, List.cons_ne_nil _ _,
    .cons (fun _ _ _ => rfl) (.cons hsame (.cons hsame .nil))⟩, ?_, ?_⟩
  · rw [load_of_layers hlayers, asSettings_item]
    rfl
  · rw [load_of_layers hlayers', asSettings_item]
    rfl

end Settings

end DbLifecycle
