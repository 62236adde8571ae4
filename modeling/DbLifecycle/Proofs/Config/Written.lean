import DbLifecycle.Config.Options
import DbLifecycle.Proofs.Config.Carried
import DbLifecycle.Proofs.Json.RoundTrip

/-!
# Configurations written to files

A configuration can be written to a file as a JSON object of its two parts. A service that is
started with such a file has the configuration it would have if it were given the configuration
itself, and refuses it for the same reason.

* `Config.toJson`: a configuration as a JSON value, with all its fields.
* `Config.InRange`: numbers of as many bits as their fields have.
* `Config.decode_toJson`: such a configuration is read as it is written.
* `Config.WrittenIn`: a text holds a configuration.
* **`Config.file_agrees`**: a file gives the configuration that is written in it.
-/

namespace DbLifecycle

open Json

/-! ## Written forms -/

namespace Json

/-- Null, or the written form of a value. -/
def orNull {α : Type} (write : α → Json) : Option α → Json
  | none => .null
  | some a => write a

/-- A value that can be written and read back inside another one, with a bound on its depth. -/
structure Plain (n : Nat) (v : Json) : Prop where
  ordered : v.Ordered
  whole : v.Whole
  depth : v.depth ≤ n

theorem plain_str (n : Nat) (s : String) : Plain n (.str s) :=
  ⟨trivial, trivial, Nat.zero_le n⟩

theorem plain_nat {m : Nat} (n : Nat) (hm : m ≤ Text.Integer.maxUnsigned 64) :
    Plain n (.nat m) := by
  refine ⟨trivial, ⟨?_, Int.ofNat_le.mpr hm⟩, Nat.zero_le n⟩
  exact Int.le_trans (by decide) (Int.natCast_nonneg m)

theorem plain_orNull {α : Type} {n : Nat} {write : α → Json} {o : Option α}
    (h : ∀ a ∈ o, Plain n (write a)) : Plain n (orNull write o) := by
  cases o with
  | none => exact ⟨trivial, trivial, Nat.zero_le n⟩
  | some a => exact h a rfl

theorem plain_arr {n : Nat} {vs : List Json} (h : ∀ v ∈ vs, Plain n v) :
    Plain (n + 1) (.arr vs) := by
  have hparts : OrderedItems vs ∧ WholeItems vs ∧ itemsDepth vs ≤ n := by
    induction vs with
    | nil => exact ⟨trivial, trivial, Nat.zero_le n⟩
    | cons v r ih =>
      obtain ⟨ho, hw, hd⟩ := ih fun w hw => h w (List.mem_cons_of_mem v hw)
      have hv := h v List.mem_cons_self
      exact ⟨⟨hv.ordered, ho⟩, ⟨hv.whole, hw⟩, Nat.max_le.mpr ⟨hv.depth, hd⟩⟩
  exact ⟨hparts.1, hparts.2.1, Nat.add_le_add_right hparts.2.2 1⟩

theorem plain_obj {n : Nat} {ms : List (String × Json)} (hsorted : (ms.map (·.1)).Pairwise (· < ·))
    (h : ∀ m ∈ ms, Plain n m.2) : Plain (n + 1) (.obj ms) := by
  have hparts : OrderedMembers ms ∧ WholeMembers ms ∧ membersDepth ms ≤ n := by
    clear hsorted
    induction ms with
    | nil => exact ⟨trivial, trivial, Nat.zero_le n⟩
    | cons m r ih =>
      obtain ⟨ho, hw, hd⟩ := ih fun w hw => h w (List.mem_cons_of_mem m hw)
      have hm := h m List.mem_cons_self
      exact ⟨⟨hm.ordered, ho⟩, ⟨hm.whole, hw⟩, Nat.max_le.mpr ⟨hm.depth, hd⟩⟩
  exact ⟨⟨List.pairwise_map.mp hsorted, hparts.1⟩, hparts.2.1, Nat.add_le_add_right hparts.2.2 1⟩

theorem plain_texts (n : Nat) (ss : List String) : Plain (n + 1) (.texts ss) :=
  plain_arr fun v hv => by
    obtain ⟨s, -, rfl⟩ := List.mem_map.mp hv
    exact plain_str n s

theorem plain_member {n : Nat} {v : Json} (k : String) (h : Plain n v) :
    Plain (n + 1) (.obj [(k, v)]) :=
  plain_obj (List.pairwise_singleton _ _) fun m hm => by
    rw [List.mem_singleton.mp hm]
    exact h

theorem asOption_orNull {α : Type} {read : Json → Except Mismatch α} {write : α → Json}
    {o : Option α} (hnull : ∀ a, write a ≠ .null) (h : ∀ a ∈ o, read (write a) = .ok a) :
    asOption read (orNull write o) = .ok o := by
  cases o with
  | none => rfl
  | some a =>
    rw [orNull, asOption.eq_2 _ _ (hnull a), h a rfl]
    rfl

theorem asUnsigned_nat {bits n : Nat} (h : n ≤ Text.Integer.maxUnsigned bits) :
    asUnsigned bits (.nat n) = .ok n := by
  have hrange : (0 : Int) ≤ n ∧ (n : Int) ≤ Text.Integer.maxUnsigned bits := by omega
  unfold asUnsigned asInt
  rw [Json.nat]
  simp only
  rw [if_pos hrange]
  rfl

theorem asList_texts (ss : List String) : asList asText (.texts ss) = .ok ss := by
  refine mapM_eq_ok_iff.mpr ?_
  rw [List.forall₂_map_left_iff, List.forall₂_same]
  exact fun _ _ => rfl

end Json

/-- The written form of a port. -/
def Port.toJson : Port → Json
  | .number n => .nat n
  | .text s => .str s

/-- The written form of credentials. -/
def Credentials.toJson (c : Credentials) : Json :=
  .obj [("database", orNull .str c.database), ("file_path", orNull .str c.filePath),
    ("host", orNull .str c.host), ("password", orNull .str c.password),
    ("port", orNull Port.toJson c.port), ("user", orNull .str c.user)]

/-- The written form of a descriptor. -/
def Descriptor.toJson (d : Descriptor) : Json :=
  .obj [("connect_timeout", orNull .nat d.pool.connectTimeout),
    ("credentials", d.credentials.toJson), ("engine", .str d.engine),
    ("idle_timeout", orNull .nat d.pool.idleTimeout),
    ("max_connections", orNull .nat d.pool.maxConnections),
    ("min_connections", orNull .nat d.pool.minConnections)]

/-- The written form of a connection. -/
def ConnectionSpec.toJson : ConnectionSpec → Json
  | .url text => .str text
  | .descriptor d => d.toJson

/-- The written form of an app. -/
def App.toJson (a : App) : Json :=
  .obj [("default_connection", .str a.connection), ("models", .texts a.models)]

/-- The written form of a configuration. -/
def Config.toJson (c : Config) : Json :=
  .obj [("apps", .obj (c.apps.map fun _ a => a.toJson).entries),
    ("connections", .obj (c.connections.map fun _ spec => spec.toJson).entries)]

/-! ## Numbers in range -/

/-- A port number has 16 bits. -/
def Port.InRange : Port → Prop
  | .number n => n ≤ Text.Integer.maxUnsigned 16
  | .text _ => True

/-- Sizes of a pool have 32 bits and timeouts 64. -/
structure PoolSettings.InRange (s : PoolSettings) : Prop where
  maxConnections : ∀ n ∈ s.maxConnections, n ≤ Text.Integer.maxUnsigned 32
  minConnections : ∀ n ∈ s.minConnections, n ≤ Text.Integer.maxUnsigned 32
  connectTimeout : ∀ n ∈ s.connectTimeout, n ≤ Text.Integer.maxUnsigned 64
  idleTimeout : ∀ n ∈ s.idleTimeout, n ≤ Text.Integer.maxUnsigned 64

/-- The numbers of a descriptor are in range. -/
structure Descriptor.InRange (d : Descriptor) : Prop where
  port : ∀ p ∈ d.credentials.port, p.InRange
  pool : d.pool.InRange

/-- The numbers of a connection are in range; a URL has none. -/
def ConnectionSpec.InRange : ConnectionSpec → Prop
  | .url _ => True
  | .descriptor d => d.InRange

/-- All numbers of a configuration are in range. -/
def Config.InRange (c : Config) : Prop :=
  ∀ name spec, c.connections.get? name = some spec → spec.InRange

/-! ## What is written is plain -/

theorem Port.plain_toJson {p : Port} (h : p.InRange) (n : Nat) : Plain n p.toJson := by
  cases p with
  | number m => exact plain_nat n (Nat.le_trans h (by decide))
  | text s => exact plain_str n s

theorem Credentials.plain_toJson {c : Credentials} (h : ∀ p ∈ c.port, p.InRange) :
    Plain 1 c.toJson := by
  have htext : ∀ o : Option String, Plain 0 (orNull .str o) :=
    fun o => plain_orNull fun s _ => plain_str 0 s
  have hport : Plain 0 (orNull Port.toJson c.port) :=
    plain_orNull fun p hp => Port.plain_toJson (h p hp) 0
  refine plain_obj (by simp only [List.map_cons, List.map_nil]; decide) ?_
  simp only [List.forall_mem_cons]
  exact ⟨htext _, htext _, htext _, htext _, hport, htext _, nofun⟩

theorem Descriptor.plain_toJson {d : Descriptor} (h : d.InRange) : Plain 2 d.toJson := by
  have hnumber : ∀ {bits : Nat} {o : Option Nat}, bits ≤ 64 →
      (∀ n ∈ o, n ≤ Text.Integer.maxUnsigned bits) → Plain 1 (orNull .nat o) := by
    intro bits o hbits ho
    refine plain_orNull fun n hn => plain_nat 1 (Nat.le_trans (ho n hn) ?_)
    exact Nat.sub_le_sub_right (Nat.pow_le_pow_right (by decide) hbits) 1
  refine plain_obj (by simp only [List.map_cons, List.map_nil]; decide) ?_
  simp only [List.forall_mem_cons]
  exact ⟨hnumber (by decide) h.pool.connectTimeout, Credentials.plain_toJson h.port,
    plain_str 1 d.engine, hnumber (by decide) h.pool.idleTimeout,
    hnumber (by decide) h.pool.maxConnections, hnumber (by decide) h.pool.minConnections, nofun⟩

theorem ConnectionSpec.plain_toJson {spec : ConnectionSpec} (h : spec.InRange) :
    Plain 2 spec.toJson := by
  cases spec with
  | url text => exact plain_str 2 text
  | descriptor d => exact Descriptor.plain_toJson h

theorem App.plain_toJson (a : App) : Plain 2 a.toJson := by
  refine plain_obj (by simp only [List.map_cons, List.map_nil]; decide) ?_
  simp only [List.forall_mem_cons]
  exact ⟨plain_str 1 a.connection, plain_texts 0 a.models, nofun⟩

theorem Config.plain_toJson {c : Config} (h : c.InRange) : Plain 4 c.toJson := by
  refine plain_obj (by simp only [List.map_cons, List.map_nil]; decide) ?_
  simp only [List.forall_mem_cons]
  refine ⟨plain_obj (Dict.keys_sorted _) fun m hm => ?_,
    plain_obj (Dict.keys_sorted _) fun m hm => ?_, nofun⟩
  · obtain ⟨a, -, rfl⟩ := List.mem_map.mp hm
    exact App.plain_toJson a.2
  · obtain ⟨a, ha, rfl⟩ := List.mem_map.mp hm
    exact ConnectionSpec.plain_toJson (h a.1 a.2 (Dict.get?_eq_some_iff.mpr ha))

/-! ## What is written is read -/

theorem Port.decode_toJson {p : Port} (h : p.InRange) : Port.decode p.toJson = .ok p := by
  cases p with
  | number n => rw [Port.decode.eq_def, Port.toJson, asUnsigned_nat h]
  | text s => rfl

theorem Credentials.decode_toJson {c : Credentials} (h : ∀ p ∈ c.port, p.InRange) :
    Credentials.decode c.toJson = .ok c := by
  have htext : ∀ o : Option String, asOption asText (orNull .str o) = .ok o :=
    fun o => asOption_orNull (fun _ => nofun) fun _ _ => rfl
  have hport : asOption Port.decode (orNull Port.toJson c.port) = .ok c.port := by
    refine asOption_orNull (fun p => ?_) fun p hp => Port.decode_toJson (h p hp)
    cases p <;> exact nofun
  simp [Credentials.decode, Credentials.toJson, asFields, ofMembers, Json.given?, htext, hport,
    bind, Except.bind, Except.map]

theorem Descriptor.decode_toJson {d : Descriptor} (h : d.InRange) :
    Descriptor.decode d.toJson = .ok d := by
  have hnumber : ∀ {bits : Nat} {o : Option Nat}, (∀ n ∈ o, n ≤ Text.Integer.maxUnsigned bits) →
      asOption (asUnsigned bits) (orNull .nat o) = .ok o :=
    fun ho => asOption_orNull (fun _ => nofun) fun n hn => asUnsigned_nat (ho n hn)
  simp [Descriptor.decode, Descriptor.toJson, asFields, ofMembers, Json.given?, Json.required,
    asText, Credentials.decode_toJson h.port, hnumber h.pool.connectTimeout,
    hnumber h.pool.idleTimeout, hnumber h.pool.maxConnections, hnumber h.pool.minConnections, bind,
    Except.bind, Except.map]

theorem ConnectionSpec.decode_toJson {spec : ConnectionSpec} (h : spec.InRange) :
    ConnectionSpec.decode spec.toJson = .ok spec := by
  cases spec with
  | url text => rfl
  | descriptor d =>
    have hd := Descriptor.decode_toJson h
    unfold decode
    split
    · rename_i heq
      cases heq
    · rw [ConnectionSpec.toJson, hd]

theorem App.decode_toJson (a : App) : Config.decodeApp a.toJson = .ok a := by
  simp [Config.decodeApp, App.toJson, asFields, Json.given?, Json.required, asText, asList_texts,
    bind, Except.bind, Except.map]

/-- The dictionary of entries that are in order. -/
theorem Dict.entries_ofList_of_sorted {α : Type} {es : List (String × α)}
    (h : Entries.Sorted es) : (Dict.ofList es).entries = es := by
  have hfold : ∀ d : Dict α, (es.foldl (fun d e => d.insert e.1 e.2) d).entries =
      es.foldl (fun es e => Entries.insert e.1 e.2 es) d.entries := by
    clear h
    induction es with
    | nil => exact fun d => rfl
    | cons e r ih => exact fun d => ih (d.insert e.1 e.2)
  rw [Dict.ofList, hfold]
  exact Entries.foldl_insert_of_sorted h

theorem Config.decodeDict_map {α : Type} {read : Json → Except Mismatch α} {write : α → Json}
    {d : Dict α} (h : ∀ name a, d.get? name = some a → read (write a) = .ok a) :
    Config.decodeDict read (.obj (d.map fun _ a => write a).entries) = .ok d := by
  have hread : asMembers read (.obj (d.map fun _ a => write a).entries) = .ok d.entries := by
    refine mapM_eq_ok_iff.mpr ?_
    rw [Dict.map, List.forall₂_map_left_iff, List.forall₂_same]
    intro e he
    rw [h e.1 e.2 (Dict.get?_eq_some_iff.mpr he)]
    rfl
  have hdict : Dict.ofList d.entries = d :=
    Dict.ext_get? fun k => congrArg _ (Dict.entries_ofList_of_sorted d.sorted)
  rw [Config.decodeDict, hread, Except.map, hdict]

/-- A configuration is read as it is written. -/
theorem Config.decode_toJson {c : Config} (h : c.InRange) : Config.decode c.toJson = .ok c := by
  have happs := Config.decodeDict_map (d := c.apps) fun _ a _ => App.decode_toJson a
  have hconnections := Config.decodeDict_map (d := c.connections)
    fun name spec hspec => ConnectionSpec.decode_toJson (h name spec hspec)
  simp [Config.decode, Config.toJson, asFields, Json.given?, Json.required, happs, hconnections,
    bind, Except.bind, Except.map]

/-! ## Files -/

namespace Config

/-- A text holds a configuration: it is a JSON object of the two parts, and these are read as it. -/
def WrittenIn (c : Config) (text : String) : Prop :=
  ∃ a b, Json.parse? (withoutMark text) = some (.obj [("apps", a), ("connections", b)]) ∧
    Config.decode (.obj [("apps", a), ("connections", b)]) = .ok c

variable {c : Config}

/-- The written form of a configuration holds it. -/
theorem writtenIn_toJson (h : c.InRange) : c.WrittenIn c.toJson.compact := by
  have hplain := plain_toJson h
  have hparse := Json.parse?_compact hplain.ordered hplain.whole
    (Nat.le_trans hplain.depth (by decide))
  have hmark : withoutMark c.toJson.compact = c.toJson.compact := by
    unfold withoutMark
    rw [Json.compact, String.toList_ofList, toJson, chars, List.cons_append]
    exact if_neg (by decide)
  exact ⟨_, _, by rw [hmark, hparse, toJson], decode_toJson h⟩

variable {files : Files} {path text : String}

/-- A file is read from its entries, laid over nothing. -/
theorem ofFile_of_entries {entries : List (String × Value)} (hfile : files path = some text)
    (hentries : fileEntries path text = .ok entries) :
    Config.ofFile files path =
      (Value.merge entries (.table none [])).asConfig.mapError ConfigError.value := by
  unfold Config.ofFile
  rw [hfile]
  simp only [hentries, bind, Except.bind]
  cases (Value.merge entries (.table none [])).asConfig <;> rfl

/-- A file is read as the configuration that is written in it. -/
theorem ofFile_of_writtenIn (hpath : Format.ofPath? path = some .json)
    (hfile : files path = some text) (h : c.WrittenIn text) :
    Config.ofFile files path = .ok c := by
  obtain ⟨a, b, hparse, hdecode⟩ := h
  obtain ⟨-, ha, hb, -⟩ := Json.ordered_of_parse? hparse
  let o := Value.Origin.file (tidyPath path)
  have hentries : fileEntries path text =
      .ok [("apps", Value.ofJson o a), ("connections", Value.ofJson o b)] := by
    unfold fileEntries
    rw [hpath]
    dsimp only [Format.entries?]
    rw [hparse]
    rfl
  have hmerge : Value.merge [("apps", Value.ofJson o a), ("connections", Value.ofJson o b)]
      (.table none []) = .table none [("apps", (Value.ofJson o a).overlay .absent),
        ("connections", (Value.ofJson o b).overlay .absent)] := by
    have happs : Value.keySteps "apps" = [.name "apps"] := by decide
    have hconnections : Value.keySteps "connections" = [.name "connections"] := by decide
    have hlookup : ∀ v : Value, Entries.lookup "connections" [("apps", v)] = none := by
      intro v
      simp [Entries.lookup]
    have hinsert : ∀ v w : Value, Entries.insert "connections" w [("apps", v)] =
        [("apps", v), ("connections", w)] := by
      intro v w
      have hlt : "apps" < "connections" := by decide
      exact Entries.insert_of_lt fun e he => by
        rw [List.mem_singleton.mp he]
        exact hlt
    simp only [Value.merge, List.foldl_cons, List.foldl_nil, happs, hconnections, Value.put,
      Value.get?, Value.members, Value.tableOrigin, Entries.lookup, Entries.insert, hlookup,
      hinsert, Option.getD_none]
  have hread := Value.asConfig_of_decode (Value.holds_overlay (Value.holds_ofJson o a) ha)
    (Value.holds_overlay (Value.holds_ofJson o b) hb) hdecode
  rw [ofFile_of_entries hfile hentries, hmerge, hread]
  rfl

/-- **A file gives the configuration that is written in it.** Every configuration can be written to
a file as a JSON object. However it is written, a service that is started with the file has the same
configuration, or is refused it for the same reason, as if it were given the configuration itself. -/
theorem file_agrees (c : Config) :
    (c.InRange → c.WrittenIn c.toJson.compact) ∧
    ∀ (files : Files) (path text : String), Format.ofPath? path = some .json →
      files path = some text → c.WrittenIn text →
      (Source.file path).load (Config.ofFile files) =
        (Source.inline c).load (Config.ofFile files) := by
  refine ⟨writtenIn_toJson, fun files path text hpath hfile h => ?_⟩
  have hread : Config.ofFile files path = .ok c := ofFile_of_writtenIn hpath hfile h
  change (Config.ofFile files path >>= _) = _
  rw [hread]
  rfl

/-- A database in a file that may take some seconds to open. -/
def waiting (seconds : Nat) : Config where
  connections := .singleton defaultAlias (.descriptor
    { engine := "sqlite", credentials := { filePath := some "app.db" },
      pool := { connectTimeout := some seconds } })
  apps := .singleton "models" { models := ["models"] }

theorem inRange_waiting {n : Nat} (h : n ≤ Text.Integer.maxUnsigned 64) : (waiting n).InRange := by
  intro name spec hspec
  obtain ⟨-, rfl⟩ : (name, spec).1 = _ ∧ (name, spec).2 = _ :=
    Prod.mk.inj (List.mem_singleton.mp (Dict.get?_eq_some_iff.mp hspec))
  exact ⟨nofun, nofun, nofun, by rintro m ⟨⟩; exact h, nofun⟩

/-- The longest timeout there is. -/
theorem file_agrees_waiting : let c := waiting 18446744073709551615
    let files : Files := fun path => if path = "orm.json" then some c.toJson.compact else none
    c.InRange ∧ Format.ofPath? "orm.json" = some .json ∧ c.WrittenIn c.toJson.compact ∧
      (Source.file "orm.json").load (Config.ofFile files) = .ok c := by
  intro c files
  have hrange : c.InRange := inRange_waiting (by decide)
  have hpath : Format.ofPath? "orm.json" = some .json := by decide
  obtain ⟨hwritten, hload⟩ := file_agrees c
  refine ⟨hrange, hpath, hwritten hrange, ?_⟩
  rw [hload files "orm.json" _ hpath rfl (hwritten hrange)]
  decide

end Config

end DbLifecycle
