import DbLifecycle.Database.Driver
import DbLifecycle.Proofs.Config.Loading
import DbLifecycle.Proofs.Url.Parsed

/-!
# Which driver takes a connection

A connection names its engine, and its URL is given to the driver of its scheme. These are two lists
of names: there are more names of engines than schemes of drivers.

* `Link.driver?`: the engine whose driver is asked for a URL.
* `Credentials.formed_of_serverUrl`: the URL of a server's descriptor is in written form.
* `Url.parse_scheme`: text that begins with a scheme gives a URL of that scheme.
* **`ConnectionSpec.dispatch`**: which driver a connection's URL is given to, and when there is
  none.
-/

namespace DbLifecycle

/-! ## Drivers -/

namespace Link

/-- The engine whose driver is asked for a URL. -/
def driver? (url : String) : Option Engine :=
  match Url.parse url with
  | .ok u => engine? (String.ofList u.scheme)
  | .error _ => none

theorem engine?_scheme (engine : Engine) : engine? engine.scheme = some engine := by
  cases engine <;> rfl

/-- The schemes of drivers. -/
def schemes : List String := ["sqlite", "postgres", "postgresql", "mysql"]

theorem mem_of_engine? {s : String} {e : Engine} (h : engine? s = some e) : s ∈ schemes := by
  unfold engine? at h
  split at h <;> simp_all [schemes]

end Link

namespace Engine

/-- The short names of engines. -/
def names : List String :=
  ["sqlite", "sqlite3", "postgres", "postgresql", "asyncpg", "psycopg", "mysql", "asyncmy"]

theorem mem_of_ofName? {name : String} {e : Engine} (h : ofName? name = some e) :
    shortName name ∈ names := by
  unfold ofName? at h
  split at h <;> simp_all [names]

/-- A name is the scheme of a driver, in any case. -/
def isScheme (name : String) : Bool := String.ofList (name.toList.map Char.toLower) ∈ Link.schemes

end Engine

/-! ## Beginnings of URLs -/

namespace Url

theorem dropWhile_append_cons {p : Char → Bool} {c : Char} (hc : p c = false) (cs r : List Char) :
    (cs ++ c :: r).dropWhile p = cs.dropWhile p ++ c :: r := by
  induction cs with
  | nil => exact List.dropWhile_cons_of_neg (by simp [hc])
  | cons d cs ih =>
    rw [List.cons_append, List.dropWhile_cons, List.dropWhile_cons]
    split
    · exact ih
    · rfl

/-- What counts up to a visible character does not depend on what follows. -/
theorem significant_append_cons (front : List Char) (mark : Char) (hmark : IsVisible mark)
    (back : List Char) : ∃ rest, significant (front ++ mark :: back) =
      (front.dropWhile isTrimmed).filter (fun c => !isIgnored c) ++ mark :: rest := by
  have hrev : (front.dropWhile isTrimmed ++ mark :: back).reverse =
      back.reverse ++ mark :: (front.dropWhile isTrimmed).reverse := by simp
  refine ⟨((back.reverse.dropWhile isTrimmed).reverse).filter fun c => !isIgnored c, ?_⟩
  unfold significant
  rw [dropWhile_append_cons hmark.isTrimmed, hrev, dropWhile_append_cons hmark.isTrimmed]
  simp [hmark.isIgnored]

/-- What is read of a scheme, if anything is. -/
theorem scheme?_of_colon {front rest s back : List Char} (hfront : ':' ∉ front)
    (h : scheme? (front ++ ':' :: rest) = some (s, back)) :
    s = front.map Char.toLower ∧ back = rest := by
  unfold scheme? at h
  split at h
  · rename_i c r back' htake hdrop
    have hsplit : (c :: r) ++ ':' :: back' = front ++ ':' :: rest := by
      rw [← htake, ← hdrop, List.takeWhile_append_dropWhile]
    have hcolon : ':' ∉ c :: r := by
      rw [← htake]
      intro hmem
      have hchar := List.mem_takeWhile_imp hmem
      revert hchar
      decide
    obtain ⟨hleft, hright⟩ : c :: r = front ∧ back' = rest := by
      have h₁ := takeWhile_append_cons (ne_of_notMem hcolon) (d := ':') (by simp) back'
      have h₂ := takeWhile_append_cons (ne_of_notMem hfront) (d := ':') (by simp) rest
      rw [hsplit] at h₁
      exact ⟨h₁.1.symm.trans h₂.1, List.cons.inj (h₁.2.symm.trans h₂.2) |>.2⟩
    split at h
    · obtain ⟨rfl, rfl⟩ := Prod.mk.inj (Option.some.inj h)
      exact ⟨by rw [← hleft], hright⟩
    · cases h
  · cases h

/-- **The scheme of a URL is what stands before the first colon**, apart from what does not
count. -/
theorem scheme_of_parse {text : String} {front back : List Char} {u : Url}
    (htext : text.toList = front ++ ':' :: back) (hfront : ':' ∉ front) (h : parse text = .ok u) :
    u.scheme = ((front.dropWhile isTrimmed).filter fun c => !isIgnored c).map Char.toLower := by
  obtain ⟨rest, hrest⟩ := significant_append_cons front ':' ⟨by decide, by decide⟩ back
  have hno : ':' ∉ (front.dropWhile isTrimmed).filter fun c => !isIgnored c := fun hmem =>
    hfront ((List.dropWhile_subset _) (List.mem_of_mem_filter hmem))
  unfold parse at h
  rw [htext, hrest] at h
  split at h
  · cases h
  · rename_i s rest' hs
    obtain ⟨⟨authority, path⟩, -, h⟩ := bind_eq_ok_iff.mp h
    cases h
    exact (scheme?_of_colon hno hs).1

theorem splitMark_cons {mark c : Char} (h : c ≠ mark) (cs : List Char) :
    splitMark mark (c :: cs) = (c :: (splitMark mark cs).1, (splitMark mark cs).2) := by
  have hc : (c != mark) = true := bne_iff_ne.mpr h
  simp only [splitMark, List.dropWhile_cons, List.takeWhile_cons, hc, if_true]
  cases cs.dropWhile (· != mark) <;> rfl

/-- After two slashes comes an authority. -/
theorem authority_of_parse {text : String} {s rest : List Char} {u : Url}
    (hs : scheme? (significant text.toList) = some (s, '/' :: '/' :: rest))
    (h : parse text = .ok u) : u.authority.isSome = true := by
  obtain ⟨r, hr⟩ : ∃ r, (splitParts ('/' :: '/' :: rest)).1 = '/' :: '/' :: r := by
    unfold splitParts
    rw [splitMark_cons (by decide), splitMark_cons (by decide)]
    dsimp only
    rw [splitMark_cons (by decide), splitMark_cons (by decide)]
    exact ⟨_, rfl⟩
  unfold parse at h
  rw [hs] at h
  dsimp only at h
  obtain ⟨⟨authority, path⟩, hhier, h⟩ := bind_eq_ok_iff.mp h
  cases h
  rw [hr] at hhier
  obtain ⟨⟨a, more⟩, -, hhier⟩ := bind_eq_ok_iff.mp hhier
  cases hhier
  rfl

end Url

/-! ## Servers -/

/-- A port has sixteen bits. -/
def Port.Fits : Port → Prop
  | .number n => n ≤ 65535
  | .text _ => True

theorem Port.le_of_number? {p : Port} (hp : p.Fits) {n : Nat} (h : p.number? = .ok n) :
    n ≤ 65535 := by
  cases p with
  | number m =>
    cases h
    exact hp
  | text s =>
    unfold number? at h
    dsimp only at h
    split at h
    · rename_i m hm
      cases h
      exact Text.Integer.le_of_unsigned? hm
    · cases h

/-- A port that is given fits. -/
def ConnectionSpec.Sized : ConnectionSpec → Prop
  | .url _ => True
  | .descriptor d => ∀ p ∈ d.credentials.port, p.Fits

theorem Engine.isScheme_scheme (engine : Engine) : Url.IsScheme engine.scheme.toList := by
  cases engine
  · exact ⟨⟨'s', _, rfl, rfl⟩, List.all_eq_true.mp rfl, rfl⟩
  · exact ⟨⟨'p', _, rfl, rfl⟩, List.all_eq_true.mp rfl, rfl⟩
  · exact ⟨⟨'m', _, rfl, rfl⟩, List.all_eq_true.mp rfl, rfl⟩

namespace Url

theorem scheme_of_withHost? {f : Authority → Authority} {u v : Url} (h : u.withHost? f = some v) :
    v.scheme = u.scheme := by
  unfold withHost? at h
  split at h
  · split at h
    · cases h
    · cases h
      rfl
  · cases h

/-- What is written after an engine's scheme and two slashes is a URL of that scheme. -/
theorem formed_of_engine {engine : Engine} {host : String} {u : Url}
    (h : parse (engine.scheme ++ "://" ++ host) = .ok u) :
    u.Formed ∧ u.scheme = engine.scheme.toList := by
  have hvisible : ∀ c ∈ engine.scheme.toList, IsVisible c := fun c hc =>
    isVisible_of_isSchemeChar (engine.isScheme_scheme.allowed c hc)
  have htext : (engine.scheme ++ "://" ++ host).toList =
      engine.scheme.toList ++ ':' :: '/' :: '/' :: host.toList := by
    simp [String.toList_append]
  obtain ⟨rest, hrest⟩ := significant_append_cons (engine.scheme.toList ++ [':', '/'])
    '/' ⟨by decide, by decide⟩ host.toList
  have hkept : ((engine.scheme.toList ++ [':', '/']).dropWhile isTrimmed).filter
      (fun c => !isIgnored c) = engine.scheme.toList ++ [':', '/'] := by
    cases engine <;> decide
  have hs : scheme? (significant (engine.scheme ++ "://" ++ host).toList) =
      some (engine.scheme.toList, '/' :: '/' :: rest) := by
    rw [hkept] at hrest
    simp only [List.append_assoc, List.cons_append, List.nil_append] at hrest
    rw [htext, hrest, scheme?_append engine.isScheme_scheme]
  refine ⟨formed_of_parse h (authority_of_parse hs h), ?_⟩
  unfold parse at h
  rw [hs] at h
  obtain ⟨⟨authority, path⟩, -, h⟩ := bind_eq_ok_iff.mp h
  cases h
  rfl

end Url

namespace Credentials

open Url

theorem setPart_of {α : Type} {set : α → Url → Except ConfigError Url} {value : Option α}
    {u v : Url} {P : Url → Prop} (hu : P u) (hset : ∀ a ∈ value, ∀ w, set a u = .ok w → P w)
    (h : setPart set value u = .ok v) : P v := by
  cases value with
  | none =>
    cases h
    exact hu
  | some a => exact hset a rfl v h

theorem needHost_eq_ok {part : HostPart} {engine : Engine} {u? : Option Url} {u : Url}
    (h : needHost part engine u? = .ok u) : u? = some u := by
  cases u? with
  | none => cases h
  | some v =>
    cases h
    rfl

/-- **The URL of a server's descriptor is in written form**, and its scheme is the engine's. -/
theorem formed_of_serverUrl {c : Credentials} (hport : ∀ p ∈ c.port, p.Fits) {engine : Engine}
    {u : Url} (h : c.serverUrl engine = .ok u) :
    u.Formed ∧ u.scheme = engine.scheme.toList := by
  unfold serverUrl at h
  dsimp only at h
  split at h
  case h_2 => cases h
  rename_i base hbase
  obtain ⟨base', hbase', h⟩ := bind_eq_ok_iff.mp h
  cases hbase'
  obtain ⟨v₁, hv₁, h⟩ := bind_eq_ok_iff.mp h
  obtain ⟨v₂, hv₂, h⟩ := bind_eq_ok_iff.mp h
  obtain ⟨v₃, hv₃, h⟩ := bind_eq_ok_iff.mp h
  have h₁ : v₁.Formed ∧ v₁.scheme = engine.scheme.toList := by
    refine setPart_of (P := fun v => v.Formed ∧ v.scheme = engine.scheme.toList)
      (formed_of_engine hbase) (fun name _ w hw => ?_) hv₁
    have hset := needHost_eq_ok hw
    obtain ⟨hformed, hscheme⟩ := formed_of_engine hbase
    exact ⟨hformed.setUsername? hset, (scheme_of_withHost? hset).trans hscheme⟩
  have h₂ : v₂.Formed ∧ v₂.scheme = engine.scheme.toList := by
    refine setPart_of (P := fun v => v.Formed ∧ v.scheme = engine.scheme.toList)
      h₁ (fun password _ w hw => ?_) hv₂
    have hset := needHost_eq_ok hw
    exact ⟨h₁.1.setPassword? hset, (scheme_of_withHost? hset).trans h₁.2⟩
  have h₃ : v₃.Formed ∧ v₃.scheme = engine.scheme.toList := by
    refine setPart_of (P := fun v => v.Formed ∧ v.scheme = engine.scheme.toList)
      h₂ (fun p hp w hw => ?_) hv₃
    obtain ⟨n, hn, hw⟩ := bind_eq_ok_iff.mp hw
    have hset := needHost_eq_ok hw
    exact ⟨h₂.1.setPort? (Port.le_of_number? (hport p hp) hn) hset,
      (scheme_of_withHost? hset).trans h₂.2⟩
  refine setPart_of (P := fun v => v.Formed ∧ v.scheme = engine.scheme.toList)
    h₃ (fun database _ w hw => ?_) h
  cases hw
  exact ⟨h₃.1.setPath _, h₃.2⟩

end Credentials

/-! ## Written URLs -/

/-- The URL of a file database begins with its scheme. -/
theorem scheme_of_fileUrl {rest : List Char} {url : String} (h : fileUrl rest = .ok url) :
    ∃ back, url.toList = "sqlite".toList ++ ':' :: back := by
  unfold fileUrl at h
  dsimp only at h
  split at h
  · cases h
    exact ⟨_, rfl⟩
  · split at h
    · cases h
    · split at h
      · cases h
        exact ⟨'/' :: '/' :: dropSlashPairs rest, by simp [String.toList_append]⟩
      · cases h
        exact ⟨'/' :: '/' :: dropSlashPairs rest ++ "?mode=rwc".toList,
          by simp [String.toList_append]⟩

/-- A file database's URL goes to its driver if it can be read at all. -/
theorem driver?_of_fileUrl {rest : List Char} {url : String} (h : fileUrl rest = .ok url) {u : Url}
    (hu : Url.parse url = .ok u) : Link.driver? url = some .sqlite := by
  obtain ⟨back, hback⟩ := scheme_of_fileUrl h
  have hscheme := Url.scheme_of_parse hback (by decide) hu
  have hsqlite : u.scheme = "sqlite".toList := by
    rw [hscheme]
    decide
  unfold Link.driver?
  rw [hu]
  dsimp only
  rw [hsqlite]
  rfl

/-- The name before the first colon, and what follows it. -/
theorem exists_colon {cs : List Char} {c : Char} {rest : List Char}
    (h : cs.dropWhile (· != ':') = c :: rest) :
    cs = cs.takeWhile (· != ':') ++ ':' :: rest ∧ ':' ∉ cs.takeWhile (· != ':') := by
  have hc : c = ':' := by
    have hne : cs.dropWhile (· != ':') ≠ [] := by rw [h]; simp
    have hhead := List.head_dropWhile_not (· != ':') hne
    simp only [h, List.head_cons] at hhead
    simpa using hhead
  subst hc
  refine ⟨?_, fun hmem => ?_⟩
  · rw [← h, List.takeWhile_append_dropWhile]
  · have hm := List.mem_takeWhile_imp hmem
    simp at hm

theorem engine?_of_dot {cs : List Char} (h : '.' ∈ cs) :
    Link.engine? (String.ofList cs) = none := by
  have hno : ∀ name ∈ Link.schemes, '.' ∉ name.toList := by decide
  cases he : Link.engine? (String.ofList cs) with
  | none => rfl
  | some e => exact absurd (by rwa [String.toList_ofList]) (hno _ (Link.mem_of_engine? he))

theorem Engine.shortName_of_no_dot {name : String} (h : '.' ∉ name.toList) :
    Engine.shortName name = String.ofList (name.toList.map Char.toLower) := by
  unfold shortName
  rw [List.splitOn_eq_singleton h]
  rfl

theorem isVisible_of_toLower {c : Char} (h : Url.IsVisible c.toLower) : Url.IsVisible c := by
  cases hup : c.isUpper with
  | false => rwa [Char.toLower_eq_of_not_isUpper (by simp [hup])] at h
  | true =>
    refine Url.isVisible_of_isSchemeChar ?_
    simp [Url.isSchemeChar, Char.isAlphanum, Char.isAlpha, hup]

/-- **Only some names of engines are schemes of drivers**, in any case: those that are no alias and
stand alone. What does not count in a scheme can only stand before a point. -/
theorem engine?_of_name {name : String} {e : Engine} (h : Engine.ofName? name = some e) :
    Link.engine? (String.ofList
      (((name.toList.dropWhile Url.isTrimmed).filter fun c => !Url.isIgnored c).map
        Char.toLower)) = if Engine.isScheme name then some e else none := by
  by_cases hdot : '.' ∈ name.toList
  · have hkept : '.' ∈ name.toList.dropWhile Url.isTrimmed := by
      rw [← List.takeWhile_append_dropWhile (p := Url.isTrimmed) (l := name.toList),
        List.mem_append] at hdot
      refine hdot.resolve_left fun hmem => ?_
      have htrimmed := List.mem_takeWhile_imp hmem
      revert htrimmed
      decide
    have hno : ∀ scheme ∈ Link.schemes, '.' ∉ scheme.toList := by decide
    have hscheme : Engine.isScheme name = false := by
      refine decide_eq_false fun hmem => hno _ hmem ?_
      rw [String.toList_ofList]
      exact List.mem_map.mpr ⟨'.', hdot, rfl⟩
    rw [engine?_of_dot (List.mem_map.mpr ⟨'.', List.mem_filter.mpr ⟨hkept, by decide⟩, rfl⟩),
      hscheme, if_neg Bool.false_ne_true]
  · have hshort := Engine.shortName_of_no_dot hdot
    have hplain : Engine.names.all (fun name => name.toList.all Url.isSchemeChar) = true := rfl
    have hvisible : ∀ c ∈ name.toList, Url.IsVisible c := by
      intro c hc
      have hname := List.all_eq_true.mp hplain _ (Engine.mem_of_ofName? h)
      rw [hshort, String.toList_ofList] at hname
      exact isVisible_of_toLower (Url.isVisible_of_isSchemeChar
        (List.all_eq_true.mp hname _ (List.mem_map_of_mem hc)))
    rw [Url.kept_of_visible hvisible]
    unfold Engine.isScheme
    unfold Engine.ofName? at h
    rw [hshort] at h
    split at h <;> simp_all [Link.engine?, Link.schemes]

/-! ## Connections -/

namespace ConnectionSpec

/-- The name of the engine as it is written: before the first colon, or in the descriptor. -/
def engineName : ConnectionSpec → String
  | .url text => String.ofList (text.toList.takeWhile (· != ':'))
  | .descriptor d => d.engine

end ConnectionSpec

/-- What a written URL is used as: that of a file takes its one form, that of a server can be read
and stays as it is. -/
inductive Normalized (text : String) : String → Prop
  | file {rest : List Char} {url : String} (h : fileUrl rest = .ok url)
      (hname : Engine.ofName? (ConnectionSpec.url text).engineName = some .sqlite) :
      Normalized text url
  | server {engine : Engine} {rest : List Char} {u : Url} (hu : Url.parse text = .ok u)
      (htext : text.toList = text.toList.takeWhile (· != ':') ++ ':' :: rest)
      (hname : Engine.ofName? (ConnectionSpec.url text).engineName = some engine)
      (hne : engine ≠ .sqlite) : Normalized text text

theorem normalized_of_normalizeUrl {text url : String} (h : normalizeUrl text = .ok url) :
    Normalized text url := by
  unfold normalizeUrl at h
  dsimp only at h
  split at h
  · cases h
  · rename_i c rest hdrop
    split at h
    · rename_i hengine
      exact .file h hengine
    · rename_i engine hne hengine
      split at h
      · rename_i u hu
        cases h
        exact .server hu (exists_colon hdrop).1 hengine hne
      · cases h
    · cases h

/-- A server's URL is given to the driver only if the engine has the name of the driver's scheme. -/
theorem driver?_of_server {text : String} {engine : Engine} {rest : List Char} {u : Url}
    (hu : Url.parse text = .ok u)
    (htext : text.toList = text.toList.takeWhile (· != ':') ++ ':' :: rest)
    (hname : Engine.ofName? (ConnectionSpec.url text).engineName = some engine) :
    Link.driver? text =
      if Engine.isScheme (ConnectionSpec.url text).engineName then some engine else none := by
  have hcolon : ':' ∉ text.toList.takeWhile (· != ':') := fun hmem => by
    have hm := List.mem_takeWhile_imp hmem
    simp at hm
  have hscheme := Url.scheme_of_parse htext hcolon hu
  have hdriver := engine?_of_name hname
  rw [ConnectionSpec.engineName, String.toList_ofList] at hdriver
  unfold Link.driver?
  rw [hu]
  dsimp only
  rw [hscheme, hdriver, ConnectionSpec.engineName]

/-- What follows the name of the engine decides the URL of a file database. -/
theorem normalizeUrl_file {name rest : List Char} (hcolon : ':' ∉ name)
    (hname : Engine.ofName? (String.ofList name) = some .sqlite) :
    normalizeUrl (String.ofList (name ++ ':' :: rest)) = fileUrl rest := by
  obtain ⟨htake, hdrop⟩ :=
    Url.takeWhile_append_cons (Url.ne_of_notMem hcolon) (d := ':') (by simp) rest
  unfold normalizeUrl
  rw [String.toList_ofList, hdrop, htake]
  dsimp only
  rw [hname]

/-- What is written after `sqlite://` is the path of a file. -/
theorem normalizeUrl_path (file : String) :
    normalizeUrl ("sqlite://" ++ file) = fileUrl ('/' :: '/' :: file.toList) := by
  have htext : "sqlite://" ++ file =
      String.ofList ("sqlite".toList ++ ':' :: '/' :: '/' :: file.toList) := by
    rw [← String.toList_inj]
    simp [String.toList_append]
  rw [htext]
  exact normalizeUrl_file (by decide) (by decide)

theorem fileUrl_of_normalizeUrl {path url : String}
    (h : normalizeUrl ("sqlite://" ++ path) = .ok url) : ∃ rest, fileUrl rest = .ok url :=
  ⟨_, (normalizeUrl_path path).symm.trans h⟩

/-- The URL of a server's descriptor is given to the engine's driver. -/
theorem driver?_of_formed {engine : Engine} {u : Url} (h : u.Formed)
    (hscheme : u.scheme = engine.scheme.toList) : Link.driver? u.text = some engine := by
  unfold Link.driver?
  rw [Url.parse_text h]
  dsimp only
  rw [hscheme, String.ofList_toList, Link.engine?_scheme]

namespace ConnectionSpec

/-- **Which driver a connection's URL is given to.** Every connection of a configuration that is
accepted has a URL, and it names an engine. That of a server's descriptor is given to the engine's
driver. A written URL of a server can be read, but it is given to the driver only if the engine is
written as the driver's scheme, in any case: not after a dotted path, and not by another of its
names. The URL of a file database is given to its driver if it can be read at all. -/
theorem dispatch (spec : ConnectionSpec) (hspec : spec.Sized) :
    (∀ c : Config, spec ∈ c.connections.values → c.validate = .ok () →
      ∃ url, spec.toUrl = .ok url) ∧
    ∀ url, spec.toUrl = .ok url → ∃ engine, Engine.ofName? spec.engineName = some engine ∧
      (engine = .sqlite → (∃ u, Url.parse url = .ok u) →
        Link.driver? url = some .sqlite) ∧
      (engine ≠ .sqlite → (∃ u, Url.parse url = .ok u) ∧
        Link.driver? url = match spec with
          | .descriptor _ => some engine
          | .url _ => if Engine.isScheme spec.engineName then some engine else none) := by
  refine ⟨fun c hmem hvalid => (Config.validate_eq_ok_iff.mp hvalid).2.2.1 spec hmem,
    fun url hurl => ?_⟩
  cases spec with
  | url text =>
    rw [toUrl] at hurl
    cases normalized_of_normalizeUrl hurl with
    | file h hname =>
      refine ⟨.sqlite, hname, fun _ hread => ?_, fun hne => absurd rfl hne⟩
      obtain ⟨u, hu⟩ := hread
      exact driver?_of_fileUrl h hu
    | server hu htext hname hne =>
      exact ⟨_, hname, fun he => absurd he hne, fun _ => ⟨⟨_, hu⟩,
        driver?_of_server hu htext hname⟩⟩
  | descriptor d =>
    rw [toUrl, Descriptor.toUrl] at hurl
    split at hurl
    case h_1 => cases hurl
    case h_2 hname =>
      split at hurl
      · cases hurl
      · obtain ⟨rest, hfile⟩ := fileUrl_of_normalizeUrl hurl
        refine ⟨.sqlite, hname, fun _ hread => ?_, fun hne => absurd rfl hne⟩
        obtain ⟨u, hu⟩ := hread
        exact driver?_of_fileUrl hfile hu
    case h_3 engine hne hname =>
      cases hu : d.credentials.serverUrl engine with
      | error e => simp [hu, Except.map] at hurl
      | ok u =>
      simp only [hu, Except.map, Except.ok.injEq] at hurl
      obtain ⟨hformed, hscheme⟩ := Credentials.formed_of_serverUrl hspec hu
      rw [← hurl]
      exact ⟨engine, hname, fun he => absurd he hne, fun _ =>
        ⟨⟨u, Url.parse_text hformed⟩, driver?_of_formed hformed hscheme⟩⟩

/-- A server's descriptor in a configuration. -/
theorem dispatch_descriptor :
    ∃ d : Descriptor, d.engine = "asyncpg" ∧ (ConnectionSpec.descriptor d).Sized ∧
      ∃ url, (ConnectionSpec.descriptor d).toUrl = .ok url ∧ Link.driver? url = some .postgres := by
  let d : Descriptor :=
    { engine := "asyncpg", credentials := { port := some (.number 5432), database := some "app" } }
  have hsized : (ConnectionSpec.descriptor d).Sized := fun p hp => by
    cases Option.some.inj hp
    exact (by decide : 5432 ≤ 65535)
  have hurl : (ConnectionSpec.descriptor d).toUrl = .ok "postgres://localhost:5432/app" := by
    decide
  obtain ⟨engine, hname, -, hserver⟩ :=
    (dispatch (.descriptor d) hsized).2 _ hurl
  have hengine : engine = .postgres := Option.some.inj (hname.symm.trans (by decide))
  subst hengine
  exact ⟨d, rfl, hsized, _, hurl, (hserver (by decide)).2⟩

/-- Names of engines that are no schemes of drivers, and a file whose name is no host. -/
theorem no_driver_of_accepted :
    (ConnectionSpec.url "asyncpg://localhost/db").toUrl = .ok "asyncpg://localhost/db" ∧
    Link.driver? "asyncpg://localhost/db" = none ∧
    (ConnectionSpec.url "sqlite://my data.db").toUrl = .ok "sqlite://my data.db?mode=rwc" ∧
    Url.parse "sqlite://my data.db?mode=rwc" = .error .invalidDomainCharacter := by
  decide

end ConnectionSpec

end DbLifecycle
