import DbLifecycle.Proofs.Connection.Dispatch

/-!
# The URL a connection is used by

A connection of a file is used by a URL that is built from its path, one of a server by the URL that
was written or put together. The URL can itself be written as a connection.

* `dropSlashPairs_eq`: of slashes in front, one stays if their number is odd.
* `pathUrl`, `fileUrl_eq`: the URL of a path.
* `sameFileUrl`: the URL that names the file which a path after one pair of slashes names.
* **`ConnectionSpec.names_file`**: which file the URL of a connection names.
* **`ConnectionSpec.resolved_stays`**: a URL that a connection is used by is used as it is.
-/

namespace DbLifecycle

/-! ## Slashes -/

/-- The number of slashes in front. -/
def slashes (cs : List Char) : Nat := (cs.takeWhile (· == '/')).length

@[simp]
theorem slashes_slash (cs : List Char) : slashes ('/' :: cs) = slashes cs + 1 := by
  rw [slashes, List.takeWhile_cons_of_pos (by rfl), List.length_cons, slashes]

/-- The slashes in front, and what follows them. -/
theorem replicate_slashes (cs : List Char) :
    List.replicate (slashes cs) '/' ++ cs.dropWhile (· == '/') = cs := by
  have hfront : cs.takeWhile (· == '/') = List.replicate (slashes cs) '/' :=
    List.eq_replicate_iff.mpr ⟨rfl, fun c hc => by simpa using List.mem_takeWhile_imp hc⟩
  rw [← hfront, List.takeWhile_append_dropWhile]

theorem two_le_slashes_iff {cs : List Char} : 2 ≤ slashes cs ↔ ∃ r, cs = '/' :: '/' :: r := by
  constructor
  · intro h
    obtain ⟨n, hn⟩ := Nat.exists_eq_add_of_le' h
    have hcs := replicate_slashes cs
    rw [hn] at hcs
    exact ⟨_, hcs.symm⟩
  · rintro ⟨r, rfl⟩
    rw [slashes_slash, slashes_slash]
    omega

/-- Of slashes in front, one if their number is odd, and all that follows them. -/
def keptPath (cs : List Char) : List Char :=
  List.replicate (slashes cs % 2) '/' ++ cs.dropWhile (· == '/')

/-- **Of slashes in front, one stays if their number is odd.** -/
theorem dropSlashPairs_eq (cs : List Char) : dropSlashPairs cs = keptPath cs := by
  fun_induction dropSlashPairs cs with
  | case1 r ih =>
    rw [ih, keptPath, keptPath, slashes_slash, slashes_slash, Nat.add_assoc, Nat.add_mod_right]
    rfl
  | case2 cs hpair =>
    have hfew : slashes cs < 2 := by
      by_contra hmany
      obtain ⟨r, rfl⟩ := two_le_slashes_iff.mp (Nat.le_of_not_lt hmany)
      exact hpair r rfl
    rw [keptPath, Nat.mod_eq_of_lt hfew, replicate_slashes]

theorem dropSlashPairs_of_slashes {cs : List Char} (h : slashes cs < 2) :
    dropSlashPairs cs = cs := by
  rw [dropSlashPairs_eq, keptPath, Nat.mod_eq_of_lt h, replicate_slashes]

theorem slashes_replicate_append {n : Nat} {cs : List Char} (h : cs.head? ≠ some '/') :
    slashes (List.replicate n '/' ++ cs) = n := by
  induction n with
  | zero =>
    cases cs with
    | nil => rfl
    | cons c r =>
      have hc : c ≠ '/' := fun he => h (by rw [he]; rfl)
      rw [List.replicate_zero, List.nil_append, slashes,
        List.takeWhile_cons_of_neg (by simpa using hc), List.length_nil]
  | succ n ih => rw [List.replicate_succ, List.cons_append, slashes_slash, ih]

theorem head?_dropWhile_slash (cs : List Char) : (cs.dropWhile (· == '/')).head? ≠ some '/' := by
  intro h
  have hnot := List.head?_dropWhile_not (· == '/') cs
  rw [h] at hnot
  simp at hnot

theorem slashes_keptPath (cs : List Char) : slashes (keptPath cs) = slashes cs % 2 :=
  slashes_replicate_append (head?_dropWhile_slash cs)

/-- A path is absolute if it begins with a slash. -/
theorem head?_eq_slash_iff {cs : List Char} : cs.head? = some '/' ↔ 0 < slashes cs := by
  cases cs with
  | nil => simp [slashes]
  | cons c r =>
    by_cases hc : c = '/'
    · subst hc
      simp
    · simp [slashes, hc]

/-- What does not begin with a slash adds none to those in front. -/
theorem slashes_append (cs : List Char) {tail : List Char} (htail : tail.head? ≠ some '/') :
    slashes (cs ++ tail) = slashes cs := by
  have hrest : (cs.dropWhile (· == '/') ++ tail).head? ≠ some '/' := by
    have hdrop := head?_dropWhile_slash cs
    cases hcs : cs.dropWhile (· == '/') with
    | nil => rwa [List.nil_append]
    | cons c r => rwa [hcs] at hdrop
  have hcs := slashes_replicate_append (n := slashes cs) hrest
  rwa [← List.append_assoc, replicate_slashes] at hcs

/-! ## Files -/

/-- A path with its own query, or else in the mode that creates the file. -/
def withMode (path : List Char) : List Char :=
  if '?' ∈ path then path else path ++ "?mode=rwc".toList

theorem mem_withMode (path : List Char) : '?' ∈ withMode path := by
  unfold withMode
  split
  · assumption
  · exact List.mem_append_right _ (by decide)

theorem withMode_withMode (path : List Char) : withMode (withMode path) = withMode path :=
  if_pos (mem_withMode path)

theorem slashes_withMode (path : List Char) : slashes (withMode path) = slashes path := by
  unfold withMode
  split
  · rfl
  · exact slashes_append path (by decide)

/-- The URL of a path. -/
def pathUrl (path : List Char) : String :=
  if path = ":memory:".toList then "sqlite::memory:"
  else "sqlite://" ++ String.ofList (withMode path)

/-- The URL of a file is that of the path without pairs of slashes in front. -/
theorem fileUrl_eq (rest : List Char) : fileUrl rest =
    if dropSlashPairs rest = [] then .error .missingFilePath
    else .ok (pathUrl (dropSlashPairs rest)) := by
  unfold fileUrl pathUrl withMode
  generalize dropSlashPairs rest = path
  dsimp only
  split
  · rename_i hmemory
    rw [if_neg (by rw [hmemory]; decide)]
  · cases path with
    | nil => rfl
    | cons c r =>
      rw [if_neg (by simp), if_neg (List.cons_ne_nil c r)]
      by_cases hquery : '?' ∈ c :: r
      · rw [if_pos (List.contains_iff_mem.mpr hquery), if_pos hquery]
      · rw [if_neg (fun h => hquery (List.contains_iff_mem.mp h)), if_neg hquery,
          String.ofList_append, String.ofList_toList, String.append_assoc]

/-- The slashes of a path stand in its URL after two others. -/
theorem slashes_pathUrl {path : List Char} (h : path ≠ ":memory:".toList) :
    slashes ((pathUrl path).toList.drop 7) = slashes path + 2 := by
  have hback : (pathUrl path).toList.drop 7 = '/' :: '/' :: withMode path := by
    rw [pathUrl, if_neg h]
    simp [String.toList_append]
  rw [hback, slashes_slash, slashes_slash, slashes_withMode]

theorem pathUrl_eq_memory_iff {path : List Char} :
    pathUrl path = "sqlite::memory:" ↔ path = ":memory:".toList := by
  refine ⟨fun h => ?_, fun h => if_pos h⟩
  by_contra hne
  have hcount := slashes_pathUrl hne
  have hzero : slashes ("sqlite::memory:".toList.drop 7) = 0 := by decide
  rw [h, hzero] at hcount
  omega

/-- What a connection of a file writes after the name of its engine. A descriptor may write
nothing, and else it writes a pair of slashes and its path. -/
inductive ConnectionSpec.Writes : ConnectionSpec → Option (List Char) → Prop
  | url {name rest : List Char} (hcolon : ':' ∉ name)
      (hname : Engine.ofName? (String.ofList name) = some .sqlite) :
      Writes (.url (String.ofList (name ++ ':' :: rest))) (some rest)
  | descriptor {d : Descriptor} (hname : Engine.ofName? d.engine = some .sqlite) :
      Writes (.descriptor d)
        (d.credentials.filePath.map fun file => '/' :: '/' :: file.toList)

theorem ConnectionSpec.Writes.toUrl_eq {spec : ConnectionSpec} {written : Option (List Char)}
    (h : spec.Writes written) :
    spec.toUrl = written.elim (.error .filePathRequired) fileUrl := by
  cases h with
  | url hcolon hname =>
    rw [toUrl, Option.elim_some]
    exact normalizeUrl_file hcolon hname
  | @descriptor d hname =>
    simp only [toUrl, Descriptor.toUrl, hname]
    cases d.credentials.filePath with
    | none => rfl
    | some file => exact normalizeUrl_path file

/-- Drops one pair of slashes at the front, if there is one. -/
def dropSlashPair : List Char → List Char
  | '/' :: '/' :: r => r
  | cs => cs

/-- The URL that names the file which the path after one pair of slashes names. Nothing before the
query is no path. -/
def sameFileUrl (rest : List Char) : Except ConfigError String :=
  if (dropSlashPair rest).takeWhile (· != '?') = [] then .error .missingFilePath
  else .ok (pathUrl (dropSlashPair rest))

theorem slashes_dropSlashPair (cs : List Char) :
    slashes (dropSlashPair cs) = if slashes cs < 2 then slashes cs else slashes cs - 2 := by
  fun_cases dropSlashPair cs with
  | case1 r =>
    rw [slashes_slash, slashes_slash, if_neg (by omega)]
    rfl
  | case2 cs hpair =>
    rw [if_pos]
    by_contra hmany
    obtain ⟨r, rfl⟩ := two_le_slashes_iff.mp (Nat.le_of_not_lt hmany)
    exact hpair r rfl

theorem dropSlashPairs_dropSlashPair (cs : List Char) :
    dropSlashPairs (dropSlashPair cs) = dropSlashPairs cs := by
  fun_cases dropSlashPair cs with
  | case1 r => rw [dropSlashPairs]
  | case2 cs hpair => rfl

/-- **When a path keeps its name.** It does with less than two slashes in front, if it is not only a
query. -/
theorem fileUrl_eq_sameFileUrl_iff (rest : List Char) :
    fileUrl rest = sameFileUrl rest ↔
      slashes rest < 4 ∧ (dropSlashPair rest).head? ≠ some '?' := by
  have hcount := slashes_dropSlashPair rest
  rw [fileUrl_eq, ← dropSlashPairs_dropSlashPair, sameFileUrl]
  generalize dropSlashPair rest = path at hcount ⊢
  by_cases hmany : 4 ≤ slashes rest
  · rw [if_neg (by omega)] at hcount
    have hpath : 2 ≤ slashes path := by omega
    refine iff_of_false (fun heq => ?_) (fun h => absurd h.1 (by omega))
    obtain ⟨r, rfl⟩ := two_le_slashes_iff.mp hpath
    have hnamed : ('/' :: '/' :: r).takeWhile (· != '?') ≠ [] := by simp
    rw [if_neg hnamed] at heq
    split at heq
    · cases heq
    · have hurl := congrArg (fun url : String => slashes (url.toList.drop 7)) (Except.ok.inj heq)
      have hslashed : '/' :: '/' :: r ≠ ":memory:".toList := by simp
      rw [slashes_pathUrl hslashed] at hurl
      by_cases hmemory : dropSlashPairs ('/' :: '/' :: r) = ":memory:".toList
      · rw [hmemory] at hurl
        have hzero : slashes ((pathUrl ":memory:".toList).toList.drop 7) = 0 := by decide
        omega
      · rw [slashes_pathUrl hmemory, dropSlashPairs_eq, slashes_keptPath] at hurl
        omega
  · have hpath : slashes path < 2 := by
      rw [hcount]
      split <;> omega
    rw [dropSlashPairs_of_slashes hpath]
    cases path with
    | nil => simp [Nat.lt_of_not_le hmany]
    | cons c r =>
      by_cases hc : c = '?'
      · subst hc
        simp
      · simp [hc, Nat.lt_of_not_le hmany]

/-- How the URL of a connection that writes a text comes about. Of the slashes in front of the text
one stays if their number is odd, and none else; if nothing is left, there is no URL. So the URL
names the file which the path after one pair of slashes names if and only if less than two further
slashes follow and the path is not a query alone. No relative path becomes an absolute one, but an
absolute path becomes relative where an even number of slashes follows the pair. -/
structure NamesFile (rest : List Char) (url : Except ConfigError String) : Prop where
  refused : keptPath rest = [] → url = .error .missingFilePath
  named : keptPath rest ≠ [] → url = .ok (pathUrl (keptPath rest))
  memory_iff : url = .ok "sqlite::memory:" ↔ keptPath rest = ":memory:".toList
  same_iff : url = sameFileUrl rest ↔
    slashes rest < 4 ∧ (dropSlashPair rest).head? ≠ some '?'
  absolute : (keptPath rest).head? = some '/' → (dropSlashPair rest).head? = some '/'
  relative_iff : (dropSlashPair rest).head? = some '/' ∧ (keptPath rest).head? ≠ some '/' ↔
    4 ≤ slashes rest ∧ slashes rest % 2 = 0

theorem namesFile_fileUrl (rest : List Char) : NamesFile rest (fileUrl rest) := by
  have hcount := slashes_keptPath rest
  have hpair := slashes_dropSlashPair rest
  have hurl := fileUrl_eq rest
  rw [dropSlashPairs_eq] at hurl
  constructor
  case refused =>
    intro hnil
    rw [hurl, if_pos hnil]
  case named =>
    intro hne
    rw [hurl, if_neg hne]
  case memory_iff =>
    rw [hurl, ← pathUrl_eq_memory_iff]
    split
    · rename_i hnil
      rw [hnil]
      exact iff_of_false (fun h => by cases h) (by decide)
    · exact ⟨fun h => Except.ok.inj h, fun h => congrArg Except.ok h⟩
  case same_iff => exact fileUrl_eq_sameFileUrl_iff rest
  case absolute =>
    rw [head?_eq_slash_iff, head?_eq_slash_iff, hcount, hpair]
    split <;> omega
  case relative_iff =>
    rw [Ne, head?_eq_slash_iff, head?_eq_slash_iff, hcount, hpair]
    split <;> omega

namespace ConnectionSpec

/-- **Which file the URL of a connection names.** A descriptor without a path has no URL. All else
follows from the text that the connection writes, as a URL or as the path of a descriptor. -/
theorem names_file (spec : ConnectionSpec) (written : Option (List Char))
    (h : spec.Writes written) :
    (written = none → spec.toUrl = .error .filePathRequired) ∧
    ∀ rest ∈ written, NamesFile rest spec.toUrl := by
  rw [h.toUrl_eq]
  constructor
  · rintro rfl
    rfl
  · rintro rest hrest
    obtain rfl := Option.mem_def.mp hrest
    exact namesFile_fileUrl rest

/-- A path with a pair of slashes in front, in a descriptor. -/
theorem names_file_slashed :
    ∃ d : Descriptor, d.engine = "backends.SQLite3" ∧
      d.credentials.filePath = some "//data/app.db" ∧
      (ConnectionSpec.descriptor d).Writes (some "////data/app.db".toList) ∧
      (ConnectionSpec.descriptor d).toUrl = .ok "sqlite://data/app.db?mode=rwc" ∧
      (ConnectionSpec.descriptor d).toUrl ≠ sameFileUrl "////data/app.db".toList := by
  let d : Descriptor :=
    { engine := "backends.SQLite3", credentials := { filePath := some "//data/app.db" } }
  have hwrites : (ConnectionSpec.descriptor d).Writes (some "////data/app.db".toList) :=
    .descriptor (by decide)
  have hfile := (names_file _ _ hwrites).2 _ rfl
  exact ⟨d, rfl, rfl, hwrites, hfile.named (by decide),
    fun h => absurd (hfile.same_iff.mp h) (by decide)⟩

/-- An absolute path becomes a relative one, and a query alone counts as a path. -/
theorem file_renamed :
    (ConnectionSpec.url "sqlite:////data/app.db").toUrl = .ok "sqlite://data/app.db?mode=rwc" ∧
    sameFileUrl "////data/app.db".toList = .ok "sqlite:////data/app.db?mode=rwc" ∧
    (ConnectionSpec.url "sqlite://?mode=ro").toUrl = .ok "sqlite://?mode=ro" ∧
    sameFileUrl "//?mode=ro".toList = .error .missingFilePath := by
  decide

end ConnectionSpec

/-! ## Resolved URLs -/

theorem normalizeUrl_of_fileUrl {rest : List Char} {url : String} (h : fileUrl rest = .ok url) :
    normalizeUrl url = .ok url := by
  rw [fileUrl_eq] at h
  split at h
  · cases h
  · cases h
    have hfew : slashes (dropSlashPairs rest) < 2 := by
      rw [dropSlashPairs_eq, slashes_keptPath]
      omega
    generalize dropSlashPairs rest = path at hfew ⊢
    by_cases hmemory : path = ":memory:".toList
    · rw [hmemory]
      decide
    · have hquery := mem_withMode path
      have hkept : dropSlashPairs ('/' :: '/' :: withMode path) = withMode path := by
        rw [dropSlashPairs, dropSlashPairs_of_slashes]
        rwa [slashes_withMode]
      have hnil : withMode path ≠ [] := List.ne_nil_of_mem hquery
      have hfile : withMode path ≠ ":memory:".toList := fun he => by
        rw [he] at hquery
        exact absurd hquery (by decide)
      rw [pathUrl, if_neg hmemory, normalizeUrl_path, String.toList_ofList, fileUrl_eq, hkept,
        if_neg hnil, pathUrl, if_neg hfile, withMode_withMode]

theorem normalizeUrl_of_parse {text : String} {name rest : List Char} {engine : Engine} {u : Url}
    (htext : text.toList = name ++ ':' :: rest) (hcolon : ':' ∉ name)
    (hname : Engine.ofName? (String.ofList name) = some engine) (hne : engine ≠ .sqlite)
    (hu : Url.parse text = .ok u) : normalizeUrl text = .ok text := by
  obtain ⟨htake, hdrop⟩ :=
    Url.takeWhile_append_cons (Url.ne_of_notMem hcolon) (d := ':') (by simp) rest
  unfold normalizeUrl
  rw [htext, hdrop, htake]
  dsimp only
  rw [hname]
  cases engine with
  | sqlite => exact absurd rfl hne
  | postgres => simp only [hu]
  | mySql => simp only [hu]

theorem Engine.ofName?_scheme (engine : Engine) :
    Engine.ofName? engine.scheme = some engine := by
  cases engine <;> decide

namespace ConnectionSpec

/-- **A URL that a connection is used by is used as it is.** -/
theorem resolved_stays (spec : ConnectionSpec) (hspec : spec.Sized) {url : String}
    (h : spec.toUrl = .ok url) : normalizeUrl url = .ok url := by
  cases spec with
  | url text =>
    rw [toUrl] at h
    cases normalized_of_normalizeUrl h with
    | file hfile _ => exact normalizeUrl_of_fileUrl hfile
    | server => exact h
  | descriptor d =>
    rw [toUrl, Descriptor.toUrl] at h
    split at h
    case h_1 => cases h
    case h_2 hname =>
      split at h
      · cases h
      · rw [normalizeUrl_path] at h
        exact normalizeUrl_of_fileUrl h
    case h_3 engine hne hname =>
      obtain ⟨u, hu, rfl⟩ := map_eq_ok_iff.mp h
      obtain ⟨hformed, hscheme⟩ := Credentials.formed_of_serverUrl hspec hu
      have hcolon : ':' ∉ engine.scheme.toList := fun hmem =>
        absurd (engine.isScheme_scheme.allowed _ hmem) (by decide)
      have htext : u.text.toList = u.chars := String.toList_ofList
      rw [Url.chars, hscheme] at htext
      refine normalizeUrl_of_parse htext hcolon ?_ hne (Url.parse_text hformed)
      rw [String.ofList_toList, Engine.ofName?_scheme]

/-- A server's descriptor whose texts hold all marks of a URL. -/
theorem resolved_stays_marks :
    ∃ d : Descriptor, (ConnectionSpec.descriptor d).Sized ∧
      (ConnectionSpec.descriptor d).toUrl = .ok "mysql://a%3Ab%40c:p%2F%3F%23@db:3306/x%3Fy/%23z" ∧
      normalizeUrl "mysql://a%3Ab%40c:p%2F%3F%23@db:3306/x%3Fy/%23z" =
        .ok "mysql://a%3Ab%40c:p%2F%3F%23@db:3306/x%3Fy/%23z" := by
  let d : Descriptor :=
    { engine := "backends.asyncmy"
      credentials :=
        { host := some "db", port := some (.text " +3306 "), user := some "a:b@c"
          password := some "p/?#", database := some "./x?y/../x?y/#z" } }
  have hsized : (ConnectionSpec.descriptor d).Sized := fun p hp => by
    cases Option.some.inj hp
    trivial
  have hurl : (ConnectionSpec.descriptor d).toUrl =
      .ok "mysql://a%3Ab%40c:p%2F%3F%23@db:3306/x%3Fy/%23z" := by
    decide
  exact ⟨d, hsized, hurl, resolved_stays _ hsized hurl⟩

end ConnectionSpec

end DbLifecycle
