import DbLifecycle.Proofs.Config.Loading
import DbLifecycle.Proofs.Database.Pools

/-!
# Opening over what is open

All who hold a registry share it, so a configuration may be opened while other pools are open. What
it opens takes the place of what was open under the same aliases; when it fails, all it has opened
is closed, and what was there before does not come back.

* `World.Numbered`, `World.Used`, **`World.Used.numbered`**: pools are told apart by their numbers,
  however a registry was used.
* `World.Lost`: a pool that is under no alias any more and was not closed.
* `World.Replaces`, **`World.Replaces.lost_iff`**: the pools that are lost where others take their
  places.
* `World.Withdrawn`, `World.Added`: what is left by opening that fails, and by opening that does
  not.
* **`World.opening_over_open`**: what opening does to the pools that were open before.
-/

namespace DbLifecycle

namespace World

variable {w w' : World} {driver : Driver}

/-! ## Open pools -/

/-- The numbers of the open pools. -/
def openIds (w : World) : List Nat := w.pools.values.map (·.id)

theorem mem_openIds {n : Nat} : n ∈ w.openIds ↔ ∃ a, w.poolId? a = some n := by
  simp only [openIds, Dict.values, List.map_map, List.mem_map, poolId?, Option.map_eq_some_iff,
    Dict.get?_eq_some_iff, Function.comp_apply]
  constructor
  · rintro ⟨⟨a, pool⟩, ha, hn⟩
    exact ⟨a, pool, ha, hn⟩
  · rintro ⟨a, pool, ha, hn⟩
    exact ⟨(a, pool), ha, hn⟩

theorem mem_aliases_iff {a : String} : a ∈ w.aliases ↔ ∃ n, w.poolId? a = some n := by
  rw [aliases, Dict.mem_keys_iff, Option.isSome_iff_exists]
  simp [poolId?]

theorem poolId?_of_get? {a : String} (h : w'.pools.get? a = w.pools.get? a) :
    w'.poolId? a = w.poolId? a := by
  rw [poolId?, poolId?, h]

theorem poolId?_place (w : World) (aliasName : String) (link : Link) (a : String) :
    (w.place aliasName link).poolId? a =
      if aliasName = a then some w.nextPool else w.poolId? a := by
  rw [poolId?, pools_place, Dict.get?_insert]
  split <;> rfl

/-- Pools are told apart by their numbers: each was given out, no two aliases have the same, and no
open pool was closed. -/
structure Numbered (w : World) : Prop where
  open_lt : ∀ {a n}, w.poolId? a = some n → n < w.nextPool
  retired_lt : ∀ {n}, n ∈ w.retired → n < w.nextPool
  alias_unique : ∀ {a b n}, w.poolId? a = some n → w.poolId? b = some n → a = b
  not_retired : ∀ {a n}, w.poolId? a = some n → n ∉ w.retired

namespace Numbered

theorem ofDisk (disk : Disk) : Numbered { disk } where
  open_lt h := by cases h
  retired_lt h := by cases h
  alias_unique h := by cases h
  not_retired h := by cases h

/-- Only pools and numbers matter. -/
theorem congr (h : w.Numbered) (hpools : w'.pools = w.pools) (hnext : w'.nextPool = w.nextPool)
    (hretired : w'.retired = w.retired) : w'.Numbered := by
  have hid : ∀ a, w'.poolId? a = w.poolId? a := fun a => poolId?_of_get? (by rw [hpools])
  constructor
  case open_lt =>
    intro a n ha
    rw [hnext]
    exact h.open_lt (hid a ▸ ha)
  case retired_lt =>
    intro n hn
    rw [hnext]
    exact h.retired_lt (hretired ▸ hn)
  case alias_unique =>
    intro a b n ha hb
    exact h.alias_unique (hid a ▸ ha) (hid b ▸ hb)
  case not_retired =>
    intro a n ha
    rw [hretired]
    exact h.not_retired (hid a ▸ ha)

/-- A new pool gets a number that no other has. -/
theorem place (h : w.Numbered) (aliasName : String) (link : Link) :
    (w.place aliasName link).Numbered := by
  have hid : ∀ {a n}, (w.place aliasName link).poolId? a = some n →
      aliasName = a ∧ n = w.nextPool ∨ w.poolId? a = some n := by
    intro a n ha
    rw [poolId?_place] at ha
    split at ha
    · rename_i heq
      exact .inl ⟨heq, (Option.some.inj ha).symm⟩
    · exact .inr ha
  constructor
  case open_lt =>
    intro a n ha
    rw [nextPool_place]
    rcases hid ha with ⟨-, rfl⟩ | ha
    · exact Nat.lt_succ_self _
    · exact Nat.lt_succ_of_lt (h.open_lt ha)
  case retired_lt =>
    intro n hn
    rw [retired_place] at hn
    rw [nextPool_place]
    exact Nat.lt_succ_of_lt (h.retired_lt hn)
  case alias_unique =>
    intro a b n ha hb
    rcases hid ha with ⟨rfl, rfl⟩ | ha <;> rcases hid hb with ⟨rfl, hn⟩ | hb
    · rfl
    · exact absurd (h.open_lt hb) (Nat.lt_irrefl _)
    · exact absurd (h.open_lt ha) (hn ▸ Nat.lt_irrefl _)
    · exact h.alias_unique ha hb
  case not_retired =>
    intro a n ha
    rw [retired_place]
    rcases hid ha with ⟨-, rfl⟩ | ha
    · exact fun hn => Nat.lt_irrefl _ (h.retired_lt hn)
    · exact h.not_retired ha

theorem opens {qs : List Request} (h : w.Numbered) (ho : Opens driver w qs w') :
    w'.Numbered := by
  induction ho with
  | nil w => exact h
  | @cons w w' q r disk link hq hr ih =>
    have hdisk : Numbered { w with disk } := h.congr rfl rfl rfl
    exact ih (hdisk.place q.aliasName link)

/-- Who is closed leaves its alias. -/
theorem closes {aliases : List String} (h : w.Numbered) (hc : Closes w aliases w')
    (hn : aliases.Nodup) : w'.Numbered := by
  have hid : ∀ {a n}, w'.poolId? a = some n → a ∉ aliases ∧ w.poolId? a = some n := by
    intro a n ha
    rw [poolId?, hc.get?] at ha
    split at ha
    · cases ha
    · rename_i hmem
      exact ⟨hmem, ha⟩
  constructor
  case open_lt =>
    intro a n ha
    rw [hc.nextPool]
    exact h.open_lt (hid ha).2
  case retired_lt =>
    intro n hmem
    rw [hc.nextPool]
    rw [hc.retired hn, List.mem_append, List.mem_filterMap] at hmem
    rcases hmem with hmem | ⟨a, -, ha⟩
    · exact h.retired_lt hmem
    · exact h.open_lt ha
  case alias_unique =>
    intro a b n ha hb
    exact h.alias_unique (hid ha).2 (hid hb).2
  case not_retired =>
    intro a n ha hmem
    obtain ⟨hnot, ha⟩ := hid ha
    rw [hc.retired hn, List.mem_append, List.mem_filterMap] at hmem
    rcases hmem with hmem | ⟨b, hb, hbn⟩
    · exact h.not_retired ha hmem
    · exact hnot (h.alias_unique ha hbn ▸ hb)

end Numbered

/-! ## How opening ends -/

/-- Why opening a configuration fails, and the aliases that were opened before it did. -/
inductive Refusal (driver : Driver) (w : World) (c : Config) : Error → List String → Prop
  /-- A connection has no URL. -/
  | unresolved {e : ConfigError} (h : requests c = .error e) :
      Refusal driver w c (.configuration e) []
  /-- A connection cannot be opened; those before it were. -/
  | refused {pre post : List Request} {q : Request} {v : World} {cause : DbError}
      (hqs : requests c = .ok (pre ++ q :: post)) (hv : Opens driver w pre v)
      (hq : driver.openPool q.url q.settings v.disk = .error cause) :
      Refusal driver w c (.connection cause) (pre.map (·.aliasName))

theorem nodup_requests {c : Config} {qs : List Request} (h : requests c = .ok qs) :
    (qs.map (·.aliasName)).Nodup := by
  rw [aliases_requests h]
  exact c.connections.keys_nodup

theorem nodup_before {c : Config} {pre post : List Request} {q : Request}
    (h : requests c = .ok (pre ++ q :: post)) : (pre.map (·.aliasName)).Nodup := by
  have hall := nodup_requests h
  rw [List.map_append] at hall
  exact hall.of_append_left

/-- Opening a configuration that has all its URLs goes through its connections. -/
theorem openAll_opening {c : Config} {qs : List Request} (h : requests c = .ok qs) (driver : Driver)
    (w : World) : Opening driver [] w qs (w.openAll driver c) := by
  rw [openAll, h]
  exact openEach_opening driver [] w qs

theorem openAll_of_error {c : Config} {e : ConfigError} (h : requests c = .error e)
    (driver : Driver) (w : World) : w.openAll driver c = (.error (.configuration e), w) := by
  rw [openAll, h]

/-! ## Runs -/

theorem Numbered.openAll (h : w.Numbered) (driver : Driver) (c : Config) :
    (w.openAll driver c).2.Numbered := by
  cases hqs : requests c with
  | error e => rwa [openAll_of_error hqs]
  | ok qs =>
    have hopen := openAll_opening hqs driver w
    generalize w.openAll driver c = end_ at hopen ⊢
    cases hopen with
    | opened hv => exact h.opens hv
    | @refused pre post q v cause hsplit hv hq =>
      have hlog : (v.log (.openFailed q.aliasName cause)).Numbered :=
        (h.opens hv).congr rfl rfl rfl
      exact hlog.closes (undo_closes driver _ _) (nodup_before (hsplit ▸ hqs))
    | panicked _ hv _ => exact h.opens hv

/-- A registry that its holders have used: configurations were opened and all pools closed, whatever
the databases answered, and whatever else was done left the pools alone. -/
inductive Used : World → Prop
  | unused (disk : Disk) : Used { disk }
  | opened {w : World} (h : Used w) (driver : Driver) (c : Config) : Used (w.openAll driver c).2
  | closed {w : World} (h : Used w) (driver : Driver) : Used (w.closeAll driver).2
  | kept {w w' : World} (h : Used w) (hk : Keeps w w') : Used w'

/-- **However a registry was used, its pools are told apart by their numbers.** -/
theorem Used.numbered (h : Used w) : w.Numbered := by
  induction h with
  | unused disk => exact .ofDisk disk
  | opened h driver c ih => exact ih.openAll driver c
  | @closed w h driver ih => exact ih.closes (closeAll_closes driver w) w.pools.keys_nodup
  | kept h hk ih => exact ih.congr hk.pools hk.nextPool hk.retired

/-! ## Pools that are lost -/

/-- A pool is lost: it was open under an alias, is under none any more, and was not closed. -/
def Lost (w w' : World) (n : Nat) : Prop := n ∈ w.openIds ∧ n ∉ w'.openIds ∧ n ∉ w'.retired

instance (w w' : World) (n : Nat) : Decidable (Lost w w' n) :=
  inferInstanceAs (Decidable (_ ∧ _ ∧ _))

/-- New pools, or none, are open under some aliases; no other pools were opened or closed. -/
structure Replaces (w : World) (names : List String) (w' : World) : Prop where
  get?_of_notMem : ∀ a ∉ names, w'.pools.get? a = w.pools.get? a
  new : ∀ a ∈ names, ∀ n ∈ w'.poolId? a, w.nextPool ≤ n
  retired : ∀ n ∈ w'.retired, n ∈ w.retired ∨ w.nextPool ≤ n

/-- **Where others take their places, pools are lost**: those that were under these aliases. -/
theorem Replaces.lost_iff {names : List String} (h : Replaces w names w') (hw : w.Numbered)
    (n : Nat) : Lost w w' n ↔ ∃ a ∈ names, w.poolId? a = some n := by
  constructor
  · rintro ⟨hopen, hgone, -⟩
    obtain ⟨a, ha⟩ := mem_openIds.mp hopen
    refine ⟨a, ?_, ha⟩
    by_contra hnot
    have hstays : w'.poolId? a = some n := (poolId?_of_get? (h.get?_of_notMem a hnot)).trans ha
    exact hgone (mem_openIds.mpr ⟨a, hstays⟩)
  · rintro ⟨a, hmem, ha⟩
    have hold : ¬ w.nextPool ≤ n := Nat.not_le_of_lt (hw.open_lt ha)
    refine ⟨mem_openIds.mpr ⟨a, ha⟩, fun hopen => ?_, fun hretired => ?_⟩
    · obtain ⟨b, hb⟩ := mem_openIds.mp hopen
      by_cases hnames : b ∈ names
      · exact hold (h.new b hnames n hb)
      · have hstayed := (poolId?_of_get? (h.get?_of_notMem b hnames)).symm.trans hb
        exact hnames (hw.alias_unique ha hstayed ▸ hmem)
    · exact (h.retired n hretired).elim (hw.not_retired ha) hold

/-- Every pool that was open is still open or closed if and only if none was in the way. -/
theorem Replaces.kept_iff {names : List String} (h : Replaces w names w') (hw : w.Numbered) :
    (∀ n ∈ w.openIds, n ∈ w'.openIds ∨ n ∈ w'.retired) ↔ ∀ a ∈ names, a ∉ w.aliases := by
  constructor
  · intro hkept a ha hopen
    obtain ⟨n, hn⟩ := mem_aliases_iff.mp hopen
    obtain ⟨hmem, hgone, hnot⟩ := (h.lost_iff hw n).mpr ⟨a, ha, hn⟩
    exact (hkept n hmem).elim hgone hnot
  · intro hfree n hn
    by_contra hlost
    rw [not_or] at hlost
    obtain ⟨a, ha, hid⟩ := (h.lost_iff hw n).mp ⟨hn, hlost⟩
    exact hfree a ha (mem_aliases_iff.mpr ⟨n, hid⟩)

theorem le_of_mem_append_range' {l : List Nat} {start len n : Nat}
    (h : n ∈ l ++ List.range' start len) : n ∈ l ∨ start ≤ n :=
  (List.mem_append.mp h).imp_right fun hn => (List.mem_range'_1.mp hn).1

/-! ## Opening that fails -/

/-- What is left by opening that fails, where `done` was opened before it did: nothing is open under
`done`, the pools that were created are closed, each once, and no other pool is. -/
structure Withdrawn (w : World) (done : List String) (w' : World) : Prop where
  get? : ∀ a, w'.pools.get? a = if a ∈ done then none else w.pools.get? a
  created : w'.created = w.created ++ List.range' w.nextPool done.length
  retired : w'.retired = w.retired ++ List.range' w.nextPool done.length

theorem Refusal.withdrawn {c : Config} {e : Error} (h : w.openAll driver c = (.error e, w')) :
    ∃ done, Refusal driver w c e done ∧ Withdrawn w done w' := by
  cases hqs : requests c with
  | error cause =>
    rw [openAll_of_error hqs] at h
    cases h
    exact ⟨[], .unresolved hqs, by simp, (List.append_nil _).symm, (List.append_nil _).symm⟩
  | ok qs =>
    have hopen := openAll_opening hqs driver w
    rw [h] at hopen
    cases hopen with
    | @refused pre post q v cause hsplit hv hq =>
      have hn := nodup_before (hsplit ▸ hqs)
      have hundo := undo_closes driver (v.log (.openFailed q.aliasName cause))
        (pre.map (·.aliasName))
      refine ⟨_, .refused (hsplit ▸ hqs) hv hq, fun a => ?_, ?_, ?_⟩
      · rw [List.nil_append, hundo.get?, pools_log]
        split
        · rfl
        · rename_i hmem
          exact hv.get?_of_notMem hmem
      · rw [List.nil_append, hundo.created, created_log, hv.opened.created, List.length_map]
        exact List.append_nil _
      · have hids := hv.opened.poolIds hn
        rw [List.nil_append, hundo.retired hn, retired_log, hv.opened.retired, List.length_map]
        exact congrArg _ hids

namespace Withdrawn

variable {done : List String}

theorem get?_of_mem (h : Withdrawn w done w') {a : String} (ha : a ∈ done) :
    w'.pools.get? a = none := by rw [h.get?, if_pos ha]

theorem replaces (h : Withdrawn w done w') : Replaces w done w' where
  get?_of_notMem a ha := by rw [h.get?, if_neg ha]
  new a ha n hn := by
    rw [poolId?, h.get?_of_mem ha] at hn
    cases hn
  retired n hn := le_of_mem_append_range' (h.retired ▸ hn)

/-- All pools are as they were if and only if none was in the way. -/
theorem pools_eq_iff (h : Withdrawn w done w') :
    w'.pools = w.pools ↔ ∀ a ∈ done, a ∉ w.aliases := by
  constructor
  · intro hpools a ha
    rw [aliases, ← Dict.get?_eq_none_iff, ← hpools, h.get?_of_mem ha]
  · intro hfree
    refine Dict.ext_get? fun a => ?_
    rw [h.get?]
    split
    · rename_i ha
      exact (Dict.get?_eq_none_iff.mpr (hfree a ha)).symm
    · rfl

end Withdrawn

/-! ## Opening that succeeds -/

/-- What is left by opening some aliases: a new pool is open under each of them, and all else is as
it was. No pool is closed. -/
structure Added (w : World) (names : List String) (w' : World) : Prop where
  get?_of_notMem : ∀ a ∉ names, w'.pools.get? a = w.pools.get? a
  new : ∀ a ∈ names, ∃ n, w'.poolId? a = some n ∧ w.nextPool ≤ n
  created : w'.created = w.created ++ List.range' w.nextPool names.length
  retired : w'.retired = w.retired

theorem Opens.added {qs : List Request} (h : Opens driver w qs w') :
    Added w (qs.map (·.aliasName)) w' where
  get?_of_notMem _ ha := h.get?_of_notMem ha
  new := by
    induction h with
    | nil w => simp
    | @cons w w' q r disk link hq hr ih =>
      intro a ha
      by_cases hlater : a ∈ r.map (·.aliasName)
      · obtain ⟨n, hn, hle⟩ := ih a hlater
        rw [nextPool_place] at hle
        exact ⟨n, hn, Nat.le_of_succ_le hle⟩
      · obtain rfl : a = q.aliasName := by simpa [hlater] using ha
        refine ⟨w.nextPool, ?_, Nat.le_refl _⟩
        rw [poolId?_of_get? (hr.get?_of_notMem hlater), poolId?_place, if_pos rfl]
  created := by rw [h.opened.created, List.length_map]
  retired := h.opened.retired

theorem added_of_openAll {c : Config} (h : w.openAll driver c = (.ok (), w')) :
    Added w c.connections.keys w' := by
  cases hqs : requests c with
  | error e =>
    rw [openAll_of_error hqs] at h
    cases h
  | ok qs =>
    have hopen := openAll_opening hqs driver w
    rw [h] at hopen
    cases hopen with
    | opened hv =>
      rw [← aliases_requests hqs]
      exact hv.added

theorem Added.replaces {names : List String} (h : Added w names w') : Replaces w names w' where
  get?_of_notMem := h.get?_of_notMem
  new a ha n hn := by
    obtain ⟨m, hm, hle⟩ := h.new a ha
    cases Option.some.inj (hm.symm.trans hn)
    exact hle
  retired n hn := .inl (h.retired ▸ hn)

/-- **What opening does to the pools that were open before.** When it fails, the pools that it
created are closed, each once, and no others. But of the aliases that were opened before it failed
none is open any more, so all pools are as they were if and only if none of these aliases was open
before, and those that were have lost their pools. When it succeeds, every alias of the
configuration has a new pool, and no pool is closed. So every pool that was open is still open or
closed if and only if none was under an alias of the configuration, and those that were are lost. -/
theorem opening_over_open (driver : Driver) (w : World) (hw : w.Numbered) (c : Config) :
    (∀ e w', w.openAll driver c = (.error e, w') →
      ∃ done, Refusal driver w c e done ∧ Withdrawn w done w' ∧
        (w'.pools = w.pools ↔ ∀ a ∈ done, a ∉ w.aliases) ∧
        ∀ n, Lost w w' n ↔ ∃ a ∈ done, w.poolId? a = some n) ∧
    ∀ w', w.openAll driver c = (.ok (), w') →
      Added w c.connections.keys w' ∧
      ((∀ n ∈ w.openIds, n ∈ w'.openIds ∨ n ∈ w'.retired) ↔
        ∀ a ∈ c.connections.keys, a ∉ w.aliases) ∧
      ∀ n, Lost w w' n ↔ ∃ a ∈ c.connections.keys, w.poolId? a = some n := by
  constructor
  · intro e w' h
    obtain ⟨done, hrefusal, hleft⟩ := Refusal.withdrawn h
    exact ⟨done, hrefusal, hleft, hleft.pools_eq_iff, hleft.replaces.lost_iff hw⟩
  · intro w' h
    have hadded := added_of_openAll h
    exact ⟨hadded, hadded.replaces.kept_iff hw, hadded.replaces.lost_iff hw⟩

end World

/-! ## A shared registry -/

/-- Databases in files, by alias. -/
def Config.ofFiles (files : List (String × String)) : Config where
  connections := .ofList (files.map fun f => (f.1, .url ("sqlite://" ++ f.2)))
  apps := .singleton "m" { models := ["models"] }

namespace World

/-- A registry in which one of its holders has opened the default connection. -/
def shared : World := (({} : World).openAll .standard (.ofFiles [("default", "app.db")])).2

/-- The connection that fails is open already, and stays so. -/
theorem opening_over_open_shared :
    shared.Numbered ∧
    (shared.openAll .standard (.ofFiles [("a", "a.db"), ("default", "no/app.db")])).1 =
      .error (.connection (.connection (.sqlite .cannotOpen))) ∧
    (shared.openAll .standard (.ofFiles [("a", "a.db"), ("default", "no/app.db")])).2.pools =
      shared.pools := by
  have hnumbered : shared.Numbered :=
    (Used.opened (.unused {}) .standard (.ofFiles [("default", "app.db")])).numbered
  have herror : (shared.openAll .standard
      (.ofFiles [("a", "a.db"), ("default", "no/app.db")])).1 =
      .error (.connection (.connection (.sqlite .cannotOpen))) := by decide +kernel
  have hopen : (shared.openAll .standard
      (.ofFiles [("a", "a.db"), ("default", "no/app.db")])).2.pools.get? "default" ≠ none := by
    decide +kernel
  have haliases : shared.aliases = ["default"] := by decide +kernel
  obtain ⟨done, -, hleft, hsame, -⟩ :=
    (opening_over_open .standard shared hnumbered
      (.ofFiles [("a", "a.db"), ("default", "no/app.db")])).1 _ _ (Prod.ext herror rfl)
  refine ⟨hnumbered, herror, hsame.mpr fun a ha hmem => ?_⟩
  rw [haliases] at hmem
  obtain rfl : a = "default" := List.mem_singleton.mp hmem
  exact hopen (hleft.get?_of_mem ha)

/-- Opening that fails leaves another holder without the connection, and its pool is not closed;
neither is it when opening succeeds. -/
theorem open_pool_lost :
    (shared.openAll .standard (.ofFiles [("default", "app.db"), ("z", "no/z.db")])).1 =
      .error (.connection (.connection (.sqlite .cannotOpen))) ∧
    shared.aliases = ["default"] ∧
    (shared.openAll .standard
      (.ofFiles [("default", "app.db"), ("z", "no/z.db")])).2.aliases = [] ∧
    Lost shared (shared.openAll .standard
      (.ofFiles [("default", "app.db"), ("z", "no/z.db")])).2 0 ∧
    (shared.openAll .standard (.ofFiles [("default", "app.db")])).1 = .ok () ∧
    Lost shared (shared.openAll .standard (.ofFiles [("default", "app.db")])).2 0 := by
  decide +kernel

end World

end DbLifecycle
