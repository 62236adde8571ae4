import DbLifecycle.Config.File
import DbLifecycle.Proofs.Json.Ordered
import DbLifecycle.Proofs.Walk

/-!
# What the values of a file hold

A value that was written to a file in JSON is laid over nothing before it is read. It then still
holds what was written, and whatever can be read from the written value itself is read from it.

* `Value.Holds`: a value holds a JSON value.
* `Value.holds_ofJson`, `Value.holds_overlay`: values of files hold what was written, also when they
  have been laid over nothing.
* `Value.Follows`: whatever one reader reads is read by another one from what holds it.
* `Value.follows_asApp`, `Value.follows_asConnection`, `Value.Follows.asDict`: apps, connections and
  dictionaries.
* **`Value.asConfig_of_decode`**: a configuration is read from what holds it.
-/

namespace DbLifecycle

namespace Value

/-- A value holds a JSON value, wherever it comes from. -/
def Holds (v : Value) (j : Json) : Prop := v.toJson = j

/-! ## Values of files -/

theorem toJson_ofNumber (o : Option Origin) (n : Json.Number) :
    (scalar o (.ofNumber n)).toJson = .num n := by
  cases n <;> rfl

mutual

/-- A value that was written to a file holds what was written. -/
theorem holds_ofJson (o : Origin) : ∀ j : Json, (ofJson o j).Holds j
  | .null => rfl
  | .bool _ => rfl
  | .num n => toJson_ofNumber (some o) n
  | .str _ => rfl
  | .arr js => congrArg Json.arr (toJsonItems_ofJsonItems o js)
  | .obj ms => congrArg Json.obj (toJsonMembers_ofJsonMembers o ms)

theorem toJsonItems_ofJsonItems (o : Origin) :
    ∀ js : List Json, toJsonItems (ofJsonItems o js) = js
  | [] => rfl
  | j :: r => by
    rw [ofJsonItems, toJsonItems, holds_ofJson o j, toJsonItems_ofJsonItems o r]

theorem toJsonMembers_ofJsonMembers (o : Origin) :
    ∀ ms : List (String × Json), toJsonMembers (ofJsonMembers o ms) = ms
  | [] => rfl
  | (k, j) :: r => by
    rw [ofJsonMembers, toJsonMembers, holds_ofJson o j, toJsonMembers_ofJsonMembers o r]

end

theorem toJsonMembers_eq_map (ms : List (String × Value)) :
    toJsonMembers ms = ms.map fun m => (m.1, m.2.toJson) := by
  induction ms with
  | nil => rfl
  | cons m r ih => rw [toJsonMembers, ih, List.map_cons]

/-- The keys of the members are in order. -/
theorem sorted_of_toJsonMembers {ms : List (String × Value)}
    (h : Entries.Sorted (toJsonMembers ms)) : Entries.Sorted ms := by
  rw [toJsonMembers_eq_map, Entries.Sorted, List.pairwise_map] at h
  exact h

mutual

/-- Laying a value over nothing changes nothing of what it holds, if its tables are in order. -/
theorem toJson_overlay_absent : ∀ v : Value, v.toJson.Ordered →
    (v.overlay absent).toJson = v.toJson
  | .scalar _ _, _ => rfl
  | .list _ _, _ => rfl
  | .table _ ms, h => by
    have hmembers := toJsonMembers_overlayMembers ms [] (sorted_of_toJsonMembers h.1) h.2
    exact congrArg Json.obj hmembers

/-- The members of a table are put behind those that are there, if they are in order. -/
theorem toJsonMembers_overlayMembers : ∀ (ms old : List (String × Value)),
    Entries.Sorted (old ++ ms) → Json.OrderedMembers (toJsonMembers ms) →
    toJsonMembers (overlayMembers ms old) = toJsonMembers old ++ toJsonMembers ms
  | [], old, _, _ => by rw [overlayMembers, toJsonMembers, List.append_nil]
  | (k, v) :: r, old, hsorted, hordered => by
    have hlt : ∀ e ∈ old, e.1 < k := fun e he =>
      (List.pairwise_append.mp hsorted).2.2 e he (k, v) List.mem_cons_self
    have hnone : Entries.lookup k old = none := by
      cases hlookup : Entries.lookup k old with
      | none => rfl
      | some w =>
        have hmem := (Entries.lookup_eq_some_iff (List.pairwise_append.mp hsorted).1).mp hlookup
        exact absurd (hlt _ hmem) (String.lt_irrefl k)
    have hrest : Entries.Sorted ((old ++ [(k, overlay v absent)]) ++ r) := by
      rw [Entries.Sorted, ← List.pairwise_map] at hsorted ⊢
      simpa using hsorted
    rw [overlayMembers, hnone, Option.getD_none, Entries.insert_of_lt hlt,
      toJsonMembers_overlayMembers r _ hrest hordered.2]
    simp only [toJsonMembers_eq_map, List.map_append, List.map_cons, List.map_nil,
      List.append_assoc, List.singleton_append, toJson_overlay_absent v hordered.1]

end

/-- A value that holds something ordered still does when it has been laid over nothing. -/
theorem holds_overlay {v : Value} {j : Json} (h : v.Holds j) (hj : j.Ordered) :
    (v.overlay absent).Holds j := by
  have hordered : v.toJson.Ordered := by
    rw [h]
    exact hj
  rw [Holds, toJson_overlay_absent v hordered, h]

/-! ## Readers -/

section

variable {α : Type} {item : Json → Except Mismatch α} {item' : Value → Reading α}

/-- Whatever one reader reads is read by another one from what holds it. -/
def Follows (item : Json → Except Mismatch α) (item' : Value → Reading α) : Prop :=
  ∀ {v j a}, Holds v j → item j = .ok a → item' v = .ok a

theorem within_eq_ok_iff {step : Step} {r : Reading α} {a : α} :
    within step r = .ok a ↔ r = .ok a := by
  cases r <;> simp [within, Except.mapError]

theorem follows_asText : Follows Json.asText asText := by
  intro v j s h hj
  cases j with
  | str t =>
    cases v with
    | scalar o x =>
      cases x <;> cases h
      cases hj
      rfl
    | _ => cases h
  | _ => cases hj

theorem readItems_of_mapM (hitem : Follows item item') {js : List Json} {vs : List Value}
    {as : List α} (h : toJsonItems vs = js) (hjs : js.mapM item = .ok as) (i : Nat) :
    readItems item' i vs = .ok as := by
  induction js generalizing vs as i with
  | nil =>
    cases vs with
    | nil => cases hjs; rfl
    | cons v r => cases h
  | cons j r ih =>
    cases vs with
    | nil => cases h
    | cons v vs =>
      obtain ⟨hv, hvs⟩ := List.cons.inj h
      rw [List.mapM_cons] at hjs
      obtain ⟨a, ha, hjs⟩ := bind_eq_ok_iff.mp hjs
      obtain ⟨as', has', hjs⟩ := bind_eq_ok_iff.mp hjs
      cases hjs
      exact bind_eq_ok_iff.mpr ⟨a, within_eq_ok_iff.mpr (hitem hv ha),
        bind_eq_ok_iff.mpr ⟨as', ih hvs has' (i + 1), rfl⟩⟩

theorem Follows.asList (hitem : Follows item item') :
    Follows (Json.asList item) (asList item') := by
  intro v j as h hj
  cases j with
  | arr js =>
    cases v with
    | list o vs => exact readItems_of_mapM hitem (Json.arr.inj h) hj 0
    | scalar o x => cases x <;> cases h
    | table o ms => cases h
  | _ => cases hj

theorem lookup_of_members {ms : List (String × Value)} {js : List (String × Json)}
    (h : toJsonMembers ms = js) (name : String) :
    (Entries.lookup name ms).map toJson =
      (js.find? fun m => m.1 = name).map (·.2) := by
  induction js generalizing ms with
  | nil =>
    cases ms with
    | nil => rfl
    | cons m r => cases h
  | cons j r ih =>
    cases ms with
    | nil => cases h
    | cons m ms =>
      obtain ⟨hm, hms⟩ := List.cons.inj h
      obtain ⟨hname, hvalue⟩ := Prod.mk.inj hm
      rw [Entries.lookup, List.find?_cons, hname]
      by_cases heq : j.1 = name
      · simp [heq, hvalue]
      · simp [heq, ih hms]

theorem given?_of_members (hitem : Follows item item') {ms : List (String × Value)}
    {js : List (String × Json)} (h : toJsonMembers ms = js) {name : String}
    {o : Option α} (hj : Json.given? name item js = .ok o) : given? name item' ms = .ok o := by
  have hlookup := lookup_of_members h name
  unfold Json.given? at hj
  unfold given?
  cases hfound : (js.find? fun m => m.1 = name).map (·.2) with
  | none =>
    rw [hfound] at hj hlookup
    rw [Option.map_eq_none_iff.mp hlookup]
    exact congrArg _ (Except.ok.inj hj)
  | some j =>
    rw [hfound] at hj hlookup
    obtain ⟨v, hv, hvalue⟩ := Option.map_eq_some_iff.mp hlookup
    obtain ⟨a, ha, rfl⟩ := map_eq_ok_iff.mp hj
    rw [hv]
    exact map_eq_ok_iff.mpr ⟨a, within_eq_ok_iff.mpr (hitem hvalue ha), rfl⟩

theorem getElem?_of_items {vs : List Value} {js : List Json}
    (h : toJsonItems vs = js) (place : Nat) :
    (vs[place]?).map toJson = js[place]? := by
  induction js generalizing vs place with
  | nil =>
    cases vs with
    | nil => rfl
    | cons v r => cases h
  | cons j r ih =>
    cases vs with
    | nil => cases h
    | cons v vs =>
      obtain ⟨hv, hvs⟩ := List.cons.inj h
      cases place with
      | zero => exact congrArg some hv
      | succ n => exact ih hvs n

theorem listed_of_items (hitem : Follows item item') {vs : List Value} {js : List Json}
    (h : toJsonItems vs = js) {record : String} {fields place : Nat}
    {default? : Option α} {a : α}
    (hj : Json.listed record fields place item default? js = .ok a) :
    listed record fields place item' default? vs = .ok a := by
  have hplace := getElem?_of_items h place
  unfold Json.listed at hj
  unfold listed
  cases hfound : js[place]? with
  | none =>
    rw [hfound] at hj hplace
    rw [Option.map_eq_none_iff.mp hplace]
    cases default? with
    | none => cases hj
    | some d => exact congrArg _ (Except.ok.inj hj)
  | some j =>
    rw [hfound] at hj hplace
    obtain ⟨v, hv, hvalue⟩ := Option.map_eq_some_iff.mp hplace
    rw [hv]
    exact within_eq_ok_iff.mpr (hitem hvalue hj)

/-- An app is read from what holds it. -/
theorem follows_asApp : Follows Config.decodeApp asApp := by
  intro v j app h hj
  cases j with
  | obj js =>
    cases v with
    | table o ms =>
      have hmembers := Json.obj.inj h
      obtain ⟨_, hfields, hj⟩ := bind_eq_ok_iff.mp hj
      cases hfields
      obtain ⟨connection, hconnection, hj⟩ := bind_eq_ok_iff.mp hj
      obtain ⟨models, hmodels, hj⟩ := bind_eq_ok_iff.mp hj
      obtain ⟨names, hnames, hj⟩ := bind_eq_ok_iff.mp hj
      have hrequired : required "models" models = .ok names := by
        cases models with
        | none => cases hnames
        | some l => exact congrArg _ (Except.ok.inj hnames)
      refine bind_eq_ok_iff.mpr ⟨.named ms, rfl, ?_⟩
      exact bind_eq_ok_iff.mpr ⟨connection, given?_of_members follows_asText hmembers hconnection,
        bind_eq_ok_iff.mpr ⟨models, given?_of_members follows_asText.asList hmembers hmodels,
          bind_eq_ok_iff.mpr ⟨names, hrequired, congrArg _ (Except.ok.inj hj)⟩⟩⟩
    | scalar o x => cases x <;> cases h
    | list o vs => cases h
  | arr js =>
    cases v with
    | list o vs =>
      have hitems := Json.arr.inj h
      obtain ⟨_, hfields, hj⟩ := bind_eq_ok_iff.mp hj
      cases hfields
      obtain ⟨models, hmodels, hj⟩ := bind_eq_ok_iff.mp hj
      obtain ⟨connection, hconnection, hj⟩ := bind_eq_ok_iff.mp hj
      obtain ⟨_, -, hj⟩ := bind_eq_ok_iff.mp hj
      refine bind_eq_ok_iff.mpr ⟨.listed vs, rfl, ?_⟩
      exact bind_eq_ok_iff.mpr ⟨models, listed_of_items follows_asText.asList hitems hmodels,
        bind_eq_ok_iff.mpr ⟨connection, listed_of_items follows_asText hitems hconnection,
          congrArg _ (Except.ok.inj hj)⟩⟩
    | scalar o x => cases x <;> cases h
    | table o ms => cases h
  | _ => cases hj

/-- So is a connection. -/
theorem follows_asConnection : Follows ConnectionSpec.decode asConnection := by
  intro v j spec h hj
  unfold asConnection
  rw [h, hj]

/-! ## Dictionaries -/

theorem mapM_members (hitem : Follows item item') {ms : List (String × Value)}
    {js : List (String × Json)} {as : List (String × α)} (h : toJsonMembers ms = js)
    (hj : (js.mapM fun m => (item m.2).map fun v => (m.1, v)) = .ok as) :
    (ms.mapM fun (k, v) => (within (.key k) (item' v)).map (k, ·)) = .ok as := by
  induction js generalizing ms as with
  | nil =>
    cases hj
    cases ms with
    | nil => rfl
    | cons m r => cases h
  | cons j r ih =>
    cases ms with
    | nil => cases h
    | cons m ms =>
      obtain ⟨k, v⟩ := m
      obtain ⟨hm, hms⟩ := List.cons.inj h
      obtain ⟨rfl, hvalue⟩ := Prod.mk.inj hm
      rw [List.mapM_cons] at hj
      obtain ⟨b, hb, hj⟩ := bind_eq_ok_iff.mp hj
      obtain ⟨a, ha, rfl⟩ := map_eq_ok_iff.mp hb
      obtain ⟨as', has', hj⟩ := bind_eq_ok_iff.mp hj
      cases hj
      rw [List.mapM_cons]
      exact bind_eq_ok_iff.mpr ⟨_, map_eq_ok_iff.mpr ⟨a, within_eq_ok_iff.mpr (hitem hvalue ha), rfl⟩,
        bind_eq_ok_iff.mpr ⟨as', ih hms has', rfl⟩⟩

/-- A dictionary is read from what holds it. -/
theorem Follows.asDict (hitem : Follows item item') :
    Follows (Config.decodeDict item) (asDict item') := by
  intro v j d h hj
  obtain ⟨as, has, rfl⟩ := map_eq_ok_iff.mp hj
  cases j with
  | obj js =>
    cases v with
    | table o ms =>
      exact map_eq_ok_iff.mpr ⟨as, mapM_members hitem (Json.obj.inj h) has, rfl⟩
    | scalar o x => cases x <;> cases h
    | list o vs => cases h
  | _ => cases has

end

end Value

/-! ## Configurations -/

theorem Config.decode_obj {a b : Json} {c : Config}
    (h : Config.decode (.obj [("apps", a), ("connections", b)]) = .ok c) :
    Config.decodeDict Config.decodeApp a = .ok c.apps ∧
      Config.decodeDict ConnectionSpec.decode b = .ok c.connections := by
  obtain ⟨_, hfields, h⟩ := bind_eq_ok_iff.mp h
  cases hfields
  obtain ⟨_, happs, h⟩ := bind_eq_ok_iff.mp h
  obtain ⟨_, hconnections, h⟩ := bind_eq_ok_iff.mp h
  obtain ⟨apps, happs', rfl⟩ := map_eq_ok_iff.mp happs
  obtain ⟨connections, hconnections', rfl⟩ := map_eq_ok_iff.mp hconnections
  cases h
  exact ⟨happs', hconnections'⟩

/-- **A configuration is read from what holds it.** -/
theorem Value.asConfig_of_decode {v w : Value} {a b : Json} {c : Config} (hv : v.Holds a)
    (hw : w.Holds b) (hc : Config.decode (.obj [("apps", a), ("connections", b)]) = .ok c) :
    (Value.table none [("apps", v), ("connections", w)]).asConfig = .ok c := by
  obtain ⟨happs, hconnections⟩ := Config.decode_obj hc
  have hreadApps : v.asDict asApp = .ok c.apps := follows_asApp.asDict hv happs
  have hreadConnections : w.asDict asConnection = .ok c.connections :=
    follows_asConnection.asDict hw hconnections
  have hv : Entries.lookup "apps" [("apps", v), ("connections", w)] = some v := by
    simp [Entries.lookup]
  have hw : Entries.lookup "connections" [("apps", v), ("connections", w)] = some w := by
    simp [Entries.lookup]
  simp only [asConfig, members, given?, hv, hw, hreadApps, hreadConnections]
  rfl

end DbLifecycle
