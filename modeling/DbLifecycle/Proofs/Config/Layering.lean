import DbLifecycle.Config.Layer

/-!
# What layers amount to at a key

The entries of layers are laid over one another. At the field of a table this is the same as laying
over one another what each of them lays at that field alone, as long as the table stays a table.

* `Value.Laid`: something that is laid at a place, and the rest of the way to where it goes.
* `Value.laid`, `Value.laidBy`: what an entry and a layer lay at the field of a table.
* `Value.Tabled`: a layer that puts nothing but tables at a key.
* **`Value.field?_merge`**: what a field holds once a layer has been laid over a value.
* `Value.Alike`: values that cannot be told apart where no table is asked for.
* **`Value.alike_overlaid`**: what sets a field as a whole hides all that was laid there before.
-/

namespace DbLifecycle

namespace Value

/-! ## Fields of tables -/

/-- Something that is laid at a place, and the rest of the way to where it goes. -/
structure Laid where
  way : List KeyStep
  value : Value

/-- What stands at the place afterwards. -/
def Laid.over (p : Laid) (old : Option Value) : Option Value :=
  some (put p.value p.way (old.getD absent))

/-- What stands at a place where several values were laid over one another. -/
def overlaid (old : Option Value) (ps : List Laid) : Option Value :=
  ps.foldl (fun v p => p.over v) old

@[simp]
theorem overlaid_nil (old : Option Value) : overlaid old [] = old := rfl

@[simp]
theorem overlaid_cons (old : Option Value) (p : Laid) (ps : List Laid) :
    overlaid old (p :: ps) = overlaid (p.over old) ps := rfl

theorem overlaid_append (old : Option Value) (ps qs : List Laid) :
    overlaid old (ps ++ qs) = overlaid (overlaid old ps) qs :=
  List.foldl_append

/-- What a table under a key holds at a field. -/
def field? (t f : String) (v : Value) : Option Value := (v.get? t).bind (get? f)

theorem field?_eq_lookup (t f : String) (v : Value) :
    field? t f v = Entries.lookup f ((v.get? t).getD absent).members := by
  rw [field?]
  cases v.get? t <;> rfl

/-- What an entry lays at a field of the table under a key. -/
def laid (t f : String) (e : String × Value) : List Laid :=
  match keySteps e.1 with
  | [.name s] =>
    if s = t then (e.2.members.filter fun m => m.1 = f).map fun m => ⟨[], m.2⟩ else []
  | .name s :: .name g :: way => if s = t ∧ g = f then [⟨way, e.2⟩] else []
  | _ => []

/-- What a layer lays at a field of the table under a key. -/
def laidBy (t f : String) (l : Layer) : List Laid := l.flatMap (laid t f)

/-- Whether a value is a table. -/
def isTable : Value → Bool
  | .table _ _ => true
  | _ => false

theorem isTable_eq_true_iff {v : Value} : v.isTable = true ↔ ∃ o ms, v = .table o ms := by
  cases v <;> simp [isTable]

/-- Whether what an entry puts at a key is a table, or goes into one. -/
def tabledEntry (t : String) (e : String × Value) : Bool :=
  match keySteps e.1 with
  | [.name s] => s != t || e.2.isTable
  | .name s :: .index _ :: _ => s != t
  | _ => true

/-- What a layer puts at a key is a table, wherever it puts anything there. -/
def Tabled (t : String) (l : Layer) : Prop := ∀ e ∈ l, tabledEntry t e = true

instance (t : String) (l : Layer) : Decidable (Tabled t l) :=
  inferInstanceAs (Decidable (∀ e ∈ l, tabledEntry t e = true))

/-- If a value has anything under a key, it is a table that was put together from several places. -/
def HasTable (t : String) (v : Value) : Prop := ∀ w, v.get? t = some w → ∃ ms, w = .table none ms

theorem exists_keySteps (key : String) : ∃ s way, keySteps key = .name s :: way := by
  unfold keySteps
  dsimp only
  split
  · exact ⟨_, _, rfl⟩
  · split
    · exact ⟨_, _, rfl⟩
    · exact ⟨_, _, rfl⟩

theorem get?_put_name (new v : Value) (k j : String) (way : List KeyStep) :
    (put new (.name k :: way) v).get? j =
      if k = j then some (put new way ((v.get? k).getD absent)) else v.get? j := by
  rw [put, get?, members, Entries.lookup_insert]
  rfl

theorem lookup_overlayMembers (f : String) (ms old : List (String × Value)) :
    Entries.lookup f (overlayMembers ms old) =
      overlaid (Entries.lookup f old) ((ms.filter fun m => m.1 = f).map fun m => ⟨[], m.2⟩) := by
  induction ms generalizing old with
  | nil => rfl
  | cons m r ih =>
    obtain ⟨k, v⟩ := m
    rw [overlayMembers, ih, Entries.lookup_insert]
    by_cases h : k = f
    · subst h
      simp [Laid.over, put]
    · simp [h]

/-- The table under a key, or an empty one, has no origin. -/
theorem HasTable.tableOrigin {t : String} {v : Value} (h : HasTable t v) :
    ((v.get? t).getD absent).tableOrigin = none := by
  cases hv : v.get? t with
  | none => rfl
  | some w =>
    obtain ⟨ms, rfl⟩ := h w hv
    rfl

/-- What stands at a field once an entry has been laid over a value. -/
theorem field?_put {t : String} {e : String × Value} {v : Value} (he : tabledEntry t e = true)
    (hv : HasTable t v) (f : String) :
    field? t f (put e.2 (keySteps e.1) v) = overlaid (field? t f v) (laid t f e) := by
  obtain ⟨s, way, hsteps⟩ := exists_keySteps e.1
  rw [field?_eq_lookup, hsteps, get?_put_name, field?_eq_lookup t f v]
  rw [tabledEntry, hsteps] at he
  rw [laid, hsteps]
  by_cases hs : s = t
  · subst hs
    rw [if_pos rfl, Option.getD_some]
    cases way with
    | nil =>
      obtain ⟨o, ms, htable⟩ := isTable_eq_true_iff.mp (by simpa using he)
      rw [htable, put, overlay, members, lookup_overlayMembers]
      dsimp only
      rw [if_pos rfl, members]
    | cons step way =>
      cases step with
      | index n => simp at he
      | name g =>
        rw [put, members, Entries.lookup_insert]
        by_cases hg : g = f
        · subst hg
          simp [Laid.over, get?]
        · simp [hg]
  · rw [if_neg hs]
    split
    · simp_all
    · simp_all
    · rfl

/-- The table under a key stays one. -/
theorem HasTable.put {t : String} {e : String × Value} {v : Value} (hv : HasTable t v)
    (he : tabledEntry t e = true) : HasTable t (put e.2 (keySteps e.1) v) := by
  obtain ⟨s, way, hsteps⟩ := exists_keySteps e.1
  intro w hw
  rw [hsteps, get?_put_name] at hw
  rw [tabledEntry, hsteps] at he
  by_cases hs : s = t
  · subst hs
    rw [if_pos rfl] at hw
    cases hw
    cases way with
    | nil =>
      obtain ⟨o, ms, htable⟩ := isTable_eq_true_iff.mp (by simpa using he)
      rw [htable, Value.put, overlay, hv.tableOrigin]
      exact ⟨_, rfl⟩
    | cons step way =>
      cases step with
      | index n => simp at he
      | name g =>
        rw [Value.put, hv.tableOrigin]
        exact ⟨_, rfl⟩
  · rw [if_neg hs] at hw
    exact hv w hw

theorem HasTable.merge {t : String} {l : Layer} {v : Value} (hv : HasTable t v) (hl : Tabled t l) :
    HasTable t (merge l v) := by
  induction l generalizing v with
  | nil => exact hv
  | cons e r ih =>
    exact ih (hv.put (hl e List.mem_cons_self)) fun d hd => hl d (List.mem_cons_of_mem e hd)

/-- **What a field holds once a layer has been laid over a value**: what the layer lays there, over
what it held. -/
theorem field?_merge {t : String} {l : Layer} {v : Value} (hl : Tabled t l) (hv : HasTable t v)
    (f : String) : field? t f (merge l v) = overlaid (field? t f v) (laidBy t f l) := by
  induction l generalizing v with
  | nil => rfl
  | cons e r ih =>
    have he := hl e List.mem_cons_self
    have hrest := ih (fun d hd => hl d (List.mem_cons_of_mem e hd)) (hv.put he)
    rw [field?_put he hv] at hrest
    rw [laidBy, List.flatMap_cons, overlaid_append]
    exact hrest

/-! ## Values that read alike -/

/-- Values that cannot be told apart where no table is asked for: they are the same, or both are
tables that were put together from several places. -/
inductive Alike : Value → Value → Prop
  | refl (v : Value) : Alike v v
  | tables (ms ns : List (String × Value)) : Alike (.table none ms) (.table none ns)

theorem rel_alike_refl (v : Option Value) : Option.Rel Alike v v := by
  cases v with
  | none => exact .none
  | some v => exact .some (.refl v)

/-- Laying something over values that read alike gives such values. -/
theorem Alike.put {v w : Value} (h : Alike v w) (new : Value) (way : List KeyStep) :
    Alike (put new way v) (put new way w) := by
  cases h with
  | refl => exact .refl _
  | tables ms ns =>
    cases way with
    | nil =>
      cases new with
      | table o ms' => exact .tables _ _
      | _ => exact .refl _
    | cons step way =>
      cases step with
      | name k => exact .tables _ _
      | index n => exact .refl _

/-- What is laid sets a place as a whole unless it goes into a list. -/
def Laid.Whole (p : Laid) : Prop := ∀ n way, p.way ≠ .index n :: way

/-- Whatever it is laid over, what sets a place as a whole gives values that read alike. -/
theorem Laid.Whole.alike {p : Laid} (hp : p.Whole) {v w : Value} (hv : v.tableOrigin = none)
    (hw : w.tableOrigin = none) :
    Alike (Value.put p.value p.way v) (Value.put p.value p.way w) := by
  cases hway : p.way with
  | nil =>
    cases hnew : p.value with
    | table o ms =>
      rw [Value.put, Value.put, overlay, overlay, hv, hw]
      exact .tables _ _
    | _ => exact .refl _
  | cons step way =>
    cases step with
    | name k =>
      rw [Value.put, Value.put, hv, hw]
      exact .tables _ _
    | index n => exact absurd hway (hp n way)

theorem tableOrigin_put (new : Value) (way : List KeyStep) {v : Value} (h : v.tableOrigin = none) :
    (put new way v).tableOrigin = none := by
  cases way with
  | nil =>
    cases new with
    | table o ms => exact h
    | _ => rfl
  | cons step way =>
    cases step with
    | name k => exact h
    | index n => rfl

theorem tableOrigin_overlaid (ps : List Laid) {old : Option Value}
    (h : (old.getD absent).tableOrigin = none) :
    ((overlaid old ps).getD absent).tableOrigin = none := by
  induction ps generalizing old with
  | nil => exact h
  | cons p r ih => exact ih (tableOrigin_put p.value p.way h)

theorem rel_overlaid (ps : List Laid) {old old' : Option Value} (h : Option.Rel Alike old old') :
    Option.Rel Alike (overlaid old ps) (overlaid old' ps) := by
  induction ps generalizing old old' with
  | nil => exact h
  | cons p r ih =>
    refine ih (.some ?_)
    cases h with
    | none => exact .refl _
    | some h => exact h.put p.value p.way

/-- **What sets a place as a whole hides all that was laid there before.** -/
theorem alike_overlaid {p : Laid} (hp : p.Whole) (ps ps' qs : List Laid) :
    Option.Rel Alike (overlaid none (ps ++ p :: qs)) (overlaid none (ps' ++ p :: qs)) := by
  rw [overlaid_append, overlaid_append, overlaid_cons, overlaid_cons]
  exact rel_overlaid qs
    (.some (hp.alike (tableOrigin_overlaid ps rfl) (tableOrigin_overlaid ps' rfl)))

theorem exists_overlaid {ps : List Laid} (h : ps ≠ []) (old : Option Value) :
    ∃ v, overlaid old ps = some v := by
  induction ps generalizing old with
  | nil => exact absurd rfl h
  | cons p r ih =>
    cases r with
    | nil => exact ⟨_, rfl⟩
    | cons q r => exact ih (List.cons_ne_nil q r) (p.over old)

/-- Null stands at a place exactly if it was laid there last. -/
theorem overlaid_eq_null_iff {ps : List Laid} (h : ps ≠ []) :
    (∃ o, overlaid none ps = some (.scalar o .null)) ↔
      ∃ qs o, ps = qs ++ [⟨[], .scalar o .null⟩] := by
  constructor
  · rintro ⟨o, hnull⟩
    obtain rfl | ⟨qs, ⟨way, new⟩, rfl⟩ := List.eq_nil_or_concat ps
    · exact absurd rfl h
    · rw [List.concat_eq_append, overlaid_append] at hnull
      have hput := Option.some.inj hnull
      cases way with
      | nil =>
        cases new with
        | scalar o' x =>
          cases hput
          exact ⟨qs, o, List.concat_eq_append⟩
        | _ => cases hput
      | cons step way => cases step <;> cases hput
  · rintro ⟨qs, o, rfl⟩
    exact ⟨o, by rw [overlaid_append]; rfl⟩

end Value

end DbLifecycle
