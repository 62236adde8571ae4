import DbLifecycle.Json.Printer
import DbLifecycle.Proofs.Json.Ordered
import DbLifecycle.Proofs.Text.Digits

/-!
# A value is read as it is written

Writing and reading a value gives it back, if its objects are ordered, its numbers are whole ones
that 64 bits hold, and it is not nested too deep.

* `Json.Whole`: the numbers in a value are whole ones that 64 bits hold.
* `Json.Ends`: what may follow a value inside another one.
* `Json.stringBody_flatMap`, `Json.number_text`: texts and numbers are read as they are written.
* **`Json.parse?_compact`**: and so is a whole value.
-/

namespace DbLifecycle

namespace Json

mutual

/-- All numbers in a value are whole ones that 64 bits hold, with their sign or without one. -/
def Whole : Json → Prop
  | num (.int n) => Text.Integer.minSigned 64 ≤ n ∧ n ≤ Text.Integer.maxUnsigned 64
  | num (.float _) => False
  | arr items => WholeItems items
  | obj members => WholeMembers members
  | _ => True

/-- All numbers in the items are whole. -/
def WholeItems : List Json → Prop
  | [] => True
  | v :: r => Whole v ∧ WholeItems r

/-- All numbers in the members are whole. -/
def WholeMembers : List (String × Json) → Prop
  | [] => True
  | (_, v) :: r => Whole v ∧ WholeMembers r

end

/-- What may follow a value inside another one: nothing that goes on with a number. -/
def Ends (rest : List Char) : Prop := ∀ c ∈ rest.head?, c = ',' ∨ c = ']' ∨ c = '}'

theorem ends_nil : Ends [] := nofun

theorem ends_cons {c : Char} {r : List Char} (h : c = ',' ∨ c = ']' ∨ c = '}') :
    Ends (c :: r) := by
  intro d hd
  cases hd
  exact h

theorem skipBlank_cons {c : Char} {r : List Char} (h : isBlank c = false) :
    skipBlank (c :: r) = c :: r := by
  rw [skipBlank, List.dropWhile_cons_of_neg (by simp [h])]

/-! ## Texts -/

/-- A char that needs no escape stands for itself. -/
theorem stringBody_cons_of_plain {c : Char} (hquote : c ≠ '"') (hslash : c ≠ '\\')
    (hhigh : ¬ c.toNat < 0x20) (rest : List Char) :
    stringBody (c :: rest) = (stringBody rest).map fun p => (c :: p.1, p.2) := by
  rw [stringBody]
  · exact if_neg (not_or.mpr ⟨hhigh, hslash⟩)
  · exact hquote
  · exact fun _ _ _ _ _ hc _ => hslash hc
  · exact fun _ _ hc _ => hslash hc

theorem stringBody_escapedChar (c : Char) (rest : List Char) :
    stringBody (escapedChar c ++ rest) = (stringBody rest).map fun p => (c :: p.1, p.2) := by
  unfold escapedChar
  split
  case h_8 hquote hslash _ _ _ _ _ =>
    split
    · rename_i hlow
      have hhigh : c.toNat / 16 < 2 := by omega
      have hzero : Text.hexValue? '0' = some 0 := rfl
      have hvalue : hex4? '0' '0' (Nat.digitChar (c.toNat / 16)) (Nat.digitChar (c.toNat % 16)) =
          some c.toNat := by
        simp only [hex4?, hzero, Text.hexValue?_digitChar (show c.toNat / 16 < 16 by omega),
          Text.hexValue?_digitChar (show c.toNat % 16 < 16 by omega), Option.bind_eq_bind,
          Option.bind_some, Option.some.injEq]
        omega
      have htrail : isTrail c.toNat = false := by simp [isTrail]; omega
      have hlead : isLead c.toNat = false := by simp [isLead]; omega
      simp only [List.cons_append, List.nil_append]
      rw [stringBody, hvalue, Option.bind_some, htrail, hlead]
      simp [Char.ofNat_toNat]
    · rename_i hhigh
      rw [List.singleton_append, stringBody_cons_of_plain hquote hslash hhigh]
  all_goals rfl

/-- A text is read as it is written in quotes. -/
theorem stringBody_flatMap (cs rest : List Char) :
    stringBody (cs.flatMap escapedChar ++ '"' :: rest) = some (cs, rest) := by
  induction cs with
  | nil => rfl
  | cons c r ih =>
    rw [List.flatMap_cons, List.append_assoc, stringBody_escapedChar, ih]
    rfl

/-! ## Numbers -/

theorem spanDigits_append {ds rest : List Char} (hds : ∀ c ∈ ds, c.isDigit = true)
    (hrest : ∀ c ∈ rest.head?, c.isDigit = false) : spanDigits (ds ++ rest) = (ds, rest) := by
  have hstop : rest.takeWhile Char.isDigit = [] ∧ rest.dropWhile Char.isDigit = rest := by
    cases rest with
    | nil => exact ⟨rfl, rfl⟩
    | cons c r => simp [hrest c rfl]
  rw [spanDigits, List.takeWhile_append_of_pos hds, List.dropWhile_append_of_pos hds, hstop.1,
    hstop.2, List.append_nil]

theorem wholeDigits_toDigits (n : Nat) {rest : List Char} (hrest : Ends rest) :
    wholeDigits (Nat.toDigits 10 n ++ rest) = some (Nat.toDigits 10 n, rest) := by
  have hspan : spanDigits (Nat.toDigits 10 n ++ rest) = (Nat.toDigits 10 n, rest) :=
    spanDigits_append (fun _ => Text.isDigit_of_mem_toDigits) fun c hc => by
      rcases hrest c hc with rfl | rfl | rfl <;> rfl
  obtain ⟨c, r, hcr, hzero⟩ := Text.toDigits_eq_cons n
  rw [wholeDigits, hspan, hcr]
  split
  · rename_i heq
    simp at heq
  · rename_i heq
    simp only [Prod.mk.injEq, List.cons.injEq] at heq
    rw [hzero heq.1.1] at heq
    cases heq.1.2
  · rfl

theorem le_foldl_digits (ds : List Char) (n : Nat) :
    n ≤ ds.foldl (fun n c => 10 * n + Text.Integer.digitValue c) n := by
  induction ds generalizing n with
  | nil => exact Nat.le_refl n
  | cons d r ih => exact Nat.le_trans (by omega) (ih (10 * n + Text.Integer.digitValue d))

/-- Digits that write a number of 64 bits are taken as a whole. -/
theorem significand_eq {ds : List Char} {n : Nat}
    (h : ds.foldl (fun n c => 10 * n + Text.Integer.digitValue c) n ≤
      Text.Integer.maxUnsigned 64) :
    significand n ds = (ds.foldl (fun n c => 10 * n + Text.Integer.digitValue c) n, []) := by
  induction ds generalizing n with
  | nil => rfl
  | cons d r ih =>
    rw [List.foldl_cons] at h
    rw [significand, if_pos (Nat.le_trans (le_foldl_digits r _) h), ih h, List.foldl_cons]

theorem significand_toDigits {n : Nat} (h : n ≤ Text.Integer.maxUnsigned 64) :
    significand 0 (Nat.toDigits 10 n) = (n, []) := by
  have hvalue := Text.Integer.ofDigits_toDigits n
  rw [Text.Integer.ofDigits] at hvalue
  rw [significand_eq (by rwa [hvalue]), hvalue]

theorem fraction_of_ends {rest : List Char} (h : Ends rest) : fraction rest = some ([], rest) := by
  unfold fraction
  split
  · exact absurd (h '.' rfl) (by decide)
  · rfl

theorem exponent_of_ends {rest : List Char} (h : Ends rest) :
    exponent rest = some (none, rest) := by
  cases rest with
  | nil => rfl
  | cons c r =>
    have hno : ¬ (c = 'e' ∨ c = 'E') := by rcases h c rfl with rfl | rfl | rfl <;> decide
    rw [exponent.eq_def]
    exact if_neg hno

theorem numberValue_toDigits {n : Nat} (h : n ≤ Text.Integer.maxUnsigned 64) {negative : Bool}
    (hsmall : negative = true → n ≠ 0 ∧ Text.Integer.minSigned 64 ≤ -(n : Int)) :
    numberValue negative (Nat.toDigits 10 n) [] none =
      some (.int (if negative then -n else n)) := by
  rw [numberValue, significand_toDigits h]
  cases negative with
  | false => simp
  | true =>
    obtain ⟨hne, hle⟩ := hsmall rfl
    simp [hne, Int.not_lt.mpr hle]

theorem number_toDigits {n : Nat} (h : n ≤ Text.Integer.maxUnsigned 64) {negative : Bool}
    (hsmall : negative = true → n ≠ 0 ∧ Text.Integer.minSigned 64 ≤ -(n : Int))
    {rest : List Char} (hrest : Ends rest) :
    number ((if negative then ['-'] else []) ++ Nat.toDigits 10 n ++ rest) =
      some (.int (if negative then -n else n), rest) := by
  cases negative with
  | true =>
    simp only [number, if_true, List.cons_append, List.nil_append, wholeDigits_toDigits n hrest,
      fraction_of_ends hrest, exponent_of_ends hrest, numberValue_toDigits h hsmall,
      Option.bind_eq_bind, Option.bind_some]
  | false =>
    have hsign : ∀ r, Nat.toDigits 10 n ++ rest ≠ '-' :: r := by
      intro r heq
      obtain ⟨c, t, hct, -⟩ := Text.toDigits_eq_cons n
      have hdigit := Text.isDigit_of_mem_toDigits (n := n) (c := c) (by simp [hct])
      rw [hct, List.cons_append, List.cons.injEq] at heq
      rw [heq.1] at hdigit
      exact absurd hdigit (by decide)
    simp only [number, Bool.false_eq_true, if_false, List.nil_append, wholeDigits_toDigits n hrest,
      fraction_of_ends hrest, exponent_of_ends hrest, numberValue_toDigits h hsmall,
      Option.bind_eq_bind, Option.bind_some]

/-- The text of a whole number: its sign, if it has one, and its digits. -/
theorem text_int (n : Int) : (Number.text (.int n)).toList =
    (if decide (n < 0) then ['-'] else []) ++ Nat.toDigits 10 n.natAbs := by
  rw [Number.text, Int.toString_eq_repr, Int.repr_eq_if]
  split
  · rename_i h
    rw [← Nat.toString_eq_repr, Nat.toString_eq_ofList_toDigits, String.toList_ofList,
      if_neg (by simpa using h), List.nil_append, show n.toNat = n.natAbs by omega]
  · rename_i h
    rw [← Nat.toString_eq_repr, Nat.toString_eq_ofList_toDigits, String.toList_append,
      if_pos (by simpa using h), show (-n).toNat = n.natAbs by omega]
    exact congrArg (['-'] ++ ·) String.toList_ofList

theorem text_int_eq_cons (n : Int) :
    ∃ c r, (Number.text (.int n)).toList = c :: r ∧ (c.isDigit = true ∨ c = '-') := by
  rw [text_int]
  split
  · exact ⟨'-', _, rfl, .inr rfl⟩
  · obtain ⟨c, r, hcr, -⟩ := Text.toDigits_eq_cons n.natAbs
    exact ⟨c, r, by rw [hcr, List.nil_append],
      .inl (Text.isDigit_of_mem_toDigits (n := n.natAbs) (by simp [hcr]))⟩

theorem not_blank_of_isDigit {c : Char} (h : c.isDigit = true ∨ c = '-') : isBlank c = false := by
  simp only [isBlank, Bool.or_eq_false_iff, beq_eq_false_iff_ne]
  refine ⟨⟨⟨?_, ?_⟩, ?_⟩, ?_⟩ <;> (rintro rfl; exact absurd h (by decide))

/-- A whole number is read as it is written. -/
theorem number_text {n : Int} (h : Whole (.num (.int n))) {rest : List Char} (hrest : Ends rest) :
    number ((Number.text (.int n)).toList ++ rest) = some (.int n, rest) := by
  have hlow : Text.Integer.minSigned 64 = -9223372036854775808 := rfl
  have hhigh : Text.Integer.maxUnsigned 64 = 18446744073709551615 := rfl
  obtain ⟨hmin, hmax⟩ := h
  rw [text_int, number_toDigits (by omega) _ hrest]
  · congr 3
    split
    · rename_i hneg
      rw [decide_eq_true_iff] at hneg
      omega
    · rename_i hneg
      rw [decide_eq_true_iff] at hneg
      omega
  · intro hneg
    have hneg := of_decide_eq_true hneg
    omega

/-! ## Values -/

/-- The text of a value begins with no blank and no closing bracket. -/
theorem chars_eq_cons {v : Json} (h : v.Whole) :
    ∃ c r, chars v = c :: r ∧ isBlank c = false ∧ c ≠ ']' := by
  cases v with
  | null => exact ⟨'n', _, rfl, rfl, by decide⟩
  | bool b => cases b <;> exact ⟨_, _, rfl, rfl, by decide⟩
  | num n =>
    cases n with
    | float x => exact h.elim
    | int n =>
      obtain ⟨c, r, hcr, hc⟩ := text_int_eq_cons n
      refine ⟨c, r, hcr, not_blank_of_isDigit hc, ?_⟩
      rintro rfl
      exact absurd hc (by decide)
  | str s => exact ⟨'"', _, rfl, rfl, by decide⟩
  | arr items => exact ⟨'[', _, rfl, rfl, by decide⟩
  | obj members => exact ⟨'\x7b', _, rfl, rfl, by decide⟩

theorem charsItems_eq_cons {v : Json} {r : List Json} (h : v.Whole) :
    ∃ c s, charsItems (v :: r) = c :: s ∧ isBlank c = false ∧ c ≠ ']' := by
  obtain ⟨c, s, hcs, hblank, hne⟩ := chars_eq_cons h
  cases r with
  | nil => exact ⟨c, s, by rw [charsItems, hcs], hblank, hne⟩
  | cons w r => exact ⟨c, _, by rw [charsItems, hcs, List.cons_append], hblank, hne⟩

theorem charsMembers_eq_cons (k : String) (v : Json) (r : List (String × Json)) :
    ∃ s, charsMembers ((k, v) :: r) = '"' :: s := by
  cases r with
  | nil => exact ⟨_, rfl⟩
  | cons m r => exact ⟨_, rfl⟩

/-- A number is read where its text begins. -/
theorem value_num {fuel : Nat} {n : Int} (h : Whole (.num (.int n))) {rest : List Char}
    (hrest : Ends rest) :
    value (fuel + 1) (chars (.num (.int n)) ++ rest) = some (.num (.int n), rest) := by
  have hnumber := number_text h hrest
  obtain ⟨c, r, hcr, hc⟩ := text_int_eq_cons n
  rw [chars, value]
  rw [hcr, List.cons_append] at hnumber ⊢
  rw [skipBlank_cons (not_blank_of_isDigit hc)]
  split
  case h_7 => rw [hnumber, Option.map_some]
  all_goals
    rename_i heq
    cases heq
    exact absurd hc (by decide)

/-- What is written is read back, with some fuel. -/
structure Reads (fuel : Nat) : Prop where
  value : ∀ {v : Json} {rest}, v.Ordered → v.Whole → Ends rest → 2 * v.chars.length ≤ fuel →
    value fuel (v.chars ++ rest) = some (v, rest)
  items : ∀ {vs rest}, vs ≠ [] → OrderedItems vs → WholeItems vs →
    2 * (charsItems vs).length + 1 ≤ fuel →
    items fuel (charsItems vs ++ ']' :: rest) = some (vs, rest)
  members : ∀ {ms rest}, ms ≠ [] → OrderedMembers ms → WholeMembers ms →
    2 * (charsMembers ms).length + 1 ≤ fuel →
    members fuel (charsMembers ms ++ '\x7d' :: rest) = some (ms, rest)

theorem value_chars {fuel : Nat} (ih : Reads fuel) {v : Json} {rest : List Char}
    (ho : v.Ordered) (hw : v.Whole) (hrest : Ends rest) (hfuel : 2 * v.chars.length ≤ fuel + 1) :
    value (fuel + 1) (v.chars ++ rest) = some (v, rest) := by
  cases v with
  | null => rfl
  | bool b => cases b <;> rfl
  | num n =>
    cases n with
    | float x => exact hw.elim
    | int n => exact value_num hw hrest
  | str s =>
    have htext : chars (.str s) ++ rest = '"' :: (s.toList.flatMap escapedChar ++ '"' :: rest) := by
      simp [chars, quotedChars]
    rw [htext, value, skipBlank_cons (by rfl)]
    simp only [stringBody_flatMap, Option.map_some, String.ofList_toList]
  | arr items =>
    cases items with
    | nil => rfl
    | cons w r =>
      have htext : chars (.arr (w :: r)) ++ rest = '[' :: (charsItems (w :: r) ++ ']' :: rest) := by
        simp [chars]
      have hlength : (chars (.arr (w :: r))).length = (charsItems (w :: r)).length + 2 := by
        simp [chars]
      have hitems : items fuel (charsItems (w :: r) ++ ']' :: rest) = some (w :: r, rest) :=
        ih.items (List.cons_ne_nil w r) ho hw (by omega)
      obtain ⟨c, s, hcs, hblank, hne⟩ := charsItems_eq_cons (r := r) hw.1
      rw [hcs, List.cons_append] at hitems
      rw [htext, value, skipBlank_cons (by rfl), hcs, List.cons_append]
      simp only [skipBlank_cons hblank]
      split
      · rename_i heq
        cases heq
        exact absurd rfl hne
      · rw [hitems, Option.map_some]
  | obj members =>
    cases members with
    | nil => rfl
    | cons m r =>
      obtain ⟨k, w⟩ := m
      have htext : chars (.obj ((k, w) :: r)) ++ rest =
          '\x7b' :: (charsMembers ((k, w) :: r) ++ '\x7d' :: rest) := by
        simp [chars]
      have hlength : (chars (.obj ((k, w) :: r))).length =
          (charsMembers ((k, w) :: r)).length + 2 := by
        simp [chars]
      have hmembers : members fuel (charsMembers ((k, w) :: r) ++ '\x7d' :: rest) =
          some ((k, w) :: r, rest) :=
        ih.members (List.cons_ne_nil (k, w) r) ho.2 hw (by omega)
      obtain ⟨s, hs⟩ := charsMembers_eq_cons k w r
      rw [hs, List.cons_append] at hmembers
      rw [htext, value, skipBlank_cons (by rfl), hs, List.cons_append]
      simp only [skipBlank_cons (show isBlank '"' = false by rfl)]
      split
      · rename_i heq
        cases heq
      · rw [hmembers, Option.map_some, Entries.foldl_insert_of_sorted ho.1]

theorem items_chars {fuel : Nat} (ih : Reads fuel) {vs : List Json} {rest : List Char}
    (hne : vs ≠ []) (ho : OrderedItems vs) (hw : WholeItems vs)
    (hfuel : 2 * (charsItems vs).length + 1 ≤ fuel + 1) :
    items (fuel + 1) (charsItems vs ++ ']' :: rest) = some (vs, rest) := by
  cases vs with
  | nil => exact absurd rfl hne
  | cons v r =>
    cases r with
    | nil =>
      rw [charsItems] at hfuel ⊢
      rw [items, ih.value ho.1 hw.1 (ends_cons (by decide)) (by omega), Option.bind_some]
      rfl
    | cons w r =>
      rw [charsItems, List.length_append, List.length_cons] at hfuel
      rw [charsItems, List.append_assoc, List.cons_append, items,
        ih.value ho.1 hw.1 (ends_cons (by decide)) (by omega), Option.bind_some]
      simp only [skipBlank_cons (show isBlank ',' = false by rfl)]
      rw [ih.items (List.cons_ne_nil w r) ho.2 hw.2 (by omega), Option.map_some]

theorem members_chars {fuel : Nat} (ih : Reads fuel) {ms : List (String × Json)}
    {rest : List Char} (hne : ms ≠ []) (ho : OrderedMembers ms) (hw : WholeMembers ms)
    (hfuel : 2 * (charsMembers ms).length + 1 ≤ fuel + 1) :
    members (fuel + 1) (charsMembers ms ++ '\x7d' :: rest) = some (ms, rest) := by
  cases ms with
  | nil => exact absurd rfl hne
  | cons m r =>
    obtain ⟨k, v⟩ := m
    have hquoted : ∀ tail : List Char, quotedChars k ++ tail =
        '"' :: (k.toList.flatMap escapedChar ++ '"' :: tail) := by
      intro tail
      simp [quotedChars]
    cases r with
    | nil =>
      rw [charsMembers, List.length_append, List.length_cons] at hfuel
      rw [charsMembers, List.append_assoc, hquoted, members, skipBlank_cons (by rfl)]
      simp only [stringBody_flatMap, Option.bind_some, List.cons_append,
        skipBlank_cons (show isBlank ':' = false by rfl)]
      rw [ih.value ho.1 hw.1 (ends_cons (by decide)) (by omega), Option.bind_some]
      simp only [skipBlank_cons (show isBlank '\x7d' = false by rfl), String.ofList_toList]
    | cons n r =>
      rw [charsMembers, List.length_append, List.length_append, List.length_cons,
        List.length_cons] at hfuel
      rw [charsMembers, List.append_assoc, List.append_assoc, hquoted, members,
        skipBlank_cons (by rfl)]
      simp only [stringBody_flatMap, Option.bind_some, List.cons_append,
        skipBlank_cons (show isBlank ':' = false by rfl)]
      rw [ih.value ho.1 hw.1 (ends_cons (by decide)) (by omega), Option.bind_some]
      simp only [skipBlank_cons (show isBlank ',' = false by rfl)]
      rw [ih.members (List.cons_ne_nil n r) ho.2 hw.2 (by omega), Option.map_some,
        String.ofList_toList]

theorem reads (fuel : Nat) : Reads fuel := by
  induction fuel with
  | zero =>
    refine ⟨fun {v rest} _ hw _ hfuel => ?_, fun _ _ _ h => ?_, fun _ _ _ h => ?_⟩
    · obtain ⟨c, r, hcr, -⟩ := chars_eq_cons hw
      simp [hcr] at hfuel
    · omega
    · omega
  | succ fuel ih => exact ⟨value_chars ih, items_chars ih, members_chars ih⟩

/-- **A value is read as it is written.** -/
theorem parse?_compact {v : Json} (ho : v.Ordered) (hw : v.Whole) (hdepth : v.depth ≤ maxDepth) :
    parse? v.compact = some v := by
  have hread := (reads (2 * v.chars.length + 2)).value ho hw ends_nil (by omega)
  rw [List.append_nil] at hread
  unfold parse?
  dsimp only
  rw [compact, String.toList_ofList, hread]
  exact if_pos ⟨rfl, hdepth⟩

end Json

end DbLifecycle
