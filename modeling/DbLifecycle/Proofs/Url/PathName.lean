import DbLifecycle.Proofs.Url.Parsed
import DbLifecycle.Proofs.Url.Unescape

/-!
# Names in a path

A name that is set as the path of a URL goes through the reading of paths: characters that do not
count are dropped, points are resolved, escapes are left as they are, and a question mark or a
number sign in front makes it empty.

* `Url.joinedBytes`: the bytes that segments are read as, each after its slash.
* `Url.length_joinedBytes_segments`: the path of a text is read as no more bytes than the text, and
  every point that is resolved costs some.
* `Url.KeptInPath`: names that none of this concerns.
* **`Url.decode_pathOf_eq_ok_iff`**: a path is read as the name it was set to exactly for those.
-/

namespace DbLifecycle

namespace Url

open Percent (decodeBytes HasEscape StartsEscape IsHex)

/-! ## Reading stretch by stretch -/

theorem startsEscape_of_append {c d : Char} (hd : ¬ IsHex d) {r back : List Char}
    (h : StartsEscape (c :: (r ++ d :: back))) : StartsEscape (c :: r) := by
  obtain ⟨a, b, t, heq, ha, hb⟩ := h
  match r, heq with
  | [], heq =>
    cases heq
    exact absurd ha hd
  | [x], heq =>
    cases heq
    exact absurd hb hd
  | x :: y :: u, heq =>
    cases heq
    exact ⟨a, b, u, rfl, ha, hb⟩

/-- No escape goes across a character that is no digit. -/
theorem decodeBytes_append {d : Char} (hd : ¬ IsHex d) (front back : List Char) :
    decodeBytes (front ++ d :: back) = decodeBytes front ++ decodeBytes (d :: back) := by
  induction front using Percent.escape_induction with
  | nil => rfl
  | escape ha hb ih =>
    obtain ⟨byte, hbyte⟩ := Percent.decodeBytes_escape ha hb
    rw [List.cons_append, List.cons_append, List.cons_append, hbyte, hbyte, ih, List.cons_append]
  | char hc ih =>
    rw [List.cons_append, Percent.decodeBytes_char fun h => hc (startsEscape_of_append hd h), ih,
      Percent.decodeBytes_char hc, List.append_assoc]

theorem not_isHex_slash : ¬ IsHex '/' := by
  unfold IsHex
  decide

theorem decodeBytes_slash (cs : List Char) : decodeBytes ('/' :: cs) = 0x2f :: decodeBytes cs :=
  Percent.decodeBytes_cons (by decide) cs

/-- The bytes that segments are read as, each after its slash. -/
def joinedBytes (ss : List (List Char)) : List UInt8 := ss.flatMap fun s => 0x2f :: decodeBytes s

@[simp]
theorem joinedBytes_nil : joinedBytes [] = [] := rfl

@[simp]
theorem joinedBytes_append (ss ts : List (List Char)) :
    joinedBytes (ss ++ ts) = joinedBytes ss ++ joinedBytes ts :=
  List.flatMap_append

theorem joinedBytes_cons (s : List Char) (r : List (List Char)) :
    joinedBytes (s :: r) = 0x2f :: decodeBytes s ++ joinedBytes r :=
  List.flatMap_cons

/-- The segments of a path are read one by one. -/
theorem decodeBytes_flatMap_slash (ss : List (List Char)) :
    decodeBytes (ss.flatMap ('/' :: ·)) = joinedBytes ss := by
  induction ss with
  | nil => rfl
  | cons s r ih =>
    rw [List.flatMap_cons, List.cons_append, decodeBytes_slash, joinedBytes_cons, List.cons_append,
      ← ih]
    cases r with
    | nil => simp [decodeBytes]
    | cons t r =>
      rw [List.flatMap_cons, List.cons_append, decodeBytes_append not_isHex_slash]

/-- The segments of a text, each after its slash. -/
theorem flatMap_splitOn (cs : List Char) : (cs.splitOn '/').flatMap ('/' :: ·) = '/' :: cs := by
  cases hs : cs.splitOn '/' with
  | nil => exact absurd hs (List.splitOn_ne_nil '/' cs)
  | cons s r => rw [flatMap_slash, ← hs, List.intercalate_splitOn]

/-- The segments of a text, as they are escaped before they are resolved. -/
def rawSegments (cs : List Char) : List (List Char) :=
  (cs.splitOn '/').map (Percent.encode inPath)

theorem joinedBytes_rawSegments (cs : List Char) :
    joinedBytes (rawSegments cs) = 0x2f :: decodeBytes cs := by
  rw [← decodeBytes_slash, ← flatMap_splitOn, decodeBytes_flatMap_slash, joinedBytes, rawSegments,
    List.flatMap_map]
  simp only [Percent.decodeBytes_encode_of_spares spares_inPath]
  rfl

/-- A path without its first slash is read as its segments without theirs. -/
theorem decodeBytes_drop_chars (ss : List (List Char)) :
    decodeBytes ((Path.rooted ss).chars.drop 1) = (joinedBytes ss).drop 1 := by
  cases ss with
  | nil => rfl
  | cons s r =>
    rw [← decodeBytes_flatMap_slash, Path.chars, List.flatMap_cons, List.cons_append,
      decodeBytes_slash]
    rfl

/-! ## Points -/

theorem eq_of_toLower {c d : Char} (hd : d.isAlpha = false) (h : c.toLower = d) : c = d := by
  have halpha : c.isAlpha = false := by rw [← Char.isAlpha_toLower_eq_isAlpha, h, hd]
  have hupper : ¬ c.isUpper = true := by
    intro hup
    rw [Char.isAlpha, hup, Bool.true_or] at halpha
    cases halpha
  rwa [Char.toLower_eq_of_not_isUpper hupper] at h

theorem eq_of_toLower_e {c : Char} (h : c.toLower = 'e') : c = 'e' ∨ c = 'E' := by
  cases hup : c.isUpper with
  | false => exact .inl (by rwa [Char.toLower_eq_of_not_isUpper (by simp [hup])] at h)
  | true =>
    have hall : ∀ n < 0x5b, (Char.ofNat n).toLower = 'e' →
        Char.ofNat n = 'e' ∨ Char.ofNat n = 'E' := by
      decide
    have hlt : c.toNat < 0x5b := by
      simp only [Char.isUpper, decide_eq_true_eq] at hup
      have hle := UInt32.le_iff_toNat_le.mp hup.2
      exact Nat.lt_succ_of_le hle
    have hc := hall c.toNat hlt
    rw [Char.ofNat_toNat] at hc
    exact hc h

/-- A point, as it is or escaped. -/
theorem cases_of_isSingleDot {s : List Char} (h : isSingleDot s = true) :
    s = ['.'] ∨ s = ['%', '2', 'e'] ∨ s = ['%', '2', 'E'] := by
  simp only [isSingleDot, Bool.or_eq_true, beq_iff_eq, List.map_eq_cons_iff, List.map_eq_nil_iff]
    at h
  rcases h with rfl | ⟨a, r, rfl, ha, b, t, rfl, hb, c, u, rfl, hc, rfl⟩
  · exact .inl rfl
  · obtain rfl := eq_of_toLower (by decide) ha
    obtain rfl := eq_of_toLower (by decide) hb
    rcases eq_of_toLower_e hc with rfl | rfl
    · exact .inr (.inl rfl)
    · exact .inr (.inr rfl)

theorem isSingleDot_of_map {s : List Char}
    (h : s.map Char.toLower = ['.'] ∨ s.map Char.toLower = ['%', '2', 'e']) :
    isSingleDot s = true := by
  rcases h with h | h
  · obtain ⟨c, r, rfl, hc, hr⟩ := List.map_eq_cons_iff.mp h
    rw [eq_of_toLower (by decide) hc, List.map_eq_nil_iff.mp hr]
    rfl
  · simp [isSingleDot, h]

/-- Two points stand side by side. -/
theorem split_of_isDoubleDot {s : List Char} (h : isDoubleDot s = true) :
    ∃ front back, s = front ++ back ∧ isSingleDot front = true ∧ isSingleDot back = true := by
  have hsplit : ∃ p q, (p = ['.'] ∨ p = ['%', '2', 'e']) ∧ (q = ['.'] ∨ q = ['%', '2', 'e']) ∧
      s.map Char.toLower = p ++ q := by
    simp only [isDoubleDot, Bool.or_eq_true, beq_iff_eq] at h
    rcases h with ((h | h) | h) | h
    · exact ⟨['.'], ['.'], .inl rfl, .inl rfl, h⟩
    · exact ⟨['%', '2', 'e'], ['.'], .inr rfl, .inl rfl, h⟩
    · exact ⟨['.'], ['%', '2', 'e'], .inl rfl, .inr rfl, h⟩
    · exact ⟨['%', '2', 'e'], ['%', '2', 'e'], .inr rfl, .inr rfl, h⟩
  obtain ⟨p, q, hp, hq, hmap⟩ := hsplit
  obtain ⟨front, back, rfl, hfront, hback⟩ := List.map_eq_append_iff.mp hmap
  exact ⟨front, back, rfl, isSingleDot_of_map (by rwa [hfront]),
    isSingleDot_of_map (by rwa [hback])⟩

theorem decodeBytes_of_isSingleDot {s : List Char} (h : isSingleDot s = true) :
    decodeBytes s = [0x2e] := by
  rcases cases_of_isSingleDot h with rfl | rfl | rfl <;> rfl

theorem decodeBytes_of_isDoubleDot {s : List Char} (h : isDoubleDot s = true) :
    decodeBytes s = [0x2e, 0x2e] := by
  obtain ⟨front, back, rfl, hfront, hback⟩ := split_of_isDoubleDot h
  obtain ⟨d, r, rfl, hd⟩ : ∃ d r, back = d :: r ∧ ¬ IsHex d := by
    unfold IsHex
    rcases cases_of_isSingleDot hback with rfl | rfl | rfl
    · exact ⟨_, _, rfl, by decide⟩
    · exact ⟨_, _, rfl, by decide⟩
    · exact ⟨_, _, rfl, by decide⟩
  rw [decodeBytes_append hd, decodeBytes_of_isSingleDot hfront, decodeBytes_of_isSingleDot hback]
  rfl

/-- A segment that is resolved: one point or two, each possibly escaped. -/
def isPoint (s : List Char) : Bool := isSingleDot s || isDoubleDot s

theorem length_joinedBytes_parent (done : List (List Char)) :
    (joinedBytes (parent done)).length ≤ (joinedBytes done).length := by
  unfold parent
  split
  · split
    · exact Nat.le_refl _
    · exact ((List.dropLast_sublist done).flatMap _).length_le
  · exact Nat.le_refl _

theorem length_joinedBytes_cons (s : List Char) (r : List (List Char)) :
    (joinedBytes (s :: r)).length = 1 + (decodeBytes s).length + (joinedBytes r).length := by
  rw [joinedBytes_cons, List.length_append, List.length_cons]
  omega

/-- What one segment adds, if it is no point. -/
theorem length_joinedBytes_concat (done : List (List Char)) (s : List Char) :
    (joinedBytes (done ++ [s])).length =
      (joinedBytes done).length + 1 + (decodeBytes s).length := by
  rw [joinedBytes_append, List.length_append, length_joinedBytes_cons, joinedBytes_nil,
    List.length_nil]
  omega

theorem countP_isPoint_cons (s : List Char) (r : List (List Char)) :
    (s :: r).countP isPoint ≤ r.countP isPoint + 1 := by
  rw [List.countP_cons]
  split <;> omega

theorem countP_isPoint_cons_of_not {s : List Char} (hdouble : ¬ isDoubleDot s = true)
    (hsingle : ¬ isSingleDot s = true) (r : List (List Char)) :
    (s :: r).countP isPoint = r.countP isPoint :=
  List.countP_cons_of_neg (by simp [isPoint, hdouble, hsingle])

/-- **Every point that is resolved costs bytes.** -/
theorem length_joinedBytes_resolve (done ss : List (List Char)) :
    (joinedBytes (resolve done ss)).length + ss.countP isPoint ≤
      (joinedBytes done).length + (joinedBytes ss).length := by
  have hone : ∀ {s}, isSingleDot s = true → (decodeBytes s).length = 1 := fun h =>
    congrArg List.length (decodeBytes_of_isSingleDot h)
  have htwo : ∀ {s}, isDoubleDot s = true → (decodeBytes s).length = 2 := fun h =>
    congrArg List.length (decodeBytes_of_isDoubleDot h)
  fun_induction resolve done ss with
  | case1 done => simp
  | case2 done s hdouble =>
    have hs := htwo hdouble
    have hparent := length_joinedBytes_parent done
    have hcount := countP_isPoint_cons s []
    rw [List.countP_nil] at hcount
    rw [length_joinedBytes_concat, length_joinedBytes_cons, Percent.decodeBytes, List.length_nil]
    omega
  | case3 done s _ hsingle =>
    have hs := hone hsingle
    have hcount := countP_isPoint_cons s []
    rw [List.countP_nil] at hcount
    rw [length_joinedBytes_concat, length_joinedBytes_cons, Percent.decodeBytes, List.length_nil]
    omega
  | case4 done s hdouble hsingle =>
    rw [countP_isPoint_cons_of_not hdouble hsingle, List.countP_nil, length_joinedBytes_concat,
      length_joinedBytes_cons]
    omega
  | case5 done s r _ hdouble ih =>
    have hs := htwo hdouble
    have hparent := length_joinedBytes_parent done
    have hcount := countP_isPoint_cons s r
    rw [length_joinedBytes_cons]
    omega
  | case6 done s r _ _ hsingle ih =>
    have hs := hone hsingle
    have hcount := countP_isPoint_cons s r
    rw [length_joinedBytes_cons]
    omega
  | case7 done s r _ hdouble hsingle ih =>
    rw [countP_isPoint_cons_of_not hdouble hsingle, length_joinedBytes_cons]
    rw [length_joinedBytes_concat] at ih
    omega

/-- **The path of a text is read as no more bytes than the text**, and every point costs some. -/
theorem length_joinedBytes_segments (cs : List Char) :
    (joinedBytes (segments cs)).length + (rawSegments cs).countP isPoint ≤
      (decodeBytes cs).length + 1 := by
  have hresolve := length_joinedBytes_resolve [] (rawSegments cs)
  rw [joinedBytes_rawSegments, joinedBytes_nil, List.length_nil, List.length_cons] at hresolve
  rw [segments, ← rawSegments]
  omega

/-! ## Names -/

/-- What the path that a text gives is read as, without its first slash. -/
def readName (cs : List Char) : List UInt8 := decodeBytes ((pathOf cs).chars.drop 1)

/-- A name that goes through the reading of paths as it is. -/
structure KeptInPath (name : List Char) : Prop where
  /-- It holds no tab and no line break. -/
  counted : ∀ c ∈ name, isIgnored c = false
  /-- It begins with no mark of a query or a fragment. -/
  front : name.head? ≠ some '?' ∧ name.head? ≠ some '#'
  /-- No part between slashes is a point or two. -/
  parts : ∀ s ∈ name.splitOn '/', s ≠ ['.'] ∧ s ≠ ['.', '.']
  literal : ¬ HasEscape name

theorem pathOf_of_front {name : List Char} (hne : name ≠ []) (hslash : name.head? ≠ some '/')
    (hcounted : ∀ c ∈ name, isIgnored c = false)
    (hfront : name.head? ≠ some '?' ∧ name.head? ≠ some '#') :
    pathOf name = .rooted (segments name) := by
  have hfilter : name.filter (fun c => !isIgnored c) = name :=
    List.filter_eq_self.mpr fun c hc => by rw [hcounted c hc]; rfl
  have hrooted : rootedPath name = .rooted (segments name) := by
    unfold rootedPath
    split
    · exact absurd rfl hne
    · exact absurd rfl hslash
    · rfl
  unfold pathOf
  rw [hfilter]
  split
  · exact absurd rfl hfront.1
  · exact absurd rfl hfront.2
  · exact hrooted

/-- An escape in a part between slashes is one in the whole. -/
theorem hasEscape_of_mem_splitOn {cs s : List Char} (hs : s ∈ cs.splitOn '/') (h : HasEscape s) :
    HasEscape cs := by
  obtain ⟨before, after, hsplit⟩ := List.append_of_mem hs
  have hwhole := flatMap_splitOn cs
  rw [hsplit, List.flatMap_append, List.flatMap_cons] at hwhole
  have hslash : HasEscape ('/' :: cs) := by
    rw [← hwhole]
    simpa using h.append (before.flatMap ('/' :: ·) ++ ['/']) (after.flatMap ('/' :: ·))
  refine (Percent.hasEscape_cons_iff.mp hslash).resolve_left ?_
  rintro ⟨a, b, r, heq, -⟩
  cases heq

theorem isPoint_encode_of_kept {name : List Char} (h : KeptInPath name) :
    ∀ s ∈ rawSegments name, isSingleDot s = false ∧ isDoubleDot s = false := by
  intro s hs
  obtain ⟨t, ht, rfl⟩ := List.mem_map.mp hs
  have hread : decodeBytes (Percent.encode inPath t) = Text.Utf8.encode t := by
    rw [Percent.decodeBytes_encode_of_spares spares_inPath]
    exact Percent.decodeBytes_of_not_hasEscape fun he => h.literal (hasEscape_of_mem_splitOn ht he)
  constructor
  · by_contra hsingle
    rw [Bool.not_eq_false] at hsingle
    rw [decodeBytes_of_isSingleDot hsingle] at hread
    exact (h.parts t ht).1 (Text.Utf8.encode_injective hread.symm)
  · by_contra hdouble
    rw [Bool.not_eq_false] at hdouble
    rw [decodeBytes_of_isDoubleDot hdouble] at hread
    exact (h.parts t ht).2 (Text.Utf8.encode_injective hread.symm)

theorem readName_of_kept {name : List Char} (hne : name ≠ []) (hslash : name.head? ≠ some '/')
    (h : KeptInPath name) : readName name = Text.Utf8.encode name := by
  have hresolve : segments name = rawSegments name := resolve_eq (isPoint_encode_of_kept h) []
  rw [readName, pathOf_of_front hne hslash h.counted h.front, decodeBytes_drop_chars, hresolve,
    joinedBytes_rawSegments]
  exact Percent.decodeBytes_of_not_hasEscape h.literal

/-- The text that counts is no longer than the whole, and shorter if anything in it does not. -/
theorem length_encode_filter_lt {p : Char → Bool} {cs : List Char} {c : Char} (hc : c ∈ cs)
    (hp : p c = false) :
    (Text.Utf8.encode (cs.filter p)).length < (Text.Utf8.encode cs).length := by
  obtain ⟨before, after, rfl⟩ := List.append_of_mem hc
  have hpos := Percent.length_utf8EncodeChar_pos c
  have hle : ∀ ds : List Char,
      (Text.Utf8.encode (ds.filter p)).length ≤ (Text.Utf8.encode ds).length := fun ds =>
    (List.filter_sublist.flatMap _).length_le
  have hbefore := hle before
  have hafter := hle after
  rw [List.filter_append, List.filter_cons_of_neg (by simp [hp])]
  simp only [Text.Utf8.encode, List.flatMap_append, List.flatMap_cons, List.length_append]
    at hbefore hafter ⊢
  omega

theorem length_drop_segments (cs : List Char) :
    ((joinedBytes (segments cs)).drop 1).length ≤
      (decodeBytes cs).length - (rawSegments cs).countP isPoint := by
  have h := length_joinedBytes_segments cs
  rw [List.length_drop]
  omega

theorem length_rootedPath_le (cs : List Char) :
    (decodeBytes ((rootedPath cs).chars.drop 1)).length ≤ (Text.Utf8.encode cs).length := by
  unfold rootedPath
  split
  · exact Nat.le_refl _
  · rename_i r
    have hsegments := length_drop_segments r
    have hread := Percent.length_decodeBytes_le r
    rw [decodeBytes_drop_chars, Text.Utf8.encode_cons, List.length_append]
    omega
  · have hsegments := length_drop_segments cs
    have hread := Percent.length_decodeBytes_le cs
    rw [decodeBytes_drop_chars]
    omega

/-- A path is read as no more bytes than what counts in its text. -/
theorem length_readName_le (cs : List Char) : (readName cs).length ≤
    (Text.Utf8.encode (cs.filter fun c => !isIgnored c)).length := by
  unfold readName pathOf
  split
  · exact Nat.zero_le _
  · exact Nat.zero_le _
  · exact length_rootedPath_le _

theorem readName_of_mark {name : List Char} (hcounted : ∀ c ∈ name, isIgnored c = false)
    (h : name.head? = some '?' ∨ name.head? = some '#') : readName name = [] := by
  have hfilter : name.filter (fun c => !isIgnored c) = name :=
    List.filter_eq_self.mpr fun c hc => by rw [hcounted c hc]; rfl
  rw [readName, pathOf, hfilter]
  cases name with
  | nil => simp at h
  | cons c r =>
    rcases h with h | h
    · cases h
      rfl
    · cases h
      rfl

/-- A name that comes back has lost nothing. -/
theorem kept_of_readName {name : List Char} (hne : name ≠ []) (hslash : name.head? ≠ some '/')
    (h : readName name = Text.Utf8.encode name) : KeptInPath name := by
  have hpos : 0 < (Text.Utf8.encode name).length := by
    obtain ⟨c, r, rfl⟩ := List.exists_cons_of_ne_nil hne
    have hc := Percent.length_utf8EncodeChar_pos c
    rw [Text.Utf8.encode_cons, List.length_append]
    omega
  have hcounted : ∀ c ∈ name, isIgnored c = false := by
    intro c hc
    by_contra hignored
    have hlost := length_encode_filter_lt (p := fun c => !isIgnored c) hc (by simpa using hignored)
    have hle := length_readName_le name
    rw [h] at hle
    omega
  have hfront : name.head? ≠ some '?' ∧ name.head? ≠ some '#' := by
    constructor
    · intro hmark
      rw [readName_of_mark hcounted (.inl hmark)] at h
      rw [← h] at hpos
      cases hpos
    · intro hmark
      rw [readName_of_mark hcounted (.inr hmark)] at h
      rw [← h] at hpos
      cases hpos
  -- nothing is lost, so no point is resolved and no escape is read
  have hsegments := length_drop_segments name
  have hread := Percent.length_decodeBytes_le name
  rw [← decodeBytes_drop_chars, ← pathOf_of_front hne hslash hcounted hfront, ← readName, h]
    at hsegments
  have hpoints : (rawSegments name).countP isPoint = 0 := by omega
  have hno : ∀ t : List Char, Percent.encode inPath t = t → isPoint t = true →
      t ∉ name.splitOn '/' := by
    intro t ht hpoint hmem
    have hraw : t ∈ rawSegments name := List.mem_map.mpr ⟨t, hmem, ht⟩
    exact absurd hpoint (List.countP_eq_zero.mp hpoints t hraw)
  refine ⟨hcounted, hfront, fun s hs => ⟨?_, ?_⟩, fun hescape => ?_⟩
  · rintro rfl
    exact hno ['.'] rfl rfl hs
  · rintro rfl
    exact hno ['.', '.'] rfl rfl hs
  · have hlost := Percent.length_decodeBytes_lt hescape
    omega

/-- **A path is read as the name it was set to exactly for the names that are kept.** -/
theorem decode_pathOf_eq_ok_iff {name : String} (hne : name ≠ "")
    (hslash : name.toList.head? ≠ some '/') :
    Percent.decode ((pathOf name.toList).chars.drop 1) = .ok name ↔ KeptInPath name.toList := by
  have hnil : name.toList ≠ [] := by simpa using hne
  rw [Percent.decode, Text.Utf8.decode_eq_ok_iff]
  exact ⟨kept_of_readName hnil hslash, readName_of_kept hnil hslash⟩

end Url

end DbLifecycle
