import Mathlib
import DbLifecycle.Proofs.Url.Address
import DbLifecycle.Proofs.Url.Escape
import DbLifecycle.Url.Parser

/-!
# A URL is read as it is written

A URL whose parts are in their written forms is read from its text as the same URL: what separates
the parts is escaped in each of them.

* `Url.IsScheme`, `Url.IsHost`, `Url.Authority.Formed`, `Url.IsSegment`: parts in their written
  forms.
* `Url.Formed`: a URL with an authority whose parts are in their written forms.
* `Url.Authority.parse_chars`, `Url.rootedPath_chars`: authority and path are read as they are
  written.
* **`Url.parse_text`**: and so is the whole.
-/

namespace DbLifecycle

namespace Url

open Percent

/-! ## Written forms -/

/-- A scheme in lower case. -/
structure IsScheme (cs : List Char) : Prop where
  first : ∃ c r, cs = c :: r ∧ c.isAlpha = true
  allowed : ∀ c ∈ cs, isSchemeChar c = true
  lower : cs.map Char.toLower = cs

/-- A host: an address in brackets, or text that holds nothing that is forbidden or escaped. -/
inductive IsHost : List Char → Prop
  | address {ps : List Nat} (h : Address.Formed ps) : IsHost ('[' :: Address.chars ps ++ [']'])
  | name {cs : List Char} (hclean : Clean isControl cs)
      (hallowed : ∀ c ∈ cs, isForbiddenInHost c = false) : IsHost cs

/-- An authority whose parts are in their written forms. -/
structure Authority.Formed (a : Authority) : Prop where
  username : Clean inUserinfo a.username
  password : Clean inUserinfo a.password
  host : IsHost a.host
  port : ∀ n ∈ a.port, n ≤ 65535
  /-- Nothing else is given without a host. -/
  alone : a.host = [] → a.username = [] ∧ a.password = [] ∧ a.port = none

/-- A segment that stays as it is: it is not split, escaped or resolved. -/
structure IsSegment (s : List Char) : Prop where
  clean : Clean inPath s
  whole : '/' ∉ s
  single : isSingleDot s = false
  double : isDoubleDot s = false

/-- A path after an authority whose segments stay as they are. -/
inductive Path.Formed : Path → Prop
  | rooted {segments : List (List Char)} (h : ∀ s ∈ segments, IsSegment s) :
      Path.Formed (.rooted segments)

/-- A URL with an authority whose parts are in their written forms. -/
structure Formed (u : Url) : Prop where
  scheme : IsScheme u.scheme
  authority : ∃ a, u.authority = some a ∧ a.Formed
  path : u.path.Formed
  query : ∀ q ∈ u.query, Clean inQuery q
  fragment : ∀ f ∈ u.fragment, Clean inFragment f

/-! ## Characters that end a part -/

theorem takeWhile_append_cons {p : Char → Bool} {cs : List Char} (h : ∀ c ∈ cs, p c = true)
    {d : Char} (hd : p d = false) (r : List Char) :
    (cs ++ d :: r).takeWhile p = cs ∧ (cs ++ d :: r).dropWhile p = d :: r := by
  constructor
  · rw [List.takeWhile_append_of_pos h, List.takeWhile_cons_of_neg (by simp [hd]), List.append_nil]
  · rw [List.dropWhile_append_of_pos h, List.dropWhile_cons_of_neg (by simp [hd])]

theorem ne_of_notMem {cs : List Char} {d : Char} (h : d ∉ cs) : ∀ c ∈ cs, (c != d) = true :=
  fun _ hc => bne_iff_ne.mpr fun he => h (he ▸ hc)

/-- A text without a mark, and what follows the mark. -/
theorem splitMark_marked {mark : Char} {front : List Char} (h : mark ∉ front)
    (part : Option (List Char)) : splitMark mark (front ++ marked mark part) = (front, part) := by
  unfold splitMark
  cases part with
  | none =>
    have hall := List.dropWhile_eq_nil_iff.mpr (ne_of_notMem h)
    rw [marked, List.append_nil, hall]
  | some r =>
    obtain ⟨htake, hdrop⟩ := takeWhile_append_cons (ne_of_notMem h) (d := mark) (by simp) r
    rw [marked, hdrop, htake]

theorem splitParts_marked (front : List Char) (hq : '?' ∉ front) (hf : '#' ∉ front)
    {query : Option (List Char)} (hquery : ∀ q ∈ query, '#' ∉ q) (fragment : Option (List Char)) :
    splitParts (front ++ marked '?' query ++ marked '#' fragment) = (front, query, fragment) := by
  have hfront : '#' ∉ front ++ marked '?' query := by
    rw [List.mem_append]
    rintro (hmem | hmem)
    · exact hf hmem
    · cases query with
      | none => cases hmem
      | some q =>
        rcases List.mem_cons.mp hmem with heq | hmem
        · cases heq
        · exact hquery q rfl hmem
  unfold splitParts
  rw [splitMark_marked hfront]
  dsimp only
  rw [splitMark_marked hq]

/-! ## Scheme -/

theorem scheme?_append {cs : List Char} (h : IsScheme cs) (rest : List Char) :
    scheme? (cs ++ ':' :: rest) = some (cs, rest) := by
  obtain ⟨c, r, hcons, halpha⟩ := h.first
  obtain ⟨htake, hdrop⟩ := takeWhile_append_cons h.allowed (d := ':') (by decide) rest
  unfold scheme?
  rw [htake, hdrop, hcons]
  rw [hcons] at h
  simp only [halpha, if_true, h.lower]

/-! ## Host and port -/

theorem digitChar_cases {n : Nat} (h : n < 16) :
    n.digitChar ≠ '[' ∧ n.digitChar ≠ ']' ∧ n.digitChar ≠ '@' ∧ n.digitChar ≠ '/' ∧
      n.digitChar ≠ '?' ∧ n.digitChar ≠ '#' ∧ IsVisible n.digitChar := by
  unfold IsVisible
  revert n
  decide

namespace IsHost

variable {cs : List Char}

theorem mem (h : IsHost cs) {c : Char} (hc : c ∈ cs) :
    IsVisible c ∧ c ≠ '@' ∧ c ≠ '/' ∧ c ≠ '?' ∧ c ≠ '#' := by
  cases h with
  | @address ps hps =>
    simp only [List.cons_append, List.mem_cons, List.mem_append, List.not_mem_nil, or_false] at hc
    rcases hc with rfl | hc | rfl
    · unfold IsVisible
      decide
    · rcases Address.mem_chars hc with rfl | ⟨n, hn, rfl⟩
      · unfold IsVisible
        decide
      · obtain ⟨-, -, hat, hslash, hquery, hhash, hvisible⟩ := digitChar_cases hn
        exact ⟨hvisible, hat, hslash, hquery, hhash⟩
    · unfold IsVisible
      decide
  | name hclean hallowed =>
    have hno := hallowed c hc
    obtain ⟨hlt, hcontrol⟩ := hclean c hc
    simp only [isForbiddenInHost, Bool.or_eq_false_iff, beq_eq_false_iff_ne] at hno
    simp only [isControl, Bool.or_eq_false_iff, decide_eq_false_iff_not, beq_eq_false_iff_ne]
      at hcontrol
    have hblank : c.toNat ≠ 0x20 := fun heq => by
      have hc : c = ' ' := Char.toNat_inj.mp heq
      exact absurd hc (by simp_all)
    refine ⟨⟨by omega, by omega⟩, ?_⟩
    simp_all

/-- A host in its written form is read as itself. -/
theorem host_eq (h : IsHost cs) : host cs = .ok cs := by
  cases h with
  | @address ps hps =>
    have hlast : ('[' :: Address.chars ps ++ [']']).getLast? = some ']' :=
      List.getLast?_concat
    have hinner : (('[' :: Address.chars ps ++ [']']).drop 1).dropLast = Address.chars ps := by simp
    unfold host
    rw [if_pos (by rfl), if_pos hlast, hinner, Address.parse?_chars hps]
  | name hclean hallowed =>
    have hhead : cs.head? ≠ some '[' := fun heq => by
      have hno := hallowed '[' (List.mem_of_head? heq)
      revert hno
      decide
    have hany : cs.any isForbiddenInHost = false := by simpa using hallowed
    unfold host
    rw [if_neg hhead, hany, encode_of_clean hclean]
    rfl

end IsHost

/-- Outside brackets the first colon ends the host. -/
theorem splitHost_outside {cs : List Char} (h : ∀ c ∈ cs, c ≠ ':' ∧ c ≠ '[' ∧ c ≠ ']')
    {rest : List Char} (hrest : ∀ c ∈ rest.head?, c = ':') :
    splitHost false (cs ++ rest) = (cs, rest) := by
  induction cs with
  | nil =>
    cases rest with
    | nil => rfl
    | cons c r =>
      obtain rfl := hrest c rfl
      rfl
  | cons c r ih =>
    obtain ⟨hcolon, hleft, hright⟩ := h c (by simp)
    have htail := ih fun d hd => h d (by simp [hd])
    rw [List.cons_append, splitHost, if_neg (fun hc => hcolon hc.1), if_neg hleft, if_neg hright,
      htail]

/-- Inside brackets colons belong to the host. -/
theorem splitHost_inside {cs : List Char} (h : ∀ c ∈ cs, c ≠ '[' ∧ c ≠ ']') {rest : List Char}
    (hrest : ∀ c ∈ rest.head?, c = ':') :
    splitHost true (cs ++ ']' :: rest) = (cs ++ [']'], rest) := by
  induction cs with
  | nil =>
    have hend : splitHost false ([] ++ rest) = ([], rest) := splitHost_outside (by simp) hrest
    rw [List.nil_append] at hend
    simp [splitHost, hend]
  | cons c r ih =>
    obtain ⟨hleft, hright⟩ := h c (by simp)
    have htail := ih fun d hd => h d (by simp [hd])
    rw [List.cons_append, splitHost, if_neg (by simp), if_neg hleft, if_neg hright, htail]
    rfl

theorem IsHost.splitHost_append {cs : List Char} (h : IsHost cs) {rest : List Char}
    (hrest : ∀ c ∈ rest.head?, c = ':') : splitHost false (cs ++ rest) = (cs, rest) := by
  cases h with
  | @address ps hps =>
    have hin : ∀ c ∈ Address.chars ps, c ≠ '[' ∧ c ≠ ']' := by
      intro c hc
      rcases Address.mem_chars hc with rfl | ⟨n, hn, rfl⟩
      · decide
      · exact ⟨(digitChar_cases hn).1, (digitChar_cases hn).2.1⟩
    have htail := splitHost_inside hin hrest
    rw [List.append_assoc, List.cons_append, List.singleton_append, splitHost, if_neg (by simp),
      if_pos rfl, htail]
    rfl
  | name hclean hallowed =>
    refine splitHost_outside (fun c hc => ?_) hrest
    have hno := hallowed c hc
    simp only [isForbiddenInHost, Bool.or_eq_false_iff, beq_eq_false_iff_ne] at hno
    simp_all

theorem port_toDigits {n : Nat} (hn : n ≤ 65535) : port (Nat.toDigits 10 n) = .ok (some n, []) := by
  have hdigits : ∀ c ∈ Nat.toDigits 10 n, c.isDigit = true := fun c hc =>
    Text.isDigit_of_mem_toDigits hc
  have htake : (Nat.toDigits 10 n).takeWhile Char.isDigit = Nat.toDigits 10 n :=
    List.takeWhile_eq_self_iff.mpr hdigits
  have hdrop : (Nat.toDigits 10 n).dropWhile Char.isDigit = [] :=
    List.dropWhile_eq_nil_iff.mpr hdigits
  have hne : (Nat.toDigits 10 n).isEmpty = false := by simp
  unfold port
  rw [htake, hdrop]
  simp [Text.Integer.ofDigits_toDigits, Nat.not_lt.mpr hn, hne]

theorem mem_portChars {number : Option Nat} {c : Char} (h : c ∈ portChars number) :
    IsVisible c ∧ c ≠ '@' ∧ c ≠ '/' ∧ c ≠ '?' ∧ c ≠ '#' := by
  cases number with
  | none => cases h
  | some n =>
    rcases List.mem_cons.mp h with rfl | h
    · unfold IsVisible
      decide
    · obtain ⟨m, hm, rfl⟩ := Text.exists_digitChar_of_mem (by decide) h
      obtain ⟨-, -, hat, hslash, hquery, hhash, hvisible⟩ := digitChar_cases (by omega : m < 16)
      exact ⟨hvisible, hat, hslash, hquery, hhash⟩

/-- Host and port are read as they are written. -/
theorem hostAndPort_chars {name : List Char} (h : IsHost name) {number : Option Nat}
    (hport : ∀ n ∈ number, n ≤ 65535) (halone : name = [] → number = none) :
    hostAndPort (name ++ portChars number) = .ok (name, number, []) := by
  have hrest : ∀ c ∈ (portChars number).head?, c = ':' := by
    cases number <;> simp [portChars]
  unfold hostAndPort
  rw [h.splitHost_append hrest]
  simp only [h.host_eq]
  cases number with
  | none => rfl
  | some n =>
    have hname : name.isEmpty = false := by
      cases name with
      | nil => cases halone rfl
      | cons c r => rfl
    have hread := port_toDigits (hport n rfl)
    simp only [portChars, hname, bind, Except.bind, hread]
    rfl

/-! ## Authority -/

theorem splitLastAt_of_notMem {cs : List Char} (h : '@' ∉ cs) : splitLastAt cs = none := by
  unfold splitLastAt
  rw [if_neg (by simpa using h)]

theorem splitLastAt_append {before after : List Char} (h : '@' ∉ after) :
    splitLastAt (before ++ '@' :: after) = some (before, after) := by
  have hrev : (before ++ '@' :: after).reverse = after.reverse ++ '@' :: before.reverse := by simp
  have hafter : '@' ∉ after.reverse := by simpa using h
  have htake := (takeWhile_append_cons (ne_of_notMem hafter) (d := '@') (by simp)
    before.reverse).1
  have hlen : (before ++ '@' :: after).length - after.length - 1 = before.length := by
    rw [List.length_append, List.length_cons]
    omega
  unfold splitLastAt
  rw [hrev, htake, List.reverse_reverse, if_pos (by simp), hlen, List.take_left]

/-- User name and password are split at the colon between them. -/
theorem splitUserinfo_append {user : List Char} (h : ':' ∉ user) (password : List Char) :
    splitUserinfo (user ++ if password.isEmpty then [] else ':' :: password) =
      (user, password) := by
  unfold splitUserinfo
  cases password with
  | nil =>
    have htake : user.takeWhile (· != ':') = user := List.takeWhile_eq_self_iff.mpr (ne_of_notMem h)
    have hdrop : user.dropWhile (· != ':') = [] := List.dropWhile_eq_nil_iff.mpr (ne_of_notMem h)
    rw [List.isEmpty_nil, if_pos rfl, List.append_nil, htake, hdrop]
    rfl
  | cons c r =>
    obtain ⟨htake, hdrop⟩ := takeWhile_append_cons (ne_of_notMem h) (d := ':') (by simp) (c :: r)
    rw [List.isEmpty_cons, if_neg Bool.false_ne_true, htake, hdrop]
    rfl

/-- The last at sign is the one behind the user information. -/
theorem Authority.Formed.at_notMem {a : Authority} (h : a.Formed) :
    '@' ∉ a.host ++ portChars a.port := by
  rw [List.mem_append]
  rintro (hmem | hmem)
  · exact (h.host.mem hmem).2.1 rfl
  · exact (mem_portChars hmem).2.1 rfl

/-- **An authority is read as it is written.** -/
theorem Authority.parse_chars {a : Authority} (h : a.Formed) (followed : Bool) :
    Authority.parse a.chars followed = .ok (a, []) := by
  have hat := h.at_notMem
  have hhost := hostAndPort_chars h.host h.port fun hn => (h.alone hn).2.2
  have halone := h.alone
  have huser := encode_of_clean h.username
  have hpassword := encode_of_clean h.password
  have hcolon : ':' ∉ a.username := h.username.notMem (by decide)
  obtain ⟨user, password, name, number⟩ := a
  dsimp only at hat hhost halone huser hpassword hcolon
  unfold Authority.parse Authority.chars Authority.userinfo
  dsimp only
  by_cases hempty : user.isEmpty ∧ password.isEmpty
  · obtain ⟨rfl, rfl⟩ : user = [] ∧ password = [] := by simpa using hempty
    rw [if_pos ⟨rfl, rfl⟩, List.nil_append, splitLastAt_of_notMem hat]
    simp only [bind, Except.bind, hhost]
    rw [if_neg (by simp)]
  · have hname : ¬ (name.isEmpty ∧ ¬ (user.isEmpty ∧ password.isEmpty)) := by
      rintro ⟨hn, -⟩
      obtain ⟨rfl, rfl, -⟩ := halone (by simpa using hn)
      exact hempty ⟨rfl, rfl⟩
    have hsplit := splitUserinfo_append hcolon password
    obtain ⟨c, r, hbefore⟩ : ∃ c r,
        user ++ (if password.isEmpty then [] else ':' :: password) = c :: r := by
      cases user with
      | cons c r => exact ⟨c, _, rfl⟩
      | nil =>
        cases password with
        | nil => exact absurd ⟨rfl, rfl⟩ hempty
        | cons c r => exact ⟨':', _, rfl⟩
    rw [if_neg hempty, List.append_assoc, List.append_assoc, List.singleton_append,
      splitLastAt_append hat, hbefore]
    rw [hbefore] at hsplit
    simp only [bind, Except.bind, hsplit, huser, hpassword, hhost]
    rw [if_neg hname]

theorem Authority.Formed.mem_chars {a : Authority} (h : a.Formed) {c : Char} (hc : c ∈ a.chars) :
    IsVisible c ∧ c ≠ '/' ∧ c ≠ '?' ∧ c ≠ '#' := by
  have hpart : ∀ cs, Clean inUserinfo cs → c ∈ cs → IsVisible c ∧ c ≠ '/' ∧ c ≠ '?' ∧ c ≠ '#' := by
    intro cs hclean hmem
    refine ⟨isVisible_of_clean hclean ?_ (by decide) c hmem, ?_, ?_, ?_⟩
    · intro d hd
      simp [inUserinfo, inPath, inFragment, hd]
    all_goals
      rintro rfl
      exact hclean.notMem (by decide) hmem
  have hmark : ∀ d ∈ [':', '@'], IsVisible d ∧ d ≠ '/' ∧ d ≠ '?' ∧ d ≠ '#' := by
    rw [List.forall_mem_cons, List.forall_mem_singleton]
    unfold IsVisible
    decide
  unfold Authority.chars Authority.userinfo at hc
  simp only [List.mem_append] at hc
  rcases hc with (hc | hc) | hc
  · split at hc
    · cases hc
    · simp only [List.mem_append, List.mem_singleton] at hc
      rcases hc with (hc | hc) | rfl
      · exact hpart _ h.username hc
      · split at hc
        · cases hc
        · rcases List.mem_cons.mp hc with rfl | hc
          · exact hmark _ (by simp)
          · exact hpart _ h.password hc
      · exact hmark _ (by simp)
  · obtain ⟨hvisible, -, hno⟩ := h.host.mem hc
    exact ⟨hvisible, hno⟩
  · obtain ⟨hvisible, -, hno⟩ := mem_portChars hc
    exact ⟨hvisible, hno⟩

/-! ## Path -/

/-- Segments without points stay. -/
theorem resolve_eq {ss : List (List Char)}
    (h : ∀ s ∈ ss, isSingleDot s = false ∧ isDoubleDot s = false) (done : List (List Char)) :
    resolve done ss = done ++ ss := by
  induction ss generalizing done with
  | nil => rw [resolve, List.append_nil]
  | cons s r ih =>
    obtain ⟨hsingle, hdouble⟩ := h s (by simp)
    have hrest := ih (fun t ht => h t (by simp [ht])) (done ++ [s])
    cases r with
    | nil => simp [resolve, hsingle, hdouble]
    | cons t r =>
      rw [resolve, if_neg (by simp [hdouble]), if_neg (by simp [hsingle]), hrest,
        List.append_assoc, List.singleton_append]
      simp

theorem flatMap_slash (s : List Char) (r : List (List Char)) :
    (s :: r).flatMap ('/' :: ·) = '/' :: ['/'].intercalate (s :: r) := by
  induction r generalizing s with
  | nil => simp
  | cons t r ih =>
    rw [List.flatMap_cons, ih, List.intercalate_cons_cons]
    simp

/-- **A path is read as it is written.** -/
theorem rootedPath_chars {p : Path} (h : p.Formed) : rootedPath p.chars = p := by
  obtain ⟨hs⟩ := h
  rename_i ss
  cases ss with
  | nil => rfl
  | cons s r =>
    have hsplit : (['/'].intercalate (s :: r)).splitOn '/' = s :: r :=
      List.splitOn_intercalate '/' (fun t ht => (hs t ht).whole) (by simp)
    have hencode : (s :: r).map (Percent.encode inPath) = s :: r := by
      refine (List.map_congr_left fun t ht => ?_).trans (List.map_id _)
      exact encode_of_clean (hs t ht).clean
    have hresolve := resolve_eq (fun t ht => ⟨(hs t ht).single, (hs t ht).double⟩) []
    rw [Path.chars, flatMap_slash, rootedPath, segments, hsplit, hencode, hresolve, List.nil_append]

theorem Path.Formed.mem_chars {p : Path} (h : p.Formed) {c : Char} (hc : c ∈ p.chars) :
    IsVisible c ∧ c ≠ '?' ∧ c ≠ '#' := by
  obtain ⟨hs⟩ := h
  obtain ⟨s, hmem, hc⟩ := List.mem_flatMap.mp hc
  have hclean := (hs s hmem).clean
  rcases List.mem_cons.mp hc with rfl | hc
  · unfold IsVisible
    decide
  · refine ⟨isVisible_of_clean hclean ?_ (by decide) c hc, ?_, ?_⟩
    · intro d hd
      simp [inPath, inFragment, hd]
    all_goals
      rintro rfl
      exact hclean.notMem (by decide) hc

theorem Path.Formed.head?_chars {p : Path} (h : p.Formed) : ∀ c ∈ p.chars.head?, c = '/' := by
  obtain ⟨hs⟩ := h
  rename_i ss
  cases ss with
  | nil => simp [Path.chars]
  | cons s r => simp [Path.chars]

/-- Authority and path are read as they are written. -/
theorem hierarchy_chars {a : Authority} {p : Path} (ha : a.Formed) (hp : p.Formed)
    (followed : Bool) : hierarchy ('/' :: '/' :: (a.chars ++ p.chars)) followed =
      .ok (some a, p) := by
  have hslash : ∀ c ∈ a.chars, (c != '/') = true := fun c hc =>
    bne_iff_ne.mpr (ha.mem_chars hc).2.1
  obtain ⟨htake, hdrop⟩ : (a.chars ++ p.chars).takeWhile (· != '/') = a.chars ∧
      (a.chars ++ p.chars).dropWhile (· != '/') = p.chars := by
    cases hp' : p.chars with
    | nil =>
      rw [List.append_nil]
      exact ⟨List.takeWhile_eq_self_iff.mpr hslash, List.dropWhile_eq_nil_iff.mpr hslash⟩
    | cons c r =>
      obtain rfl : c = '/' := hp.head?_chars c (by rw [hp']; rfl)
      exact takeWhile_append_cons hslash (by simp) r
  unfold hierarchy
  simp only [htake, hdrop, Authority.parse_chars ha, bind, Except.bind, List.nil_append,
    rootedPath_chars hp]

/-! ## Whole URLs -/

theorem dropWhile_eq_self {p : Char → Bool} {cs : List Char} (h : ∀ c ∈ cs, p c = false) :
    cs.dropWhile p = cs := by
  cases cs with
  | nil => rfl
  | cons c r => exact List.dropWhile_cons_of_neg (by simp [h c])

theorem IsVisible.isTrimmed {c : Char} (h : IsVisible c) : Url.isTrimmed c = false := by
  have hlt := h.1
  simp only [Url.isTrimmed, decide_eq_false_iff_not]
  omega

theorem IsVisible.isIgnored {c : Char} (h : IsVisible c) : Url.isIgnored c = false := by
  have hlt := h.1
  simp only [Url.isIgnored, Bool.or_eq_false_iff, beq_eq_false_iff_ne]
  refine ⟨⟨?_, ?_⟩, ?_⟩ <;>
    rintro rfl <;>
    exact absurd hlt (by decide)

theorem kept_of_visible {cs : List Char} (h : ∀ c ∈ cs, IsVisible c) :
    (cs.dropWhile isTrimmed).filter (fun c => !isIgnored c) = cs := by
  rw [dropWhile_eq_self fun c hc => (h c hc).isTrimmed]
  exact List.filter_eq_self.mpr fun c hc => by rw [(h c hc).isIgnored]; rfl

/-- All visible characters count. -/
theorem significant_of_visible {cs : List Char} (h : ∀ c ∈ cs, IsVisible c) :
    significant cs = cs := by
  have hrev : cs.reverse.dropWhile isTrimmed = cs.reverse :=
    dropWhile_eq_self fun c hc => (h c (by simpa using hc)).isTrimmed
  have hkept := kept_of_visible h
  rw [dropWhile_eq_self fun c hc => (h c hc).isTrimmed] at hkept
  unfold significant
  rw [dropWhile_eq_self fun c hc => (h c hc).isTrimmed, hrev, List.reverse_reverse, hkept]

theorem isVisible_of_isSchemeChar {c : Char} (h : isSchemeChar c = true) : IsVisible c := by
  unfold IsVisible
  simp only [isSchemeChar, Char.isAlphanum, Char.isAlpha, Char.isUpper, Char.isLower, Char.isDigit,
    Bool.or_eq_true, decide_eq_true_eq, Bool.and_eq_true, beq_iff_eq] at h
  have hrange : ∀ {low high : UInt32}, low ≤ c.val → c.val ≤ high →
      low.toNat ≤ c.toNat ∧ c.toNat ≤ high.toNat := fun hlow hhigh =>
    ⟨UInt32.le_iff_toNat_le.mp hlow, UInt32.le_iff_toNat_le.mp hhigh⟩
  rcases h with ((((⟨hlow, hhigh⟩ | ⟨hlow, hhigh⟩) | ⟨hlow, hhigh⟩) | rfl) | rfl) | rfl
  · have hc : 65 ≤ c.toNat ∧ c.toNat ≤ 90 := hrange hlow hhigh
    omega
  · have hc : 97 ≤ c.toNat ∧ c.toNat ≤ 122 := hrange hlow hhigh
    omega
  · have hc : 48 ≤ c.toNat ∧ c.toNat ≤ 57 := hrange hlow hhigh
    omega
  · decide
  · decide
  · decide

/-- The characters of a part with its mark. -/
theorem mem_marked {set : Char → Bool} {mark : Char} {part : Option (List Char)}
    (h : ∀ cs ∈ part, Clean set cs) (hcontrol : ∀ c, isControl c = true → set c = true)
    (hblank : set ' ' = true) (hmark : IsVisible mark) {c : Char} (hc : c ∈ marked mark part) :
    IsVisible c := by
  cases part with
  | none => cases hc
  | some cs =>
    rcases List.mem_cons.mp hc with rfl | hc
    · exact hmark
    · exact isVisible_of_clean (h cs rfl) hcontrol hblank c hc

/-- **A URL is read as it is written.** -/
theorem parse_text {u : Url} (h : u.Formed) : parse u.text = .ok u := by
  obtain ⟨scheme, authority, path, query, fragment⟩ := u
  obtain ⟨hscheme, ⟨a, ha', ha⟩, hpath, hquery, hfragment⟩ := h
  dsimp only at hscheme ha' hpath hquery hfragment
  subst ha'
  have hchars : Url.chars ⟨scheme, some a, path, query, fragment⟩ = scheme ++ ':' ::
      ('/' :: '/' :: (a.chars ++ path.chars) ++ marked '?' query ++ marked '#' fragment) := by
    simp [Url.chars]
  have hfront : ∀ c ∈ '/' :: '/' :: (a.chars ++ path.chars), IsVisible c ∧ c ≠ '?' ∧ c ≠ '#' := by
    intro c hc
    simp only [List.mem_cons, List.mem_append] at hc
    rcases hc with rfl | rfl | hc | hc
    · unfold IsVisible
      decide
    · unfold IsVisible
      decide
    · obtain ⟨hvisible, -, hno⟩ := ha.mem_chars hc
      exact ⟨hvisible, hno⟩
    · exact hpath.mem_chars hc
  have hmark : ∀ c ∈ [':', '?', '#'], IsVisible c := by
    rw [List.forall_mem_cons, List.forall_mem_cons, List.forall_mem_singleton]
    unfold IsVisible
    decide
  have hvisible : ∀ c ∈ Url.chars ⟨scheme, some a, path, query, fragment⟩, IsVisible c := by
    intro c hc
    rw [hchars, List.mem_append, List.mem_cons, List.mem_append, List.mem_append] at hc
    rcases hc with hc | rfl | (hc | hc) | hc
    · exact isVisible_of_isSchemeChar (hscheme.allowed c hc)
    · exact hmark _ (by simp)
    · exact (hfront c hc).1
    · exact mem_marked hquery (fun d hd => by simp [inQuery, hd]) (by decide) (hmark _ (by simp)) hc
    · exact mem_marked hfragment (fun d hd => by simp [inFragment, hd]) (by decide)
        (hmark _ (by simp)) hc
  have hsplit := splitParts_marked ('/' :: '/' :: (a.chars ++ path.chars))
    (fun hmem => (hfront _ hmem).2.1 rfl) (fun hmem => (hfront _ hmem).2.2 rfl)
    (fun q hq => (hquery q hq).notMem (by decide)) fragment
  have hmap : ∀ {set : Char → Bool} {part : Option (List Char)}, (∀ cs ∈ part, Clean set cs) →
      part.map (Percent.encode set) = part := by
    intro set part hpart
    cases part with
    | none => rfl
    | some cs => exact congrArg some (encode_of_clean (hpart cs rfl))
  unfold parse text
  rw [String.toList_ofList, significant_of_visible hvisible, hchars, scheme?_append hscheme]
  simp only [hsplit, hierarchy_chars ha hpath, bind, Except.bind, hmap hquery, hmap hfragment]

end Url

end DbLifecycle
