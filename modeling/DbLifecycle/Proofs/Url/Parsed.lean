import Mathlib
import DbLifecycle.Proofs.Url.Written
import DbLifecycle.Proofs.Walk
import DbLifecycle.Url.Update

/-!
# What is read is in written form

Reading puts every part of a URL with an authority into its written form, and so does every change
of a part. So whatever was read and changed is read again from its text as it is.

* `Url.isScheme_of_scheme?`, `Url.isHost_of_host`, `Url.Authority.formed_of_parse`,
  `Url.isSegment_of_mem_segments`: the parts that are read.
* **`Url.formed_of_parse`**: what is read is in written form.
* `Url.Formed.setUsername?`, `Url.Formed.setPassword?`, `Url.Formed.setPort?`, `Url.Formed.setPath`:
  so is what is changed.
-/

namespace DbLifecycle

namespace Url

open Percent

/-! ## Scheme -/

theorem isSchemeChar_toLower {c : Char} (h : isSchemeChar c = true) :
    isSchemeChar c.toLower = true := by
  cases halpha : c.isAlpha with
  | true =>
    have hlower : c.toLower.isAlpha = true := by rw [Char.isAlpha_toLower_eq_isAlpha, halpha]
    simp [isSchemeChar, Char.isAlphanum, hlower]
  | false =>
    have hupper : ¬ c.isUpper = true := by
      intro hup
      rw [Char.isAlpha, hup, Bool.true_or] at halpha
      cases halpha
    rwa [Char.toLower_eq_of_not_isUpper hupper]

theorem isScheme_of_scheme? {cs s rest : List Char} (h : scheme? cs = some (s, rest)) :
    IsScheme s := by
  unfold scheme? at h
  split at h
  · rename_i c r rest' htake hdrop
    split at h
    · rename_i halpha
      obtain ⟨rfl, -⟩ := Prod.mk.inj (Option.some.inj h)
      refine ⟨⟨c.toLower, r.map Char.toLower, rfl, ?_⟩, fun d hd => ?_, ?_⟩
      · rwa [Char.isAlpha_toLower_eq_isAlpha]
      · obtain ⟨e, he, rfl⟩ := List.mem_map.mp hd
        rw [← htake] at he
        exact isSchemeChar_toLower (List.mem_takeWhile_imp he)
      · rw [List.map_map]
        exact List.map_congr_left fun d _ => Char.toLower_toLower_eq_toLower d
    · cases h
  · cases h

/-! ## Authority -/

theorem isHost_of_host {cs name : List Char} (h : host cs = .ok name) : IsHost name := by
  unfold host at h
  split at h
  · split at h
    · split at h
      · rename_i ps hps
        cases h
        exact .address (Address.formed_of_parse? hps)
      · cases h
    · cases h
  · split at h
    · cases h
    · rename_i hany
      cases h
      have hdigit : ∀ n < 16, isForbiddenInHost (Text.hexDigit n) = false := by decide
      refine .name (clean_encode sober_isControl cs) fun c hc => ?_
      rcases mem_encode hc with ⟨hmem, -⟩ | rfl | ⟨n, hn, rfl⟩
      · simp only [List.any_eq_true, not_exists, not_and, Bool.not_eq_true] at hany
        exact hany c hmem
      · rfl
      · exact hdigit n hn

theorem le_of_port {cs rest : List Char} {number : Option Nat} (h : port cs = .ok (number, rest)) :
    ∀ n ∈ number, n ≤ 65535 := by
  unfold port at h
  dsimp only at h
  split at h
  · cases h
  · split at h
    · obtain ⟨rfl, -⟩ := Prod.mk.inj (Except.ok.inj h)
      intro n hn
      split at hn
      · cases hn
      · cases hn
        omega
    · cases h

theorem hostAndPort_spec {cs name rest : List Char} {number : Option Nat}
    (h : hostAndPort cs = .ok (name, number, rest)) :
    IsHost name ∧ (∀ n ∈ number, n ≤ 65535) ∧ (name = [] → number = none) := by
  unfold hostAndPort at h
  obtain ⟨name', hname, h⟩ := bind_eq_ok_iff.mp h
  split at h
  · cases h
    exact ⟨isHost_of_host hname, by simp, fun _ => rfl⟩
  · split at h
    · cases h
    · rename_i hne
      obtain ⟨⟨number', rest'⟩, hport, h⟩ := bind_eq_ok_iff.mp h
      cases h
      exact ⟨isHost_of_host hname, le_of_port hport, fun he => absurd (by rw [he]; rfl) hne⟩

/-- **The parts of an authority that is read are in their written forms.** -/
theorem Authority.formed_of_parse {cs more : List Char} {followed : Bool} {a : Authority}
    (h : Authority.parse cs followed = .ok (a, more)) : a.Formed := by
  -- what comes after the user information, whatever that is
  have hfinish : ∀ {user password rest : List Char}, Clean inUserinfo user →
      Clean inUserinfo password →
      (hostAndPort rest >>= fun r =>
        if r.1.isEmpty ∧ ¬(user.isEmpty ∧ password.isEmpty) then .error .emptyHost
        else .ok (⟨user, password, r.1, r.2.1⟩, r.2.2)) = Except.ok (a, more) → a.Formed := by
    intro user password rest huser hpassword hrest
    obtain ⟨⟨name, number, rest'⟩, hname, hrest⟩ := bind_eq_ok_iff.mp hrest
    obtain ⟨hhost, hport, hnone⟩ := hostAndPort_spec hname
    split at hrest
    · cases hrest
    · rename_i halone
      cases hrest
      refine ⟨huser, hpassword, hhost, hport, fun he => ?_⟩
      obtain rfl : name = [] := he
      have hempty : user.isEmpty = true ∧ password.isEmpty = true := by
        simpa using halone
      exact ⟨by simpa using hempty.1, by simpa using hempty.2, hnone rfl⟩
  have hnil : Clean inUserinfo [] := fun c hc => by cases hc
  unfold Authority.parse at h
  dsimp only at h
  split at h
  · exact hfinish hnil hnil h
  · split at h
    · cases h
    · exact hfinish hnil hnil h
  · exact hfinish (clean_encode sober_inUserinfo _) (clean_encode sober_inUserinfo _) h

/-! ## Path -/

theorem notMem_of_mem_splitOn {d : Char} {cs s : List Char} (h : s ∈ cs.splitOn d) : d ∉ s := by
  induction cs generalizing s with
  | nil =>
    rw [List.splitOn_nil, List.mem_singleton] at h
    rw [h]
    exact List.not_mem_nil
  | cons c r ih =>
    rw [List.splitOn_cons_eq_if_modifyHead] at h
    split at h
    · rcases List.mem_cons.mp h with rfl | h
      · exact List.not_mem_nil
      · exact ih h
    · rename_i hc
      cases hr : r.splitOn d with
      | nil => exact absurd hr (List.splitOn_ne_nil d r)
      | cons first rest =>
        rw [hr, List.modifyHead_cons] at h
        rcases List.mem_cons.mp h with rfl | h
        · intro hmem
          rcases List.mem_cons.mp hmem with rfl | hmem
          · simp at hc
          · exact ih (by rw [hr]; simp) hmem
        · exact ih (by rw [hr]; simp [h])

theorem mem_parent {done : List (List Char)} {s : List Char} (h : s ∈ parent done) : s ∈ done := by
  unfold parent at h
  split at h
  · split at h
    · exact h
    · exact List.dropLast_subset done h
  · exact h

theorem isSegment_nil : IsSegment [] where
  clean c hc := by cases hc
  whole := List.not_mem_nil
  single := rfl
  double := rfl

/-- No segment that is left is a point, and none was written that was not there. -/
theorem isSegment_of_mem_resolve {done ss : List (List Char)} (hdone : ∀ s ∈ done, IsSegment s)
    (hss : ∀ s ∈ ss, Clean inPath s ∧ '/' ∉ s) : ∀ s ∈ resolve done ss, IsSegment s := by
  have hparent : ∀ {done : List (List Char)}, (∀ s ∈ done, IsSegment s) →
      ∀ s ∈ parent done, IsSegment s := fun h s hs => h s (mem_parent hs)
  have hconcat : ∀ {done : List (List Char)} {s : List Char}, (∀ t ∈ done, IsSegment t) →
      IsSegment s → ∀ t ∈ done ++ [s], IsSegment t := fun h hs t ht =>
    (List.mem_append.mp ht).elim (h t) fun ht => List.mem_singleton.mp ht ▸ hs
  induction ss generalizing done with
  | nil => exact hdone
  | cons s r ih =>
    have hs : isDoubleDot s = false → isSingleDot s = false → IsSegment s := fun hdouble hsingle =>
      ⟨(hss s (by simp)).1, (hss s (by simp)).2, hsingle, hdouble⟩
    have ih := fun {done} (h : ∀ s ∈ done, IsSegment s) =>
      ih h fun t ht => hss t (by simp [ht])
    cases r with
    | nil =>
      rw [resolve]
      split
      · exact hconcat (hparent hdone) isSegment_nil
      · rename_i hdouble
        split
        · exact hconcat hdone isSegment_nil
        · rename_i hsingle
          exact hconcat hdone (hs (by simpa using hdouble) (by simpa using hsingle))
    | cons t r =>
      rw [resolve]
      · split
        · exact ih (hparent hdone)
        · rename_i hdouble
          split
          · exact ih hdone
          · rename_i hsingle
            exact ih (hconcat hdone (hs (by simpa using hdouble) (by simpa using hsingle)))
      · simp

theorem isSegment_of_mem_segments (cs : List Char) : ∀ s ∈ segments cs, IsSegment s := by
  refine isSegment_of_mem_resolve (fun s hs => by cases hs) fun s hs => ?_
  obtain ⟨t, ht, rfl⟩ := List.mem_map.mp hs
  exact ⟨clean_encode sober_inPath t,
    notMem_encode (by decide) (by decide) (notMem_of_mem_splitOn ht)⟩

theorem formed_rootedPath (cs : List Char) : (rootedPath cs).Formed := by
  unfold rootedPath
  split
  · exact ⟨fun s hs => by cases hs⟩
  · exact ⟨isSegment_of_mem_segments _⟩
  · exact ⟨isSegment_of_mem_segments _⟩

theorem formed_pathOf (cs : List Char) : (pathOf cs).Formed := by
  unfold pathOf
  split
  · exact ⟨fun s hs => by cases hs⟩
  · exact ⟨fun s hs => by cases hs⟩
  · exact formed_rootedPath _

/-! ## Whole URLs -/

/-- **What is read is in written form**, if it has an authority. -/
theorem formed_of_parse {s : String} {u : Url} (h : parse s = .ok u)
    (ha : u.authority.isSome = true) : u.Formed := by
  unfold parse at h
  split at h
  · cases h
  · rename_i scheme rest hscheme
    obtain ⟨⟨authority, path⟩, hhier, h⟩ := bind_eq_ok_iff.mp h
    cases h
    have hmap : ∀ {set : Char → Bool} {part : Option (List Char)}, Sober set →
        ∀ cs ∈ part.map (Percent.encode set), Clean set cs := by
      intro set part hset cs hcs
      obtain ⟨t, -, rfl⟩ := Option.map_eq_some_iff.mp hcs
      exact clean_encode hset t
    unfold hierarchy at hhier
    split at hhier
    · obtain ⟨⟨a, more⟩, hparse, hhier⟩ := bind_eq_ok_iff.mp hhier
      cases hhier
      exact ⟨isScheme_of_scheme? hscheme, ⟨a, rfl, Authority.formed_of_parse hparse⟩,
        formed_rootedPath _, hmap sober_inQuery, hmap sober_inFragment⟩
    · cases hhier
      cases ha
    · cases hhier
      cases ha

namespace Formed

variable {u v : Url}

theorem withHost? (h : u.Formed) {f : Authority → Authority}
    (hf : ∀ a : Authority, a.Formed → a.host ≠ [] → (f a).Formed) (hv : u.withHost? f = some v) :
    v.Formed := by
  obtain ⟨a, ha, hformed⟩ := h.authority
  unfold Url.withHost? at hv
  rw [ha] at hv
  dsimp only at hv
  split at hv
  · cases hv
  · rename_i hhost
    cases hv
    exact ⟨h.scheme, ⟨f a, rfl, hf a hformed (by simpa using hhost)⟩, h.path, h.query, h.fragment⟩

theorem setUsername? (h : u.Formed) {name : List Char} (hv : u.setUsername? name = some v) :
    v.Formed := by
  unfold Url.setUsername? at hv
  refine h.withHost? (fun a ha hhost => ?_) hv
  exact ⟨clean_encode sober_inUserinfo name, ha.password, ha.host, ha.port,
    fun he => absurd he hhost⟩

theorem setPassword? (h : u.Formed) {password : List Char} (hv : u.setPassword? password = some v) :
    v.Formed := by
  unfold Url.setPassword? at hv
  refine h.withHost? (fun a ha hhost => ?_) hv
  exact ⟨ha.username, clean_encode sober_inUserinfo password, ha.host, ha.port,
    fun he => absurd he hhost⟩

theorem setPort? (h : u.Formed) {n : Nat} (hn : n ≤ 65535) (hv : u.setPort? n = some v) :
    v.Formed := by
  unfold Url.setPort? at hv
  refine h.withHost? (fun a ha hhost => ?_) hv
  exact ⟨ha.username, ha.password, ha.host, fun m hm => Option.some.inj hm ▸ hn,
    fun he => absurd he hhost⟩

theorem setPath (h : u.Formed) (cs : List Char) : (u.setPath cs).Formed :=
  ⟨h.scheme, h.authority, formed_pathOf cs, h.query, h.fragment⟩

end Formed

end Url

end DbLifecycle
