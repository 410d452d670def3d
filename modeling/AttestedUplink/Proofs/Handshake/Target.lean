import AttestedUplink.Handshake
import AttestedUplink.Proofs.Checks
import Mathlib.Data.List.TakeWhile

/-!
# Targets of the opening request

A target is the path of an endpoint as far as it is sent. Of a path that starts with a slash that is
everything up to the first `#`. Other paths are read as an authority or as a whole address, which
may be written down anew. In no case does a blank or a character below it get into the request.
-/

namespace AttestedUplink.Handshake

open Checks

variable {cs kept rest tail : List Char} {path : String}

/-! ### Paths and queries -/

theorem pathAndQuery_eq_ok_iff :
    pathAndQuery cs = .ok kept ↔ kept = cs.takeWhile (· ≠ '#') ∧
      (∀ c ∈ kept.takeWhile (· ≠ '?'), isPathChar c = true) ∧
        ∀ c ∈ kept.dropWhile (· ≠ '?'), isQueryChar c = true := by
  rw [← List.all_eq_true, ← List.all_eq_true, ← Bool.and_eq_true]
  simp only [pathAndQuery]
  constructor
  · intro h
    split at h
    · rename_i hchars
      obtain rfl := Except.ok.inj h
      exact ⟨rfl, hchars⟩
    · cases h
  · rintro ⟨rfl, hchars⟩
    rw [if_pos hchars]

/-- A path that starts with a slash is sent up to its first `#`. -/
theorem target_eq_ok_iff_of_slash (hslash : path.toList = '/' :: tail) {text : String} :
    target path = .ok text ↔
      path.utf8ByteSize ≤ maxTargetLen ∧ pathAndQuery path.toList = .ok text.toList := by
  have htarget : target path =
      if path.utf8ByteSize > maxTargetLen then .error .targetTooLong
      else (pathAndQuery path.toList).map String.ofList := by
    rw [target, hslash]
    rfl
  rw [htarget]
  split
  · rename_i hlong
    exact iff_of_false nofun fun h ↦ absurd h.1 (Nat.not_le.2 hlong)
  · rename_i hshort
    rw [and_iff_right (Nat.not_lt.1 hshort), map_eq_ok_iff]
    constructor
    · rintro ⟨kept, hkept, rfl⟩
      rw [String.toList_ofList]
      exact hkept
    · intro h
      exact ⟨text.toList, h, String.ofList_toList⟩

/-! ### What may stand in a target -/

/-- Every character comes after the blank. -/
def Visible (cs : List Char) : Prop := ∀ c ∈ cs, 33 ≤ c.toNat

theorem Visible.append {first second : List Char} (hfirst : Visible first)
    (hsecond : Visible second) : Visible (first ++ second) := by
  intro c hc
  rcases List.mem_append.1 hc with hc | hc
  · exact hfirst c hc
  · exact hsecond c hc

theorem Visible.cons {c : Char} (hc : 33 ≤ c.toNat) (hcs : Visible cs) : Visible (c :: cs) :=
  List.forall_mem_cons.2 ⟨hc, hcs⟩

theorem visible_of_all (h : cs.all (33 ≤ ·.toNat) = true) : Visible cs :=
  fun c hc ↦ of_decide_eq_true (List.all_eq_true.1 h c hc)

theorem le_toNat_of_isTargetChar {c : Char} (h : isTargetChar c = true) : 33 ≤ c.toNat := by
  simp only [isTargetChar, Bool.and_eq_true, decide_eq_true_eq] at h
  exact h.1.1.1.1.1.1.1

theorem le_toNat_of_isPathChar {c : Char} (h : isPathChar c = true) : 33 ≤ c.toNat := by
  simp only [isPathChar, Bool.or_eq_true, decide_eq_true_eq] at h
  rcases h with h | rfl
  · exact le_toNat_of_isTargetChar h
  · decide

theorem le_toNat_of_isQueryChar {c : Char} (h : isQueryChar c = true) : 33 ≤ c.toNat := by
  simp only [isQueryChar, Bool.or_eq_true, decide_eq_true_eq] at h
  rcases h with (h | rfl) | rfl
  · exact le_toNat_of_isTargetChar h
  · decide
  · decide

theorem visible_of_pathAndQuery (h : pathAndQuery cs = .ok kept) : Visible kept := by
  obtain ⟨-, hpath, hquery⟩ := pathAndQuery_eq_ok_iff.1 h
  rw [← List.takeWhile_append_dropWhile (p := (· ≠ '?')) (l := kept)]
  apply Visible.append
  · exact fun c hc ↦ le_toNat_of_isPathChar (hpath c hc)
  · exact fun c hc ↦ le_toNat_of_isQueryChar (hquery c hc)

theorem le_toNat_of_isAlphanum {c : Char} (h : c.isAlphanum = true) : 33 ≤ c.toNat := by
  -- letters of both cases, then digits: the lower bound of each range is enough
  rcases Bool.or_eq_true_iff.1 h with hletter | hdigit
  · rcases Bool.or_eq_true_iff.1 hletter with hupper | hlower
    · have hbound : 65 ≤ c.toNat := (of_decide_eq_true hupper).1
      omega
    · have hbound : 97 ≤ c.toNat := of_decide_eq_true (Bool.and_eq_true_iff.1 hlower).1
      omega
  · have hbound : 48 ≤ c.toNat := of_decide_eq_true (Bool.and_eq_true_iff.1 hdigit).1
    omega

theorem le_toNat_of_isSchemeChar {c : Char} (h : isSchemeChar c = true) : 33 ≤ c.toNat := by
  have hmarks : Visible "+-.~".toList := visible_of_all (by decide)
  simp only [isSchemeChar, Bool.or_eq_true, List.contains_iff_mem] at h
  rcases h with h | h
  · exact le_toNat_of_isAlphanum h
  · exact hmarks c h

theorem le_toNat_of_isAuthorityChar {c : Char} (h : isAuthorityChar c = true) :
    33 ≤ c.toNat := by
  have hmarks : Visible "!$&()*+,-.;=_~".toList := visible_of_all (by decide)
  simp only [isAuthorityChar, Bool.or_eq_true, List.contains_iff_mem, decide_eq_true_eq] at h
  rcases h with (h | h) | rfl
  · exact le_toNat_of_isAlphanum h
  · exact hmarks c h
  · decide

theorem visible_schemeName (h : ∀ c ∈ cs, isSchemeChar c = true) : Visible (schemeName cs) := by
  have hhttp : Visible "http".toList := visible_of_all (by decide)
  have hhttps : Visible "https".toList := visible_of_all (by decide)
  simp only [schemeName]
  split
  · rename_i hlower
    rcases hlower with hlower | hlower
    · rw [hlower]
      exact hhttp
    · rw [hlower]
      exact hhttps
  · exact fun c hc ↦ le_toNat_of_isSchemeChar (h c hc)

theorem visible_of_splitScheme {scheme : List Char}
    (h : splitScheme cs = .ok (some scheme, rest)) : Visible scheme := by
  simp only [splitScheme] at h
  split at h
  · split at h
    · cases h
    · obtain ⟨rfl, -⟩ : schemeName (cs.takeWhile isSchemeChar) = scheme ∧ _ := by
        simpa using h
      exact visible_schemeName fun c hc ↦ List.mem_takeWhile_imp hc
  · cases h

/-- What an authority is gone through with one by one, are its own characters. -/
theorem AuthorityScan.le_toNat_of_step {scan next : AuthorityScan} {c : Char}
    (h : scan.step c = .ok next) : 33 ≤ c.toNat := by
  unfold AuthorityScan.step at h
  split at h
  · decide
  · decide
  · decide
  · decide
  · decide
  · split at h
    · rename_i hchar
      exact le_toNat_of_isAuthorityChar hchar
    · cases h

theorem AuthorityScan.visible_of_foldlM {scan last : AuthorityScan}
    (h : cs.foldlM AuthorityScan.step scan = .ok last) : Visible cs := by
  induction cs generalizing scan with
  | nil => exact fun _ hc ↦ absurd hc List.not_mem_nil
  | cons c cs ih =>
    rw [List.foldlM_cons] at h
    obtain ⟨next, hstep, hrest⟩ := bind_eq_ok_iff.1 h
    exact .cons (le_toNat_of_step hstep) (ih hrest)

theorem visible_of_checkAuthority (h : checkAuthority cs = .ok ()) : Visible cs := by
  obtain ⟨scan, hscan, -⟩ := bind_eq_ok_iff.1 h
  exact AuthorityScan.visible_of_foldlM hscan

theorem visible_rooted (h : Visible cs) : Visible (rooted cs) := by
  unfold rooted
  split
  · exact h
  · exact .cons (by decide) h

theorem visible_of_fullTarget (h : fullTarget cs = .ok kept) : Visible kept := by
  obtain ⟨⟨scheme, rest⟩, hscheme, h⟩ := bind_eq_ok_iff.1 h
  obtain ⟨⟨⟩, hcheck, h⟩ := bind_eq_ok_iff.1 h
  have hauthority := visible_of_checkAuthority hcheck
  cases scheme with
  | none =>
    simp only at h
    split at h
    · obtain rfl := pure_eq_ok_iff.1 h
      exact hauthority
    · cases h
  | some scheme =>
    simp only at h
    split at h
    · cases h
    · obtain ⟨tail, htail, h⟩ := bind_eq_ok_iff.1 h
      obtain rfl := pure_eq_ok_iff.1 h
      have hmark : Visible "://".toList := visible_of_all (by decide)
      apply Visible.append
      · have hscheme : Visible (scheme ++ "://".toList) :=
          (visible_of_splitScheme hscheme).append hmark
        exact hscheme.append hauthority
      · exact visible_rooted (visible_of_pathAndQuery htail)

/-- Whatever is sent of a path, there is no blank in it. -/
theorem visible_of_target {text : String} (h : target path = .ok text) : Visible text.toList := by
  unfold target at h
  split at h
  · cases h
  · split at h
    · cases h
    · obtain rfl := Except.ok.inj h
      exact .cons (by decide) nofun
    · cases h
    · cases h
    · obtain ⟨kept, hkept, rfl⟩ := map_eq_ok_iff.1 h
      rw [String.toList_ofList]
      exact visible_of_pathAndQuery hkept
    · obtain ⟨kept, hkept, rfl⟩ := map_eq_ok_iff.1 h
      rw [String.toList_ofList]
      exact visible_of_fullTarget hkept

example : target "HTTPS://host?query#rest" = .ok "https://host/?query" := by decide +kernel

example : target "*#rest" = .error .badFormat := by decide +kernel

end AttestedUplink.Handshake
