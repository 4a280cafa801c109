/-
BucketUrl/Proofs/Authority.lean

The host and the port of an authority, once taken out, stand by themselves.

`Authority.hostPort` drops the user-info and whatever lies between host and port.  What it gives
for an authority that passed the check has one of two forms, with or without a port
(`isHostPort_hostPort`), and a text of these forms is its own host and port
(`IsHostPort.hostPort_eq`).  So a second reading finds the same host, also after its letters were
put in lower case (`IsHostPort.lowerAscii`).

`Scan.step_cases` says all that one step of the check can do; the facts about runs are derived
from it.
-/
import BucketUrl.Text.Lemmas
import BucketUrl.Uri.Authority
import Mathlib.Data.List.TakeWhile

namespace BucketUrl.Uri.Authority

open Text

variable {c : Char} {s t auth user h p : Text} {st st' : Scan}

/-! ### Steps and runs of the check -/

theorem Scan.step_cases (hstep : st.step c = .ok st') :
    c ∈ chars ∧
      (c = ':' ∧ st.colons < maxColons ∧ st' = { st with colons := st.colons + 1 } ∨
        c = '[' ∧ st.bracket = .unseen ∧ st.percent = false ∧
          st' = { st with bracket := .opened } ∨
        c = ']' ∧ st.bracket = .opened ∧
          st' = { colons := 0, bracket := .closed, percent := false } ∨
        c = '@' ∧ st' = { st with colons := 0, percent := false } ∨
        c = '%' ∧ st' = { st with percent := true } ∨
        c ∉ [':', '[', ']', '@', '%'] ∧ st' = st) := by
  rw [Scan.step] at hstep
  split at hstep
  · cases hstep
  next hmem =>
    refine ⟨Decidable.not_not.1 hmem, ?_⟩
    -- one case for each sign, in the order in which the scan asks for them
    split at hstep
    · next hc =>
      split at hstep
      · next hlt =>
        cases hstep
        exact .inl ⟨hc, hlt, rfl⟩
      · cases hstep
    split at hstep
    · next hc =>
      split at hstep
      · next hb =>
        cases hstep
        exact .inr (.inl ⟨hc, hb.1, hb.2, rfl⟩)
      · cases hstep
    split at hstep
    · next hc =>
      split at hstep
      · next hb =>
        cases hstep
        exact .inr (.inr (.inl ⟨hc, hb, rfl⟩))
      · cases hstep
    split at hstep
    · next hc =>
      cases hstep
      exact .inr (.inr (.inr (.inl ⟨hc, rfl⟩)))
    split at hstep
    · next hc =>
      cases hstep
      exact .inr (.inr (.inr (.inr (.inl ⟨hc, rfl⟩))))
    · next h1 h2 h3 h4 h5 =>
      cases hstep
      exact .inr (.inr (.inr (.inr (.inr ⟨by simp [h1, h2, h3, h4, h5], rfl⟩))))

theorem Scan.run_cons_eq_ok_iff :
    st.run (c :: s) = .ok st' ↔ ∃ st₁, st.step c = .ok st₁ ∧ st₁.run s = .ok st' := by
  rw [Scan.run]
  cases hc : st.step c with
  | ok st₁ => simp
  | error e => simp

theorem Scan.run_append_eq_ok_iff :
    st.run (s ++ t) = .ok st' ↔ ∃ st₁, st.run s = .ok st₁ ∧ st₁.run t = .ok st' := by
  induction s generalizing st with
  | nil => simp [Scan.run]
  | cons c s ih =>
    rw [List.cons_append, Scan.run_cons_eq_ok_iff]
    constructor
    · rintro ⟨st₁, hc, hst⟩
      obtain ⟨st₂, hs, ht⟩ := ih.1 hst
      exact ⟨st₂, Scan.run_cons_eq_ok_iff.2 ⟨st₁, hc, hs⟩, ht⟩
    · rintro ⟨st₂, hcs, ht⟩
      obtain ⟨st₁, hc, hs⟩ := Scan.run_cons_eq_ok_iff.1 hcs
      exact ⟨st₁, hc, ih.2 ⟨st₂, hs, ht⟩⟩

theorem Scan.mem_chars_of_run (hrun : st.run s = .ok st') (hc : c ∈ s) : c ∈ chars := by
  induction s generalizing st with
  | nil => cases hc
  | cons d s ih =>
    obtain ⟨st₁, hd, hs⟩ := Scan.run_cons_eq_ok_iff.1 hrun
    rcases List.mem_cons.1 hc with rfl | hc
    · exact (Scan.step_cases hd).1
    · exact ih hs hc

/-- The brackets are opened and closed in this order, once each. -/
theorem Scan.bracket_of_step (hstep : st.step c = .ok st') :
    c = '[' ∧ st.bracket = .unseen ∧ st'.bracket = .opened ∨
      c = ']' ∧ st.bracket = .opened ∧ st'.bracket = .closed ∨
        c ≠ '[' ∧ c ≠ ']' ∧ st'.bracket = st.bracket := by
  rcases (Scan.step_cases hstep).2 with ⟨rfl, -, rfl⟩ | ⟨rfl, hb, -, rfl⟩ | ⟨rfl, hb, rfl⟩ |
    ⟨rfl, rfl⟩ | ⟨rfl, rfl⟩ | ⟨hc, rfl⟩
  · exact .inr (.inr ⟨by decide, by decide, rfl⟩)
  · exact .inl ⟨rfl, hb, rfl⟩
  · exact .inr (.inl ⟨rfl, hb, rfl⟩)
  · exact .inr (.inr ⟨by decide, by decide, rfl⟩)
  · exact .inr (.inr ⟨by decide, by decide, rfl⟩)
  · simp only [List.mem_cons, not_or] at hc
    exact .inr (.inr ⟨hc.2.1, hc.2.2.1, rfl⟩)

/-- What a run finds of the two brackets, and the states that it can do so between. -/
theorem Scan.bracket_of_run (hrun : st.run s = .ok st') :
    '[' ∉ s ∧ ']' ∉ s ∧ st'.bracket = st.bracket ∨
      '[' ∈ s ∧ ']' ∉ s ∧ st.bracket = .unseen ∧ st'.bracket = .opened ∨
        '[' ∉ s ∧ ']' ∈ s ∧ st.bracket = .opened ∧ st'.bracket = .closed ∨
          '[' ∈ s ∧ ']' ∈ s ∧ st.bracket = .unseen ∧ st'.bracket = .closed := by
  induction s generalizing st with
  | nil =>
    cases hrun
    exact .inl ⟨List.not_mem_nil, List.not_mem_nil, rfl⟩
  | cons c s ih =>
    obtain ⟨st₁, hc, hrun⟩ := Scan.run_cons_eq_ok_iff.1 hrun
    have ih := ih hrun
    -- a bracket that is read now excludes all cases in which it would come once more
    rcases Scan.bracket_of_step hc with ⟨rfl, hb, hb₁⟩ | ⟨rfl, hb, hb₁⟩ | ⟨hopen, hclose, hb₁⟩
    · rcases ih with ⟨-, hs, hst⟩ | ⟨-, -, hst, -⟩ | ⟨-, hs, -, hst⟩ | ⟨-, -, hst, -⟩
      · exact .inr (.inl ⟨List.mem_cons_self, by simpa using hs, hb, hst.trans hb₁⟩)
      · cases hb₁.symm.trans hst
      · exact .inr (.inr (.inr ⟨List.mem_cons_self, List.mem_cons_of_mem _ hs, hb, hst⟩))
      · cases hb₁.symm.trans hst
    · rcases ih with ⟨hs, -, hst⟩ | ⟨-, -, hst, -⟩ | ⟨-, -, hst, -⟩ | ⟨-, -, hst, -⟩
      · exact .inr (.inr (.inl ⟨by simpa using hs, List.mem_cons_self, hb, hst.trans hb₁⟩))
      · cases hb₁.symm.trans hst
      · cases hb₁.symm.trans hst
      · cases hb₁.symm.trans hst
    · simpa [hb₁, Ne.symm hopen, Ne.symm hclose] using ih

/-- Without a sign that forgets it, a percent sign is remembered to the end. -/
theorem Scan.percent_of_run (hclose : ']' ∉ s) (hat : '@' ∉ s) (hrun : st.run s = .ok st') :
    st'.percent = true ↔ st.percent = true ∨ '%' ∈ s := by
  induction s generalizing st with
  | nil =>
    cases hrun
    simp
  | cons c s ih =>
    obtain ⟨st₁, hc, hrun⟩ := Scan.run_cons_eq_ok_iff.1 hrun
    simp only [List.mem_cons, not_or] at hclose hat
    rw [ih hclose.2 hat.2 hrun]
    rcases (Scan.step_cases hc).2 with ⟨rfl, -, rfl⟩ | ⟨rfl, -, -, rfl⟩ | ⟨rfl, -⟩ | ⟨rfl, -⟩ |
      ⟨rfl, rfl⟩ | ⟨hsign, rfl⟩
    · simp
    · simp
    · exact absurd rfl hclose.1
    · exact absurd rfl hat.1
    · simp
    · have hc : '%' ≠ c := by
        rintro rfl
        exact hsign (by decide)
      simp [hc]

/-- Only a colon adds to the colons. -/
theorem Scan.colons_of_run (hcolon : ':' ∉ s) (hrun : st.run s = .ok st') :
    st'.colons ≤ st.colons := by
  induction s generalizing st with
  | nil =>
    cases hrun
    exact Nat.le_refl _
  | cons c s ih =>
    obtain ⟨st₁, hc, hrun⟩ := Scan.run_cons_eq_ok_iff.1 hrun
    simp only [List.mem_cons, not_or] at hcolon
    refine Nat.le_trans (ih hcolon.2 hrun) ?_
    rcases (Scan.step_cases hc).2 with ⟨rfl, -⟩ | ⟨-, -, -, rfl⟩ | ⟨-, -, rfl⟩ | ⟨-, rfl⟩ |
      ⟨-, rfl⟩ | ⟨-, rfl⟩
    · exact absurd rfl hcolon.1
    · exact Nat.le_refl _
    · exact Nat.zero_le _
    · exact Nat.zero_le _
    · exact Nat.le_refl _
    · exact Nat.le_refl _

/-- Characters that are no signs of an authority leave the state as it is. -/
theorem Scan.run_eq_ok (hs : ∀ c ∈ s, c ∈ chars ∧ c ∉ [':', '[', ']', '@', '%']) :
    st.run s = .ok st := by
  induction s with
  | nil => rfl
  | cons c s ih =>
    obtain ⟨hc, hsign⟩ := hs c List.mem_cons_self
    simp only [List.mem_cons, List.not_mem_nil, or_false, not_or] at hsign
    obtain ⟨h1, h2, h3, h4, h5⟩ := hsign
    have hstep : st.step c = .ok st := by
      rw [Scan.step, if_neg (not_not_intro hc), if_neg h1, if_neg h2, if_neg h3, if_neg h4,
        if_neg h5]
    exact Scan.run_cons_eq_ok_iff.2 ⟨st, hstep, ih fun d hd => hs d (List.mem_cons_of_mem _ hd)⟩

/-! ### What passes the check -/

theorem check_eq_ok_iff :
    check auth = .ok () ↔ ∃ st, ({} : Scan).run auth = .ok st ∧ st.Complete auth := by
  rw [check]
  cases ({} : Scan).run auth with
  | ok st => by_cases hst : st.Complete auth <;> simp [hst]
  | error e => simp

theorem mem_chars_of_check (hcheck : check auth = .ok ()) (hc : c ∈ auth) : c ∈ chars := by
  obtain ⟨st, hrun, -⟩ := check_eq_ok_iff.1 hcheck
  exact Scan.mem_chars_of_run hrun hc

theorem not_isDelimiter_of_mem_chars (hc : c ∈ chars) : ¬IsDelimiter c := by
  rintro (rfl | rfl | rfl)
  · exact absurd hc (by decide)
  · exact absurd hc (by decide)
  · exact absurd hc (by decide)

/-- An opening bracket in an authority that passes is closed again. -/
theorem mem_of_check (hcheck : check (s ++ '[' :: t) = .ok ()) : ']' ∈ t := by
  obtain ⟨st, hrun, hst, -⟩ := check_eq_ok_iff.1 hcheck
  obtain ⟨st₁, -, hrun⟩ := Scan.run_append_eq_ok_iff.1 hrun
  rcases Scan.bracket_of_run hrun with ⟨hopen, -⟩ | ⟨-, -, -, hopened⟩ | ⟨hopen, -⟩ |
    ⟨-, hclose, -⟩
  · exact absurd List.mem_cons_self hopen
  · exact absurd hopened hst
  · exact absurd List.mem_cons_self hopen
  · simpa using hclose

/-! ### Hosts and ports that stand by themselves -/

/-- A host by itself: a pair of brackets with what it encloses, or a text without colon that does
not begin with a bracket. -/
def IsHost (h : Text) : Prop :=
  '@' ∉ h ∧ ((∃ inner, ']' ∉ inner ∧ h = ('[' :: inner) ++ [']']) ∨ h.head? ≠ some '[' ∧ ':' ∉ h)

/-- A host by itself, perhaps with a port behind a colon. -/
inductive IsHostPort : Text → Prop
  | bare {name : Text} : IsHost name → IsHostPort name
  | port {name digits : Text} : IsHost name → IsPort digits → IsHostPort (name ++ ':' :: digits)

theorem IsPort.mem_cases (hp : IsPort p) (hc : c ∈ p) : c = '+' ∨ c.isDigit = true := by
  obtain ⟨⟨-, hdigits⟩, -⟩ := hp
  rw [unsigned.eq_def] at hdigits
  split at hdigits
  · rcases List.mem_cons.1 hc with rfl | hc
    · exact .inl rfl
    · exact .inr (hdigits c hc)
  · exact .inr (hdigits c hc)

theorem IsPort.not_mem (hp : IsPort p) (hplus : c ≠ '+') (hdigit : c.isDigit = false) : c ∉ p := by
  intro hc
  rcases hp.mem_cases hc with h | h
  · exact hplus h
  · rw [hdigit] at h
    cases h

theorem afterUserInfo_eq_self (hs : '@' ∉ s) : afterUserInfo s = s := by
  rw [afterUserInfo, cutLast?_eq_none_iff.2 hs]

theorem hostOf_of_head?_ne (hs : s.head? ≠ some '[') : hostOf s = before ':' s := by
  rw [hostOf.eq_def]
  split
  · exact absurd rfl hs
  · rfl

/-- The host of a text that begins with it, whether the text ends there or a colon follows. -/
theorem IsHost.hostOf_append (hh : IsHost h) (ht : t = [] ∨ t.head? = some ':') :
    hostOf (h ++ t) = h := by
  obtain ⟨-, ⟨inner, hinner, rfl⟩ | ⟨hhead, hcolon⟩⟩ := hh
  · have hcut : cut? ']' (inner ++ ']' :: t) = some (inner, t) := cut?_append_cons hinner t
    simp [hostOf, hcut]
  · have hne : (h ++ t).head? ≠ some '[' := by
      cases h with
      | nil => rcases ht with rfl | ht <;> simp [*]
      | cons c h => exact hhead
    rw [hostOf_of_head?_ne hne]
    cases t with
    | nil => rw [List.append_nil, before_eq_self hcolon]
    | cons c t =>
      have hc : c = ':' := by simpa using ht
      rw [hc, before_append_cons hcolon]

theorem IsHost.port?_eq_none (hh : IsHost h) : port? h = none := by
  rw [port?]
  obtain ⟨-, ⟨inner, hinner, rfl⟩ | ⟨-, hcolon⟩⟩ := hh
  · split
    · next last hcut =>
      -- the closing bracket ends whatever follows the last colon
      have hlast : ']' ∈ last := mem_of_cutLast?_concat (by decide) hcut
      rw [if_neg fun hp => IsPort.not_mem hp (by decide) (by decide) hlast]
    · rfl
  · rw [cutLast?_eq_none_iff.2 hcolon]

theorem port?_append (h : Text) (hp : IsPort p) : port? (h ++ ':' :: p) = some p := by
  have hcolon : ':' ∉ p := hp.not_mem (by decide) (by decide)
  rw [port?, cutLast?_append_cons h hcolon]
  exact if_pos hp

theorem IsHostPort.at_not_mem (ht : IsHostPort t) : '@' ∉ t := by
  cases ht with
  | bare hh => exact hh.1
  | port hh hp =>
    have hp := hp.not_mem (c := '@') (by decide) (by decide)
    simp [hh.1, hp]

/-- A host and port by itself is its own host and port. -/
theorem IsHostPort.hostPort_eq (ht : IsHostPort t) : hostPort t = t := by
  have hat := ht.at_not_mem
  cases ht with
  | bare hh =>
    have hhost : host t = t := by
      rw [host, afterUserInfo_eq_self hat]
      simpa using hh.hostOf_append (.inl rfl)
    rw [hostPort, hh.port?_eq_none]
    exact hhost
  | @port h p hh hp =>
    rw [hostPort, port?_append h hp, host, afterUserInfo_eq_self hat, hh.hostOf_append (.inr rfl)]

/-- User information with its `@`, or nothing. -/
def IsUserInfo (user : Text) : Prop :=
  user = [] ∨ ∃ front, user = front ++ ['@']

/-- What follows the user information has no `@` any more. -/
theorem afterUserInfo_cases (auth : Text) :
    '@' ∉ afterUserInfo auth ∧ ∃ user, IsUserInfo user ∧ auth = user ++ afterUserInfo auth := by
  rw [afterUserInfo]
  split
  · next user rest hcut =>
    obtain ⟨hrest, rfl⟩ := cutLast?_eq_some_iff.1 hcut
    exact ⟨hrest, user ++ ['@'], .inr ⟨user, rfl⟩, by simp⟩
  · next hcut => exact ⟨cutLast?_eq_none_iff.1 hcut, [], .inl rfl, rfl⟩

theorem afterUserInfo_append (huser : IsUserInfo user) (hs : '@' ∉ s) :
    afterUserInfo (user ++ s) = s := by
  rcases huser with rfl | ⟨front, rfl⟩
  · exact afterUserInfo_eq_self hs
  · rw [afterUserInfo, List.append_assoc, List.singleton_append, cutLast?_append_cons front hs]

/-- What stands before the first colon is a host, unless it begins with a bracket. -/
theorem isHost_before (hat : '@' ∉ s) (hhead : s.head? ≠ some '[') : IsHost (before ':' s) := by
  have hsub : ∀ c ∈ before ':' s, c ∈ s := fun c hc => List.takeWhile_subset _ hc
  refine ⟨fun h => hat (hsub _ h), .inr ⟨?_, ?_⟩⟩
  · cases s with
    | nil => simp [before]
    | cons c s =>
      rw [before, List.takeWhile_cons]
      split
      · exact hhead
      · simp
  · intro hc
    simpa using List.mem_takeWhile_imp hc

/-- The host of an authority that passes the check stands by itself. -/
theorem isHost_host (hcheck : check auth = .ok ()) : IsHost (host auth) := by
  obtain ⟨hat, user, -, hauth⟩ := afterUserInfo_cases auth
  rw [host]
  rw [hauth] at hcheck
  generalize afterUserInfo auth = rest at *
  rw [hostOf.eq_def]
  split
  · next s =>
    split
    · next inner last hcut =>
      obtain ⟨hinner, rfl⟩ := cut?_eq_some_iff.1 hcut
      refine ⟨?_, .inl ⟨inner, hinner, rfl⟩⟩
      simp only [List.mem_cons, List.mem_append, not_or] at hat
      simp [hat.2.1]
    · -- without a closing bracket the authority would not have passed
      next hcut => exact absurd (mem_of_check hcheck) (cut?_eq_none_iff.1 hcut)
  · next hne =>
    apply isHost_before hat
    intro hhead
    obtain ⟨t, rfl⟩ := List.head?_eq_some_iff.1 hhead
    exact hne t rfl

theorem port?_eq_some (hport : port? auth = some p) :
    IsPort p ∧ ∃ front, auth = front ++ ':' :: p := by
  rw [port?] at hport
  split at hport
  · next front last hcut =>
    obtain ⟨-, heq⟩ := cutLast?_eq_some_iff.1 hcut
    split at hport
    · next hp =>
      cases hport
      exact ⟨hp, front, heq⟩
    · cases hport
  · cases hport

theorem isHostPort_hostPort (hcheck : check auth = .ok ()) : IsHostPort (hostPort auth) := by
  rw [hostPort]
  split
  · next hport => exact .port (isHost_host hcheck) (port?_eq_some hport).1
  · exact .bare (isHost_host hcheck)

theorem exists_eq_hostOf_append (s : Text) : ∃ rest, s = hostOf s ++ rest := by
  rw [hostOf.eq_def]
  split
  · next s =>
    split
    · next inner rest hcut =>
      obtain ⟨-, rfl⟩ := cut?_eq_some_iff.1 hcut
      exact ⟨rest, by simp⟩
    · exact ⟨[], (List.append_nil _).symm⟩
  · exact ⟨_, List.takeWhile_append_dropWhile.symm⟩

/-- An authority is its user information, its host, and a rest without `@`. -/
theorem exists_eq_append_host (auth : Text) :
    ∃ user rest, IsUserInfo user ∧ '@' ∉ rest ∧ auth = user ++ (host auth ++ rest) := by
  obtain ⟨hat, user, huser, hauth⟩ := afterUserInfo_cases auth
  obtain ⟨rest, hrest⟩ := exists_eq_hostOf_append (afterUserInfo auth)
  refine ⟨user, rest, huser, ?_, ?_⟩
  · intro h
    rw [hrest] at hat
    exact hat (List.mem_append_right _ h)
  · rw [host, ← hrest]
    exact hauth

theorem mem_of_mem_host (hc : c ∈ host auth) : c ∈ auth := by
  obtain ⟨user, rest, -, -, hauth⟩ := exists_eq_append_host auth
  rw [hauth]
  exact List.mem_append_right _ (List.mem_append_left _ hc)

/-- Host and port bring in no character that the authority does not have. -/
theorem mem_of_mem_hostPort (hc : c ∈ hostPort auth) : c ∈ auth := by
  rw [hostPort] at hc
  split at hc
  · next p hport =>
    obtain ⟨-, front, heq⟩ := port?_eq_some hport
    rcases List.mem_append.1 hc with hc | hc
    · exact mem_of_mem_host hc
    · rw [heq]
      exact List.mem_append_right _ hc
  · exact mem_of_mem_host hc

/-! ### User information -/

/-- User information has no influence on the port: with an `@` behind its last colon, what follows
that is no port. -/
theorem port?_append_userInfo (huser : IsUserInfo user) (s : Text) :
    port? (user ++ s) = port? s := by
  rcases huser with rfl | ⟨front, rfl⟩
  · rfl
  rw [port?, port?]
  cases hcut : cutLast? ':' s with
  | some parts =>
    obtain ⟨hcolon, rfl⟩ := cutLast?_eq_some_iff.1 hcut
    rw [← List.append_assoc, cutLast?_append_cons _ hcolon]
  | none =>
    rw [cutLast?_append _ (cutLast?_eq_none_iff.1 hcut)]
    cases hfront : cutLast? ':' (front ++ ['@']) with
    | none => rfl
    | some parts =>
      have hat : '@' ∈ parts.2 ++ s :=
        List.mem_append_left s (mem_of_cutLast?_concat (by decide) hfront)
      exact if_neg fun hp => IsPort.not_mem hp (by decide) (by decide) hat

/-- Nor has it on host and port together. -/
theorem hostPort_append_userInfo (huser : IsUserInfo user) (hs : '@' ∉ s) :
    hostPort (user ++ s) = hostPort s := by
  rw [hostPort, hostPort, port?_append_userInfo huser, host, host, afterUserInfo_append huser hs,
    afterUserInfo_eq_self hs]

theorem hostPort_afterUserInfo (auth : Text) : hostPort (afterUserInfo auth) = hostPort auth := by
  obtain ⟨hat, user, huser, hauth⟩ := afterUserInfo_cases auth
  have happend := hostPort_append_userInfo huser hat
  rw [← hauth] at happend
  exact happend.symm

/-! ### Lower case -/

theorem IsHost.lowerAscii (hh : IsHost h) : IsHost (lowerAscii h) := by
  have hat : '@' ∉ Text.lowerAscii h := (mem_lowerAscii_iff (by decide)).not.2 hh.1
  obtain ⟨-, ⟨inner, hinner, rfl⟩ | ⟨hhead, hcolon⟩⟩ := hh
  · refine ⟨hat, .inl ⟨Text.lowerAscii inner, (mem_lowerAscii_iff (by decide)).not.2 hinner, ?_⟩⟩
    rw [lowerAscii_append, lowerAscii_cons]
    rfl
  · refine ⟨hat, .inr ⟨?_, (mem_lowerAscii_iff (by decide)).not.2 hcolon⟩⟩
    cases h with
    | nil => simp
    | cons c h => simpa [toLower_eq_iff] using hhead

theorem IsPort.lowerAscii_eq (hp : IsPort p) : Text.lowerAscii p = p := by
  apply lowerAscii_eq_self
  intro c hc
  rcases hp.mem_cases hc with rfl | hc
  · exact .inl (by decide)
  · have := isDigit_iff.1 hc
    omega

/-- The lower case of a host and port by itself is one too. -/
theorem IsHostPort.lowerAscii (ht : IsHostPort t) : IsHostPort (lowerAscii t) := by
  cases ht with
  | bare hh => exact .bare hh.lowerAscii
  | port hh hp =>
    rw [lowerAscii_append, lowerAscii_cons, hp.lowerAscii_eq]
    exact .port hh.lowerAscii hp

theorem isPort_lowerAscii_iff : IsPort (Text.lowerAscii p) ↔ IsPort p := by
  constructor
  · intro hp
    have hself : Text.lowerAscii p = p := by
      apply (List.map_congr_left _).trans (List.map_id p)
      intro c hc
      -- signs and digits are the lower case of themselves only
      have hsmall : c.toLower.toNat < 0x41 := by
        rcases hp.mem_cases (List.mem_map_of_mem hc) with h | h
        · rw [h]
          decide
        · have := isDigit_iff.1 h
          omega
      exact ((toLower_eq_iff (.inl hsmall)).1 rfl).symm
    rw [hself] at hp
    exact hp
  · intro hp
    rw [hp.lowerAscii_eq]
    exact hp

theorem port?_lowerAscii (auth : Text) : port? (Text.lowerAscii auth) = port? auth := by
  rw [port?, port?, cutLast?_lowerAscii (by decide)]
  cases cutLast? ':' auth with
  | none => rfl
  | some parts =>
    show (if IsPort (Text.lowerAscii parts.2) then some (Text.lowerAscii parts.2) else none)
      = if IsPort parts.2 then some parts.2 else none
    by_cases hp : IsPort parts.2
    · rw [hp.lowerAscii_eq]
    · rw [if_neg hp, if_neg (isPort_lowerAscii_iff.not.2 hp)]

theorem hostOf_lowerAscii (s : Text) : hostOf (Text.lowerAscii s) = Text.lowerAscii (hostOf s) := by
  by_cases hs : s.head? = some '['
  · obtain ⟨t, rfl⟩ := List.head?_eq_some_iff.1 hs
    have hbracket : '['.toLower = '[' := rfl
    rw [lowerAscii_cons, hbracket, hostOf, hostOf, cut?_lowerAscii (by decide)]
    cases cut? ']' t with
    | none => rfl
    | some parts =>
      show '[' :: Text.lowerAscii parts.1 ++ [']'] = Text.lowerAscii ('[' :: parts.1 ++ [']'])
      rw [lowerAscii_append]
      rfl
  · have hlower : (Text.lowerAscii s).head? ≠ some '[' := by
      cases s with
      | nil => simp
      | cons c s => simpa [toLower_eq_iff] using hs
    rw [hostOf_of_head?_ne hs, hostOf_of_head?_ne hlower, before_lowerAscii (by decide)]

theorem afterUserInfo_lowerAscii (auth : Text) :
    afterUserInfo (Text.lowerAscii auth) = Text.lowerAscii (afterUserInfo auth) := by
  rw [afterUserInfo, afterUserInfo, cutLast?_lowerAscii (by decide)]
  cases cutLast? '@' auth with
  | none => rfl
  | some parts => rfl

/-- Host and port are found in the lower case of an authority where they are found in itself. -/
theorem hostPort_lowerAscii (auth : Text) :
    hostPort (Text.lowerAscii auth) = Text.lowerAscii (hostPort auth) := by
  rw [hostPort, hostPort, host, host, port?_lowerAscii, afterUserInfo_lowerAscii,
    hostOf_lowerAscii]
  cases hport : port? auth with
  | none => rfl
  | some port =>
    have hport := (port?_eq_some hport).1
    show _ ++ ':' :: port = Text.lowerAscii (_ ++ ':' :: port)
    rw [lowerAscii_append, lowerAscii_cons, hport.lowerAscii_eq]
    rfl

/-- The host and port of an authority that passes has no sign that ends an authority, in lower case
neither. -/
theorem not_isDelimiter_of_mem_hostPort (hcheck : check auth = .ok ())
    (hc : c ∈ Text.lowerAscii (hostPort auth)) : ¬IsDelimiter c := by
  intro hdelimiter
  have hmem : c ∈ hostPort auth := by
    rcases hdelimiter with rfl | rfl | rfl
    · exact (mem_lowerAscii_iff (by decide)).1 hc
    · exact (mem_lowerAscii_iff (by decide)).1 hc
    · exact (mem_lowerAscii_iff (by decide)).1 hc
  exact not_isDelimiter_of_mem_chars (mem_chars_of_check hcheck (mem_of_mem_hostPort hmem))
    hdelimiter

end BucketUrl.Uri.Authority
