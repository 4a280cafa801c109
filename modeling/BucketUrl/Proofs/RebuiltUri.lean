/-
BucketUrl/Proofs/RebuiltUri.lean

Which addresses can be written as a URI again.

Scheme, path and query of the canonical URL are always in order, so all depends on the host.  It was
cut out of an authority that passed the check, but it need not pass by itself.  The user information
may end inside a pair of brackets, and the host may end at a colon inside one; then one half of the
pair is left, or a percent sign that only the brackets had allowed (`check_hostPort_iff`).

Main result: `exists_toUri_iff`.  An address that was read can be rebuilt exactly when its canonical
URL is not too long and its host has the brackets of an address whole.
-/
import BucketUrl.Proofs.RoundTrip

namespace BucketUrl

open Text

variable {s t : Text} {a : Address}

namespace Uri.Authority

variable {c : Char} {auth user h port : Text} {st : Scan}

/-! ### Whole brackets -/

/-- The signs of an address in brackets. -/
def bracketSigns : List Char :=
  ['[', ']', '%']

/-- A text with one of the signs of an address in brackets has both brackets. -/
def HasWholeBrackets (s : Text) : Prop :=
  ∀ c ∈ bracketSigns, c ∈ s → '[' ∈ s ∧ ']' ∈ s

/-- A port has none of the signs. -/
theorem hasWholeBrackets_append_port (hport : IsPort port) :
    HasWholeBrackets (h ++ ':' :: port) ↔ HasWholeBrackets h := by
  have hsigns : ∀ c ∈ bracketSigns, c ≠ ':' ∧ c ≠ '+' ∧ c.isDigit = false := by decide
  have hmem : ∀ c ∈ bracketSigns, c ∈ h ++ ':' :: port ↔ c ∈ h := by
    intro c hc
    obtain ⟨hcolon, hplus, hdigit⟩ := hsigns c hc
    simp [hcolon, hport.not_mem hplus hdigit]
  rw [HasWholeBrackets, HasWholeBrackets, hmem '[' (by decide), hmem ']' (by decide)]
  exact forall₂_congr fun c hc => imp_congr (hmem c hc) Iff.rfl

/-! ### Texts without user information that pass the check -/

/-- Without user information a text that passes has its brackets whole. -/
theorem hasWholeBrackets_of_check (hat : '@' ∉ s) (hcheck : check s = .ok ()) :
    HasWholeBrackets s := by
  obtain ⟨st, hrun, hbracket, -, -, hpercent⟩ := check_eq_ok_iff.1 hcheck
  rcases Scan.bracket_of_run hrun with ⟨hopen, hclose, -⟩ | ⟨-, -, -, hopened⟩ | ⟨-, -, hst, -⟩ |
    ⟨hopen, hclose, -⟩
  · -- no bracket is there to allow a percent sign, and none was left over
    intro c hc hcs
    simp only [bracketSigns, List.mem_cons, List.not_mem_nil, or_false] at hc
    rcases hc with rfl | rfl | rfl
    · exact absurd hcs hopen
    · exact absurd hcs hclose
    · have hleft := (Scan.percent_of_run hclose hat hrun).2 (.inr hcs)
      rw [hpercent] at hleft
      cases hleft
  · exact absurd hopened hbracket
  · cases hst
  · exact fun _ _ _ => ⟨hopen, hclose⟩

/-! ### The host by itself -/

/-- Behind the user information all is as at the beginning, apart from the brackets. -/
theorem Scan.run_userInfo (huser : IsUserInfo user) (hrun : ({} : Scan).run user = .ok st) :
    st = { bracket := st.bracket } := by
  rcases huser with rfl | ⟨front, rfl⟩
  · cases hrun
    rfl
  · obtain ⟨st₁, -, hrun⟩ := Scan.run_append_eq_ok_iff.1 hrun
    obtain ⟨st₂, hstep, hnil⟩ := Scan.run_cons_eq_ok_iff.1 hrun
    cases hnil
    have hat : st₁.step '@' = .ok { st₁ with colons := 0, percent := false } := rfl
    rw [hat] at hstep
    cases hstep
    rfl

/-- A closing bracket forgets the colons before it. -/
theorem Scan.colons_of_step_close {st' : Scan} (hstep : st.step ']' = .ok st') :
    st'.colons = 0 := by
  have hclose : st.step ']'
      = if st.bracket = .opened then .ok { colons := 0, bracket := .closed, percent := false }
        else .error .badAuthority := rfl
  rw [hclose] at hstep
  split at hstep
  · cases hstep
    rfl
  · cases hstep

/-- A host in brackets, or without a colon, leaves no colon to be counted. -/
theorem Scan.colons_of_run_host {st' : Scan} (hh : IsHost h) (hst : st.colons = 0)
    (hrun : st.run h = .ok st') : st'.colons = 0 := by
  obtain ⟨-, ⟨inner, -, rfl⟩ | ⟨-, hcolon⟩⟩ := hh
  · obtain ⟨st₁, -, hrun⟩ := Scan.run_append_eq_ok_iff.1 hrun
    obtain ⟨st₂, hstep, hnil⟩ := Scan.run_cons_eq_ok_iff.1 hrun
    cases hnil
    exact Scan.colons_of_step_close hstep
  · have hle := Scan.colons_of_run hcolon hrun
    omega

/-- A run over both brackets finds them unseen and leaves them closed. -/
theorem Scan.bracket_of_run_pair {st' : Scan} (hopen : '[' ∈ s) (hclose : ']' ∈ s)
    (hrun : st.run s = .ok st') : st.bracket = .unseen ∧ st'.bracket = .closed := by
  rcases Scan.bracket_of_run hrun with ⟨h, -⟩ | ⟨-, h, -⟩ | ⟨h, -⟩ | ⟨-, -, h⟩
  · exact absurd hopen h
  · exact absurd hclose h
  · exact absurd hopen h
  · exact h

/-- Behind a closed pair no closing bracket comes. -/
theorem Scan.not_mem_of_closed {st' : Scan} (hst : st.bracket = .closed)
    (hrun : st.run s = .ok st') : ']' ∉ s := by
  rcases Scan.bracket_of_run hrun with ⟨-, h, -⟩ | ⟨-, h, -⟩ | ⟨-, -, h, -⟩ | ⟨-, -, h, -⟩
  · exact h
  · exact h
  · cases hst.symm.trans h
  · cases hst.symm.trans h

/-- A host with the pair of brackets in it is passed by itself. -/
theorem run_host_of_brackets (hcheck : check auth = .ok ()) (hopen : '[' ∈ host auth)
    (hclose : ']' ∈ host auth) :
    ({} : Scan).run (host auth) = .ok { bracket := .closed } := by
  have hhost := isHost_host hcheck
  obtain ⟨user, rest, huser, hat, hauth⟩ := exists_eq_append_host auth
  rw [hauth] at hcheck
  obtain ⟨st, hrun, -, -, -, hpercent⟩ := check_eq_ok_iff.1 hcheck
  obtain ⟨st₀, hrun₀, hrun⟩ := Scan.run_append_eq_ok_iff.1 hrun
  obtain ⟨st₁, hrun₁, hrun⟩ := Scan.run_append_eq_ok_iff.1 hrun
  -- the pair lies in the host, so no bracket came before and none comes later
  obtain ⟨hunseen, hclosed⟩ := Scan.bracket_of_run_pair hopen hclose hrun₁
  have hst₀ := Scan.run_userInfo huser hrun₀
  rw [hunseen] at hst₀
  rw [hst₀] at hrun₁
  have hcolons : st₁.colons = 0 := Scan.colons_of_run_host hhost rfl hrun₁
  have hleft : st₁.percent = false := by
    rw [Bool.eq_false_iff]
    intro h
    have hrest := Scan.not_mem_of_closed hclosed hrun
    have hend := (Scan.percent_of_run hrest hat hrun).2 (.inl h)
    rw [hpercent] at hend
    cases hend
  rw [hrun₁, ← hclosed, ← hcolons, ← hleft]

/-- So is a host with no sign of an address in brackets. -/
theorem run_host_of_no_sign (hcheck : check auth = .ok ())
    (hnone : ∀ c ∈ bracketSigns, c ∉ host auth) : ({} : Scan).run (host auth) = .ok {} := by
  obtain ⟨hat, ⟨inner, -, hinner⟩ | ⟨-, hcolon⟩⟩ := isHost_host hcheck
  · exact absurd (by simp [hinner]) (hnone '[' (by decide))
  · apply Scan.run_eq_ok
    intro c hc
    refine ⟨mem_chars_of_check hcheck (mem_of_mem_host hc), ?_⟩
    simp only [List.mem_cons, List.not_mem_nil, or_false]
    rintro (rfl | rfl | rfl | rfl | rfl)
    · exact hcolon hc
    · exact hnone _ (by decide) hc
    · exact hnone _ (by decide) hc
    · exact hat hc
    · exact hnone _ (by decide) hc

/-- A host with whole brackets is passed by itself, and nothing is left over. -/
theorem run_host (hcheck : check auth = .ok ()) (hwhole : HasWholeBrackets (host auth)) :
    ∃ b, b ≠ Bracket.opened ∧ ({} : Scan).run (host auth) = .ok { bracket := b } := by
  by_cases hopen : '[' ∈ host auth
  · obtain ⟨-, hclose⟩ := hwhole '[' (by decide) hopen
    exact ⟨.closed, by decide, run_host_of_brackets hcheck hopen hclose⟩
  · have hnone : ∀ c ∈ bracketSigns, c ∉ host auth := fun c hc h => hopen (hwhole c hc h).1
    exact ⟨.unseen, by decide, run_host_of_no_sign hcheck hnone⟩

theorem IsPort.mem_chars (hport : IsPort port) (hc : c ∈ port) :
    c ∈ chars ∧ c ∉ [':', '[', ']', '@', '%'] := by
  rcases hport.mem_cases hc with rfl | hdigit
  · decide
  · exact mem_chars_of_toLower (toLower_mem_chars_of_isDigit hdigit)

/-- The host and port of an authority that passes the check passes it as well, exactly when its
brackets are whole. -/
theorem check_hostPort_iff (hcheck : check auth = .ok ()) :
    check (hostPort auth) = .ok () ↔ HasWholeBrackets (hostPort auth) := by
  constructor
  · exact hasWholeBrackets_of_check (isHostPort_hostPort hcheck).at_not_mem
  · intro hwhole
    have hat : (hostPort auth).getLast? ≠ some '@' :=
      fun h => (isHostPort_hostPort hcheck).at_not_mem (List.mem_of_getLast? h)
    rw [check_eq_ok_iff]
    rw [hostPort] at hwhole hat ⊢
    cases hport : port? auth with
    | none =>
      rw [hport] at hwhole hat
      obtain ⟨b, hb, hrun⟩ := run_host hcheck hwhole
      exact ⟨_, hrun, hb, Nat.zero_le 1, hat, rfl⟩
    | some port =>
      rw [hport] at hwhole hat
      have hisPort := (port?_eq_some hport).1
      obtain ⟨b, hb, hrun⟩ := run_host hcheck ((hasWholeBrackets_append_port hisPort).1 hwhole)
      -- the colon before the port is the only one that is counted
      refine ⟨{ colons := 1, bracket := b }, ?_, hb, Nat.le_refl 1, hat, rfl⟩
      refine Scan.run_append_eq_ok_iff.2 ⟨_, hrun, Scan.run_cons_eq_ok_iff.2 ⟨_, rfl, ?_⟩⟩
      exact Scan.run_eq_ok fun c hc => hisPort.mem_chars hc

/-! ### Lower case -/

theorem toLower_mem_authority_chars_iff : c.toLower ∈ chars ↔ c ∈ chars := by
  simp only [CharSet.mem_iff, chars, List.mem_cons, List.not_mem_nil, or_false, exists_eq_or_imp,
    exists_eq_left, toNat_toLower]
  split
  · omega
  · rfl

/-- The check does not look at the case of letters. -/
theorem Scan.step_toLower (st : Scan) (c : Char) : st.step c.toLower = st.step c := by
  have hsign {d : Char} (hd : d.toNat < 0x41 ∨ 0x5A < d.toNat ∧ d.toNat < 0x61) :
      c.toLower = d ↔ c = d := toLower_eq_iff hd
  simp only [Scan.step, toLower_mem_authority_chars_iff, hsign (d := ':') (by decide),
    hsign (d := '[') (by decide), hsign (d := ']') (by decide), hsign (d := '@') (by decide),
    hsign (d := '%') (by decide)]

theorem Scan.run_lowerAscii (st : Scan) (s : Text) : st.run (Text.lowerAscii s) = st.run s := by
  induction s generalizing st with
  | nil => rfl
  | cons c s ih =>
    rw [lowerAscii_cons, Scan.run, Scan.run, Scan.step_toLower]
    cases st.step c with
    | ok st₁ => exact ih st₁
    | error e => rfl

theorem check_lowerAscii (hcheck : check auth = .ok ()) :
    check (Text.lowerAscii auth) = .ok () := by
  obtain ⟨st, hrun, hbracket, hcolons, hlast, hpercent⟩ := check_eq_ok_iff.1 hcheck
  refine check_eq_ok_iff.2 ⟨st, ?_, hbracket, hcolons, ?_, hpercent⟩
  · rw [Scan.run_lowerAscii]
    exact hrun
  · intro h
    rw [Text.lowerAscii, List.getLast?_map, Option.map_eq_some_iff] at h
    obtain ⟨c, hc, hat⟩ := h
    rw [(toLower_eq_iff (by decide)).1 hat] at hc
    exact hlast hc

end Uri.Authority

/-! ### Addresses -/

namespace Address

/-- **Addresses that can be rebuilt.**  The canonical URL of an address that was read is a URI,
exactly when it is not too long and the brackets of the host are whole. -/
theorem exists_toUri_iff (hread : parse s = .ok a) :
    (∃ v, a.toUri = .ok v) ↔
      utf8Size a.canonical ≤ Uri.maxBytes ∧ Uri.Authority.HasWholeBrackets a.host := by
  obtain ⟨u, hu, hread⟩ := parse_eq_ok_iff.1 hread
  have hprintable := printable_of_ofUri hu hread
  obtain ⟨auth, -, hcheck, -, hhost, hne⟩ := authority_of_ofUri hu hread
  have hcheck' : Uri.Authority.check a.host = .ok () ↔ Uri.Authority.HasWholeBrackets a.host := by
    rw [hhost, ← Uri.Authority.hostPort_lowerAscii]
    exact Uri.Authority.check_hostPort_iff (Uri.Authority.check_lowerAscii hcheck)
  constructor
  · rintro ⟨v, hv⟩
    obtain ⟨hsize, -, hpass, -⟩ := hprintable.toUri_eq_ok_iff.1 hv
    exact ⟨hsize, hcheck'.1 hpass⟩
  · rintro ⟨hsize, hwhole⟩
    exact ⟨_, hprintable.toUri_eq_ok_iff.2 ⟨hsize, hne, hcheck'.2 hwhole, rfl⟩⟩

/-- Brackets in the middle of the host, with an escape between them. -/
theorem exists_toUri_brackets :
    ∃ a, parse "http://u:p@Logs[%41]:80/b/k".toList = .ok a ∧
      utf8Size a.canonical ≤ Uri.maxBytes ∧ Uri.Authority.HasWholeBrackets a.host ∧
        ∃ v, a.toUri = .ok v := by
  have hread : parse "http://u:p@Logs[%41]:80/b/k".toList
      = .ok { scheme := "http".toList, host := "logs[%41]:80".toList,
              endpoint := "logs[%41]:80".toList, bucket := "b".toList, key := "k".toList,
              pathStyle := true } := by decide +kernel
  have hsize : utf8Size "http://logs[%41]:80/b/k".toList ≤ Uri.maxBytes := by decide
  have hwhole : Uri.Authority.HasWholeBrackets "logs[%41]:80".toList :=
    fun _ _ _ => ⟨by decide, by decide⟩
  exact ⟨_, hread, hsize, hwhole, (exists_toUri_iff hread).2 ⟨hsize, hwhole⟩⟩

/-- **A host that is cut inside a pair of brackets cannot be rebuilt**: it ends at the first colon,
and the port is put behind what is left. -/
theorem half_bracket_not_rebuilt :
    ∃ a, parse "http://x[::]:80/b/k".toList = .ok a ∧ utf8Size a.canonical ≤ Uri.maxBytes ∧
      a.toUri = .error (.invalidUri .badAuthority) := by
  refine ⟨{ scheme := "http".toList, host := "x[:80".toList, endpoint := "x[:80".toList,
            bucket := "b".toList, key := "k".toList, pathStyle := true },
    by decide +kernel, by decide, by decide +kernel⟩

end Address

end BucketUrl
