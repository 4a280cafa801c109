/-
BucketUrl/Proofs/PlainHost.lean

Bare hosts, which have no colon and no bracket before them, and plain hosts, which have a name of
ASCII letters, digits, dots and hyphens; each perhaps with a decimal port behind a colon.

Nothing that is particular to authorities happens to them.  A bare host with its port is its own
host and port (`IsBareHost.isHostPort_append`), and what is left without the port is the host
(`IsBareHost.name_append`).  A plain host is bare, and it passes the check (`check_plainHost`).
-/
import BucketUrl.BucketName
import BucketUrl.Proofs.Authority
import BucketUrl.Proofs.HostName

namespace BucketUrl

open Text Uri

variable {c : Char} {host name suffix : Text}

/-- A host that is not empty, has no colon and does not begin with a bracket. -/
structure IsBareHost (host : Text) : Prop where
  ne_nil : host ≠ []
  colon : ':' ∉ host
  bracket : host.head? ≠ some '['

/-- A nonempty text of ASCII letters, digits, dots and hyphens. -/
def IsPlainName (name : Text) : Prop :=
  name ≠ [] ∧ ∀ c ∈ name, c.toLower ∈ BucketName.chars

/-- A decimal port of at most 16 bits behind a colon, or nothing. -/
inductive IsPortSuffix : Text → Prop
  | none : IsPortSuffix []
  | port {digits : Text} :
      IsDigits digits → digitsValue digits ≤ Authority.maxPort → IsPortSuffix (':' :: digits)

/-! ### Characters -/

theorem toLower_mem_chars_iff :
    c.toLower ∈ BucketName.chars ↔ c.toNat = 0x2D ∨ c.toNat = 0x2E ∨
      (0x30 ≤ c.toNat ∧ c.toNat ≤ 0x39) ∨ (0x41 ≤ c.toNat ∧ c.toNat ≤ 0x5A) ∨
        (0x61 ≤ c.toNat ∧ c.toNat ≤ 0x7A) := by
  simp only [CharSet.mem_iff, BucketName.chars, List.mem_cons, List.not_mem_nil, or_false,
    exists_eq_or_imp, exists_eq_left, toNat_toLower]
  split
  · omega
  · omega

theorem mem_chars_of_toLower (hc : c.toLower ∈ BucketName.chars) :
    c ∈ Authority.chars ∧ c ∉ [':', '[', ']', '@', '%'] := by
  have h := toLower_mem_chars_iff.1 hc
  constructor
  · simp only [CharSet.mem_iff, Authority.chars, List.mem_cons, List.not_mem_nil, or_false,
      exists_eq_or_imp, exists_eq_left]
    omega
  · intro hsign
    simp only [List.mem_cons, List.not_mem_nil, or_false] at hsign
    rcases hsign with rfl | rfl | rfl | rfl | rfl
    · exact absurd hc (by decide)
    · exact absurd hc (by decide)
    · exact absurd hc (by decide)
    · exact absurd hc (by decide)
    · exact absurd hc (by decide)

theorem toLower_mem_chars_of_isDigit (hc : c.isDigit = true) : c.toLower ∈ BucketName.chars := by
  have := isDigit_iff.1 hc
  exact toLower_mem_chars_iff.2 (.inr (.inr (.inl this)))

theorem IsPlainName.not_mem (hname : IsPlainName name) (hc : c.toLower ∉ BucketName.chars) :
    c ∉ name :=
  fun h => hc (hname.2 c h)

theorem IsPlainName.append_dot {name' : Text} (hname : IsPlainName name)
    (hname' : IsPlainName name') : IsPlainName (name ++ '.' :: name') := by
  refine ⟨by simp, ?_⟩
  intro c hc
  rcases List.mem_append.1 hc with hc | hc
  · exact hname.2 c hc
  · rcases List.mem_cons.1 hc with rfl | hc
    · decide
    · exact hname'.2 c hc

/-! ### Plain hosts as authorities -/

theorem isPort_of_isDigits {digits : Text} (hdigits : IsDigits digits)
    (hmax : digitsValue digits ≤ Authority.maxPort) : Authority.IsPort digits := by
  have hunsigned : Authority.unsigned digits = digits := by
    rw [Authority.unsigned.eq_def]
    split
    · exact absurd List.mem_cons_self (hdigits.not_mem (by decide))
    · rfl
  rw [Authority.IsPort, hunsigned]
  exact ⟨hdigits, hmax⟩

theorem IsBareHost.isHost (hhost : IsBareHost host) (hat : '@' ∉ host) : Authority.IsHost host :=
  ⟨hat, .inr ⟨hhost.bracket, hhost.colon⟩⟩

/-- A bare host with its port is its own host and port. -/
theorem IsBareHost.isHostPort_append (hhost : IsBareHost host) (hat : '@' ∉ host)
    (hsuffix : IsPortSuffix suffix) : Authority.IsHostPort (host ++ suffix) := by
  cases hsuffix with
  | none => simpa using Authority.IsHostPort.bare (hhost.isHost hat)
  | port hdigits hmax => exact .port (hhost.isHost hat) (isPort_of_isDigits hdigits hmax)

theorem IsPlainName.isBareHost (hname : IsPlainName name) : IsBareHost name where
  ne_nil := hname.1
  colon := hname.not_mem (by decide)
  bracket := fun hhead => hname.not_mem (c := '[') (by decide) (List.mem_of_head? hhead)

/-- A plain host is its own host and port. -/
theorem isHostPort_plainHost (hname : IsPlainName name) (hsuffix : IsPortSuffix suffix) :
    Authority.IsHostPort (name ++ suffix) :=
  hname.isBareHost.isHostPort_append (hname.not_mem (by decide)) hsuffix

/-- A plain host passes the check of authorities. -/
theorem check_plainHost (hname : IsPlainName name) (hsuffix : IsPortSuffix suffix) :
    Authority.check (name ++ suffix) = .ok () := by
  have hlast {s : Text} (hs : '@' ∉ s) : s.getLast? ≠ some '@' :=
    fun h => hs (List.mem_of_getLast? h)
  have hat := hname.not_mem (c := '@') (by decide)
  have hplain := fun c hc => mem_chars_of_toLower (hname.2 c hc)
  rw [Authority.check_eq_ok_iff]
  cases hsuffix with
  | none =>
    rw [List.append_nil]
    exact ⟨{}, Authority.Scan.run_eq_ok hplain, by decide, by decide, hlast hat, rfl⟩
  | @port digits hdigits hmax =>
    -- the scan counts one colon and is not moved by name and digits
    have hdigit := hdigits.not_mem (c := '@') (by decide)
    have hrun : ({ colons := 1 } : Authority.Scan).run digits = .ok { colons := 1 } :=
      Authority.Scan.run_eq_ok fun c hc =>
        mem_chars_of_toLower (toLower_mem_chars_of_isDigit (hdigits.2 c hc))
    refine ⟨{ colons := 1 }, ?_, by decide, by decide, hlast (by simp [hat, hdigit]), rfl⟩
    rw [Authority.Scan.run_append_eq_ok_iff]
    refine ⟨{}, Authority.Scan.run_eq_ok hplain, ?_⟩
    rw [Authority.Scan.run_cons_eq_ok_iff]
    exact ⟨{ colons := 1 }, rfl, hrun⟩

theorem not_isDelimiter_plainHost (hname : IsPlainName name) (hsuffix : IsPortSuffix suffix)
    (hc : c ∈ name ++ suffix) : ¬IsDelimiter c :=
  Authority.not_isDelimiter_of_mem_chars
    (Authority.mem_chars_of_check (check_plainHost hname hsuffix) hc)

/-! ### Lower case and name -/

theorem IsPortSuffix.lowerAscii_eq (hsuffix : IsPortSuffix suffix) :
    lowerAscii suffix = suffix := by
  cases hsuffix with
  | none => rfl
  | port hdigits hmax =>
    rw [lowerAscii_cons, (isPort_of_isDigits hdigits hmax).lowerAscii_eq]
    rfl

theorem IsPlainName.lowerAscii (hname : IsPlainName name) : IsPlainName (lowerAscii name) := by
  refine ⟨by simp [Text.lowerAscii, hname.1], ?_⟩
  intro c hc
  obtain ⟨d, hd, rfl⟩ := List.mem_map.1 hc
  rw [toLower_toLower]
  exact hname.2 d hd

/-- A text over the characters of bucket names is in lower case. -/
theorem lowerAscii_of_mem_chars (hname : ∀ c ∈ name, c ∈ BucketName.chars) :
    lowerAscii name = name := by
  apply lowerAscii_eq_self
  intro c hc
  have hc := hname c hc
  simp only [CharSet.mem_iff, BucketName.chars, List.mem_cons, List.not_mem_nil, or_false,
    exists_eq_or_imp, exists_eq_left] at hc
  omega

theorem isPlainName_of_mem_chars (hne : name ≠ []) (hname : ∀ c ∈ name, c ∈ BucketName.chars) :
    IsPlainName name := by
  refine ⟨hne, ?_⟩
  intro c hc
  have hlower : c.toLower ∈ lowerAscii name := List.mem_map_of_mem hc
  rw [lowerAscii_of_mem_chars hname] at hlower
  exact hname _ hlower

/-- Without its port a bare host is itself. -/
theorem IsBareHost.name_append (hhost : IsBareHost host) (hsuffix : IsPortSuffix suffix) :
    HostPort.name (host ++ suffix) = host := by
  cases hsuffix with
  | none => rw [List.append_nil, HostPort.name_eq_self hhost.bracket hhost.colon]
  | port hdigits _ =>
    rw [HostPort.name_append hhost.bracket (hdigits.not_mem (by decide)), if_pos hdigits]

theorem IsBareHost.name_eq (hhost : IsBareHost host) : HostPort.name host = host :=
  HostPort.name_eq_self hhost.bracket hhost.colon

/-- Without its port a plain host is its name. -/
theorem name_plainHost (hname : IsPlainName name) (hsuffix : IsPortSuffix suffix) :
    HostPort.name (name ++ suffix) = name :=
  hname.isBareHost.name_append hsuffix

end BucketUrl
