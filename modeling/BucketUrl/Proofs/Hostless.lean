/-
BucketUrl/Proofs/Hostless.lean

URIs whose authority has no host.

Without a port nothing is left of such an authority, and the URI is rejected for the empty host.
But host and port are looked at together, and with a port they are not empty: what is left is a
colon and the port, which is taken for a host without a dot.

Main result: `hostless_rejected_iff`.  A URI without a host is rejected, and over HTTP it is not
recognised, unless it has a port and its scheme or its path shows a bucket.
-/
import BucketUrl.Proofs.DotlessHost

namespace BucketUrl

open Text Uri

variable {auth : Text} {u : Uri} {l : Location}

/-- The URI shows a bucket by its scheme, or over HTTP by the beginning of its path. -/
def Uri.ShowsBucket (u : Uri) : Prop :=
  ∃ l, Location.ofUri u = .ok l ∧ l.ShowsBucket

/-! ### What is left without a host -/

/-- Host and port of an authority without a host: nothing, or a colon and a port. -/
theorem Uri.Authority.hostPort_hostless (hhost : Authority.host auth = []) :
    Authority.port? auth = none ∧ Authority.hostPort auth = [] ∨
      ∃ port, Authority.IsPort port ∧ Authority.port? auth = some port ∧
        Authority.hostPort auth = ':' :: port := by
  rw [Authority.hostPort, hhost]
  cases hport : Authority.port? auth with
  | none => exact .inl ⟨rfl, rfl⟩
  | some port => exact .inr ⟨port, (Authority.port?_eq_some hport).1, rfl, rfl⟩

section Hostless

variable (hauth : u.authority? = some auth) (hhost : Authority.host auth = [])
  (hl : Location.ofUri u = .ok l)

include hauth hhost hl

theorem host_eq_nil_iff_of_hostless : l.host = [] ↔ Authority.port? auth = none := by
  rw [host_eq_nil_iff hl, Uri.hostPort, hauth]
  show Authority.hostPort auth = [] ↔ _
  rcases Authority.hostPort_hostless hhost with ⟨hport, hempty⟩ | ⟨port, -, hport, hcolon⟩
  · simp [hport, hempty]
  · simp [hport, hcolon]

/-- No dot stands in a port. -/
theorem dot_not_mem_hostName_of_hostless : '.' ∉ l.hostName := by
  intro hdot
  have hmem : '.' ∈ Authority.hostPort auth := by
    have hhost' : '.' ∈ l.host := HostPort.mem_of_mem_name hdot
    rw [(Address.location_of_ofUri hl).2, Uri.hostPort, hauth] at hhost'
    exact (mem_lowerAscii_iff (by decide)).1 hhost'
  rcases Authority.hostPort_hostless hhost with ⟨-, hempty⟩ | ⟨port, hport, -, hcolon⟩
  · rw [hempty] at hmem
    cases hmem
  · rw [hcolon] at hmem
    rcases List.mem_cons.1 hmem with h | h
    · exact absurd h (by decide)
    · exact hport.not_mem (by decide) (by decide) h

theorem exists_ofLocation_iff_of_hostless :
    (∃ a, Address.ofLocation l = .ok a) ↔ Authority.port? auth ≠ none ∧ l.ShowsBucket := by
  rw [Address.exists_ofLocation_dotless_iff (dot_not_mem_hostName_of_hostless hauth hhost hl),
    ne_eq, host_eq_nil_iff_of_hostless hauth hhost hl]

/-- Over HTTP the rules accept what is read, and nothing else. -/
theorem accepted_iff_of_hostless (hhttp : u.IsHttp) :
    l.finding.accepted = true ↔ Authority.port? auth ≠ none ∧ l.ShowsBucket := by
  rw [ne_eq, ← host_eq_nil_iff_of_hostless hauth hhost hl]
  by_cases hnil : l.host = []
  · rw [Location.accepted_finding_iff]
    simp [hnil, Uri.scheme?_ne_s3_of_isHttp hhttp hl]
  · rw [Location.accepted_dotless_iff (dot_not_mem_hostName_of_hostless hauth hhost hl) hnil]
    simp [hnil]

end Hostless

/-! ### URIs without a host -/

section Rejected

variable (hauth : u.authority? = some auth) (hhost : Authority.host auth = [])

include hauth hhost

theorem exists_ofUri_iff_of_hostless :
    (∃ a, Address.ofUri u = .ok a) ↔ Authority.port? auth ≠ none ∧ u.ShowsBucket := by
  rw [Uri.ShowsBucket, Address.ofUri]
  cases hl : Location.ofUri u with
  | error fault => simp
  | ok l =>
    dsimp only
    rw [exists_map_eq_ok_iff, exists_ofLocation_iff_of_hostless hauth hhost hl]
    simp

theorem isS3_iff_of_hostless (hhttp : u.IsHttp) :
    u.isS3 = true ↔ Authority.port? auth ≠ none ∧ u.ShowsBucket := by
  rw [Uri.ShowsBucket, Uri.isS3]
  cases hl : Location.ofUri u with
  | error fault => simp
  | ok l =>
    dsimp only
    rw [accepted_iff_of_hostless hauth hhost hl hhttp]
    simp

end Rejected

/-- **A URI without a host is rejected**, and over HTTP it is not recognised, unless its authority
has a port and its scheme or its path shows a bucket. -/
theorem hostless_rejected_iff (hauth : u.authority? = some auth)
    (hhost : Authority.host auth = []) :
    ((∃ reason, Address.ofUri u = .error (.invalidUrl reason)) ↔
        Authority.port? auth = none ∨ ¬u.ShowsBucket) ∧
      (u.IsHttp → (u.isS3 = false ↔ Authority.port? auth = none ∨ ¬u.ShowsBucket)) := by
  have hnot : Authority.port? auth = none ∨ ¬u.ShowsBucket ↔
      ¬(Authority.port? auth ≠ none ∧ u.ShowsBucket) := by
    rw [not_and_or, not_ne_iff]
  rw [hnot]
  constructor
  · rw [Address.exists_rejection_iff, exists_ofUri_iff_of_hostless hauth hhost]
  · intro hhttp
    rw [← isS3_iff_of_hostless hauth hhost hhttp, Bool.not_eq_true]

/-- User information, and a colon with no port behind it. -/
theorem hostless_rejected_userInfo :
    ∃ u auth, Uri.parse "http://me:pw@:x/bucket/key".toList = .ok u ∧ u.IsHttp ∧
      u.authority? = some auth ∧ Authority.host auth = [] ∧ Authority.port? auth = none ∧
        u.isS3 = false ∧ ∃ reason, Address.ofUri u = .error (.invalidUrl reason) := by
  have hu : Uri.parse "http://me:pw@:x/bucket/key".toList
      = .ok (.absolute "http".toList "me:pw@:x".toList "/bucket/key".toList none) := by
    decide +kernel
  have hhost : Authority.host "me:pw@:x".toList = [] := by decide +kernel
  have hport : Authority.port? "me:pw@:x".toList = none := by decide +kernel
  obtain ⟨hrejected, hrecognised⟩ := hostless_rejected_iff
    (u := .absolute "http".toList "me:pw@:x".toList "/bucket/key".toList none) rfl hhost
  exact ⟨_, _, hu, .inl rfl, rfl, hhost, hport, (hrecognised (.inl rfl)).2 (.inl hport),
    hrejected.2 (.inl hport)⟩

/-- **A port stands in for a host**: with a bucket in the path, the URI is recognised, and the
endpoint is the port alone. -/
theorem lone_port_recognised :
    ∃ u auth a, Uri.parse "http://:80/b/k".toList = .ok u ∧ u.IsHttp ∧
      u.authority? = some auth ∧ Authority.host auth = [] ∧ u.isS3 = true ∧
        Address.ofUri u = .ok a ∧ a.endpoint = ":80".toList ∧ a.bucket = "b".toList := by
  refine ⟨.absolute "http".toList ":80".toList "/b/k".toList none, _,
    { scheme := "http".toList, host := ":80".toList, endpoint := ":80".toList,
      bucket := "b".toList, key := "k".toList, pathStyle := true },
    by decide +kernel, .inl rfl, rfl, by decide +kernel, by decide +kernel, by decide +kernel,
    rfl, rfl⟩

end BucketUrl
