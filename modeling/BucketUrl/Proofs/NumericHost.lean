/-
BucketUrl/Proofs/NumericHost.lean

Hosts that are addresses of the Internet protocol, written as dotted quads.

A dotted quad is no bucket name.  But that is asked of the first label of a host, which is a single
run of digits, and not of the host: so a quad names a bucket unless its first run is too long
(`namesBucket_quad_iff`).

Main result: `quad_whole_iff`.  A quad is kept whole exactly where there is a path.  Under an empty
path its first run is the bucket, and only a run that is too long for that is rejected.
-/
import BucketUrl.Proofs.AzureHost
import BucketUrl.Proofs.DotlessHost

namespace BucketUrl

open Text Uri

variable {c : Char} {s port : Text} {u : Uri} {l : Location} {a : Address}

/-! ### Names that begin with a quad -/

/-- A dotted quad, with the signs of a port behind it or with nothing. -/
def IsQuadName (s : Text) : Prop :=
  ∃ quad rest, s = quad ++ rest ∧ BucketName.IsDottedQuad quad ∧
    ∀ c ∈ rest, c = ':' ∨ c = '+' ∨ c.isDigit = true

theorem BucketName.IsDottedQuad.not_mem (hs : BucketName.IsDottedQuad s) (hdot : c ≠ '.')
    (hdigit : c.isDigit = false) : c ∉ s := by
  intro hc
  rcases hs.mem_cases hc with h | h
  · exact hdot h
  · rw [hdigit] at h
    cases h

theorem BucketName.IsDottedQuad.head?_ne (hs : BucketName.IsDottedQuad s) : s.head? ≠ some '[' :=
  fun h => hs.not_mem (by decide) (by decide) (List.mem_of_head? h)

/-- Such a name has digits and the three signs, and nothing else. -/
theorem IsQuadName.not_mem (hs : IsQuadName s) (hsign : c ∉ ['.', ':', '+'])
    (hdigit : c.isDigit = false) : c ∉ s := by
  obtain ⟨quad, rest, rfl, hquad, hrest⟩ := hs
  simp only [List.mem_cons, List.not_mem_nil, or_false, not_or] at hsign
  intro hc
  rcases List.mem_append.1 hc with hc | hc
  · exact hquad.not_mem hsign.1 hdigit hc
  · rcases hrest c hc with h | h | h
    · exact hsign.2.1 h
    · exact hsign.2.2 h
    · rw [hdigit] at h
      cases h

/-- Its first label is the first run of digits. -/
theorem IsQuadName.cut? (hs : IsQuadName s) :
    IsDigits (before '.' s) ∧ ∃ rest, Text.cut? '.' s = some (before '.' s, rest) := by
  obtain ⟨quad, rest, rfl, hquad, -⟩ := hs
  obtain ⟨w, x, y, z, hw, -, -, -, rfl⟩ := hquad.exists_eq
  have hdot : '.' ∉ w := hw.not_mem (by decide)
  rw [List.append_assoc, List.cons_append, before_append_cons hdot, cut?_append_cons hdot]
  exact ⟨hw, _, rfl⟩

/-! ### Hosts that are quads -/

/-- The host of the URI without its port is a dotted quad, whichever of the two is asked what a port
is: the authority, or the host in lower case, which also loses brackets with its port. -/
def Uri.HasQuadHost (u : Uri) : Prop :=
  (∃ auth, u.authority? = some auth ∧ BucketName.IsDottedQuad (Authority.host auth)) ∨
    BucketName.IsDottedQuad (HostPort.name (lowerAscii u.hostPort))

theorem isQuadName_of_isDottedQuad (hs : BucketName.IsDottedQuad s) : IsQuadName s :=
  ⟨s, [], (List.append_nil s).symm, hs, fun _ hc => absurd hc List.not_mem_nil⟩

/-- What is left of a quad and its port is the quad, with a port if that is signed. -/
theorem isQuadName_append (hs : BucketName.IsDottedQuad s) (hport : Authority.IsPort port) :
    IsQuadName (HostPort.name (s ++ ':' :: port)) := by
  rw [HostPort.name_append hs.head?_ne (hport.not_mem (by decide) (by decide))]
  split
  · exact isQuadName_of_isDottedQuad hs
  · refine ⟨s, ':' :: port, rfl, hs, ?_⟩
    intro c hc
    rcases List.mem_cons.1 hc with h | h
    · exact .inl h
    · exact .inr (hport.mem_cases h)

/-- Whatever a port is, the name of the host begins with the quad. -/
theorem isQuadName_hostName (hquad : u.HasQuadHost) (hl : Location.ofUri u = .ok l) :
    IsQuadName l.hostName := by
  rw [Location.hostName, (Address.location_of_ofUri hl).2]
  rcases hquad with ⟨auth, hauth, hquad⟩ | hquad
  · rw [Uri.hostPort, hauth]
    show IsQuadName (HostPort.name (lowerAscii (Authority.hostPort auth)))
    rw [Authority.hostPort]
    split
    · next port hport =>
      have hport := (Authority.port?_eq_some hport).1
      have hcolon : ':'.toLower = ':' := rfl
      rw [lowerAscii_append, lowerAscii_cons, hcolon, hquad.lowerAscii_eq, hport.lowerAscii_eq]
      exact isQuadName_append hquad hport
    · rw [hquad.lowerAscii_eq,
        HostPort.name_eq_self hquad.head?_ne (hquad.not_mem (by decide) (by decide))]
      exact isQuadName_of_isDottedQuad hquad
  · exact isQuadName_of_isDottedQuad hquad

/-! ### What a quad is taken for -/

theorem AmazonHost.ofHost?_quad (hname : IsQuadName l.hostName) : ofHost? l.host = none :=
  ofHost?_eq_none (c := 'a') (by decide) (hname.not_mem (by decide) (by decide))

/-- A quad names a bucket unless its first run is too long. -/
theorem Location.namesBucket_quad_iff (hname : IsQuadName l.hostName) :
    l.NamesBucket ↔ (before '.' l.hostName).length ≤ BucketName.maxLength := by
  have hazure : ¬Rule.IsAzureHost l.hostName := fun h =>
    hname.not_mem (c := 'w') (by decide) (by decide) (Rule.mem_of_isAzureHost (by decide) h)
  obtain ⟨hdigits, rest, hcut⟩ := hname.cut?
  rw [NamesBucket, hcut, ← BucketName.plausible_iff_of_isDigits hdigits]
  simp [hazure]

/-- Under an empty path a quad is accepted for the bucket in it. -/
theorem Location.accepted_quad_iff (hname : IsQuadName l.hostName) (hpath : l.path = [])
    (hs3 : l.scheme? ≠ some .s3) (hhttp : l.scheme? = some .http ∨ l.scheme? = some .https) :
    l.finding.accepted = true ↔ (before '.' l.hostName).length ≤ BucketName.maxLength := by
  have hhost : l.host ≠ [] := by
    obtain ⟨-, rest, hcut⟩ := hname.cut?
    intro hnil
    rw [Location.hostName, hnil] at hcut
    cases hcut
  have hsegment : ¬BucketName.Plausible l.firstSegment := by
    rw [Location.firstSegment, hpath]
    exact BucketName.not_plausible_nil
  rw [accepted_finding_iff, AmazonHost.ofHost?_quad hname, namesBucket_quad_iff hname]
  simp [hs3, hhttp, hhost, hsegment]

/-- An address on a quad has the bucket in its path, or under an empty path the first run. -/
theorem Address.cases_of_quad (hread : ofLocation l = .ok a) (hname : IsQuadName l.hostName)
    (hs3 : l.scheme? ≠ some .s3) :
    l.path ≠ [] ∧ a.pathStyle = true ∧ a.endpoint = l.host ∨
      l.path = [] ∧ a.pathStyle = false ∧ a.bucket = before '.' l.hostName := by
  rcases fromPath_or_fromHost hread hs3 (AmazonHost.ofHost?_quad hname) with
    ⟨hpath, hread⟩ | ⟨hpath, bucket, endpoint, hbare, rfl⟩
  · obtain ⟨-, rfl⟩ := inPath_of_fromPath hread
    exact .inl ⟨hpath, rfl, rfl⟩
  · obtain ⟨-, ⟨rest, hcut⟩, -⟩ := Layout.ofBareHost_eq_host_iff.1 hbare
    obtain ⟨-, rest', hcut'⟩ := hname.cut?
    rw [hcut'] at hcut
    cases hcut
    exact .inr ⟨hpath, rfl, rfl⟩

/-! ### URIs on quads -/

section Quad

variable (hhttp : u.IsHttp) (hquad : u.HasQuadHost) (hl : Location.ofUri u = .ok l)

include hhttp hquad hl

/-- Under an empty path only a run that is too long to name a bucket is rejected. -/
theorem quad_rejected_iff (hpath : l.path = []) :
    (u.isS3 = false ∧ ∃ reason, Address.ofUri u = .error (.invalidUrl reason)) ↔
      BucketName.maxLength < (before '.' l.hostName).length := by
  have haccepted := Location.accepted_quad_iff (isQuadName_hostName hquad hl) hpath
    (Uri.scheme?_ne_s3_of_isHttp hhttp hl) (Uri.scheme?_of_isHttp hhttp hl)
  have hisS3 : u.isS3 = l.finding.accepted := by rw [Uri.isS3, hl]
  rw [← not_le, ← haccepted, ← hisS3, Bool.not_eq_true]
  constructor
  · exact And.left
  · intro hfalse
    refine ⟨hfalse, (Address.exists_rejection_iff u).2 ?_⟩
    rintro ⟨a, hread⟩
    exact Bool.eq_false_iff.1 hfalse (Address.isS3_of_ofUri hread)

/-- What is read has the quad for its endpoint where there is a path, and else its first run for its
bucket. -/
theorem whole_iff_of_quad (hread : Address.ofUri u = .ok a) :
    (a.pathStyle = true ∧ a.endpoint = lowerAscii u.hostPort ↔ l.path ≠ []) ∧
      (l.path = [] → a.bucket = before '.' l.hostName) := by
  obtain ⟨b, hb, rfl⟩ := (Address.ofUri_eq_ok_iff_of_location hl).1 hread
  rw [← (Address.location_of_ofUri hl).2]
  show (b.pathStyle = true ∧ b.endpoint = l.host ↔ _) ∧ (_ → b.bucket = _)
  rcases Address.cases_of_quad hb (isQuadName_hostName hquad hl)
      (Uri.scheme?_ne_s3_of_isHttp hhttp hl) with
    ⟨hpath, hstyle, hendpoint⟩ | ⟨hpath, hstyle, hbucket⟩
  · exact ⟨iff_of_true ⟨hstyle, hendpoint⟩ hpath, fun h => absurd h hpath⟩
  · refine ⟨iff_of_false ?_ (not_not_intro hpath), fun _ => hbucket⟩
    rintro ⟨h, -⟩
    rw [hstyle] at h
    cases h

end Quad

/-- **A dotted quad is kept whole exactly where there is a path.**  Under an empty path the URI is
rejected only if the first run of digits is too long to name a bucket, and what is read has that run
for its bucket. -/
theorem quad_whole_iff (hhttp : u.IsHttp) (hquad : u.HasQuadHost)
    (hl : Location.ofUri u = .ok l) :
    (l.path = [] →
      (u.isS3 = false ∧ (∃ reason, Address.ofUri u = .error (.invalidUrl reason)) ↔
        BucketName.maxLength < (before '.' l.hostName).length)) ∧
      ∀ a, Address.ofUri u = .ok a →
        (a.pathStyle = true ∧ a.endpoint = lowerAscii u.hostPort ↔ l.path ≠ []) ∧
          (l.path = [] → a.bucket = before '.' l.hostName) :=
  ⟨quad_rejected_iff hhttp hquad hl, fun _ hread => whole_iff_of_quad hhttp hquad hl hread⟩

/-- User information, and a port that only the authority takes for one. -/
theorem quad_whole_logs :
    ∃ u l a, Uri.parse "http://me@10.0.0.1:+80/Logs/k".toList = .ok u ∧ u.IsHttp ∧
      u.HasQuadHost ∧ Location.ofUri u = .ok l ∧ l.path ≠ [] ∧ Address.ofUri u = .ok a ∧
        a.pathStyle = true ∧ a.endpoint = lowerAscii u.hostPort := by
  have hu : Uri.parse "http://me@10.0.0.1:+80/Logs/k".toList
      = .ok (.absolute "http".toList "me@10.0.0.1:+80".toList "/Logs/k".toList none) := by
    decide +kernel
  have hquad : Uri.HasQuadHost
      (.absolute "http".toList "me@10.0.0.1:+80".toList "/Logs/k".toList none) :=
    .inl ⟨_, rfl, by decide +kernel⟩
  have hl : Location.ofUri
      (.absolute "http".toList "me@10.0.0.1:+80".toList "/Logs/k".toList none)
      = .ok ⟨"http".toList, "10.0.0.1:+80".toList, "Logs/k".toList⟩ := by decide +kernel
  have hread : Address.ofUri
      (.absolute "http".toList "me@10.0.0.1:+80".toList "/Logs/k".toList none)
      = .ok { scheme := "http".toList, host := "10.0.0.1:+80".toList,
              endpoint := "10.0.0.1:+80".toList, bucket := "logs".toList, key := "k".toList,
              pathStyle := true } := by decide +kernel
  have hpath : (Location.mk "http".toList "10.0.0.1:+80".toList "Logs/k".toList).path ≠ [] :=
    List.cons_ne_nil _ _
  have hwhole := ((quad_whole_iff (.inl rfl) hquad hl).2 _ hread).1.2 hpath
  exact ⟨_, _, _, hu, .inl rfl, hquad, hl, hpath, hread, hwhole⟩

/-- **A quad without a path is split**: its first number is the bucket, and the other three are the
endpoint. -/
theorem quad_split :
    ∃ u l a, Uri.parse "http://192.168.1.100:9000".toList = .ok u ∧ u.IsHttp ∧
      u.HasQuadHost ∧ Location.ofUri u = .ok l ∧ l.path = [] ∧ u.isS3 = true ∧
        Address.ofUri u = .ok a ∧ a.pathStyle = false ∧ a.bucket = "192".toList ∧
          a.endpoint = "168.1.100:9000".toList := by
  refine ⟨.absolute "http".toList "192.168.1.100:9000".toList "/".toList none,
    ⟨"http".toList, "192.168.1.100:9000".toList, []⟩,
    { scheme := "http".toList, host := "192.168.1.100:9000".toList,
      endpoint := "168.1.100:9000".toList, bucket := "192".toList },
    by decide +kernel, .inl rfl, .inr (by decide +kernel), by decide +kernel, rfl,
    by decide +kernel, by decide +kernel, rfl, rfl, rfl⟩

end BucketUrl
