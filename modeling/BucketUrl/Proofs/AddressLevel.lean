/-
BucketUrl/Proofs/AddressLevel.lean

What is named over HTTP on a host that is no Amazon host.

The path decides.  If there is one, its first segment is the bucket, and that is empty for a lone
slash only, because a key without a bucket is refused.  If there is none, the location was accepted
for its host, so the bucket is there.  The choice of a layout provides for a host that names no
bucket either, but nothing that was accepted is such a host (`Layout.ofLocation_ne_service`).

Main result: `levelByPath_of_ofUri`.
-/
import BucketUrl.Proofs.RoundTrip

namespace BucketUrl

open Text

variable {l : Location} {u : Uri} {a : Address} {path : Text}

/-! ### Layouts and paths -/

/-- No location has the layout of a bare service. -/
theorem Layout.ofLocation_ne_service (l : Location) : ofLocation l ≠ .ok .service := by
  intro hlayout
  obtain ⟨scheme, hscheme, hhost, ⟨parts, -, hservice⟩ | ⟨hamazon, haccepted, hservice⟩⟩ :=
    ofLocation_eq_ok_iff.1 hlayout
  · cases hservice
  · obtain ⟨-, heq⟩ | ⟨-, -, heq⟩ | ⟨-, -, -, bucket, endpoint, -, heq⟩ :=
      Address.ofOtherHost_cases hscheme hhost hamazon haccepted
    · cases hservice.trans heq
    · cases hservice.trans heq
    · cases hservice.trans heq

/-- A path is taken apart at its first slash, if it has one. -/
theorem Layout.eq_splitPath (path : Text) :
    path = (splitPath path).1 ++ '/' :: (splitPath path).2 ∨
      path = (splitPath path).1 ∧ (splitPath path).2 = [] := by
  rw [splitPath]
  cases hcut : cut? '/' path with
  | none => exact .inr ⟨rfl, rfl⟩
  | some parts => exact .inl (cut?_eq_some_iff.1 hcut).2

/-- Where a key needs a bucket, only a lone slash has none. -/
theorem Layout.splitPath_fst_eq_nil_iff (hpath : path ≠ [])
    (hkey : (splitPath path).1 = [] → (splitPath path).2 = []) :
    (splitPath path).1 = [] ↔ path = ['/'] := by
  constructor
  · intro hbucket
    rcases eq_splitPath path with h | ⟨h, -⟩
    · rw [hbucket, hkey hbucket] at h
      exact h
    · exact absurd (h.trans hbucket) hpath
  · rintro rfl
    rfl

namespace Address

/-! ### Levels -/

/-- The path of a location decides what an address names. -/
structure LevelByPath (l : Location) (a : Address) : Prop where
  /-- A service is named by a lone slash, and by nothing else. -/
  service : a.kind = .service ↔ l.path = ['/']
  /-- Without a path the first label of the host is a bucket. -/
  host : l.path = [] →
    a.kind = .bucket ∧ a.bucket ≠ [] ∧ (∃ rest, cut? '.' l.hostName = some (a.bucket, rest)) ∧
      Layout.ofLocation l = .ok (.host a.bucket a.endpoint)
  /-- Any other path has a bucket before its first slash and the key behind it. -/
  path : l.path ≠ [] → l.path ≠ ['/'] →
    a.bucket ≠ [] ∧ a.bucket = lowercase l.firstSegment ∧
      (l.path = l.firstSegment ++ '/' :: a.key ∨ l.path = l.firstSegment ∧ a.key = [])

theorem levelByPath_of_ofLocation (hread : ofLocation l = .ok a) (hs3 : l.scheme? ≠ some .s3)
    (hother : AmazonHost.ofHost? l.host = none) : LevelByPath l a := by
  obtain ⟨layout, hlayout, hread⟩ := ofLocation_eq_ok_iff.1 hread
  obtain ⟨hpath, rfl⟩ | ⟨hpath, bucket, endpoint, hbare, rfl⟩ := path_or_host hlayout hs3 hother
  · obtain ⟨hin, rfl⟩ := inPath_of_fromPath hread
    have hkey : (Layout.splitPath l.path).1 = [] → (Layout.splitPath l.path).2 = [] :=
      fun h => hin.key (lowercase_eq_nil_iff.2 h)
    have hnil : lowercase (Layout.splitPath l.path).1 = [] ↔ l.path = ['/'] :=
      lowercase_eq_nil_iff.trans (Layout.splitPath_fst_eq_nil_iff hpath hkey)
    constructor
    case service => exact kind_eq_service_iff.trans hnil
    case host => exact fun h => absurd h hpath
    case path =>
      rw [firstSegment_eq]
      exact fun _ hslash => ⟨fun h => hslash (hnil.1 h), rfl, Layout.eq_splitPath l.path⟩
  · cases hread
    obtain ⟨hlabel, hcut, -⟩ := Layout.ofBareHost_eq_host_iff.1 hbare
    constructor
    case service =>
      rw [kind_eq_service_iff, hpath]
      exact iff_of_false hlabel.ne_nil (List.cons_ne_nil _ _).symm
    case host =>
      refine fun _ => ⟨?_, hlabel.ne_nil, hcut, hlayout⟩
      rw [kind, if_neg hlabel.ne_nil]
      rfl
    case path => exact fun h => absurd hpath h

/-- **Over HTTP the path decides what is named on a host that is no Amazon host**: a lone slash
names the service, no path the bucket at the beginning of the host, and any other path the bucket in
it.  The layout of a bare service is never chosen, for this location or any other. -/
theorem levelByPath_of_ofUri (hread : ofUri u = .ok a) (hhttp : u.IsHttp)
    (hl : Location.ofUri u = .ok l) (hother : AmazonHost.ofHost? l.host = none) :
    LevelByPath l a ∧ ∀ l', Layout.ofLocation l' ≠ .ok .service := by
  obtain ⟨b, hb, rfl⟩ := (ofUri_eq_ok_iff_of_location hl).1 hread
  have hlevel := levelByPath_of_ofLocation hb (Uri.scheme?_ne_s3_of_isHttp hhttp hl) hother
  -- the query changes neither the bucket nor the key nor the endpoint
  exact ⟨⟨hlevel.service, hlevel.host, hlevel.path⟩, Layout.ofLocation_ne_service⟩

/-- An escaped slash names the service just as a written one does, although the host begins with
what could name a bucket. -/
theorem levelByPath_escaped_slash :
    ∃ u l a, Uri.parse "http://me@Logs.Minio.local:9000/%2F?versionId=2".toList = .ok u ∧
      u.IsHttp ∧ Location.ofUri u = .ok l ∧ AmazonHost.ofHost? l.host = none ∧ ofUri u = .ok a ∧
        l.NamesBucket ∧ a.kind = .service := by
  have hu : Uri.parse "http://me@Logs.Minio.local:9000/%2F?versionId=2".toList
      = .ok (.absolute "http".toList "me@Logs.Minio.local:9000".toList "/%2F".toList
        (some "versionId=2".toList)) := by decide +kernel
  have hl : Location.ofUri (.absolute "http".toList "me@Logs.Minio.local:9000".toList
      "/%2F".toList (some "versionId=2".toList))
      = .ok ⟨"http".toList, "logs.minio.local:9000".toList, "/".toList⟩ := by decide +kernel
  have hread : ofUri (.absolute "http".toList "me@Logs.Minio.local:9000".toList "/%2F".toList
      (some "versionId=2".toList))
      = .ok { scheme := "http".toList, host := "logs.minio.local:9000".toList,
              endpoint := "logs.minio.local:9000".toList, version := "2".toList,
              pathStyle := true } := by decide +kernel
  have hother : AmazonHost.ofHost? "logs.minio.local:9000".toList = none := by decide +kernel
  have hname : (Location.mk "http".toList "logs.minio.local:9000".toList "/".toList).NamesBucket :=
    ⟨"logs".toList, "minio.local".toList, by decide +kernel⟩
  obtain ⟨hlevel, -⟩ := levelByPath_of_ofUri hread (.inl rfl) hl hother
  exact ⟨_, _, _, hu, .inl rfl, hl, hother, hread, hname, hlevel.service.2 rfl⟩

end Address

end BucketUrl
