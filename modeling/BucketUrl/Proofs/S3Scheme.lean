/-
BucketUrl/Proofs/S3Scheme.lean

URIs under the scheme that names a bucket where other schemes have a host.

Recognition asks for this scheme first and accepts every host under it.  The choice of a layout asks
for an Amazon host first.  On such a host the scheme does not count, and the bucket is looked for in
front of the marker or in the path.

Main result: `namesDirectly_iff`.  The host is the bucket and the path is the key exactly where the
host is no Amazon host.
-/
import BucketUrl.Proofs.RoundTrip

namespace BucketUrl

open Text

variable {scheme path : Text} {u : Uri} {l : Location} {a : Address} {parts : AmazonHost}

namespace Address

/-- The host is the bucket and the path is the key, and there is no endpoint. -/
structure NamesDirectly (host path : Text) (a : Address) : Prop where
  bucket : a.bucket = host
  endpoint : a.endpoint = []
  key : a.key = path
  pathStyle : a.pathStyle = false

/-- Off Amazon hosts nothing is asked of the host: it is the bucket, and the path is the key. -/
theorem ofLocation_s3Scheme (hs3 : l.scheme? = some .s3) (hhost : l.host ≠ [])
    (hamazon : AmazonHost.ofHost? l.host = none) :
    ofLocation l = .ok { Layout.bare l with bucket := l.host, key := l.path } := by
  have haccepted : l.finding.accepted = true := (Location.accepted_finding_iff l).2 (.inl hs3)
  refine ofLocation_eq_ok_iff.2 ⟨.s3Scheme, ?_, rfl⟩
  exact Layout.ofLocation_eq_ok_iff.2 ⟨.s3, hs3, hhost, .inr ⟨hamazon, haccepted, rfl⟩⟩

/-- On an Amazon host the bucket is a proper part of the host, or it is in the path. -/
theorem not_namesDirectly_of_amazon {layout : Layout} (hlayout : Layout.ofLocation l = .ok layout)
    (hread : layout.address l = .ok a) (hamazon : AmazonHost.ofHost? l.host = some parts) :
    ¬NamesDirectly l.host path a := by
  intro hdirect
  obtain ⟨-, -, -, ⟨parts', hparts, rfl⟩ | ⟨hnone, -⟩⟩ := Layout.ofLocation_eq_ok_iff.1 hlayout
  · rw [Layout.address] at hread
    split at hread
    · next bucket hbucket =>
      cases hread
      obtain ⟨-, hspells⟩ := AmazonHost.spells_of_ofHost? hparts
      obtain ⟨t, hname⟩ := hspells.exists_eq_bucket_append hbucket
      -- behind the bucket there is at least a dot
      have hlength := HostPort.length_name_le l.host
      have hbucket : bucket = l.host := hdirect.bucket
      rw [hname, hbucket, List.length_append, List.length_cons] at hlength
      omega
    · obtain ⟨b, hpath, rfl⟩ := map_eq_ok_iff.1 hread
      obtain ⟨hin, -⟩ := inPath_of_fromPath hpath
      exact Bool.false_ne_true (hdirect.pathStyle.symm.trans hin.pathStyle)
  · rw [hamazon] at hnone
    cases hnone

/-- Bucket and key are named directly exactly off Amazon hosts. -/
theorem exists_namesDirectly_iff (hs3 : l.scheme? = some .s3) (hhost : l.host ≠ []) :
    (∃ a, ofLocation l = .ok a ∧ NamesDirectly l.host l.path a) ↔
      AmazonHost.ofHost? l.host = none := by
  constructor
  · rintro ⟨a, hread, hdirect⟩
    obtain ⟨layout, hlayout, hread⟩ := ofLocation_eq_ok_iff.1 hread
    cases hamazon : AmazonHost.ofHost? l.host with
    | none => rfl
    | some parts => exact absurd hdirect (not_namesDirectly_of_amazon hlayout hread hamazon)
  · intro hamazon
    exact ⟨_, ofLocation_s3Scheme hs3 hhost hamazon, rfl, rfl, rfl, rfl⟩

end Address

/-! ### URIs -/

/-- **The scheme names bucket and key directly exactly off Amazon hosts.**  A URI under it is
recognised whatever its host, in any spelling of the scheme; the host is the bucket, however it
looks, unless it is an Amazon host. -/
theorem namesDirectly_iff (hscheme : u.scheme? = some scheme) (hs3 : Alike scheme "s3".toList)
    (hhost : u.hostPort ≠ []) (hpath : Utf8.decode (Percent.decode u.path) = .ok path) :
    u.isS3 = true ∧
      ((∃ a, Address.ofUri u = .ok a ∧
          a.NamesDirectly (lowerAscii u.hostPort) (Location.dropSlash path)) ↔
        AmazonHost.ofHost? (lowerAscii u.hostPort) = none) := by
  have hl : Location.ofUri u
      = .ok ⟨scheme, lowerAscii u.hostPort, Location.dropSlash path⟩ := by
    rw [Location.ofUri, hpath, hscheme]
    rfl
  have hls3 : Scheme.ofText? scheme = some .s3 := Scheme.ofText?_congr hs3
  have hlhost : lowerAscii u.hostPort ≠ [] := mt List.map_eq_nil_iff.1 hhost
  constructor
  · rw [Uri.isS3, hl]
    exact (Location.accepted_finding_iff _).2 (.inl hls3)
  · have hlocation := Address.exists_namesDirectly_iff
      (l := ⟨scheme, lowerAscii u.hostPort, Location.dropSlash path⟩) hls3 hlhost
    refine Iff.trans ?_ hlocation
    -- the query gives neither bucket nor key, endpoint or style
    constructor
    · rintro ⟨a, hread, hdirect⟩
      obtain ⟨b, hb, rfl⟩ := (Address.ofUri_eq_ok_iff_of_location hl).1 hread
      exact ⟨b, hb, hdirect.bucket, hdirect.endpoint, hdirect.key, hdirect.pathStyle⟩
    · rintro ⟨b, hb, hdirect⟩
      exact ⟨_, (Address.ofUri_eq_ok_iff_of_location hl).2 ⟨b, hb, rfl⟩,
        hdirect.bucket, hdirect.endpoint, hdirect.key, hdirect.pathStyle⟩

/-- A capital in the scheme, user information, a host with a sign that no bucket has, and a second
slash. -/
theorem namesDirectly_myBucket :
    ∃ u path, Uri.parse "S3://me@My_Bucket.example:+80//k%20x".toList = .ok u ∧
      u.scheme? = some "S3".toList ∧ Alike "S3".toList "s3".toList ∧ u.hostPort ≠ [] ∧
        Utf8.decode (Percent.decode u.path) = .ok path ∧ u.isS3 = true ∧
          ∃ a, Address.ofUri u = .ok a ∧
            a.NamesDirectly "my_bucket.example:+80".toList "/k x".toList := by
  have hu : Uri.parse "S3://me@My_Bucket.example:+80//k%20x".toList
      = .ok (.absolute "S3".toList "me@My_Bucket.example:+80".toList "//k%20x".toList none) := by
    decide +kernel
  have hs3 : Alike "S3".toList "s3".toList := by decide +kernel
  have hhost : Uri.hostPort (.absolute "S3".toList "me@My_Bucket.example:+80".toList
      "//k%20x".toList none) = "My_Bucket.example:+80".toList := by decide +kernel
  have hpath : Utf8.decode (Percent.decode "//k%20x".toList) = .ok "//k x".toList := by
    decide +kernel
  have hlower : lowerAscii "My_Bucket.example:+80".toList = "my_bucket.example:+80".toList := by
    decide +kernel
  have hamazon : AmazonHost.ofHost? "my_bucket.example:+80".toList = none := by decide +kernel
  have hne : Uri.hostPort (.absolute "S3".toList "me@My_Bucket.example:+80".toList
      "//k%20x".toList none) ≠ [] := by
    rw [hhost]
    exact List.cons_ne_nil _ _
  obtain ⟨hrecognised, hiff⟩ := namesDirectly_iff (u := .absolute "S3".toList
    "me@My_Bucket.example:+80".toList "//k%20x".toList none) rfl hs3 hne hpath
  rw [hhost, hlower] at hiff
  exact ⟨_, _, hu, rfl, hs3, hne, hpath, hrecognised, hiff.2 hamazon⟩

/-- **On an Amazon host the scheme does not count**: the bucket is what stands in front of the
marker, and there is an endpoint. -/
theorem amazonHost_not_bucket :
    ∃ u a, Uri.parse "s3://bucket.s3.amazonaws.com/key".toList = .ok u ∧
      u.scheme? = some "s3".toList ∧ u.hostPort = "bucket.s3.amazonaws.com".toList ∧
        Utf8.decode (Percent.decode u.path) = .ok "/key".toList ∧ Address.ofUri u = .ok a ∧
          a.bucket = "bucket".toList ∧ a.endpoint = "s3.amazonaws.com".toList := by
  refine ⟨.absolute "s3".toList "bucket.s3.amazonaws.com".toList "/key".toList none,
    { scheme := "s3".toList, host := "bucket.s3.amazonaws.com".toList,
      endpoint := "s3.amazonaws.com".toList, bucket := "bucket".toList, key := "key".toList },
    by decide +kernel, rfl, by decide +kernel, by decide +kernel, by decide +kernel, rfl, rfl⟩

end BucketUrl
