/-
BucketUrl/Proofs/ServiceLevel.lean

The canonical URL of a service, read again.

A service has no bucket, so its canonical URL has no path.  On an Amazon host that does not matter,
since the host alone says that no bucket is in it.  Any other host is looked at for a bucket as
soon as the path is empty, and one that was accepted for a path without bucket had been accepted
for its first label (`Unnamed`).  So this label is the bucket that is read the second time.

Main result: `service_reread`.  A service stays a service on Amazon hosts, and only there.
-/
import BucketUrl.Proofs.RoundTrip

namespace BucketUrl.Address

open Text

variable {a b : Address} {s bucket query : Text} {u v : Uri} {scheme : Scheme}

/-! ### What a service is taken for -/

/-- The address with this bucket in its host, before this endpoint, and without a key. -/
def hosted (bucket endpoint : Text) (a : Address) : Address :=
  { a with bucket := bucket, endpoint := endpoint, key := [], pathStyle := false }

/-- The address `b` is `a` with the first label of its host taken for a bucket. -/
structure TakesLabel (a b : Address) : Prop where
  /-- The first label of the name is the bucket. -/
  bucket : ∃ rest, cut? '.' (HostPort.name a.host) = some (b.bucket, rest)
  /-- It can name one. -/
  label : BucketName.Plausible b.bucket
  /-- What follows the first dot of the host is the endpoint. -/
  endpoint : ∃ front, cut? '.' a.host = some (front, b.endpoint)
  /-- There is no key, and nothing else has changed. -/
  rest : b = a.hosted b.bucket b.endpoint

theorem TakesLabel.kind (h : TakesLabel a b) : b.kind = .bucket := by
  have hkey : b.key = [] := by
    rw [h.rest]
    rfl
  rw [Address.kind, if_neg h.label.ne_nil, if_pos hkey]

/-- Nothing of the path is printed without a bucket, nor with a bucket in the host and no key. -/
theorem location_hosted (ha : a.bucket = []) (hbucket : bucket ≠ []) (endpoint : Text) :
    (a.hosted bucket endpoint).location = a.location := by
  have hpath : a.plainPath = [] := by rw [plainPath, if_pos ha]
  have hpath' : (a.hosted bucket endpoint).plainPath = [] := by
    rw [plainPath]
    exact if_neg hbucket
  rw [location, location, hpath, hpath']
  rfl

/-- The location of a service that is no Amazon host is read with the first label as bucket. -/
theorem Unnamed.takesLabel (hunnamed : Unnamed scheme a)
    (hscheme : Scheme.ofText? a.scheme = some scheme) (hhost : a.host ≠ []) :
    ∃ b, ofLocation a.location = .ok b ∧ TakesLabel a.withoutQuery b := by
  obtain ⟨bucket, endpoint, hbare⟩ := Layout.ofBareHost_of_namesBucket hunnamed.name
  obtain ⟨hlabel, hbucket, hendpoint⟩ := Layout.ofBareHost_eq_host_iff.1 hbare
  have hlocation := location_hosted hunnamed.bucket hlabel.ne_nil endpoint
  -- with that bucket the address is laid out, and its location is the same
  have hlaid : LaidOut scheme (a.hosted bucket endpoint) := by
    refine .host ?_ hunnamed.scheme ?_ ?_ rfl rfl
    · exact ⟨hunnamed.other.ofHost?, hunnamed.other.region, hunnamed.other.dualStack⟩
    · rw [hlocation]
      exact hunnamed.name
    · rw [hlocation]
      exact hbare
  have hread := hlaid.ofLocation_location hscheme hhost
  rw [hlocation] at hread
  exact ⟨_, hread, hbucket, hlabel, hendpoint, rfl⟩

/-! ### Reading the canonical URL again -/

theorem Unnamed.withQuery (query : Text) (h : Unnamed scheme a) :
    Unnamed scheme (a.withQuery query) where
  other := ⟨h.other.1, h.other.2, h.other.3⟩
  scheme := h.scheme
  name := h.name
  path := ⟨h.path.1, h.path.2, h.path.3, h.path.4, h.path.5⟩
  bucket := h.bucket

/-- An address that was read from a URI is laid out or a service without name, with its query. -/
theorem laidOut_or_unnamed_of_ofUri (hread : ofUri u = .ok a) :
    ∃ scheme, Scheme.ofText? a.scheme = some scheme ∧ (LaidOut scheme a ∨ Unnamed scheme a) := by
  obtain ⟨l, b, -, hb, rfl⟩ := ofUri_eq_ok_iff.1 hread
  obtain ⟨scheme, hscheme, hscheme', -, -, hcases⟩ := laidOut_or_unnamed hb
  refine ⟨scheme, ?_, hcases.imp (LaidOut.withQuery _) (Unnamed.withQuery _)⟩
  rw [← hscheme, Location.scheme?, ← hscheme']
  rfl

/-- From the canonical URL of an address that was read its location is read, with the version and
the parameters that it had. -/
theorem ofUri_toUri_of_ofUri (hu : Uri.parse s = .ok u) (hread : ofUri u = .ok a)
    (hv : a.toUri = .ok v) :
    ofUri v
      = (ofLocation a.location).map fun b => { b with version := a.version, params := a.params } := by
  have hquery : VersionQuery.split a.query = ⟨a.version, a.params⟩ := by
    obtain ⟨l, b, -, -, rfl⟩ := ofUri_eq_ok_iff.1 hread
    exact VersionQuery.split_join_split _
  rw [(printable_of_ofUri hu hread).ofUri_toUri hv]
  show (ofLocation a.location).map (fun b => Address.withQuery a.query b) = _
  simp only [Address.withQuery, hquery]

/-- Without a bucket only an address on an Amazon host is laid out. -/
theorem LaidOut.amazon_of_bucket_eq_nil (hlaid : LaidOut scheme a) (hhost : a.host ≠ [])
    (hbucket : a.bucket = []) : (AmazonHost.ofHost? a.host).isSome = true := by
  cases hlaid with
  | amazonHost hamazon _ _ _ => rw [hamazon.ofHost?, Option.isSome_some]
  | amazonPath hamazon _ _ => rw [hamazon.ofHost?, Option.isSome_some]
  | s3Scheme _ _ hname _ _ => exact absurd (hname.symm.trans hbucket) hhost
  | path _ _ hne _ _ => exact absurd hbucket hne
  | host _ _ _ hbare _ _ =>
    exact absurd hbucket (Layout.ofBareHost_eq_host_iff.1 hbare).1.ne_nil

/-- **A service stays a service on Amazon hosts, and only there.**  The canonical URL of a service is
always read.  On an Amazon host it gives the service again; on any other the first label of the
host becomes a bucket, and the rest of the host the endpoint. -/
theorem service_reread (hu : Uri.parse s = .ok u) (hread : ofUri u = .ok a)
    (hkind : a.kind = .service) (hv : a.toUri = .ok v) :
    ∃ b, ofUri v = .ok b ∧
      (b.kind = .service ∧ b.endpoint = a.endpoint ↔ (AmazonHost.ofHost? a.host).isSome = true) ∧
        (b = a ∨ AmazonHost.ofHost? a.host = none ∧ TakesLabel a b) := by
  obtain ⟨auth, -, -, -, -, hhost⟩ := authority_of_ofUri hu hread
  obtain ⟨scheme, hscheme, hlaid | hunnamed⟩ := laidOut_or_unnamed_of_ofUri hread
  · have hamazon := hlaid.amazon_of_bucket_eq_nil hhost (kind_eq_service_iff.1 hkind)
    refine ⟨a, ?_, iff_of_true ⟨hkind, rfl⟩ hamazon, .inl rfl⟩
    rw [ofUri_toUri_of_ofUri hu hread hv, hlaid.ofLocation_location hscheme hhost]
    rfl
  · obtain ⟨b, hb, htakes⟩ := hunnamed.takesLabel hscheme hhost
    have htakes' : TakesLabel a { b with version := a.version, params := a.params } := by
      refine ⟨htakes.bucket, htakes.label, htakes.endpoint, ?_⟩
      rw [htakes.rest]
      rfl
    refine ⟨_, ?_, iff_of_false ?_ ?_, .inr ⟨hunnamed.other.ofHost?, htakes'⟩⟩
    · rw [ofUri_toUri_of_ofUri hu hread hv, hb]
      rfl
    · rintro ⟨hservice, -⟩
      rw [htakes'.kind] at hservice
      cases hservice
    · rw [hunnamed.other.ofHost?]
      exact Bool.false_ne_true

/-- A regional endpoint with a port, and two slashes for a path. -/
theorem service_reread_region :
    ∃ u a v b, Uri.parse "https://S3.eu-west-1.amazonaws.com:443//?x=1".toList = .ok u ∧
      ofUri u = .ok a ∧ a.kind = .service ∧ a.toUri = .ok v ∧ ofUri v = .ok b ∧
        b.kind = .service ∧ b.endpoint = a.endpoint := by
  have hu : Uri.parse "https://S3.eu-west-1.amazonaws.com:443//?x=1".toList
      = .ok (.absolute "https".toList "S3.eu-west-1.amazonaws.com:443".toList "//".toList
        (some "x=1".toList)) := by decide +kernel
  have hread : ofUri (.absolute "https".toList "S3.eu-west-1.amazonaws.com:443".toList "//".toList
        (some "x=1".toList))
      = .ok { scheme := "https".toList, host := "s3.eu-west-1.amazonaws.com:443".toList,
              endpoint := "s3.eu-west-1.amazonaws.com:443".toList, region := "eu-west-1".toList,
              params := "x=1".toList, pathStyle := true } := by decide +kernel
  have hv : toUri { scheme := "https".toList, host := "s3.eu-west-1.amazonaws.com:443".toList,
                    endpoint := "s3.eu-west-1.amazonaws.com:443".toList,
                    region := "eu-west-1".toList, params := "x=1".toList, pathStyle := true }
      = .ok (.absolute "https".toList "s3.eu-west-1.amazonaws.com:443".toList "/".toList
        (some "x=1".toList)) := by decide +kernel
  have hamazon :
      (AmazonHost.ofHost? "s3.eu-west-1.amazonaws.com:443".toList).isSome = true := by
    decide +kernel
  obtain ⟨b, hb, hiff, -⟩ := service_reread hu hread rfl hv
  obtain ⟨hkind, hendpoint⟩ := hiff.2 hamazon
  exact ⟨_, _, _, b, hu, hread, rfl, hv, hb, hkind, hendpoint⟩

/-- **On another host the service is lost**: its canonical URL is that of a bucket at what follows
the first dot. -/
theorem service_becomes_bucket :
    ∃ u a v b, Uri.parse "http://minio.local//".toList = .ok u ∧ ofUri u = .ok a ∧
      a.kind = .service ∧ a.endpoint = "minio.local".toList ∧ a.toUri = .ok v ∧
        ofUri v = .ok b ∧ b.kind = .bucket ∧ b.bucket = "minio".toList ∧
          b.endpoint = "local".toList := by
  refine ⟨.absolute "http".toList "minio.local".toList "//".toList none,
    { scheme := "http".toList, host := "minio.local".toList, endpoint := "minio.local".toList,
      pathStyle := true },
    .absolute "http".toList "minio.local".toList "/".toList none,
    { scheme := "http".toList, host := "minio.local".toList, endpoint := "local".toList,
      bucket := "minio".toList },
    by decide +kernel, by decide +kernel, rfl, rfl, by decide +kernel, by decide +kernel, rfl, rfl,
    rfl⟩

end BucketUrl.Address
