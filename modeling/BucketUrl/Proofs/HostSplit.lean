/-
BucketUrl/Proofs/HostSplit.lean

A bucket that stands in the host is cut out of it without loss, with one exception.

The bucket is found in the name, which has no port, and the endpoint is cut from the host, which
has one.  Where the name is a beginning of the host both cuts are made at the same dot.  Only in
brackets with a port the name begins elsewhere, and then what the two cuts give never makes up the
host again.

Main result: `host_eq_bucket_append_iff`.
-/
import BucketUrl.Proofs.RoundTrip

namespace BucketUrl

open Text

variable {a : Address} {u : Uri} {scheme : Scheme}

/-! ### Buckets in the host -/

/-- Bucket and endpoint are cut from the host: the bucket from its name, and the endpoint from the
host itself. -/
structure CutFromHost (a : Address) : Prop where
  /-- The name begins with the bucket and a dot. -/
  name : ∃ t, HostPort.name a.host = a.bucket ++ '.' :: t
  /-- Where the host begins with them as well, the endpoint is the rest. -/
  endpoint : ∀ t, a.host = a.bucket ++ '.' :: t → a.endpoint = t

theorem Address.InPath.pathStyle_ne_false (hpath : InPath a) : a.pathStyle ≠ false := by
  rw [hpath.pathStyle]
  decide

theorem Address.LaidOut.cutFromHost (hlaid : LaidOut scheme a) (hne : scheme ≠ .s3)
    (hstyle : a.pathStyle = false) : CutFromHost a := by
  cases hlaid with
  | @amazonHost parts hamazon hbucket hendpoint _ =>
    obtain ⟨-, hspells⟩ := AmazonHost.spells_of_ofHost? hamazon.ofHost?
    refine ⟨hspells.exists_eq_bucket_append hbucket, ?_⟩
    intro t hhost
    have hpart : after? parts.bucketPart a.host = some t := by
      rw [after?_eq_some_iff, AmazonHost.bucketPart, hbucket, hhost]
      simp
    rw [hendpoint, hpart, Option.getD_some]
  | amazonPath _ _ hpath => exact absurd hstyle hpath.pathStyle_ne_false
  | s3Scheme _ hscheme _ _ _ => exact absurd hscheme hne
  | path _ _ _ _ hpath => exact absurd hstyle hpath.pathStyle_ne_false
  | host _ _ _ hbare _ _ =>
    obtain ⟨-, ⟨rest, hname⟩, front, hcut⟩ := Layout.ofBareHost_eq_host_iff.1 hbare
    obtain ⟨hdot, hname⟩ := cut?_eq_some_iff.1 hname
    refine ⟨⟨rest, hname⟩, ?_⟩
    intro t hhost
    -- the first dot of the host is the one behind the bucket
    have hcut : cut? '.' a.host = some (front, a.endpoint) := hcut
    rw [hhost, cut?_append_cons hdot] at hcut
    cases hcut
    rfl

/-- Over HTTP every address that is not path-style is cut from its host. -/
theorem cutFromHost_of_ofUri (hread : Address.ofUri u = .ok a) (hhttp : u.IsHttp)
    (hstyle : a.pathStyle = false) : CutFromHost a := by
  obtain ⟨l, b, hl, hb, rfl⟩ := Address.ofUri_eq_ok_iff.1 hread
  obtain ⟨scheme, hscheme, -, -, -, hlaid | hunnamed⟩ := Address.laidOut_or_unnamed hb
  · have hne : scheme ≠ .s3 := by
      rintro rfl
      exact Uri.scheme?_ne_s3_of_isHttp hhttp hl hscheme
    exact (hlaid.withQuery _).cutFromHost hne hstyle
  · exact absurd hstyle hunnamed.path.pathStyle_ne_false

/-! ### The cuts -/

/-- A text with a sign before it does not begin as it did. -/
theorem cons_append_cons_ne {c d : Char} (hne : c ≠ d) (x y z : Text) :
    c :: (x ++ d :: y) ≠ x ++ d :: z := by
  induction x with
  | nil =>
    intro h
    exact hne (List.head_eq_of_cons_eq h)
  | cons e x ih =>
    intro h
    obtain ⟨rfl, h⟩ := List.cons.inj h
    exact ih h

/-- **A host is its bucket, a dot and its endpoint**, unless it stands in brackets with a port
behind them. -/
theorem host_eq_bucket_append_iff (hread : Address.ofUri u = .ok a) (hhttp : u.IsHttp)
    (hstyle : a.pathStyle = false) :
    a.host = a.bucket ++ '.' :: a.endpoint ↔ ¬HostPort.IsBracketed a.host := by
  have hcut := cutFromHost_of_ofUri hread hhttp hstyle
  obtain ⟨t, hname⟩ := hcut.name
  constructor
  · -- behind the opening bracket the bucket stands one place too late
    intro heq hbracketed
    obtain ⟨t', ht'⟩ := hbracketed.exists_eq_name_append
    rw [hname, List.append_assoc, List.cons_append] at ht'
    exact cons_append_cons_ne (by decide) a.bucket _ _ (ht'.symm.trans heq)
  · intro hbare
    obtain ⟨t', ht'⟩ := HostPort.exists_eq_name_append hbare
    rw [hname, List.append_assoc, List.cons_append] at ht'
    rw [hcut.endpoint _ ht']
    exact ht'

/-- A bucket with a dot, user information, and a port that the name keeps. -/
theorem host_eq_bucket_append_logs :
    ∃ u a, Uri.parse "https://me@My.Logs.s3.eu-west-1.amazonaws.com:+443/k".toList = .ok u ∧
      Address.ofUri u = .ok a ∧ u.IsHttp ∧ a.pathStyle = false ∧
        ¬HostPort.IsBracketed a.host ∧ a.host = a.bucket ++ '.' :: a.endpoint := by
  have hu : Uri.parse "https://me@My.Logs.s3.eu-west-1.amazonaws.com:+443/k".toList
      = .ok (.absolute "https".toList "me@My.Logs.s3.eu-west-1.amazonaws.com:+443".toList
        "/k".toList none) := by decide +kernel
  have hread : Address.ofUri (.absolute "https".toList
      "me@My.Logs.s3.eu-west-1.amazonaws.com:+443".toList "/k".toList none)
      = .ok { scheme := "https".toList, host := "my.logs.s3.eu-west-1.amazonaws.com:+443".toList,
              endpoint := "s3.eu-west-1.amazonaws.com:+443".toList, bucket := "my.logs".toList,
              key := "k".toList, region := "eu-west-1".toList } := by
    decide +kernel
  have hbare : ¬HostPort.IsBracketed "my.logs.s3.eu-west-1.amazonaws.com:+443".toList := by
    rintro ⟨inner, port, -, -, h⟩
    exact absurd (List.head_eq_of_cons_eq h) (by decide)
  exact ⟨_, _, hu, hread, .inr rfl, rfl, hbare,
    (host_eq_bucket_append_iff hread (.inr rfl) rfl).2 hbare⟩

/-- **In brackets with a port the bucket stays in the endpoint**: the host does not begin with the
bucket, and the whole of it is taken for the endpoint. -/
theorem bracketed_endpoint_keeps_bucket :
    ∃ u a, Uri.parse "https://[b.s3.amazonaws.com]:80/k".toList = .ok u ∧ u.IsHttp ∧
      Address.ofUri u = .ok a ∧ a.pathStyle = false ∧ a.bucket = "b".toList ∧
        a.endpoint = a.host ∧ a.host ≠ a.bucket ++ '.' :: a.endpoint := by
  refine ⟨.absolute "https".toList "[b.s3.amazonaws.com]:80".toList "/k".toList none,
    { scheme := "https".toList, host := "[b.s3.amazonaws.com]:80".toList,
      endpoint := "[b.s3.amazonaws.com]:80".toList, bucket := "b".toList, key := "k".toList },
    by decide +kernel, .inr rfl, by decide +kernel, rfl, rfl, rfl, ?_⟩
  intro h
  exact absurd (List.head_eq_of_cons_eq h) (by decide)

/-- Other hosts in brackets with a port lose the opening bracket alone. -/
example : (Address.parse "http://[bucket.minio.local]:9000".toList).map
    (fun a => (a.bucket, a.endpoint)) = .ok ("bucket".toList, "minio.local]:9000".toList) := by
  decide +kernel

end BucketUrl
