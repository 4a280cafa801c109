/-
BucketUrl/Proofs/DotlessHost.lean

Hosts without a dot, such as a machine of the local network.

A host without a dot is no Amazon host and does not begin with a bucket.  So only the scheme or the
path can show one (`accepted_dotless_iff`), and what is accepted is also read
(`exists_ofLocation_dotless_iff`).

Over HTTP it is the first segment of the path.  That is judged without the white space around it,
but it becomes the bucket with it (`bucket_of_dotless`).

Main result: `isLabel_bucket_iff`.  The bucket that is read is a bucket name up to the white space
around it, and a bucket name exactly when there is none.
-/
import BucketUrl.Proofs.Agreement

namespace BucketUrl

open Text

variable {c : Char} {host : Text} {l : Location} {u : Uri} {a : Address}

/-! ### What a host without a dot is not -/

/-- A host whose name lacks a character of the domain is no Amazon host. -/
theorem AmazonHost.ofHost?_eq_none (hc : c ∈ domain) (hname : c ∉ HostPort.name host) :
    ofHost? host = none := by
  rw [ofHost?]
  exact if_neg fun hdomain => hname ((occurs_eq_true_iff.1 hdomain).subset hc)

theorem AmazonHost.ofHost?_dotless (hdot : '.' ∉ HostPort.name host) : ofHost? host = none :=
  ofHost?_eq_none (by decide) hdot

theorem Location.not_namesBucket_dotless (hdot : '.' ∉ l.hostName) : ¬l.NamesBucket := by
  rintro ⟨label, rest, hcut, -⟩
  rw [cut?_eq_none_iff.2 hdot] at hcut
  cases hcut

/-! ### What shows a bucket -/

/-- The scheme shows that there is a bucket, or over HTTP the beginning of the path does. -/
def Location.ShowsBucket (l : Location) : Prop :=
  l.scheme? = some .s3 ∨
    (l.scheme? = some .http ∨ l.scheme? = some .https) ∧ BucketName.Plausible l.firstSegment

theorem Location.accepted_dotless_iff (hdot : '.' ∉ l.hostName) (hhost : l.host ≠ []) :
    l.finding.accepted = true ↔ l.ShowsBucket := by
  rw [accepted_finding_iff, AmazonHost.ofHost?_dotless hdot, ShowsBucket]
  simp [hhost, not_namesBucket_dotless hdot]

/-- A path that begins with a bucket has no key without a bucket. -/
theorem Location.not_hasStrayKey_of_plausible (hsegment : BucketName.Plausible l.firstSegment) :
    ¬l.HasStrayKey := by
  rintro ⟨c, rest, hpath⟩
  rw [Location.firstSegment, hpath] at hsegment
  exact BucketName.not_plausible_nil hsegment

/-- What is accepted on a host without a dot is also read. -/
theorem Address.exists_ofLocation_dotless_iff (hdot : '.' ∉ l.hostName) :
    (∃ a, ofLocation l = .ok a) ↔ l.host ≠ [] ∧ l.ShowsBucket := by
  rw [exists_ofLocation_iff]
  constructor
  · rintro ⟨haccepted, hhost, -⟩
    exact ⟨hhost, (Location.accepted_dotless_iff hdot hhost).1 haccepted⟩
  · rintro ⟨hhost, hshows⟩
    refine ⟨(Location.accepted_dotless_iff hdot hhost).2 hshows, hhost, ?_⟩
    rintro ⟨hstyle, hstray⟩
    rcases hshows with hs3 | ⟨-, hsegment⟩
    · -- under this scheme the path is no more than a key
      have hother := AmazonHost.ofHost?_dotless hdot
      exact (Layout.readPathStyle_other hs3 hother).1 hstyle rfl
    · exact Location.not_hasStrayKey_of_plausible hsegment hstray

/-! ### Buckets in the path -/

namespace Address

/-- Over HTTP the bucket is the first segment of the path in lower case. -/
theorem bucket_of_dotless (hread : ofLocation l = .ok a) (hs3 : l.scheme? ≠ some .s3)
    (hdot : '.' ∉ l.hostName) :
    BucketName.Plausible l.firstSegment ∧ a.bucket = lowercase l.firstSegment := by
  obtain ⟨-, hshows⟩ := (exists_ofLocation_dotless_iff hdot).1 ⟨a, hread⟩
  obtain ⟨-, hsegment⟩ := hshows.resolve_left hs3
  refine ⟨hsegment, ?_⟩
  rcases fromPath_or_fromHost hread hs3 (AmazonHost.ofHost?_dotless hdot) with
    ⟨-, hpath⟩ | ⟨hpath, -⟩
  · obtain ⟨-, rfl⟩ := inPath_of_fromPath hpath
    exact congrArg lowercase (firstSegment_eq l).symm
  · rw [Location.firstSegment, hpath] at hsegment
    exact absurd hsegment BucketName.not_plausible_nil

/-- **The bucket is a bucket name up to the white space around it.**  Over HTTP, on a host without a
dot, the first segment of the path was accepted for its trimmed text, and the bucket is a bucket
name exactly when there was nothing to trim. -/
theorem isLabel_bucket_iff (hread : ofUri u = .ok a) (hhttp : u.IsHttp)
    (hl : Location.ofUri u = .ok l) (hdot : '.' ∉ l.hostName) :
    BucketName.IsLabel (trim a.bucket) ∧
      (BucketName.IsLabel a.bucket ↔ trim l.firstSegment = l.firstSegment) := by
  obtain ⟨b, hb, rfl⟩ := (ofUri_eq_ok_iff_of_location hl).1 hread
  obtain ⟨hsegment, hbucket⟩ := bucket_of_dotless hb (Uri.scheme?_ne_s3_of_isHttp hhttp hl) hdot
  -- the segment is in ASCII but for white space, so both lower cases of it agree
  have hbucket : b.bucket = lowerAscii l.firstSegment := by
    rw [hbucket, lowercase_eq_lowerAscii fun c hc => hsegment.isPlain hc]
  show BucketName.IsLabel (trim b.bucket) ∧ (BucketName.IsLabel b.bucket ↔ _)
  rw [hbucket, trim_lowerAscii]
  exact ⟨hsegment, hsegment.isLabel_lowerAscii_iff⟩

/-- Capitals and escapes in the segment, and white space only behind it. -/
theorem isLabel_bucket_myLogs :
    ∃ u l a, Uri.parse "https://me@Localhost:9000/My%2DLogs/%20k".toList = .ok u ∧ u.IsHttp ∧
      Location.ofUri u = .ok l ∧ '.' ∉ l.hostName ∧ ofUri u = .ok a ∧
        a.bucket = "my-logs".toList ∧ BucketName.IsLabel a.bucket := by
  have hu : Uri.parse "https://me@Localhost:9000/My%2DLogs/%20k".toList
      = .ok (.absolute "https".toList "me@Localhost:9000".toList "/My%2DLogs/%20k".toList
        none) := by decide +kernel
  have hl : Location.ofUri (.absolute "https".toList "me@Localhost:9000".toList
      "/My%2DLogs/%20k".toList none)
      = .ok ⟨"https".toList, "localhost:9000".toList, "My-Logs/ k".toList⟩ := by decide +kernel
  have hread : ofUri (.absolute "https".toList "me@Localhost:9000".toList
      "/My%2DLogs/%20k".toList none)
      = .ok { scheme := "https".toList, host := "localhost:9000".toList,
              endpoint := "localhost:9000".toList, bucket := "my-logs".toList,
              key := " k".toList, pathStyle := true } := by decide +kernel
  have hdot : '.' ∉ (Location.mk "https".toList "localhost:9000".toList
      "My-Logs/ k".toList).hostName := by decide +kernel
  exact ⟨_, _, _, hu, .inr rfl, hl, hdot, hread, rfl,
    (isLabel_bucket_iff hread (.inr rfl) hl hdot).2.2 (by decide +kernel)⟩

/-- **White space around a segment is kept**: it is trimmed for the question whether the segment can
name a bucket, and then it is a part of the bucket. -/
theorem blank_in_bucket :
    ∃ u l a, Uri.parse "http://localhost:9000/%20logs/k".toList = .ok u ∧ u.IsHttp ∧
      Location.ofUri u = .ok l ∧ '.' ∉ l.hostName ∧ AmazonHost.ofHost? l.host = none ∧
        ofUri u = .ok a ∧ a.bucket = " logs".toList ∧ ¬BucketName.IsLabel a.bucket := by
  refine ⟨.absolute "http".toList "localhost:9000".toList "/%20logs/k".toList none,
    ⟨"http".toList, "localhost:9000".toList, " logs/k".toList⟩,
    { scheme := "http".toList, host := "localhost:9000".toList,
      endpoint := "localhost:9000".toList, bucket := " logs".toList, key := "k".toList,
      pathStyle := true },
    by decide +kernel, .inl rfl, by decide +kernel, by decide +kernel, by decide +kernel,
    by decide +kernel, rfl, by decide +kernel⟩

end Address

end BucketUrl
