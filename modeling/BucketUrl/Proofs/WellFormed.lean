/-
BucketUrl/Proofs/WellFormed.lean

Parsing undoes printing.

`WellFormed` describes addresses that are put together by hand and not read from a URL.  Key and
version may be any text, and the parameters any form that has no version in it.  Only host, bucket
and endpoint must fit together, as `Placed` says.

Main result: `parse_canonical`.  A well-formed address is read from its canonical URL, and the only
obstacle is the length that a URI may have.
-/
import BucketUrl.Proofs.RoundTrip

namespace BucketUrl.Address

open Text

variable {a : Address} {v : Uri} {scheme : Scheme}

/-! ### Well-formed addresses -/

/-- Bucket, endpoint and region fit to the host and the scheme. -/
inductive Placed (scheme : Scheme) (a : Address) : Prop
  /-- An Amazon host begins with the bucket and ends with the endpoint. -/
  | amazonHost {parts : AmazonHost} (hamazon : OnAmazon parts a)
      (hbucket : parts.bucket? = some a.bucket) (hhost : a.host = parts.bucketPart ++ a.endpoint)
      (hstyle : a.pathStyle = false)
  /-- An Amazon host is the endpoint, and the bucket is in the path. -/
  | amazonPath {parts : AmazonHost} (hamazon : OnAmazon parts a) (hparts : parts.bucket? = none)
      (hbucket : a.bucket ≠ []) (hpath : InPath a)
  /-- Another host is the endpoint, and a bucket that can be recognised is in the path. -/
  | path (hother : OffAmazon a) (hscheme : scheme ≠ .s3) (hname : BucketName.Plausible a.bucket)
      (hpath : InPath a)
  /-- Another host is the bucket. -/
  | s3Scheme (hother : OffAmazon a) (hscheme : scheme = .s3) (hbucket : a.bucket = a.host)
      (hendpoint : a.endpoint = []) (hstyle : a.pathStyle = false)

/-- What an address must satisfy that is put together by hand.  Nothing is said about the key and
the version. -/
structure WellFormed (scheme : Scheme) (a : Address) : Prop where
  /-- The scheme is in lower case. -/
  scheme_eq : a.scheme = scheme.text
  /-- The host is a name in lower case, perhaps with a port. -/
  host : ∃ name suffix, a.host = name ++ suffix ∧ name ≠ [] ∧
    (∀ c ∈ name, c ∈ BucketName.chars) ∧ IsPortSuffix suffix
  /-- The parameters are a form without a version. -/
  params : ∃ ps : List Form.Pair, (∀ p ∈ ps, ¬VersionQuery.IsVersion p) ∧ a.params = Form.write ps
  /-- The other parts fit together. -/
  placed : Placed scheme a

theorem Placed.laidOut (hplaced : Placed scheme a) : LaidOut scheme a := by
  cases hplaced with
  | amazonHost hamazon hbucket hhost hstyle =>
    refine .amazonHost hamazon hbucket ?_ hstyle
    rw [after?_eq_some_iff.2 hhost, Option.getD_some]
  | amazonPath hamazon hparts hbucket hpath => exact .amazonPath hamazon hparts hpath
  | path hother hscheme hname hpath =>
    have hbucket : a.bucket ≠ [] := by
      intro h
      rw [h] at hname
      exact BucketName.not_plausible_nil hname
    exact .path hother hscheme hbucket (.inl hname) hpath
  | s3Scheme hother hscheme hbucket hendpoint hstyle =>
    exact .s3Scheme hother hscheme hbucket hendpoint hstyle

namespace WellFormed

variable (ha : WellFormed scheme a)

include ha

theorem ofText?_scheme : Scheme.ofText? a.scheme = some scheme := by
  rw [ha.scheme_eq]
  cases scheme with
  | http => rfl
  | https => rfl
  | s3 => rfl

theorem printable : a.Printable := by
  obtain ⟨name, suffix, hhost, hne, hname, hsuffix⟩ := ha.host
  have hplain := isPlainName_of_mem_chars hne hname
  constructor
  · rw [ha.scheme_eq]
    cases scheme with
    | http => decide
    | https => decide
    | s3 => decide
  · rw [hhost]
    exact isHostPort_plainHost hplain hsuffix
  · rw [hhost, lowerAscii_append, lowerAscii_of_mem_chars hname, hsuffix.lowerAscii_eq]
  · rw [hhost]
    exact fun c hc => not_isDelimiter_plainHost hplain hsuffix hc
  · intro c hc
    obtain ⟨ps, -, hparams⟩ := ha.params
    rw [query, hparams] at hc
    exact VersionQuery.mem_queryChars_join hc

theorem split_query : VersionQuery.split a.query = ⟨a.version, a.params⟩ := by
  obtain ⟨ps, hps, hparams⟩ := ha.params
  rw [query, hparams]
  exact VersionQuery.split_join hps a.version

/-- A canonical URL that is not too long is a URI. -/
theorem toUri_eq_ok (hsize : utf8Size a.canonical ≤ Uri.maxBytes) : ∃ v, a.toUri = .ok v := by
  obtain ⟨name, suffix, hhost, hne, hname, hsuffix⟩ := ha.host
  have hcheck := check_plainHost (isPlainName_of_mem_chars hne hname) hsuffix
  rw [← hhost] at hcheck
  have hnil : a.host ≠ [] := by
    rw [hhost]
    exact fun h => hne (List.append_eq_nil_iff.1 h).1
  exact ⟨_, ha.printable.toUri_eq_ok_iff.2 ⟨hsize, hnil, hcheck, rfl⟩⟩

/-- **Parsing undoes printing.**  A well-formed address is read from its canonical URL, unless that
is longer than a URI may be. -/
theorem parse_canonical :
    parse a.canonical
      = if Uri.maxBytes < utf8Size a.canonical then
          .error (.invalidUrl (.notUri a.canonical .tooLong))
        else .ok a := by
  split
  · next hlong => rw [parse, Uri.parse, if_pos hlong]
  · next hshort =>
    obtain ⟨v, hv⟩ := ha.toUri_eq_ok (Nat.le_of_not_lt hshort)
    apply parse_canonical_of_ofUri hv
    exact ha.printable.ofUri_of_laidOut ha.placed.laidOut ha.ofText?_scheme ha.split_query hv

end WellFormed

/-- A key and a version that are full of signs of a URL are read as they were. -/
theorem parse_canonical_signs :
    ∃ a : Address, WellFormed .https a ∧ a.bucket = "my.s3.logs".toList ∧
      a.key = "/ü?#%2F".toList ∧ a.version = "&=+ ".toList ∧ parse a.canonical = .ok a := by
  have hname : ∀ c ∈ "my.s3.logs.s3-eu-west-1.amazonaws.com".toList, c ∈ BucketName.chars := by
    decide
  have hsuffix : IsPortSuffix ":443".toList := .port (by decide) (by decide)
  have hamazon : AmazonHost.ofHost? "my.s3.logs.s3-eu-west-1.amazonaws.com:443".toList
      = some ⟨some "my.s3.logs".toList, "eu-west-1".toList, "amazonaws".toList⟩ := by
    decide +kernel
  have ha : WellFormed .https
      { scheme := "https".toList
        host := "my.s3.logs.s3-eu-west-1.amazonaws.com:443".toList
        endpoint := "s3-eu-west-1.amazonaws.com:443".toList
        bucket := "my.s3.logs".toList
        key := "/ü?#%2F".toList
        version := "&=+ ".toList
        region := "eu-west-1".toList
        params := "x=1".toList } := by
    refine ⟨rfl, ⟨_, _, rfl, List.cons_ne_nil _ _, hname, hsuffix⟩, ?_, ?_⟩
    · exact ⟨[⟨"x".toList, "1".toList⟩], by decide, by decide⟩
    · exact .amazonHost ⟨hamazon, rfl, rfl⟩ rfl rfl rfl
  have hread := ha.parse_canonical
  rw [if_neg (by decide +kernel)] at hread
  exact ⟨_, ha, rfl, rfl, rfl, hread⟩

end BucketUrl.Address
