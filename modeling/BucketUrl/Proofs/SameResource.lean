/-
BucketUrl/Proofs/SameResource.lean

An object in a bucket on Amazon S3 has two URLs, one with the bucket at the beginning of the host
and one with the bucket in the path.  Both are read as the same address, up to the host itself and
the style.

The two are read by different code, so each is followed by itself, from the text to the location
(`parse_httpsUrl`) and from there to the address (`ofLocation_bucketInHost`,
`ofLocation_bucketInPath`).

Main result: `parse_sameResource`.
-/
import BucketUrl.Proofs.RoundTrip

namespace BucketUrl

open Text

variable {name suffix path query text bucket key : Text} {u v : Uri}

/-- The URL with this host, path and query over HTTP with TLS. -/
def httpsUrl (host path query : Text) : Text :=
  "https".toList ++ "://".toList ++ (host ++ '/' :: (path ++ '?' :: query))

/-! ### From the text to the location -/

/-- A path and a query that were read had been written where they are. -/
theorem Uri.Target.eq_of_read {t : Uri.Target} (hpath : '?' ∉ path ∧ '#' ∉ path)
    (hquery : '#' ∉ query) (hread : Uri.Target.read ('/' :: (path ++ '?' :: query)) = .ok t) :
    t = ⟨'/' :: path, some query⟩ := by
  have hsharp : '#' ∉ '/' :: (path ++ '?' :: query) := by simp [hpath.2, hquery]
  have hmark : '?' ∉ '/' :: path := by simp [hpath.1]
  have hcut : cut? '?' ('/' :: path ++ '?' :: query) = some ('/' :: path, query) :=
    cut?_append_cons hmark query
  have hsplit : Uri.Target.split ('/' :: (path ++ '?' :: query)) = ⟨'/' :: path, some query⟩ := by
    rw [Uri.Target.split, ← List.cons_append, hcut]
    rfl
  rw [Uri.Target.read, before_eq_self hsharp, hsplit] at hread
  split at hread
  · cases hread
    rfl
  · cases hread

/-- A URL with a plain host is read as the address of the location that it spells. -/
theorem parse_httpsUrl (hname : IsPlainName name) (hsuffix : IsPortSuffix suffix)
    (hpath : '?' ∉ path ∧ '#' ∉ path) (hquery : '#' ∉ query)
    (hu : Uri.parse (httpsUrl (name ++ suffix) path query) = .ok u)
    (hdecode : Utf8.decode (Percent.decode ('/' :: path)) = .ok ('/' :: text)) :
    Address.parse (httpsUrl (name ++ suffix) path query)
      = (Address.ofLocation ⟨"https".toList, lowerAscii name ++ suffix, text⟩).map
          (Address.withQuery query) := by
  have hscheme : "https".toList ∈ Scheme.spellings := by decide
  have hdelimiter : ∀ c ∈ name ++ suffix, ¬Uri.IsDelimiter c :=
    fun c hc => not_isDelimiter_plainHost hname hsuffix hc
  have hhead : ∀ c ∈ ('/' :: (path ++ '?' :: query)).head?, Uri.IsDelimiter c := by
    intro c hc
    exact .inl (Option.mem_some_iff.1 hc).symm
  -- the URI has host, path and query where they were written
  obtain ⟨-, -, -, t, hread, rfl⟩ :=
    (Uri.parse_append_eq_ok_iff hscheme hdelimiter hhead).1 hu
  obtain rfl := Uri.Target.eq_of_read hpath hquery hread
  have hhost : lowerAscii (Uri.Authority.hostPort (name ++ suffix)) = lowerAscii name ++ suffix := by
    rw [(isHostPort_plainHost hname hsuffix).hostPort_eq, lowerAscii_append, hsuffix.lowerAscii_eq]
  have hlocation : Location.ofUri
      (.absolute "https".toList (name ++ suffix) ('/' :: path) (some query))
        = .ok ⟨"https".toList, lowerAscii name ++ suffix, text⟩ := by
    rw [Location.ofUri, ← hhost]
    show (Utf8.decode (Percent.decode ('/' :: path))).map _ = _
    rw [hdecode]
    rfl
  rw [Address.parse, hu]
  dsimp only
  rw [Address.ofUri, hlocation]
  rfl

/-! ### From the location to the address -/

theorem IsPlainName.lowercase_eq (hname : IsPlainName name) :
    lowercase name = Text.lowerAscii name :=
  lowercase_eq_lowerAscii fun c hc => BucketName.isPlain_of_toLower_mem_chars (hname.2 c hc)

variable (e : AmazonEndpoint)

theorem ofLocation_bucketInHost (hbucket : IsPlainName bucket) (hsuffix : IsPortSuffix suffix)
    (key : Text) :
    Address.ofLocation ⟨"https".toList, bucket ++ '.' :: (e.name ++ suffix), key⟩
      = .ok { scheme := "https".toList
              host := bucket ++ '.' :: (e.name ++ suffix)
              endpoint := e.name ++ suffix
              bucket := bucket
              key := key
              region := e.region
              dualStack := e.isDualStack } := by
  obtain ⟨hregion, hdual⟩ := e.region?_mk_labels (some bucket)
  have hhost : bucket ++ '.' :: (e.name ++ suffix) ≠ [] := by simp
  have hrest : after? (bucket ++ ['.']) (bucket ++ '.' :: (e.name ++ suffix))
      = some (e.name ++ suffix) := after?_eq_some_iff.2 (by simp)
  rw [Address.ofLocation_eq_ok_iff]
  refine ⟨.amazon ⟨some bucket, e.labels.1, e.labels.2⟩, ?_, ?_⟩
  · exact Layout.ofLocation_eq_ok_iff.2
      ⟨.https, rfl, hhost, .inl ⟨_, e.ofHost?_bucket hbucket hsuffix, rfl⟩⟩
  · show Except.ok (Layout.onAmazon _ (Layout.fromAmazonHost _ bucket _)) = _
    rw [Layout.onAmazon, hregion, hdual, Layout.fromAmazonHost, AmazonHost.bucketPart, hrest]
    rfl

theorem ofLocation_bucketInPath (hbucket : IsPlainName bucket) (hsuffix : IsPortSuffix suffix)
    (key : Text) :
    Address.ofLocation ⟨"https".toList, e.name ++ suffix, bucket ++ '/' :: key⟩
      = .ok { scheme := "https".toList
              host := e.name ++ suffix
              endpoint := e.name ++ suffix
              bucket := lowerAscii bucket
              key := key
              region := e.region
              pathStyle := true
              dualStack := e.isDualStack } := by
  obtain ⟨hregion, hdual⟩ := e.region?_mk_labels none
  have hhost : e.name ++ suffix ≠ [] := by simp [e.name_ne_nil]
  have hsplit : Layout.splitPath (bucket ++ '/' :: key) = (bucket, key) := by
    rw [Layout.splitPath, cut?_append_cons (hbucket.not_mem (by decide))]
    rfl
  rw [Address.ofLocation_eq_ok_iff]
  refine ⟨.amazon ⟨none, e.labels.1, e.labels.2⟩, ?_, ?_⟩
  · exact Layout.ofLocation_eq_ok_iff.2
      ⟨.https, rfl, hhost, .inl ⟨_, e.ofHost?_name hsuffix, rfl⟩⟩
  · show (Layout.fromPath _).map (Layout.onAmazon _) = _
    rw [Layout.fromPath, hsplit]
    dsimp only
    rw [if_neg fun h => hbucket.1 h.1, hbucket.lowercase_eq]
    show Except.ok (Layout.onAmazon _ _) = _
    rw [Layout.onAmazon, hregion, hdual]
    rfl

/-! ### Both URLs -/

/-- **Both URLs of an object are read as the same address**, up to the host and the style.  The
bucket is any plain name, dots and markers included; the endpoint may have a port; and path and
query are any texts that make both URLs valid. -/
theorem parse_sameResource (hbucket : IsPlainName bucket) (hsuffix : IsPortSuffix suffix)
    (hpath : '?' ∉ path ∧ '#' ∉ path) (hquery : '#' ∉ query)
    (hhosted : Uri.parse (httpsUrl (bucket ++ '.' :: (e.name ++ suffix)) path query) = .ok u)
    (hpathed : Uri.parse (httpsUrl (e.name ++ suffix) (bucket ++ '/' :: path) query) = .ok v)
    (hdecode : Utf8.decode (Percent.decode ('/' :: path)) = .ok text) :
    ∃ key a, Utf8.decode (Percent.decode path) = .ok key ∧
      Address.parse (httpsUrl (bucket ++ '.' :: (e.name ++ suffix)) path query) = .ok a ∧
      Address.parse (httpsUrl (e.name ++ suffix) (bucket ++ '/' :: path) query)
        = .ok { a with host := e.name ++ suffix, pathStyle := true } ∧
      a = { scheme := "https".toList
            host := lowerAscii bucket ++ '.' :: (e.name ++ suffix)
            endpoint := e.name ++ suffix
            bucket := lowerAscii bucket
            key := key
            version := (VersionQuery.split query).version
            region := e.region
            params := (VersionQuery.split query).params
            dualStack := e.isDualStack } := by
  have hslash : '%' ∉ ['/'] := by decide
  obtain ⟨key, hkey, rfl⟩ := (Percent.decode_append_eq_ok_iff hslash).1 hdecode
  have hname : IsPlainName (bucket ++ '.' :: e.name) := hbucket.append_dot e.isPlainName_name
  have hhosted' : bucket ++ '.' :: (e.name ++ suffix) = bucket ++ '.' :: e.name ++ suffix := by simp
  have hlower : lowerAscii (bucket ++ '.' :: e.name) ++ suffix
      = lowerAscii bucket ++ '.' :: (e.name ++ suffix) := by
    rw [lowerAscii_append, lowerAscii_cons, e.lowerAscii_name, List.append_assoc]
    rfl
  refine ⟨key, _, hkey, ?_, ?_, rfl⟩
  · rw [hhosted'] at hhosted ⊢
    rw [parse_httpsUrl hname hsuffix hpath hquery hhosted hdecode, hlower,
      ofLocation_bucketInHost e hbucket.lowerAscii hsuffix]
    rfl
  · have hpath' : '?' ∉ bucket ++ '/' :: path ∧ '#' ∉ bucket ++ '/' :: path := by
      have hmark := hbucket.not_mem (c := '?') (by decide)
      have hsharp := hbucket.not_mem (c := '#') (by decide)
      simp [hmark, hsharp, hpath.1, hpath.2]
    -- the bucket has no escapes, so it is decoded to itself
    have hdecode' : Utf8.decode (Percent.decode ('/' :: (bucket ++ '/' :: path)))
        = .ok ('/' :: (bucket ++ '/' :: key)) := by
      have hpercent : '%' ∉ '/' :: (bucket ++ ['/']) := by
        simp [hbucket.not_mem (c := '%') (by decide)]
      have h := (Percent.decode_append_eq_ok_iff hpercent).2 ⟨key, hkey, rfl⟩
      simpa using h
    rw [parse_httpsUrl e.isPlainName_name hsuffix hpath' hquery hpathed hdecode',
      e.lowerAscii_name, ofLocation_bucketInPath e hbucket hsuffix]
    rfl

/-- The bucket `My.s3.logs` at the endpoint of `eu-west-1` that answers under both versions of the
protocol. -/
theorem parse_sameResource_dualStack :
    ∃ a, Address.parse (httpsUrl "My.s3.logs.s3.dualstack.eu-west-1.amazonaws.com:8443".toList
          "a/b%20c".toList "versionId=7&x=1".toList) = .ok a ∧
      Address.parse (httpsUrl "s3.dualstack.eu-west-1.amazonaws.com:8443".toList
          "My.s3.logs/a/b%20c".toList "versionId=7&x=1".toList)
        = .ok { a with
            host := "s3.dualstack.eu-west-1.amazonaws.com:8443".toList
            pathStyle := true } ∧
      a.bucket = "my.s3.logs".toList ∧ a.region = "eu-west-1".toList ∧ a.dualStack = true := by
  have hbucket : IsPlainName "My.s3.logs".toList := ⟨by decide, by decide⟩
  have hsuffix : IsPortSuffix ":8443".toList := .port (by decide) (by decide)
  have hhosted : Uri.parse (httpsUrl
      "My.s3.logs.s3.dualstack.eu-west-1.amazonaws.com:8443".toList "a/b%20c".toList
      "versionId=7&x=1".toList)
        = .ok (.absolute "https".toList
          "My.s3.logs.s3.dualstack.eu-west-1.amazonaws.com:8443".toList "/a/b%20c".toList
          (some "versionId=7&x=1".toList)) := by
    decide +kernel
  have hpathed : Uri.parse (httpsUrl "s3.dualstack.eu-west-1.amazonaws.com:8443".toList
      "My.s3.logs/a/b%20c".toList "versionId=7&x=1".toList)
        = .ok (.absolute "https".toList "s3.dualstack.eu-west-1.amazonaws.com:8443".toList
          "/My.s3.logs/a/b%20c".toList (some "versionId=7&x=1".toList)) := by
    decide +kernel
  have hdecode : Utf8.decode (Percent.decode "/a/b%20c".toList) = .ok "/a/b c".toList := by
    decide +kernel
  let region : Region :=
    { text := "eu-west-1".toList
      ne_nil := by decide
      mem_labelChars := by decide
      not_looksLikeMarker := by decide
      ne_dualStack := by decide }
  obtain ⟨key, a, -, hparse, hparse', rfl⟩ :=
    parse_sameResource (.dualStack region) hbucket hsuffix (by decide) (by decide) hhosted hpathed
      hdecode
  exact ⟨_, hparse, hparse', rfl, rfl, rfl⟩

end BucketUrl
