/-
BucketUrl/Proofs/Layout.lean

The layout of an address is chosen again for the location of its canonical URL.

`LaidOut` says of an address how its bucket, key and endpoint came from host and path, one case for
each layout.  Nothing in it refers to the location that the address was read from, so it can be
shown of an address that was read and of one that was put together by hand.

Main results: every address that was read is laid out, unless it is a service on a host that is no
Amazon host, and then it has an empty bucket in its path (`laidOut_or_unnamed`); and a laid out
address is read from its own location (`LaidOut.ofLocation_location`).
-/
import BucketUrl.Proofs.AmazonHost
import BucketUrl.Proofs.CanonicalUrl
import BucketUrl.Proofs.Recognition

namespace BucketUrl

open Text

variable {a : Address} {l : Location} {scheme : Scheme} {parts : AmazonHost}

namespace Address

/-! ### Laid out addresses -/

/-- The address without what its query gives. -/
def withoutQuery (a : Address) : Address :=
  { a with version := [], params := [] }

/-- Bucket and key are in the path.  A key needs a bucket. -/
structure InPath (a : Address) : Prop where
  endpoint : a.endpoint = a.host
  pathStyle : a.pathStyle = true
  slash : '/' ∉ a.bucket
  lower : lowercase a.bucket = a.bucket
  key : a.bucket = [] → a.key = []

/-- What an Amazon host says about itself. -/
structure OnAmazon (parts : AmazonHost) (a : Address) : Prop where
  ofHost? : AmazonHost.ofHost? a.host = some parts
  region : a.region = parts.region?.getD []
  dualStack : a.dualStack = parts.isDualStack

/-- No Amazon host says anything. -/
structure OffAmazon (a : Address) : Prop where
  ofHost? : AmazonHost.ofHost? a.host = none
  region : a.region = []
  dualStack : a.dualStack = false

/-- How bucket, key and endpoint of an address came from host and path under a scheme. -/
inductive LaidOut (scheme : Scheme) (a : Address) : Prop
  /-- The bucket is at the beginning of an Amazon host. -/
  | amazonHost {parts : AmazonHost} (hamazon : OnAmazon parts a)
      (hbucket : parts.bucket? = some a.bucket)
      (hendpoint : a.endpoint = (after? parts.bucketPart a.host).getD a.host)
      (hstyle : a.pathStyle = false)
  /-- The bucket is in the path behind an Amazon host. -/
  | amazonPath {parts : AmazonHost} (hamazon : OnAmazon parts a) (hbucket : parts.bucket? = none)
      (hpath : InPath a)
  /-- The bucket is the host. -/
  | s3Scheme (hother : OffAmazon a) (hscheme : scheme = .s3) (hbucket : a.bucket = a.host)
      (hendpoint : a.endpoint = []) (hstyle : a.pathStyle = false)
  /-- The bucket is in the path behind another host. -/
  | path (hother : OffAmazon a) (hscheme : scheme ≠ .s3) (hbucket : a.bucket ≠ [])
      (hname : BucketName.Plausible a.bucket ∨ a.location.NamesBucket) (hpath : InPath a)
  /-- The bucket is at the beginning of another host. -/
  | host (hother : OffAmazon a) (hscheme : scheme ≠ .s3) (hname : a.location.NamesBucket)
      (hhost : Layout.ofBareHost a.location = .host a.bucket a.endpoint) (hkey : a.key = [])
      (hstyle : a.pathStyle = false)

/-- A service on a host that is no Amazon host.  The bucket in its path is empty, so it is the host
that it was accepted for. -/
structure Unnamed (scheme : Scheme) (a : Address) : Prop where
  other : OffAmazon a
  scheme : scheme ≠ .s3
  name : a.location.NamesBucket
  path : InPath a
  bucket : a.bucket = []

/-! ### The path of the location -/

theorem dropSlash_slashed (name : Text) : Location.dropSlash (slashed name) = name := by
  rw [slashed]
  split
  · next h =>
    rw [h]
    rfl
  · rfl

theorem path_location (hbucket : a.bucket ≠ []) (hstyle : a.pathStyle = false) :
    a.location.path = a.key := by
  show Location.dropSlash a.plainPath = a.key
  rw [plainPath, if_neg hbucket, hstyle]
  exact dropSlash_slashed a.key

/-- The path of an address whose bucket is in it is taken apart where it was put together. -/
theorem InPath.splitPath_location (hpath : InPath a) :
    Layout.splitPath a.location.path = (a.bucket, a.key) := by
  rw [Layout.splitPath]
  show (cut? '/' (Location.dropSlash a.plainPath)).getD (Location.dropSlash a.plainPath, []) = _
  rw [plainPath]
  by_cases hbucket : a.bucket = []
  · rw [if_pos hbucket, hbucket, hpath.key hbucket]
    rfl
  · -- the first slash is the one behind the bucket, if there is a key at all
    rw [if_neg hbucket, hpath.pathStyle, if_pos rfl, slashed, if_neg hbucket, slashed]
    show (cut? '/' (a.bucket ++ _)).getD (a.bucket ++ _, []) = _
    split
    · next hkey =>
      rw [List.append_nil, cut?_eq_none_iff.2 hpath.slash, hkey]
      rfl
    · rw [cut?_append_cons hpath.slash]
      rfl

/-- Bucket and key are found again in the path of the location. -/
theorem InPath.fromPath_location (hpath : InPath a) :
    Layout.fromPath a.location
      = .ok { Layout.bare a.location with
          endpoint := a.endpoint, bucket := a.bucket, key := a.key, pathStyle := a.pathStyle } := by
  rw [Layout.fromPath, hpath.splitPath_location]
  show (if a.bucket = [] ∧ a.key ≠ [] then _ else _) = _
  rw [if_neg fun h => h.2 (hpath.key h.1), hpath.lower, hpath.endpoint, hpath.pathStyle]
  rfl

end Address

/-! ### The choice of a layout -/

theorem Layout.ofLocation_eq_ok_iff {layout : Layout} :
    Layout.ofLocation l = .ok layout ↔
      ∃ scheme, l.scheme? = some scheme ∧ l.host ≠ [] ∧
        ((∃ parts, AmazonHost.ofHost? l.host = some parts ∧ layout = .amazon parts) ∨
          AmazonHost.ofHost? l.host = none ∧ l.finding.accepted = true ∧
            layout = Layout.ofOtherHost scheme l) := by
  rw [Layout.ofLocation]
  cases hscheme : l.scheme? with
  | none => simp
  | some scheme =>
    by_cases hhost : l.host = []
    · simp [hhost]
    · cases hamazon : AmazonHost.ofHost? l.host with
      | some parts => simp [hhost, @eq_comm _ layout]
      | none =>
        by_cases haccepted : l.finding.accepted = true
        · simp [hhost, haccepted, @eq_comm _ layout]
        · simp [hhost, haccepted]

/-- Each refusal to choose a layout, with what leads to it. -/
theorem Layout.ofLocation_eq_error_iff {e : Address.Error} :
    Layout.ofLocation l = .error e ↔
      (l.scheme? = none ∧ e = .invalidUrl (.unsupportedScheme l.scheme)) ∨
        ∃ scheme, l.scheme? = some scheme ∧
          ((l.host = [] ∧ e = .invalidUrl .emptyHost) ∨
            (l.host ≠ [] ∧ AmazonHost.ofHost? l.host = none ∧ l.finding.accepted = false ∧
              e = .invalidUrl (.unrecognized l.host l.finding))) := by
  rw [Layout.ofLocation]
  cases hscheme : l.scheme? with
  | none => simp [@eq_comm _ e]
  | some scheme =>
    by_cases hhost : l.host = []
    · simp [hhost, @eq_comm _ e]
    · cases hamazon : AmazonHost.ofHost? l.host with
      | some parts => simp [hhost]
      | none =>
        by_cases haccepted : l.finding.accepted = true
        · simp [hhost, haccepted]
        · simp [hhost, haccepted, @eq_comm _ e]

/-- A bare host begins with a bucket where the name has a first label that can name one. -/
theorem Layout.ofBareHost_eq_host_iff {bucket endpoint : Text} :
    Layout.ofBareHost l = .host bucket endpoint ↔
      BucketName.Plausible bucket ∧ (∃ rest, cut? '.' l.hostName = some (bucket, rest)) ∧
        ∃ front, cut? '.' l.host = some (front, endpoint) := by
  rw [Layout.ofBareHost]
  cases hname : cut? '.' l.hostName with
  | none => simp
  | some labels =>
    cases hhost : cut? '.' l.host with
    | none => simp
    | some parts =>
      dsimp only
      split
      · next hlabel =>
        constructor
        · intro h
          cases h
          exact ⟨hlabel, ⟨labels.2, rfl⟩, parts.1, rfl⟩
        · rintro ⟨-, ⟨rest, hlabels⟩, front, hparts⟩
          cases hlabels
          cases hparts
          rfl
      · next hlabel =>
        constructor
        · intro h
          cases h
        · rintro ⟨h, ⟨rest, hlabels⟩, -⟩
          cases hlabels
          exact absurd h hlabel

/-- A host that names a bucket is no service: where the name has a dot, the host has one. -/
theorem Layout.ofBareHost_of_namesBucket (hname : l.NamesBucket) :
    ∃ bucket endpoint, Layout.ofBareHost l = .host bucket endpoint := by
  obtain ⟨bucket, rest, hcut, -, hlabel⟩ := hname
  have hdot : '.' ∈ l.hostName := by
    rw [(cut?_eq_some_iff.1 hcut).2]
    exact List.mem_append_right _ List.mem_cons_self
  cases hcut' : cut? '.' l.host with
  | none => exact absurd (HostPort.mem_of_mem_name hdot) (cut?_eq_none_iff.1 hcut')
  | some parts =>
    exact ⟨bucket, parts.2,
      Layout.ofBareHost_eq_host_iff.2 ⟨hlabel, ⟨rest, hcut⟩, parts.1, hcut'⟩⟩

namespace Address

theorem ofLocation_eq_ok_iff :
    ofLocation l = .ok a ↔
      ∃ layout, Layout.ofLocation l = .ok layout ∧ layout.address l = .ok a := by
  rw [ofLocation]
  cases Layout.ofLocation l with
  | ok layout => simp
  | error r => simp

/-- A location over HTTP that is no Amazon host is accepted for a bucket in its path or in its
host. -/
theorem accepted_of_ne_s3 (hscheme : l.scheme? = some scheme) (hne : scheme ≠ .s3)
    (hhost : l.host ≠ []) (hamazon : AmazonHost.ofHost? l.host = none) :
    l.finding.accepted = true ↔ BucketName.Plausible l.firstSegment ∨ l.NamesBucket := by
  have hhttp : l.scheme? = some .http ∨ l.scheme? = some .https := by
    cases scheme with
    | http => exact .inl hscheme
    | https => exact .inr hscheme
    | s3 => exact absurd rfl hne
  have hs3 : l.scheme? ≠ some .s3 := by
    rw [hscheme]
    exact fun h => hne (Option.some.inj h)
  rw [Location.accepted_finding_iff, hamazon]
  simp [hs3, hhttp, hhost]

/-- Under an empty path it is accepted for a bucket in its host. -/
theorem namesBucket_of_accepted (hscheme : l.scheme? = some scheme) (hne : scheme ≠ .s3)
    (hhost : l.host ≠ []) (hamazon : AmazonHost.ofHost? l.host = none)
    (haccepted : l.finding.accepted = true) (hpath : l.path = []) : l.NamesBucket := by
  rcases (accepted_of_ne_s3 hscheme hne hhost hamazon).1 haccepted with h | h
  · rw [Location.firstSegment, hpath] at h
    exact absurd h BucketName.not_plausible_nil
  · exact h

/-- The layouts of a host that is no Amazon host.  Under an empty path over HTTP the bucket is in
the host, for nothing else was accepted there. -/
theorem ofOtherHost_cases (hscheme : l.scheme? = some scheme) (hhost : l.host ≠ [])
    (hamazon : AmazonHost.ofHost? l.host = none) (haccepted : l.finding.accepted = true) :
    (scheme = .s3 ∧ Layout.ofOtherHost scheme l = .s3Scheme) ∨
      (scheme ≠ .s3 ∧ l.path ≠ [] ∧ Layout.ofOtherHost scheme l = .path) ∨
        (scheme ≠ .s3 ∧ l.path = [] ∧ l.NamesBucket ∧ ∃ bucket endpoint,
          Layout.ofBareHost l = .host bucket endpoint ∧
            Layout.ofOtherHost scheme l = .host bucket endpoint) := by
  rw [Layout.ofOtherHost]
  by_cases hs3 : scheme = .s3
  · rw [if_pos hs3]
    exact .inl ⟨hs3, rfl⟩
  · rw [if_neg hs3]
    by_cases hpath : l.path = []
    · have hname := namesBucket_of_accepted hscheme hs3 hhost hamazon haccepted hpath
      obtain ⟨bucket, endpoint, hbare⟩ := Layout.ofBareHost_of_namesBucket hname
      rw [if_neg (not_not_intro hpath)]
      exact .inr (.inr ⟨hs3, hpath, hname, bucket, endpoint, hbare, hbare⟩)
    · rw [if_pos hpath]
      exact .inr (.inl ⟨hs3, hpath, rfl⟩)

/-! ### Reading a laid out address from its location -/

theorem firstSegment_eq (l : Location) : l.firstSegment = (Layout.splitPath l.path).1 :=
  before_eq_fst_cut? '/' l.path

theorem InPath.firstSegment_location (hpath : InPath a) : a.location.firstSegment = a.bucket := by
  rw [firstSegment_eq, hpath.splitPath_location]

/-- A laid out address is read from its own location. -/
theorem LaidOut.ofLocation_location (hlaid : LaidOut scheme a)
    (hscheme : Scheme.ofText? a.scheme = some scheme) (hhost : a.host ≠ []) :
    ofLocation a.location = .ok a.withoutQuery := by
  have hscheme : a.location.scheme? = some scheme := hscheme
  rw [ofLocation_eq_ok_iff]
  cases hlaid with
  | @amazonHost parts hamazon hbucket hendpoint hstyle =>
    refine ⟨.amazon parts, ?_, ?_⟩
    · exact Layout.ofLocation_eq_ok_iff.2
        ⟨scheme, hscheme, hhost, .inl ⟨parts, hamazon.ofHost?, rfl⟩⟩
    · have hne := AmazonHost.bucket_ne_nil hamazon.ofHost? hbucket
      rw [Layout.address, hbucket]
      show Except.ok (Layout.onAmazon parts (Layout.fromAmazonHost parts a.bucket a.location)) = _
      rw [Layout.onAmazon, Layout.fromAmazonHost, path_location hne hstyle, withoutQuery, hendpoint,
        hstyle, hamazon.region, hamazon.dualStack]
      rfl
  | @amazonPath parts hamazon hbucket hpath =>
    refine ⟨.amazon parts, ?_, ?_⟩
    · exact Layout.ofLocation_eq_ok_iff.2
        ⟨scheme, hscheme, hhost, .inl ⟨parts, hamazon.ofHost?, rfl⟩⟩
    · rw [Layout.address, hbucket, hpath.fromPath_location]
      show Except.ok (Layout.onAmazon parts _) = _
      rw [Layout.onAmazon, withoutQuery, hamazon.region, hamazon.dualStack]
      rfl
  | s3Scheme hother hs3 hbucket hendpoint hstyle =>
    have haccepted : a.location.finding.accepted = true :=
      Location.accepted_finding_iff _ |>.2 (.inl (hs3 ▸ hscheme))
    refine ⟨.s3Scheme, ?_, ?_⟩
    · refine Layout.ofLocation_eq_ok_iff.2
        ⟨scheme, hscheme, hhost, .inr ⟨hother.ofHost?, haccepted, ?_⟩⟩
      rw [Layout.ofOtherHost, if_pos hs3]
    · rw [Layout.address, path_location (hbucket ▸ hhost) hstyle, withoutQuery, hbucket, hendpoint,
        hstyle, hother.region, hother.dualStack]
      rfl
  | path hother hne hbucket hname hpath =>
    have hsplit := hpath.splitPath_location
    have haccepted : a.location.finding.accepted = true := by
      apply (accepted_of_ne_s3 hscheme hne hhost hother.ofHost?).2
      rw [hpath.firstSegment_location]
      exact hname
    have hnonempty : a.location.path ≠ [] := by
      intro h
      rw [h] at hsplit
      exact hbucket (congrArg Prod.fst hsplit).symm
    refine ⟨.path, ?_, ?_⟩
    · refine Layout.ofLocation_eq_ok_iff.2
        ⟨scheme, hscheme, hhost, .inr ⟨hother.ofHost?, haccepted, ?_⟩⟩
      rw [Layout.ofOtherHost, if_neg hne, if_pos hnonempty]
    · rw [Layout.address, hpath.fromPath_location, withoutQuery, hother.region, hother.dualStack]
      rfl
  | host hother hne hname hhost' hkey hstyle =>
    have haccepted : a.location.finding.accepted = true :=
      (accepted_of_ne_s3 hscheme hne hhost hother.ofHost?).2 (.inr hname)
    -- the path is empty again, so the host is looked at as before
    have hbucket : a.bucket ≠ [] :=
      (Layout.ofBareHost_eq_host_iff.1 hhost').1.ne_nil
    have hempty : a.location.path = [] := by
      rw [path_location hbucket hstyle, hkey]
    refine ⟨.host a.bucket a.endpoint, ?_, ?_⟩
    · refine Layout.ofLocation_eq_ok_iff.2
        ⟨scheme, hscheme, hhost, .inr ⟨hother.ofHost?, haccepted, ?_⟩⟩
      rw [Layout.ofOtherHost, if_neg hne, if_neg (not_not_intro hempty), hhost']
    · rw [Layout.address, withoutQuery, hkey, hstyle, hother.region, hother.dualStack]
      rfl

/-! ### Addresses that were read are laid out -/

theorem slash_not_mem_splitPath (path : Text) : '/' ∉ (Layout.splitPath path).1 := by
  rw [Layout.splitPath]
  cases hcut : cut? '/' path with
  | none => exact cut?_eq_none_iff.1 hcut
  | some parts => exact (cut?_eq_some_iff.1 hcut).1

/-- What is read from a path has its bucket and its key in the path. -/
theorem inPath_of_fromPath (hread : Layout.fromPath l = .ok a) :
    InPath a ∧ a = { Layout.bare l with
      endpoint := l.host
      bucket := lowercase (Layout.splitPath l.path).1
      key := (Layout.splitPath l.path).2
      pathStyle := true } := by
  rw [Layout.fromPath] at hread
  dsimp only at hread
  split at hread
  · cases hread
  · next hkey =>
    cases hread
    refine ⟨?_, rfl⟩
    constructor
    · rfl
    · rfl
    · exact slash_not_mem_lowercase (slash_not_mem_splitPath l.path)
    · exact lowercase_lowercase _
    · intro hbucket
      have hbucket : (Layout.splitPath l.path).1 = [] := lowercase_eq_nil_iff.1 hbucket
      by_contra hne
      exact hkey ⟨hbucket, hne⟩

theorem fromPath_eq_error {e : Error} (hread : Layout.fromPath l = .error e) :
    e = .invalidUrl (.emptyBucket l.host (Layout.splitPath l.path).2) := by
  rw [Layout.fromPath] at hread
  dsimp only at hread
  split at hread
  · cases hread
    rfl
  · cases hread

/-- The one refusal after a layout was chosen is that of a key without a bucket. -/
theorem address_eq_error {layout : Layout} {e : Error} (haddress : layout.address l = .error e) :
    e = .invalidUrl (.emptyBucket l.host (Layout.splitPath l.path).2) := by
  cases layout with
  | amazon parts =>
    rw [Layout.address] at haddress
    split at haddress
    · cases haddress
    · exact fromPath_eq_error (map_eq_error_iff.1 haddress)
  | path => exact fromPath_eq_error haddress
  | s3Scheme => cases haddress
  | host bucket endpoint => cases haddress
  | service => cases haddress

/-- Over HTTP the layout of a host that is no Amazon host goes by the path. -/
theorem path_or_host {layout : Layout} (hlayout : Layout.ofLocation l = .ok layout)
    (hs3 : l.scheme? ≠ some .s3) (hamazon : AmazonHost.ofHost? l.host = none) :
    l.path ≠ [] ∧ layout = .path ∨
      l.path = [] ∧ ∃ bucket endpoint, Layout.ofBareHost l = .host bucket endpoint ∧
        layout = .host bucket endpoint := by
  obtain ⟨scheme, hscheme, hhost, ⟨parts, hparts, -⟩ | ⟨-, haccepted, rfl⟩⟩ :=
    Layout.ofLocation_eq_ok_iff.1 hlayout
  · rw [hamazon] at hparts
    cases hparts
  · obtain ⟨rfl, -⟩ | ⟨-, hpath, hlayout⟩ | ⟨-, hpath, -, bucket, endpoint, hbare, hlayout⟩ :=
      ofOtherHost_cases hscheme hhost hamazon haccepted
    · exact absurd hscheme hs3
    · exact .inl ⟨hpath, hlayout⟩
    · exact .inr ⟨hpath, bucket, endpoint, hbare, hlayout⟩

/-- Over HTTP an address on a host that is no Amazon host was read from its path, or from the host
if there is no path. -/
theorem fromPath_or_fromHost (hread : ofLocation l = .ok a) (hs3 : l.scheme? ≠ some .s3)
    (hamazon : AmazonHost.ofHost? l.host = none) :
    l.path ≠ [] ∧ Layout.fromPath l = .ok a ∨
      l.path = [] ∧ ∃ bucket endpoint, Layout.ofBareHost l = .host bucket endpoint ∧
        a = { Layout.bare l with endpoint := endpoint, bucket := bucket } := by
  obtain ⟨layout, hlayout, hread⟩ := ofLocation_eq_ok_iff.1 hread
  obtain ⟨hpath, rfl⟩ | ⟨hpath, bucket, endpoint, hbare, rfl⟩ := path_or_host hlayout hs3 hamazon
  · exact .inl ⟨hpath, hread⟩
  · cases hread
    exact .inr ⟨hpath, bucket, endpoint, hbare, rfl⟩

/-- Every layout keeps scheme and host of the location. -/
theorem host_of_address {layout : Layout} (hread : layout.address l = .ok a) :
    a.scheme = l.scheme ∧ a.host = l.host := by
  cases layout with
  | amazon parts =>
    rw [Layout.address] at hread
    split at hread
    · cases hread
      exact ⟨rfl, rfl⟩
    · obtain ⟨b, hpath, rfl⟩ := map_eq_ok_iff.1 hread
      obtain ⟨-, rfl⟩ := inPath_of_fromPath hpath
      exact ⟨rfl, rfl⟩
  | path =>
    obtain ⟨-, rfl⟩ := inPath_of_fromPath hread
    exact ⟨rfl, rfl⟩
  | s3Scheme =>
    cases hread
    exact ⟨rfl, rfl⟩
  | host bucket endpoint =>
    cases hread
    exact ⟨rfl, rfl⟩
  | service =>
    cases hread
    exact ⟨rfl, rfl⟩

theorem laidOut_of_amazon (hamazon : AmazonHost.ofHost? l.host = some parts)
    (hread : (Layout.amazon parts).address l = .ok a) : LaidOut scheme a := by
  rw [Layout.address] at hread
  split at hread
  · next bucket hparts =>
    cases hread
    exact .amazonHost ⟨hamazon, rfl, rfl⟩ hparts rfl rfl
  · next hparts =>
    obtain ⟨b, hpath, rfl⟩ := map_eq_ok_iff.1 hread
    obtain ⟨hin, rfl⟩ := inPath_of_fromPath hpath
    refine .amazonPath ⟨hamazon, rfl, rfl⟩ hparts ?_
    exact ⟨hin.endpoint, hin.pathStyle, hin.slash, hin.lower, hin.key⟩

/-- A host that is no Amazon host is laid out, or the bucket in its path is empty. -/
theorem laidOut_or_unnamed_of_otherHost (hscheme : l.scheme? = some scheme) (hhost : l.host ≠ [])
    (hamazon : AmazonHost.ofHost? l.host = none) (haccepted : l.finding.accepted = true)
    (hread : (Layout.ofOtherHost scheme l).address l = .ok a) :
    LaidOut scheme a ∨ Unnamed scheme a := by
  obtain ⟨hs3, hlayout⟩ | ⟨hs3, -, hlayout⟩ | ⟨hs3, -, hname, bucket, endpoint, hbare, hlayout⟩ :=
    ofOtherHost_cases hscheme hhost hamazon haccepted
  · rw [hlayout] at hread
    cases hread
    exact .inl (.s3Scheme ⟨hamazon, rfl, rfl⟩ hs3 rfl rfl rfl)
  · -- the location was accepted for its path or for its host, and still is
    rw [hlayout] at hread
    have hname := (accepted_of_ne_s3 hscheme hs3 hhost hamazon).1 haccepted
    obtain ⟨hin, rfl⟩ := inPath_of_fromPath hread
    rw [firstSegment_eq] at hname
    by_cases hbucket : lowercase (Layout.splitPath l.path).1 = []
    · refine .inr ⟨⟨hamazon, rfl, rfl⟩, hs3, hname.resolve_left ?_, hin, hbucket⟩
      rw [lowercase_eq_nil_iff.1 hbucket]
      exact BucketName.not_plausible_nil
    · refine .inl (.path ⟨hamazon, rfl, rfl⟩ hs3 hbucket ?_ hin)
      rcases hname with hname | hname
      · exact .inl (BucketName.plausible_lowercase hname)
      · exact .inr hname
  · rw [hlayout] at hread
    cases hread
    exact .inl (.host ⟨hamazon, rfl, rfl⟩ hs3 hname hbare rfl rfl)

/-- Every address that was read is laid out, or the bucket in its path is empty. -/
theorem laidOut_or_unnamed (hread : ofLocation l = .ok a) :
    ∃ scheme, l.scheme? = some scheme ∧ a.scheme = l.scheme ∧ a.host = l.host ∧ l.host ≠ [] ∧
      (LaidOut scheme a ∨ Unnamed scheme a) := by
  obtain ⟨layout, hlayout, hread⟩ := ofLocation_eq_ok_iff.1 hread
  obtain ⟨hscheme', hhost'⟩ := host_of_address hread
  obtain ⟨scheme, hscheme, hhost, ⟨parts, hamazon, rfl⟩ | ⟨hamazon, haccepted, rfl⟩⟩ :=
    Layout.ofLocation_eq_ok_iff.1 hlayout
  · exact ⟨scheme, hscheme, hscheme', hhost', hhost, .inl (laidOut_of_amazon hamazon hread)⟩
  · exact ⟨scheme, hscheme, hscheme', hhost', hhost,
      laidOut_or_unnamed_of_otherHost hscheme hhost hamazon haccepted hread⟩

/-- An address with a bucket, or with an Amazon host, is laid out. -/
theorem laidOut_of_ofLocation (hread : ofLocation l = .ok a)
    (hbucket : a.bucket ≠ [] ∨ (AmazonHost.ofHost? a.host).isSome = true) :
    ∃ scheme, l.scheme? = some scheme ∧ a.scheme = l.scheme ∧ a.host = l.host ∧ l.host ≠ [] ∧
      LaidOut scheme a := by
  obtain ⟨scheme, hscheme, hscheme', hhost', hhost, hlaid | hunnamed⟩ := laidOut_or_unnamed hread
  · exact ⟨scheme, hscheme, hscheme', hhost', hhost, hlaid⟩
  · rcases hbucket with hbucket | hbucket
    · exact absurd hunnamed.bucket hbucket
    · rw [hunnamed.other.ofHost?] at hbucket
      cases hbucket

end Address

end BucketUrl
