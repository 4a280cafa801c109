/-
BucketUrl/Proofs/HostSuffix.lean

A port and a root dot do not change what a URL names.

The rules look at the name of a host, which has no port, so a port alone changes nothing for them.
A root dot stays in the name.  It ends the last label and begins none, so no marker and no other
first label come out of it (`AmazonHost.readName_concat_dot`, `Location.namesBucket_appendHost`),
and the test for Azure storage does not count it.  Bucket and endpoint are cut from the beginning
of the host, so the suffix goes to the endpoint (`Layout.address_appendHost`).

Main result: `ofUri_appendHost`.
-/
import BucketUrl.Proofs.Decision
import BucketUrl.Proofs.PlainHost

namespace BucketUrl

open Text

variable {s host auth suffix : Text} {u : Uri} {l : Location} {layout : Layout}

/-! ### Hosts and suffixes -/

/-- A host to which a root dot can be added: it has a dot, and does not end in one. -/
structure TakesRootDot (host : Text) : Prop where
  dot : '.' ∈ host
  last : host.getLast? ≠ some '.'

/-- What may be added to a host: a root dot or none, and a decimal port or none. -/
inductive IsHostSuffix (host : Text) : Text → Prop
  /-- A port alone, or nothing. -/
  | port {port : Text} : IsPortSuffix port → IsHostSuffix host port
  /-- A root dot, perhaps with a port. -/
  | rootDot {port : Text} :
      TakesRootDot host → IsPortSuffix port → IsHostSuffix host ('.' :: port)

theorem IsBareHost.concat_dot (hhost : IsBareHost host) : IsBareHost (host ++ ['.']) := by
  refine ⟨by simp, by simp [hhost.colon], ?_⟩
  obtain ⟨c, t, rfl⟩ := List.exists_cons_of_ne_nil hhost.ne_nil
  exact hhost.bracket

theorem IsBareHost.lowerAscii (hhost : IsBareHost host) : IsBareHost (lowerAscii host) := by
  obtain ⟨c, t, rfl⟩ := List.exists_cons_of_ne_nil hhost.ne_nil
  refine ⟨by simp, (mem_lowerAscii_iff (by decide)).not.2 hhost.colon, ?_⟩
  simpa [toLower_eq_iff] using hhost.bracket

theorem TakesRootDot.lowerAscii (hdot : TakesRootDot host) : TakesRootDot (lowerAscii host) := by
  refine ⟨(mem_lowerAscii_iff (by decide)).2 hdot.dot, ?_⟩
  intro h
  rw [Text.lowerAscii, List.getLast?_map, Option.map_eq_some_iff] at h
  obtain ⟨c, hc, hlower⟩ := h
  rw [(toLower_eq_iff (by decide)).1 hlower] at hc
  exact hdot.last hc

theorem IsHostSuffix.lowerAscii (hsuffix : IsHostSuffix host suffix) :
    IsHostSuffix (lowerAscii host) suffix := by
  cases hsuffix with
  | port hport => exact .port hport
  | rootDot hdot hport => exact .rootDot hdot.lowerAscii hport

theorem IsHostSuffix.lowerAscii_eq (hsuffix : IsHostSuffix host suffix) :
    Text.lowerAscii suffix = suffix := by
  cases hsuffix with
  | port hport => exact hport.lowerAscii_eq
  | rootDot hdot hport =>
    rw [lowerAscii_cons, hport.lowerAscii_eq]
    rfl

/-! ### The name of a host with a suffix -/

/-- The name of the host with the suffix is the host, or the host with a root dot. -/
theorem IsHostSuffix.name_append (hsuffix : IsHostSuffix host suffix) (hhost : IsBareHost host) :
    HostPort.name (host ++ suffix) = host ∨
      TakesRootDot host ∧ HostPort.name (host ++ suffix) = host ++ ['.'] := by
  cases hsuffix with
  | port hport => exact .inl (hhost.name_append hport)
  | @rootDot port hdot hport =>
    have hassoc : host ++ '.' :: port = host ++ ['.'] ++ port := by simp
    rw [hassoc]
    exact .inr ⟨hdot, hhost.concat_dot.name_append hport⟩

/-! ### Amazon hosts with a root dot -/

namespace AmazonHost

theorem label_concat_dot (s : Text) :
    label (s ++ ['.']) = label s ∧
      (s ++ ['.']).dropWhile (· ∈ labelChars) = s.dropWhile (· ∈ labelChars) ++ ['.'] := by
  induction s with
  | nil => decide
  | cons c s ih =>
    rw [label, label] at ih ⊢
    rw [List.cons_append, List.takeWhile_cons, List.takeWhile_cons, List.dropWhile_cons,
      List.dropWhile_cons]
    split
    · exact ⟨congrArg (c :: ·) ih.1, ih.2⟩
    · exact ⟨rfl, rfl⟩

/-- A dot at the end begins no label. -/
theorem readLabels_concat_dot (s : Text) : readLabels (s ++ ['.']) = readLabels s := by
  obtain ⟨hlabel, hdrop⟩ := label_concat_dot s
  rw [readLabels, readLabels, hdrop, hlabel]
  cases s.dropWhile (· ∈ labelChars) with
  | nil => simp [label]
  | cons c rest =>
    rw [List.cons_append]
    split
    · next heq =>
      cases heq
      rw [(label_concat_dot rest).1]
      rfl
    · next hne =>
      split
      · next heq =>
        cases heq
        exact absurd rfl (hne _)
      · rfl

/-- Nor does it end a marker that has labels behind it. -/
theorem readMarker_concat_dot (s : Text) : readMarker (s ++ ['.']) = readMarker s := by
  have hend (mark : Text) {t : Text} (heq : s ++ ['.'] = mark ++ t) (hs : ∀ t, s ≠ mark ++ t) :
      readLabels t = none := by
    rcases List.eq_nil_or_concat t with rfl | ⟨t, c, rfl⟩
    · rfl
    · rw [List.concat_eq_append, ← List.append_assoc] at heq
      exact absurd (List.append_inj_left' heq rfl) (hs t)
  rw [readMarker.eq_def s]
  split
  · exact readLabels_concat_dot _
  · exact readLabels_concat_dot _
  · next hdot hhyphen =>
    rw [readMarker.eq_def]
    split
    · next heq => exact hend "s3.".toList heq hdot
    · next heq => exact hend "s3-".toList heq hhyphen
    · rfl

theorem readLastMarker_concat_dot (s : Text) :
    readLastMarker (s ++ ['.']) = readLastMarker s := by
  induction s with
  | nil => rfl
  | cons c s ih =>
    rw [List.cons_append, readLastMarker, readLastMarker, ih, readMarker_concat_dot]

theorem readName_concat_dot (s : Text) : readName (s ++ ['.']) = readName s := by
  have hbucket : readWithBucket (s ++ ['.']) = readWithBucket s := by
    cases s with
    | nil => rfl
    | cons c s =>
      rw [List.cons_append, readWithBucket, readWithBucket, readLastMarker_concat_dot]
  rw [readName, readName, hbucket, readWithoutBucket, readWithoutBucket, readMarker_concat_dot]

theorem occurs_domain_concat_dot (s : Text) :
    occurs domain (s ++ ['.']) = occurs domain s := by
  rw [Bool.eq_iff_iff, occurs_eq_true_iff, occurs_eq_true_iff, List.infix_concat_iff]
  refine ⟨fun h => h.resolve_left ?_, .inr⟩
  -- the domain does not end in a dot
  rintro ⟨front, hfront⟩
  have hdomain : domain.getLast? = some 'm' := by decide
  have hlast := congrArg List.getLast? hfront
  rw [List.getLast?_append, List.getLast?_concat, hdomain] at hlast
  exact absurd (Option.some.inj hlast) (by decide)

/-- A host is read as it is without a suffix. -/
theorem ofHost?_append (hhost : IsBareHost host) (hsuffix : IsHostSuffix host suffix) :
    ofHost? (host ++ suffix) = ofHost? host := by
  rw [ofHost?, ofHost?, hhost.name_eq]
  rcases hsuffix.name_append hhost with hname | ⟨-, hname⟩
  · rw [hname]
  · rw [hname, occurs_domain_concat_dot, readName_concat_dot]

end AmazonHost

/-! ### Other hosts with a suffix -/

theorem Rule.isAzureHost_concat_dot (hlast : s.getLast? ≠ some '.') :
    IsAzureHost (s ++ ['.']) ↔ IsAzureHost s := by
  have hdot : dropRootDot (s ++ ['.']) = s := by
    rw [dropRootDot, if_pos List.getLast?_concat, List.dropLast_concat]
  have hself : dropRootDot s = s := by rw [dropRootDot, if_neg hlast]
  rw [IsAzureHost, IsAzureHost, hdot, hself]

/-- The location with a suffix behind its host. -/
def Location.appendHost (suffix : Text) (l : Location) : Location :=
  { l with host := l.host ++ suffix }

/-- The layout with a suffix behind the endpoint that it holds. -/
def Layout.appendEndpoint (suffix : Text) : Layout → Layout
  | .host bucket endpoint => .host bucket (endpoint ++ suffix)
  | layout => layout

/-- The address with a suffix behind host and endpoint. -/
def Address.appendHost (suffix : Text) (a : Address) : Address :=
  { a with host := a.host ++ suffix, endpoint := a.endpoint ++ suffix }

section Location

variable (hhost : IsBareHost l.host) (hsuffix : IsHostSuffix l.host suffix)

include hhost hsuffix

theorem Location.namesBucket_appendHost :
    (l.appendHost suffix).NamesBucket ↔ l.NamesBucket := by
  have hself : l.hostName = l.host := hhost.name_eq
  have happend : (l.appendHost suffix).hostName = HostPort.name (l.host ++ suffix) := rfl
  rw [NamesBucket, NamesBucket, happend, hself]
  rcases hsuffix.name_append hhost with hname | ⟨hdot, hname⟩
  · rw [hname]
  · obtain ⟨label, rest, hcut⟩ := exists_cut?_of_mem hdot.dot
    rw [hname, cut?_append hcut, hcut, Rule.isAzureHost_concat_dot hdot.last]
    simp

/-- The rules and the choice of a layout do not see the suffix. -/
theorem Location.sameDecision_appendHost : l.SameDecision (l.appendHost suffix) where
  scheme := rfl
  host := by simp [appendHost, hhost.ne_nil]
  amazon := AmazonHost.ofHost?_append hhost hsuffix
  path := rfl
  name := namesBucket_appendHost hhost hsuffix

/-- Under an empty path the suffix goes to the endpoint. -/
theorem Layout.ofBareHost_appendHost :
    ofBareHost (l.appendHost suffix) = (ofBareHost l).appendEndpoint suffix := by
  have hself : l.hostName = l.host := hhost.name_eq
  have happend : (l.appendHost suffix).hostName = HostPort.name (l.host ++ suffix) := rfl
  have hhost' : (l.appendHost suffix).host = l.host ++ suffix := rfl
  rw [ofBareHost, ofBareHost, hself, happend, hhost']
  by_cases hdot : '.' ∈ l.host
  · obtain ⟨label, rest, hcut⟩ := exists_cut?_of_mem hdot
    obtain ⟨rest', hcut'⟩ :
        ∃ rest', cut? '.' (HostPort.name (l.host ++ suffix)) = some (label, rest') := by
      rcases hsuffix.name_append hhost with hname | ⟨-, hname⟩
      · exact ⟨rest, by rw [hname, hcut]⟩
      · exact ⟨rest ++ ['.'], by rw [hname, cut?_append hcut]⟩
    rw [hcut, hcut', cut?_append hcut]
    dsimp only
    split
    · rfl
    · rfl
  · -- a host without a dot is no bucket and gets no root dot
    rcases hsuffix.name_append hhost with hname | ⟨htakes, -⟩
    · rw [hname, cut?_eq_none_iff.2 hdot]
      rfl
    · exact absurd htakes.dot hdot

theorem Layout.ofOtherHost_appendHost (scheme : Scheme) :
    ofOtherHost scheme (l.appendHost suffix) = (ofOtherHost scheme l).appendEndpoint suffix := by
  rw [ofOtherHost, ofOtherHost, ofBareHost_appendHost hhost hsuffix]
  show (if scheme = .s3 then Layout.s3Scheme else if l.path ≠ [] then .path else _) = _
  split
  · rfl
  · split
    · rfl
    · rfl

end Location

/-! ### Layouts with a suffix -/

theorem Layout.fromPath_appendHost (suffix : Text) (l : Location) :
    (fromPath (l.appendHost suffix)).toOption
      = (fromPath l).toOption.map (Address.appendHost suffix) := by
  rw [fromPath, fromPath]
  dsimp only [Location.appendHost]
  split
  · rfl
  · rfl

theorem Layout.fromAmazonHost_appendHost {parts : AmazonHost} (bucket : Text)
    (hpart : parts.bucketPart <+: l.host) :
    fromAmazonHost parts bucket (l.appendHost suffix)
      = (fromAmazonHost parts bucket l).appendHost suffix := by
  obtain ⟨endpoint, hendpoint⟩ := hpart
  have hcut : after? parts.bucketPart l.host = some endpoint :=
    after?_eq_some_iff.2 hendpoint.symm
  have hcut' : after? parts.bucketPart (l.appendHost suffix).host = some (endpoint ++ suffix) :=
    after?_eq_some_iff.2 (by rw [Location.appendHost, ← hendpoint, List.append_assoc])
  rw [fromAmazonHost, fromAmazonHost, hcut, hcut']
  rfl

/-- On an Amazon host the bucket stands at the beginning, unless a bracket is before it. -/
theorem AmazonHost.bucketPart_prefix {parts : AmazonHost} (hhost : IsBareHost host)
    (hread : ofHost? host = some parts) : parts.bucketPart <+: host := by
  obtain ⟨-, hspells⟩ := spells_of_ofHost? hread
  obtain ⟨mark, -, rest, hname⟩ := hspells.text
  rw [hhost.name_eq, List.append_assoc] at hname
  exact ⟨_, hname.symm⟩

/-- The layouts that a location over HTTP can have. -/
theorem Layout.cases_of_ofLocation (hs3 : l.scheme? ≠ some .s3)
    (hlayout : ofLocation l = .ok layout) :
    (∃ parts, AmazonHost.ofHost? l.host = some parts ∧ layout = .amazon parts) ∨
      layout = .path ∨ (∃ bucket endpoint, layout = .host bucket endpoint) ∨
        layout = .service := by
  obtain ⟨scheme, hscheme, -, hamazon | ⟨-, -, rfl⟩⟩ := ofLocation_eq_ok_iff.1 hlayout
  · exact .inl hamazon
  · have hne : scheme ≠ .s3 := fun h => hs3 (h ▸ hscheme)
    rw [ofOtherHost, if_neg hne]
    split
    · exact .inr (.inl rfl)
    · rw [ofBareHost]
      split
      · split
        · exact .inr (.inr (.inl ⟨_, _, rfl⟩))
        · exact .inr (.inr (.inr rfl))
      · exact .inr (.inr (.inr rfl))

/-- Over HTTP every layout puts the suffix behind host and endpoint. -/
theorem Layout.address_appendHost (hs3 : l.scheme? ≠ some .s3) (hhost : IsBareHost l.host)
    (hlayout : ofLocation l = .ok layout) :
    ((layout.appendEndpoint suffix).address (l.appendHost suffix)).toOption
      = (layout.address l).toOption.map (Address.appendHost suffix) := by
  rcases cases_of_ofLocation hs3 hlayout with ⟨parts, hamazon, rfl⟩ | rfl | ⟨bucket, endpoint, rfl⟩ |
    rfl
  · show ((Layout.amazon parts).address (l.appendHost suffix)).toOption = _
    rw [address, address]
    cases parts.bucket? with
    | some bucket =>
      dsimp only
      rw [fromAmazonHost_appendHost bucket (AmazonHost.bucketPart_prefix hhost hamazon)]
      rfl
    | none =>
      dsimp only
      rw [toOption_map, toOption_map, fromPath_appendHost, Option.map_map, Option.map_map]
      rfl
  · exact fromPath_appendHost suffix l
  · rfl
  · rfl

/-- Locations over HTTP carry the suffix from host to endpoint. -/
theorem Address.carries_appendHost (hs3 : l.scheme? ≠ some .s3) (hhost : IsBareHost l.host)
    (hsuffix : IsHostSuffix l.host suffix) :
    Carries (appendHost suffix) l (l.appendHost suffix) := by
  refine carries_of_layout (k := Layout.appendEndpoint suffix)
    (Location.sameDecision_appendHost hhost hsuffix) (fun _ => rfl) ?_ ?_
  · exact fun scheme => Layout.ofOtherHost_appendHost hhost hsuffix scheme
  · exact fun layout hlayout => Layout.address_appendHost hs3 hhost hlayout

/-! ### URIs with a suffix -/

/-- The URI with a suffix behind its authority. -/
def Uri.appendHost (suffix : Text) : Uri → Uri
  | .asterisk => .asterisk
  | .origin path query => .origin path query
  | .authority auth => .authority (auth ++ suffix)
  | .absolute scheme auth path query => .absolute scheme (auth ++ suffix) path query

theorem Uri.parts_appendHost (suffix : Text) (u : Uri) :
    (u.appendHost suffix).scheme? = u.scheme? ∧ (u.appendHost suffix).path = u.path ∧
      (u.appendHost suffix).query? = u.query? := by
  cases u with
  | asterisk => exact ⟨rfl, rfl, rfl⟩
  | origin path query => exact ⟨rfl, rfl, rfl⟩
  | authority auth => exact ⟨rfl, rfl, rfl⟩
  | absolute scheme auth path query => exact ⟨rfl, rfl, rfl⟩

theorem IsHostSuffix.isHostPort_append (hsuffix : IsHostSuffix host suffix)
    (hhost : IsBareHost host) (hat : '@' ∉ host) : Uri.Authority.IsHostPort (host ++ suffix) := by
  cases hsuffix with
  | port hport => exact hhost.isHostPort_append hat hport
  | @rootDot port hdot hport =>
    have hassoc : host ++ '.' :: port = host ++ ['.'] ++ port := by simp
    rw [hassoc]
    exact hhost.concat_dot.isHostPort_append (by simp [hat]) hport

namespace Uri.Authority

/-- Behind user information a bare host is host and port, with a suffix and without. -/
theorem hostPort_append (hhost : IsBareHost (afterUserInfo auth))
    (hsuffix : IsHostSuffix (afterUserInfo auth) suffix) :
    hostPort auth = afterUserInfo auth ∧ hostPort (auth ++ suffix) = hostPort auth ++ suffix := by
  obtain ⟨hat, user, huser, hauth⟩ := afterUserInfo_cases auth
  have hplain : hostPort auth = afterUserInfo auth := by
    rw [← hostPort_afterUserInfo]
    exact (IsHostPort.bare (hhost.isHost hat)).hostPort_eq
  have hboth := hsuffix.isHostPort_append hhost hat
  refine ⟨hplain, ?_⟩
  rw [hplain]
  generalize afterUserInfo auth = rest at *
  rw [hauth, List.append_assoc, hostPort_append_userInfo huser hboth.at_not_mem]
  exact hboth.hostPort_eq

end Uri.Authority

section Uri

variable (hauth : u.authority? = some auth)
  (hhost : IsBareHost (Uri.Authority.afterUserInfo auth))
  (hsuffix : IsHostSuffix (Uri.Authority.afterUserInfo auth) suffix)

include hauth hhost hsuffix

theorem Uri.hostPort_appendHost :
    u.hostPort = Authority.afterUserInfo auth ∧
      (u.appendHost suffix).hostPort = u.hostPort ++ suffix := by
  obtain ⟨hplain, happend⟩ := Authority.hostPort_append hhost hsuffix
  cases u with
  | asterisk => cases hauth
  | origin path query => cases hauth
  | authority auth' =>
    cases hauth
    exact ⟨hplain, happend⟩
  | absolute scheme auth' path query =>
    cases hauth
    exact ⟨hplain, happend⟩

theorem Location.toOption_ofUri_appendHost :
    (Location.ofUri (u.appendHost suffix)).toOption
      = (Location.ofUri u).toOption.map (Location.appendHost suffix) := by
  obtain ⟨-, happend⟩ := Uri.hostPort_appendHost hauth hhost hsuffix
  obtain ⟨hscheme, hpath, -⟩ := Uri.parts_appendHost suffix u
  rw [Location.ofUri, Location.ofUri, toOption_map, toOption_map, Option.map_map, hscheme, hpath,
    happend, lowerAscii_append, hsuffix.lowerAscii_eq]
  rfl

/-- **A port and a root dot do not change what a URL over HTTP names.**  With the suffix it is
recognised as without it, it is read or refused as without it, and the addresses are the same but
for the suffix behind host and endpoint. -/
theorem ofUri_appendHost (hhttp : u.IsHttp) :
    (u.appendHost suffix).isS3 = u.isS3 ∧
      ((∃ a, Address.ofUri u = .ok a) ↔ ∃ b, Address.ofUri (u.appendHost suffix) = .ok b) ∧
        ∀ a b, Address.ofUri u = .ok a → Address.ofUri (u.appendHost suffix) = .ok b →
          b = { a with host := a.host ++ suffix, endpoint := a.endpoint ++ suffix } := by
  obtain ⟨-, -, hquery⟩ := Uri.parts_appendHost suffix u
  have hcarries : ∀ l, Location.ofUri u = .ok l →
      Address.Carries (Address.appendHost suffix) l (l.appendHost suffix) := by
    intro l hl
    have hlower : l.host = lowerAscii (Uri.Authority.afterUserInfo auth) := by
      rw [(Address.location_of_ofUri hl).2, (Uri.hostPort_appendHost hauth hhost hsuffix).1]
    apply Address.carries_appendHost (Uri.scheme?_ne_s3_of_isHttp hhttp hl)
    · rw [hlower]
      exact hhost.lowerAscii
    · rw [hlower]
      exact hsuffix.lowerAscii
  obtain ⟨hs3, hread⟩ := Address.Carries.ofUri
    (Location.toOption_ofUri_appendHost hauth hhost hsuffix) hcarries (by rw [hquery])
    fun query a => rfl
  exact ⟨hs3, eq_of_toOption_eq_map hread⟩

end Uri

/-- Both at once, behind a bucket and before a version. -/
theorem ofUri_appendHost_region :
    ∃ u a b, Uri.parse "https://me:pw@B.s3.eu-west-1.amazonaws.com/k?versionId=1".toList = .ok u ∧
      Uri.parse "https://me:pw@B.s3.eu-west-1.amazonaws.com.:0443/k?versionId=1".toList
          = .ok (u.appendHost ".:0443".toList) ∧
        Address.ofUri u = .ok a ∧ Address.ofUri (u.appendHost ".:0443".toList) = .ok b ∧
          b = { a with
            host := a.host ++ ".:0443".toList
            endpoint := "s3.eu-west-1.amazonaws.com.:0443".toList } := by
  have hu : Uri.parse "https://me:pw@B.s3.eu-west-1.amazonaws.com/k?versionId=1".toList
      = .ok (.absolute "https".toList "me:pw@B.s3.eu-west-1.amazonaws.com".toList "/k".toList
        (some "versionId=1".toList)) := by decide +kernel
  have hu' : Uri.parse "https://me:pw@B.s3.eu-west-1.amazonaws.com.:0443/k?versionId=1".toList
      = .ok (.absolute "https".toList "me:pw@B.s3.eu-west-1.amazonaws.com.:0443".toList "/k".toList
        (some "versionId=1".toList)) := by decide +kernel
  have hread : Address.ofUri (.absolute "https".toList
      "me:pw@B.s3.eu-west-1.amazonaws.com".toList "/k".toList (some "versionId=1".toList))
      = .ok { scheme := "https".toList, host := "b.s3.eu-west-1.amazonaws.com".toList,
              endpoint := "s3.eu-west-1.amazonaws.com".toList, bucket := "b".toList,
              key := "k".toList, version := "1".toList, region := "eu-west-1".toList } := by
    decide +kernel
  have hauth : Uri.authority? (.absolute "https".toList
      "me:pw@B.s3.eu-west-1.amazonaws.com".toList "/k".toList (some "versionId=1".toList))
      = some "me:pw@B.s3.eu-west-1.amazonaws.com".toList := rfl
  have hhost : IsBareHost (Uri.Authority.afterUserInfo
      "me:pw@B.s3.eu-west-1.amazonaws.com".toList) := ⟨by decide, by decide, by decide⟩
  have hsuffix : IsHostSuffix (Uri.Authority.afterUserInfo
      "me:pw@B.s3.eu-west-1.amazonaws.com".toList) ".:0443".toList :=
    .rootDot ⟨by decide, by decide⟩ (.port (by decide) (by decide))
  obtain ⟨-, hboth, heq⟩ := ofUri_appendHost hauth hhost hsuffix (.inr rfl)
  obtain ⟨b, hb⟩ := hboth.1 ⟨_, hread⟩
  exact ⟨_, _, b, hu, hu', hread, hb, heq _ b hread hb⟩

end BucketUrl
