/-
BucketUrl/Proofs/AzureHost.lean

Hosts of Azure storage are excluded however they are written, with one exception.

The exclusion looks at the end of the name that is left without the port.  User information, the
case of letters, a root dot and a decimal port are all gone by then (`hostName_cases`).  But an
authority takes a port behind a plus sign for a port, and the name keeps that, so the name does not
end in the domain any more (`signedPort_recognised`).

Main results: a host of Azure storage is recognised exactly when its port is written with a plus
sign and its first label can name a bucket (`isS3_azure_iff`), and in all other cases it is
rejected (`azure_rejected`).
-/
import BucketUrl.Proofs.Agreement

namespace BucketUrl

open Text Uri

variable {c : Char} {s auth host port : Text} {u : Uri} {l : Location}

/-! ### Ports with a plus sign -/

/-- The port of the authority is written with a plus sign. -/
def Uri.Authority.HasSignedPort (auth : Text) : Prop :=
  ∃ digits, Authority.port? auth = some ('+' :: digits)

theorem Uri.Authority.IsPort.isDigits_or_signed (hport : Authority.IsPort port) :
    IsDigits port ∨ ∃ digits, port = '+' :: digits ∧ IsDigits digits := by
  obtain ⟨hdigits, -⟩ := hport
  rw [Authority.unsigned.eq_def] at hdigits
  split at hdigits
  · next digits => exact .inr ⟨digits, rfl, hdigits⟩
  · exact .inl hdigits

/-! ### The end of a host of Azure storage -/

namespace Rule

theorem getLast?_of_isAzureHost (hazure : IsAzureHost host) :
    host.getLast? = some 't' ∨ host.getLast? = some '.' := by
  have hlast : ∀ domain ∈ azureDomains, domain.getLast? = some 't' := by decide
  obtain ⟨domain, hdomain, front, hfront⟩ := hazure
  rw [dropRootDot] at hfront
  split at hfront
  · next hdot => exact .inr hdot
  · left
    rw [← hfront, List.getLast?_append, hlast domain hdomain]
    rfl

/-- What is in all domains of Azure storage is in every host that belongs to one. -/
theorem mem_of_isAzureHost (hc : ∀ domain ∈ azureDomains, c ∈ domain)
    (hazure : IsAzureHost host) : c ∈ host := by
  obtain ⟨domain, hdomain, hsuffix⟩ := hazure
  have hmem : c ∈ dropRootDot host := hsuffix.subset (hc domain hdomain)
  rw [dropRootDot] at hmem
  split at hmem
  · exact List.dropLast_subset _ hmem
  · exact hmem

theorem dot_mem_of_isAzureHost (hazure : IsAzureHost host) : '.' ∈ host :=
  mem_of_isAzureHost (by decide) hazure

end Rule

/-- A host of Azure storage is not in brackets. -/
theorem Uri.Authority.IsHost.of_isAzureHost (hhost : Authority.IsHost host)
    (hazure : Rule.IsAzureHost host) : host.head? ≠ some '[' ∧ ':' ∉ host := by
  obtain ⟨-, ⟨inner, -, rfl⟩ | h⟩ := hhost
  · rcases Rule.getLast?_of_isAzureHost hazure with h | h
    · rw [List.getLast?_concat] at h
      cases h
    · rw [List.getLast?_concat] at h
      cases h
  · exact h

/-- A port behind a plus sign hides the end of the host. -/
theorem Rule.not_isAzureHost_append {digits : Text} (hdigits : IsDigits digits) (front : Text) :
    ¬Rule.IsAzureHost (front ++ digits) := by
  intro hazure
  obtain ⟨c, hc⟩ := Option.isSome_iff_exists.1 (List.getLast?_isSome.2 hdigits.1)
  have hdigit : c.isDigit = true := hdigits.2 c (List.mem_of_getLast? hc)
  have hlast : (front ++ digits).getLast? = some c := by
    rw [List.getLast?_append, hc]
    rfl
  rcases Rule.getLast?_of_isAzureHost hazure with h | h
  · rw [hlast] at h
    cases h
    exact absurd hdigit (by decide)
  · rw [hlast] at h
    cases h
    exact absurd hdigit (by decide)

/-! ### Names of the location -/

section Azure

variable (hcheck : Authority.check auth = .ok ()) (hauth : u.authority? = some auth)
  (hazure : Rule.IsAzureHost (lowerAscii (Authority.host auth)))
  (hl : Location.ofUri u = .ok l)

include hcheck hauth hazure hl

/-- The name that the rules look at is the host in lower case, with a port if that is signed. -/
theorem hostName_cases :
    ¬Authority.HasSignedPort auth ∧ l.hostName = lowerAscii (Authority.host auth) ∨
      ∃ digits, IsDigits digits ∧ Authority.port? auth = some ('+' :: digits) ∧
        l.hostName = lowerAscii (Authority.host auth) ++ ':' :: '+' :: digits := by
  obtain ⟨hhead, hcolon⟩ := (Authority.isHost_host hcheck).lowerAscii.of_isAzureHost hazure
  have hhost : l.host = lowerAscii (Authority.hostPort auth) := by
    rw [(Address.location_of_ofUri hl).2, Uri.hostPort, hauth]
  rw [Location.hostName, hhost, Authority.hostPort]
  cases hport : Authority.port? auth with
  | none =>
    left
    refine ⟨?_, HostPort.name_eq_self hhead hcolon⟩
    rintro ⟨digits, hsigned⟩
    rw [hport] at hsigned
    cases hsigned
  | some port =>
    have hisPort := (Authority.port?_eq_some hport).1
    have hcolon' : ':' ∉ port := hisPort.not_mem (by decide) (by decide)
    have hlower : lowerAscii (Authority.host auth ++ ':' :: port)
        = lowerAscii (Authority.host auth) ++ ':' :: port := by
      rw [lowerAscii_append, lowerAscii_cons, hisPort.lowerAscii_eq]
      rfl
    dsimp only
    rw [hlower]
    rcases hisPort.isDigits_or_signed with hdigits | ⟨digits, rfl, hdigits⟩
    · left
      refine ⟨?_, by rw [HostPort.name_append hhead hcolon', if_pos hdigits]⟩
      rintro ⟨digits, hsigned⟩
      rw [hport] at hsigned
      cases hsigned
      exact absurd List.mem_cons_self (hdigits.not_mem (c := '+') (by decide))
    · right
      have hsign : ¬IsDigits ('+' :: digits) :=
        fun h => absurd List.mem_cons_self (h.not_mem (c := '+') (by decide))
      refine ⟨digits, hdigits, rfl, ?_⟩
      rw [HostPort.name_append hhead hcolon', if_neg hsign]

/-- The host begins with a bucket only if a signed port hides its end. -/
theorem namesBucket_azure_iff :
    l.NamesBucket ↔ Authority.HasSignedPort auth ∧
      BucketName.Plausible (before '.' (lowerAscii (Authority.host auth))) := by
  rw [Location.NamesBucket]
  rcases hostName_cases hcheck hauth hazure hl with
    ⟨hsigned, hname⟩ | ⟨digits, hdigits, hport, hname⟩
  · -- the end of the name is the domain
    rw [hname]
    simp [hsigned, hazure]
  · have hsigned : Authority.HasSignedPort auth := ⟨digits, hport⟩
    have hhidden : ¬Rule.IsAzureHost l.hostName := by
      have hassoc : lowerAscii (Authority.host auth) ++ ':' :: '+' :: digits
          = (lowerAscii (Authority.host auth) ++ [':', '+']) ++ digits := by simp
      rw [hname, hassoc]
      exact Rule.not_isAzureHost_append hdigits _
    cases hcut : cut? '.' (lowerAscii (Authority.host auth)) with
    | none => exact absurd (Rule.dot_mem_of_isAzureHost hazure) (cut?_eq_none_iff.1 hcut)
    | some parts =>
      obtain ⟨label, rest⟩ := parts
      obtain ⟨hlabel, hhost⟩ := cut?_eq_some_iff.1 hcut
      have hcut' : cut? '.' l.hostName = some (label, rest ++ ':' :: '+' :: digits) := by
        rw [hname, hhost, List.append_assoc]
        exact cut?_append_cons hlabel _
      rw [hcut', hhost, before_append_cons hlabel]
      simp [hsigned, hhidden]

/-- No port makes an Amazon host of a host without the domain of Amazon. -/
theorem ofHost?_azure (hamazon : ¬AmazonHost.domain <:+: lowerAscii (Authority.host auth)) :
    AmazonHost.ofHost? l.host = none := by
  have hdomain : ¬AmazonHost.domain <:+: l.hostName := by
    rcases hostName_cases hcheck hauth hazure hl with ⟨-, hname⟩ | ⟨digits, hdigits, -, hname⟩
    · rw [hname]
      exact hamazon
    · rw [hname]
      intro h
      rcases infix_append_cons (by decide) h with h | h
      · exact hamazon h
      · -- no letter stands in a port
        have hmem : 'a' ∈ '+' :: digits := h.subset (by decide)
        rcases List.mem_cons.1 hmem with h | h
        · exact absurd h (by decide)
        · exact absurd h (hdigits.not_mem (by decide))
  rw [AmazonHost.ofHost?]
  exact if_neg fun h => hdomain (occurs_eq_true_iff.1 h)

end Azure

/-! ### URIs of Azure storage -/

section Azure

variable (hu : Uri.parse s = .ok u) (hhttp : u.IsHttp) (hauth : u.authority? = some auth)
  (hazure : Rule.IsAzureHost (lowerAscii (Authority.host auth)))
  (hamazon : ¬AmazonHost.domain <:+: lowerAscii (Authority.host auth))
  (hpath : ∀ l, Location.ofUri u = .ok l → ¬BucketName.Plausible l.firstSegment)

include hu hhttp hauth hazure hamazon hpath

/-- A URI of Azure storage whose path does not name a bucket is recognised exactly when its port is
written with a plus sign and the first label of its host can name a bucket. -/
theorem isS3_azure_iff :
    u.isS3 = true ↔ (∃ l, Location.ofUri u = .ok l) ∧ Authority.HasSignedPort auth ∧
      BucketName.Plausible (before '.' (lowerAscii (Authority.host auth))) := by
  have hcheck : Authority.check auth = .ok () := by
    obtain ⟨scheme, auth', path, query, rfl, -, hcheck⟩ := Uri.absolute_of_isHttp hu hhttp
    cases hauth
    exact hcheck
  rw [Uri.isS3]
  cases hl : Location.ofUri u with
  | error fault => simp
  | ok l =>
    have hscheme := Uri.scheme?_of_isHttp hhttp hl
    have hs3 := Uri.scheme?_ne_s3_of_isHttp hhttp hl
    have hhost : l.host ≠ [] := by
      intro hnil
      obtain ⟨c, hc⟩ : ∃ c, c ∈ l.hostName := by
        rcases hostName_cases hcheck hauth hazure hl with ⟨-, hname⟩ | ⟨digits, -, -, hname⟩
        · rw [hname]
          exact ⟨'.', Rule.dot_mem_of_isAzureHost hazure⟩
        · rw [hname]
          exact ⟨':', by simp⟩
      exact absurd (hnil ▸ HostPort.mem_of_mem_name hc) List.not_mem_nil
    dsimp only
    rw [Location.accepted_finding_iff, ofHost?_azure hcheck hauth hazure hl hamazon,
      namesBucket_azure_iff hcheck hauth hazure hl]
    simp [hs3, hscheme, hhost, hpath l hl]

/-- **Hosts of Azure storage are rejected** however they are written, unless the port has a plus
sign: user information, capitals, a root dot and a decimal port do not count. -/
theorem azure_rejected (hport : ¬Authority.HasSignedPort auth) :
    u.isS3 = false ∧
      ∃ reason, Address.ofUri u = .error (.invalidUrl reason) := by
  have hs3 : ¬u.isS3 = true := by
    intro h
    obtain ⟨-, hsigned, -⟩ := (isS3_azure_iff hu hhttp hauth hazure hamazon hpath).1 h
    exact hport hsigned
  refine ⟨Bool.eq_false_iff.2 hs3, (Address.exists_rejection_iff u).2 ?_⟩
  rintro ⟨a, hread⟩
  exact hs3 (Address.isS3_of_ofUri hread)

end Azure

/-- User information, capitals, a root dot and a port at once. -/
theorem azure_rejected_dfs :
    ∃ u auth, Uri.parse "https://me@Logs.DFS.core.windows.net.:443/_x".toList = .ok u ∧
      u.IsHttp ∧ u.authority? = some auth ∧
        Rule.IsAzureHost (lowerAscii (Authority.host auth)) ∧
          ¬AmazonHost.domain <:+: lowerAscii (Authority.host auth) ∧
            (∀ l, Location.ofUri u = .ok l → ¬BucketName.Plausible l.firstSegment) ∧
              ¬Authority.HasSignedPort auth ∧ u.isS3 = false ∧
                ∃ reason, Address.ofUri u = .error (.invalidUrl reason) := by
  have hu : Uri.parse "https://me@Logs.DFS.core.windows.net.:443/_x".toList
      = .ok (.absolute "https".toList "me@Logs.DFS.core.windows.net.:443".toList "/_x".toList
        none) := by decide +kernel
  have hazure : Rule.IsAzureHost
      (lowerAscii (Authority.host "me@Logs.DFS.core.windows.net.:443".toList)) := by
    decide +kernel
  have hamazon : ¬AmazonHost.domain <:+:
      lowerAscii (Authority.host "me@Logs.DFS.core.windows.net.:443".toList) := by
    decide +kernel
  have hlocation : Location.ofUri (.absolute "https".toList
      "me@Logs.DFS.core.windows.net.:443".toList "/_x".toList none)
        = .ok ⟨"https".toList, "logs.dfs.core.windows.net.:443".toList, "_x".toList⟩ := by
    decide +kernel
  have hpath : ∀ l, Location.ofUri (.absolute "https".toList
      "me@Logs.DFS.core.windows.net.:443".toList "/_x".toList none) = .ok l →
        ¬BucketName.Plausible l.firstSegment := by
    intro l hl
    rw [hlocation] at hl
    cases hl
    decide +kernel
  have hport : ¬Authority.HasSignedPort "me@Logs.DFS.core.windows.net.:443".toList := by
    rintro ⟨digits, h⟩
    have hplain : Authority.port? "me@Logs.DFS.core.windows.net.:443".toList
        = some "443".toList := by decide +kernel
    rw [hplain] at h
    exact absurd h (by simp)
  exact ⟨_, _, hu, .inr rfl, rfl, hazure, hamazon, hpath, hport,
    azure_rejected hu (.inr rfl) rfl hazure hamazon hpath hport⟩

/-- **A signed port evades the exclusion**: the host of Azure storage is recognised, and its first
label is read as a bucket. -/
theorem signedPort_recognised :
    ∃ u auth l a, Uri.parse "http://s3-test.blob.core.windows.net:+80".toList = .ok u ∧
      u.IsHttp ∧ u.authority? = some auth ∧
        Rule.IsAzureHost (lowerAscii (Authority.host auth)) ∧
          ¬AmazonHost.domain <:+: lowerAscii (Authority.host auth) ∧
            Location.ofUri u = .ok l ∧ ¬BucketName.Plausible l.firstSegment ∧
              u.isS3 = true ∧ Address.ofUri u = .ok a ∧ a.bucket = "s3-test".toList := by
  refine ⟨.absolute "http".toList "s3-test.blob.core.windows.net:+80".toList "/".toList none, _,
    ⟨"http".toList, "s3-test.blob.core.windows.net:+80".toList, []⟩,
    { scheme := "http".toList, host := "s3-test.blob.core.windows.net:+80".toList,
      endpoint := "blob.core.windows.net:+80".toList, bucket := "s3-test".toList },
    by decide +kernel, .inl rfl, rfl, by decide +kernel, by decide +kernel, by decide +kernel,
    by decide +kernel, by decide +kernel, by decide +kernel, rfl⟩

end BucketUrl
