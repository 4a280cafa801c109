/-
BucketUrl/Proofs/OutputLines.lean

The lines that the inspector writes, one for each URL.

The output is a line for each URL with a line feed behind it, so it is taken apart into these lines
exactly when none of them has a line feed of its own (`output_lines_iff`).  In a line of words the
URL stands as it was given, and bucket, key and version stand decoded; these four can hold a line
feed, and nothing else can (`lineFeed_mem_text_iff`).

Main result: `text_lines_iff`.
-/
import BucketUrl.Inspector
import BucketUrl.Proofs.Coherence

namespace BucketUrl

open Text

variable {s url : Text} {u : Uri} {l : Location} {a : Address} {scheme : Scheme}

/-! ### Parts of an address without a line feed -/

namespace Address

/-- The endpoint is the host or a part of it. -/
theorem LaidOut.mem_host_of_mem_endpoint (hlaid : LaidOut scheme a) :
    ∀ c ∈ a.endpoint, c ∈ a.host := by
  intro c hc
  cases hlaid with
  | @amazonHost parts _ _ hendpoint _ =>
    rw [hendpoint] at hc
    cases hafter : after? parts.bucketPart a.host with
    | none =>
      rw [hafter] at hc
      exact hc
    | some t =>
      rw [hafter] at hc
      rw [after?_eq_some_iff.1 hafter]
      exact List.mem_append_right _ hc
  | amazonPath _ _ hpath => exact hpath.endpoint ▸ hc
  | s3Scheme _ _ _ hendpoint _ =>
    rw [hendpoint] at hc
    cases hc
  | path _ _ _ _ hpath => exact hpath.endpoint ▸ hc
  | host _ _ _ hbare _ _ =>
    obtain ⟨-, -, front, hcut⟩ := Layout.ofBareHost_eq_host_iff.1 hbare
    have hcut : cut? '.' a.host = some (front, a.endpoint) := hcut
    rw [(cut?_eq_some_iff.1 hcut).2]
    exact List.mem_append_right _ (List.mem_cons_of_mem _ hc)

theorem mem_host_of_mem_endpoint (hread : ofUri u = .ok a) : ∀ c ∈ a.endpoint, c ∈ a.host := by
  obtain ⟨l, b, -, hb, rfl⟩ := ofUri_eq_ok_iff.1 hread
  obtain ⟨scheme, -, -, -, -, hlaid | hunnamed⟩ := laidOut_or_unnamed hb
  · exact hlaid.mem_host_of_mem_endpoint
  · exact fun c hc => hunnamed.path.endpoint ▸ hc

theorem lineFeed_not_mem_host (hu : Uri.parse s = .ok u) (hread : ofUri u = .ok a) :
    '\n' ∉ a.host := by
  obtain ⟨auth, -, hcheck, -, hhost, -⟩ := authority_of_ofUri hu hread
  intro h
  rw [hhost, mem_lowerAscii_iff (by decide)] at h
  have hchars : '\n' ∈ Uri.Authority.chars :=
    Uri.Authority.mem_chars_of_check hcheck (Uri.Authority.mem_of_mem_hostPort h)
  exact absurd hchars (by decide)

theorem lineFeed_not_mem_region (hread : ofUri u = .ok a) : '\n' ∉ a.region := by
  obtain ⟨l, b, -, hb, rfl⟩ := ofUri_eq_ok_iff.1 hread
  intro h
  exact absurd ((grounded_of_ofLocation hb).region.2.1 _ h) (by decide)

theorem lineFeed_not_mem_params (hread : ofUri u = .ok a) : '\n' ∉ a.params := by
  obtain ⟨l, b, -, -, rfl⟩ := ofUri_eq_ok_iff.1 hread
  intro h
  exact absurd (VersionQuery.mem_queryChars_write h) (by decide)

/-- All that a line feed could come from is escaped in a canonical URL. -/
theorem lineFeed_not_mem_canonical (hu : Uri.parse s = .ok u) (hread : ofUri u = .ok a) :
    '\n' ∉ a.canonical := by
  have hprintable := printable_of_ofUri hu hread
  have hscheme : '\n' ∉ a.scheme := by
    have hall : ∀ scheme ∈ Scheme.spellings, '\n' ∉ scheme := by decide
    exact hall _ hprintable.scheme
  have hpath : '\n' ∉ a.printPath := fun h => absurd (mem_pathChars_printPath h) (by decide)
  have hquery : '\n' ∉ a.printQuery := by
    rw [printQuery]
    split
    · exact List.not_mem_nil
    · intro h
      rcases List.mem_cons.1 h with h | h
      · exact absurd h (by decide)
      · exact absurd (hprintable.query _ h) (by decide)
  simp [canonical, hscheme, lineFeed_not_mem_host hu hread, hpath, hquery]

end Address

/-! ### Words -/

namespace Inspection

theorem lineFeed_mem_word_iff {name : String} (hname : '\n' ∉ name.toList) (value : Text) :
    '\n' ∈ word name value ↔ '\n' ∈ value := by
  simp [word, hname]

theorem lineFeed_mem_optionalWord_iff {name : String} (hname : '\n' ∉ name.toList)
    (value : Text) : '\n' ∈ (optionalWord name value).flatten ↔ '\n' ∈ value := by
  rw [optionalWord]
  split
  · next h => simp [h]
  · simp [lineFeed_mem_word_iff hname]

theorem lineFeed_not_mem_flagWord {name : String} (hname : '\n' ∉ name.toList) (flag : Bool) :
    '\n' ∉ (flagWord name flag).flatten := by
  cases flag with
  | false => exact List.not_mem_nil
  | true => simpa [flagWord] using hname

theorem lineFeed_not_mem_kind (k : Address.Kind) : '\n' ∉ k.name := by
  cases k with
  | service => decide
  | bucket => decide
  | object => decide

theorem lineFeed_not_mem_fault (fault : Uri.Fault) : '\n' ∉ fault.message := by
  cases fault with
  | tooLong => decide
  | empty => decide
  | badChar => decide
  | badAuthority => decide
  | badForm => decide
  | schemeTooLong => decide

theorem lineFeed_not_mem_message (e : Address.Error) : '\n' ∉ e.message := by
  cases e with
  | invalidUrl reason =>
    unfold Address.Error.message Address.Error.invalidUrlMessage
    rw [String.toList_append, String.toList_append, String.toList_append]
    simp only [List.mem_append, not_or]
    decide +kernel
  | invalidUri fault =>
    have hword : '\n' ∉ "invalid URI: ".toList := by decide
    show '\n' ∉ "invalid URI: ".toList ++ fault.message
    exact fun h => (List.mem_append.1 h).elim hword (lineFeed_not_mem_fault fault)

theorem lineFeed_not_mem_quoted (value : Text) (hvalue : '\n' ∉ value) :
    '\n' ∉ [word "error" ('\x22' :: value ++ ['\x22'])].flatten := by
  rw [List.flatten_singleton, lineFeed_mem_word_iff (by decide)]
  simp [hvalue]

/-- In the words for an address only bucket, key and version can hold a line feed. -/
theorem lineFeed_mem_addressWords_iff (hu : Uri.parse s = .ok u) (hread : Address.ofUri u = .ok a) :
    '\n' ∈ (addressWords a).flatten ↔ '\n' ∈ a.bucket ∨ '\n' ∈ a.key ∨ '\n' ∈ a.version := by
  have hhost := Address.lineFeed_not_mem_host hu hread
  have hendpoint : '\n' ∉ a.endpoint :=
    fun h => hhost (Address.mem_host_of_mem_endpoint hread _ h)
  have hregion := Address.lineFeed_not_mem_region hread
  have hparams := Address.lineFeed_not_mem_params hread
  have hcanonical := Address.lineFeed_not_mem_canonical hu hread
  simp (disch := decide) only [addressWords, List.flatten_append, List.mem_append,
    List.flatten_singleton, lineFeed_mem_word_iff, lineFeed_mem_optionalWord_iff,
    lineFeed_not_mem_flagWord, lineFeed_not_mem_kind, hendpoint, hregion, hparams, hcanonical,
    false_or, or_false]
  rw [or_assoc]

end Inspection

/-! ### Lines -/

/-- Something that the line of words for the URL shows as it is has a line feed: the URL itself, or
the bucket, the key or the version that were read from it. -/
def Text.ShowsLineFeed (url : Text) : Prop :=
  '\n' ∈ url ∨ ∃ a, Address.parse url = .ok a ∧ ('\n' ∈ a.bucket ∨ '\n' ∈ a.key ∨ '\n' ∈ a.version)

/-- The line of words for a URL has a line feed exactly where it shows one. -/
theorem Inspection.lineFeed_mem_text_iff (url : Text) :
    '\n' ∈ (ofUrl url).text ↔ url.ShowsLineFeed := by
  have hflag : ∀ b : Bool, '\n' ∉ (if b then "true".toList else "false".toList) := by decide
  rw [text, mem_intercalate_iff (by decide), List.flatten_cons, List.flatten_cons, List.mem_append,
    List.mem_append, lineFeed_mem_word_iff (by decide), or_iff_right (hflag _), ShowsLineFeed]
  show '\n' ∈ url ∨ '\n' ∈ (resultWords (Address.parse url)).flatten ↔ _
  cases hparse : Address.parse url with
  | error e =>
    have hmessage : '\n' ∉ (resultWords (.error e)).flatten :=
      lineFeed_not_mem_quoted e.message (lineFeed_not_mem_message e)
    rw [or_iff_left hmessage]
    simp
  | ok a =>
    obtain ⟨u, hu, hread⟩ := Address.parse_eq_ok_iff.1 hparse
    show _ ∨ '\n' ∈ (addressWords a).flatten ↔ _
    rw [lineFeed_mem_addressWords_iff hu hread]
    simp

namespace Inspector

/-- The output is taken apart into the lines for the URLs exactly when these have no line feeds of
their own. -/
theorem output_lines_iff (form : OutputForm) (urls : List Text) :
    (output form urls).splitOn '\n' = urls.map (fun url => line form (.ofUrl url)) ++ [[]] ↔
      ∀ url ∈ urls, '\n' ∉ line form (.ofUrl url) :=
  splitOn_flatMap_concat_iff (fun url => line form (.ofUrl url)) urls

/-- **The output in words has one line for each URL**, in order, exactly when no URL and nothing
that is decoded from it has a line feed. -/
theorem text_lines_iff (urls : List Text) :
    (output .text urls).splitOn '\n' = urls.map (fun url => (Inspection.ofUrl url).text) ++ [[]] ↔
      ∀ url ∈ urls, ¬url.ShowsLineFeed := by
  refine (output_lines_iff .text urls).trans ?_
  refine forall₂_congr fun url _ => not_congr ?_
  exact Inspection.lineFeed_mem_text_iff url

/-- An escaped line feed in a key breaks the line for its URL into two. -/
theorem key_breaks_line :
    '\n' ∈ (Inspection.ofUrl "s3://b/%0Ak".toList).text ∧
      (output .text ["s3://b/%0Ak".toList]).splitOn '\n'
        = ["s3://b/%0Ak s3=true kind=object bucket=b key=".toList,
           "k canonical=s3://b/%0Ak".toList, []] := by
  decide +kernel

end Inspector

end BucketUrl
