/-
BucketUrl/Proofs/TrailWords.lean

What the events of a trail say is true.

Messages and fields are those that a reader of the trail has.  By its message an event is a layout,
an end, or neither, so that what is said of the few trails that there are (`Told`) can be said of
messages.

Main result: `trail_truthful`.
-/
import BucketUrl.Proofs.Trail

namespace BucketUrl

open Text

variable {layout : Layout} {a : Address} {s : Text}

/-! ### The words of the events -/

namespace Event

/-- The value of the field with this name. -/
def field? (name : String) (e : Event) : Option Field :=
  e.fields.lookup name.toList

/-- The messages of rejections, other than by the rules. -/
def rejections : List Text :=
  ["rejected URL that is not a valid URI".toList, "rejected URL with non UTF-8 path".toList,
   "rejected URL with unsupported scheme".toList, "rejected URL with empty host".toList,
   "rejected path-style URL with empty bucket".toList]

/-- The messages of layouts. -/
def layouts : List Text :=
  ["AWS virtual-hosted-style URL".toList, "AWS path-style URL".toList, "s3 scheme URL".toList,
   "S3-compatible path-style URL".toList, "S3-compatible virtual-hosted-style URL".toList,
   "S3-compatible service endpoint".toList]

/-- The messages of layouts on an Amazon host. -/
def amazonLayouts : List Text :=
  ["AWS virtual-hosted-style URL".toList, "AWS path-style URL".toList]

/-- The messages of layouts with the bucket in the path. -/
def pathLayouts : List Text :=
  ["AWS path-style URL".toList, "S3-compatible path-style URL".toList]

/-- The messages for what the rules said together. -/
def verdicts : List Text :=
  ["S3 URL detection settled".toList, "no detection rule recognized the URL".toList]

/-- The event is what the rules said together, with this verdict. -/
def TellsVerdict (verdict : Bool) (e : Event) : Prop :=
  e.message = "S3 URL detection settled".toList ∧ e.field? "verdict" = some (.flag verdict) ∨
    e.message = "no detection rule recognized the URL".toList ∧ verdict = false

/-- The event says that there is no address. -/
def TellsFailure (e : Event) : Prop :=
  e.message ∈ rejections ∨ e.TellsVerdict false

/-- The event says whether there is an address. -/
def IsFinal (e : Event) : Prop :=
  e.message = "parsed S3 URL".toList ∨ e.TellsFailure

theorem tellsFailure_rejected {reason : Rejection}
    (hreason : ∀ host finding, reason ≠ .unrecognized host finding) :
    (rejected reason).TellsFailure := by
  refine .inl ?_
  cases reason with
  | unrecognized host finding => exact absurd rfl (hreason host finding)
  | notUri url fault => exact .head _
  | undecodable path fault => exact .tail _ (.head _)
  | unsupportedScheme scheme => exact .tail _ (.tail _ (.head _))
  | emptyHost => exact .tail _ (.tail _ (.tail _ (.head _)))
  | emptyBucket host key => exact .tail _ (.tail _ (.tail _ (.tail _ (.head _))))

theorem tellsVerdict_found (host : Text) (finding : Finding) :
    (found host finding).TellsVerdict finding.accepted := by
  cases finding with
  | settled rule accepted => exact .inl ⟨rfl, rfl⟩
  | unsettled => exact .inr ⟨rfl, rfl⟩

/-- A failure is told by a rejection or by the rules. -/
theorem TellsFailure.message_mem {e : Event} (h : e.TellsFailure) :
    e.message ∈ verdicts ++ rejections := by
  rcases h with h | ⟨h, -⟩ | ⟨h, -⟩
  · exact List.mem_append_right _ h
  · exact List.mem_append_left _ (List.mem_cons.2 (.inl h))
  · exact List.mem_append_left _ (.tail _ (List.mem_singleton.2 h))

theorem TellsFailure.message_ne {e : Event} (h : e.TellsFailure) :
    e.message ≠ "parsed S3 URL".toList := by
  have hmessage : "parsed S3 URL".toList ∉ verdicts ++ rejections := by decide +kernel
  intro hparsed
  have hmem := h.message_mem
  rw [hparsed] at hmem
  exact hmessage hmem

/-- What the rules say is no end as long as they accept. -/
theorem not_isFinal_found (host : Text) (rule : Rule) :
    ¬(found host (.settled rule true)).IsFinal := by
  have hmessage : "S3 URL detection settled".toList ≠ "parsed S3 URL".toList ∧
      "S3 URL detection settled".toList ∉ rejections ∧
      "S3 URL detection settled".toList ≠ "no detection rule recognized the URL".toList := by
    decide +kernel
  rintro (h | h | ⟨-, h⟩ | ⟨h, -⟩)
  · exact hmessage.1 h
  · exact hmessage.2.1 h
  · have h : some (Field.flag true) = some (.flag false) := h
    cases h
  · exact hmessage.2.2 h

theorem layoutMessage_of_bucket {parts : AmazonHost} {bucket : Text}
    (hbucket : parts.bucket? = some bucket) :
    layoutMessage (.amazon parts) = "AWS virtual-hosted-style URL".toList :=
  if_pos (by rw [hbucket, Option.isSome_some])

theorem layoutMessage_of_no_bucket {parts : AmazonHost} (hbucket : parts.bucket? = none) :
    layoutMessage (.amazon parts) = "AWS path-style URL".toList :=
  if_neg (by rw [hbucket, Option.isSome_none]; exact Bool.false_ne_true)

theorem message_laidOut_mem (host : Text) (layout : Layout) :
    (laidOut host layout).message ∈ layouts := by
  show layoutMessage layout ∈ layouts
  cases layout with
  | amazon parts =>
    cases hbucket : parts.bucket? with
    | some bucket => exact layoutMessage_of_bucket hbucket ▸ .head _
    | none => exact layoutMessage_of_no_bucket hbucket ▸ .tail _ (.head _)
  | s3Scheme => exact .tail _ (.tail _ (.head _))
  | path => exact .tail _ (.tail _ (.tail _ (.head _)))
  | host bucket endpoint => exact .tail _ (.tail _ (.tail _ (.tail _ (.head _))))
  | service => exact .tail _ (.tail _ (.tail _ (.tail _ (.tail _ (.head _)))))

theorem not_isFinal_laidOut (host : Text) (layout : Layout) : ¬(laidOut host layout).IsFinal := by
  have hmessages : ∀ message ∈ layouts,
      message ≠ "parsed S3 URL".toList ∧ message ∉ verdicts ++ rejections := by
    decide +kernel
  have hmessage := hmessages _ (message_laidOut_mem host layout)
  rintro (h | h)
  · exact hmessage.1 h
  · exact hmessage.2 h.message_mem

/-- The message says whether the layout is one on an Amazon host. -/
theorem message_laidOut_mem_amazonLayouts_iff (host : Text) (layout : Layout) :
    (laidOut host layout).message ∈ amazonLayouts ↔ ∃ parts, layout = .amazon parts := by
  show layoutMessage layout ∈ amazonLayouts ↔ _
  cases layout with
  | amazon parts =>
    refine iff_of_true ?_ ⟨parts, rfl⟩
    cases hbucket : parts.bucket? with
    | some bucket => exact layoutMessage_of_bucket hbucket ▸ .head _
    | none => exact layoutMessage_of_no_bucket hbucket ▸ .tail _ (.head _)
  | s3Scheme => exact iff_of_false (by decide +kernel) (by simp)
  | path => exact iff_of_false (by decide +kernel) (by simp)
  | host bucket endpoint =>
    refine iff_of_false ?_ (by simp)
    show "S3-compatible virtual-hosted-style URL".toList ∉ amazonLayouts
    decide +kernel
  | service => exact iff_of_false (by decide +kernel) (by simp)

/-- The message says whether the layout has the bucket in the path. -/
theorem message_laidOut_mem_pathLayouts_iff (host : Text) (layout : Layout) :
    (laidOut host layout).message ∈ pathLayouts ↔ layout.IsPathStyle := by
  show layoutMessage layout ∈ pathLayouts ↔ _
  cases layout with
  | amazon parts =>
    cases hbucket : parts.bucket? with
    | some bucket =>
      rw [layoutMessage_of_bucket hbucket]
      exact iff_of_false (by decide +kernel) (by simp [Layout.IsPathStyle, hbucket])
    | none =>
      rw [layoutMessage_of_no_bucket hbucket]
      exact iff_of_true (.head _) hbucket
  | path => exact iff_of_true (.tail _ (.head _)) trivial
  | s3Scheme => exact iff_of_false (by decide +kernel) id
  | host bucket endpoint =>
    refine iff_of_false ?_ id
    show "S3-compatible virtual-hosted-style URL".toList ∉ pathLayouts
    decide +kernel
  | service => exact iff_of_false (by decide +kernel) id

end Event

namespace Asked

variable {host : Text} {asked : List Event}

theorem length_le (h : Asked host layout asked) :
    (asked ++ [Event.laidOut host layout]).length ≤ 2 := by
  cases h with
  | amazon parts hhost => exact Nat.le_succ 1
  | other _ rule hhost hlayout => exact Nat.le_refl 2

/-- What is told up to the layout is no end. -/
theorem not_isFinal (h : Asked host layout asked) :
    ∀ e ∈ asked ++ [.laidOut host layout], ¬e.IsFinal := by
  have hlaidOut := Event.not_isFinal_laidOut host layout
  cases h with
  | amazon parts hhost => simpa using hlaidOut
  | other _ rule hhost hlayout => simpa using ⟨Event.not_isFinal_found host rule, hlaidOut⟩

/-- There is one layout. -/
theorem filter_layouts (h : Asked host layout asked) :
    (asked ++ [Event.laidOut host layout]).filter (fun e => e.message ∈ Event.layouts)
      = [.laidOut host layout] := by
  have hlaidOut : [Event.laidOut host layout].filter (fun e => e.message ∈ Event.layouts)
      = [.laidOut host layout] :=
    List.filter_eq_self.2 fun e he => by
      rw [List.mem_singleton.1 he, decide_eq_true (Event.message_laidOut_mem host layout)]
  rw [List.filter_append, hlaidOut]
  cases h with
  | amazon parts hhost => rfl
  | other _ rule hhost hlayout =>
    have hfound : (Event.found host (.settled rule true)).message ∉ Event.layouts := by
      show "S3 URL detection settled".toList ∉ Event.layouts
      decide +kernel
    simp [hfound]

theorem amazon_iff (h : Asked host layout asked) :
    (∃ parts, layout = .amazon parts) ↔ (AmazonHost.ofHost? host).isSome = true := by
  cases h with
  | amazon parts hhost => simp [hhost]
  | other _ rule hhost hlayout => simp [hhost, hlayout]

end Asked

/-! ### The truth of the trail -/

/-- The events are what there is to tell about the recognition of a text. -/
structure TellsRecognition (s : Text) (events : List Event) : Prop where
  /-- Nothing is told of a text that is no URI. -/
  notUri : (∀ u, Uri.parse s ≠ .ok u) → events = []
  /-- Of a URI the verdict is told, or that it has no text for a path. -/
  uri : ∀ u, Uri.parse s = .ok u → ∃ e, events = [e] ∧
    (e.TellsVerdict s.isS3 ∨
      e.message = "rejected URL with non UTF-8 path".toList ∧ s.isS3 = false)

/-- The events, of which one is the last, are what there is to tell about the reading of a text. -/
structure TellsReading (s : Text) (before : List Event) (last : Event) : Prop where
  /-- There are three events at most. -/
  length : before.length ≤ 2
  /-- No event before the last one is an end. -/
  going : ∀ e ∈ before, ¬e.IsFinal
  /-- The last event is an end. -/
  final : last.IsFinal
  /-- It says whether there is an address. -/
  parsed_iff : last.message = "parsed S3 URL".toList ↔ ∃ a, Address.parse s = .ok a
  /-- If there is none, it is a rejection or a verdict. -/
  failure : ∀ e, Address.parse s = .error e → last.TellsFailure
  /-- If there is one, it shows parts of it. -/
  fields : ∀ a, Address.parse s = .ok a →
    last.field? "host" = some (.text a.host) ∧ last.field? "bucket" = some (.text a.bucket) ∧
      last.field? "key" = some (.text a.key) ∧ last.field? "path_style" = some (.flag a.pathStyle)
  /-- Then one layout has been told before, which fits host and style of the address. -/
  layout : ∀ a, Address.parse s = .ok a →
    ∃ layout, before.filter (fun e => e.message ∈ Event.layouts) = [layout] ∧
      (layout.message ∈ Event.amazonLayouts ↔ (AmazonHost.ofHost? a.host).isSome = true) ∧
      (layout.message ∈ Event.pathLayouts ↔ a.pathStyle = true)

namespace Told

variable {events : List Event}

/-- A trail without an address ends with the reason. -/
theorem exists_of_error {e : Address.Error} (h : Told events (.error e)) :
    ∃ before last, events = before ++ [last] ∧ before.length ≤ 2 ∧ (∀ e ∈ before, ¬e.IsFinal) ∧
      last.TellsFailure := by
  cases h with
  | rejected _ hreason =>
    exact ⟨[], _, rfl, Nat.zero_le 2, by simp, Event.tellsFailure_rejected hreason⟩
  | unrecognized host finding hfinding =>
    refine ⟨[], _, rfl, Nat.zero_le 2, by simp, .inr ?_⟩
    exact hfinding ▸ Event.tellsVerdict_found host finding
  | emptyBucket host key layout asked hasked =>
    refine ⟨asked ++ [.laidOut host layout], .rejected (.emptyBucket host key), by simp, ?_⟩
    exact ⟨hasked.length_le, hasked.not_isFinal, Event.tellsFailure_rejected (by simp)⟩

theorem tellsReading_of_error {e : Address.Error} (h : Told events (.error e))
    (hparse : Address.parse s = .error e) :
    ∃ before last, events = before ++ [last] ∧ TellsReading s before last := by
  obtain ⟨before, last, hevents, hlength, hgoing, hlast⟩ := h.exists_of_error
  refine ⟨before, last, hevents, hlength, hgoing, .inr hlast, ?_, fun _ _ => hlast, ?_, ?_⟩
  · exact iff_of_false hlast.message_ne (by simp [hparse])
  · simp [hparse]
  · simp [hparse]

theorem tellsReading_of_ok (h : Told events (.ok a)) (hparse : Address.parse s = .ok a) :
    ∃ before last, events = before ++ [last] ∧ TellsReading s before last := by
  cases h with
  | parsed _ layout asked hasked hstyle =>
    refine ⟨asked ++ [.laidOut a.host layout], .parsed a, by simp, hasked.length_le,
      hasked.not_isFinal, .inl rfl, iff_of_true rfl ⟨a, hparse⟩, ?_, ?_, ?_⟩
    · simp [hparse]
    · intro b hb
      cases hparse.symm.trans hb
      exact ⟨rfl, rfl, rfl, rfl⟩
    · intro b hb
      cases hparse.symm.trans hb
      refine ⟨.laidOut a.host layout, hasked.filter_layouts, ?_, ?_⟩
      · rw [Event.message_laidOut_mem_amazonLayouts_iff, hasked.amazon_iff]
      · rw [Event.message_laidOut_mem_pathLayouts_iff, hstyle]

end Told

/-- What reading a text tells is true. -/
theorem exists_tellsReading (s : Text) :
    ∃ before last, Address.trail s = before ++ [last] ∧ TellsReading s before last := by
  have htold := (Address.told_parseTraced s).2
  cases hparse : Address.parse s with
  | ok a =>
    rw [hparse] at htold
    exact htold.tellsReading_of_ok hparse
  | error e =>
    rw [hparse] at htold
    exact htold.tellsReading_of_error hparse

/-- What recognising a text tells is true. -/
theorem tellsRecognition (s : Text) : TellsRecognition s s.trail := by
  rw [trail, isS3Traced]
  cases hu : Uri.parse s with
  | error fault => exact ⟨fun _ => rfl, by simp [hu]⟩
  | ok u =>
    have hverdict : s.isS3 = u.isS3 := by rw [isS3, hu]
    refine ⟨fun h => absurd hu (h u), fun _ _ => ?_⟩
    rw [hverdict]
    rcases u.isS3Traced_cases.2 with ⟨host, finding, hevents, hfinding⟩ | ⟨fault, hevents, hfalse⟩
    · exact ⟨_, hevents, .inl (hfinding ▸ Event.tellsVerdict_found host finding)⟩
    · exact ⟨_, hevents, .inr ⟨rfl, hfalse⟩⟩

/-- **The trail tells the truth**, about recognition and about reading, and telling it changes
neither of them. -/
theorem trail_truthful (s : Text) :
    (s.isS3Traced.holds = s.isS3 ∧ TellsRecognition s s.trail) ∧
      (Address.parseTraced s).result = Address.parse s ∧
        ∃ before last, Address.trail s = before ++ [last] ∧ TellsReading s before last :=
  ⟨⟨holds_isS3Traced s, tellsRecognition s⟩,
    (Address.told_parseTraced s).1, exists_tellsReading s⟩

/-- A URL that is read after the rules were asked. -/
example : (Address.trail "http://minio.local/b/k".toList).map Event.message =
    ["S3 URL detection settled".toList, "S3-compatible path-style URL".toList,
     "parsed S3 URL".toList] := by
  decide +kernel

end BucketUrl
