/-
BucketUrl/Proofs/Recognition.lean

When the rules accept a location (`accepted_finding_iff`).

The rules are asked one after the other, so one lemma says what a rule adds to those behind it
(`accepted_ask_cons`), and the six of them are unfolded once.  Other modules cite the result and do
not look at the rules again.
-/
import BucketUrl.Proofs.BucketName
import BucketUrl.Recognition

namespace BucketUrl.Location

open Text

variable {l : Location}

/-- The first label of the host can name a bucket, and the host does not belong to a store of
another kind. -/
def NamesBucket (l : Location) : Prop :=
  ∃ label rest, cut? '.' l.hostName = some (label, rest) ∧ ¬Rule.IsAzureHost l.hostName ∧
    BucketName.Plausible label

theorem accepted_ask_cons (l : Location) (rule : Rule) (rules : List Rule) :
    (l.ask (rule :: rules)).accepted = true ↔
      rule.verdict? l = some true ∨ rule.verdict? l = none ∧ (l.ask rules).accepted = true := by
  rw [ask]
  cases hv : rule.verdict? l with
  | none => simp
  | some accepted => simp [Finding.accepted]

theorem hostBucket_verdict? (l : Location) :
    Rule.hostBucket.verdict? l = some true ↔ l.NamesBucket := by
  rw [Rule.verdict?, NamesBucket]
  split
  · next hcut => simp [hcut]
  · next label rest hcut =>
    rw [hcut]
    split
    · next hazure => simp [hazure]
    · next hazure =>
      split
      · next hlabel => simp [hazure, hlabel]
      · next hlabel => simp [hlabel]

/-- A location is accepted when its scheme names the bucket, or when it is reached over HTTP, has a
host, and the host or the path shows a bucket. -/
theorem accepted_finding_iff (l : Location) :
    l.finding.accepted = true ↔
      l.scheme? = some .s3 ∨
        (l.scheme? = some .http ∨ l.scheme? = some .https) ∧ l.host ≠ [] ∧
          ((AmazonHost.ofHost? l.host).isSome = true ∨ BucketName.Plausible l.firstSegment ∨
            l.NamesBucket) := by
  have hnil : (l.ask []).accepted = false := rfl
  rw [finding, Rule.all, accepted_ask_cons, accepted_ask_cons, accepted_ask_cons,
    accepted_ask_cons, accepted_ask_cons, accepted_ask_cons, hostBucket_verdict?, hnil]
  simp only [Rule.verdict?]
  -- each question settles the rules before the next one
  by_cases hs3 : l.scheme? = some .s3
  · simp [hs3]
  by_cases hhttp : l.scheme? = some .http ∨ l.scheme? = some .https
  · by_cases hhost : l.host = []
    · simp [hs3, hhttp, hhost]
    · by_cases hamazon : (AmazonHost.ofHost? l.host).isSome = true
      · simp [hs3, hhttp, hhost, hamazon]
      · by_cases hpath : BucketName.Plausible l.firstSegment
        · simp [hs3, hhttp, hhost, hamazon, hpath]
        · simp [hs3, hhttp, hhost, hamazon, hpath]
  · simp [hs3, hhttp]

end BucketUrl.Location
