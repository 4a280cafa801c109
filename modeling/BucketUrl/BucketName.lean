/-
BucketUrl/BucketName.lean

Which texts can name a bucket: 1 to 63 ASCII letters, digits, dots and hyphens, a letter or digit
first, and no dotted quad.  White space around the name and the case of its letters do not count.
-/
import BucketUrl.Text.Blank

namespace BucketUrl.BucketName

/-- The most characters of a bucket name. -/
def maxLength : Nat := 63

/-- The characters of a bucket name. -/
def chars : CharSet where
  ranges := [(0x2D, 0x2E), (0x30, 0x39), (0x61, 0x7A)]

/-- The characters with which a bucket name may begin. -/
def initials : CharSet where
  ranges := [(0x30, 0x39), (0x61, 0x7A)]

/-- Four runs of digits with dots between them, as in an IPv4 address of any size. -/
def IsDottedQuad (s : Text) : Prop :=
  (s.splitOn '.').length = 4 ∧ ∀ run ∈ s.splitOn '.', Text.IsDigits run

instance (s : Text) : Decidable (IsDottedQuad s) :=
  inferInstanceAs (Decidable (_ ∧ _))

/-- A text in lower case and without white space around it is a bucket name. -/
def IsLabel (s : Text) : Prop :=
  s.length ≤ maxLength ∧ (∀ c ∈ s, c ∈ chars) ∧ (∃ c ∈ s.head?, c ∈ initials) ∧ ¬IsDottedQuad s

instance (s : Text) : Decidable (IsLabel s) :=
  inferInstanceAs (Decidable (_ ∧ _ ∧ _ ∧ _))

/-- A text can name a bucket: trimmed and in lower case, it is a bucket name. -/
def Plausible (s : Text) : Prop :=
  IsLabel (Text.lowerAscii (Text.trim s))

instance (s : Text) : Decidable (Plausible s) :=
  inferInstanceAs (Decidable (IsLabel _))

end BucketUrl.BucketName
