/-
BucketUrl/Text/Blank.lean

White space in the sense of the Unicode property `White_Space`, and trimming.
-/
import BucketUrl.Text.Basic
import BucketUrl.Text.CharSet

namespace BucketUrl.Text

/-- The 25 characters of the Unicode property `White_Space`. -/
def blanks : CharSet where
  ranges :=
    [(0x09, 0x0D), (0x20, 0x20), (0x85, 0x85), (0xA0, 0xA0), (0x1680, 0x1680), (0x2000, 0x200A),
     (0x2028, 0x2029), (0x202F, 0x202F), (0x205F, 0x205F), (0x3000, 0x3000)]

/-- The text without the white space at its beginning. -/
def trimLeft (s : Text) : Text :=
  s.dropWhile (· ∈ blanks)

/-- The text without the white space at either end. -/
def trim (s : Text) : Text :=
  (trimLeft (trimLeft s).reverse).reverse

end BucketUrl.Text
