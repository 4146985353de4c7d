import AccessGrants.Text.Basic

/-!
# Blank characters

Two classes of blank characters are in use, and they differ in the four separators U+001C to U+001F.

* `Text.isWhiteSpace` is the Unicode property White_Space; field values are trimmed by it.
* `Text.isBlank` adds the four separators; the layout of a grant string and the flags of the
  catalog are read by it.
-/

namespace AccessGrants

namespace Text

/-- The Unicode property White_Space. -/
def isWhiteSpace (c : Char) : Bool :=
  let n := c.toNat
  (0x09 ≤ n && n ≤ 0x0D) || n == 0x20 || n == 0x85 || n == 0xA0 || n == 0x1680 ||
    (0x2000 ≤ n && n ≤ 0x200A) || n == 0x2028 || n == 0x2029 || n == 0x202F || n == 0x205F ||
    n == 0x3000

/-- The information separators U+001C to U+001F. -/
def isSeparator (c : Char) : Bool :=
  0x1C ≤ c.toNat && c.toNat ≤ 0x1F

/-- White space or an information separator. -/
def isBlank (c : Char) : Bool :=
  isWhiteSpace c || isSeparator c

/-- White space is blank. -/
theorem isBlank_of_isWhiteSpace {c : Char} (h : isWhiteSpace c = true) : isBlank c = true := by
  simp [isBlank, h]

/-- Drops blank characters from both ends. -/
def strip (t : Text) : Text := trim isBlank t

/-- Drops white space from both ends. -/
def stripWhiteSpace (t : Text) : Text := trim isWhiteSpace t

end Text

end AccessGrants
