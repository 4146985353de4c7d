import AccessGrants.Text.Shown

/-!
# Texts quoted in a message

A message quotes a word between single quotes, or between double quotes if only single ones are in
it. Characters that cannot be shown are written by their code.

* `Text.quoted` quotes a word.
* `Text.unknownWord` is the wording for a word that names no member of a type.
-/

namespace AccessGrants

namespace Text

/-- The last `places` hexadecimal digits of a number. -/
def hexDigits : Nat → Nat → Text
  | 0, _ => []
  | places + 1, n =>
    let d := n % 16
    hexDigits places (n / 16) ++ [Char.ofNat (if d < 10 then 48 + d else 87 + d)]

/-- A character in a quoted word. -/
def quotedChar (mark c : Char) : Text :=
  if c = mark ∨ c = '\\' then ['\\', c]
  else if c = '\n' then "\\n".toList
  else if c = '\r' then "\\r".toList
  else if c = '\t' then "\\t".toList
  else if isShown c then [c]
  else if c.toNat < 0x100 then '\\' :: 'x' :: hexDigits 2 c.toNat
  else if c.toNat < 0x10000 then '\\' :: 'u' :: hexDigits 4 c.toNat
  else '\\' :: 'U' :: hexDigits 8 c.toNat

/-- A word in quotes. -/
def quoted (word : Text) : Text :=
  let mark := if '\'' ∈ word ∧ '"' ∉ word then '"' else '\''
  mark :: word.flatMap (quotedChar mark) ++ [mark]

/-- The wording for a word that names no member of a type. -/
def unknownWord (word type : Text) : Text :=
  quoted word ++ " is not a valid ".toList ++ type

end Text

end AccessGrants
