import AccessGrants.Text.Blank

/-!
# The layout of a grant string

A grant string may be laid out freely. Its normal form has no blank at either end and a single
space for each run of blanks, but keeps the blanks of a quoted identifier.

* `Layout.Place` says where in a text a character stands: beside a word, after a blank, or inside
  the quotes.
* `Layout.squeeze` reads a text from left to right and collapses the runs outside the quotes. A
  quote opens a span only if another quote closes it.
* `Layout.normalize` is the normal form.
-/

namespace AccessGrants

namespace Layout

/-- Where the next character stands: after a character that is kept, after a blank outside the
quotes, or inside them. -/
inductive Place
  | plain
  | blank
  | quoted
  deriving DecidableEq

/-- Collapses each run of blanks outside the quotes to one space. -/
def squeeze : Place → Text → Text
  | _, [] => []
  | .quoted, c :: r => c :: squeeze (if c = '"' then .plain else .quoted) r
  | place, c :: r =>
    if c = '"' then c :: squeeze (if '"' ∈ r then .quoted else .plain) r
    else if Text.isBlank c then
      if place = .blank then squeeze .blank r else ' ' :: squeeze .blank r
    else c :: squeeze .plain r

@[simp] theorem squeeze_nil (place : Place) : squeeze place [] = [] := by
  cases place <;> rfl

@[simp] theorem squeeze_quoted_cons (c : Char) (r : Text) :
    squeeze .quoted (c :: r) = c :: squeeze (if c = '"' then .plain else .quoted) r := rfl

/-- The normal form of a grant string: trimmed, with single spaces outside the quotes. -/
def normalize (raw : Text) : Text :=
  squeeze .plain (Text.strip raw)

end Layout

end AccessGrants
