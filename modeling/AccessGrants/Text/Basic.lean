/-!
# Texts

A text is a list of characters, so that every reader of a grant string is a plain function on lists.

* `Text.inRanges` is a class of characters that is given by a table.
* `Text.before` is the order of texts.
* `Text.trim` drops a class of characters from both ends.
* `Text.splitAtFirst` and `Text.splitBy` cut at a separating character.
* `Text.join` puts a separator between texts.
* `Text.dropFinalNewline` forgets one line feed at the end; `Text.atEnd` says that at most that is left.
-/

namespace AccessGrants

/-- A text, as the list of its characters. -/
abbrev Text := List Char

namespace Text

/-- A character lies in one of some ranges of codes. -/
def inRanges (ranges : List (Nat × Nat)) (c : Char) : Bool :=
  ranges.any fun range => range.1 ≤ c.toNat && c.toNat ≤ range.2

/-- A text comes before another one in the order of the codes of their characters. -/
def before (t u : Text) : Bool :=
  List.lex t u fun c d => c.toNat < d.toNat

/-- A text is one of some texts or none of them. -/
instance decidableMem (t : Text) (ts : List Text) : Decidable (t ∈ ts) :=
  inferInstance

/-! ## Ends of a text -/

/-- Drops the characters in `p` from both ends of a text. -/
def trim (p : Char → Bool) (t : Text) : Text :=
  ((t.dropWhile p).reverse.dropWhile p).reverse

@[simp] theorem trim_nil (p : Char → Bool) : trim p [] = [] := rfl

/-- Forgets one line feed at the end of a text. -/
def dropFinalNewline : Text → Text
  | [] => []
  | ['\n'] => []
  | c :: r => c :: dropFinalNewline r

@[simp] theorem dropFinalNewline_nil : dropFinalNewline [] = [] := rfl

/-- Nothing is left of a text but one line feed, or not even that. -/
def atEnd (t : Text) : Bool :=
  t == [] || t == ['\n']

@[simp] theorem atEnd_nil : atEnd [] = true := rfl

/-! ## Separators -/

/-- The text before the first `c` and the text after it. -/
def splitAtFirst (c : Char) : Text → Option (Text × Text)
  | [] => none
  | d :: r =>
    if d = c then some ([], r)
    else (splitAtFirst c r).map fun parts => (d :: parts.1, parts.2)

/-- The parts of a text between the occurrences of `c`, empty ones included. -/
def splitBy (c : Char) : Text → List Text
  | [] => [[]]
  | d :: r =>
    match splitBy c r with
    | [] => [[d]]
    | w :: ws => if d = c then [] :: w :: ws else (d :: w) :: ws

/-- The texts in order with `sep` between each two. -/
def join (sep : Text) (parts : List Text) : Text :=
  sep.intercalate parts

@[simp] theorem join_nil (sep : Text) : join sep [] = [] := rfl

@[simp] theorem join_singleton (sep t : Text) : join sep [t] = t := by
  simp [join, List.intercalate]

end Text

end AccessGrants
