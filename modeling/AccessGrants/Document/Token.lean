import AccessGrants.Document.Fault

/-!
# Tokens of a document

A document is written as nested blocks, whose depth is their indentation, or as nested brackets. A
token stream makes the nesting explicit: it marks where a block begins and ends, and which text is a
key.

* `Document.isBreak`, `Document.isGap` and `Document.isPrintable` are the classes of characters;
  `Document.portionStart` says how much of a text is read at once.
* `Written` is a scalar as it is written, `Token` has the tokens. A fault stands in the place of the
  tokens that cannot be read because of it.
-/

namespace AccessGrants

namespace Document

/-! ## Characters -/

/-- The characters that end a line. -/
def isBreak (c : Char) : Bool :=
  c == '\n' || c == '\u0085' || c == '\u2028' || c == '\u2029'

/-- The characters that end a word: blanks, tabs and line ends. -/
def isGap (c : Char) : Bool :=
  c == ' ' || c == '\t' || isBreak c

/-- The characters that a document may contain. -/
def isPrintable (c : Char) : Bool :=
  let n := c.toNat
  n == 0x09 || n == 0x0A || n == 0x0D || (0x20 ≤ n && n ≤ 0x7E) || n == 0x85 ||
    (0xA0 ≤ n && n ≤ 0xFFFD) || 0x10000 ≤ n

/-- Where the portion of a text begins that a place is read with. The first portion has 8192
characters, every other one 4096. -/
def portionStart (place : Nat) : Nat :=
  if place < 8192 then 0 else place / 4096 * 4096

/-- A word ends here: at the end of the text, or before a blank, a tab or a line end. -/
def gapAhead : Text → Bool
  | [] => true
  | c :: _ => isGap c

/-- The line starts with the marker of a document start or end. -/
def markerAhead : Text → Bool
  | '-' :: '-' :: '-' :: rest => gapAhead rest
  | '.' :: '.' :: '.' :: rest => gapAhead rest
  | _ => false

/-- The text of a line end: a line feed, but for the two separators, which stand for themselves. -/
def breakText (c : Char) : Char :=
  if c = '\u2028' ∨ c = '\u2029' then c else '\n'

/-- What the line ends between two lines stand for: one alone is folded into a space. -/
def foldBreaks (first : Char) (others : Text) : Text :=
  if breakText first ≠ '\n' then breakText first :: others
  else if others = [] then [' ']
  else others

end Document

/-! ## Tokens -/

/-- A scalar as it is written: without quotes, or the codes of what stands between quotes. -/
inductive Written
  | plain (t : Text)
  | quoted (codes : List Nat)
  deriving DecidableEq

/-- The tokens of a document. -/
inductive Token
  | documentStart
  | documentEnd
  | blockSequenceStart
  | blockMappingStart
  | blockEnd
  | flowSequenceStart
  | flowSequenceEnd
  | flowMappingStart
  | flowMappingEnd
  | blockEntry
  | flowEntry
  | key
  | value
  | scalar (written : Written)
  | fault (e : DocumentFault)
  deriving DecidableEq

end AccessGrants
