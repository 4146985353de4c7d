import AccessGrants.Text.Basic

/-!
# Letters without case

A privilege is written in any letter case. Besides the ASCII letters, the four characters that
Unicode folds onto one count as that letter: the dotless and the dotted i (U+0131, U+0130), the
long s (U+017F) and the Kelvin sign (U+212A).

* `Text.fold` maps each accepted letter to its capital, `Text.isLetter` is the class it accepts.
* `Text.capital` is the upper case that is stored. It keeps the dotted i and the Kelvin sign, which
  are upper case already.
* `Text.dropPhrase` reads a fixed phrase in any letter case; `Text.splitAtPhrase` finds its first
  place.
-/

namespace AccessGrants

namespace Text

/-! ## Folding and upper case -/

/-- The ASCII capital that a letter is read as; other characters stay. -/
def fold (c : Char) : Char :=
  match c with
  | 'ı' => 'I'
  | 'İ' => 'I'
  | 'ſ' => 'S'
  | '\u212A' => 'K'
  | c => c.toUpper

/-- The characters that are read as one of the letters `A` to `Z`. -/
def isLetter (c : Char) : Bool :=
  (fold c).isUpper

/-- The upper case of an accepted letter. -/
def capital (c : Char) : Char :=
  match c with
  | 'ı' => 'I'
  | 'ſ' => 'S'
  | c => c.toUpper

/-- A text with each letter in upper case. -/
def upper (t : Text) : Text := t.map capital

@[simp] theorem upper_nil : upper [] = [] := rfl

@[simp] theorem upper_cons (c : Char) (t : Text) : upper (c :: t) = capital c :: upper t := rfl

/-! ## Phrases -/

/-- What follows a phrase of capitals and blanks that is read in any letter case. -/
def dropPhrase : Text → Text → Option Text
  | [], t => some t
  | _ :: _, [] => none
  | k :: ks, c :: t => if fold c = k then dropPhrase ks t else none

@[simp] theorem dropPhrase_nil (t : Text) : dropPhrase [] t = some t := by
  cases t <;> rfl

/-- Two texts agree up to letter case when the first is a phrase of capitals. -/
def isPhrase (phrase t : Text) : Bool :=
  t.map fold == phrase

/-- The text before the first place of a phrase, and the text after it. -/
def splitAtPhrase (phrase : Text) : Text → Option (Text × Text)
  | [] => none
  | c :: r =>
    match dropPhrase phrase (c :: r) with
    | some rest => some ([], rest)
    | none => (splitAtPhrase phrase r).map fun parts => (c :: parts.1, parts.2)

end Text

end AccessGrants
