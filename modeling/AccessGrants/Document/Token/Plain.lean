import AccessGrants.Document.Token

/-!
# Plain scalars

A plain scalar has no quotes. It goes on over blanks and, while the lines are indented deep enough,
over line ends, which are folded. It ends before a colon that a blank follows, before a comment, and
between brackets before a comma or a bracket.

* `Document.startsPlain` says which text starts a plain scalar.
* `Document.plainRun` reads up to the next blank, `Document.plainGap` the blanks and line ends.
* `Document.readPlain` reads a whole plain scalar.
-/

namespace AccessGrants

namespace Document

/-- The characters that have a meaning of their own at the start of a token. -/
def indicators : Text :=
  "-?:,[]{}#&*!|>'\"%@`".toList

/-- A text starts a plain scalar; `flow` says that it stands between brackets. -/
def startsPlain (flow : Bool) : Text → Bool
  | [] => false
  | c :: r =>
    (!isGap c && !(indicators.contains c)) ||
      (!gapAhead r && (c == '-' || (!flow && (c == '?' || c == ':'))))

/-- The brackets and the comma. -/
def isFlowIndicator (c : Char) : Bool :=
  c == ',' || c == '[' || c == ']' || c == '{' || c == '}'

/-- A plain scalar ends before this text at the latest. -/
def endsPlain (flow : Bool) : Text → Bool
  | [] => true
  | c :: r =>
    isGap c ||
      (c == ':' && (gapAhead r || (flow && r.head?.any isFlowIndicator))) ||
      (flow && (c == '?' || isFlowIndicator c))

/-- The characters of a plain scalar up to the next blank, and the rest. -/
def plainRun (flow : Bool) : Text → Text × Text
  | [] => ([], [])
  | c :: r =>
    if endsPlain flow (c :: r) then ([], c :: r)
    else
      let (run, rest) := plainRun flow r
      (c :: run, rest)

/-- The blanks and line ends after a part of a plain scalar. -/
structure Gap where
  /-- What the gap stands for if the scalar goes on; nothing if it cannot. -/
  text : Text
  /-- The text after the gap. -/
  rest : Text
  /-- The column of the next line at which the text goes on, if the gap crosses a line end. -/
  column : Option Nat

/-- The further line ends after a line end in a plain scalar: their text, the rest, its column, and
whether a marker of a document stops the scalar. -/
def plainBreaks (column : Nat) : Text → Text × Text × Nat × Bool
  | [] => ([], [], column, false)
  | c :: r =>
    if column = 0 && markerAhead (c :: r) then ([], c :: r, 0, true)
    else if c = ' ' then
      let (breaks, rest, column, stopped) := plainBreaks (column + 1) r
      (breaks, rest, column, stopped)
    else if isBreak c then
      let (breaks, rest, column, stopped) := plainBreaks 0 r
      (breakText c :: breaks, rest, column, stopped)
    else ([], c :: r, column, false)

/-- Reads the gap after a part of a plain scalar. -/
def plainGap (t : Text) : Gap :=
  let blanks := t.takeWhile (· == ' ')
  match t.dropWhile (· == ' ') with
  | [] => ⟨blanks, [], none⟩
  | c :: r =>
    if isBreak c then
      match plainBreaks 0 r with
      | (breaks, rest, column, stopped) =>
        ⟨if stopped then [] else foldBreaks c breaks, rest, some column⟩
    else ⟨blanks, c :: r, none⟩

/-- A plain scalar, the text after it and its last gap, and whether that gap crosses a line end; in
at most `fuel` steps, `before` being the gap before the next part. -/
def readPlainIn (flow : Bool) (indent : Int) : Nat → Text → Text → Text × Text × Bool
  | 0, _, t => ([], t, false)
  | fuel + 1, before, t =>
    match plainRun flow t with
    | ([], _) => ([], t, false)
    | (run, rest) =>
      let gap := plainGap rest
      let tooShallow := gap.column.any fun column => !flow && column < indent
      if gap.text = [] ∨ gap.rest.head? = some '#' ∨ tooShallow then
        (before ++ run, gap.rest, gap.column.isSome)
      else
        match readPlainIn flow indent fuel gap.text gap.rest with
        | ([], _, _) => (before ++ run, gap.rest, gap.column.isSome)
        | (more, rest, crossed) => (before ++ run ++ more, rest, crossed)

/-- A plain scalar whose further lines are indented to at least `indent`, the text after it and the
blanks and line ends that follow, and whether these cross a line end. -/
def readPlain (flow : Bool) (indent : Int) (t : Text) : Text × Text × Bool :=
  readPlainIn flow indent (t.length + 1) [] t

end Document

end AccessGrants
