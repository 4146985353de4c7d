import AccessGrants.Document.Token

/-!
# Quoted scalars

Between single quotes a quote is written twice and all else stands for itself; between double
quotes a backslash starts an escape. In both, line ends are folded.

* `Document.skipBreaks` reads the empty lines before the next line of a quoted scalar.
* `Document.escapedChar` and `Document.escapedCode` are the escapes.
* `Document.readQuoted` reads the inside of a quoted scalar up to the closing quote. It gives codes,
  for an escape may name one half of a character.
-/

namespace AccessGrants

namespace Document

/-! ## Line ends -/

/-- The further line ends after a line end inside quotes, and the text from the first character of
the next line that is no blank; `atStart` says that a line starts here. -/
def skipBreaks (atStart : Bool) : Text → Except DocumentFault (Text × Text)
  | [] => .ok ([], [])
  | c :: r =>
    if atStart && markerAhead (c :: r) then .error .markerInQuotes
    else if c = ' ' ∨ c = '\t' then skipBreaks false r
    else if isBreak c then do
      let (breaks, rest) ← skipBreaks true r
      return (breakText c :: breaks, rest)
    else .ok ([], c :: r)

/-! ## Escapes -/

/-- The character of a one-letter escape. -/
def escapedChar (c : Char) : Option Char :=
  match c with
  | '0' => some '\x00'
  | 'a' => some '\x07'
  | 'b' => some '\x08'
  | 't' => some '\t'
  | '\t' => some '\t'
  | 'n' => some '\n'
  | 'v' => some '\x0b'
  | 'f' => some '\x0c'
  | 'r' => some '\r'
  | 'e' => some '\x1b'
  | ' ' => some ' '
  | '"' => some '"'
  | '\\' => some '\\'
  | '/' => some '/'
  | 'N' => some '\u0085'
  | '_' => some '\u00a0'
  | 'L' => some '\u2028'
  | 'P' => some '\u2029'
  | _ => none

/-- How many hexadecimal digits follow the letter of an escape. -/
def escapeLength (c : Char) : Option Nat :=
  match c with
  | 'x' => some 2
  | 'u' => some 4
  | 'U' => some 8
  | _ => none

/-- The value of a hexadecimal digit. -/
def hexValue? (c : Char) : Option Nat :=
  if '0' ≤ c ∧ c ≤ '9' then some (c.toNat - 48)
  else if 'a' ≤ c ∧ c ≤ 'f' then some (c.toNat - 87)
  else if 'A' ≤ c ∧ c ≤ 'F' then some (c.toNat - 55)
  else none

/-- The number that hexadecimal digits write. -/
def hexNumber? (digits : Text) : Option Nat :=
  digits.foldl (fun acc c => acc.bind fun n => (hexValue? c).map (16 * n + ·)) (some 0)

/-- The code that an escape names in hexadecimal digits. -/
def escapedCode (digits : Text) : Except DocumentFault Nat :=
  match hexNumber? digits with
  | none => .error .unknownEscape
  | some code =>
    if code < 0x110000 then .ok code
    else if code < 0x80000000 then .error (.value .noCharacter)
    else .error (.value .codeTooLarge)

/-! ## The reader -/

/-- What is read between quotes: its codes, and the text after the closing quote. -/
abbrev QuotedRead := Except DocumentFault (List Nat × Text)

/-- Puts text before what is read next. -/
def prepend (t : Text) (read : QuotedRead) : QuotedRead := do
  let (inside, rest) ← read
  return (t.map Char.toNat ++ inside, rest)

/-- The inside of a quoted scalar and the text after its closing quote, in at most `fuel` steps. -/
def readQuotedIn (double : Bool) : Nat → Text → QuotedRead
  | 0, _ => .error .unclosedQuote
  | _ + 1, [] => .error .unclosedQuote
  | fuel + 1, c :: r =>
    if c = ' ' ∨ c = '\t' then
      let blanks := (c :: r).takeWhile fun d => d == ' ' || d == '\t'
      match (c :: r).dropWhile fun d => d == ' ' || d == '\t' with
      | [] => .error .unclosedQuote
      | d :: rest =>
        if isBreak d then readQuotedIn double fuel (d :: rest)
        else prepend blanks (readQuotedIn double fuel (d :: rest))
    else if isBreak c then do
      let (breaks, rest) ← skipBreaks true r
      prepend (foldBreaks c breaks) (readQuotedIn double fuel rest)
    else if double then
      if c = '"' then .ok ([], r)
      else if c = '\\' then
        match r with
        | [] => .error .unclosedQuote
        | d :: rest =>
          if isBreak d then do
            let (breaks, rest) ← skipBreaks true rest
            prepend breaks (readQuotedIn double fuel rest)
          else
            match escapedChar d with
            | some e => prepend [e] (readQuotedIn double fuel rest)
            | none =>
              match escapeLength d with
              | none => .error .unknownEscape
              | some n =>
                if rest.length < n then .error .unknownEscape
                else do
                  let code ← escapedCode (rest.take n)
                  let (inside, rest) ← readQuotedIn double fuel (rest.drop n)
                  return (code :: inside, rest)
      else prepend [c] (readQuotedIn double fuel r)
    else if c = '\'' then
      match r with
      | '\'' :: rest => prepend [c] (readQuotedIn double fuel rest)
      | _ => .ok ([], r)
    else prepend [c] (readQuotedIn double fuel r)

/-- The inside of a scalar in double or single quotes, and the text after its closing quote. -/
def readQuoted (double : Bool) (t : Text) : QuotedRead :=
  readQuotedIn double (t.length + 1) t

end Document

end AccessGrants
