import AccessGrants.Document.Token.Plain
import AccessGrants.Document.Token.Quoted

/-!
# From text to tokens

The lexer reads a document from left to right and keeps the indentation of the open blocks. A text
turns out to be a key only when its colon is reached; so the places where a key may start are
remembered, and the token of the key is put there afterwards. A key without its own mark has to be
on one line and not longer than 1024 characters.

* `Lexer` is the state, `Lexer.moveTo` moves on in the text.
* `Lexer.readToken` reads one token; `Token.ofText` reads all. The first fault ends the tokens; it
  stands behind those that are settled before it.
-/

namespace AccessGrants

/-- A place where a key may have started. -/
structure PossibleKey where
  /-- The number of tokens before it. -/
  token : Nat
  /-- It stands where a block key has to. -/
  required : Bool
  index : Nat
  line : Nat
  column : Nat

/-- The state of reading a document. -/
structure Lexer where
  rest : Text
  index : Nat
  line : Nat
  column : Nat
  tokens : Array Token
  /-- The column of the innermost block, `-1` outside all blocks. -/
  indent : Int
  /-- The columns of the blocks around it. -/
  outer : List Int
  /-- How many brackets are open. -/
  depth : Nat
  /-- A key may start here. -/
  keyAllowed : Bool
  /-- The possible keys by the depth they stand at. -/
  keys : List (Nat × PossibleKey)

namespace Lexer

/-! ## Moving on -/

/-- The state before a text. -/
def start (t : Text) : Lexer where
  rest := t
  index := 0
  line := 0
  column := 0
  tokens := #[]
  indent := -1
  outer := []
  depth := 0
  keyAllowed := true
  keys := []

/-- Moves over some characters. -/
def skip (s : Lexer) : Nat → Lexer
  | 0 => s
  | n + 1 =>
    match s.rest with
    | [] => s
    | c :: r =>
      let s := { s with rest := r, index := s.index + 1 }
      if Document.isBreak c then skip { s with line := s.line + 1, column := 0 } n
      else if c = '\uFEFF' then skip s n
      else skip { s with column := s.column + 1 } n

/-- Moves on to a later part of the text. -/
def moveTo (s : Lexer) (rest : Text) : Lexer :=
  s.skip (s.rest.length - rest.length)

/-- Adds a token at the end. -/
def push (s : Lexer) (t : Token) : Lexer :=
  { s with tokens := s.tokens.push t }

/-- Puts a token in the place before which `n` tokens stand. -/
def insert (s : Lexer) (n : Nat) (t : Token) : Lexer :=
  { s with tokens := (s.tokens.extract 0 n).push t ++ s.tokens.extract n s.tokens.size }

/-- Blanks, comments and line ends before the next token; outside brackets a key may start on a new
line. In at most `fuel` steps. -/
def skipGapIn : Nat → Lexer → Lexer
  | 0, s => s
  | fuel + 1, s =>
    match s.rest with
    | [] => s
    | c :: r =>
      if c = ' ' then skipGapIn fuel (s.skip 1)
      else if c = '#' then
        skipGapIn fuel (s.moveTo (r.dropWhile fun d => !Document.isBreak d))
      else if Document.isBreak c then
        let s := s.skip 1
        skipGapIn fuel (if s.depth = 0 then { s with keyAllowed := true } else s)
      else s

/-- Moves to the next token. -/
def skipGap (s : Lexer) : Lexer :=
  let s := if s.index = 0 ∧ s.rest.head? = some '\uFEFF' then s.skip 1 else s
  skipGapIn (s.rest.length + 1) s

/-! ## Blocks -/

/-- Closes the blocks that are indented deeper than a column. -/
def closeBlocks (s : Lexer) (column : Int) : Lexer :=
  if s.depth ≠ 0 then s
  else
    let rec close : List Int → Lexer → Lexer
      | [], s => s
      | i :: outer, s =>
        if s.indent > column then close outer { s.push .blockEnd with indent := i, outer := outer }
        else s
    close s.outer s

/-- Opens a block at a column if it is deeper than the innermost one. -/
def openBlock (s : Lexer) (column : Int) (place : Nat) (t : Token) : Lexer :=
  if s.indent < column then
    { s.insert place t with indent := column, outer := s.indent :: s.outer }
  else s

/-! ## Possible keys -/

/-- A possible key is out of reach. -/
def isStale (s : Lexer) (key : PossibleKey) : Bool :=
  key.line != s.line || s.index - key.index > 1024

/-- Forgets the possible keys that are out of reach; one that has to be a key is an error. -/
def dropStaleKeys (s : Lexer) : Except DocumentFault Lexer :=
  if s.keys.any fun entry => s.isStale entry.2 && entry.2.required then .error .keyWithoutValue
  else .ok { s with keys := s.keys.filter fun entry => !s.isStale entry.2 }

/-- Forgets the possible key of this depth; one that has to be a key is an error. -/
def dropKey (s : Lexer) : Except DocumentFault Lexer :=
  if s.keys.any fun entry => entry.1 == s.depth && entry.2.required then .error .keyWithoutValue
  else .ok { s with keys := s.keys.filter fun entry => entry.1 != s.depth }

/-- Remembers that a key may start here. -/
def saveKey (s : Lexer) : Except DocumentFault Lexer := do
  if !s.keyAllowed then return s
  let s ← s.dropKey
  let key : PossibleKey :=
    ⟨s.tokens.size, s.depth = 0 ∧ s.indent = s.column, s.index, s.line, s.column⟩
  return { s with keys := (s.depth, key) :: s.keys }

/-! ## Tokens -/

/-- The marker of a document start or end, which closes all blocks. -/
def readMarker (s : Lexer) (t : Token) : Except DocumentFault Lexer := do
  let s ← (s.closeBlocks (-1)).dropKey
  return { s with keyAllowed := false }.skip 3 |>.push t

/-- An opening bracket. -/
def readOpening (s : Lexer) (t : Token) : Except DocumentFault Lexer := do
  let s ← s.saveKey
  return { s with depth := s.depth + 1, keyAllowed := true }.skip 1 |>.push t

/-- A closing bracket. -/
def readClosing (s : Lexer) (t : Token) : Except DocumentFault Lexer := do
  let s ← s.dropKey
  if s.depth = 0 then throw .unmatchedBracket
  return { s with depth := s.depth - 1, keyAllowed := false }.skip 1 |>.push t

/-- A comma between brackets. -/
def readComma (s : Lexer) : Except DocumentFault Lexer := do
  let s ← s.dropKey
  return { s with keyAllowed := true }.skip 1 |>.push .flowEntry

/-- The dash before an item of a block. -/
def readDash (s : Lexer) : Except DocumentFault Lexer := do
  if s.depth = 0 ∧ ¬ s.keyAllowed then throw .misplacedEntry
  let s := if s.depth = 0 then s.openBlock s.column s.tokens.size .blockSequenceStart else s
  let s ← s.dropKey
  return { s with keyAllowed := true }.skip 1 |>.push .blockEntry

/-- The mark before a key. -/
def readKeyMark (s : Lexer) : Except DocumentFault Lexer := do
  if s.depth = 0 ∧ ¬ s.keyAllowed then throw .misplacedKey
  let s := if s.depth = 0 then s.openBlock s.column s.tokens.size .blockMappingStart else s
  let s ← s.dropKey
  return { s with keyAllowed := s.depth = 0 }.skip 1 |>.push .key

/-- The colon after a key. If a key may have started before, it did. -/
def readColon (s : Lexer) : Except DocumentFault Lexer := do
  match s.keys.find? fun entry => entry.1 == s.depth with
  | some (_, key) =>
    let s := { s with keys := s.keys.filter fun entry => entry.1 != s.depth }
    let s := s.insert key.token .key
    let s := if s.depth = 0 then s.openBlock key.column key.token .blockMappingStart else s
    return { s with keyAllowed := false }.skip 1 |>.push .value
  | none =>
    if s.depth = 0 ∧ ¬ s.keyAllowed then throw .misplacedValue
    let s := if s.depth = 0 then s.openBlock s.column s.tokens.size .blockMappingStart else s
    let s ← s.dropKey
    return { s with keyAllowed := s.depth = 0 }.skip 1 |>.push .value

/-- A quoted scalar. -/
def readQuotedScalar (s : Lexer) (double : Bool) (r : Text) : Except DocumentFault Lexer := do
  let s ← s.saveKey
  let (codes, rest) ← Document.readQuoted double r
  return { s with keyAllowed := false }.moveTo rest |>.push (.scalar (.quoted codes))

/-- A plain scalar. -/
def readPlainScalar (s : Lexer) : Except DocumentFault Lexer := do
  let s ← s.saveKey
  let (t, rest, crossed) := Document.readPlain (s.depth ≠ 0) (s.indent + 1) s.rest
  return { s with keyAllowed := crossed }.moveTo rest |>.push (.scalar (.plain t))

/-- Reads the token at the start of the rest `c :: r`. -/
def readToken (s : Lexer) (c : Char) (r : Text) : Except DocumentFault Lexer :=
  let flow := s.depth ≠ 0
  if s.column = 0 ∧ Document.markerAhead (c :: r) then
    s.readMarker (if c = '-' then .documentStart else .documentEnd)
  else if c = '[' then s.readOpening .flowSequenceStart
  else if c = '{' then s.readOpening .flowMappingStart
  else if c = ']' then s.readClosing .flowSequenceEnd
  else if c = '}' then s.readClosing .flowMappingEnd
  else if c = ',' then s.readComma
  else if c = '-' ∧ Document.gapAhead r then s.readDash
  else if c = '?' ∧ (flow ∨ Document.gapAhead r) then s.readKeyMark
  else if c = ':' ∧ (flow ∨ Document.gapAhead r) then s.readColon
  else if c = '\'' then s.readQuotedScalar false r
  else if c = '"' then s.readQuotedScalar true r
  else if Document.startsPlain flow (c :: r) then s.readPlainScalar
  else .error (.noToken c)

/-- Moves to the next token and closes the blocks that it is not part of. -/
def approach (s : Lexer) : Except DocumentFault Lexer := do
  let s ← s.skipGap.dropStaleKeys
  return s.closeBlocks s.column

/-- Reads one token, or comes to the end of the text. The flag says that the text goes on. -/
def next (s : Lexer) : Except DocumentFault (Lexer × Bool) := do
  let s ← s.approach
  match s.rest with
  | [] => return (← (s.closeBlocks (-1)).dropKey, false)
  | c :: r => return (← s.readToken c r, true)

/-- The tokens before which no token can be put any more. -/
def settled (s : Lexer) : List Token :=
  let pending := s.keys.filter fun entry => !s.isStale entry.2
  s.tokens.toList.take (pending.foldl (fun n entry => min n entry.2.token) s.tokens.size)

/-- The tokens up to the end of the text, in at most `fuel` steps. Of those that are read before a
fault only the settled ones come before it. -/
def runIn : Nat → Lexer → List Token
  | 0, s => s.settled ++ [.fault .tooDeep]
  | fuel + 1, s =>
    match s.next with
    | .error e => s.settled ++ [.fault e]
    | .ok (s, true) => runIn fuel s
    | .ok (s, false) => s.tokens.toList

/-- The tokens of a text of which each character can be read. -/
def run (t : Text) : List Token :=
  runIn (t.length + 1) (start t)

end Lexer

/-- The tokens of a text. A portion of it with a character that a document may not contain cannot be
read. This is the fault of the document, unless an escape in the portions before has no value. -/
def Token.ofText (t : Text) : List Token :=
  match t.findIdx? fun c => !Document.isPrintable c with
  | none => Lexer.run t
  | some place =>
    let tokens := Lexer.run (t.take (Document.portionStart place))
    if tokens.getLast? matches some (.fault (.value _)) then tokens
    else [.fault (.unprintable place)]

end AccessGrants
