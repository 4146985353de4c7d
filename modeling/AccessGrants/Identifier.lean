import AccessGrants.Text.Letter

/-!
# Identifiers

An identifier is plain (a letter or low line, then letters, digits and low lines) or it stands in
double quotes, where a quote is written twice. The catalog stores the name that it denotes.

* `Identifier.isPlain` is the class of names that need no quotes: plain upper case.
* `Identifier.quote` writes a name, `Identifier.canonical` takes needless quotes off again.
* `Identifier.read` reads the longest identifier at the head of a text; `Identifier.whole` and
  `Identifier.qualified` read a text that is one identifier or two joined by a dot.

The class of letters is a parameter of the readers: a privilege is read without case, a role name
by the ASCII letters alone.
-/

namespace AccessGrants

namespace Identifier

/-! ## Names that need no quotes -/

/-- The first character of a plain upper-case name. -/
def isPlainStart (c : Char) : Bool :=
  c.isUpper || c == '_'

/-- The further characters of a plain upper-case name. -/
def isPlainRest (c : Char) : Bool :=
  isPlainStart c || c.isDigit

/-- A plain upper-case name; one line feed after it is overlooked. -/
def isPlain (name : Text) : Bool :=
  match Text.dropFinalNewline name with
  | [] => false
  | c :: r => isPlainStart c && r.all isPlainRest

/-! ## Quotes -/

/-- A text with each quote written twice. -/
def doubleQuotes : Text → Text
  | [] => []
  | c :: r => if c = '"' then '"' :: '"' :: doubleQuotes r else c :: doubleQuotes r

@[simp] theorem doubleQuotes_nil : doubleQuotes [] = [] := rfl

/-- A name between quotes, its own quotes doubled. -/
def enquote (name : Text) : Text :=
  '"' :: doubleQuotes name ++ ['"']

/-- The identifier of a name: the name itself if it is plain upper case, else the quoted name. -/
def quote (name : Text) : Text :=
  if isPlain name then name else enquote name

/-- The text between the outer quotes of a text that has them. -/
def inner? : Text → Option Text
  | [] => none
  | c :: r => if c = '"' ∧ r.getLast? = some '"' then some r.dropLast else none

/-- An identifier without the quotes that it does not need. -/
def canonical (identifier : Text) : Text :=
  match inner? identifier with
  | some name => if isPlain name then name else identifier
  | none => identifier

/-! ## Readers -/

/-- The inside of a quoted identifier as written, up to the first quote that is not doubled, and
the text after that quote. -/
def readQuoted : Text → Option (Text × Text)
  | [] => none
  | '"' :: '"' :: r => (readQuoted r).map fun parts => ('"' :: '"' :: parts.1, parts.2)
  | c :: r =>
    if c = '"' then some ([], r)
    else (readQuoted r).map fun parts => (c :: parts.1, parts.2)

/-- The characters of a plain identifier after its first. -/
def isNameChar (letter : Char → Bool) (c : Char) : Bool :=
  letter c || c.isDigit || c == '_'

/-- The longest identifier at the head of a text, and the rest. -/
def read (letter : Char → Bool) : Text → Option (Text × Text)
  | [] => none
  | c :: r =>
    if c = '"' then
      match readQuoted r with
      | some (d :: inside, rest) => some ('"' :: d :: inside ++ ['"'], rest)
      | _ => none
    else if letter c || c == '_' then
      some (c :: r.takeWhile (isNameChar letter), r.dropWhile (isNameChar letter))
    else none

/-- The identifier that a text consists of. -/
def whole (letter : Char → Bool) (t : Text) : Option Text :=
  match read letter t with
  | some (identifier, rest) => if Text.atEnd rest then some identifier else none
  | none => none

/-- The two identifiers that a text consists of, joined by a dot. -/
def qualified (letter : Char → Bool) (t : Text) : Option (Text × Text) :=
  match read letter t with
  | some (schema, '.' :: rest) => (whole letter rest).map fun name => (schema, name)
  | _ => none

/-- The ASCII letters. -/
def isAsciiLetter (c : Char) : Bool := c.isAlpha

end Identifier

end AccessGrants
