import AccessGrants.Identifier
import AccessGrants.Privilege.Basic

/-!
# The written forms of privileges

Each form is a grammar for the body of a grant string, laid out in normal form and without option:

    USERGROUP OPERATOR ON USERGROUP identifier
    USAGE ON CLIENTSIDE ENCRYPTION COLUMN KEY identifier
    verb ON REMOTE SOURCE identifier
    verb ON SCHEMA identifier
    verb ON identifier.identifier
    verb ON identifier
    STRUCTURED PRIVILEGE identifier
    verb

A verb is one or more words of letters, none of them `ON`. Keywords are read in any letter case.

* `Form.read` reads a body by one form and gives the name and the target it denotes.
* `Form.all` is the order in which the forms are tried; `Form.firstRead` takes the first that reads.
-/

namespace AccessGrants

/-! ## Verbs -/

namespace Verb

/-- The word that separates a verb from its target, in any letter case. -/
def isOn (w : Text) : Bool :=
  Text.isPhrase "ON".toList w

/-- A word of a verb: letters, but not `ON`. -/
def isWord (w : Text) : Bool :=
  w != [] && w.all Text.isLetter && !isOn w

/-- One or more words with single spaces between them. -/
def isVerb (t : Text) : Bool :=
  (Text.splitBy ' ' t).all isWord

/-- The verb before the first `ON`, and the text after that word. -/
def splitOn (body : Text) : Option (Text × Text) :=
  match Text.splitAtPhrase " ON ".toList body with
  | some (verb, rest) => if isVerb verb then some (verb, rest) else none
  | none => none

end Verb

/-! ## Forms -/

/-- The written forms of privileges. -/
inductive Form
  | usergroup
  | columnKey
  | source
  | schema
  | qualifiedObject
  | object
  | structured
  | system
  deriving DecidableEq

namespace Form

/-- The forms in the order in which they are tried. -/
def all : List Form :=
  [.usergroup, .columnKey, .source, .schema, .qualifiedObject, .object, .structured, .system]

/-- The kind of the privileges that a form writes. -/
def kind : Form → PrivilegeKind
  | .usergroup => .usergroup
  | .columnKey => .columnKey
  | .source => .source
  | .schema => .schema
  | .qualifiedObject => .object
  | .object => .object
  | .structured => .structured
  | .system => .system

/-- An identifier with its letters in any case. -/
def readIdentifier (t : Text) : Option Text :=
  Identifier.whole Text.isLetter t

/-- The identifier after a fixed phrase, without needless quotes. -/
def readTarget (phrase t : Text) : Option Text :=
  match Text.dropPhrase phrase t with
  | some rest => (readIdentifier rest).map Identifier.canonical
  | none => none

/-- The verb of a body and the target that `target` reads after `ON`. -/
def readVerb (target : Text → Option Text) (body : Text) : Option (Text × Text) :=
  match Verb.splitOn body with
  | some (verb, rest) => (target rest).map fun target => (Text.upper verb, target)
  | none => none

/-- An object name in the default schema, or as it is if there is no default schema. -/
def inSchema (defaultSchema object : Text) : Text :=
  if defaultSchema = [] then object else defaultSchema ++ '.' :: object

/-- The two identifiers of an object with its schema, without needless quotes. -/
def readQualified (t : Text) : Option Text :=
  (Identifier.qualified Text.isLetter t).map fun parts =>
    Identifier.canonical parts.1 ++ '.' :: Identifier.canonical parts.2

/-- Reads a body by a form: the name in upper case, and the target. -/
def read (defaultSchema : Text) : Form → Text → Option (Text × Text)
  | .usergroup, body =>
    (readTarget "USERGROUP OPERATOR ON USERGROUP ".toList body).map fun target =>
      ("USERGROUP OPERATOR".toList, target)
  | .columnKey, body =>
    (readTarget "USAGE ON CLIENTSIDE ENCRYPTION COLUMN KEY ".toList body).map fun target =>
      ("USAGE".toList, target)
  | .source, body => readVerb (readTarget "REMOTE SOURCE ".toList) body
  | .schema, body => readVerb (readTarget "SCHEMA ".toList) body
  | .qualifiedObject, body => readVerb readQualified body
  | .object, body =>
    readVerb (fun t => (readIdentifier t).map fun object =>
      inSchema defaultSchema (Identifier.canonical object)) body
  | .structured, body =>
    (readTarget "STRUCTURED PRIVILEGE ".toList body).map fun target =>
      ("STRUCTURED PRIVILEGE".toList, target)
  | .system, body =>
    let verb := Text.dropFinalNewline body
    if Verb.isVerb verb then some (Text.upper verb, []) else none

/-- The first of some forms that reads a body, with the name and the target it reads. -/
def firstRead (forms : List Form) (defaultSchema body : Text) : Option (Form × Text × Text) :=
  forms.findSome? fun form => (form.read defaultSchema body).map fun parts => (form, parts)

end Form

end AccessGrants
