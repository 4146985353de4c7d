import AccessGrants.GrantError
import AccessGrants.Layout
import AccessGrants.Privilege.Form
import AccessGrants.Role
import AccessGrants.Text.Quoted
import AccessGrants.Text.WordChar

/-!
# Reading grant strings

A grant string is brought into its normal layout, its option is split off, and the body is read.

* `ParseError` is why a grant string is refused.
* `Privilege.parse` and `Role.parse` read one grant string, `Privilege.parseAll` and
  `Role.parseAll` a list, up to the first that is refused.
* `Privilege.canonicalStrings` and `Role.canonicalStrings` write a list in canonical form, in
  which desired and observed grants are compared.
-/

namespace AccessGrants

/-- Why a grant string is refused. -/
inductive ParseError
  | grammar (e : GrammarError)
  | unknownOption (word : Text)
  deriving DecidableEq

/-- The wording of a refusal. -/
def ParseError.message : ParseError → Text
  | .grammar e => e.message
  | .unknownOption word => Text.unknownWord word "GrantOption".toList

/-- A grant string in normal layout, split into its body and its option. -/
def splitGrant (raw : Text) : Except ParseError (Text × Option GrantOption) :=
  (GrantOption.split (Layout.normalize raw)).mapError .unknownOption

/-! ## Privileges -/

namespace Privilege

/-- The error for an option on a privilege of a kind that accepts only the other one. -/
def optionError (raw : Text) : GrantOption → GrammarError
  | .grant => .invalidGrantOption raw "privilege".toList
  | .admin => .invalidAdminOption raw "privilege".toList

/-- Why a body that no form reads is refused. -/
def refusalReason (body : Text) : Option Text :=
  if Text.containsWords "ON CLIENTSIDE ENCRYPTION COLUMN KEY".toList body then
    some "only USAGE can be granted on a clientside encryption column key".toList
  else none

/-- Reads a body and its option by the first of some forms that fits. -/
def ofBody (forms : List Form) (raw defaultSchema body : Text) (option : Option GrantOption) :
    Except ParseError Privilege :=
  if body = [] then .error (.grammar (.unknownPrivilege raw none))
  else
    match Form.firstRead forms defaultSchema body with
    | none => .error (.grammar (.unknownPrivilege raw (refusalReason body)))
    | some (form, name, target) =>
      match option with
      | none => .ok (trimmed form.kind name target false)
      | some o =>
        if o = form.kind.grantOption then .ok (trimmed form.kind name target true)
        else .error (.grammar (optionError raw o))

/-- Reads a privilege; an object without a schema is placed in the default schema. -/
def parse (raw defaultSchema : Text) : Except ParseError Privilege := do
  let (body, option) ← splitGrant raw
  ofBody Form.all raw defaultSchema body option

/-- Reads a list of privileges up to the first that is refused. -/
def parseAll (raws : List Text) (defaultSchema : Text) : Except ParseError (List Privilege) :=
  raws.mapM fun raw => parse raw defaultSchema

/-- The canonical forms of a list of privileges. -/
def canonicalStrings (raws : List Text) (defaultSchema : Text) :
    Except ParseError (List Text) := do
  let privileges ← parseAll raws defaultSchema
  return privileges.map fun p => p.render defaultSchema

end Privilege

/-! ## Roles -/

namespace Role

/-- The name of a role: one identifier or two joined by a dot, without needless quotes. -/
def readName (body : Text) : Option Text :=
  match Identifier.qualified Identifier.isAsciiLetter body with
  | some (schema, name) => some (Identifier.canonical schema ++ '.' :: Identifier.canonical name)
  | none => (Identifier.whole Identifier.isAsciiLetter body).map Identifier.canonical

/-- Reads a role. -/
def parse (raw : Text) : Except ParseError Role := do
  let (body, option) ← splitGrant raw
  if option = some .grant then .error (.grammar (.invalidGrantOption raw "role".toList))
  else
    match readName body with
    | none => .error (.grammar (.unknownRole raw))
    | some name => .ok (trimmed name (option == some .admin))

/-- Reads a list of roles up to the first that is refused. -/
def parseAll (raws : List Text) : Except ParseError (List Role) :=
  raws.mapM parse

/-- The canonical forms of a list of roles. -/
def canonicalStrings (raws : List Text) : Except ParseError (List Text) := do
  let roles ← parseAll raws
  return roles.map render

end Role

end AccessGrants
