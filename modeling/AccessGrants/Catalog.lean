import AccessGrants.Spec
import AccessGrants.Validation.Grant

/-!
# The catalog of granted privileges and roles

The database lists what a grantee holds in two catalog views, one row for each grant.

* `Catalog.privilegesQuery` and `Catalog.rolesQuery` read the views; `Catalog.forGrantee` restricts
  a query to one grantee.
* `Privilege.ofRow` and `Role.ofRow` read one row.
* `Catalog.privilegeStrings` and `Catalog.roleStrings` give the rows in canonical form.
-/

namespace AccessGrants

namespace Catalog

/-! ## Queries -/

/-- The query for the privileges of the grantees of a type. -/
def privilegesQuery : Text :=
  ("SELECT OBJECT_TYPE, PRIVILEGE, SCHEMA_NAME, OBJECT_NAME, IS_GRANTABLE " ++
    "FROM GRANTED_PRIVILEGES WHERE GRANTEE_TYPE = ?").toList

/-- The query for the roles of the grantees of a type. -/
def rolesQuery : Text :=
  ("SELECT ROLE_SCHEMA_NAME, ROLE_NAME, IS_GRANTABLE " ++
    "FROM GRANTED_ROLES WHERE GRANTEE_TYPE = ?").toList

/-- A query for one grantee and its parameters. A grantee with a dot is a name after the schema it
belongs to. -/
def forGrantee (query grantee : Text) (type : GranteeType) : Text × List Text :=
  let query := query ++ " AND GRANTEE = ?".toList
  match Text.splitAtFirst '.' grantee with
  | some (schema, name) =>
    (query ++ " AND GRANTEE_SCHEMA_NAME = ?".toList, [type.word, name, schema])
  | none => (query, [type.word, grantee])

end Catalog

/-! ## Rows -/

/-- A row of a catalog view. -/
abbrev Row := List Value

/-- Why a row is not read: it does not have the shape of a row of its view, or what it says is no
valid grant. -/
inductive RowError
  | misshapen
  | invalid (e : Invalid)
  deriving DecidableEq

namespace Row

/-- A flag of a row: the word `TRUE` in any letter case and with blanks around it, or any value that
counts as true. -/
def flag : Value → Bool
  | .scalar (.text t) => (Text.strip t).map Char.toUpper == "TRUE".toList
  | v => v.isTruthy

/-- A name of a row; nothing counts as the empty name. -/
def name (v : Value) : Except RowError Text :=
  match v with
  | .scalar (.text t) => .ok t
  | v => if v.isTruthy then .error .misshapen else .ok []

/-- The kind of an object type; a type without a kind of its own is that of an object. -/
def kind : Value → Except RowError PrivilegeKind
  | .scalar (.text t) =>
    .ok (if t = "SYSTEMPRIVILEGE".toList then .system
      else if t = "SCHEMA".toList then .schema
      else if t = "SOURCE".toList then .source
      else if t = "USERGROUP".toList then .usergroup
      else if t = "CLIENTSIDE ENCRYPTION COLUMN KEY".toList then .columnKey
      else if t = "STRUCTURED_PRIVILEGE".toList then .structured
      else .object)
  | .scalar _ => .ok .object
  | _ => .error .misshapen

/-- The name of the privilege of a row: fixed for two kinds, else as the row has it. -/
def privilegeName (kind : PrivilegeKind) (privilege : Value) : Value :=
  match kind with
  | .usergroup => .text "USERGROUP OPERATOR".toList
  | .structured => .text "STRUCTURED PRIVILEGE".toList
  | _ => privilege

/-- The target of the privilege of a row, each name quoted if it needs quotes. -/
def target (kind : PrivilegeKind) (schema object : Value) : Except RowError Text :=
  match kind with
  | .system => .ok []
  | .schema => return Identifier.quote (← name schema)
  | .object => return Identifier.quote (← name schema) ++ '.' :: Identifier.quote (← name object)
  | _ => return Identifier.quote (← name object)

end Row

/-- The privilege of a row: object type, privilege, schema, object, grantable. -/
def Privilege.ofRow : Row → Except RowError Privilege
  | [type, privilege, schema, object, grantable] => do
    let kind ← Row.kind type
    let target ← Row.target kind schema object
    (check kind (Row.privilegeName kind privilege) target (Row.flag grantable)).mapError .invalid
  | _ => .error .misshapen

/-- The role of a row: schema, name, grantable. -/
def Role.ofRow : Row → Except RowError Role
  | [schema, name, grantable] =>
    match name with
    | .scalar (.text name) => do
      match ← Row.name schema with
      | [] => return trimmed (Identifier.quote name) (Row.flag grantable)
      | schema =>
        return trimmed (Identifier.quote schema ++ '.' :: Identifier.quote name)
          (Row.flag grantable)
    | _ => .error .misshapen
  | _ => .error .misshapen

namespace Catalog

/-- The canonical forms of the privileges of rows. -/
def privilegeStrings (rows : List Row) : Except RowError (List Text) := do
  let privileges ← rows.mapM Privilege.ofRow
  return privileges.map Privilege.display

/-- The canonical forms of the roles of rows. -/
def roleStrings (rows : List Row) : Except RowError (List Text) := do
  let roles ← rows.mapM Role.ofRow
  return roles.map Role.render

end Catalog

end AccessGrants
