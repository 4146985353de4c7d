import AccessGrants.Distinct
import AccessGrants.Privilege.Parse

/-!
# Batches

One statement can grant several privileges when they agree in kind, target and grantability,
because the clause and the option hold for the whole statement.

* `PrivilegeBatch.Key` is what the privileges of one statement share.
* `PrivilegeBatch.group` puts privileges into batches, in order of first occurrence.
* `RoleBatch.group` does the same for roles, the plain ones first.
* `grantText` and `revokeText` are the statements of a batch. A revoke carries no option.
-/

namespace AccessGrants

/-- What separates the names in a statement. -/
def joinNames (names : List Text) : Text :=
  Text.join ", ".toList names

/-! ## Privileges -/

/-- Privileges of one kind on one target, all grantable or none. -/
structure PrivilegeBatch where
  kind : PrivilegeKind
  target : Text
  grantable : Bool
  names : List Text
  deriving DecidableEq

namespace PrivilegeBatch

/-- What the privileges of one statement share. -/
structure Key where
  kind : PrivilegeKind
  target : Text
  grantable : Bool
  deriving DecidableEq

/-- The key of a privilege. -/
def Key.of (p : Privilege) : Key := ⟨p.kind, p.target, p.grantable⟩

/-- The key of a batch. -/
def key (b : PrivilegeBatch) : Key := ⟨b.kind, b.target, b.grantable⟩

/-- The batch of the privileges with a key; a repeated name stands once. -/
def ofKey (privileges : List Privilege) (k : Key) : PrivilegeBatch :=
  ⟨k.kind, k.target, k.grantable,
    distinct ((privileges.filter fun p => Key.of p = k).map Privilege.name)⟩

@[simp] theorem key_ofKey (privileges : List Privilege) (k : Key) :
    (ofKey privileges k).key = k := rfl

/-- One batch for each key, in order of first occurrence. -/
def group (privileges : List Privilege) : List PrivilegeBatch :=
  (distinct (privileges.map Key.of)).map (ofKey privileges)

/-- The privileges of a batch, one for each name. -/
def expand (b : PrivilegeBatch) : List Privilege :=
  b.names.map fun name => ⟨b.kind, name, b.target, b.grantable⟩

/-- The names of a batch, and on what they are granted. -/
def body (b : PrivilegeBatch) : Text :=
  b.kind.clause (joinNames b.names) b.target

/-- The statement that grants a batch. -/
def grantText (b : PrivilegeBatch) (grantee : Text) : Text :=
  let statement := "GRANT ".toList ++ b.body ++ " TO ".toList ++ grantee
  if b.grantable then statement ++ ' ' :: b.kind.grantOption.suffix else statement

/-- The statement that revokes a batch, whatever its option. -/
def revokeText (b : PrivilegeBatch) (grantee : Text) : Text :=
  "REVOKE ".toList ++ b.body ++ " FROM ".toList ++ grantee

/-- Reads grant strings and puts them into batches. -/
def ofStrings (raws : List Text) (defaultSchema : Text) :
    Except ParseError (List PrivilegeBatch) := do
  let privileges ← Privilege.parseAll raws defaultSchema
  return group privileges

end PrivilegeBatch

/-! ## Roles -/

/-- Roles that are all grantable or none. -/
structure RoleBatch where
  grantable : Bool
  names : List Text
  deriving DecidableEq

namespace RoleBatch

/-- The batch of the roles that are grantable or not; a repeated name stands once. -/
def ofGrantable (roles : List Role) (grantable : Bool) : RoleBatch :=
  ⟨grantable, distinct ((roles.filter fun r => r.grantable = grantable).map Role.name)⟩

/-- The plain roles, then the grantable ones; a batch without names is left out. -/
def group (roles : List Role) : List RoleBatch :=
  ([false, true].map (ofGrantable roles)).filter fun b => b.names ≠ []

/-- The roles of a batch, one for each name. -/
def expand (b : RoleBatch) : List Role :=
  b.names.map fun name => ⟨name, b.grantable⟩

/-- The statement that grants a batch. -/
def grantText (b : RoleBatch) (grantee : Text) : Text :=
  let statement := "GRANT ".toList ++ joinNames b.names ++ " TO ".toList ++ grantee
  if b.grantable then statement ++ ' ' :: GrantOption.admin.suffix else statement

end RoleBatch

end AccessGrants
