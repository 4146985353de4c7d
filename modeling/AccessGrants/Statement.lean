import AccessGrants.Batch

/-!
# Statements and plans

A statement grants or revokes one batch. A plan is the list of the statements of an update, in the
order in which they run: privileges before roles, and of each the grants before the revokes.

* `Statement` has the statements as data, `Statement.text` is what the database reads.
* `Statement.grantPrivileges`, `Statement.revokePrivileges`, `Statement.grantRoles` and
  `Statement.revokeRoles` plan one list of grant strings.
* `Statement.planPrivileges`, `Statement.planRoles` and `Statement.planUpdate` plan an update; all
  of its strings are read before there is a plan.
* `Plan` is a plan as text.
-/

namespace AccessGrants

/-! ## Statements -/

/-- What a statement does. -/
inductive Action
  | grant
  | revoke
  deriving DecidableEq

namespace Action

/-- The word for an action. -/
def word : Action → Text
  | .grant => "GRANT".toList
  | .revoke => "REVOKE".toList

/-- The action of a word. -/
def ofWord? (w : Text) : Option Action :=
  if w = word .grant then some .grant
  else if w = word .revoke then some .revoke
  else none

@[simp] theorem ofWord?_word (action : Action) : ofWord? action.word = some action := by
  cases action <;> rfl

end Action

/-- A statement that grants or revokes a batch. A revoke of roles names them whatever their
option. -/
inductive Statement
  | grantPrivilegeBatch (batch : PrivilegeBatch) (grantee : Text)
  | revokePrivilegeBatch (batch : PrivilegeBatch) (grantee : Text)
  | grantRoleBatch (batch : RoleBatch) (grantee : Text)
  | revokeRoleNames (names : List Text) (grantee : Text)
  deriving DecidableEq

namespace Statement

/-- What a statement does. -/
def action : Statement → Action
  | .grantPrivilegeBatch _ _ => .grant
  | .revokePrivilegeBatch _ _ => .revoke
  | .grantRoleBatch _ _ => .grant
  | .revokeRoleNames _ _ => .revoke

/-- To whom a statement applies. -/
def grantee : Statement → Text
  | .grantPrivilegeBatch _ grantee => grantee
  | .revokePrivilegeBatch _ grantee => grantee
  | .grantRoleBatch _ grantee => grantee
  | .revokeRoleNames _ grantee => grantee

/-- A statement as the database reads it. -/
def text : Statement → Text
  | .grantPrivilegeBatch batch grantee => batch.grantText grantee
  | .revokePrivilegeBatch batch grantee => batch.revokeText grantee
  | .grantRoleBatch batch grantee => batch.grantText grantee
  | .revokeRoleNames names grantee =>
    "REVOKE ".toList ++ joinNames names ++ " FROM ".toList ++ grantee

/-! ## Planning -/

/-- The statements that grant a list of privileges, one for each batch. -/
def grantPrivileges (grantee : Text) (raws : List Text) (defaultSchema : Text) :
    Except ParseError (List Statement) := do
  let batches ← PrivilegeBatch.ofStrings raws defaultSchema
  return batches.map fun batch => .grantPrivilegeBatch batch grantee

/-- The statements that revoke a list of privileges, one for each batch. -/
def revokePrivileges (grantee : Text) (raws : List Text) (defaultSchema : Text) :
    Except ParseError (List Statement) := do
  let batches ← PrivilegeBatch.ofStrings raws defaultSchema
  return batches.map fun batch => .revokePrivilegeBatch batch grantee

/-- The statements that grant a list of roles: the plain ones, then the grantable ones. -/
def grantRoles (grantee : Text) (raws : List Text) : Except ParseError (List Statement) := do
  let roles ← Role.parseAll raws
  return (RoleBatch.group roles).map fun batch => .grantRoleBatch batch grantee

/-- The one statement that revokes a list of roles; none for the empty list. -/
def revokeRoles (grantee : Text) (raws : List Text) : Except ParseError (List Statement) := do
  let roles ← Role.parseAll raws
  match distinct (roles.map Role.name) with
  | [] => return []
  | names => return [.revokeRoleNames names grantee]

/-- The statements that change the privileges of a grantee: grants, then revokes. -/
def planPrivileges (grantee : Text) (toGrant toRevoke : List Text) (defaultSchema : Text) :
    Except ParseError (List Statement) := do
  let grants ← grantPrivileges grantee toGrant defaultSchema
  let revokes ← revokePrivileges grantee toRevoke defaultSchema
  return grants ++ revokes

/-- The statements that change the roles of a grantee: grants, then revokes. -/
def planRoles (grantee : Text) (toGrant toRevoke : List Text) :
    Except ParseError (List Statement) := do
  let grants ← grantRoles grantee toGrant
  let revokes ← revokeRoles grantee toRevoke
  return grants ++ revokes

/-- The statements that change the privileges and then the roles of a grantee. -/
def planUpdate (grantee defaultSchema : Text) (privilegesToGrant privilegesToRevoke : List Text)
    (rolesToGrant rolesToRevoke : List Text) : Except ParseError (List Statement) := do
  let privileges ← planPrivileges grantee privilegesToGrant privilegesToRevoke defaultSchema
  let roles ← planRoles grantee rolesToGrant rolesToRevoke
  return privileges ++ roles

end Statement

/-! ## Plans as text -/

/-- The texts of the statements that would run, in order. -/
structure Plan where
  statements : List Text
  deriving DecidableEq

namespace Plan

/-- The plan without statements. -/
def empty : Plan := ⟨[]⟩

/-- The plan of a list of statements. -/
def ofStatements (statements : List Statement) : Plan := ⟨statements.map Statement.text⟩

/-- A plan with further statements at its end. -/
def extend (plan : Plan) (statements : List Text) : Plan := ⟨plan.statements ++ statements⟩

/-- The numbered lines of a list of statements, from number `n` on. -/
def numbered (n : Nat) : List Text → List Text
  | [] => []
  | statement :: rest =>
    ("  ".toList ++ (toString n).toList ++ ". ".toList ++ statement) :: numbered (n + 1) rest

/-- A plan in a message. -/
def display (plan : Plan) : Text :=
  if plan.statements = [] then "No operations planned".toList
  else
    Text.join ['\n'] ("Execution Plan:".toList :: numbered 1 plan.statements ++
      ["\nTotal statements: ".toList ++ (toString plan.statements.length).toList])

/-- A plan as it grows by parts: as it is, and after each part. -/
def growth (plan : Plan) : List (List Text) → List Plan
  | [] => [plan]
  | part :: rest => plan :: growth (plan.extend part) rest

end Plan

end AccessGrants
