import AccessGrants.Difference
import AccessGrants.Executor

/-!
# Reconciliation passes

A pass brings the grants of one grantee to what a specification says: it completes the desired
grants with the implicit ones, reads them, reads the catalog, leaves out the observed privileges
that it does not own, and grants and revokes the difference. Roles are always owned in full.

* `Catalog.readPrivileges` and `Catalog.readRoles` read what a grantee holds.
* `Comparison` is what a pass knows before it changes anything; `Pass.compare` finds it.
* `Pass.plan` gives the statements of a pass, `Pass.reconcile` runs them.
-/

namespace AccessGrants

/-! ## Reading the catalog -/

namespace Catalog

variable {σ ε : Type}

/-- Runs a query for a grantee and reads its rows. -/
def readRows (connection : Connection σ ε) (read : List Row → Except RowError (List Text))
    (query grantee : Text) (type : GranteeType) (s : σ) :
    Except (OperationError ε) (List Text) × σ :=
  let (query, parameters) := forGrantee query grantee type
  match connection.query query (parameters.map Value.text) s with
  | (.error e, s) => (.error (.connection e), s)
  | (.ok rows, s) =>
    match read rows with
    | .error e => (.error (.row e), s)
    | .ok grants => (.ok grants, s)

/-- The privileges that a grantee holds, in canonical form. -/
def readPrivileges (connection : Connection σ ε) (grantee : Text) (type : GranteeType) (s : σ) :
    Except (OperationError ε) (List Text) × σ :=
  readRows connection privilegeStrings privilegesQuery grantee type s

/-- The roles that a grantee holds, in canonical form. -/
def readRoles (connection : Connection σ ε) (grantee : Text) (type : GranteeType) (s : σ) :
    Except (OperationError ε) (List Text) × σ :=
  readRows connection roleStrings rolesQuery grantee type s

end Catalog

/-! ## Comparing -/

/-- What is desired and what is observed, in canonical form, and their differences. -/
structure Comparison where
  grantee : Text
  desiredPrivileges : List Text
  observedPrivileges : List Text
  ownedPrivileges : List Text
  privilegeDifference : Difference Text
  desiredRoles : List Text
  observedRoles : List Text
  roleDifference : Difference Text

namespace Comparison

/-- The privileges to remember as managed for the next pass. -/
def managedPrivileges (c : Comparison) : List Text :=
  distinct c.desiredPrivileges

/-- There is something to do. -/
def changed (c : Comparison) : Bool :=
  !(c.privilegeDifference.equal && c.roleDifference.equal)

/-- A comparison in a message. -/
def display (c : Comparison) : Text :=
  c.grantee ++ ": privileges ".toList ++ c.privilegeDifference.display ++ ", roles ".toList ++
    c.roleDifference.display

/-- Compares desired with observed grants under the policy of a specification. -/
def ofGrants (spec : Spec) (previouslyManaged : List Text)
    (desiredPrivileges desiredRoles observedPrivileges observedRoles : List Text) : Comparison :=
  let owned := spec.policy.owned observedPrivileges desiredPrivileges previouslyManaged
    spec.defaultSchema
  { grantee := spec.grantee
    desiredPrivileges
    observedPrivileges
    ownedPrivileges := owned
    privilegeDifference := Difference.between desiredPrivileges owned
    desiredRoles
    observedRoles
    roleDifference := Difference.between desiredRoles observedRoles }

end Comparison

namespace Spec

/-- The grants of a specification with the implicit ones; only unrestricted users have any. -/
def grantsWithDefaults (spec : Spec) : List Text × List Text :=
  if spec.restricted ∨ spec.granteeType ≠ .user then (spec.privileges, spec.roles)
  else spec.policy.withDefaults spec.privileges spec.roles spec.defaultSchema

/-- The desired privileges and roles of a specification, in canonical form. -/
def desiredGrants (spec : Spec) : Except ParseError (List Text × List Text) := do
  let (privileges, roles) := spec.grantsWithDefaults
  let privileges ← Privilege.canonicalStrings privileges spec.defaultSchema
  let roles ← Role.canonicalStrings roles
  return (privileges, roles)

end Spec

namespace Pass

variable {σ ε : Type}

/-- Reads the desired grants, then the catalog, and compares. -/
def compare (connection : Connection σ ε) (spec : Spec) (previouslyManaged : List Text) (s : σ) :
    Except (OperationError ε) Comparison × σ :=
  match spec.desiredGrants with
  | .error e => (.error (.parse e), s)
  | .ok (desiredPrivileges, desiredRoles) =>
    match Catalog.readPrivileges connection spec.grantee spec.granteeType s with
    | (.error e, s) => (.error e, s)
    | (.ok observedPrivileges, s) =>
      match Catalog.readRoles connection spec.grantee spec.granteeType s with
      | (.error e, s) => (.error e, s)
      | (.ok observedRoles, s) =>
        (.ok (Comparison.ofGrants spec previouslyManaged desiredPrivileges desiredRoles
          observedPrivileges observedRoles), s)

/-! ## Planning and running -/

/-- The statements of a pass, none of which is run. -/
def plan (connection : Connection σ ε) (spec : Spec) (previouslyManaged : List Text) (s : σ) :
    Except (OperationError ε) (List Statement) × σ :=
  match compare connection spec previouslyManaged s with
  | (.error e, s) => (.error e, s)
  | (.ok c, s) =>
    match Statement.planUpdate spec.grantee spec.defaultSchema c.privilegeDifference.toAdd
        c.privilegeDifference.toRemove c.roleDifference.toAdd c.roleDifference.toRemove with
    | .error e => (.error (.parse e), s)
    | .ok statements => (.ok statements, s)

/-- What a pass found and what it ran. -/
structure Outcome (ε : Type) where
  comparison : Comparison
  records : List (Record ε)

/-- Changes the privileges of a grantee if they differ. -/
def updatePrivileges (x : Executor σ ε) (spec : Spec) (d : Difference Text) (s : Session σ ε) :
    Except (OperationError ε) (List (Record ε)) × Session σ ε :=
  if d.equal then (.ok [], s)
  else x.updatePrivileges spec.grantee d.toAdd d.toRemove spec.defaultSchema s

/-- Changes the roles of a grantee if they differ. -/
def updateRoles (x : Executor σ ε) (spec : Spec) (d : Difference Text) (s : Session σ ε) :
    Except (OperationError ε) (List (Record ε)) × Session σ ε :=
  if d.equal then (.ok [], s)
  else x.updateRoles spec.grantee d.toAdd d.toRemove s

/-- Runs one pass: compares, then changes the privileges, then the roles. -/
def reconcile (x : Executor σ ε) (spec : Spec) (previouslyManaged : List Text)
    (s : Session σ ε) : Except (OperationError ε) (Outcome ε) × Session σ ε :=
  match compare x.connection spec previouslyManaged s.state with
  | (.error e, state) => (.error e, ⟨state, s.records⟩)
  | (.ok c, state) =>
    match updatePrivileges x spec c.privilegeDifference ⟨state, s.records⟩ with
    | (.error e, s) => (.error e, s)
    | (.ok privilegeRecords, s) =>
      match updateRoles x spec c.roleDifference s with
      | (.error e, s) => (.error e, s)
      | (.ok roleRecords, s) => (.ok ⟨c, privilegeRecords ++ roleRecords⟩, s)

end Pass

end AccessGrants
