import AccessGrants.Connection
import AccessGrants.Statement

/-!
# Running statements

Statements run one at a time in the order given. Each is recorded, also the one that fails; after
that nothing more runs, and what ran before stays. A dry run records every statement and runs none.

* `Record` is what is kept of a statement, `Session` is the database state with the records so far.
* `Executor.run` and `Executor.runAll` run commands.
* `Executor.grantPrivileges` and its companions plan first, so that a grant string that cannot be
  read leaves the database alone.
* `Record.summary` sums up a list of records.
-/

namespace AccessGrants

/-! ## Records -/

/-- A statement to be run, with what it does and to whom. -/
structure Command where
  action : Action
  grantee : Text
  statement : Text
  deriving DecidableEq

/-- The command of a planned statement. -/
def Statement.command (s : Statement) : Command := ⟨s.action, s.grantee, s.text⟩

/-- What is kept of a command that was run: a message, and the error if it failed. -/
structure Record (ε : Type) where
  command : Command
  message : Text
  error : Option ε

namespace Record

variable {ε : Type}

/-- A command succeeded. -/
def success (r : Record ε) : Bool := r.error.isNone

/-- A record in a message. -/
def display (r : Record ε) : Text :=
  (if r.success then "✅ ".toList else "❌ ".toList) ++ r.command.action.word ++
    ' ' :: r.command.grantee ++ ": ".toList ++ r.command.statement ++ " (".toList ++ r.message ++
    [')']

/-- The number of records of an action. -/
def countOf (action : Action) (records : List (Record ε)) : Nat :=
  (records.filter fun r => r.command.action = action).length

/-- How many statements ran, by action, and which failed. -/
def summary (records : List (Record ε)) : Text :=
  if records.isEmpty then "No operations performed".toList
  else
    let failures := records.filter fun r => !r.success
    Text.join ['\n'] (
      ["Execution Summary:".toList,
        "  Statements: ".toList ++ (toString records.length).toList ++ " (".toList ++
          (toString (countOf .grant records)).toList ++ " grant, ".toList ++
          (toString (countOf .revoke records)).toList ++ " revoke)".toList,
        "  Failed: ".toList ++ (toString failures.length).toList] ++
      failures.map fun r => "  - ".toList ++ r.display)

end Record

/-- The state of a database and the records of what was run on it. -/
structure Session (σ ε : Type) where
  state : σ
  records : List (Record ε)

/-! ## Running -/

/-- Runs commands over a connection, or only records them. -/
structure Executor (σ ε : Type) where
  connection : Connection σ ε
  dryRun : Bool

/-- Why an operation failed: a grant string or a row that cannot be read, or the connection. -/
inductive OperationError (ε : Type)
  | parse (e : ParseError)
  | row (e : RowError)
  | connection (e : ε)

namespace Executor

variable {σ ε : Type}

/-- The record of a command that would run. -/
def planned (command : Command) : Record ε :=
  ⟨command, "Would be executed (dry run)".toList, none⟩

/-- The record of a command that succeeded. -/
def succeeded (command : Command) : Record ε :=
  ⟨command, "Executed successfully".toList, none⟩

/-- The record of a command that failed. -/
def failed (x : Executor σ ε) (command : Command) (e : ε) : Record ε :=
  ⟨command, x.connection.describe e, some e⟩

/-- Runs one command and records it. -/
def run (x : Executor σ ε) (command : Command) (s : Session σ ε) :
    Except ε (Record ε) × Session σ ε :=
  if x.dryRun then
    (.ok (planned command), ⟨s.state, s.records ++ [planned command]⟩)
  else
    match x.connection.execute command.statement s.state with
    | (.ok (), state) => (.ok (succeeded command), ⟨state, s.records ++ [succeeded command]⟩)
    | (.error e, state) => (.error e, ⟨state, s.records ++ [x.failed command e]⟩)

/-- Runs commands in order, up to the first that fails. -/
def runAll (x : Executor σ ε) : List Command → Session σ ε →
    Except ε (List (Record ε)) × Session σ ε
  | [], s => (.ok [], s)
  | command :: rest, s =>
    match x.run command s with
    | (.error e, s) => (.error e, s)
    | (.ok record, s) =>
      match x.runAll rest s with
      | (.error e, s) => (.error e, s)
      | (.ok records, s) => (.ok (record :: records), s)

/-- Runs a plan, if there is one. -/
def runPlan (x : Executor σ ε) (plan : Except ParseError (List Statement)) (s : Session σ ε) :
    Except (OperationError ε) (List (Record ε)) × Session σ ε :=
  match plan with
  | .error e => (.error (.parse e), s)
  | .ok statements =>
    match x.runAll (statements.map Statement.command) s with
    | (.error e, s) => (.error (.connection e), s)
    | (.ok records, s) => (.ok records, s)

/-- Grants privileges. -/
def grantPrivileges (x : Executor σ ε) (grantee : Text) (raws : List Text)
    (defaultSchema : Text) (s : Session σ ε) :
    Except (OperationError ε) (List (Record ε)) × Session σ ε :=
  x.runPlan (Statement.grantPrivileges grantee raws defaultSchema) s

/-- Revokes privileges. -/
def revokePrivileges (x : Executor σ ε) (grantee : Text) (raws : List Text)
    (defaultSchema : Text) (s : Session σ ε) :
    Except (OperationError ε) (List (Record ε)) × Session σ ε :=
  x.runPlan (Statement.revokePrivileges grantee raws defaultSchema) s

/-- Grants roles. -/
def grantRoles (x : Executor σ ε) (grantee : Text) (raws : List Text) (s : Session σ ε) :
    Except (OperationError ε) (List (Record ε)) × Session σ ε :=
  x.runPlan (Statement.grantRoles grantee raws) s

/-- Revokes roles. -/
def revokeRoles (x : Executor σ ε) (grantee : Text) (raws : List Text) (s : Session σ ε) :
    Except (OperationError ε) (List (Record ε)) × Session σ ε :=
  x.runPlan (Statement.revokeRoles grantee raws) s

/-- Grants missing privileges, then revokes unwanted ones. -/
def updatePrivileges (x : Executor σ ε) (grantee : Text) (toGrant toRevoke : List Text)
    (defaultSchema : Text) (s : Session σ ε) :
    Except (OperationError ε) (List (Record ε)) × Session σ ε :=
  x.runPlan (Statement.planPrivileges grantee toGrant toRevoke defaultSchema) s

/-- Grants missing roles, then revokes unwanted ones. -/
def updateRoles (x : Executor σ ε) (grantee : Text) (toGrant toRevoke : List Text)
    (s : Session σ ε) : Except (OperationError ε) (List (Record ε)) × Session σ ε :=
  x.runPlan (Statement.planRoles grantee toGrant toRevoke) s

end Executor

end AccessGrants
