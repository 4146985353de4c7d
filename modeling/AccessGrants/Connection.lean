import AccessGrants.Catalog

/-!
# Connections

A connection runs statements and queries against a database, of which nothing else is known. Both
may fail with an error of the connection, and both may change the state behind it.

* `Connection` is what a pass needs of a database.
* `CursorDriver` is a database that is reached through cursors; `CursorDriver.connection` opens a
  cursor for each call and closes it afterwards, also when the call fails.
-/

namespace AccessGrants

/-- A database over states `σ` that fails with errors `ε`. -/
structure Connection (σ ε : Type) where
  /-- Runs a statement. -/
  execute : Text → σ → Except ε Unit × σ
  /-- Runs a query with its parameters and gives all rows. -/
  query : Text → List Value → σ → Except ε (List Row) × σ
  /-- The wording of an error. -/
  describe : ε → Text

/-- A database that is reached through numbered cursors. -/
structure CursorDriver (σ ε : Type) where
  /-- Opens a cursor. -/
  openCursor : σ → Except ε Nat × σ
  /-- Runs a statement, or a query with its parameters, on a cursor. -/
  execute : Nat → Text → Option (List Value) → σ → Except ε Unit × σ
  /-- Fetches all rows of a cursor. -/
  fetchAll : Nat → σ → Except ε (List Row) × σ
  /-- Closes a cursor. -/
  close : Nat → σ → σ
  /-- The wording of an error. -/
  describe : ε → Text

namespace CursorDriver

variable {σ ε : Type}

/-- Opens a cursor, uses it, and closes it whether or not that succeeds. -/
def withCursor {α : Type} (driver : CursorDriver σ ε) (use : Nat → σ → Except ε α × σ) (s : σ) :
    Except ε α × σ :=
  match driver.openCursor s with
  | (.error e, s) => (.error e, s)
  | (.ok cursor, s) =>
    match use cursor s with
    | (result, s) => (result, driver.close cursor s)

/-- Runs a query on an open cursor and fetches its rows. -/
def queryOn (driver : CursorDriver σ ε) (query : Text) (parameters : List Value) (cursor : Nat)
    (s : σ) : Except ε (List Row) × σ :=
  match driver.execute cursor query (some parameters) s with
  | (.error e, s) => (.error e, s)
  | (.ok (), s) => driver.fetchAll cursor s

/-- The connection that takes a new cursor for each call. -/
def connection (driver : CursorDriver σ ε) : Connection σ ε where
  execute statement := driver.withCursor fun cursor s => driver.execute cursor statement none s
  query query parameters := driver.withCursor (driver.queryOn query parameters)
  describe := driver.describe

end CursorDriver

end AccessGrants
