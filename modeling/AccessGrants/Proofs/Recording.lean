import AccessGrants.Proofs.Executing

/-!
# Records tell what was run

Whatever an executor is called for, and whichever statements its connection refuses, its records are
those of the statements that it has passed to the connection, one for each, in order, and each says
what came of its statement.

* `Connection.attempted` is a connection that keeps what came of each statement.
* `Record.Tells`: a record says what came of an attempt.
* `Executor.Call`, `Executor.callAll`: the calls of an executor, and a sequence of them.
* `Executor.Course`: the four ways in which a call goes. `Executor.exists_course`,
  `Executor.Course.call_eq`: each call goes in one of them. `Executor.Course.tells`,
  `Executor.Course.of_dryRun`: what it records.
* `Executor.callAll_records`: the records after any calls.
-/

namespace AccessGrants

variable {σ ε : Type}

/-! ## Attempts -/

/-- A statement that was passed to a connection, and what came of it. -/
structure Attempt (ε : Type) where
  statement : Text
  outcome : Except ε Unit

/-- A connection that keeps all attempts, beside its state. -/
def Connection.attempted (connection : Connection σ ε) : Connection (σ × List (Attempt ε)) ε where
  execute statement s :=
    let result := connection.execute statement s.1
    (result.1, (result.2, s.2 ++ [⟨statement, result.1⟩]))
  query query parameters s :=
    let result := connection.query query parameters s.1
    (result.1, (result.2, s.2))
  describe := connection.describe

/-- Such a connection keeps each statement with what came of it. -/
theorem Connection.attempted_keeps {connection : Connection σ ε} :
    connection.attempted.Keeps connection Attempt.mk :=
  fun _ _ _ => rfl

/-- An executor over a connection that keeps all attempts. -/
def Executor.attempted (x : Executor σ ε) : Executor (σ × List (Attempt ε)) ε :=
  ⟨x.connection.attempted, x.dryRun⟩

/-- A record says what came of an attempt: success exactly if the connection returned, and otherwise
the error that it raised, with its wording as the message. -/
structure Record.Tells (describe : ε → Text) (record : Record ε) (attempt : Attempt ε) : Prop where
  statement : record.command.statement = attempt.statement
  success_iff : record.success = true ↔ attempt.outcome = .ok ()
  failure : ∀ e, attempt.outcome = .error e → record.error = some e ∧ record.message = describe e

namespace Executor

/-! ## Calls -/

/-- A call of one of the operations of an executor. -/
inductive Call
  | grantPrivileges (grantee : Text) (raws : List Text) (defaultSchema : Text)
  | revokePrivileges (grantee : Text) (raws : List Text) (defaultSchema : Text)
  | grantRoles (grantee : Text) (raws : List Text)
  | revokeRoles (grantee : Text) (raws : List Text)
  | updatePrivileges (grantee : Text) (toGrant toRevoke : List Text) (defaultSchema : Text)
  | updateRoles (grantee : Text) (toGrant toRevoke : List Text)

namespace Call

/-- The statements that a call comes to, if all of its strings are read. -/
def plan : Call → Except ParseError (List Statement)
  | grantPrivileges grantee raws defaultSchema =>
      Statement.grantPrivileges grantee raws defaultSchema
  | revokePrivileges grantee raws defaultSchema =>
      Statement.revokePrivileges grantee raws defaultSchema
  | grantRoles grantee raws => Statement.grantRoles grantee raws
  | revokeRoles grantee raws => Statement.revokeRoles grantee raws
  | updatePrivileges grantee toGrant toRevoke defaultSchema =>
      Statement.planPrivileges grantee toGrant toRevoke defaultSchema
  | updateRoles grantee toGrant toRevoke => Statement.planRoles grantee toGrant toRevoke

/-- The statements of a call, none if a string is refused. -/
def statements (call : Call) : List Statement :=
  match call.plan with
  | .ok statements => statements
  | .error _ => []

/-- If all strings are read, the statements of a call are those of its plan. -/
theorem statements_of_plan_eq_ok {call : Call} {sts : List Statement} (h : call.plan = .ok sts) :
    call.statements = sts := by
  rw [statements, h]

/-- If a string is refused, a call has no statements. -/
theorem statements_of_plan_eq_error {call : Call} {e : ParseError} (h : call.plan = .error e) :
    call.statements = [] := by
  rw [statements, h]

end Call

variable {x : Executor σ ε}

/-- Makes a call. -/
def call (x : Executor σ ε) (s : Session σ ε) :
    Call → Except (OperationError ε) (List (Record ε)) × Session σ ε
  | .grantPrivileges grantee raws defaultSchema => x.grantPrivileges grantee raws defaultSchema s
  | .revokePrivileges grantee raws defaultSchema => x.revokePrivileges grantee raws defaultSchema s
  | .grantRoles grantee raws => x.grantRoles grantee raws s
  | .revokeRoles grantee raws => x.revokeRoles grantee raws s
  | .updatePrivileges grantee toGrant toRevoke defaultSchema =>
      x.updatePrivileges grantee toGrant toRevoke defaultSchema s
  | .updateRoles grantee toGrant toRevoke => x.updateRoles grantee toGrant toRevoke s

/-- Makes calls one after the other, also after one that fails. -/
def callAll (x : Executor σ ε) : List Call → Session σ ε → Session σ ε
  | [], s => s
  | call :: rest, s => x.callAll rest (x.call s call).2

/-- Each call plans first and then runs its plan. -/
theorem call_eq_runPlan (c : Call) (s : Session σ ε) : x.call s c = x.runPlan c.plan s := by
  cases c <;> rfl

/-! ## One call -/

/-- How a call goes from a state: what it returns, which attempts it makes, what it records, and the
state in which it leaves the database. A string may be refused, a dry run records its plan, and any
other call runs its plan to the end or up to the first statement at which the connection fails. -/
inductive Course (x : Executor σ ε) (c : Call) (s : σ) :
    Except (OperationError ε) (List (Record ε)) → List (Attempt ε) → List (Record ε) → σ → Prop
  | refused {e : ParseError} (hplan : c.plan = .error e) : Course x c s (.error (.parse e)) [] [] s
  | dry {statements : List Statement} (hdry : x.dryRun = true) (hplan : c.plan = .ok statements) :
      Course x c s (.ok (statements.map fun st => planned st.command)) []
        (statements.map fun st => planned st.command) s
  | returned {statements : List Statement} {s' : σ} (hrun : x.dryRun = false)
      (hplan : c.plan = .ok statements)
      (hruns : x.connection.Runs (statements.map Statement.text) s s') :
      Course x c s (.ok (statements.map fun st => succeeded st.command))
        (statements.map fun st => ⟨st.text, .ok ()⟩)
        (statements.map fun st => succeeded st.command) s'
  | failed {done rest : List Statement} {st : Statement} {e : ε} {s' : σ} (hrun : x.dryRun = false)
      (hplan : c.plan = .ok (done ++ st :: rest))
      (hfail : x.connection.FailsAt (done.map Statement.text) st.text e s s') :
      Course x c s (.error (.connection e))
        ((done.map fun st => ⟨st.text, .ok ()⟩) ++ [⟨st.text, .error e⟩])
        ((done.map fun st => succeeded st.command) ++ [x.failed st.command e]) s'

/-- The commands for statements carry their texts. -/
theorem map_statement_command (statements : List Statement) :
    (statements.map Statement.command).map Command.statement = statements.map Statement.text :=
  List.map_map

/-- A plan that the connection runs. -/
theorem runPlan_of_runs (hrun : x.dryRun = false) {statements : List Statement} {s s' : σ}
    (h : x.connection.Runs (statements.map Statement.text) s s') (before : List (Record ε)) :
    x.runPlan (.ok statements) ⟨s, before⟩ =
      (.ok (statements.map fun st => succeeded st.command),
        ⟨s', before ++ statements.map fun st => succeeded st.command⟩) := by
  rw [← map_statement_command] at h
  rw [runPlan_ok, runAll_of_runs hrun h, List.map_map]
  rfl

/-- A plan at one of whose statements the connection fails. -/
theorem runPlan_of_failsAt (hrun : x.dryRun = false) {done rest : List Statement} {st : Statement}
    {e : ε} {s s' : σ} (h : x.connection.FailsAt (done.map Statement.text) st.text e s s')
    (before : List (Record ε)) :
    x.runPlan (.ok (done ++ st :: rest)) ⟨s, before⟩ =
      (.error (.connection e),
        ⟨s',
          before ++ ((done.map fun st => succeeded st.command) ++ [x.failed st.command e])⟩) := by
  rw [← map_statement_command] at h
  rw [runPlan_ok, List.map_append, List.map_cons, runAll_of_failsAt hrun h, List.map_map,
    List.append_assoc]
  rfl

/-- A plan in a dry run. -/
theorem runPlan_of_dryRun (hdry : x.dryRun = true) (statements : List Statement) (s : σ)
    (before : List (Record ε)) :
    x.runPlan (.ok statements) ⟨s, before⟩ =
      (.ok (statements.map fun st => planned st.command),
        ⟨s, before ++ statements.map fun st => planned st.command⟩) := by
  rw [runPlan_ok, runAll_of_dryRun hdry, List.map_map]
  rfl

section Course

variable {c : Call} {s s' : σ} {result : Except (OperationError ε) (List (Record ε))}
  {attempts : List (Attempt ε)} {records : List (Record ε)}

/-- Every call goes in one of these ways. -/
theorem exists_course (x : Executor σ ε) (c : Call) (s : σ) :
    ∃ result attempts records s', Course x c s result attempts records s' := by
  rcases hplan : c.plan with e | statements
  · exact ⟨_, _, _, _, .refused hplan⟩
  · rcases hdry : x.dryRun with _ | _
    · rcases x.connection.runs_or_failsAt (statements.map Statement.text) s with
        ⟨s', hruns⟩ | ⟨k, hk, e, s', hfail⟩
      · exact ⟨_, _, _, _, .returned hdry hplan hruns⟩
      · have hlength : k < statements.length := by simpa using hk
        have hsplit : statements =
            statements.take k ++ statements[k] :: statements.drop (k + 1) := by
          rw [← List.drop_eq_getElem_cons hlength, List.take_append_drop]
        rw [← List.map_take, List.getElem_map] at hfail
        rw [hsplit] at hplan
        exact ⟨_, _, _, _, .failed hdry hplan hfail⟩
    · exact ⟨_, _, _, _, .dry hdry hplan⟩

/-- What a call returns and records is that of its course, whatever has been recorded before. -/
theorem Course.call_eq (h : Course x c s result attempts records s') (before : List (Record ε)) :
    x.call ⟨s, before⟩ c = (result, ⟨s', before ++ records⟩) := by
  rw [call_eq_runPlan]
  cases h with
  | refused hplan =>
      rw [hplan, List.append_nil]
      rfl
  | dry hdry hplan =>
      rw [hplan]
      exact runPlan_of_dryRun hdry _ s before
  | returned hrun hplan hruns =>
      rw [hplan]
      exact runPlan_of_runs hrun hruns before
  | failed hrun hplan hfail =>
      rw [hplan]
      exact runPlan_of_failsAt hrun hfail before

/-- If attempts are kept, a call goes in the same way, and its attempts come behind the earlier
ones. -/
theorem Course.attempted (h : Course x c s result attempts records s')
    (tries : List (Attempt ε)) :
    Course x.attempted c (s, tries) result attempts records (s', tries ++ attempts) := by
  cases h with
  | refused hplan =>
      rw [List.append_nil]
      exact .refused hplan
  | dry hdry hplan =>
      rw [List.append_nil]
      exact .dry hdry hplan
  | returned hrun hplan hruns =>
      have hkept := hruns.kept Connection.attempted_keeps tries
      rw [List.map_map] at hkept
      exact .returned hrun hplan hkept
  | failed hrun hplan hfail =>
      have hkept := hfail.kept Connection.attempted_keeps tries
      rw [List.map_map] at hkept
      exact .failed hrun hplan hkept

/-- The record of a success tells that the connection returned. -/
theorem succeeded_tells (describe : ε → Text) (st : Statement) :
    Record.Tells describe (succeeded st.command) ⟨st.text, .ok ()⟩ :=
  ⟨rfl, iff_of_true rfl rfl, nofun⟩

/-- The record of a failure tells the error with its wording. -/
theorem failed_tells (st : Statement) (e : ε) :
    Record.Tells x.connection.describe (x.failed st.command e) ⟨st.text, .error e⟩ where
  statement := rfl
  success_iff := iff_of_false nofun nofun
  failure e' h := by
    cases h
    exact ⟨rfl, rfl⟩

/-- The records of a call tell its attempts, unless it is a dry run. -/
theorem Course.tells (hrun : x.dryRun = false) (h : Course x c s result attempts records s') :
    List.Forall₂ (Record.Tells x.connection.describe) records attempts := by
  have hdone : ∀ done : List Statement, List.Forall₂ (Record.Tells x.connection.describe)
      (done.map fun st => succeeded st.command) (done.map fun st => ⟨st.text, .ok ()⟩) := by
    intro done
    rw [List.forall₂_map_left_iff, List.forall₂_map_right_iff, List.forall₂_same]
    exact fun st _ => succeeded_tells _ st
  cases h with
  | refused => exact .nil
  | dry hdry =>
      rw [hrun] at hdry
      cases hdry
  | @returned statements => exact hdone statements
  | @failed done _ st e => exact List.rel_append (hdone done) (.cons (failed_tells st e) .nil)

/-- A dry run attempts nothing and records its statements. -/
theorem Course.of_dryRun (hdry : x.dryRun = true) (h : Course x c s result attempts records s') :
    attempts = [] ∧ s' = s ∧ records = c.statements.map fun st => planned st.command := by
  cases h with
  | refused hplan => exact ⟨rfl, rfl, by rw [Call.statements_of_plan_eq_error hplan, List.map_nil]⟩
  | dry _ hplan => exact ⟨rfl, rfl, by rw [Call.statements_of_plan_eq_ok hplan]⟩
  | returned hrun | failed hrun =>
      rw [hdry] at hrun
      cases hrun

end Course

/-! ## Any calls -/

/-- After any calls there are attempts and records that the calls have added. The records tell the
attempts, or those of a dry run the statements that were planned. -/
theorem exists_callAll (x : Executor σ ε) (calls : List Call) (s : σ) :
    ∃ attempts records s',
      (∀ before, x.callAll calls ⟨s, before⟩ = ⟨s', before ++ records⟩ ∧
        ∀ tries, x.attempted.callAll calls ⟨(s, tries), before⟩ =
          ⟨(s', tries ++ attempts), before ++ records⟩) ∧
      (x.dryRun = false →
        List.Forall₂ (Record.Tells x.connection.describe) records attempts) ∧
      (x.dryRun = true → attempts = [] ∧ s' = s ∧
        records = (calls.flatMap Call.statements).map fun st => planned st.command) := by
  induction calls generalizing s with
  | nil =>
      refine ⟨[], [], s, ?_, fun _ => .nil, fun _ => ⟨rfl, rfl, rfl⟩⟩
      intro before
      constructor
      · simp [callAll]
      · simp [callAll]
  | cons c rest ih =>
      obtain ⟨result, attempts, records, s₁, hcourse⟩ := exists_course x c s
      obtain ⟨more, moreRecords, s', hrest, htells, hdry⟩ := ih s₁
      refine ⟨attempts ++ more, records ++ moreRecords, s', ?_, ?_, ?_⟩
      · intro before
        constructor
        · rw [callAll, hcourse.call_eq, (hrest _).1, List.append_assoc]
        · intro tries
          rw [callAll, (hcourse.attempted tries).call_eq, (hrest _).2, List.append_assoc,
            List.append_assoc]
      · intro hrun
        exact List.rel_append (hcourse.tells hrun) (htells hrun)
      · intro hrun
        obtain ⟨rfl, rfl, rfl⟩ := hcourse.of_dryRun hrun
        obtain ⟨rfl, rfl, rfl⟩ := hdry hrun
        exact ⟨rfl, rfl, by rw [List.flatMap_cons, List.map_append]⟩

/-- The records of an executor are the truth. After any calls they tell the attempts that it has
made, one record for each attempt; those of a dry run, which makes none, are successes of the
statements that it has planned. Whatever it is called for next goes in one of the ways of a call,
and only adds to the attempts and the records. -/
theorem callAll_records (x : Executor σ ε) (calls : List Call) (s : σ) :
    ∃ attempts records s',
      x.callAll calls ⟨s, []⟩ = ⟨s', records⟩ ∧
      x.attempted.callAll calls ⟨(s, []), []⟩ = ⟨(s', attempts), records⟩ ∧
      (x.dryRun = false →
        List.Forall₂ (Record.Tells x.connection.describe) records attempts) ∧
      (x.dryRun = true → attempts = [] ∧ s' = s ∧
        records = ((calls.flatMap Call.statements).map fun st => planned st.command) ∧
        ∀ record ∈ records, record.success = true) ∧
      ∀ c, ∃ result tried recorded s'', Course x c s' result tried recorded s'' ∧
        x.call ⟨s', records⟩ c = (result, ⟨s'', records ++ recorded⟩) ∧
        x.attempted.call ⟨(s', attempts), records⟩ c =
          (result, ⟨(s'', attempts ++ tried), records ++ recorded⟩) := by
  obtain ⟨attempts, records, s', hcalls, htells, hdry⟩ := exists_callAll x calls s
  refine ⟨attempts, records, s', (hcalls []).1, (hcalls []).2 [], htells, ?_, ?_⟩
  · intro hrun
    obtain ⟨hattempts, hstate, hrecords⟩ := hdry hrun
    refine ⟨hattempts, hstate, hrecords, ?_⟩
    intro record hrecord
    rw [hrecords, List.mem_map] at hrecord
    obtain ⟨st, -, rfl⟩ := hrecord
    rfl
  · intro c
    obtain ⟨result, tried, recorded, s'', hcourse⟩ := exists_course x c s'
    exact ⟨result, tried, recorded, s'', hcourse, hcourse.call_eq records,
      (hcourse.attempted attempts).call_eq records⟩

end Executor

end AccessGrants
