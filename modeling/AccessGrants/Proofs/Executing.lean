import AccessGrants.Proofs.Untouched

/-!
# A pass runs its plan

A plan is made as a whole, while a pass plans its roles only after the statements for its privileges
have run. A pass asks its connection for the same statements all the same: it runs its plan to the
end, or up to the first statement that fails.

* `Connection.Runs`, `Connection.FailsAt`: how far a connection gets with a list of statements.
* `Connection.Keeps`: a connection that keeps something of each statement, such as a log does.
* `Executor.runAll_of_dryRun`, `Executor.runAll_of_runs`, `Executor.runAll_of_failsAt`: what an
  executor makes of a list, in each of the three cases.
* `Comparison.statements`: the statements that a comparison asks for, also when a role is refused.
* `Pass.reconcile_of_compare`: a pass that has a comparison runs these statements.
* `Pass.reconcile_runs_plan`: a pass that has a plan runs its plan.
-/

namespace AccessGrants

variable {σ ε : Type}

/-! ## How far a connection gets -/

namespace Connection

variable {connection : Connection σ ε}

/-- A connection runs statements one after the other, each with success. -/
inductive Runs (connection : Connection σ ε) : List Text → σ → σ → Prop
  | nil (s : σ) : Runs connection [] s s
  | cons {text : Text} {rest : List Text} {s s₁ s₂ : σ}
      (hrun : connection.execute text s = (.ok (), s₁)) (hrest : Runs connection rest s₁ s₂) :
      Runs connection (text :: rest) s s₂

/-- A connection fails at a statement after it has run the statements `done`. -/
def FailsAt (connection : Connection σ ε) (done : List Text) (text : Text) (e : ε) (s s' : σ) :
    Prop :=
  ∃ s₁, connection.Runs done s s₁ ∧ connection.execute text s₁ = (.error e, s')

/-- A connection runs a list to its end or fails at one of its statements. -/
theorem runs_or_failsAt (connection : Connection σ ε) (texts : List Text) (s : σ) :
    (∃ s', connection.Runs texts s s') ∨
      ∃ (k : Nat) (hk : k < texts.length) (e : ε) (s' : σ),
        connection.FailsAt (texts.take k) texts[k] e s s' := by
  induction texts generalizing s with
  | nil => exact .inl ⟨s, .nil s⟩
  | cons text rest ih =>
      rcases hrun : connection.execute text s with ⟨e | ⟨⟩, s₁⟩
      · exact .inr ⟨0, Nat.succ_pos _, e, s₁, s, .nil s, hrun⟩
      · rcases ih s₁ with ⟨s', hrest⟩ | ⟨k, hk, e, s', s₂, hrest, hfail⟩
        · exact .inl ⟨s', .cons hrun hrest⟩
        · exact .inr ⟨k + 1, Nat.succ_lt_succ hk, e, s', s₂, .cons hrun hrest, hfail⟩

section Keeps

variable {κ : Type} {keeping : Connection (σ × List κ) ε} {keep : Text → Except ε Unit → κ}

/-- A connection runs statements as another one does, and keeps something of each of them beside the
state: what is kept may depend on the statement and on what came of it. -/
def Keeps (keeping : Connection (σ × List κ) ε) (connection : Connection σ ε)
    (keep : Text → Except ε Unit → κ) : Prop :=
  ∀ text s log, keeping.execute text (s, log) =
    ((connection.execute text s).1,
      ((connection.execute text s).2, log ++ [keep text (connection.execute text s).1]))

/-- Of the statements that are run, what is kept is that of a success. -/
theorem Runs.kept (hkeeps : keeping.Keeps connection keep) {texts : List Text} {s s' : σ}
    (h : connection.Runs texts s s') (log : List κ) :
    keeping.Runs texts (s, log) (s', log ++ texts.map (keep · (.ok ()))) := by
  induction h generalizing log with
  | nil s =>
      rw [List.map_nil, List.append_nil]
      exact .nil _
  | @cons text rest s s₁ s₂ hrun _ ih =>
      have hkept : keeping.execute text (s, log) = (.ok (), (s₁, log ++ [keep text (.ok ())])) := by
        rw [hkeeps, hrun]
      rw [List.map_cons, List.append_cons]
      exact .cons hkept (ih _)

/-- Of the statement that fails something is kept as well. -/
theorem FailsAt.kept (hkeeps : keeping.Keeps connection keep) {done : List Text} {text : Text}
    {e : ε} {s s' : σ} (h : connection.FailsAt done text e s s') (log : List κ) :
    keeping.FailsAt done text e (s, log)
      (s', log ++ (done.map (keep · (.ok ())) ++ [keep text (.error e)])) := by
  obtain ⟨s₁, hruns, hfail⟩ := h
  refine ⟨(s₁, log ++ done.map (keep · (.ok ()))), hruns.kept hkeeps log, ?_⟩
  rw [hkeeps, hfail, List.append_assoc]

end Keeps

/-- A log is one way to keep something: the statements. -/
theorem logged_keeps : connection.logged.Keeps connection fun text _ => text :=
  fun _ _ _ => rfl

/-- A log keeps the statements that are run. -/
theorem Runs.logged {texts : List Text} {s s' : σ} (h : connection.Runs texts s s')
    (log : List Text) : connection.logged.Runs texts (s, log) (s', log ++ texts) := by
  simpa using h.kept logged_keeps log

/-- A log keeps the statement that fails as well. -/
theorem FailsAt.logged {done : List Text} {text : Text} {e : ε} {s s' : σ}
    (h : connection.FailsAt done text e s s') (log : List Text) :
    connection.logged.FailsAt done text e (s, log) (s', log ++ (done ++ [text])) := by
  simpa using h.kept logged_keeps log

end Connection

/-! ## What an executor makes of a list -/

namespace Executor

variable {x : Executor σ ε}

/-- A dry run records all commands and leaves the database alone. -/
theorem runAll_of_dryRun (hdry : x.dryRun = true) (commands : List Command) (s : Session σ ε) :
    x.runAll commands s =
      (.ok (commands.map planned), ⟨s.state, s.records ++ commands.map planned⟩) := by
  induction commands generalizing s with
  | nil => simp [runAll]
  | cons command rest ih =>
      have hone : x.run command s =
          (.ok (planned command), ⟨s.state, s.records ++ [planned command]⟩) := by
        simp [run, hdry]
      rw [runAll_cons_of_ok hone, ih]
      simp [Except.map]

/-- Two lists in a row are run like one, if the first succeeds. -/
theorem runAll_append (first second : List Command) (s : Session σ ε) :
    x.runAll (first ++ second) s =
      match x.runAll first s with
      | (.error e, t) => (.error e, t)
      | (.ok records, t) =>
        match x.runAll second t with
        | (.error e, t) => (.error e, t)
        | (.ok more, t) => (.ok (records ++ more), t) := by
  induction first generalizing s with
  | nil =>
      rw [List.nil_append]
      simp only [runAll, List.nil_append]
      rcases x.runAll second s with ⟨_ | _, _⟩ <;> rfl
  | cons command rest ih =>
      rw [List.cons_append]
      rcases hone : x.run command s with ⟨e | record, s₁⟩
      · rw [runAll_cons_of_error hone, runAll_cons_of_error hone]
      · rw [runAll_cons_of_ok hone, runAll_cons_of_ok hone, ih]
        rcases x.runAll rest s₁ with ⟨_ | _, s₂⟩
        · rfl
        · dsimp only [Except.map]
          rcases x.runAll second s₂ with ⟨_ | _, _⟩ <;> rfl

/-- A list that the connection runs is recorded as a list of successes. -/
theorem runAll_of_runs (hrun : x.dryRun = false) {commands : List Command} {s s' : σ}
    (h : x.connection.Runs (commands.map Command.statement) s s') (before : List (Record ε)) :
    x.runAll commands ⟨s, before⟩ =
      (.ok (commands.map succeeded), ⟨s', before ++ commands.map succeeded⟩) := by
  induction commands generalizing s before with
  | nil =>
      cases h
      simp [runAll]
  | cons command rest ih =>
      cases h with
      | @cons _ _ _ s₁ _ hexecute hrest =>
          rw [runAll_cons_of_ok (run_of_ok hrun hexecute), ih hrest]
          simp [Except.map]

/-- A list at which the connection fails is recorded up to the command that fails, and no further. -/
theorem runAll_of_failsAt (hrun : x.dryRun = false) {done rest : List Command} {command : Command}
    {e : ε} {s s' : σ}
    (h : x.connection.FailsAt (done.map Command.statement) command.statement e s s')
    (before : List (Record ε)) :
    x.runAll (done ++ command :: rest) ⟨s, before⟩ =
      (.error e, ⟨s', before ++ done.map succeeded ++ [x.failed command e]⟩) := by
  obtain ⟨s₁, hruns, hfail⟩ := h
  rw [runAll_append, runAll_of_runs hrun hruns]
  dsimp only
  rw [runAll_cons_of_error (run_of_error hrun hfail)]

end Executor

/-! ## What a comparison asks for -/

namespace Comparison

/-- The statements for the privileges of a comparison. -/
def privilegeStatements (c : Comparison) (defaultSchema : Text) :
    Except ParseError (List Statement) :=
  Statement.planPrivileges c.grantee c.privilegeDifference.toAdd c.privilegeDifference.toRemove
    defaultSchema

/-- The statements for the roles of a comparison. -/
def roleStatements (c : Comparison) : Except ParseError (List Statement) :=
  Statement.planRoles c.grantee c.roleDifference.toAdd c.roleDifference.toRemove

/-- The statements that a pass comes to: none if a privilege is refused, and only those for the
privileges if a role is. -/
def statements (c : Comparison) (defaultSchema : Text) : List Statement :=
  match c.privilegeStatements defaultSchema with
  | .error _ => []
  | .ok privileges =>
    match c.roleStatements with
    | .error _ => privileges
    | .ok roles => privileges ++ roles

/-- Reads all strings to change, up to the first that is refused. -/
def readAll (c : Comparison) (defaultSchema : Text) : Except ParseError Unit := do
  let _ ← c.privilegeStatements defaultSchema
  let _ ← c.roleStatements
  return ()

/-- If all strings to change are read, the statements that a pass comes to are those of its plan. -/
theorem planUpdate_eq_ok_iff {c : Comparison} {defaultSchema : Text}
    {statements : List Statement} :
    Statement.planUpdate c.grantee defaultSchema c.privilegeDifference.toAdd
        c.privilegeDifference.toRemove c.roleDifference.toAdd c.roleDifference.toRemove =
          .ok statements ↔
      c.readAll defaultSchema = .ok () ∧ statements = c.statements defaultSchema := by
  unfold Comparison.statements readAll privilegeStatements roleStatements Statement.planUpdate
  generalize Statement.planPrivileges _ _ _ _ = privileges
  generalize Statement.planRoles _ _ _ = roles
  rcases privileges with e | privileges
  · simp [bind, Except.bind]
  · rcases roles with e | roles
    · simp [bind, Except.bind]
    · simp [bind, Except.bind, pure, Except.pure, eq_comm]

end Comparison

namespace Pass

variable {x : Executor σ ε} {spec : Spec} {previouslyManaged : List Text} {s s' : σ}
  {c : Comparison}

/-- A comparison is made for the grantee of the specification. -/
theorem grantee_of_compare {connection : Connection σ ε}
    (h : compare connection spec previouslyManaged s = (.ok c, s')) : c.grantee = spec.grantee := by
  obtain ⟨_, _, _, _, _, -, -, -, rfl⟩ := compare_eq_ok_iff.mp h
  rfl

/-- A pass that has a comparison runs the statements that it asks for. Then it returns, unless a
string is refused. -/
theorem reconcile_of_compare
    (hcompare : compare x.connection spec previouslyManaged s = (.ok c, s'))
    (records : List (Record ε)) :
    reconcile x spec previouslyManaged ⟨s, records⟩ =
      match x.runAll ((c.statements spec.defaultSchema).map Statement.command) ⟨s', records⟩ with
      | (.error e, t) => (.error (.connection e), t)
      | (.ok ran, t) =>
        match c.readAll spec.defaultSchema with
        | .error e => (.error (.parse e), t)
        | .ok () => (.ok ⟨c, ran⟩, t) := by
  have hgrantee := grantee_of_compare hcompare
  obtain ⟨D, DR, O, OR, s₁, -, -, -, rfl⟩ := compare_eq_ok_iff.mp hcompare
  unfold Comparison.statements Comparison.readAll Comparison.privilegeStatements
    Comparison.roleStatements
  rw [hgrantee]
  simp only [reconcile, hcompare]
  dsimp only [Comparison.ofGrants]
  simp only [updatePrivileges_eq_runPlan, updateRoles_eq_runPlan]
  generalize Statement.planPrivileges _ _ _ _ = privileges
  generalize Statement.planRoles _ _ _ = roles
  cases privileges with
  | error e => rfl
  | ok privileges =>
      rw [Executor.runPlan_ok]
      cases roles with
      | error e =>
          rcases x.runAll (privileges.map Statement.command) ⟨s', records⟩ with ⟨_ | _, _⟩ <;> rfl
      | ok roles =>
          simp only [List.map_append, Executor.runAll_append, Executor.runPlan_ok]
          rcases x.runAll (privileges.map Statement.command) ⟨s', records⟩ with ⟨_ | first, t⟩
          · rfl
          · dsimp only [Except.mapError]
            rcases x.runAll (roles.map Statement.command) t with ⟨_ | _, _⟩ <;> rfl

/-- A pass that returns has a comparison of which all strings to change are read, and runs all of the
statements that it asks for. -/
theorem of_returned {outcome : Outcome ε} {s : Session σ ε}
    (h : (reconcile x spec previouslyManaged s).1 = .ok outcome) :
    ∃ s', compare x.connection spec previouslyManaged s.state = (.ok outcome.comparison, s') ∧
      outcome.comparison.readAll spec.defaultSchema = .ok () ∧
      (x.runAll ((outcome.comparison.statements spec.defaultSchema).map Statement.command)
        ⟨s', s.records⟩).1 = .ok outcome.records := by
  obtain ⟨s, records⟩ := s
  rcases hcompare : compare x.connection spec previouslyManaged s with ⟨e | c, s'⟩
  · simp [reconcile, hcompare] at h
  · rw [reconcile_of_compare hcompare] at h
    dsimp only at h ⊢
    rcases hrun : x.runAll _ _ with ⟨e | ran, t⟩
    · rw [hrun] at h
      cases h
    · rw [hrun] at h
      dsimp only at h
      rcases hread : c.readAll spec.defaultSchema with e | ⟨⟩
      · rw [hread] at h
        cases h
      · rw [hread] at h
        cases h
        exact ⟨s', rfl, hread, by rw [hrun]⟩

/-- A comparison without a difference asks for nothing. -/
theorem statements_of_unchanged {connection : Connection σ ε}
    (h : compare connection spec previouslyManaged s = (.ok c, s')) (hchanged : c.changed = false)
    (defaultSchema : Text) : c.statements defaultSchema = [] := by
  obtain ⟨D, DR, O, OR, s₁, -, -, -, rfl⟩ := compare_eq_ok_iff.mp h
  simp only [Comparison.changed, Bool.not_eq_false', Bool.and_eq_true] at hchanged
  obtain ⟨hadd, hremove⟩ := Difference.nil_of_equal_between hchanged.1
  obtain ⟨hroleAdd, hroleRemove⟩ := Difference.nil_of_equal_between hchanged.2
  simp only [Comparison.statements, Comparison.privilegeStatements, Comparison.roleStatements,
    Comparison.ofGrants, hadd, hremove, hroleAdd, hroleRemove]
  rfl

/-- A pass that has a plan runs the plan. -/
theorem reconcile_eq_of_plan {statements : List Statement}
    (h : plan x.connection spec previouslyManaged s = (.ok statements, s'))
    (records : List (Record ε)) :
    ∃ c, compare x.connection spec previouslyManaged s = (.ok c, s') ∧
      (c.changed = false → statements = []) ∧
      reconcile x spec previouslyManaged ⟨s, records⟩ =
        match x.runAll (statements.map Statement.command) ⟨s', records⟩ with
        | (.error e, t) => (.error (.connection e), t)
        | (.ok ran, t) => (.ok ⟨c, ran⟩, t) := by
  obtain ⟨c, hcompare, hplan⟩ := plan_eq_ok_iff.mp h
  rw [← grantee_of_compare hcompare] at hplan
  obtain ⟨hread, rfl⟩ := Comparison.planUpdate_eq_ok_iff.mp hplan
  refine ⟨c, hcompare, fun hchanged => statements_of_unchanged hcompare hchanged _, ?_⟩
  rw [reconcile_of_compare hcompare, hread]

/-- The statements that a pass reports. -/
def Outcome.statements (outcome : Outcome ε) : List Text :=
  outcome.records.map fun record => record.command.statement

/-- A pass runs its plan. Without a difference the plan is empty. A dry run reports the plan and runs
nothing. Any other pass runs the plan to its end and reports it, or the connection fails at one of its
statements: then the statements before have succeeded, that one was tried once, nothing after it was,
and the error is that of the connection. -/
theorem reconcile_runs_plan {statements : List Statement}
    (h : plan x.connection spec previouslyManaged s = (.ok statements, s')) (log : List Text)
    (records : List (Record ε)) :
    ∃ c, compare x.connection spec previouslyManaged s = (.ok c, s') ∧
      (c.changed = false → statements = []) ∧
      (x.dryRun = true → ∃ outcome,
        reconcile x.logged spec previouslyManaged ⟨(s, log), records⟩ =
          (.ok outcome, ⟨(s', log), records ++ outcome.records⟩) ∧
        outcome.comparison = c ∧ outcome.statements = statements.map Statement.text) ∧
      (x.dryRun = false →
        ((∃ t, x.connection.Runs (statements.map Statement.text) s' t) ∨
          ∃ (k : Nat) (hk : k < statements.length) (e : ε) (t : σ), x.connection.FailsAt
            ((statements.take k).map Statement.text) statements[k].text e s' t) ∧
        (∀ t, x.connection.Runs (statements.map Statement.text) s' t → ∃ outcome,
          reconcile x.logged spec previouslyManaged ⟨(s, log), records⟩ =
            (.ok outcome, ⟨(t, log ++ statements.map Statement.text),
              records ++ outcome.records⟩) ∧
          outcome.comparison = c ∧ outcome.statements = statements.map Statement.text) ∧
        ∀ (k : Nat) (hk : k < statements.length) (e : ε) (t : σ),
          x.connection.FailsAt ((statements.take k).map Statement.text) statements[k].text e s' t →
          reconcile x.logged spec previouslyManaged ⟨(s, log), records⟩ =
            (.error (.connection e),
              ⟨(t, log ++ (statements.take (k + 1)).map Statement.text),
                records ++ (statements.take k).map (fun st => Executor.succeeded st.command) ++
                  [x.failed statements[k].command e]⟩)) := by
  obtain ⟨c, hcompare, hchanged, -⟩ := reconcile_eq_of_plan h records
  have hlogged : plan x.logged.connection spec previouslyManaged (s, log) =
      (.ok statements, (s', log)) := by
    obtain ⟨c, hcompare, hplan⟩ := plan_eq_ok_iff.mp h
    exact plan_eq_ok_iff.mpr ⟨c, compare_logged hcompare log, hplan⟩
  obtain ⟨c', hcompare', -, hreconcile⟩ := reconcile_eq_of_plan hlogged records
  rw [show compare x.logged.connection spec previouslyManaged (s, log) = (.ok c, (s', log)) from
    compare_logged hcompare log] at hcompare'
  cases hcompare'
  have htexts : ∀ sts : List Statement,
      (sts.map Statement.command).map Command.statement = sts.map Statement.text :=
    fun sts => List.map_map
  refine ⟨c, hcompare, hchanged, fun hdry => ?_, fun hrun => ⟨?_, fun t hruns => ?_,
    fun k hk e t hfail => ?_⟩⟩
  · rw [hreconcile, Executor.runAll_of_dryRun (x := x.logged) hdry]
    exact ⟨_, rfl, rfl, by simp [Outcome.statements, Executor.planned, Statement.command]⟩
  · rcases x.connection.runs_or_failsAt (statements.map Statement.text) s' with
      hruns | ⟨k, hk, e, t, hfail⟩
    · exact .inl hruns
    · rw [← List.map_take, List.getElem_map] at hfail
      exact .inr ⟨k, by simpa using hk, e, t, hfail⟩
  · rw [← htexts] at hruns
    rw [hreconcile, Executor.runAll_of_runs (x := x.logged) hrun (hruns.logged log), htexts]
    exact ⟨_, rfl, rfl, by simp [Outcome.statements, Executor.succeeded, Statement.command]⟩
  · have hfails : x.logged.connection.FailsAt
        (((statements.take k).map Statement.command).map Command.statement)
        statements[k].command.statement e (s', log)
        (t, log ++ ((statements.take k).map Statement.text ++ [statements[k].text])) := by
      rw [htexts]
      exact hfail.logged log
    have hsplit : statements.map Statement.command = (statements.take k).map Statement.command ++
        statements[k].command :: (statements.drop (k + 1)).map Statement.command := by
      rw [← List.map_cons, ← List.map_append, ← List.drop_eq_getElem_cons hk,
        List.take_append_drop]
    have htried : (statements.take (k + 1)).map Statement.text =
        (statements.take k).map Statement.text ++ [statements[k].text] := by
      rw [List.take_succ_eq_append_getElem hk, List.map_append]
      rfl
    rw [hreconcile, hsplit, Executor.runAll_of_failsAt (x := x.logged) hrun hfails, htried,
      List.map_map]
    rfl

end Pass

/-! ### A plan that stops halfway -/

/-- A database that refuses some statements, and is left as it is by those. -/
def Connection.refusing (connection : Connection σ Empty) (refuses : Text → Bool) :
    Connection σ Unit where
  execute statement s :=
    if refuses statement then (.error (), s) else (.ok (), (connection.execute statement s).2)
  query query parameters s :=
    match connection.query query parameters s with
    | (.ok rows, s) => (.ok rows, s)
    | (.error e, _) => e.elim
  describe _ := "insufficient privilege".toList

/-- Such a database answers queries all the same. -/
theorem Catalog.readRows_refusing {connection : Connection σ Empty} {refuses : Text → Bool}
    {read : List Row → Except RowError (List Text)} {query grantee : Text} {type : GranteeType}
    {s s' : σ} {grants : List Text}
    (h : readRows connection read query grantee type s = (.ok grants, s')) :
    readRows (connection.refusing refuses) read query grantee type s = (.ok grants, s') := by
  unfold readRows at h ⊢
  dsimp only [Connection.refusing]
  rcases hquery : connection.query _ _ s with ⟨e | rows, s₁⟩
  · exact e.elim
  · simp only [hquery] at h ⊢
    generalize read rows = result at h ⊢
    rcases result with e | grants
    · cases h
    · cases h
      rfl

namespace Pass

/-- So a pass compares the same. -/
theorem compare_refusing {connection : Connection σ Empty} {refuses : Text → Bool} {spec : Spec}
    {previouslyManaged : List Text} {s s' : σ} {c : Comparison}
    (h : compare connection spec previouslyManaged s = (.ok c, s')) :
    compare (connection.refusing refuses) spec previouslyManaged s = (.ok c, s') := by
  obtain ⟨D, DR, O, OR, s₁, hdesired, hprivileges, hroles, rfl⟩ := compare_eq_ok_iff.mp h
  exact compare_eq_ok_iff.mpr ⟨D, DR, O, OR, s₁, hdesired, Catalog.readRows_refusing hprivileges,
    Catalog.readRows_refusing hroles, rfl⟩

/-- A pass that grants a privilege and is then not allowed to revoke a role. -/
theorem reconcile_runs_plan_halfway :
    ∃ statements, plan ((oneRole "R".toList).refusing (· == "REVOKE R FROM AUDITOR".toList))
        auditor [] () = (.ok statements, ()) ∧
      reconcile (Executor.logged
          ⟨(oneRole "R".toList).refusing (· == "REVOKE R FROM AUDITOR".toList), false⟩)
        auditor [] ⟨((), []), []⟩ =
          (.error (.connection ()),
            ⟨((), ["GRANT CATALOG READ TO AUDITOR".toList, "REVOKE R FROM AUDITOR".toList]),
              [⟨⟨.grant, "AUDITOR".toList, "GRANT CATALOG READ TO AUDITOR".toList⟩,
                  "Executed successfully".toList, none⟩,
                ⟨⟨.revoke, "AUDITOR".toList, "REVOKE R FROM AUDITOR".toList⟩,
                  "insufficient privilege".toList, some ()⟩]⟩) := by
  have hcompare : compare (oneRole "R".toList) auditor [] () =
      (.ok (Comparison.ofGrants auditor [] ["CATALOG READ".toList] [] []
        ["R WITH ADMIN OPTION".toList]), ()) :=
    compare_ofTables (by decide) (by decide) (by decide)
  have hplan : plan ((oneRole "R".toList).refusing (· == "REVOKE R FROM AUDITOR".toList))
      auditor [] () =
        (.ok [.grantPrivilegeBatch ⟨.system, [], false, ["CATALOG READ".toList]⟩
            "AUDITOR".toList, .revokeRoleNames ["R".toList] "AUDITOR".toList], ()) :=
    plan_eq_ok_iff.mpr ⟨_, compare_refusing hcompare, by decide⟩
  obtain ⟨_, -, -, -, hrun⟩ := reconcile_runs_plan
    (x := ⟨(oneRole "R".toList).refusing (· == "REVOKE R FROM AUDITOR".toList), false⟩) hplan [] []
  obtain ⟨-, -, hfails⟩ := hrun rfl
  exact ⟨_, hplan, hfails 1 (by decide) () () ⟨(), .cons rfl (.nil ()), rfl⟩⟩

end Pass

end AccessGrants
