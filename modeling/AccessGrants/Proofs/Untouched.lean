import AccessGrants.Proofs.Running

/-!
# What a refused pass has run

A pass that finds a grant string it cannot read should leave the database alone. It reads the desired
strings before it asks for anything, and the privileges that differ before it runs a statement. The
roles that differ are read only after the statements for privileges have run. An observed role may be
one that is not read, and then the pass has changed the privileges already.

* `Connection.logged` is a connection with a log of the statements it is asked to run.
* `Executor.exists_runAll_logged`, `Pass.compare_logged`: what a run and a comparison add to the log.
* `Statement.exists_planPrivileges_iff`, `Statement.exists_planRoles_iff`: when there is a plan.
* `Pass.exists_of_reconcile_parse_error`: where in a pass a string is refused.
* `Comparison.RefusesLate`, `Comparison.refusesLate_iff`: the differences of which a role is refused
  too late.
* `Pass.untouched_iff`: a refused pass has run nothing exactly if it is none of those.
* `Pass.reconcile_of_unreadable`: a refused desired string changes nothing at all.
-/

namespace AccessGrants

variable {σ ε : Type}

/-! ## Connections with a log -/

/-- A connection that keeps a log of the statements it is asked to run, beside its state. -/
def Connection.logged (connection : Connection σ ε) : Connection (σ × List Text) ε where
  execute statement s :=
    let result := connection.execute statement s.1
    (result.1, (result.2, s.2 ++ [statement]))
  query query parameters s :=
    let result := connection.query query parameters s.1
    (result.1, (result.2, s.2))
  describe := connection.describe

/-- An executor over a connection with a log. -/
def Executor.logged (x : Executor σ ε) : Executor (σ × List Text) ε :=
  ⟨x.connection.logged, x.dryRun⟩

namespace Executor

variable {x : Executor σ ε} {commands : List Command} {s t : Session (σ × List Text) ε}

/-- What the log gets from some commands: their statements, but nothing in a dry run. -/
def logOf (x : Executor σ ε) (commands : List Command) : List Text :=
  if x.dryRun then [] else commands.map Command.statement

/-- The log gets nothing in a dry run or without commands. -/
theorem logOf_eq_nil_iff : x.logOf commands = [] ↔ x.dryRun = true ∨ commands = [] := by
  unfold logOf
  split
  · next hdry => simp [hdry]
  · next hrun => simp [hrun]

/-- A command is logged, whether or not it succeeds. -/
theorem run_logged (command : Command) (s : Session (σ × List Text) ε) :
    (x.logged.run command s).2.state.2 = s.state.2 ++ x.logOf [command] := by
  obtain ⟨connection, dryRun⟩ := x
  cases dryRun with
  | true => exact (List.append_nil _).symm
  | false =>
      dsimp only [run, logOf, logged, Connection.logged]
      rcases connection.execute command.statement s.state.1 with ⟨e | ⟨⟩, state⟩ <;> rfl

/-- What is logged of a list of commands is a beginning of it, and all of it after a success. -/
theorem exists_runAll_logged (commands : List Command) (s : Session (σ × List Text) ε) :
    ∃ ran, ran <+: commands ∧
      (x.logged.runAll commands s).2.state.2 = s.state.2 ++ x.logOf ran ∧
      ((x.logged.runAll commands s).1.isOk = true → ran = commands) := by
  induction commands generalizing s with
  | nil =>
      refine ⟨[], List.prefix_rfl, ?_, fun _ => rfl⟩
      rw [logOf_eq_nil_iff.mpr (.inr rfl), List.append_nil]
      rfl
  | cons command rest ih =>
      have hone := run_logged (x := x) command s
      rcases hrun : x.logged.run command s with ⟨e | record, s₁⟩
      · rw [hrun] at hone
        rw [runAll_cons_of_error hrun]
        exact ⟨[command], List.cons_prefix_cons.mpr ⟨rfl, List.nil_prefix⟩, hone, nofun⟩
      · rw [hrun] at hone
        rw [runAll_cons_of_ok hrun]
        obtain ⟨ran, hprefix, hlog, hall⟩ := ih s₁
        refine ⟨command :: ran, List.cons_prefix_cons.mpr ⟨rfl, hprefix⟩, ?_, fun hok => ?_⟩
        · rw [hlog, hone, List.append_assoc]
          unfold logOf
          split <;> rfl
        · rw [isOk_map] at hok
          rw [hall hok]

/-- Commands that all succeed are all logged. -/
theorem runAll_logged {records : List (Record ε)}
    (h : x.logged.runAll commands s = (.ok records, t)) :
    t.state.2 = s.state.2 ++ x.logOf commands := by
  obtain ⟨ran, -, hlog, hall⟩ := exists_runAll_logged (x := x) commands s
  rw [h] at hlog hall
  rw [hlog, hall rfl]

end Executor

/-- Reading the catalog is not logged. -/
theorem Catalog.readRows_logged {connection : Connection σ ε}
    {read : List Row → Except RowError (List Text)} {query grantee : Text} {type : GranteeType}
    (s : σ) (log : List Text) :
    readRows connection.logged read query grantee type (s, log) =
      ((readRows connection read query grantee type s).1,
        ((readRows connection read query grantee type s).2, log)) := by
  unfold readRows
  dsimp only [Connection.logged]
  rcases connection.query _ _ s with ⟨e | rows, s₁⟩
  · rfl
  · dsimp only
    cases read rows <;> rfl

namespace Pass

/-- Nor is a comparison. -/
theorem compare_logged {connection : Connection σ ε} {spec : Spec} {previouslyManaged : List Text}
    {s s' : σ} {result : Except (OperationError ε) Comparison}
    (h : compare connection spec previouslyManaged s = (result, s')) (log : List Text) :
    compare connection.logged spec previouslyManaged (s, log) = (result, (s', log)) := by
  suffices compare connection.logged spec previouslyManaged (s, log) =
      ((compare connection spec previouslyManaged s).1,
        ((compare connection spec previouslyManaged s).2, log)) by rw [this, h]
  unfold compare Catalog.readPrivileges Catalog.readRoles
  split
  · rfl
  · rw [Catalog.readRows_logged]
    rcases Catalog.readRows connection Catalog.privilegeStrings _ _ _ s with ⟨e | observed, s₁⟩
    · rfl
    · dsimp only
      rw [Catalog.readRows_logged]
      rcases Catalog.readRows connection Catalog.roleStrings _ _ _ s₁ with ⟨e | roles, s₂⟩ <;> rfl

end Pass

/-! ## Where a string is refused -/

/-- The privileges of a grantee that differ are all read and there are some, while one of the roles
that differ is refused. -/
structure Comparison.RefusesLate (c : Comparison) (defaultSchema : Text) : Prop where
  differ : c.privilegeDifference.toAdd ++ c.privilegeDifference.toRemove ≠ []
  readable : ∀ t ∈ c.privilegeDifference.toAdd ++ c.privilegeDifference.toRemove,
    ∃ p, Privilege.parse t defaultSchema = .ok p
  refused : ∃ t ∈ c.roleDifference.toAdd ++ c.roleDifference.toRemove,
    ∃ e, Role.parse t = .error e

namespace Statement

variable {grantee defaultSchema : Text} {toGrant toRevoke : List Text}

/-- There is a plan for privileges if all of its strings are read, and it is empty only without any. -/
theorem exists_planPrivileges_iff :
    (∃ st rest, planPrivileges grantee toGrant toRevoke defaultSchema = .ok (st :: rest)) ↔
      toGrant ++ toRevoke ≠ [] ∧
        ∀ t ∈ toGrant ++ toRevoke, ∃ p, Privilege.parse t defaultSchema = .ok p := by
  constructor
  · rintro ⟨st, rest, hplan⟩
    obtain ⟨ps, qs, hps, hqs, heq⟩ := planPrivileges_eq_ok_iff.mp hplan
    refine ⟨fun hnil => ?_, exists_mapM_append_iff.mp ⟨ps, qs, hps, hqs⟩⟩
    obtain ⟨rfl, rfl⟩ := List.append_eq_nil_iff.mp hnil
    cases hps
    cases hqs
    cases heq
  · rintro ⟨hne, hread⟩
    obtain ⟨ps, qs, hps, hqs⟩ := exists_mapM_append_iff.mpr hread
    have hplan : planPrivileges grantee toGrant toRevoke defaultSchema =
        .ok (ofPrivilegeGrants grantee ps ++ ofPrivilegeRevokes grantee qs) :=
      planPrivileges_eq_ok_iff.mpr ⟨ps, qs, hps, hqs, rfl⟩
    -- the statements name what is read, and something is
    obtain ⟨t, ht⟩ := List.exists_mem_of_ne_nil _ hne
    have hsome : ofPrivilegeGrants grantee ps ++ ofPrivilegeRevokes grantee qs ≠ [] := by
      rcases List.mem_append.mp ht with ht | ht
      · obtain ⟨p, hp, -⟩ := exists_of_mapM_eq_ok hps ht
        obtain ⟨st, hst, -⟩ := exists_grants_ofPrivilegeGrants.mpr hp
        exact List.ne_nil_of_mem (List.mem_append_left _ hst)
      · obtain ⟨q, hq, -⟩ := exists_of_mapM_eq_ok hqs ht
        obtain ⟨st, hst, -⟩ := exists_revokes_ofPrivilegeRevokes.mpr ⟨q, hq, rfl, rfl, rfl⟩
        exact List.ne_nil_of_mem (List.mem_append_right _ hst)
    obtain ⟨st, rest, heq⟩ := List.exists_cons_of_ne_nil hsome
    rw [heq] at hplan
    exact ⟨st, rest, hplan⟩

/-- There is a plan for roles if all of its strings are read. -/
theorem exists_planRoles_iff :
    (∃ statements, planRoles grantee toGrant toRevoke = .ok statements) ↔
      ∀ t ∈ toGrant ++ toRevoke, ∃ r, Role.parse t = .ok r := by
  rw [← exists_mapM_append_iff]
  constructor
  · rintro ⟨statements, hplan⟩
    obtain ⟨rs, ts, hrs, hts, -⟩ := planRoles_eq_ok_iff.mp hplan
    exact ⟨rs, ts, hrs, hts⟩
  · rintro ⟨rs, ts, hrs, hts⟩
    exact ⟨_, planRoles_eq_ok_iff.mpr ⟨rs, ts, hrs, hts, rfl⟩⟩

/-- There is none if one of them is refused. -/
theorem exists_planRoles_error_iff :
    (∃ e, planRoles grantee toGrant toRevoke = .error e) ↔
      ∃ t ∈ toGrant ++ toRevoke, ∃ e, Role.parse t = .error e := by
  simp only [exists_error_iff, exists_planRoles_iff, not_forall, exists_prop]

end Statement

/-- A role is refused too late exactly if the privileges have a plan with a statement in it and the
roles have none. -/
theorem Comparison.refusesLate_iff {c : Comparison} {grantee defaultSchema : Text} :
    c.RefusesLate defaultSchema ↔
      (∃ st rest, Statement.planPrivileges grantee c.privilegeDifference.toAdd
        c.privilegeDifference.toRemove defaultSchema = .ok (st :: rest)) ∧
      ∃ e, Statement.planRoles grantee c.roleDifference.toAdd c.roleDifference.toRemove =
        .error e := by
  rw [Statement.exists_planPrivileges_iff, Statement.exists_planRoles_error_iff]
  exact ⟨fun h => ⟨⟨h.differ, h.readable⟩, h.refused⟩, fun h => ⟨h.1.1, h.1.2, h.2⟩⟩

namespace Pass

variable {x : Executor σ ε} {spec : Spec} {previouslyManaged : List Text}

/-- A desired string that is refused changes nothing: no query is run and nothing is recorded. -/
theorem reconcile_of_unreadable {e : ParseError} (h : spec.desiredGrants = .error e)
    (s : Session σ ε) :
    reconcile x spec previouslyManaged s = (.error (.parse e), s) := by
  have hcompare : compare x.connection spec previouslyManaged s.state =
      (.error (.parse e), s.state) := by
    rw [compare, h]
  rw [reconcile, hcompare]

/-- A pass in which a string is refused stops before it has a comparison, before the first statement,
or after the statements for privileges and before those for roles. -/
theorem exists_of_reconcile_parse_error {e : ParseError} {s t : Session σ ε}
    (h : reconcile x spec previouslyManaged s = (.error (.parse e), t)) :
    (compare x.connection spec previouslyManaged s.state = (.error (.parse e), t.state)) ∨
    ∃ c s', compare x.connection spec previouslyManaged s.state = (.ok c, s') ∧
      ((Statement.planPrivileges spec.grantee c.privilegeDifference.toAdd
          c.privilegeDifference.toRemove spec.defaultSchema = .error e ∧ t.state = s') ∨
        ∃ statements records, Statement.planPrivileges spec.grantee c.privilegeDifference.toAdd
            c.privilegeDifference.toRemove spec.defaultSchema = .ok statements ∧
          x.runAll (statements.map Statement.command) ⟨s', s.records⟩ = (.ok records, t) ∧
          Statement.planRoles spec.grantee c.roleDifference.toAdd c.roleDifference.toRemove =
            .error e) := by
  rcases hcompare : compare x.connection spec previouslyManaged s.state with ⟨e' | c, s'⟩
  · rw [reconcile, hcompare] at h
    cases h
    exact .inl rfl
  · refine .inr ⟨c, s', rfl, ?_⟩
    obtain ⟨D, DR, O, OR, s₁, -, -, -, rfl⟩ := compare_eq_ok_iff.mp hcompare
    simp only [Comparison.ofGrants] at hcompare ⊢
    simp only [reconcile, hcompare, updatePrivileges_eq_runPlan, updateRoles_eq_runPlan] at h
    generalize hprivileges : Statement.planPrivileges _ _ _ _ = privileges at h ⊢
    generalize hroles : Statement.planRoles _ _ _ = roles at h ⊢
    cases privileges with
    | error e' =>
        cases h
        exact .inl ⟨rfl, rfl⟩
    | ok statements =>
        rw [Executor.runPlan_ok] at h
        rcases hrun : x.runAll (statements.map Statement.command) ⟨s', s.records⟩ with
          ⟨e' | records, t'⟩
        · rw [hrun] at h
          cases h
        · rw [hrun] at h
          cases roles with
          | error e' =>
              cases h
              exact .inr ⟨statements, records, rfl, hrun, rfl⟩
          | ok roleStatements =>
              dsimp only [Except.mapError] at h
              rw [Executor.runPlan_ok] at h
              rcases hsecond : x.runAll (roleStatements.map Statement.command) t' with
                ⟨e' | more, t''⟩ <;>
              · rw [hsecond] at h
                cases h

/-- A pass whose privileges are changed and whose roles have no plan stops there. -/
theorem reconcile_of_refused_role {c : Comparison} {s' : σ} {s t : Session σ ε} {e : ParseError}
    {statements : List Statement} {records : List (Record ε)}
    (hcompare : compare x.connection spec previouslyManaged s.state = (.ok c, s'))
    (hplan : Statement.planPrivileges spec.grantee c.privilegeDifference.toAdd
      c.privilegeDifference.toRemove spec.defaultSchema = .ok statements)
    (hrun : x.runAll (statements.map Statement.command) ⟨s', s.records⟩ = (.ok records, t))
    (hroles : Statement.planRoles spec.grantee c.roleDifference.toAdd c.roleDifference.toRemove =
      .error e) :
    reconcile x spec previouslyManaged s = (.error (.parse e), t) := by
  obtain ⟨_, _, _, _, _, -, -, -, rfl⟩ := compare_eq_ok_iff.mp hcompare
  dsimp only [Comparison.ofGrants] at hcompare hplan hroles
  simp only [reconcile, hcompare, updatePrivileges_eq_runPlan, updateRoles_eq_runPlan, hplan,
    Executor.runPlan_ok, hrun, hroles]
  rfl

/-- A pass in which a string is refused has run nothing exactly if it was a dry run, or if it is not a
role that was refused after the privileges had been changed. -/
theorem untouched_iff {e : ParseError} {s : σ} {log : List Text} {records : List (Record ε)}
    {t : Session (σ × List Text) ε}
    (h : reconcile x.logged spec previouslyManaged ⟨(s, log), records⟩ = (.error (.parse e), t)) :
    t.state.2 = log ↔ x.dryRun = true ∨
      ∀ c s', compare x.connection spec previouslyManaged s = (.ok c, s') →
        ¬ c.RefusesLate spec.defaultSchema := by
  rcases hcompare : compare x.connection spec previouslyManaged s with ⟨result, s'⟩
  have hlogged : compare x.logged.connection spec previouslyManaged (s, log) =
      (result, (s', log)) := compare_logged hcompare log
  rcases exists_of_reconcile_parse_error h with herror | ⟨c, _, hc, hcases⟩
  · -- there is no comparison
    rw [hlogged, Prod.mk.injEq] at herror
    obtain ⟨rfl, hstate⟩ := herror
    exact iff_of_true (by rw [← hstate]) (.inr nofun)
  · rw [hlogged, Prod.mk.injEq] at hc
    obtain ⟨rfl, rfl⟩ := hc
    rcases hcases with ⟨hplan, hstate⟩ | ⟨statements, ran, hplan, hrun, hroles⟩
    · refine iff_of_true (by rw [hstate]) (.inr fun c' s'' hc hlate => ?_)
      cases hc
      obtain ⟨⟨st, rest, hsome⟩, -⟩ := Comparison.refusesLate_iff.mp hlate
      rw [hplan] at hsome
      cases hsome
    · have hlog : t.state.2 = log ++ x.logOf (statements.map Statement.command) :=
        Executor.runAll_logged hrun
      rw [hlog, List.append_right_eq_self, Executor.logOf_eq_nil_iff, List.map_eq_nil_iff]
      refine or_congr_right ⟨?_, fun hnone => ?_⟩
      · rintro rfl c' s'' hc hlate
        cases hc
        obtain ⟨⟨st, rest, hsome⟩, -⟩ := Comparison.refusesLate_iff.mp hlate
        rw [hplan] at hsome
        cases hsome
      · by_contra hne
        obtain ⟨st, rest, rfl⟩ := List.exists_cons_of_ne_nil hne
        exact hnone c s' rfl (Comparison.refusesLate_iff.mpr ⟨⟨st, rest, hplan⟩, e, hroles⟩)

/-- A role with one system privilege and nothing else. -/
def auditor : Spec :=
  ⟨"AUDITOR".toList, .role, "AUDITOR".toList, .strict, ["CATALOG READ".toList], [], false⟩

/-- The database in which a grantee holds one role, which it may pass on. -/
def oneRole (name : Text) : Connection Unit Empty :=
  .ofTables (fun _ => []) (fun _ => [[.null, .text name, .text "TRUE".toList]]) fun _ s => s

/-- A held role whose name has two lines is refused, but no privilege has been changed. -/
theorem untouched_without_privileges :
    ∃ e t, reconcile (Executor.logged ⟨oneRole "A\nB".toList, false⟩)
        { auditor with privileges := [] } [] ⟨((), []), []⟩ = (.error (.parse e), t) ∧
      t.state.2 = [] := by
  have hcompare : compare (oneRole "A\nB".toList) { auditor with privileges := [] } [] () =
      (.ok (Comparison.ofGrants { auditor with privileges := [] } [] [] [] []
        ["\"A\nB\" WITH ADMIN OPTION".toList]), ()) :=
    compare_ofTables (by decide) (by decide) (by decide)
  have hrefused : reconcile (Executor.logged ⟨oneRole "A\nB".toList, false⟩)
      { auditor with privileges := [] } [] ⟨((), []), []⟩ =
        (.error (.parse (.grammar (.unknownRole "\"A\nB\" WITH ADMIN OPTION".toList))),
          ⟨((), []), []⟩) :=
    reconcile_of_refused_role (compare_logged hcompare []) rfl rfl (by decide)
  refine ⟨_, _, hrefused, (untouched_iff hrefused).mpr (.inr fun c s' hc hlate => ?_)⟩
  rw [hcompare] at hc
  cases hc
  exact hlate.differ rfl

/-- A held role whose name has two lines is refused after a privilege has been granted. -/
theorem grants_before_role_is_refused :
    ∃ raw t, reconcile (Executor.logged ⟨oneRole "A\nB".toList, false⟩) auditor [] ⟨((), []), []⟩ =
        (.error (.parse (.grammar (.unknownRole raw))), t) ∧
      t.state.2 = ["GRANT CATALOG READ TO AUDITOR".toList] := by
  have hcompare : compare (oneRole "A\nB".toList) auditor [] () =
      (.ok (Comparison.ofGrants auditor [] ["CATALOG READ".toList] [] []
        ["\"A\nB\" WITH ADMIN OPTION".toList]), ()) :=
    compare_ofTables (by decide) (by decide) (by decide)
  have hplan : Statement.planPrivileges auditor.grantee ["CATALOG READ".toList] []
      auditor.defaultSchema =
        .ok [.grantPrivilegeBatch ⟨.system, [], false, ["CATALOG READ".toList]⟩ "AUDITOR".toList] := by
    decide
  have hroles : Statement.planRoles auditor.grantee [] ["\"A\nB\" WITH ADMIN OPTION".toList] =
      .error (.grammar (.unknownRole "\"A\nB\" WITH ADMIN OPTION".toList)) := by decide
  exact ⟨_, _, reconcile_of_refused_role (compare_logged hcompare []) hplan rfl hroles, rfl⟩

end Pass

end AccessGrants
