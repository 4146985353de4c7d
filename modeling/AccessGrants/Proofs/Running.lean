import AccessGrants.Proofs.Comparing
import AccessGrants.Proofs.Planning

/-!
# Passes and their plans

A pass plans and runs the privileges before it plans the roles, while a plan is made as a whole.
What a pass runs is a beginning of its plan all the same.

* `Executor.run_of_ok`, `Executor.run_of_error`: what one command comes to.
* `Executor.runAll_records`, `Executor.runPlan_records`: what is recorded of a list of commands is a
  beginning of it, and all of it after a success.
* `Pass.plan_eq_ok_iff`: when a pass has a plan, and which.
* `Pass.reconcile_of_plan`: a pass that has a plan runs its two halves one after the other.
* `Pass.reconcile_records`: what a pass that has a plan records.
* `Pass.reconcile_of_equal`: a pass that finds no difference runs nothing.
-/

namespace AccessGrants

variable {σ ε : Type}

/-! ## Running commands -/

namespace Executor

variable {x : Executor σ ε} {command : Command} {rest : List Command} {s s₁ : Session σ ε}

/-- A command that the connection runs is recorded as a success. -/
theorem run_of_ok {t : σ} (hrun : x.dryRun = false)
    (h : x.connection.execute command.statement s.state = (.ok (), t)) :
    x.run command s = (.ok (succeeded command), ⟨t, s.records ++ [succeeded command]⟩) := by
  simp [run, hrun, h]

/-- A command at which the connection fails is recorded as a failure. -/
theorem run_of_error {e : ε} {t : σ} (hrun : x.dryRun = false)
    (h : x.connection.execute command.statement s.state = (.error e, t)) :
    x.run command s = (.error e, ⟨t, s.records ++ [x.failed command e]⟩) := by
  simp [run, hrun, h]

/-- A command that fails ends a list. -/
theorem runAll_cons_of_error {e : ε} (h : x.run command s = (.error e, s₁)) :
    x.runAll (command :: rest) s = (.error e, s₁) := by
  simp only [runAll, h]

/-- After a command that succeeds the list goes on. -/
theorem runAll_cons_of_ok {record : Record ε} (h : x.run command s = (.ok record, s₁)) :
    x.runAll (command :: rest) s =
      ((x.runAll rest s₁).1.map (record :: ·), (x.runAll rest s₁).2) := by
  simp only [runAll, h]
  rcases x.runAll rest s₁ with ⟨_ | _, _⟩ <;> rfl

/-- Running a plan is running its commands. -/
theorem runPlan_ok (statements : List Statement) :
    x.runPlan (.ok statements) s =
      ((x.runAll (statements.map Statement.command) s).1.mapError .connection,
        (x.runAll (statements.map Statement.command) s).2) := by
  simp only [runPlan]
  rcases x.runAll (statements.map Statement.command) s with ⟨_ | _, _⟩ <;> rfl

/-- Running one command records it, whether or not it succeeds. -/
theorem run_records (command : Command) (s : Session σ ε) :
    (x.run command s).2.records.map Record.command = s.records.map Record.command ++ [command] := by
  unfold run
  split
  · simp [planned]
  · split <;> simp [succeeded, failed]

/-- What is recorded of a list of commands is a beginning of it, and all of it after a success. -/
theorem runAll_records (commands : List Command) (s : Session σ ε) :
    ∃ ran, ran <+: commands ∧
      (x.runAll commands s).2.records.map Record.command = s.records.map Record.command ++ ran ∧
      ((x.runAll commands s).1.isOk = true → ran = commands) := by
  induction commands generalizing s with
  | nil => exact ⟨[], List.prefix_rfl, by simp [runAll], fun _ => rfl⟩
  | cons command rest ih =>
      have hone := run_records (x := x) command s
      rcases hrun : x.run command s with ⟨e | record, s₁⟩
      · rw [hrun] at hone
        rw [runAll_cons_of_error hrun]
        exact ⟨[command], List.cons_prefix_cons.mpr ⟨rfl, List.nil_prefix⟩, hone, nofun⟩
      · rw [hrun] at hone
        rw [runAll_cons_of_ok hrun]
        obtain ⟨ran, hprefix, hrecords, hall⟩ := ih s₁
        refine ⟨command :: ran, List.cons_prefix_cons.mpr ⟨rfl, hprefix⟩, ?_, fun hok => ?_⟩
        · rw [hrecords, hone, List.append_assoc, List.singleton_append]
        · rw [isOk_map] at hok
          rw [hall hok]

/-- What is recorded of a plan is a beginning of it, and all of it after a success. -/
theorem runPlan_records (statements : List Statement) (s : Session σ ε) :
    ∃ ran, ran <+: statements ∧
      (x.runPlan (.ok statements) s).2.records.map Record.command =
        s.records.map Record.command ++ ran.map Statement.command ∧
      ((x.runPlan (.ok statements) s).1.isOk = true → ran = statements) := by
  obtain ⟨commands, hprefix, hrecords, hall⟩ :=
    runAll_records (x := x) (statements.map Statement.command) s
  obtain ⟨ran, hran, rfl⟩ := List.prefix_map_iff.mp hprefix
  rw [runPlan_ok]
  refine ⟨ran, hran, hrecords, fun hok => ?_⟩
  have hcommands : ran.map Statement.command = statements.map Statement.command := by
    rw [isOk_mapError] at hok
    exact hall hok
  exact hran.eq_of_length (by simpa using congrArg List.length hcommands)

end Executor

/-! ## Passes -/

namespace Pass

/-- A pass has a plan if it finds a comparison of which all strings to change are read. -/
theorem plan_eq_ok_iff {connection : Connection σ ε} {spec : Spec} {previouslyManaged : List Text}
    {s s' : σ} {statements : List Statement} :
    plan connection spec previouslyManaged s = (.ok statements, s') ↔
      ∃ c, compare connection spec previouslyManaged s = (.ok c, s') ∧
        Statement.planUpdate spec.grantee spec.defaultSchema c.privilegeDifference.toAdd
          c.privilegeDifference.toRemove c.roleDifference.toAdd c.roleDifference.toRemove =
            .ok statements := by
  unfold plan
  constructor
  · intro h
    split at h
    · cases h
    · next hcompare =>
      split at h
      · cases h
      · next hplan =>
        cases h
        exact ⟨_, hcompare, hplan⟩
  · rintro ⟨c, hcompare, hplan⟩
    simp only [hcompare, hplan]

/-- Without a difference there is nothing to plan, so that a change of privileges is always the run
of their plan. -/
theorem updatePrivileges_eq_runPlan {x : Executor σ ε} {spec : Spec} {desired observed : List Text}
    {s : Session σ ε} :
    updatePrivileges x spec (Difference.between desired observed) s =
      x.runPlan (Statement.planPrivileges spec.grantee (Difference.between desired observed).toAdd
        (Difference.between desired observed).toRemove spec.defaultSchema) s := by
  unfold updatePrivileges
  split
  · next hequal =>
    obtain ⟨hadd, hremove⟩ := Difference.nil_of_equal_between hequal
    rw [hadd, hremove]
    rfl
  · rfl

/-- A change of roles is always the run of their plan. -/
theorem updateRoles_eq_runPlan {x : Executor σ ε} {spec : Spec} {desired observed : List Text}
    {s : Session σ ε} :
    updateRoles x spec (Difference.between desired observed) s =
      x.runPlan (Statement.planRoles spec.grantee (Difference.between desired observed).toAdd
        (Difference.between desired observed).toRemove) s := by
  unfold updateRoles
  split
  · next hequal =>
    obtain ⟨hadd, hremove⟩ := Difference.nil_of_equal_between hequal
    rw [hadd, hremove]
    rfl
  · rfl

/-- A pass that has a plan runs its privileges and then, unless that fails, its roles. -/
theorem reconcile_of_plan {x : Executor σ ε} {spec : Spec} {previouslyManaged : List Text}
    {s s' : σ} {statements : List Statement}
    (h : plan x.connection spec previouslyManaged s = (.ok statements, s'))
    (records : List (Record ε)) :
    ∃ c privileges roles, compare x.connection spec previouslyManaged s = (.ok c, s') ∧
      statements = privileges ++ roles ∧
      reconcile x spec previouslyManaged ⟨s, records⟩ =
        match x.runPlan (.ok privileges) ⟨s', records⟩ with
        | (.error e, t) => (.error e, t)
        | (.ok privilegeRecords, t) =>
          match x.runPlan (.ok roles) t with
          | (.error e, t) => (.error e, t)
          | (.ok roleRecords, t) => (.ok ⟨c, privilegeRecords ++ roleRecords⟩, t) := by
  obtain ⟨c, hcompare, hplan⟩ := plan_eq_ok_iff.mp h
  obtain ⟨privileges, roles, hprivileges, hroles, rfl⟩ := Statement.planUpdate_eq_ok_iff.mp hplan
  refine ⟨c, privileges, roles, hcompare, rfl, ?_⟩
  obtain ⟨D, DR, O, OR, s₁, -, -, -, rfl⟩ := compare_eq_ok_iff.mp hcompare
  simp only [Comparison.ofGrants] at hprivileges hroles hcompare
  simp only [reconcile, hcompare, updatePrivileges_eq_runPlan, updateRoles_eq_runPlan,
    hprivileges, hroles]
  rfl

/-- What a pass that has a plan records is a beginning of the plan, and all of it after a success. -/
theorem reconcile_records {x : Executor σ ε} {spec : Spec} {previouslyManaged : List Text}
    {s s' : σ} {statements : List Statement}
    (h : plan x.connection spec previouslyManaged s = (.ok statements, s'))
    (records : List (Record ε)) :
    ∃ ran, ran <+: statements ∧
      (reconcile x spec previouslyManaged ⟨s, records⟩).2.records.map Record.command =
        records.map Record.command ++ ran.map Statement.command ∧
      ((reconcile x spec previouslyManaged ⟨s, records⟩).1.isOk = true → ran = statements) := by
  obtain ⟨c, privileges, roles, -, rfl, hreconcile⟩ := reconcile_of_plan h records
  rw [hreconcile]
  obtain ⟨ran, hran, hrecords, hall⟩ :=
    Executor.runPlan_records (x := x) privileges ⟨s', records⟩
  rcases hfirst : x.runPlan (.ok privileges) ⟨s', records⟩ with ⟨e | privilegeRecords, t⟩
  · rw [hfirst] at hrecords
    exact ⟨ran, hran.trans (List.prefix_append _ _), hrecords, nofun⟩
  · rw [hfirst] at hrecords hall
    rw [hall rfl] at hrecords
    obtain ⟨ran, hran, hmore, hall⟩ := Executor.runPlan_records (x := x) roles t
    -- the roles are run after all of the privileges
    have hboth : (x.runPlan (.ok roles) t).2.records.map Record.command =
        records.map Record.command ++ (privileges ++ ran).map Statement.command := by
      rw [hmore, hrecords, List.map_append, List.append_assoc]
    refine ⟨privileges ++ ran, (List.prefix_append_right_inj _).mpr hran, ?_⟩
    dsimp only
    rcases hsecond : x.runPlan (.ok roles) t with ⟨e | roleRecords, t'⟩
    · rw [hsecond] at hboth
      exact ⟨hboth, nofun⟩
    · rw [hsecond] at hboth hall
      exact ⟨hboth, fun _ => by rw [hall rfl]⟩

/-- A pass that finds no difference runs nothing. -/
theorem reconcile_of_equal {x : Executor σ ε} {spec : Spec} {previouslyManaged : List Text}
    {s s' : σ} {c : Comparison}
    (h : compare x.connection spec previouslyManaged s = (.ok c, s'))
    (hprivileges : c.privilegeDifference.equal = true) (hroles : c.roleDifference.equal = true)
    (records : List (Record ε)) :
    reconcile x spec previouslyManaged ⟨s, records⟩ = (.ok ⟨c, []⟩, ⟨s', records⟩) ∧
      c.changed = false := by
  refine ⟨?_, by simp [Comparison.changed, hprivileges, hroles]⟩
  simp [reconcile, h, updatePrivileges, updateRoles, hprivileges, hroles]

end Pass

end AccessGrants
