import AccessGrants.Proofs.Running

/-!
# What a pass takes away

A pass grants before it revokes, and a revoke carries no option. So a desired grant is taken away
when the pass owns an observed one that is written otherwise and names the same: the option alone
may make the difference.

* `Comparison.KeptBy`: no statement of a list revokes what is desired.
* `Comparison.Clashes`: an observed grant to remove names a desired one.
* `Comparison.keptBy_iff`: a plan keeps what is desired exactly if nothing clashes.
* `Pass.keeps_desired_iff`: the same of the statements that a pass runs.
-/

namespace AccessGrants

namespace Comparison

/-! ## Desired grants and observed ones -/

/-- No statement of a list revokes a desired privilege or a desired role, with or without its
option. -/
def KeptBy (c : Comparison) (defaultSchema : Text) (statements : List Statement) : Prop :=
  (∀ x ∈ c.desiredPrivileges, ∀ p, Privilege.parse x defaultSchema = .ok p →
    ∀ st ∈ statements, ¬ st.Revokes p) ∧
  ∀ x ∈ c.desiredRoles, ∀ r, Role.parse x = .ok r → ∀ st ∈ statements, ¬ st.RevokesRole r

/-- An observed privilege that the pass owns is not desired as it is written, but with or without
its option it is. -/
def PrivilegeClashes (c : Comparison) (defaultSchema : Text) : Prop :=
  ∃ x ∈ c.desiredPrivileges, ∃ y ∈ c.ownedPrivileges, y ∉ c.desiredPrivileges ∧
    ∃ p q, Privilege.parse x defaultSchema = .ok p ∧ Privilege.parse y defaultSchema = .ok q ∧
      q.SameGrant p

/-- An observed role is not desired as it is written, but with or without its option it is. -/
def RoleClashes (c : Comparison) : Prop :=
  ∃ x ∈ c.desiredRoles, ∃ y ∈ c.observedRoles, y ∉ c.desiredRoles ∧
    ∃ r s, Role.parse x = .ok r ∧ Role.parse y = .ok s ∧ s.SameGrant r

/-- A desired grant clashes with an observed one. -/
def Clashes (c : Comparison) (defaultSchema : Text) : Prop :=
  c.PrivilegeClashes defaultSchema ∨ c.RoleClashes

/-- What a list of statements keeps, its beginnings keep. -/
theorem KeptBy.of_beginning {c : Comparison} {defaultSchema : Text} {ran statements : List Statement}
    (h : c.KeptBy defaultSchema statements) (hran : ran <+: statements) :
    c.KeptBy defaultSchema ran :=
  ⟨fun x hx p hp st hst => h.1 x hx p hp st (hran.subset hst),
    fun x hx r hr st hst => h.2 x hx r hr st (hran.subset hst)⟩

/-! ## Clashes decide -/

section ofGrants

variable {spec : Spec} {previouslyManaged : List Text}
  {desiredPrivileges desiredRoles observedPrivileges observedRoles : List Text}
  {statements : List Statement} {c : Comparison}

/-- A plan revokes a desired privilege exactly if a privilege clashes. -/
theorem exists_revokes_desired_iff
    (hc : c = ofGrants spec previouslyManaged desiredPrivileges desiredRoles observedPrivileges
      observedRoles)
    (hplan : Statement.planUpdate spec.grantee spec.defaultSchema c.privilegeDifference.toAdd
      c.privilegeDifference.toRemove c.roleDifference.toAdd c.roleDifference.toRemove =
        .ok statements) :
    (∃ x ∈ c.desiredPrivileges, ∃ p, Privilege.parse x spec.defaultSchema = .ok p ∧
      ∃ st ∈ statements, st.Revokes p) ↔ c.PrivilegeClashes spec.defaultSchema := by
  have hremove : ∀ y, y ∈ c.privilegeDifference.toRemove ↔
      y ∈ c.ownedPrivileges ∧ y ∉ c.desiredPrivileges := by
    intro y
    rw [hc]
    exact Difference.mem_toRemove_between
  simp only [Statement.exists_revokes_iff hplan, hremove]
  constructor
  · rintro ⟨x, hx, p, hp, y, ⟨hy, hnew⟩, q, hq, hsame⟩
    exact ⟨x, hx, y, hy, hnew, p, q, hp, hq, hsame⟩
  · rintro ⟨x, hx, y, hy, hnew, p, q, hp, hq, hsame⟩
    exact ⟨x, hx, p, hp, y, ⟨hy, hnew⟩, q, hq, hsame⟩

/-- A plan revokes a desired role exactly if a role clashes. -/
theorem exists_revokesRole_desired_iff
    (hc : c = ofGrants spec previouslyManaged desiredPrivileges desiredRoles observedPrivileges
      observedRoles)
    (hplan : Statement.planUpdate spec.grantee spec.defaultSchema c.privilegeDifference.toAdd
      c.privilegeDifference.toRemove c.roleDifference.toAdd c.roleDifference.toRemove =
        .ok statements) :
    (∃ x ∈ c.desiredRoles, ∃ r, Role.parse x = .ok r ∧ ∃ st ∈ statements, st.RevokesRole r) ↔
      c.RoleClashes := by
  have hremove : ∀ y, y ∈ c.roleDifference.toRemove ↔
      y ∈ c.observedRoles ∧ y ∉ c.desiredRoles := by
    intro y
    rw [hc]
    exact Difference.mem_toRemove_between
  simp only [Statement.exists_revokesRole_iff hplan, hremove]
  constructor
  · rintro ⟨x, hx, r, hr, y, ⟨hy, hnew⟩, s, hs, hsame⟩
    exact ⟨x, hx, y, hy, hnew, r, s, hr, hs, hsame⟩
  · rintro ⟨x, hx, y, hy, hnew, r, s, hr, hs, hsame⟩
    exact ⟨x, hx, r, hr, y, ⟨hy, hnew⟩, s, hs, hsame⟩

/-- A plan keeps what is desired exactly if nothing clashes. -/
theorem keptBy_iff
    (hc : c = ofGrants spec previouslyManaged desiredPrivileges desiredRoles observedPrivileges
      observedRoles)
    (hplan : Statement.planUpdate spec.grantee spec.defaultSchema c.privilegeDifference.toAdd
      c.privilegeDifference.toRemove c.roleDifference.toAdd c.roleDifference.toRemove =
        .ok statements) :
    c.KeptBy spec.defaultSchema statements ↔ ¬ c.Clashes spec.defaultSchema := by
  unfold Clashes KeptBy
  rw [not_or, ← exists_revokes_desired_iff hc hplan, ← exists_revokesRole_desired_iff hc hplan]
  simp only [not_exists, not_and]

end ofGrants

end Comparison

/-! ## The pass -/

namespace Pass

variable {σ ε : Type}

/-- A pass that has a plan keeps what is desired exactly if nothing clashes, and so do the
statements that it runs: they are a beginning of the plan, and all of it after a success. -/
theorem keeps_desired_iff {x : Executor σ ε} {spec : Spec} {previouslyManaged : List Text}
    {s s' : σ} {statements : List Statement}
    (h : plan x.connection spec previouslyManaged s = (.ok statements, s'))
    (records : List (Record ε)) :
    ∃ c ran, compare x.connection spec previouslyManaged s = (.ok c, s') ∧
      (c.KeptBy spec.defaultSchema statements ↔ ¬ c.Clashes spec.defaultSchema) ∧
      ran <+: statements ∧
      (reconcile x spec previouslyManaged ⟨s, records⟩).2.records.map Record.command =
        records.map Record.command ++ ran.map Statement.command ∧
      ((reconcile x spec previouslyManaged ⟨s, records⟩).1.isOk = true → ran = statements) ∧
      (¬ c.Clashes spec.defaultSchema → c.KeptBy spec.defaultSchema ran) := by
  obtain ⟨c, hcompare, hplan⟩ := plan_eq_ok_iff.mp h
  obtain ⟨_, _, _, _, _, -, -, -, hc⟩ := compare_eq_ok_iff.mp hcompare
  obtain ⟨ran, hran, hrecords, hall⟩ := reconcile_records h records
  have hkept := Comparison.keptBy_iff hc hplan
  refine ⟨c, ran, hcompare, hkept, hran, hrecords, hall, fun hfree => ?_⟩
  exact (hkept.mpr hfree).of_beginning hran

/-- A role that should hold one privilege on a schema, without the option. -/
def reporter : Spec :=
  ⟨"REPORTER".toList, .role, "REPORTER".toList, .strict, ["SELECT ON SCHEMA X".toList], [], false⟩

/-- The database in which a grantee holds one privilege on the schema of `reporter`. -/
def oneGrant (privilege grantable : Text) : Connection Unit Empty :=
  .ofTables (fun _ => [[.text "SCHEMA".toList, .text privilege, .text "X".toList, .null,
    .text grantable]]) (fun _ => []) (fun _ s => s)

/-- A pass that replaces a privilege by another one. -/
theorem keeps_desired_of_replacement :
    ∃ statements c ran,
      plan (oneGrant "INSERT".toList "FALSE".toList) reporter [] () = (.ok statements, ()) ∧
      compare (oneGrant "INSERT".toList "FALSE".toList) reporter [] () = (.ok c, ()) ∧
      (c.KeptBy reporter.defaultSchema statements ↔ ¬ c.Clashes reporter.defaultSchema) ∧
      ran <+: statements ∧
      (reconcile ⟨oneGrant "INSERT".toList "FALSE".toList, false⟩ reporter []
        ⟨(), []⟩).2.records.map Record.command = ran.map Statement.command ∧
      (¬ c.Clashes reporter.defaultSchema → c.KeptBy reporter.defaultSchema ran) := by
  have hcompare : compare (oneGrant "INSERT".toList "FALSE".toList) reporter [] () =
      (.ok (Comparison.ofGrants reporter [] ["SELECT ON SCHEMA X".toList] []
        ["INSERT ON SCHEMA X".toList] []), ()) :=
    compare_ofTables (by decide) (by decide) (by decide)
  have hplan : plan (oneGrant "INSERT".toList "FALSE".toList) reporter [] () =
      (.ok [.grantPrivilegeBatch ⟨.schema, "X".toList, false, ["SELECT".toList]⟩ "REPORTER".toList,
        .revokePrivilegeBatch ⟨.schema, "X".toList, false, ["INSERT".toList]⟩ "REPORTER".toList],
        ()) :=
    plan_eq_ok_iff.mpr ⟨_, hcompare, by decide⟩
  obtain ⟨c, ran, hc, hkept, hran, hrecords, -, hfree⟩ :=
    keeps_desired_iff (x := ⟨oneGrant "INSERT".toList "FALSE".toList, false⟩) hplan []
  exact ⟨_, c, ran, hplan, hc, hkept, hran, hrecords, hfree⟩

/-- A pass that finds the desired privilege with the option grants it and then takes it away. -/
theorem revokes_desired_held_with_option :
    ∃ c statements,
      compare (oneGrant "SELECT".toList "TRUE".toList) reporter [] () = (.ok c, ()) ∧
      plan (oneGrant "SELECT".toList "TRUE".toList) reporter [] () = (.ok statements, ()) ∧
      statements.map Statement.text =
        ["GRANT SELECT ON SCHEMA X TO REPORTER".toList,
          "REVOKE SELECT ON SCHEMA X FROM REPORTER".toList] ∧
      ¬ c.KeptBy reporter.defaultSchema statements := by
  have hcompare : compare (oneGrant "SELECT".toList "TRUE".toList) reporter [] () =
      (.ok (Comparison.ofGrants reporter [] ["SELECT ON SCHEMA X".toList] []
        ["SELECT ON SCHEMA X WITH GRANT OPTION".toList] []), ()) :=
    compare_ofTables (by decide) (by decide) (by decide)
  have hplan : plan (oneGrant "SELECT".toList "TRUE".toList) reporter [] () =
      (.ok [.grantPrivilegeBatch ⟨.schema, "X".toList, false, ["SELECT".toList]⟩ "REPORTER".toList,
        .revokePrivilegeBatch ⟨.schema, "X".toList, true, ["SELECT".toList]⟩ "REPORTER".toList],
        ()) :=
    plan_eq_ok_iff.mpr ⟨_, hcompare, by decide⟩
  refine ⟨_, _, hcompare, hplan, by decide, fun hkept => ?_⟩
  -- the second statement revokes what the only desired string says
  refine hkept.1 "SELECT ON SCHEMA X".toList List.mem_cons_self
    ⟨.schema, "SELECT".toList, "X".toList, false⟩ (by decide) _
    (List.mem_cons_of_mem _ List.mem_cons_self) ?_
  exact ⟨⟨.schema, "SELECT".toList, "X".toList, true⟩, List.mem_cons_self, rfl, rfl, rfl⟩

end Pass

end AccessGrants
