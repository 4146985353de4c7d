import AccessGrants.Proofs.Baselines
import AccessGrants.Proofs.Keeping

/-!
# The schema that a user is taken to own

A strict pass adds the baseline to what an unrestricted user should hold. The baseline is on the
default schema, which is the user's own schema only if no other is given: a default schema is also
where objects without a schema are placed. So the user is taken to own a schema that it may just read
from, and its own baseline counts as a grant that nobody asked for.

* `Spec.Lists`: what a specification asks for.
* `Spec.mem_desired_iff`: what is desired is listed or the baseline of the default schema.
* `Spec.AssumesOwnSchema`: nothing but the user's own baseline is desired beyond what is listed, and
  that baseline is.
* `Spec.assumesOwnSchema_iff`: when this holds; `Pass.baseline_on_own_schema_iff`: and what a pass
  does then.
-/

namespace AccessGrants

/-- With a missing grant string put in, a list has that one and its own. -/
theorem ManagementPolicy.mem_insertMissing {x y : Text} {xs : List Text} :
    y ∈ insertMissing x xs ↔ y ∈ xs ∨ y = x := by
  unfold insertMissing
  split
  · next hx =>
    constructor
    · exact .inl
    · rintro (hy | rfl)
      · exact hy
      · exact hx
  · rw [List.mem_append, List.mem_singleton]

namespace Spec

variable {spec : Spec} {desired desiredRoles : List Text} {x : Text}

/-- A grantee without a dot in its name owns the schema of that name. -/
theorem resolveSchema_none {grantee : Text} (hdot : '.' ∉ grantee) :
    resolveSchema grantee none = grantee := by
  have hown : resolveSchema grantee none = ownSchema grantee := rfl
  rw [hown, ownSchema, Text.splitAtFirst_of_not_mem hdot]

/-- A canonical grant string says what an entry of the specification says. -/
def Lists (spec : Spec) (x : Text) : Prop :=
  ∃ raw ∈ spec.privileges, ∃ p, Privilege.parse raw spec.defaultSchema = .ok p ∧
    p.render spec.defaultSchema = x

/-- An unrestricted user of which all privileges are owned. -/
structure IsStrictUser (spec : Spec) : Prop where
  user : spec.granteeType = .user
  unrestricted : spec.restricted = false
  strict : spec.policy = .strict

/-- The grants of such a user are the listed ones and the baseline of the default schema. -/
theorem mem_grantsWithDefaults_iff (hspec : spec.IsStrictUser) {raw : Text} :
    raw ∈ spec.grantsWithDefaults.1 ↔
      raw ∈ spec.privileges ∨ raw = Baseline.privilege spec.defaultSchema := by
  have hgrants : spec.grantsWithDefaults.1 =
      ManagementPolicy.insertMissing (Baseline.privilege spec.defaultSchema) spec.privileges := by
    simp [grantsWithDefaults, ManagementPolicy.withDefaults, hspec.user, hspec.unrestricted,
      hspec.strict]
  rw [hgrants, ManagementPolicy.mem_insertMissing]

/-- What is desired is listed, or it is the baseline of the default schema. -/
theorem mem_desired_iff (hspec : spec.IsStrictUser)
    (hdesired : spec.desiredGrants = .ok (desired, desiredRoles)) :
    x ∈ desired ↔ spec.Lists x ∨ x = Baseline.catalogPrivilege spec.defaultSchema := by
  obtain ⟨hprivileges, -⟩ := desiredGrants_eq_ok_iff.mp hdesired
  have hmem : Baseline.privilege spec.defaultSchema ∈ spec.grantsWithDefaults.1 :=
    (mem_grantsWithDefaults_iff hspec).mpr (.inr rfl)
  -- the baseline is read, since everything is
  obtain ⟨ps, hps, -⟩ := bind_eq_ok_iff.mp hprivileges
  obtain ⟨p, -, hparse⟩ := exists_of_mapM_eq_ok hps hmem
  obtain ⟨-, -, rfl⟩ := Baseline.parse_privilege_eq_ok_iff.mp hparse
  have hrender : (Baseline.onSchemaPrivilege spec.defaultSchema).render spec.defaultSchema =
      Baseline.catalogPrivilege spec.defaultSchema :=
    Baseline.display_onSchemaPrivilege spec.defaultSchema
  rw [Privilege.mem_canonicalStrings hprivileges]
  constructor
  · rintro ⟨raw, hraw, q, hq, rfl⟩
    rcases (mem_grantsWithDefaults_iff hspec).mp hraw with hraw | rfl
    · exact .inl ⟨raw, hraw, q, hq, rfl⟩
    · rw [hparse, Except.ok.injEq] at hq
      rw [← hq]
      exact .inr hrender
  · rintro (⟨raw, hraw, q, hq, rfl⟩ | rfl)
    · exact ⟨raw, (mem_grantsWithDefaults_iff hspec).mpr (.inl hraw), q, hq, rfl⟩
    · exact ⟨_, hmem, _, hparse, hrender⟩

/-- Nothing is desired that is not listed but the baseline of the schema that has the name of the
grantee, and what the catalog shows for that baseline is desired. -/
structure AssumesOwnSchema (spec : Spec) (desired : List Text) : Prop where
  nothingElse : ∀ x ∈ desired, spec.Lists x ∨ x = (Baseline.onSchemaPrivilege spec.grantee).display
  own : ∃ x ∈ desired, Catalog.privilegeStrings [Baseline.row spec.grantee] = .ok [x]

/-- What the catalog shows for the own baseline is desired exactly if that baseline is listed or the
default schema is the own one. -/
theorem own_desired_iff (hspec : spec.IsStrictUser) (hne : spec.grantee ≠ [])
    (hline : '\n' ∉ spec.grantee)
    (hdesired : spec.desiredGrants = .ok (desired, desiredRoles)) :
    (∃ x ∈ desired, Catalog.privilegeStrings [Baseline.row spec.grantee] = .ok [x]) ↔
      spec.Lists (Baseline.catalogPrivilege spec.grantee) ∨ spec.defaultSchema = spec.grantee := by
  rw [Baseline.privilegeStrings_row hne hline]
  constructor
  · rintro ⟨x, hx, hshown⟩
    obtain rfl : Baseline.catalogPrivilege spec.grantee = x :=
      List.singleton_inj.mp (Except.ok.inj hshown)
    exact ((mem_desired_iff hspec hdesired).mp hx).imp_right fun h =>
      (Baseline.catalogPrivilege_injective h).symm
  · intro h
    refine ⟨_, (mem_desired_iff hspec hdesired).mpr (h.imp_right fun hschema => ?_), rfl⟩
    rw [hschema]

/-- The own schema is assumed if it is the default schema, and otherwise only if the baselines of both
are listed. -/
theorem assumesOwnSchema_iff (hspec : spec.IsStrictUser) (hne : spec.grantee ≠ [])
    (hline : '\n' ∉ spec.grantee)
    (hdesired : spec.desiredGrants = .ok (desired, desiredRoles)) :
    spec.AssumesOwnSchema desired ↔ spec.defaultSchema = spec.grantee ∨
      spec.Lists (Baseline.catalogPrivilege spec.defaultSchema) ∧
        spec.Lists (Baseline.catalogPrivilege spec.grantee) := by
  have hown := own_desired_iff hspec hne hline hdesired
  constructor
  · rintro ⟨hnothing, hrow⟩
    by_cases hschema : spec.defaultSchema = spec.grantee
    · exact .inl hschema
    · refine .inr ⟨?_, (hown.mp hrow).resolve_right hschema⟩
      refine (hnothing _ ((mem_desired_iff hspec hdesired).mpr (.inr rfl))).resolve_right ?_
      rw [Baseline.display_onSchemaPrivilege]
      exact fun h => hschema (Baseline.catalogPrivilege_injective h)
  · intro h
    refine ⟨fun x hx => ?_, hown.mpr (h.elim .inr fun hlists => .inl hlists.2)⟩
    rcases (mem_desired_iff hspec hdesired).mp hx with hlists | rfl
    · exact .inl hlists
    · rcases h with hschema | ⟨hlists, -⟩
      · rw [hschema, Baseline.display_onSchemaPrivilege]
        exact .inr rfl
      · exact .inl hlists

end Spec

namespace Pass

variable {σ ε : Type} {connection : Connection σ ε} {spec : Spec} {previouslyManaged : List Text}
  {s s' : σ} {statements : List Statement} {desired desiredRoles : List Text}

/-- The comparison of a pass that has a plan is one with the desired grants. -/
theorem exists_comparison_of_plan
    (hdesired : spec.desiredGrants = .ok (desired, desiredRoles))
    (hplan : plan connection spec previouslyManaged s = (.ok statements, s')) :
    ∃ c observedPrivileges observedRoles,
      compare connection spec previouslyManaged s = (.ok c, s') ∧
      c = Comparison.ofGrants spec previouslyManaged desired desiredRoles observedPrivileges
        observedRoles ∧
      Statement.planUpdate spec.grantee spec.defaultSchema c.privilegeDifference.toAdd
        c.privilegeDifference.toRemove c.roleDifference.toAdd c.roleDifference.toRemove =
          .ok statements := by
  obtain ⟨c, hcompare, hupdate⟩ := plan_eq_ok_iff.mp hplan
  obtain ⟨_, _, O, OR, _, hpass, -, -, hc⟩ := compare_eq_ok_iff.mp hcompare
  rw [hdesired] at hpass
  cases hpass
  exact ⟨c, O, OR, hcompare, hc, hupdate⟩

/-- A pass that assumes the own schema grants nothing but what is listed and the own baseline. -/
theorem grants_of_assumesOwnSchema (hne : spec.grantee ≠ []) (hline : '\n' ∉ spec.grantee)
    (hdesired : spec.desiredGrants = .ok (desired, desiredRoles))
    (hown : spec.AssumesOwnSchema desired)
    (hplan : plan connection spec previouslyManaged s = (.ok statements, s')) {p : Privilege}
    (hgrants : ∃ st ∈ statements, st.Grants p) :
    (∃ x, spec.Lists x ∧ Privilege.parse x spec.defaultSchema = .ok p) ∨
      p = Baseline.onSchemaPrivilege spec.grantee := by
  obtain ⟨c, O, OR, -, hc, hupdate⟩ := exists_comparison_of_plan hdesired hplan
  obtain ⟨x, hx, hparse⟩ := (Statement.exists_grants_iff hupdate).mp hgrants
  rw [hc] at hx
  have hmem : x ∈ desired := (Difference.mem_toAdd_between.mp hx).1
  rcases hown.nothingElse x hmem with hlists | rfl
  · exact .inl ⟨x, hlists, hparse⟩
  · rw [Baseline.display_onSchemaPrivilege, Baseline.parse_catalogPrivilege hne hline,
      Except.ok.injEq] at hparse
    exact .inr hparse.symm

/-- A pass that assumes the own schema does not ask for the own baseline to be removed, and takes it
away only if an observed privilege clashes with a desired one. -/
theorem keeps_own_of_assumesOwnSchema (hne : spec.grantee ≠ []) (hline : '\n' ∉ spec.grantee)
    (hdesired : spec.desiredGrants = .ok (desired, desiredRoles))
    (hown : spec.AssumesOwnSchema desired)
    (hplan : plan connection spec previouslyManaged s = (.ok statements, s')) :
    ∃ c, compare connection spec previouslyManaged s = (.ok c, s') ∧
      (Baseline.onSchemaPrivilege spec.grantee).display ∉ c.privilegeDifference.toRemove ∧
      (¬ c.PrivilegeClashes spec.defaultSchema →
        ∀ st ∈ statements, ¬ st.Revokes (Baseline.onSchemaPrivilege spec.grantee)) := by
  obtain ⟨c, O, OR, hcompare, hc, hupdate⟩ := exists_comparison_of_plan hdesired hplan
  have hmem : Baseline.catalogPrivilege spec.grantee ∈ desired := by
    obtain ⟨x, hx, hshown⟩ := hown.own
    rw [Baseline.privilegeStrings_row hne hline] at hshown
    rwa [List.singleton_inj.mp (Except.ok.inj hshown)]
  refine ⟨c, hcompare, ?_, fun hfree st hst hrevokes => hfree ?_⟩
  · rw [Baseline.display_onSchemaPrivilege, hc]
    exact fun hremove => (Difference.mem_toRemove_between.mp hremove).2 hmem
  · refine (Comparison.exists_revokes_desired_iff hc hupdate).mp ⟨_, ?_, _,
      Baseline.parse_catalogPrivilege hne hline, st, hst, hrevokes⟩
    rw [hc]
    exact hmem

/-- The implicit baseline of a strict user is the one of its own schema, and no other, exactly if its
own schema is the default schema or the baselines of both are listed anyway. Then a pass grants
nothing on another schema that is not listed, and it does not remove the own baseline. -/
theorem baseline_on_own_schema_iff (connection : Connection σ ε) (hspec : spec.IsStrictUser)
    (hne : spec.grantee ≠ []) (hline : '\n' ∉ spec.grantee)
    (hdesired : spec.desiredGrants = .ok (desired, desiredRoles)) :
    (spec.AssumesOwnSchema desired ↔ spec.defaultSchema = spec.grantee ∨
      spec.Lists (Baseline.catalogPrivilege spec.defaultSchema) ∧
        spec.Lists (Baseline.catalogPrivilege spec.grantee)) ∧
    (spec.AssumesOwnSchema desired → ∀ previouslyManaged s s' statements,
      plan connection spec previouslyManaged s = (.ok statements, s') →
        (∀ p, (∃ st ∈ statements, st.Grants p) →
          (∃ x, spec.Lists x ∧ Privilege.parse x spec.defaultSchema = .ok p) ∨
            p = Baseline.onSchemaPrivilege spec.grantee) ∧
        ∃ c, compare connection spec previouslyManaged s = (.ok c, s') ∧
          (Baseline.onSchemaPrivilege spec.grantee).display ∉ c.privilegeDifference.toRemove ∧
          (¬ c.PrivilegeClashes spec.defaultSchema →
            ∀ st ∈ statements, ¬ st.Revokes (Baseline.onSchemaPrivilege spec.grantee))) := by
  refine ⟨Spec.assumesOwnSchema_iff hspec hne hline hdesired, fun hown _ _ _ _ hplan => ⟨?_, ?_⟩⟩
  · exact fun p hgrants => grants_of_assumesOwnSchema hne hline hdesired hown hplan hgrants
  · exact keeps_own_of_assumesOwnSchema hne hline hdesired hown hplan

/-- A user that lists nothing, with or without a default schema. -/
def alice (defaultSchema : Option Text) : Spec :=
  ⟨"ALICE".toList, .user, Spec.resolveSchema "ALICE".toList defaultSchema, .strict, [], [], false⟩

/-- The database in which that user holds what every new user holds. -/
def newUser : Connection Unit Empty :=
  .ofTables (fun _ => [Baseline.row "ALICE".toList])
    (fun _ => [[.null, .text "PUBLIC".toList, .text "FALSE".toList]]) (fun _ s => s)

/-- A new user without a default schema keeps what it holds. -/
theorem baseline_on_own_schema_of_new_user :
    (alice none).AssumesOwnSchema ["CREATE ANY ON SCHEMA ALICE WITH GRANT OPTION".toList] ∧
      ∃ c, compare newUser (alice none) [] () = (.ok c, ()) ∧
        (Baseline.onSchemaPrivilege "ALICE".toList).display ∉ c.privilegeDifference.toRemove := by
  have hdesired : (alice none).desiredGrants =
      .ok (["CREATE ANY ON SCHEMA ALICE WITH GRANT OPTION".toList], ["PUBLIC".toList]) := by
    decide
  have hdot : '.' ∉ "ALICE".toList := by decide
  have hschema : (alice none).defaultSchema = (alice none).grantee := Spec.resolveSchema_none hdot
  have hcompare : compare newUser (alice none) [] () =
      (.ok (Comparison.ofGrants (alice none) []
        ["CREATE ANY ON SCHEMA ALICE WITH GRANT OPTION".toList] ["PUBLIC".toList]
        ["CREATE ANY ON SCHEMA ALICE WITH GRANT OPTION".toList] ["PUBLIC".toList]), ()) :=
    compare_ofTables hdesired (by decide) (by decide)
  have hplan : plan newUser (alice none) [] () = (.ok [], ()) :=
    plan_eq_ok_iff.mpr ⟨_, hcompare, by decide⟩
  obtain ⟨hiff, hpass⟩ := baseline_on_own_schema_iff newUser ⟨rfl, rfl, rfl⟩ (by decide)
    (by decide) hdesired
  have hown := hiff.mpr (.inl hschema)
  obtain ⟨-, c, hc, hremove, -⟩ := hpass hown [] () () [] hplan
  exact ⟨hown, c, hc, hremove⟩

/-- A user with another default schema is granted that schema and loses its own. -/
theorem baseline_on_default_schema :
    (alice (some "SALES".toList)).desiredGrants =
        .ok (["CREATE ANY ON SCHEMA SALES WITH GRANT OPTION".toList], ["PUBLIC".toList]) ∧
      ¬ (alice (some "SALES".toList)).AssumesOwnSchema
        ["CREATE ANY ON SCHEMA SALES WITH GRANT OPTION".toList] ∧
      ∃ statements, plan newUser (alice (some "SALES".toList)) [] () = (.ok statements, ()) ∧
        statements.map Statement.text =
          ["GRANT CREATE ANY ON SCHEMA SALES TO ALICE WITH GRANT OPTION".toList,
            "REVOKE CREATE ANY ON SCHEMA ALICE FROM ALICE".toList] := by
  have hdesired : (alice (some "SALES".toList)).desiredGrants =
      .ok (["CREATE ANY ON SCHEMA SALES WITH GRANT OPTION".toList], ["PUBLIC".toList]) := by
    decide
  have hcompare : compare newUser (alice (some "SALES".toList)) [] () =
      (.ok (Comparison.ofGrants (alice (some "SALES".toList)) []
        ["CREATE ANY ON SCHEMA SALES WITH GRANT OPTION".toList] ["PUBLIC".toList]
        ["CREATE ANY ON SCHEMA ALICE WITH GRANT OPTION".toList] ["PUBLIC".toList]), ()) :=
    compare_ofTables hdesired (by decide) (by decide)
  have hplan : plan newUser (alice (some "SALES".toList)) [] () =
      (.ok [.grantPrivilegeBatch ⟨.schema, "SALES".toList, true, ["CREATE ANY".toList]⟩
          "ALICE".toList,
        .revokePrivilegeBatch ⟨.schema, "ALICE".toList, true, ["CREATE ANY".toList]⟩
          "ALICE".toList], ()) :=
    plan_eq_ok_iff.mpr ⟨_, hcompare, by decide⟩
  refine ⟨hdesired, fun hown => ?_, _, hplan, by decide⟩
  -- what the catalog shows for the own baseline is not desired
  obtain ⟨x, hx, hshown⟩ := hown.own
  have hrow : Catalog.privilegeStrings [Baseline.row "ALICE".toList] =
      .ok ["CREATE ANY ON SCHEMA ALICE WITH GRANT OPTION".toList] := by decide
  obtain rfl : "CREATE ANY ON SCHEMA ALICE WITH GRANT OPTION".toList = x :=
    List.singleton_inj.mp (Except.ok.inj (hrow.symm.trans hshown))
  exact absurd hx (by decide)

end Pass

end AccessGrants
