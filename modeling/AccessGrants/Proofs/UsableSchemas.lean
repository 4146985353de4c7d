import AccessGrants.Proofs.CheckedRecords
import AccessGrants.Proofs.OwnSchema
import AccessGrants.Proofs.Refusals
import AccessGrants.Proofs.Untouched

/-!
# Default schemas that the baseline can be on

A strict pass adds the baseline of the default schema to what an unrestricted user should hold, so
the default schema has to be a name. One that a record gives is trimmed, and if nothing is left of it
the schema of the grantee stands in. That one is cut out of the grantee after its field has been
checked, and it is neither trimmed nor is it asked to be there.

* `Spec.givenSchema`, `Spec.defaultSchema_eq`: where the default schema comes from.
* `IsUsableSchema`, `isUsableSchema_iff`: the names that the baseline can be on.
* `Spec.desiredGrants_of_name`, `Spec.desiredGrants_of_no_name`: whether the desired grants are read
  once the own ones are.
* `Pass.RefusesBaseline`, `Pass.refusesBaseline_iff`: the passes that fail on the baseline.
* `Spec.usable_iff`: which records that validate have such a schema, and what a pass makes of the
  others.
-/

namespace AccessGrants

open Text

/-! ## Errors of single strings -/

/-- To split off an option never fails with an error of the grammar. -/
theorem splitGrant_ne_grammar {raw : Text} {g : GrammarError} :
    splitGrant raw ≠ .error (.grammar g) := by
  unfold splitGrant
  cases GrantOption.split (Layout.normalize raw) <;> nofun

/-- An error of the grammar carries the string that was to be read as a privilege. -/
theorem Privilege.raw_of_parse_error {raw defaultSchema : Text} {g : GrammarError}
    (h : parse raw defaultSchema = .error (.grammar g)) : g.raw = raw := by
  rcases bind_eq_error_iff.mp h with hsplit | ⟨parts, -, hbody⟩
  · exact absurd hsplit splitGrant_ne_grammar
  · obtain ⟨g', hg, hraw⟩ := raw_of_ofBody hbody
    cases hg
    exact hraw

/-- A role is not refused as a privilege. -/
theorem Role.parse_ne_unknownPrivilege {raw raw' : Text} {reason : Option Text} :
    parse raw ≠ .error (.grammar (.unknownPrivilege raw' reason)) := by
  intro h
  rcases bind_eq_error_iff.mp h with hsplit | ⟨parts, -, hbody⟩
  · exact absurd hsplit splitGrant_ne_grammar
  · dsimp only at hbody
    split at hbody
    · cases hbody
    · split at hbody <;> cases hbody

namespace Statement

variable {grantee defaultSchema : Text} {toGrant toRevoke : List Text} {e : ParseError}

/-- A plan for privileges fails with the error of one of its strings. -/
theorem exists_of_planPrivileges_error
    (h : planPrivileges grantee toGrant toRevoke defaultSchema = .error e) :
    ∃ t, Privilege.parse t defaultSchema = .error e := by
  have hstrings : ∀ raws, PrivilegeBatch.ofStrings raws defaultSchema = .error e →
      ∃ t, Privilege.parse t defaultSchema = .error e := by
    intro raws hraws
    obtain ⟨_, t, _, -, -, ht⟩ := mapM_eq_error_iff.mp (bind_pure_eq_error_iff.mp hraws)
    exact ⟨t, ht⟩
  rcases bind_eq_error_iff.mp h with hgrants | ⟨_, -, h⟩
  · exact hstrings _ (bind_pure_eq_error_iff.mp hgrants)
  · exact hstrings _ (bind_pure_eq_error_iff.mp (bind_pure_eq_error_iff.mp h))

/-- So does a plan for roles. -/
theorem exists_of_planRoles_error (h : planRoles grantee toGrant toRevoke = .error e) :
    ∃ t, Role.parse t = .error e := by
  have hstrings : ∀ raws, Role.parseAll raws = .error e → ∃ t, Role.parse t = .error e := by
    intro raws hraws
    obtain ⟨_, t, _, -, -, ht⟩ := mapM_eq_error_iff.mp hraws
    exact ⟨t, ht⟩
  rcases bind_eq_error_iff.mp h with hgrants | ⟨_, -, h⟩
  · exact hstrings _ (bind_pure_eq_error_iff.mp hgrants)
  · rcases bind_eq_error_iff.mp (bind_pure_eq_error_iff.mp h) with hroles | ⟨_, -, hnames⟩
    · exact hstrings _ hroles
    · split at hnames <;> cases hnames

end Statement

/-! ## Where the default schema comes from -/

namespace Spec

variable {defaultPolicy : ManagementPolicy} {v : Value} {spec : Spec} {grantee : Text}

/-- The default schema that a record gives: the text of its field, trimmed, if anything is left. -/
def givenSchema : Value → Option Text
  | .mapping entries =>
    (((Value.get? "default_schema".toList entries).bind Value.text?).map stripWhiteSpace).filter
      (· ≠ [])
  | _ => none

/-- A schema stands in for one that is missing or empty. -/
theorem resolveSchema_eq (grantee : Text) (given : Option Text) :
    resolveSchema grantee given = (given.filter (· ≠ [])).getD (ownSchema grantee) := by
  rcases given with _ | _ | ⟨c, rest⟩ <;> rfl

/-- The default schema is the given one, or else the schema of the grantee. -/
theorem defaultSchema_eq (h : ofValue defaultPolicy v = .ok spec) :
    spec.defaultSchema = (givenSchema v).getD (ownSchema spec.grantee) := by
  obtain ⟨entries, rfl, hreads⟩ := ofValue_eq_ok_iff.mp h
  obtain ⟨given, hgiven, hschema⟩ := hreads.defaultSchema
  rw [hschema, resolveSchema_eq, givenSchema]
  rcases Check.optional_eq_ok_iff.mp hgiven with ⟨w, hget, hcheck⟩ | ⟨hget, rfl⟩
  · rw [hget]
    rcases Check.textOrNull_eq_ok_iff.mp hcheck with ⟨rfl, rfl⟩ | ⟨raw, rfl, rfl⟩
    · rfl
    · rfl
  · rw [hget]
    rfl

/-- An empty text does not count as a given schema. -/
theorem ne_nil_of_givenSchema {t : Text} (h : givenSchema v = some t) : t ≠ [] := by
  unfold givenSchema at h
  split at h
  · simpa using (Option.filter_eq_some_iff.mp h).2
  · cases h

/-- The grantee of a record is not empty. -/
theorem grantee_ne_nil (h : ofValue defaultPolicy v = .ok spec) : spec.grantee ≠ [] := by
  obtain ⟨entries, rfl, hreads⟩ := ofValue_eq_ok_iff.mp h
  obtain ⟨w, -, hcheck⟩ := Check.required_eq_ok_iff.mp hreads.grantee
  exact (Check.nonempty_eq_ok_iff.mp hcheck).1

/-- A grantee has a schema without a name if it begins with a dot. -/
theorem ownSchema_eq_nil_iff (hne : grantee ≠ []) :
    ownSchema grantee = [] ↔ grantee.head? = some '.' := by
  obtain ⟨c, r, rfl⟩ := List.exists_cons_of_ne_nil hne
  rw [ownSchema, splitAtFirst]
  split_ifs with hc
  · simp [hc]
  · cases splitAtFirst '.' r <;> simp [hc]

/-- So the default schema has a name if it is given, or if the grantee does not begin with a dot. -/
theorem defaultSchema_ne_nil_iff (h : ofValue defaultPolicy v = .ok spec) :
    spec.defaultSchema ≠ [] ↔ (givenSchema v = none → spec.grantee.head? ≠ some '.') := by
  rw [defaultSchema_eq h]
  cases hgiven : givenSchema v with
  | none => simp [ownSchema_eq_nil_iff (grantee_ne_nil h)]
  | some t => simp [ne_nil_of_givenSchema hgiven]

end Spec

/-! ## Schemas that the baseline can be on -/

/-- A name without blanks at its ends, of which the baseline is read as the grantable privilege to
create anything in a schema. -/
structure IsUsableSchema (schema : Text) : Prop where
  ne_nil : schema ≠ []
  stripped : strip schema = schema
  baseline : ∃ p, Privilege.parse (Baseline.privilege schema) schema = .ok p ∧
    p.kind = .schema ∧ p.name = "CREATE ANY".toList ∧ p.grantable = true

/-- These are the names of one line without blanks at their ends. -/
theorem isUsableSchema_iff {schema : Text} :
    IsUsableSchema schema ↔ schema ≠ [] ∧ '\n' ∉ schema ∧ strip schema = schema := by
  constructor
  · rintro ⟨hne, hstrip, p, hparse, -⟩
    exact ⟨hne, (Baseline.parse_privilege_eq_ok_iff.mp hparse).2.1, hstrip⟩
  · rintro ⟨hne, hline, hstrip⟩
    exact ⟨hne, hstrip, _, Baseline.parse_privilege hne hline, rfl, rfl, rfl⟩

namespace Spec

variable {spec : Spec}

/-- All that a specification lists is read. -/
structure OwnEntriesRead (spec : Spec) : Prop where
  privileges : ∀ raw ∈ spec.privileges, ∃ p, Privilege.parse raw spec.defaultSchema = .ok p
  roles : ∀ raw ∈ spec.roles, ∃ r, Role.parse raw = .ok r

/-- With the public role, the roles are read as well. -/
theorem exists_roles (hspec : spec.IsStrictUser) (hread : spec.OwnEntriesRead) :
    ∃ roles, Role.canonicalStrings spec.grantsWithDefaults.2 = .ok roles := by
  have hgrants : spec.grantsWithDefaults.2 =
      ManagementPolicy.insertMissing Baseline.publicRole spec.roles := by
    simp [grantsWithDefaults, ManagementPolicy.withDefaults, hspec.user, hspec.unrestricted]
  have hall : ∀ raw ∈ spec.grantsWithDefaults.2, ∃ r, Role.parse raw = .ok r := by
    intro raw hraw
    rw [hgrants, ManagementPolicy.mem_insertMissing] at hraw
    rcases hraw with hraw | rfl
    · exact hread.roles raw hraw
    · exact ⟨⟨Baseline.publicRole, false⟩, by decide⟩
  obtain ⟨roles, hroles⟩ := exists_mapM_eq_ok hall
  exact ⟨_, bind_eq_ok_iff.mpr ⟨roles, hroles, rfl⟩⟩

/-- If the default schema has a name of one line, the desired grants of a strict user are read once
the own ones are. -/
theorem desiredGrants_of_name (hspec : spec.IsStrictUser) (hread : spec.OwnEntriesRead)
    (hne : spec.defaultSchema ≠ []) (hline : '\n' ∉ spec.defaultSchema) :
    ∃ desired, spec.desiredGrants = .ok desired := by
  have hall : ∀ raw ∈ spec.grantsWithDefaults.1,
      ∃ p, Privilege.parse raw spec.defaultSchema = .ok p := by
    intro raw hraw
    rcases (mem_grantsWithDefaults_iff hspec).mp hraw with hraw | rfl
    · exact hread.privileges raw hraw
    · exact ⟨_, Baseline.parse_privilege hne hline⟩
  obtain ⟨privileges, hprivileges⟩ := exists_mapM_eq_ok hall
  obtain ⟨roles, hroles⟩ := exists_roles hspec hread
  exact ⟨_, desiredGrants_eq_ok_iff.mpr ⟨bind_eq_ok_iff.mpr ⟨privileges, hprivileges, rfl⟩, hroles⟩⟩

/-- Otherwise the baseline is refused, which nobody listed. -/
theorem desiredGrants_of_no_name (hspec : spec.IsStrictUser) (hread : spec.OwnEntriesRead)
    (hname : spec.defaultSchema = [] ∨ '\n' ∈ spec.defaultSchema) :
    ∃ reason, spec.desiredGrants =
      .error (.grammar (.unknownPrivilege (Baseline.privilege spec.defaultSchema) reason)) := by
  obtain ⟨reason, hrefused⟩ :=
    Baseline.exists_parse_privilege_error spec.defaultSchema hname
  have hnew : Baseline.privilege spec.defaultSchema ∉ spec.privileges := by
    intro hmem
    obtain ⟨p, hp⟩ := hread.privileges _ hmem
    rw [hrefused] at hp
    cases hp
  have hgrants : spec.grantsWithDefaults.1 =
      spec.privileges ++ [Baseline.privilege spec.defaultSchema] := by
    simp [grantsWithDefaults, ManagementPolicy.withDefaults, ManagementPolicy.insertMissing,
      hspec.user, hspec.unrestricted, hspec.strict, hnew]
  have hparse : Privilege.parseAll spec.grantsWithDefaults.1 spec.defaultSchema =
      .error (.grammar (.unknownPrivilege (Baseline.privilege spec.defaultSchema) reason)) := by
    rw [hgrants]
    exact mapM_eq_error_iff.mpr ⟨_, _, [], rfl, exists_mapM_eq_ok hread.privileges, hrefused⟩
  refine ⟨reason, ?_⟩
  unfold desiredGrants
  exact bind_eq_error_iff.mpr (.inl (bind_eq_error_iff.mpr (.inl hparse)))

end Spec

/-! ## Passes that fail on the baseline -/

namespace Pass

variable {σ ε : Type} {x : Executor σ ε} {spec : Spec} {previouslyManaged : List Text}

/-- A pass fails since it cannot read the baseline of a schema, in one of its two spellings. -/
def RefusesBaseline {α : Type} (schema : Text) (result : Except (OperationError ε) α) : Prop :=
  ∃ raw reason, Baseline.isSpelling schema raw = true ∧
    result = .error (.parse (.grammar (.unknownPrivilege raw reason)))

/-- A comparison finds a string that it cannot read only among the desired ones. -/
theorem desiredGrants_of_compare_error {connection : Connection σ ε} {s s' : σ} {e : ParseError}
    (h : compare connection spec previouslyManaged s = (.error (.parse e), s')) :
    spec.desiredGrants = .error e := by
  have hrows : ∀ (read : List Row → Except RowError (List Text)) query s s',
      Catalog.readRows connection read query spec.grantee spec.granteeType s ≠
        (.error (.parse e), s') := by
    intro read query s s' hread
    unfold Catalog.readRows at hread
    dsimp only at hread
    split at hread
    · cases hread
    · split at hread <;> cases hread
  unfold compare at h
  split at h
  · next hdesired =>
    cases h
    exact hdesired
  · split at h
    · next hprivileges =>
      cases h
      exact absurd hprivileges (hrows _ _ _ _)
    · split at h
      · next hroles =>
        cases h
        exact absurd hroles (hrows _ _ _ _)
      · cases h

/-- If the desired grants are read and the default schema has a name of one line, no pass fails on the
baseline: it is read again in either spelling, and only privileges are refused as such. -/
theorem not_refusesBaseline {desired : List Text × List Text} (hne : spec.defaultSchema ≠ [])
    (hline : '\n' ∉ spec.defaultSchema) (hdesired : spec.desiredGrants = .ok desired)
    (s : Session σ ε) :
    ¬ RefusesBaseline spec.defaultSchema (reconcile x spec previouslyManaged s).1 := by
  rintro ⟨raw, reason, hspelling, hresult⟩
  have hrun : reconcile x spec previouslyManaged s =
      (.error (.parse (.grammar (.unknownPrivilege raw reason))),
        (reconcile x spec previouslyManaged s).2) := Prod.ext hresult rfl
  rcases exists_of_reconcile_parse_error hrun with hcompare | ⟨c, s', -, ⟨hplan, -⟩ | hlate⟩
  · rw [desiredGrants_of_compare_error hcompare] at hdesired
    cases hdesired
  · obtain ⟨t, ht⟩ := Statement.exists_of_planPrivileges_error hplan
    obtain rfl : raw = t := Privilege.raw_of_parse_error ht
    rw [Baseline.isSpelling, Bool.or_eq_true, beq_iff_eq, beq_iff_eq] at hspelling
    rcases hspelling with rfl | rfl
    · rw [Baseline.parse_privilege hne hline] at ht
      cases ht
    · rw [Baseline.parse_catalogPrivilege hne hline] at ht
      cases ht
  · obtain ⟨_, _, -, -, hroles⟩ := hlate
    obtain ⟨t, ht⟩ := Statement.exists_of_planRoles_error hroles
    exact Role.parse_ne_unknownPrivilege ht

/-- A pass for a strict user whose own entries are read fails on the baseline exactly if the default
schema has no name or one of several lines. -/
theorem refusesBaseline_iff (hspec : spec.IsStrictUser) (hread : spec.OwnEntriesRead)
    (x : Executor σ ε) (previouslyManaged : List Text) (s : Session σ ε) :
    RefusesBaseline spec.defaultSchema (reconcile x spec previouslyManaged s).1 ↔
      spec.defaultSchema = [] ∨ '\n' ∈ spec.defaultSchema := by
  by_cases hname : spec.defaultSchema = [] ∨ '\n' ∈ spec.defaultSchema
  · refine iff_of_true ?_ hname
    obtain ⟨reason, hdesired⟩ := Spec.desiredGrants_of_no_name hspec hread hname
    refine ⟨Baseline.privilege spec.defaultSchema, reason, ?_, ?_⟩
    · simp [Baseline.isSpelling]
    · rw [reconcile_of_unreadable hdesired]
  · refine iff_of_false ?_ hname
    obtain ⟨hne, hline⟩ := not_or.mp hname
    obtain ⟨desired, hdesired⟩ := Spec.desiredGrants_of_name hspec hread hne hline
    exact not_refusesBaseline hne hline hdesired s

end Pass

/-! ## Records -/

namespace Spec

variable {defaultPolicy : ManagementPolicy} {v : Value} {spec : Spec}

/-- The default schema of a record that validates is usable exactly if it is on one line without
blanks at its ends and, unless it is given, the grantee does not begin with a dot. Without a name or
with one of several lines it makes every pass for a strict user fail, though the own entries are
read, and such a pass changes nothing; otherwise the desired grants are read, and no pass fails on the
baseline. -/
theorem usable_iff (σ ε : Type) (h : ofValue defaultPolicy v = .ok spec) :
    spec.defaultSchema = (givenSchema v).getD (ownSchema spec.grantee) ∧
    (IsUsableSchema spec.defaultSchema ↔
      (givenSchema v = none → spec.grantee.head? ≠ some '.') ∧ '\n' ∉ spec.defaultSchema ∧
        strip spec.defaultSchema = spec.defaultSchema) ∧
    (spec.IsStrictUser → spec.OwnEntriesRead →
      ((∃ desired, spec.desiredGrants = .ok desired) ↔
        (givenSchema v = none → spec.grantee.head? ≠ some '.') ∧ '\n' ∉ spec.defaultSchema) ∧
      ∀ (x : Executor σ ε) (previouslyManaged : List Text) (s : Session σ ε),
        (Pass.RefusesBaseline spec.defaultSchema (Pass.reconcile x spec previouslyManaged s).1 ↔
          ¬ ∃ desired, spec.desiredGrants = .ok desired) ∧
        (Pass.RefusesBaseline spec.defaultSchema (Pass.reconcile x spec previouslyManaged s).1 →
          (Pass.reconcile x spec previouslyManaged s).2 = s)) := by
  have hnamed := defaultSchema_ne_nil_iff h
  refine ⟨defaultSchema_eq h, ?_, fun hspec hread => ?_⟩
  · rw [isUsableSchema_iff, hnamed]
  · have hdesired : (∃ desired, spec.desiredGrants = .ok desired) ↔
        spec.defaultSchema ≠ [] ∧ '\n' ∉ spec.defaultSchema := by
      constructor
      · rintro ⟨desired, hdesired⟩
        by_contra hname
        have hname : spec.defaultSchema = [] ∨ '\n' ∈ spec.defaultSchema := by tauto
        obtain ⟨_, herror⟩ := desiredGrants_of_no_name hspec hread hname
        rw [herror] at hdesired
        cases hdesired
      · rintro ⟨hne, hline⟩
        exact desiredGrants_of_name hspec hread hne hline
    refine ⟨by rw [hdesired, hnamed], fun x previouslyManaged s => ?_⟩
    have hrefuses := Pass.refusesBaseline_iff hspec hread x previouslyManaged s
    refine ⟨?_, fun hbaseline => ?_⟩
    · rw [hrefuses, hdesired]
      tauto
    · obtain ⟨_, herror⟩ := desiredGrants_of_no_name hspec hread (hrefuses.mp hbaseline)
      rw [Pass.reconcile_of_unreadable herror]

/-- A user in a schema has that schema for its default, and no pass for it fails on the baseline. -/
theorem usable_of_schema_and_name :
    IsUsableSchema "SALES".toList ∧
      ∀ (x : Executor Unit Empty) (previouslyManaged : List Text) (s : Session Unit Empty),
        ¬ Pass.RefusesBaseline "SALES".toList
          (Pass.reconcile x (bare "SALES.REPORTER".toList) previouslyManaged s).1 := by
  have hrecord : ofValue .strict (bareRecord "SALES.REPORTER".toList) =
      .ok (bare "SALES.REPORTER".toList) := ofValue_bareRecord (by decide) (by decide)
  obtain ⟨-, husable, hpass⟩ := usable_iff Unit Empty hrecord
  obtain ⟨hdesired, hrefuses⟩ := hpass ⟨rfl, rfl, rfl⟩ ⟨nofun, nofun⟩
  have hstart : givenSchema (bareRecord "SALES.REPORTER".toList) = none →
      (bare "SALES.REPORTER".toList).grantee.head? ≠ some '.' := by decide
  have hline : '\n' ∉ (bare "SALES.REPORTER".toList).defaultSchema := by decide
  refine ⟨husable.mpr ⟨hstart, hline, by decide⟩, fun x previouslyManaged s hbaseline => ?_⟩
  exact (hrefuses x previouslyManaged s).1.mp hbaseline (hdesired.mpr ⟨hstart, hline⟩)

/-- A blank before the dot of a grantee stays at the end of its schema; a dot at its start leaves the
schema without a name, and then a pass fails on the entry that nobody listed. -/
theorem unusable_schemas :
    ofValue .strict (bareRecord "SALES .REPORTER".toList) = .ok (bare "SALES .REPORTER".toList) ∧
      (bare "SALES .REPORTER".toList).defaultSchema = "SALES ".toList ∧
      ¬ IsUsableSchema "SALES ".toList ∧
      ofValue .strict (bareRecord ".REPORTER".toList) = .ok (bare ".REPORTER".toList) ∧
      (bare ".REPORTER".toList).defaultSchema = [] ∧
      ∃ reason, Pass.reconcile ⟨Pass.newUser, false⟩ (bare ".REPORTER".toList) [] ⟨(), []⟩ =
        (.error (.parse (.grammar (.unknownPrivilege
          "CREATE ANY ON SCHEMA \"\" WITH GRANT OPTION".toList reason))), ⟨(), []⟩) := by
  refine ⟨ofValue_bareRecord (by decide) (by decide), by decide, fun h => ?_,
    ofValue_bareRecord (by decide) (by decide), by decide, ?_⟩
  · exact absurd h.stripped (by decide)
  · have huser : (bare ".REPORTER".toList).IsStrictUser := ⟨rfl, rfl, rfl⟩
    obtain ⟨reason, hdesired⟩ := desiredGrants_of_no_name huser ⟨nofun, nofun⟩ (.inl (by decide))
    exact ⟨reason, Pass.reconcile_of_unreadable hdesired _⟩

end Spec

end AccessGrants
