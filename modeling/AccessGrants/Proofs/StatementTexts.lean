import AccessGrants.Proofs.Executing
import AccessGrants.Proofs.ShownRows

/-!
# What stands in a statement

A pass puts texts of its specification and of the catalog into statements: verbs, names of objects and
roles, and the default schema, which is put before a name as it is. None of them can leave its place. A
text that could is read as something else, which is well-formed, or it is refused.

* `Statement.IsBody`: the names of a statement and on what they are granted; `Statement.IsBody.balanced`:
  they close their quotes.
* `Statement.IsText`: the statements for a grantee.
* `Pass.wellFormed_of_compare`, `Pass.path_of_compare`: what a pass reads of the strings that differ.
* `Pass.isText_of_mem_statements`: the statements of a comparison.
* `Pass.texts_of_reconcile`: a pass asks for nothing but such statements.
-/

namespace AccessGrants

open Text

/-! ## The shape of a statement -/

namespace Statement

/-- What a statement grants or revokes: verbs alone, verbs and the target that belongs to a kind, or
roles. An identifier is written with the letters that are read, so for roles with those of ASCII. -/
inductive IsBody : Text → Prop
  | system {names : List Text} (hne : names ≠ [])
    (hnames : ∀ name ∈ names, Verb.isVerb name = true) : IsBody (joinNames names)
  | privileges {kind : PrivilegeKind} {names : List Text} {target : Text} (hkind : kind ≠ .system)
    (hne : names ≠ []) (hnames : ∀ name ∈ names, Verb.isVerb name = true)
    (htarget : kind.IsStoredTarget target) :
    IsBody (joinNames names ++ kind.preposition ++ target)
  | roles {names : List Text} (hne : names ≠ [])
    (hnames : ∀ name ∈ names, Identifier.IsStoredPath Identifier.isAsciiLetter name) :
    IsBody (joinNames names)

/-- A statement for a grantee: a body whose quotes are closed, the grantee as it is, and for a grant
perhaps an option. -/
inductive IsText (grantee : Text) : Text → Prop
  | grant {body : Text} (hbody : IsBody body) (hbalanced : Balanced body)
    (option : Option GrantOption) :
    IsText grantee ("GRANT ".toList ++ body ++ " TO ".toList ++ grantee ++
      option.elim [] fun o => ' ' :: o.suffix)
  | revoke {body : Text} (hbody : IsBody body) (hbalanced : Balanced body) :
    IsText grantee ("REVOKE ".toList ++ body ++ " FROM ".toList ++ grantee)

/-- Names that close their quotes do so in a row. -/
theorem balanced_joinNames {names : List Text} (h : ∀ name ∈ names, Balanced name) :
    Balanced (joinNames names) := by
  induction names with
  | nil => exact balanced_of_not_mem List.not_mem_nil
  | cons name names ih =>
      have hname := h name List.mem_cons_self
      cases names with
      | nil =>
          rw [joinNames, join_singleton]
          exact hname
      | cons other names =>
          have hrest := ih fun name hmem => h name (List.mem_cons_of_mem _ hmem)
          have hcomma : Balanced ", ".toList := balanced_of_not_mem (by decide)
          rw [joinNames, join, List.intercalate_cons_cons]
          exact (hname.append hcomma).append hrest

/-- A path closes its quotes. -/
theorem balanced_path {letter : Char → Bool} {t : Text} (hletter : Identifier.IsAlphabet letter)
    (h : Identifier.IsStoredPath letter t) : Balanced t := by
  rcases h with hi | ⟨i, j, hi, hj, rfl⟩
  · exact hi.written.balanced hletter
  · have hdot : Balanced ['.'] := balanced_of_not_mem (by decide)
    exact (hi.written.balanced hletter).append (hdot.append (hj.written.balanced hletter))

/-- A body closes its quotes. -/
theorem IsBody.balanced {body : Text} (h : IsBody body) : Balanced body := by
  have hverbs : ∀ names : List Text, (∀ name ∈ names, Verb.isVerb name = true) →
      Balanced (joinNames names) := by
    intro names hnames
    refine balanced_joinNames fun name hmem => balanced_of_not_mem fun hquote => ?_
    exact absurd (Verb.isLetter_or_blank (hnames name hmem) hquote) (by decide)
  cases h with
  | system _ hnames => exact hverbs _ hnames
  | @privileges kind names target hkind _ hnames htarget =>
      have hpreposition : Balanced kind.preposition := by
        refine balanced_of_not_mem ?_
        cases kind <;> decide
      exact ((hverbs _ hnames).append hpreposition).append
        (balanced_path Form.isLetter_letter (PrivilegeKind.path_target hkind htarget))
  | roles _ hnames =>
      exact balanced_joinNames fun name hmem =>
        balanced_path Identifier.isAlphabet_ascii (hnames name hmem)

/-- A grant of a body, with an option or without one. -/
theorem isText_grant {body : Text} (grantee : Text) (hbody : IsBody body) (o : GrantOption)
    (grantable : Bool) :
    IsText grantee (if grantable then
        "GRANT ".toList ++ body ++ " TO ".toList ++ grantee ++ ' ' :: o.suffix
      else "GRANT ".toList ++ body ++ " TO ".toList ++ grantee) := by
  cases grantable with
  | false =>
      have hgrant : IsText grantee ("GRANT ".toList ++ body ++ " TO ".toList ++ grantee ++ []) :=
        .grant hbody hbody.balanced none
      rwa [List.append_nil] at hgrant
  | true => exact .grant hbody hbody.balanced (some o)

end Statement

/-! ## Statements of what is well-formed -/

/-- A batch of well-formed privileges has the body of a statement. -/
theorem PrivilegeBatch.isBody {ps : List Privilege} {b : PrivilegeBatch}
    (hps : ∀ p ∈ ps, p.WellFormed) (hb : b ∈ group ps) : Statement.IsBody b.body := by
  have hall : ∀ name ∈ b.names, Privilege.WellFormed ⟨b.kind, name, b.target, b.grantable⟩ :=
    fun name hname => hps _ (mem_expand_group.mp ⟨b, hb, List.mem_map_of_mem hname⟩)
  have hne : b.names ≠ [] := by
    obtain ⟨k, hk, rfl⟩ := List.mem_map.mp hb
    obtain ⟨p, hp, rfl⟩ := List.mem_map.mp (mem_distinct.mp hk)
    obtain ⟨name, hname, -⟩ := List.mem_map.mp (mem_expand_ofKey.mpr ⟨hp, rfl⟩)
    exact List.ne_nil_of_mem hname
  have hverbs : ∀ name ∈ b.names, Verb.isVerb name = true := fun name hname =>
    (hall name hname).name.verb
  obtain ⟨name, hname⟩ := List.exists_mem_of_ne_nil _ hne
  have htarget : b.kind.IsStoredTarget b.target := (hall name hname).target
  by_cases hkind : b.kind = .system
  · rw [body, hkind, PrivilegeKind.clause_system]
    exact .system hne hverbs
  · rw [body, PrivilegeKind.clause_eq hkind]
    exact .privileges hkind hne hverbs htarget

/-- A batch of roles whose names are paths has the body of a statement. -/
theorem RoleBatch.isBody {rs : List Role} {b : RoleBatch}
    (hrs : ∀ r ∈ rs, Identifier.IsStoredPath Identifier.isAsciiLetter r.name) (hb : b ∈ group rs) :
    Statement.IsBody (joinNames b.names) := by
  refine .roles (of_decide_eq_true (List.mem_filter.mp hb).2) fun name hname => ?_
  exact hrs _ (mem_expand_group.mp ⟨b, hb, List.mem_map_of_mem hname⟩)

namespace Statement

variable {grantee : Text} {st : Statement} {ps : List Privilege} {rs : List Role}

/-- A statement that grants such privileges. -/
theorem isText_of_mem_ofPrivilegeGrants (hps : ∀ p ∈ ps, p.WellFormed)
    (h : st ∈ ofPrivilegeGrants grantee ps) : IsText grantee st.text := by
  obtain ⟨b, hb, rfl⟩ := mem_ofPrivilegeGrants.mp h
  exact isText_grant grantee (PrivilegeBatch.isBody hps hb) b.kind.grantOption b.grantable

/-- A statement that revokes such privileges. -/
theorem isText_of_mem_ofPrivilegeRevokes (hps : ∀ p ∈ ps, p.WellFormed)
    (h : st ∈ ofPrivilegeRevokes grantee ps) : IsText grantee st.text := by
  obtain ⟨b, hb, rfl⟩ := mem_ofPrivilegeRevokes.mp h
  have hbody := PrivilegeBatch.isBody hps hb
  exact .revoke hbody hbody.balanced

/-- A statement that grants such roles. -/
theorem isText_of_mem_ofRoleGrants
    (hrs : ∀ r ∈ rs, Identifier.IsStoredPath Identifier.isAsciiLetter r.name)
    (h : st ∈ ofRoleGrants grantee rs) : IsText grantee st.text := by
  obtain ⟨b, hb, rfl⟩ := mem_ofRoleGrants.mp h
  exact isText_grant grantee (RoleBatch.isBody hrs hb) .admin b.grantable

/-- The statement that revokes such roles. -/
theorem isText_of_mem_ofRoleRevokes
    (hrs : ∀ r ∈ rs, Identifier.IsStoredPath Identifier.isAsciiLetter r.name)
    (h : st ∈ ofRoleRevokes grantee rs) : IsText grantee st.text := by
  obtain ⟨hne, rfl⟩ := mem_ofRoleRevokes.mp h
  have hbody : IsBody (joinNames (distinct (rs.map Role.name))) := by
    obtain ⟨r, hr⟩ := List.exists_mem_of_ne_nil _ hne
    refine .roles (List.ne_nil_of_mem (mem_distinct.mpr (List.mem_map_of_mem hr))) fun name hname => ?_
    obtain ⟨s, hs, rfl⟩ := List.mem_map.mp (mem_distinct.mp hname)
    exact hrs s hs
  exact .revoke hbody hbody.balanced

end Statement

/-! ## What a pass reads -/

/-- A database has canonical verbs for the names of the privileges that it shows for the grantee of a
specification. -/
def Connection.HasVerbs {σ ε : Type} (connection : Connection σ ε) (spec : Spec) (s : σ) : Prop :=
  ∀ rows s', connection.query
      (Catalog.forGrantee Catalog.privilegesQuery spec.grantee spec.granteeType).1
      ((Catalog.forGrantee Catalog.privilegesQuery spec.grantee spec.granteeType).2.map Value.text) s =
        (.ok rows, s') →
    ∀ row ∈ rows, ∀ t : Text, row[1]? = some (.text t) → Verb.IsCanonical t

/-- A database of tables has, if its rows do. -/
theorem Connection.ofTables_hasVerbs {σ : Type} {privilegeRows roleRows : σ → List Row}
    {run : Text → σ → σ} {spec : Spec} {s : σ}
    (h : ∀ row ∈ privilegeRows s, ∀ t : Text, row[1]? = some (.text t) → Verb.IsCanonical t) :
    (Connection.ofTables privilegeRows roleRows run).HasVerbs spec s := by
  intro rows s' hquery row hrow
  have hprefix : Catalog.privilegesQuery.isPrefixOf
      (Catalog.forGrantee Catalog.privilegesQuery spec.grantee spec.granteeType).1 = true :=
    List.isPrefixOf_iff_prefix.mpr (Catalog.prefix_forGrantee _ _ _)
  simp only [Connection.ofTables, hprefix, if_true, Prod.mk.injEq, Except.ok.injEq] at hquery
  rw [← hquery.1] at hrow
  exact h row hrow

namespace Catalog

variable {σ ε : Type} {connection : Connection σ ε} {grantee : Text} {type : GranteeType} {s s' : σ}
  {observed : List Text} {t : Text}

/-- What is read of a view are its rows. -/
theorem exists_rows_of_readRows {read : List Row → Except RowError (List Text)} {query : Text}
    (h : readRows connection read query grantee type s = (.ok observed, s')) :
    ∃ rows, connection.query (forGrantee query grantee type).1
      ((forGrantee query grantee type).2.map Value.text) s = (.ok rows, s') ∧
        read rows = .ok observed := by
  unfold readRows at h
  dsimp only at h
  split at h
  · cases h
  · next rows s₁ hquery =>
    split at h
    · cases h
    · next hread =>
      cases h
      exact ⟨rows, hquery, hread⟩

/-- An observed privilege is that of a row. -/
theorem exists_row_of_mem_privilegeStrings {rows : List Row}
    (h : privilegeStrings rows = .ok observed) (ht : t ∈ observed) :
    ∃ row ∈ rows, ∃ p, Privilege.ofRow row = .ok p ∧ p.display = t := by
  obtain ⟨ps, hps, heq⟩ := bind_eq_ok_iff.mp h
  cases heq
  obtain ⟨p, hp, rfl⟩ := List.mem_map.mp ht
  obtain ⟨row, hrow, hread⟩ := (mem_of_mapM_eq_ok hps).mp hp
  exact ⟨row, hrow, p, hread, rfl⟩

/-- An observed role is that of a row. -/
theorem exists_row_of_mem_roleStrings {rows : List Row} (h : roleStrings rows = .ok observed)
    (ht : t ∈ observed) : ∃ row ∈ rows, ∃ r, Role.ofRow row = .ok r ∧ r.render = t := by
  obtain ⟨rs, hrs, heq⟩ := bind_eq_ok_iff.mp h
  cases heq
  obtain ⟨r, hr, rfl⟩ := List.mem_map.mp ht
  obtain ⟨row, hrow, hread⟩ := (mem_of_mapM_eq_ok hrs).mp hr
  exact ⟨row, hrow, r, hread, rfl⟩

end Catalog

namespace Pass

variable {σ ε : Type} {connection : Connection σ ε} {spec : Spec} {previouslyManaged : List Text}
  {s s' : σ} {c : Comparison}

/-- What a pass reads of the privileges that differ is well-formed. -/
theorem wellFormed_of_compare (hline : '\n' ∉ spec.defaultSchema)
    (hverbs : connection.HasVerbs spec s)
    (h : compare connection spec previouslyManaged s = (.ok c, s')) {t : Text} {p : Privilege}
    (ht : t ∈ c.privilegeDifference.toAdd ∨ t ∈ c.privilegeDifference.toRemove)
    (hparse : Privilege.parse t spec.defaultSchema = .ok p) : p.WellFormed := by
  obtain ⟨D, DR, O, OR, s₁, hdesired, hprivileges, -, rfl⟩ := compare_eq_ok_iff.mp h
  rcases ht with ht | ht
  · obtain ⟨raw, -, q, hq, rfl⟩ := (Privilege.mem_canonicalStrings
      (Spec.desiredGrants_eq_ok_iff.mp hdesired).1).mp (Difference.mem_toAdd_between.mp ht).1
    exact Privilege.wellFormed_of_parse_render hline hq hparse
  · obtain ⟨rows, hquery, hrows⟩ := Catalog.exists_rows_of_readRows hprivileges
    obtain ⟨row, hrow, q, hq, rfl⟩ := Catalog.exists_row_of_mem_privilegeStrings hrows
      (ManagementPolicy.mem_observed_of_mem_owned (Difference.mem_toRemove_between.mp ht).1)
    exact Privilege.wellFormed_of_parse_display (hverbs rows s₁ hquery row hrow) hq hparse

/-- What it reads of the roles that differ are paths. -/
theorem path_of_compare (h : compare connection spec previouslyManaged s = (.ok c, s')) {t : Text}
    {r : Role} (ht : t ∈ c.roleDifference.toAdd ∨ t ∈ c.roleDifference.toRemove)
    (hparse : Role.parse t = .ok r) :
    Identifier.IsStoredPath Identifier.isAsciiLetter r.name := by
  obtain ⟨D, DR, O, OR, s₁, hdesired, -, hroles, rfl⟩ := compare_eq_ok_iff.mp h
  rcases ht with ht | ht
  · obtain ⟨raw, -, q, hq, rfl⟩ := (Role.mem_canonicalStrings
      (Spec.desiredGrants_eq_ok_iff.mp hdesired).2).mp (Difference.mem_toAdd_between.mp ht).1
    exact Role.path_of_parse_render hq hparse
  · obtain ⟨rows, -, hrows⟩ := Catalog.exists_rows_of_readRows hroles
    obtain ⟨row, -, q, hq, rfl⟩ := Catalog.exists_row_of_mem_roleStrings hrows
      (Difference.mem_toRemove_between.mp ht).1
    exact Role.path_of_parse_shown hq hparse

/-- The statements for the privileges that differ have the shape of one. -/
theorem isText_of_mem_privilegeStatements (hline : '\n' ∉ spec.defaultSchema)
    (hverbs : connection.HasVerbs spec s)
    (h : compare connection spec previouslyManaged s = (.ok c, s')) {statements : List Statement}
    (hplan : c.privilegeStatements spec.defaultSchema = .ok statements) {st : Statement}
    (hst : st ∈ statements) : Statement.IsText c.grantee st.text := by
  obtain ⟨ps, qs, hps, hqs, rfl⟩ := Statement.planPrivileges_eq_ok_iff.mp hplan
  rcases List.mem_append.mp hst with hst | hst
  · refine Statement.isText_of_mem_ofPrivilegeGrants (fun p hp => ?_) hst
    obtain ⟨raw, hraw, hparse⟩ := (Privilege.mem_parseAll hps).mp hp
    exact wellFormed_of_compare hline hverbs h (.inl hraw) hparse
  · refine Statement.isText_of_mem_ofPrivilegeRevokes (fun p hp => ?_) hst
    obtain ⟨raw, hraw, hparse⟩ := (Privilege.mem_parseAll hqs).mp hp
    exact wellFormed_of_compare hline hverbs h (.inr hraw) hparse

/-- So do those for the roles. -/
theorem isText_of_mem_roleStatements
    (h : compare connection spec previouslyManaged s = (.ok c, s')) {statements : List Statement}
    (hplan : c.roleStatements = .ok statements) {st : Statement} (hst : st ∈ statements) :
    Statement.IsText c.grantee st.text := by
  obtain ⟨rs, ts, hrs, hts, rfl⟩ := Statement.planRoles_eq_ok_iff.mp hplan
  rcases List.mem_append.mp hst with hst | hst
  · refine Statement.isText_of_mem_ofRoleGrants (fun r hr => ?_) hst
    obtain ⟨raw, hraw, hparse⟩ := (Role.mem_parseAll hrs).mp hr
    exact path_of_compare h (.inl hraw) hparse
  · refine Statement.isText_of_mem_ofRoleRevokes (fun r hr => ?_) hst
    obtain ⟨raw, hraw, hparse⟩ := (Role.mem_parseAll hts).mp hr
    exact path_of_compare h (.inr hraw) hparse

/-- The statements that a comparison asks for have the shape of one. -/
theorem isText_of_mem_statements (hline : '\n' ∉ spec.defaultSchema)
    (hverbs : connection.HasVerbs spec s)
    (h : compare connection spec previouslyManaged s = (.ok c, s')) {st : Statement}
    (hst : st ∈ c.statements spec.defaultSchema) : Statement.IsText spec.grantee st.text := by
  rw [← grantee_of_compare h]
  unfold Comparison.statements at hst
  split at hst
  · cases hst
  · next hprivileges =>
    split at hst
    · exact isText_of_mem_privilegeStatements hline hverbs h hprivileges hst
    · next hroles =>
      rcases List.mem_append.mp hst with hst | hst
      · exact isText_of_mem_privilegeStatements hline hverbs h hprivileges hst
      · exact isText_of_mem_roleStatements h hroles hst

end Pass

/-! ## What a pass asks for -/

namespace Pass

variable {σ ε : Type} {x : Executor σ ε} {spec : Spec} {previouslyManaged : List Text} {s : σ}

/-- No text escapes its place. Whatever a specification with a default schema of one line says, and
whatever the catalog says if the names of its privileges are verbs, a pass asks the database for nothing
but statements that grant or revoke a body whose quotes are closed, for the grantee as it is. -/
theorem texts_of_reconcile (hline : '\n' ∉ spec.defaultSchema)
    (hverbs : x.connection.HasVerbs spec s) (log : List Text) (records : List (Record ε)) :
    ∃ texts, (reconcile x.logged spec previouslyManaged ⟨(s, log), records⟩).2.state.2 =
        log ++ texts ∧ ∀ text ∈ texts, Statement.IsText spec.grantee text := by
  rcases hcompare : compare x.connection spec previouslyManaged s with ⟨e | c, s'⟩
  · have herror : compare x.logged.connection spec previouslyManaged (s, log) =
        (.error e, (s', log)) := compare_logged hcompare log
    refine ⟨[], ?_, nofun⟩
    rw [reconcile, herror, List.append_nil]
  · obtain ⟨ran, hran, hlog, -⟩ := Executor.exists_runAll_logged (x := x)
      ((c.statements spec.defaultSchema).map Statement.command) ⟨(s', log), records⟩
    refine ⟨x.logOf ran, ?_, fun text htext => ?_⟩
    · rw [reconcile_of_compare (x := x.logged) (compare_logged hcompare log) records, ← hlog]
      rcases x.logged.runAll ((c.statements spec.defaultSchema).map Statement.command)
        ⟨(s', log), records⟩ with ⟨e | _, t⟩
      · rfl
      · dsimp only
        split <;> rfl
    · unfold Executor.logOf at htext
      split at htext
      · cases htext
      · obtain ⟨command, hcommand, rfl⟩ := List.mem_map.mp htext
        obtain ⟨st, hst, rfl⟩ := List.mem_map.mp (hran.subset hcommand)
        exact isText_of_mem_statements hline hverbs hcompare hst

/-- A role whose default schema is a quoted name, with the words of a statement in its names. -/
def quotedAuditor : Spec :=
  { auditor with
    defaultSchema := "\"a TO EVE\"".toList
    privileges := ["select on t with grant option".toList]
    roles := ["SALES.\"x, ADMIN\"".toList] }

/-- The database in which it holds a privilege on a table with such names. -/
def quotedTable : Connection Unit Empty :=
  .ofTables (fun _ => [[.text "TABLE".toList, .text "SELECT".toList, .text "o\"ps".toList,
    .text "x TO EVE".toList, .scalar (.bool false)]]) (fun _ => []) fun _ s => s

/-- All of them stay between their quotes. -/
theorem texts_of_quoted_names :
    let texts := ["GRANT SELECT ON \"a TO EVE\".t TO AUDITOR WITH GRANT OPTION".toList,
      "REVOKE SELECT ON \"o\"\"ps\".\"x TO EVE\" FROM AUDITOR".toList,
      "GRANT SALES.\"x, ADMIN\" TO AUDITOR".toList]
    (reconcile (Executor.logged ⟨quotedTable, false⟩) quotedAuditor [] ⟨((), []), []⟩).2.state.2 =
        texts ∧ ∀ text ∈ texts, Statement.IsText "AUDITOR".toList text := by
  intro texts
  have hcompare : compare quotedTable quotedAuditor [] () =
      (.ok (Comparison.ofGrants quotedAuditor []
        ["SELECT ON \"a TO EVE\".t WITH GRANT OPTION".toList] ["SALES.\"x, ADMIN\"".toList]
        ["SELECT ON \"o\"\"ps\".\"x TO EVE\"".toList] []), ()) :=
    compare_ofTables (by decide) (by decide) (by decide)
  have hlog : (reconcile (Executor.logged ⟨quotedTable, false⟩) quotedAuditor []
      ⟨((), []), []⟩).2.state.2 = texts := by
    rw [reconcile_of_compare (x := Executor.logged ⟨quotedTable, false⟩)
      (compare_logged hcompare []) []]
    rfl
  have hverbs : quotedTable.HasVerbs quotedAuditor () := by
    refine Connection.ofTables_hasVerbs fun row hrow t ht => ?_
    rw [List.mem_singleton.mp hrow] at ht
    cases ht
    decide
  obtain ⟨found, hfound, hall⟩ := @texts_of_reconcile Unit Empty ⟨quotedTable, false⟩
    quotedAuditor [] () (by decide) hverbs [] []
  rw [hlog, List.nil_append] at hfound
  rw [hfound]
  exact ⟨hlog.trans hfound, hall⟩

end Pass

end AccessGrants
