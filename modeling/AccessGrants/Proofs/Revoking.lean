import AccessGrants.Proofs.Planning

/-!
# How often a right is revoked

A revoke says nothing of options, but privileges come into batches by their options too. So a right
that is listed with its option and without is named by two statements, and the second has nothing left
to revoke. The one statement that revokes roles names each of them once.

* `Right`, `Privilege.right`: what a revoke says of a privilege.
* `Statement.rights`, `Statement.roleNames`: what a statement names if it revokes.
* `Statement.count_rights`: a right is named once for each option that it is listed with.
* `Statement.revoked_once_iff`: all that is listed is named, and a right at most once exactly if it is
  not listed with both options.
-/

namespace AccessGrants

/-! ## Rights -/

/-- What a revoke says of a privilege: all but the option. -/
structure Right where
  kind : PrivilegeKind
  name : Text
  target : Text
  deriving DecidableEq

/-- What a revoke says of a privilege. -/
def Privilege.right (p : Privilege) : Right := ⟨p.kind, p.name, p.target⟩

namespace Right

variable {t : Right} {p : Privilege}

/-- The privilege with a right, with its option or without. -/
def privilege (t : Right) (grantable : Bool) : Privilege := ⟨t.kind, t.name, t.target, grantable⟩

/-- A privilege is its right with its option or without. -/
theorem exists_privilege_eq_iff : (∃ grantable, t.privilege grantable = p) ↔ p.right = t := by
  constructor
  · rintro ⟨grantable, rfl⟩
    rfl
  · rintro rfl
    exact ⟨p.grantable, rfl⟩

/-- Privileges agree but for the option exactly if they have the same right. -/
theorem right_eq_iff {q : Privilege} : p.right = q.right ↔ p.SameGrant q := by
  simp [Privilege.right, Privilege.SameGrant]

/-- The two privileges of a right differ. -/
theorem privilege_injective (t : Right) : Function.Injective t.privilege := by
  intro g g' h
  exact congrArg Privilege.grantable h

end Right

/-! ## What statements name -/

namespace Statement

variable {grantee defaultSchema : Text} {ps : List Privilege} {rs : List Role} {t : Right}

/-- The rights that a statement names if it revokes privileges. -/
def rights : Statement → List Right
  | .revokePrivilegeBatch batch _ => batch.names.map fun name => ⟨batch.kind, name, batch.target⟩
  | _ => []

/-- The roles that a statement names if it revokes roles. -/
def roleNames : Statement → List Text
  | .revokeRoleNames names _ => names
  | _ => []

/-- A statement names a right if it revokes the privilege. -/
theorem right_mem_rights_iff {st : Statement} {p : Privilege} :
    p.right ∈ st.rights ↔ st.Revokes p := by
  cases st with
  | revokePrivilegeBatch batch grantee =>
      simp only [rights, Revokes, PrivilegeBatch.expand, List.mem_map, ← Right.right_eq_iff]
      constructor
      · rintro ⟨name, hname, hright⟩
        exact ⟨_, ⟨name, hname, rfl⟩, hright⟩
      · rintro ⟨_, ⟨name, hname, rfl⟩, hright⟩
        exact ⟨name, hname, hright⟩
  | _ => simp [rights, Revokes]

/-- The statements that revoke privileges name the rights of what is in their batches. -/
theorem rights_ofPrivilegeRevokes (grantee : Text) (ps : List Privilege) :
    (ofPrivilegeRevokes grantee ps).flatMap rights =
      ((PrivilegeBatch.group ps).flatMap PrivilegeBatch.expand).map Privilege.right := by
  rw [ofPrivilegeRevokes, List.flatMap_map, List.map_flatMap]
  congr 1
  funext b
  simp [rights, PrivilegeBatch.expand, Privilege.right]

/-- The statements that revoke privileges name a right once for each option that it is listed with. -/
theorem count_rights (grantee : Text) (ps : List Privilege) (t : Right) :
    ((ofPrivilegeRevokes grantee ps).flatMap rights).count t =
      ([false, true].filter fun grantable => t.privilege grantable ∈ ps).length := by
  obtain ⟨hnodup, hmem, -⟩ := PrivilegeBatch.isBatching_group
  have hlisted : (((PrivilegeBatch.group ps).flatMap PrivilegeBatch.expand).filter
      fun p => p.right = t).Perm
        (([false, true].filter fun grantable => t.privilege grantable ∈ ps).map t.privilege) := by
    have hoptions : [false, true].Nodup := by decide
    rw [List.perm_ext_iff_of_nodup ((hnodup ps).filter _)
      ((hoptions.filter _).map t.privilege_injective)]
    intro p
    rw [List.mem_filter, hmem, decide_eq_true_eq, ← Right.exists_privilege_eq_iff, List.mem_map]
    constructor
    · rintro ⟨hp, grantable, rfl⟩
      refine ⟨grantable, ?_, rfl⟩
      rw [List.mem_filter]
      exact ⟨by cases grantable <;> simp, decide_eq_true hp⟩
    · rintro ⟨grantable, hgrantable, rfl⟩
      exact ⟨of_decide_eq_true (List.mem_filter.mp hgrantable).2, grantable, rfl⟩
  calc ((ofPrivilegeRevokes grantee ps).flatMap rights).count t
      = (((PrivilegeBatch.group ps).flatMap PrivilegeBatch.expand).filter
          fun p => p.right = t).length := by
        rw [rights_ofPrivilegeRevokes, List.count_eq_countP, List.countP_map,
          List.countP_eq_length_filter]
        rfl
    _ = ([false, true].filter fun grantable => t.privilege grantable ∈ ps).length := by
        rw [hlisted.length_eq, List.length_map]

/-- They name a right if it is listed. -/
theorem mem_rights : t ∈ (ofPrivilegeRevokes grantee ps).flatMap rights ↔ ∃ p ∈ ps, p.right = t := by
  have hplain : (t.privilege false).right = t := rfl
  rw [List.mem_flatMap, ← hplain]
  simp only [right_mem_rights_iff, Right.right_eq_iff]
  exact exists_revokes_ofPrivilegeRevokes

/-- They name it at most once if it is not listed with both options. -/
theorem count_rights_le_one_iff : ((ofPrivilegeRevokes grantee ps).flatMap rights).count t ≤ 1 ↔
    ¬ ∀ grantable, t.privilege grantable ∈ ps := by
  rw [count_rights, Bool.forall_bool]
  by_cases hplain : t.privilege false ∈ ps <;> by_cases hoption : t.privilege true ∈ ps <;>
    simp [hplain, hoption]

/-- The statement that revokes roles names the roles, each once. -/
theorem roleNames_ofRoleRevokes (grantee : Text) (rs : List Role) :
    (ofRoleRevokes grantee rs).flatMap roleNames = distinct (rs.map Role.name) := by
  unfold ofRoleRevokes
  split
  · next hnil =>
    rw [hnil]
    rfl
  · simp [roleNames]

/-! ## Plans that revoke -/

/-- For lists of grant strings that are read there are statements to revoke them. A right is named if
some string of the list says it, and at most once exactly if it is not said with both options. Roles
are named once, and they are those of the list. -/
theorem revoked_once_iff {raws roleRaws : List Text}
    (hread : ∀ raw ∈ raws, ∃ p, Privilege.parse raw defaultSchema = .ok p)
    (hroles : ∀ raw ∈ roleRaws, ∃ r, Role.parse raw = .ok r) :
    (∃ statements, revokePrivileges grantee raws defaultSchema = .ok statements ∧ ∀ t : Right,
      (t ∈ statements.flatMap rights ↔
        ∃ raw ∈ raws, ∃ p, Privilege.parse raw defaultSchema = .ok p ∧ p.right = t) ∧
      ((statements.flatMap rights).count t ≤ 1 ↔ ¬ ∀ grantable,
        ∃ raw ∈ raws, Privilege.parse raw defaultSchema = .ok (t.privilege grantable))) ∧
    ∃ statements, revokeRoles grantee roleRaws = .ok statements ∧
      (statements.flatMap roleNames).Nodup ∧ ∀ name, name ∈ statements.flatMap roleNames ↔
        ∃ raw ∈ roleRaws, ∃ r, Role.parse raw = .ok r ∧ r.name = name := by
  constructor
  · obtain ⟨ps, hps⟩ := exists_mapM_eq_ok hread
    have hmem := fun p => mem_of_mapM_eq_ok hps (y := p)
    refine ⟨_, revokePrivileges_eq_ok_iff.mpr ⟨ps, hps, rfl⟩, fun t => ⟨?_, ?_⟩⟩
    · rw [mem_rights]
      constructor
      · rintro ⟨p, hp, ht⟩
        obtain ⟨raw, hraw, hparse⟩ := (hmem p).mp hp
        exact ⟨raw, hraw, p, hparse, ht⟩
      · rintro ⟨raw, hraw, p, hparse, ht⟩
        exact ⟨p, (hmem p).mpr ⟨raw, hraw, hparse⟩, ht⟩
    · rw [count_rights_le_one_iff]
      simp only [hmem]
  · obtain ⟨rs, hrs⟩ := exists_mapM_eq_ok hroles
    refine ⟨_, revokeRoles_eq_ok_iff.mpr ⟨rs, hrs, rfl⟩, ?_⟩
    rw [roleNames_ofRoleRevokes]
    refine ⟨nodup_distinct _, fun name => ?_⟩
    rw [mem_distinct, List.mem_map]
    constructor
    · rintro ⟨r, hr, hname⟩
      obtain ⟨raw, hraw, hparse⟩ := (mem_of_mapM_eq_ok hrs).mp hr
      exact ⟨raw, hraw, r, hparse, hname⟩
    · rintro ⟨raw, hraw, r, hparse, hname⟩
      exact ⟨r, (mem_of_mapM_eq_ok hrs).mpr ⟨raw, hraw, hparse⟩, hname⟩

/-- A privilege that is listed twice without its option is named once, and so is a role that is listed
with both options. -/
theorem revoked_once_of_repeated :
    (∃ statements, revokePrivileges "ANALYST".toList
        ["select on schema x".toList, "CATALOG READ".toList, "SELECT ON SCHEMA x".toList] [] =
          .ok statements ∧
      (statements.flatMap rights).count ⟨.schema, "SELECT".toList, "x".toList⟩ ≤ 1) ∧
    ∃ statements, revokeRoles "ANALYST".toList
        ["PUBLIC".toList, "PUBLIC WITH ADMIN OPTION".toList] = .ok statements ∧
      (statements.flatMap roleNames).Nodup := by
  obtain ⟨⟨statements, hstatements, hnamed⟩, ⟨roles, hroles, hnodup, -⟩⟩ :=
    @revoked_once_iff "ANALYST".toList []
      ["select on schema x".toList, "CATALOG READ".toList, "SELECT ON SCHEMA x".toList]
      ["PUBLIC".toList, "PUBLIC WITH ADMIN OPTION".toList]
      (by
        simp only [List.forall_mem_cons, List.not_mem_nil, false_implies, implies_true, and_true]
        exact ⟨⟨⟨.schema, "SELECT".toList, "x".toList, false⟩, by decide⟩,
          ⟨⟨.system, "CATALOG READ".toList, [], false⟩, by decide⟩,
          ⟨⟨.schema, "SELECT".toList, "x".toList, false⟩, by decide⟩⟩)
      (by
        simp only [List.forall_mem_cons, List.not_mem_nil, false_implies, implies_true, and_true]
        exact ⟨⟨⟨"PUBLIC".toList, false⟩, by decide⟩, ⟨⟨"PUBLIC".toList, true⟩, by decide⟩⟩)
  refine ⟨⟨statements, hstatements, ?_⟩, roles, hroles, hnodup⟩
  exact (hnamed ⟨.schema, "SELECT".toList, "x".toList⟩).2.mpr (by decide)

/-- A privilege that is listed with its option and without is revoked by two statements, which are the
same text. -/
theorem revoked_twice_of_both_options : ∃ first second,
    revokePrivileges "ANALYST".toList
      ["SELECT ON SCHEMA X".toList, "SELECT ON SCHEMA X WITH GRANT OPTION".toList] [] =
        .ok [first, second] ∧
    first.text = "REVOKE SELECT ON SCHEMA X FROM ANALYST".toList ∧ second.text = first.text ∧
    ([first, second].flatMap rights).count ⟨.schema, "SELECT".toList, "X".toList⟩ = 2 :=
  ⟨.revokePrivilegeBatch ⟨.schema, "X".toList, false, ["SELECT".toList]⟩ "ANALYST".toList,
    .revokePrivilegeBatch ⟨.schema, "X".toList, true, ["SELECT".toList]⟩ "ANALYST".toList,
    by decide, rfl, rfl, by decide⟩

end Statement

end AccessGrants
