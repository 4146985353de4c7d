import AccessGrants.Proofs.Batching
import AccessGrants.Proofs.Reading

/-!
# What a plan grants and revokes

A plan puts the grant strings of an update into batches and the batches into statements. Nothing is
lost on the way and nothing is added: its statements grant what the strings to grant say and revoke
what the strings to revoke say, a revoke whatever the option.

* `Privilege.SameGrant`, `Role.SameGrant`: two grants that agree but for the option.
* `Statement.Grants`, `Statement.Revokes`, `Statement.GrantsRole`, `Statement.RevokesRole`: what a
  statement says.
* `Statement.ofPrivilegeGrants` and its three companions are the statements for grants that are read
  already; `Statement.planUpdate_eq_ok_iff` and `Statement.planUpdate_of_parseAll` put a plan together
  from them.
* `Statement.exists_revokes_iff` and its companions: what the statements of a list name.
-/

namespace AccessGrants

/-! ## What statements say -/

/-- Two privileges agree but for the option. -/
def Privilege.SameGrant (p q : Privilege) : Prop :=
  p.kind = q.kind ∧ p.name = q.name ∧ p.target = q.target

/-- Two roles agree but for the option. -/
def Role.SameGrant (r s : Role) : Prop :=
  r.name = s.name

instance (p q : Privilege) : Decidable (p.SameGrant q) :=
  inferInstanceAs (Decidable (_ ∧ _ ∧ _))

instance (r s : Role) : Decidable (r.SameGrant s) :=
  inferInstanceAs (Decidable (_ = _))

namespace Statement

/-- A statement grants a privilege with its option. -/
def Grants : Statement → Privilege → Prop
  | .grantPrivilegeBatch batch _, p => p ∈ batch.expand
  | _, _ => False

/-- A statement revokes a privilege, whatever its option. -/
def Revokes : Statement → Privilege → Prop
  | .revokePrivilegeBatch batch _, p => ∃ q ∈ batch.expand, q.SameGrant p
  | _, _ => False

/-- A statement grants a role with its option. -/
def GrantsRole : Statement → Role → Prop
  | .grantRoleBatch batch _, r => r ∈ batch.expand
  | _, _ => False

/-- A statement revokes a role, whatever its option. -/
def RevokesRole : Statement → Role → Prop
  | .revokeRoleNames names _, r => r.name ∈ names
  | _, _ => False

/-! ## The statements of an update -/

/-- The statements that grant privileges. -/
def ofPrivilegeGrants (grantee : Text) (ps : List Privilege) : List Statement :=
  (PrivilegeBatch.group ps).map fun batch => .grantPrivilegeBatch batch grantee

/-- The statements that revoke privileges. -/
def ofPrivilegeRevokes (grantee : Text) (ps : List Privilege) : List Statement :=
  (PrivilegeBatch.group ps).map fun batch => .revokePrivilegeBatch batch grantee

/-- The statements that grant roles. -/
def ofRoleGrants (grantee : Text) (rs : List Role) : List Statement :=
  (RoleBatch.group rs).map fun batch => .grantRoleBatch batch grantee

/-- The statement that revokes roles, if there are any. -/
def ofRoleRevokes (grantee : Text) (rs : List Role) : List Statement :=
  match distinct (rs.map Role.name) with
  | [] => []
  | names => [.revokeRoleNames names grantee]

/-- The statements for a list of strings that is read are those of its readings. -/
theorem grantPrivileges_eq_ok_iff {grantee defaultSchema : Text} {raws : List Text}
    {statements : List Statement} :
    grantPrivileges grantee raws defaultSchema = .ok statements ↔
      ∃ ps, Privilege.parseAll raws defaultSchema = .ok ps ∧
        statements = ofPrivilegeGrants grantee ps := by
  unfold grantPrivileges PrivilegeBatch.ofStrings ofPrivilegeGrants
  cases Privilege.parseAll raws defaultSchema <;>
    simp [bind, Except.bind, pure, Except.pure, eq_comm]

/-- So it is with statements that revoke privileges. -/
theorem revokePrivileges_eq_ok_iff {grantee defaultSchema : Text} {raws : List Text}
    {statements : List Statement} :
    revokePrivileges grantee raws defaultSchema = .ok statements ↔
      ∃ ps, Privilege.parseAll raws defaultSchema = .ok ps ∧
        statements = ofPrivilegeRevokes grantee ps := by
  unfold revokePrivileges PrivilegeBatch.ofStrings ofPrivilegeRevokes
  cases Privilege.parseAll raws defaultSchema <;>
    simp [bind, Except.bind, pure, Except.pure, eq_comm]

/-- So it is with statements that grant roles. -/
theorem grantRoles_eq_ok_iff {grantee : Text} {raws : List Text} {statements : List Statement} :
    grantRoles grantee raws = .ok statements ↔
      ∃ rs, Role.parseAll raws = .ok rs ∧ statements = ofRoleGrants grantee rs := by
  unfold grantRoles ofRoleGrants
  cases Role.parseAll raws <;> simp [bind, Except.bind, pure, Except.pure, eq_comm]

/-- So it is with the statement that revokes roles. -/
theorem revokeRoles_eq_ok_iff {grantee : Text} {raws : List Text} {statements : List Statement} :
    revokeRoles grantee raws = .ok statements ↔
      ∃ rs, Role.parseAll raws = .ok rs ∧ statements = ofRoleRevokes grantee rs := by
  have hread : ∀ rs, Role.parseAll raws = .ok rs →
      revokeRoles grantee raws = .ok (ofRoleRevokes grantee rs) := by
    intro rs hrs
    unfold revokeRoles ofRoleRevokes
    rw [hrs]
    cases hnames : distinct (rs.map Role.name) <;>
      simp [bind, Except.bind, pure, Except.pure, hnames]
  cases hrs : Role.parseAll raws with
  | error e => simp [revokeRoles, hrs, bind, Except.bind]
  | ok rs => simp [hread rs hrs, eq_comm]

/-- A plan for privileges exists if all of its strings are read. -/
theorem planPrivileges_eq_ok_iff {grantee defaultSchema : Text} {toGrant toRevoke : List Text}
    {statements : List Statement} :
    planPrivileges grantee toGrant toRevoke defaultSchema = .ok statements ↔
      ∃ ps qs, Privilege.parseAll toGrant defaultSchema = .ok ps ∧
        Privilege.parseAll toRevoke defaultSchema = .ok qs ∧
        statements = ofPrivilegeGrants grantee ps ++ ofPrivilegeRevokes grantee qs := by
  unfold planPrivileges
  constructor
  · intro h
    obtain ⟨grants, hgrants, h⟩ := bind_eq_ok_iff.mp h
    obtain ⟨revokes, hrevokes, h⟩ := bind_eq_ok_iff.mp h
    obtain ⟨ps, hps, rfl⟩ := grantPrivileges_eq_ok_iff.mp hgrants
    obtain ⟨qs, hqs, rfl⟩ := revokePrivileges_eq_ok_iff.mp hrevokes
    cases h
    exact ⟨ps, qs, hps, hqs, rfl⟩
  · rintro ⟨ps, qs, hps, hqs, rfl⟩
    exact bind_eq_ok_iff.mpr ⟨_, grantPrivileges_eq_ok_iff.mpr ⟨ps, hps, rfl⟩,
      bind_eq_ok_iff.mpr ⟨_, revokePrivileges_eq_ok_iff.mpr ⟨qs, hqs, rfl⟩, rfl⟩⟩

/-- A plan for roles exists if all of its strings are read. -/
theorem planRoles_eq_ok_iff {grantee : Text} {toGrant toRevoke : List Text}
    {statements : List Statement} :
    planRoles grantee toGrant toRevoke = .ok statements ↔
      ∃ rs ts, Role.parseAll toGrant = .ok rs ∧ Role.parseAll toRevoke = .ok ts ∧
        statements = ofRoleGrants grantee rs ++ ofRoleRevokes grantee ts := by
  unfold planRoles
  constructor
  · intro h
    obtain ⟨grants, hgrants, h⟩ := bind_eq_ok_iff.mp h
    obtain ⟨revokes, hrevokes, h⟩ := bind_eq_ok_iff.mp h
    obtain ⟨rs, hrs, rfl⟩ := grantRoles_eq_ok_iff.mp hgrants
    obtain ⟨ts, hts, rfl⟩ := revokeRoles_eq_ok_iff.mp hrevokes
    cases h
    exact ⟨rs, ts, hrs, hts, rfl⟩
  · rintro ⟨rs, ts, hrs, hts, rfl⟩
    exact bind_eq_ok_iff.mpr ⟨_, grantRoles_eq_ok_iff.mpr ⟨rs, hrs, rfl⟩,
      bind_eq_ok_iff.mpr ⟨_, revokeRoles_eq_ok_iff.mpr ⟨ts, hts, rfl⟩, rfl⟩⟩

/-- A plan for an update is the plan for its privileges and then the one for its roles. -/
theorem planUpdate_eq_ok_iff {grantee defaultSchema : Text}
    {toGrant toRevoke rolesToGrant rolesToRevoke : List Text} {statements : List Statement} :
    planUpdate grantee defaultSchema toGrant toRevoke rolesToGrant rolesToRevoke =
        .ok statements ↔
      ∃ privileges roles, planPrivileges grantee toGrant toRevoke defaultSchema = .ok privileges ∧
        planRoles grantee rolesToGrant rolesToRevoke = .ok roles ∧
        statements = privileges ++ roles := by
  unfold planUpdate
  constructor
  · intro h
    obtain ⟨privileges, hprivileges, h⟩ := bind_eq_ok_iff.mp h
    obtain ⟨roles, hroles, h⟩ := bind_eq_ok_iff.mp h
    cases h
    exact ⟨privileges, roles, hprivileges, hroles, rfl⟩
  · rintro ⟨privileges, roles, hprivileges, hroles, rfl⟩
    exact bind_eq_ok_iff.mpr ⟨privileges, hprivileges, bind_eq_ok_iff.mpr ⟨roles, hroles, rfl⟩⟩

/-- The statements of an update whose grants are read already. -/
def ofUpdate (grantee : Text) (ps qs : List Privilege) (rs ts : List Role) : List Statement :=
  ofPrivilegeGrants grantee ps ++ ofPrivilegeRevokes grantee qs ++
    (ofRoleGrants grantee rs ++ ofRoleRevokes grantee ts)

/-- An update whose strings are all read has a plan. -/
theorem planUpdate_of_parseAll {grantee defaultSchema : Text}
    {toGrant toRevoke rolesToGrant rolesToRevoke : List Text} {ps qs : List Privilege}
    {rs ts : List Role} (hps : Privilege.parseAll toGrant defaultSchema = .ok ps)
    (hqs : Privilege.parseAll toRevoke defaultSchema = .ok qs)
    (hrs : Role.parseAll rolesToGrant = .ok rs) (hts : Role.parseAll rolesToRevoke = .ok ts) :
    planUpdate grantee defaultSchema toGrant toRevoke rolesToGrant rolesToRevoke =
      .ok (ofUpdate grantee ps qs rs ts) :=
  planUpdate_eq_ok_iff.mpr ⟨_, _, planPrivileges_eq_ok_iff.mpr ⟨ps, qs, hps, hqs, rfl⟩,
    planRoles_eq_ok_iff.mpr ⟨rs, ts, hrs, hts, rfl⟩, rfl⟩

/-! ## What the statements of a list name -/

section append

variable {α : Type} {P : α → Prop} {xs ys : List α}

/-- What no element of the second list has, an element of the first has. -/
theorem exists_mem_append_left (h : ∀ y ∈ ys, ¬ P y) : (∃ x ∈ xs ++ ys, P x) ↔ ∃ x ∈ xs, P x := by
  constructor
  · rintro ⟨x, hx, hP⟩
    exact ⟨x, (List.mem_append.mp hx).resolve_right fun hy => h x hy hP, hP⟩
  · rintro ⟨x, hx, hP⟩
    exact ⟨x, List.mem_append_left _ hx, hP⟩

/-- What no element of the first list has, an element of the second has. -/
theorem exists_mem_append_right (h : ∀ x ∈ xs, ¬ P x) : (∃ x ∈ xs ++ ys, P x) ↔ ∃ y ∈ ys, P y := by
  constructor
  · rintro ⟨x, hx, hP⟩
    exact ⟨x, (List.mem_append.mp hx).resolve_left fun hy => h x hy hP, hP⟩
  · rintro ⟨x, hx, hP⟩
    exact ⟨x, List.mem_append_right _ hx, hP⟩

end append

section names

variable {grantee : Text} {st : Statement} {p : Privilege} {ps : List Privilege} {r : Role}
  {rs : List Role}

/-- There is one statement for each batch of privileges to grant. -/
theorem mem_ofPrivilegeGrants :
    st ∈ ofPrivilegeGrants grantee ps ↔
      ∃ b ∈ PrivilegeBatch.group ps, .grantPrivilegeBatch b grantee = st :=
  List.mem_map

/-- There is one statement for each batch of privileges to revoke. -/
theorem mem_ofPrivilegeRevokes :
    st ∈ ofPrivilegeRevokes grantee ps ↔
      ∃ b ∈ PrivilegeBatch.group ps, .revokePrivilegeBatch b grantee = st :=
  List.mem_map

/-- There is one statement for each batch of roles to grant. -/
theorem mem_ofRoleGrants :
    st ∈ ofRoleGrants grantee rs ↔ ∃ b ∈ RoleBatch.group rs, .grantRoleBatch b grantee = st :=
  List.mem_map

/-- There is one statement for all roles to revoke, if there are any. -/
theorem mem_ofRoleRevokes :
    st ∈ ofRoleRevokes grantee rs ↔
      rs ≠ [] ∧ .revokeRoleNames (distinct (rs.map Role.name)) grantee = st := by
  unfold ofRoleRevokes
  cases rs with
  | nil => simp
  | cons r rs => simp [eq_comm]

/-- Statements that grant privileges grant these privileges. -/
theorem exists_grants_ofPrivilegeGrants :
    (∃ st ∈ ofPrivilegeGrants grantee ps, st.Grants p) ↔ p ∈ ps := by
  simp only [mem_ofPrivilegeGrants, exists_exists_and_eq_and, Grants]
  exact PrivilegeBatch.mem_expand_group

/-- Statements that revoke privileges revoke these privileges, whatever their options. -/
theorem exists_revokes_ofPrivilegeRevokes :
    (∃ st ∈ ofPrivilegeRevokes grantee ps, st.Revokes p) ↔ ∃ q ∈ ps, q.SameGrant p := by
  simp only [mem_ofPrivilegeRevokes, exists_exists_and_eq_and, Revokes]
  constructor
  · rintro ⟨b, hb, q, hq, hsame⟩
    exact ⟨q, PrivilegeBatch.mem_expand_group.mp ⟨b, hb, hq⟩, hsame⟩
  · rintro ⟨q, hq, hsame⟩
    obtain ⟨b, hb, hqb⟩ := PrivilegeBatch.mem_expand_group.mpr hq
    exact ⟨b, hb, q, hqb, hsame⟩

/-- Statements that grant roles grant these roles. -/
theorem exists_grantsRole_ofRoleGrants :
    (∃ st ∈ ofRoleGrants grantee rs, st.GrantsRole r) ↔ r ∈ rs := by
  simp only [mem_ofRoleGrants, exists_exists_and_eq_and, GrantsRole]
  exact RoleBatch.mem_expand_group

/-- The statement that revokes roles revokes these roles, whatever their options. -/
theorem exists_revokesRole_ofRoleRevokes :
    (∃ st ∈ ofRoleRevokes grantee rs, st.RevokesRole r) ↔ ∃ s ∈ rs, s.SameGrant r := by
  simp only [mem_ofRoleRevokes, Role.SameGrant]
  constructor
  · rintro ⟨_, ⟨-, rfl⟩, hr⟩
    exact List.mem_map.mp (mem_distinct.mp hr)
  · rintro ⟨s, hs, hname⟩
    exact ⟨_, ⟨List.ne_nil_of_mem hs, rfl⟩, mem_distinct.mpr (List.mem_map.mpr ⟨s, hs, hname⟩)⟩

end names

section update

variable {grantee : Text} {st : Statement} {p : Privilege} {ps qs : List Privilege} {r : Role}
  {rs ts : List Role}

/-- Statements that grant privileges say nothing else. -/
theorem only_grants (h : st ∈ ofPrivilegeGrants grantee ps) :
    (∀ p, ¬ st.Revokes p) ∧ (∀ r, ¬ st.GrantsRole r) ∧ ∀ r, ¬ st.RevokesRole r := by
  obtain ⟨b, -, rfl⟩ := mem_ofPrivilegeGrants.mp h
  exact ⟨fun _ => id, fun _ => id, fun _ => id⟩

/-- Statements that revoke privileges say nothing else. -/
theorem only_revokes (h : st ∈ ofPrivilegeRevokes grantee ps) :
    (∀ p, ¬ st.Grants p) ∧ (∀ r, ¬ st.GrantsRole r) ∧ ∀ r, ¬ st.RevokesRole r := by
  obtain ⟨b, -, rfl⟩ := mem_ofPrivilegeRevokes.mp h
  exact ⟨fun _ => id, fun _ => id, fun _ => id⟩

/-- Statements that grant roles say nothing else. -/
theorem only_grantsRole (h : st ∈ ofRoleGrants grantee rs) :
    (∀ p, ¬ st.Grants p) ∧ (∀ p, ¬ st.Revokes p) ∧ ∀ r, ¬ st.RevokesRole r := by
  obtain ⟨b, -, rfl⟩ := mem_ofRoleGrants.mp h
  exact ⟨fun _ => id, fun _ => id, fun _ => id⟩

/-- The statement that revokes roles says nothing else. -/
theorem only_revokesRole (h : st ∈ ofRoleRevokes grantee rs) :
    (∀ p, ¬ st.Grants p) ∧ (∀ p, ¬ st.Revokes p) ∧ ∀ r, ¬ st.GrantsRole r := by
  obtain ⟨-, rfl⟩ := mem_ofRoleRevokes.mp h
  exact ⟨fun _ => id, fun _ => id, fun _ => id⟩

/-- The statements for privileges say nothing of roles. -/
theorem only_privileges (h : st ∈ ofPrivilegeGrants grantee ps ++ ofPrivilegeRevokes grantee qs) :
    (∀ r, ¬ st.GrantsRole r) ∧ ∀ r, ¬ st.RevokesRole r := by
  rcases List.mem_append.mp h with h | h
  · exact (only_grants h).2
  · exact (only_revokes h).2

/-- The statements for roles say nothing of privileges. -/
theorem only_roles (h : st ∈ ofRoleGrants grantee rs ++ ofRoleRevokes grantee ts) :
    (∀ p, ¬ st.Grants p) ∧ ∀ p, ¬ st.Revokes p := by
  rcases List.mem_append.mp h with h | h
  · exact ⟨(only_grantsRole h).1, (only_grantsRole h).2.1⟩
  · exact ⟨(only_revokesRole h).1, (only_revokesRole h).2.1⟩

/-- An update grants the privileges that it is given to grant. -/
theorem exists_grants_ofUpdate : (∃ st ∈ ofUpdate grantee ps qs rs ts, st.Grants p) ↔ p ∈ ps := by
  rw [ofUpdate, exists_mem_append_left fun st h => (only_roles h).1 p,
    exists_mem_append_left fun st h => (only_revokes h).1 p, exists_grants_ofPrivilegeGrants]

/-- An update revokes the privileges that it is given to revoke, whatever their options. -/
theorem exists_revokes_ofUpdate :
    (∃ st ∈ ofUpdate grantee ps qs rs ts, st.Revokes p) ↔ ∃ q ∈ qs, q.SameGrant p := by
  rw [ofUpdate, exists_mem_append_left fun st h => (only_roles h).2 p,
    exists_mem_append_right fun st h => (only_grants h).1 p, exists_revokes_ofPrivilegeRevokes]

/-- An update revokes the roles that it is given to revoke, whatever their options. -/
theorem exists_revokesRole_ofUpdate :
    (∃ st ∈ ofUpdate grantee ps qs rs ts, st.RevokesRole r) ↔ ∃ t ∈ ts, t.SameGrant r := by
  rw [ofUpdate, exists_mem_append_right fun st h => (only_privileges h).2 r,
    exists_mem_append_right fun st h => (only_grantsRole h).2.2 r,
    exists_revokesRole_ofRoleRevokes]

end update

section planned

variable {grantee defaultSchema : Text} {toGrant toRevoke rolesToGrant rolesToRevoke : List Text}
  {statements : List Statement}

/-- A plan is that of an update whose strings are all read. -/
theorem exists_ofUpdate_of_planUpdate
    (h : planUpdate grantee defaultSchema toGrant toRevoke rolesToGrant rolesToRevoke =
      .ok statements) :
    ∃ ps qs rs ts, Privilege.parseAll toGrant defaultSchema = .ok ps ∧
      Privilege.parseAll toRevoke defaultSchema = .ok qs ∧
      Role.parseAll rolesToGrant = .ok rs ∧ Role.parseAll rolesToRevoke = .ok ts ∧
      statements = ofUpdate grantee ps qs rs ts := by
  obtain ⟨_, _, hprivileges, hroles, rfl⟩ := planUpdate_eq_ok_iff.mp h
  obtain ⟨ps, qs, hps, hqs, rfl⟩ := planPrivileges_eq_ok_iff.mp hprivileges
  obtain ⟨rs, ts, hrs, hts, rfl⟩ := planRoles_eq_ok_iff.mp hroles
  exact ⟨ps, qs, rs, ts, hps, hqs, hrs, hts, rfl⟩

/-- A plan grants what the strings to grant say. -/
theorem exists_grants_iff
    (h : planUpdate grantee defaultSchema toGrant toRevoke rolesToGrant rolesToRevoke =
      .ok statements) {p : Privilege} :
    (∃ st ∈ statements, st.Grants p) ↔
      ∃ raw ∈ toGrant, Privilege.parse raw defaultSchema = .ok p := by
  obtain ⟨ps, qs, rs, ts, hps, -, -, -, rfl⟩ := exists_ofUpdate_of_planUpdate h
  rw [exists_grants_ofUpdate, Privilege.mem_parseAll hps]

/-- A plan revokes what the strings to revoke say, whatever their options. -/
theorem exists_revokes_iff
    (h : planUpdate grantee defaultSchema toGrant toRevoke rolesToGrant rolesToRevoke =
      .ok statements) {p : Privilege} :
    (∃ st ∈ statements, st.Revokes p) ↔
      ∃ raw ∈ toRevoke, ∃ q, Privilege.parse raw defaultSchema = .ok q ∧ q.SameGrant p := by
  obtain ⟨ps, qs, rs, ts, -, hqs, -, -, rfl⟩ := exists_ofUpdate_of_planUpdate h
  rw [exists_revokes_ofUpdate]
  constructor
  · rintro ⟨q, hq, hsame⟩
    obtain ⟨raw, hraw, hparse⟩ := (Privilege.mem_parseAll hqs).mp hq
    exact ⟨raw, hraw, q, hparse, hsame⟩
  · rintro ⟨raw, hraw, q, hparse, hsame⟩
    exact ⟨q, (Privilege.mem_parseAll hqs).mpr ⟨raw, hraw, hparse⟩, hsame⟩

/-- A plan revokes the roles that the strings to revoke say, whatever their options. -/
theorem exists_revokesRole_iff
    (h : planUpdate grantee defaultSchema toGrant toRevoke rolesToGrant rolesToRevoke =
      .ok statements) {r : Role} :
    (∃ st ∈ statements, st.RevokesRole r) ↔
      ∃ raw ∈ rolesToRevoke, ∃ s, Role.parse raw = .ok s ∧ s.SameGrant r := by
  obtain ⟨ps, qs, rs, ts, -, -, -, hts, rfl⟩ := exists_ofUpdate_of_planUpdate h
  rw [exists_revokesRole_ofUpdate]
  constructor
  · rintro ⟨s, hs, hsame⟩
    obtain ⟨raw, hraw, hparse⟩ := (Role.mem_parseAll hts).mp hs
    exact ⟨raw, hraw, s, hparse, hsame⟩
  · rintro ⟨raw, hraw, s, hparse, hsame⟩
    exact ⟨s, (Role.mem_parseAll hts).mpr ⟨raw, hraw, hparse⟩, hsame⟩

end planned

end Statement

end AccessGrants
