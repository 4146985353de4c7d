import AccessGrants.Proofs.Running
import Mathlib.Data.Finset.Union

/-!
# What a grantee holds

Seen from outside, a database keeps a finite set of privileges and one of roles for a grantee. A
statement changes these sets: a grant adds what it names, with its option, and a revoke takes out
what it names, whatever the option.

* `Held` is what a grantee holds; `Held.apply` is the effect of a statement, `Held.run` that of a
  list.
* `Held.mem_run_update_privileges`, `Held.mem_run_update_roles`: what is held after an update.
* `Shows`: the catalog of a database shows what is held, as tables do (`Shows.ofTables`).
* `Performs`: a database runs a list of statements, each with its effect; `Pass.reconcile_performs`
  is a pass over such a database.
-/

namespace AccessGrants

/-- The privileges and the roles that a grantee holds. -/
structure Held where
  privileges : Finset Privilege
  roles : Finset Role

namespace Held

/-! ## Effects of statements -/

/-- What is held after a statement. -/
def apply (h : Held) : Statement → Held
  | .grantPrivilegeBatch batch _ => ⟨h.privileges ∪ batch.expand.toFinset, h.roles⟩
  | .revokePrivilegeBatch batch _ =>
    ⟨h.privileges.filter fun p => ∀ q ∈ batch.expand, ¬ q.SameGrant p, h.roles⟩
  | .grantRoleBatch batch _ => ⟨h.privileges, h.roles ∪ batch.expand.toFinset⟩
  | .revokeRoleNames names _ => ⟨h.privileges, h.roles.filter fun r => r.name ∉ names⟩

/-- What is held after a list of statements. -/
def run (h : Held) (statements : List Statement) : Held :=
  statements.foldl apply h

@[simp] theorem run_nil (h : Held) : h.run [] = h := rfl

@[simp] theorem run_cons (h : Held) (st : Statement) (rest : List Statement) :
    h.run (st :: rest) = (h.apply st).run rest := rfl

@[simp] theorem run_append (h : Held) (first second : List Statement) :
    h.run (first ++ second) = (h.run first).run second :=
  List.foldl_append

/-- A privilege is held after a statement if the statement grants it, or if it was held and the
statement does not revoke it. -/
theorem mem_apply_privileges {h : Held} {st : Statement} {p : Privilege} :
    p ∈ (h.apply st).privileges ↔ p ∈ h.privileges ∧ ¬ st.Revokes p ∨ st.Grants p := by
  cases st <;> simp [apply, Statement.Revokes, Statement.Grants]

/-- A role is held after a statement if the statement grants it, or if it was held and the statement
does not revoke it. -/
theorem mem_apply_roles {h : Held} {st : Statement} {r : Role} :
    r ∈ (h.apply st).roles ↔ r ∈ h.roles ∧ ¬ st.RevokesRole r ∨ st.GrantsRole r := by
  cases st <;> simp [apply, Statement.RevokesRole, Statement.GrantsRole]

/-! ## Effects of lists -/

section run

variable (holds : Held → Prop) {gives takes : Statement → Prop} {h : Held}
  {statements : List Statement}

/-- What no statement of a list takes out is held after the list if it was held before or if a
statement gives it. -/
theorem run_iff_of_no_takes (hstep : ∀ h st, holds (h.apply st) ↔ holds h ∧ ¬ takes st ∨ gives st)
    (hnone : ∀ st ∈ statements, ¬ takes st) :
    holds (h.run statements) ↔ holds h ∨ ∃ st ∈ statements, gives st := by
  induction statements generalizing h with
  | nil => simp
  | cons st rest ih =>
      rw [run_cons, ih fun st' hst => hnone st' (List.mem_cons_of_mem _ hst), hstep]
      simp [hnone st List.mem_cons_self, or_assoc]

/-- What no statement of a list gives is held after the list if it was held before and no statement
takes it out. -/
theorem run_iff_of_no_gives (hstep : ∀ h st, holds (h.apply st) ↔ holds h ∧ ¬ takes st ∨ gives st)
    (hnone : ∀ st ∈ statements, ¬ gives st) :
    holds (h.run statements) ↔ holds h ∧ ¬ ∃ st ∈ statements, takes st := by
  induction statements generalizing h with
  | nil => simp
  | cons st rest ih =>
      rw [run_cons, ih fun st' hst => hnone st' (List.mem_cons_of_mem _ hst), hstep]
      simp [hnone st List.mem_cons_self, and_assoc]

/-- What an update leaves that gives first and takes out afterwards. -/
theorem run_append_iff {first second : List Statement}
    (hstep : ∀ h st, holds (h.apply st) ↔ holds h ∧ ¬ takes st ∨ gives st)
    (hfirst : ∀ st ∈ first, ¬ takes st) (hsecond : ∀ st ∈ second, ¬ gives st) :
    holds (h.run (first ++ second)) ↔
      (holds h ∨ ∃ st ∈ first, gives st) ∧ ¬ ∃ st ∈ second, takes st := by
  rw [run_append, run_iff_of_no_gives holds hstep hsecond, run_iff_of_no_takes holds hstep hfirst]

end run

section update

open Statement

variable {h : Held} {grantee : Text} {ps qs : List Privilege} {rs ts : List Role}

/-- After an update the grantee holds the privileges that it held or was granted, without those that
were revoked. -/
theorem mem_run_update_privileges {p : Privilege} :
    p ∈ (h.run (ofUpdate grantee ps qs rs ts)).privileges ↔
      (p ∈ h.privileges ∨ p ∈ ps) ∧ ¬ ∃ q ∈ qs, q.SameGrant p := by
  have hgrants : ∀ st ∈ ofPrivilegeGrants grantee ps, ¬ st.Revokes p :=
    fun st hst => (only_grants hst).1 p
  have hroles : ∀ st ∈ ofRoleGrants grantee rs ++ ofRoleRevokes grantee ts,
      ¬ st.Grants p ∧ ¬ st.Revokes p :=
    fun st hst => ⟨(only_roles hst).1 p, (only_roles hst).2 p⟩
  have hrevokes : ∀ st ∈ ofPrivilegeRevokes grantee qs ++
      (ofRoleGrants grantee rs ++ ofRoleRevokes grantee ts), ¬ st.Grants p :=
    List.forall_mem_append.mpr
      ⟨fun st hst => (only_revokes hst).1 p, fun st hst => (hroles st hst).1⟩
  rw [ofUpdate, List.append_assoc]
  refine (run_append_iff (p ∈ ·.privileges) (fun _ _ => mem_apply_privileges) hgrants
    hrevokes).trans ?_
  rw [exists_grants_ofPrivilegeGrants, exists_mem_append_left fun st hst => (hroles st hst).2,
    exists_revokes_ofPrivilegeRevokes]

/-- After an update the grantee holds the roles that it held or was granted, without those that were
revoked. -/
theorem mem_run_update_roles {r : Role} :
    r ∈ (h.run (ofUpdate grantee ps qs rs ts)).roles ↔
      (r ∈ h.roles ∨ r ∈ rs) ∧ ¬ ∃ t ∈ ts, t.SameGrant r := by
  have hprivileges : ∀ st ∈ ofPrivilegeGrants grantee ps ++ ofPrivilegeRevokes grantee qs,
      ¬ st.GrantsRole r ∧ ¬ st.RevokesRole r :=
    fun st hst => ⟨(only_privileges hst).1 r, (only_privileges hst).2 r⟩
  have hgrants : ∀ st ∈ ofPrivilegeGrants grantee ps ++ ofPrivilegeRevokes grantee qs ++
      ofRoleGrants grantee rs, ¬ st.RevokesRole r :=
    List.forall_mem_append.mpr
      ⟨fun st hst => (hprivileges st hst).2, fun st hst => (only_grantsRole hst).2.2 r⟩
  have hrevokes : ∀ st ∈ ofRoleRevokes grantee ts, ¬ st.GrantsRole r :=
    fun st hst => (only_revokesRole hst).2.2 r
  rw [ofUpdate, ← List.append_assoc]
  refine (run_append_iff (r ∈ ·.roles) (fun _ _ => mem_apply_roles) hgrants hrevokes).trans ?_
  rw [exists_mem_append_right fun st hst => (hprivileges st hst).1,
    exists_grantsRole_ofRoleGrants, exists_revokesRole_ofRoleRevokes]

end update

end Held

/-! ## Databases that keep what is held -/

section database

variable {σ ε : Type} {connection : Connection σ ε} {held : σ → Held}

/-- The catalog shows exactly what the grantee of a specification holds, and reading it changes
nothing of that. -/
structure Shows (connection : Connection σ ε) (held : σ → Held) (spec : Spec) : Prop where
  privileges (s : σ) : ∃ strings s',
    Catalog.readPrivileges connection spec.grantee spec.granteeType s = (.ok strings, s') ∧
      held s' = held s ∧ ∀ t, t ∈ strings ↔ ∃ p ∈ (held s).privileges, p.display = t
  roles (s : σ) : ∃ strings s',
    Catalog.readRoles connection spec.grantee spec.granteeType s = (.ok strings, s') ∧
      held s' = held s ∧ ∀ t, t ∈ strings ↔ ∃ r ∈ (held s).roles, r.render = t

/-- Tables show what their rows say, whatever the statements do to them. -/
theorem Shows.ofTables {privilegeRows roleRows : σ → List Row} {run : Text → σ → σ}
    {ps : σ → List Privilege} {rs : σ → List Role} {spec : Spec}
    (hprivileges : ∀ s, (privilegeRows s).mapM Privilege.ofRow = .ok (ps s))
    (hroles : ∀ s, (roleRows s).mapM Role.ofRow = .ok (rs s)) :
    Shows (.ofTables privilegeRows roleRows run) (fun s => ⟨(ps s).toFinset, (rs s).toFinset⟩)
      spec where
  privileges s := by
    have hstrings : Catalog.privilegeStrings (privilegeRows s) =
        .ok ((ps s).map Privilege.display) :=
      bind_eq_ok_iff.mpr ⟨ps s, hprivileges s, rfl⟩
    refine ⟨(ps s).map Privilege.display, s, ?_, rfl, fun t => ?_⟩
    · rw [Catalog.readPrivileges_ofTables, hstrings]
      rfl
    · simp only [List.mem_map, List.mem_toFinset]
  roles s := by
    have hstrings : Catalog.roleStrings (roleRows s) = .ok ((rs s).map Role.render) :=
      bind_eq_ok_iff.mpr ⟨rs s, hroles s, rfl⟩
    refine ⟨(rs s).map Role.render, s, ?_, rfl, fun t => ?_⟩
    · rw [Catalog.readRoles_ofTables, hstrings]
      rfl
    · simp only [List.mem_map, List.mem_toFinset]

/-- A database runs a list of statements, each of which succeeds and has its effect on what is
held. -/
inductive Performs (connection : Connection σ ε) (held : σ → Held) : List Statement → σ → σ → Prop
  | nil (s : σ) : Performs connection held [] s s
  | cons {st : Statement} {rest : List Statement} {s s₁ s₂ : σ}
      (hrun : connection.execute st.text s = (.ok (), s₁))
      (heffect : held s₁ = (held s).apply st) (hrest : Performs connection held rest s₁ s₂) :
      Performs connection held (st :: rest) s s₂

namespace Performs

/-- The effect of a list is that of its statements one after the other. -/
theorem held_eq {statements : List Statement} {s s' : σ}
    (h : Performs connection held statements s s') : held s' = (held s).run statements := by
  induction h with
  | nil s => rfl
  | cons hrun heffect hrest ih => rw [ih, heffect, Held.run_cons]

/-- A database that runs two lists in a row runs the first and then the second. -/
theorem of_append {first second : List Statement} {s s' : σ}
    (h : Performs connection held (first ++ second) s s') :
    ∃ s₁, Performs connection held first s s₁ ∧ Performs connection held second s₁ s' := by
  induction first generalizing s with
  | nil => exact ⟨s, .nil s, h⟩
  | cons st rest ih =>
      cases h with
      | cons hrun heffect hrest =>
          obtain ⟨s₁, hfirst, hsecond⟩ := ih hrest
          exact ⟨s₁, .cons hrun heffect hfirst, hsecond⟩

/-- An executor that is not dry runs a list that the database runs, to its end. -/
theorem runAll {statements : List Statement} {s s' : σ}
    (h : Performs connection held statements s s') (before : List (Record ε)) :
    ∃ records, (Executor.mk connection false).runAll (statements.map Statement.command)
      ⟨s, before⟩ = (.ok records, ⟨s', before ++ records⟩) := by
  induction h generalizing before with
  | nil s => exact ⟨[], by simp [Executor.runAll]⟩
  | @cons st rest s s₁ s₂ hrun heffect hrest ih =>
      obtain ⟨records, hrecords⟩ := ih (before ++ [Executor.succeeded st.command])
      refine ⟨Executor.succeeded st.command :: records, ?_⟩
      rw [List.map_cons, Executor.runAll_cons_of_ok (Executor.run_of_ok rfl hrun), hrecords]
      simp [Except.map]

/-- A plan that the database runs is run to its end. -/
theorem runPlan {statements : List Statement} {s s' : σ}
    (h : Performs connection held statements s s') (before : List (Record ε)) :
    ∃ records, (Executor.mk connection false).runPlan (.ok statements) ⟨s, before⟩ =
      (.ok records, ⟨s', before ++ records⟩) := by
  obtain ⟨records, hrecords⟩ := h.runAll before
  refine ⟨records, ?_⟩
  rw [Executor.runPlan_ok, hrecords]
  rfl

end Performs

/-- A pass whose plan the database runs succeeds, and records the statements of the plan. -/
theorem Pass.reconcile_performs {spec : Spec} {previouslyManaged : List Text} {s s₁ s₂ : σ}
    {statements : List Statement}
    (hplan : plan connection spec previouslyManaged s = (.ok statements, s₁))
    (hrun : Performs connection held statements s₁ s₂) (before : List (Record ε)) :
    ∃ c records, compare connection spec previouslyManaged s = (.ok c, s₁) ∧
      reconcile ⟨connection, false⟩ spec previouslyManaged ⟨s, before⟩ =
        (.ok ⟨c, records⟩, ⟨s₂, before ++ records⟩) ∧
      records.map Record.command = statements.map Statement.command := by
  obtain ⟨ran, -, hrecorded, hall⟩ := reconcile_records (x := ⟨connection, false⟩) hplan before
  obtain ⟨c, privileges, roles, hcompare, rfl, hreconcile⟩ :=
    reconcile_of_plan (x := ⟨connection, false⟩) hplan before
  obtain ⟨t, hprivileges, hroles⟩ := hrun.of_append
  obtain ⟨first, hfirst⟩ := hprivileges.runPlan before
  obtain ⟨second, hsecond⟩ := hroles.runPlan (before ++ first)
  have hresult : reconcile ⟨connection, false⟩ spec previouslyManaged ⟨s, before⟩ =
      (.ok ⟨c, first ++ second⟩, ⟨s₂, before ++ (first ++ second)⟩) := by
    rw [hreconcile, hfirst]
    dsimp only
    rw [hsecond, List.append_assoc]
  refine ⟨c, first ++ second, hcompare, hresult, ?_⟩
  rw [hresult] at hrecorded hall
  rw [hall rfl] at hrecorded
  dsimp only at hrecorded
  rw [List.map_append] at hrecorded
  exact List.append_cancel_left hrecorded

end database

end AccessGrants
