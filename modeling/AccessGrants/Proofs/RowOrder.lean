import AccessGrants.Proofs.Differing
import AccessGrants.Proofs.Executing
import AccessGrants.Proofs.Keeping

/-!
# The order of catalog rows

The queries of a pass ask for no order, so a database may show the same rows in any order, and some of
them more than once. The observed grants then agree as sets. What is to be added keeps the order of the
desired grants, so the grants of a plan stay the same. What is to be removed is batched in the order
of the rows, so only the order of the revokes and of the names in them may change.

* `Catalog.Answers`: the rows that a database shows for a grantee.
* `Comparison.Agrees`, `Comparison.agrees_ofGrants`: what two comparisons with the same observed grants
  have in common.
* `Statement.SameRevoke`, `Statement.SamePlan`: plans that differ in the order of what they revoke.
* `Statement.samePlan_ofUpdate`: an update whose revokes are the same as sets.
* `Executor.NeverFails`, `Pass.exists_reconcile_iff`: a pass over a database that refuses nothing returns
  exactly if it has a plan.
* `Pass.same_pass_of_same_rows`: passes over the same rows in any order.
-/

namespace AccessGrants

/-! ## Lists with the same members -/

section same

variable {α β γ ε : Type} {f : α → Except ε β} {g : β → γ} {xs xs' : List α}

/-- Whether a list is read, and what is read of it as a set, depends on its members alone. -/
theorem exists_mapM_of_same (hsame : ∀ x, x ∈ xs ↔ x ∈ xs') {ys : List β} (h : xs.mapM f = .ok ys) :
    ∃ ys', xs'.mapM f = .ok ys' ∧ ∀ y, y ∈ ys ↔ y ∈ ys' := by
  have hread : ∀ x ∈ xs', ∃ y, f x = .ok y := by
    intro x hx
    obtain ⟨y, -, hy⟩ := exists_of_mapM_eq_ok h ((hsame x).mpr hx)
    exact ⟨y, hy⟩
  obtain ⟨ys', hys'⟩ := exists_mapM_eq_ok hread
  refine ⟨ys', hys', fun y => ?_⟩
  rw [mem_of_mapM_eq_ok h, mem_of_mapM_eq_ok hys']
  simp only [hsame]

/-- So does what is then written of that. -/
theorem exists_written_of_same (hsame : ∀ x, x ∈ xs ↔ x ∈ xs') {zs : List γ}
    (h : (do let ys ← xs.mapM f; return ys.map g) = .ok zs) :
    ∃ zs', (do let ys ← xs'.mapM f; return ys.map g) = .ok zs' ∧ ∀ z, z ∈ zs ↔ z ∈ zs' := by
  obtain ⟨ys, hys, hzs⟩ := bind_eq_ok_iff.mp h
  cases hzs
  obtain ⟨ys', hys', hmem⟩ := exists_mapM_of_same hsame hys
  refine ⟨_, bind_eq_ok_iff.mpr ⟨ys', hys', rfl⟩, fun z => ?_⟩
  simp only [List.mem_map, hmem]

end same

/-! ## The rows of a grantee -/

namespace Catalog

variable {σ ε : Type} {connection : Connection σ ε} {s s' : σ}

/-- A database answers the two queries of a pass with some rows. -/
def Answers (connection : Connection σ ε) (spec : Spec) (s : σ) (privilegeRows roleRows : List Row)
    (s' : σ) : Prop :=
  ∃ s₁, connection.query (forGrantee privilegesQuery spec.grantee spec.granteeType).1
      ((forGrantee privilegesQuery spec.grantee spec.granteeType).2.map Value.text) s =
        (.ok privilegeRows, s₁) ∧
    connection.query (forGrantee rolesQuery spec.grantee spec.granteeType).1
      ((forGrantee rolesQuery spec.grantee spec.granteeType).2.map Value.text) s₁ =
        (.ok roleRows, s')

/-- Tables answer with their rows. -/
theorem answers_ofTables {privilegeRows roleRows : σ → List Row} {run : Text → σ → σ} (spec : Spec)
    (s : σ) :
    Answers (.ofTables privilegeRows roleRows run) spec s (privilegeRows s) (roleRows s) s := by
  refine ⟨s, ?_, ?_⟩
  · simp only [Connection.ofTables, isPrefixOf_privilegesQuery, if_true]
  · simp only [Connection.ofTables, isPrefixOf_rolesQuery, Bool.false_eq_true, if_false]

/-- Privileges are read alike from the same rows in any order. -/
theorem exists_privilegeStrings_of_same {rows rows' : List Row}
    (hsame : ∀ row, row ∈ rows ↔ row ∈ rows') {observed : List Text}
    (h : privilegeStrings rows = .ok observed) :
    ∃ observed', privilegeStrings rows' = .ok observed' ∧ ∀ t, t ∈ observed ↔ t ∈ observed' :=
  exists_written_of_same hsame h

/-- So are roles. -/
theorem exists_roleStrings_of_same {rows rows' : List Row}
    (hsame : ∀ row, row ∈ rows ↔ row ∈ rows') {observed : List Text}
    (h : roleStrings rows = .ok observed) :
    ∃ observed', roleStrings rows' = .ok observed' ∧ ∀ t, t ∈ observed ↔ t ∈ observed' :=
  exists_written_of_same hsame h

end Catalog

/-- A pass compares what the rows of the answers say. -/
theorem Pass.compare_eq_ok_iff_of_answers {σ ε : Type} {connection : Connection σ ε} {spec : Spec}
    {s s' s₂ : σ} {privilegeRows roleRows : List Row}
    (h : Catalog.Answers connection spec s privilegeRows roleRows s')
    {previouslyManaged : List Text} {c : Comparison} :
    compare connection spec previouslyManaged s = (.ok c, s₂) ↔ s₂ = s' ∧ ∃ D DR O OR,
      spec.desiredGrants = .ok (D, DR) ∧ Catalog.privilegeStrings privilegeRows = .ok O ∧
        Catalog.roleStrings roleRows = .ok OR ∧
        c = Comparison.ofGrants spec previouslyManaged D DR O OR := by
  obtain ⟨s₁, hprivileges, hroles⟩ := h
  have hreadPrivileges : Catalog.readPrivileges connection spec.grantee spec.granteeType s =
      ((Catalog.privilegeStrings privilegeRows).mapError .row, s₁) :=
    Catalog.readRows_of_query hprivileges
  have hreadRoles : Catalog.readRoles connection spec.grantee spec.granteeType s₁ =
      ((Catalog.roleStrings roleRows).mapError .row, s') := Catalog.readRows_of_query hroles
  rw [compare_eq_ok_iff]
  constructor
  · rintro ⟨D, DR, O, OR, s₃, hdesired, hO, hOR, hc⟩
    rw [hreadPrivileges, Prod.mk.injEq, mapError_eq_ok_iff] at hO
    obtain ⟨hO, rfl⟩ := hO
    rw [hreadRoles, Prod.mk.injEq, mapError_eq_ok_iff] at hOR
    exact ⟨hOR.2.symm, D, DR, O, OR, hdesired, hO, hOR.1, hc⟩
  · rintro ⟨rfl, D, DR, O, OR, hdesired, hO, hOR, hc⟩
    refine ⟨D, DR, O, OR, s₁, hdesired, ?_, ?_, hc⟩
    · rw [hreadPrivileges, hO]
      rfl
    · rw [hreadRoles, hOR]
      rfl

/-! ## Comparing with the same observed grants -/

namespace Difference

variable {α : Type} [DecidableEq α] {desired observed observed' : List α}

/-- What is to be added depends on what is observed as a set alone. -/
theorem toAdd_between_congr (hsame : ∀ a, a ∈ observed ↔ a ∈ observed') :
    (between desired observed).toAdd = (between desired observed').toAdd := by
  have hlacking := (lacking_between desired observed').1
  apply (lacking_between desired observed).1.unique
  refine ⟨fun a => ?_, hlacking.nodup, hlacking.sublist, hlacking.ordered⟩
  rw [hlacking.mem_iff, hsame]

/-- So does whether there is anything to do. -/
theorem equal_between_congr (hsame : ∀ a, a ∈ observed ↔ a ∈ observed') :
    (between desired observed).equal = (between desired observed').equal := by
  rw [Bool.eq_iff_iff, equal_between_iff, equal_between_iff]
  simp only [hsame]

end Difference

namespace Comparison

variable {c c' : Comparison}

/-- Two comparisons add the same grants in the same order, and remove the same ones in any order. Both
have something to do, or neither has. -/
structure Agrees (c c' : Comparison) : Prop where
  added : c.privilegeDifference.toAdd = c'.privilegeDifference.toAdd
  removed : ∀ t, t ∈ c.privilegeDifference.toRemove ↔ t ∈ c'.privilegeDifference.toRemove
  addedRoles : c.roleDifference.toAdd = c'.roleDifference.toAdd
  removedRoles : ∀ t, t ∈ c.roleDifference.toRemove ↔ t ∈ c'.roleDifference.toRemove
  changed : c.changed = c'.changed

/-- Comparisons with observed grants that agree as sets are such. -/
theorem agrees_ofGrants {O O' OR OR' : List Text} (hprivileges : ∀ t, t ∈ O ↔ t ∈ O')
    (hroles : ∀ t, t ∈ OR ↔ t ∈ OR') (spec : Spec) (previouslyManaged D DR : List Text) :
    (ofGrants spec previouslyManaged D DR O OR).Agrees
      (ofGrants spec previouslyManaged D DR O' OR') := by
  have howned : ∀ t, t ∈ spec.policy.owned O D previouslyManaged spec.defaultSchema ↔
      t ∈ spec.policy.owned O' D previouslyManaged spec.defaultSchema := by
    intro t
    cases spec.policy with
    | strict => exact hprivileges t
    | lax => rw [ManagementPolicy.mem_owned_lax, ManagementPolicy.mem_owned_lax, hprivileges]
  constructor
  · exact Difference.toAdd_between_congr howned
  · intro t
    simp only [ofGrants, Difference.mem_toRemove_between, howned]
  · exact Difference.toAdd_between_congr hroles
  · intro t
    simp only [ofGrants, Difference.mem_toRemove_between, hroles]
  · simp only [changed, ofGrants, Difference.equal_between_congr howned,
      Difference.equal_between_congr hroles]

end Comparison

/-! ## Plans that revoke the same -/

namespace Statement

variable {grantee defaultSchema : Text} {ps qs qs' : List Privilege} {rs ts ts' : List Role}

/-- Two statements revoke the same privileges or the same roles, in any order. -/
inductive SameRevoke : Statement → Statement → Prop
  | privileges {batch batch' : PrivilegeBatch} {grantee : Text} (hkey : batch.key = batch'.key)
      (hnames : batch.names.Perm batch'.names) :
      SameRevoke (.revokePrivilegeBatch batch grantee) (.revokePrivilegeBatch batch' grantee)
  | roles {names names' : List Text} {grantee : Text} (hnames : names.Perm names') :
      SameRevoke (.revokeRoleNames names grantee) (.revokeRoleNames names' grantee)

/-- Two plans have the same grants in the same order, and for each revoke of one the other has one that
revokes the same. -/
structure SamePlan (sts sts' : List Statement) : Prop where
  grants : sts.filter (·.action = .grant) = sts'.filter (·.action = .grant)
  revokes : ∃ revokes, revokes.Perm (sts'.filter (·.action = .revoke)) ∧
    List.Forall₂ SameRevoke (sts.filter (·.action = .revoke)) revokes

/-- Statements of one action are all of that action. -/
theorem filter_of_action {sts : List Statement} {action : Action}
    (h : ∀ st ∈ sts, st.action = action) : sts.filter (·.action = action) = sts := by
  rw [List.filter_eq_self]
  intro st hst
  simp [h st hst]

/-- None of them is of another one. -/
theorem filter_of_other_action {sts : List Statement} {action other : Action}
    (h : ∀ st ∈ sts, st.action = action) (hne : action ≠ other) :
    sts.filter (·.action = other) = [] := by
  rw [List.filter_eq_nil_iff]
  intro st hst
  simp [h st hst, hne]

/-- The grants of an update, and its revokes. -/
theorem filter_ofUpdate (grantee : Text) (ps qs : List Privilege) (rs ts : List Role) :
    (ofUpdate grantee ps qs rs ts).filter (·.action = .grant) =
        ofPrivilegeGrants grantee ps ++ ofRoleGrants grantee rs ∧
      (ofUpdate grantee ps qs rs ts).filter (·.action = .revoke) =
        ofPrivilegeRevokes grantee qs ++ ofRoleRevokes grantee ts := by
  have hgrants : ∀ st ∈ ofPrivilegeGrants grantee ps, st.action = .grant := by
    intro st hst
    obtain ⟨batch, -, rfl⟩ := mem_ofPrivilegeGrants.mp hst
    rfl
  have hrevokes : ∀ st ∈ ofPrivilegeRevokes grantee qs, st.action = .revoke := by
    intro st hst
    obtain ⟨batch, -, rfl⟩ := mem_ofPrivilegeRevokes.mp hst
    rfl
  have hroleGrants : ∀ st ∈ ofRoleGrants grantee rs, st.action = .grant := by
    intro st hst
    obtain ⟨batch, -, rfl⟩ := mem_ofRoleGrants.mp hst
    rfl
  have hroleRevokes : ∀ st ∈ ofRoleRevokes grantee ts, st.action = .revoke := by
    intro st hst
    obtain ⟨-, rfl⟩ := mem_ofRoleRevokes.mp hst
    rfl
  have hapart : Action.grant ≠ .revoke := by decide
  unfold ofUpdate
  simp only [List.filter_append]
  constructor
  · rw [filter_of_action hgrants, filter_of_action hroleGrants,
      filter_of_other_action hrevokes hapart.symm,
      filter_of_other_action hroleRevokes hapart.symm, List.append_nil, List.append_nil]
  · rw [filter_of_action hrevokes, filter_of_action hroleRevokes,
      filter_of_other_action hgrants hapart, filter_of_other_action hroleGrants hapart,
      List.nil_append, List.nil_append]

/-- Privileges that agree as sets are revoked by the same statements. -/
theorem exists_revokes_of_same (grantee : Text) (hsame : ∀ q, q ∈ qs ↔ q ∈ qs') :
    ∃ revokes, revokes.Perm (ofPrivilegeRevokes grantee qs') ∧
      List.Forall₂ SameRevoke (ofPrivilegeRevokes grantee qs) revokes := by
  obtain ⟨batches, hperm, hbatches⟩ := PrivilegeBatch.isBatching_group.same qs qs' hsame
  refine ⟨batches.map fun batch => .revokePrivilegeBatch batch grantee, hperm.map _, ?_⟩
  unfold ofPrivilegeRevokes
  rw [List.forall₂_map_left_iff, List.forall₂_map_right_iff]
  apply hbatches.imp
  rintro batch batch' ⟨hkey, hexpand⟩
  refine .privileges hkey ?_
  -- a batch expands into one privilege for each of its names
  have hnames : ∀ b : PrivilegeBatch, b.expand.map Privilege.name = b.names := by
    intro b
    unfold PrivilegeBatch.expand
    rw [List.map_map]
    exact List.map_id'' (fun _ => rfl) _
  rw [← hnames batch, ← hnames batch']
  exact hexpand.map _

/-- So are roles, by one statement or by none. -/
theorem sameRevoke_of_same (grantee : Text) (hsame : ∀ t, t ∈ ts ↔ t ∈ ts') :
    List.Forall₂ SameRevoke (ofRoleRevokes grantee ts) (ofRoleRevokes grantee ts') := by
  have hnames : (distinct (ts.map Role.name)).Perm (distinct (ts'.map Role.name)) := by
    rw [List.perm_ext_iff_of_nodup (nodup_distinct _) (nodup_distinct _)]
    intro name
    simp only [mem_distinct, List.mem_map, hsame]
  unfold ofRoleRevokes
  split
  · next hnil =>
    rw [hnil, List.nil_perm] at hnames
    rw [hnames]
    exact .nil
  · next hsome =>
    split
    · next hnil =>
      rw [hnil, List.perm_nil] at hnames
      exact absurd hnames hsome
    · exact .cons (.roles hnames) .nil

/-- Updates that grant the same and revoke the same as sets have the same plan. -/
theorem samePlan_ofUpdate (grantee : Text) (ps : List Privilege) (rs : List Role)
    (hprivileges : ∀ q, q ∈ qs ↔ q ∈ qs') (hroles : ∀ t, t ∈ ts ↔ t ∈ ts') :
    SamePlan (ofUpdate grantee ps qs rs ts) (ofUpdate grantee ps qs' rs ts') := by
  obtain ⟨hgrants, hrevokes⟩ := filter_ofUpdate grantee ps qs rs ts
  obtain ⟨hgrants', hrevokes'⟩ := filter_ofUpdate grantee ps qs' rs ts'
  constructor
  · rw [hgrants, hgrants']
  · obtain ⟨revokes, hperm, hsame⟩ := exists_revokes_of_same grantee hprivileges
    rw [hrevokes, hrevokes']
    exact ⟨revokes ++ ofRoleRevokes grantee ts', hperm.append_right _,
      List.rel_append hsame (sameRevoke_of_same grantee hroles)⟩

/-- A plan for one comparison goes with one for any other that agrees with it. -/
theorem exists_planUpdate_of_agrees {c c' : Comparison} (h : c.Agrees c') {sts : List Statement}
    (hplan : planUpdate grantee defaultSchema c.privilegeDifference.toAdd
      c.privilegeDifference.toRemove c.roleDifference.toAdd c.roleDifference.toRemove = .ok sts) :
    ∃ sts', planUpdate grantee defaultSchema c'.privilegeDifference.toAdd
        c'.privilegeDifference.toRemove c'.roleDifference.toAdd c'.roleDifference.toRemove =
          .ok sts' ∧ SamePlan sts sts' := by
  obtain ⟨ps, qs, rs, ts, hps, hqs, hrs, hts, rfl⟩ := exists_ofUpdate_of_planUpdate hplan
  obtain ⟨qs', hqs', hprivileges⟩ := exists_mapM_of_same h.removed hqs
  obtain ⟨ts', hts', hroles⟩ := exists_mapM_of_same h.removedRoles hts
  rw [h.added] at hps
  rw [h.addedRoles] at hrs
  exact ⟨_, planUpdate_of_parseAll hps hqs' hrs hts', samePlan_ofUpdate _ _ _ hprivileges hroles⟩

end Statement

/-! ## Databases that refuse nothing -/

/-- An executor never fails: it runs nothing, or its database runs every statement. -/
def Executor.NeverFails {σ ε : Type} (x : Executor σ ε) : Prop :=
  x.dryRun = true ∨ ∀ text s, (x.connection.execute text s).1 = .ok ()

/-- It gets to the end of any list. -/
theorem Executor.exists_runAll {σ ε : Type} {x : Executor σ ε} (h : x.NeverFails)
    (commands : List Command) (s : Session σ ε) :
    ∃ records t, x.runAll commands s = (.ok records, t) := by
  have hone : ∀ command s, ∃ record t, x.run command s = (.ok record, t) := by
    intro command s
    unfold run
    split
    · exact ⟨_, _, rfl⟩
    · next hrun =>
      have hexecute := h.resolve_left hrun command.statement s.state
      rcases hresult : x.connection.execute command.statement s.state with ⟨e | ⟨⟩, state⟩
      · rw [hresult] at hexecute
        cases hexecute
      · exact ⟨_, _, rfl⟩
  induction commands generalizing s with
  | nil => exact ⟨[], s, rfl⟩
  | cons command rest ih =>
      obtain ⟨record, s₁, hcommand⟩ := hone command s
      obtain ⟨records, t, hrest⟩ := ih s₁
      refine ⟨record :: records, t, ?_⟩
      rw [runAll_cons_of_ok hcommand, hrest]
      rfl

namespace Pass

variable {σ ε σ' ε' : Type} {x : Executor σ ε} {x' : Executor σ' ε'} {spec : Spec}
  {previouslyManaged : List Text}

/-- A pass over such a database returns exactly if it has a plan. -/
theorem exists_reconcile_iff (h : x.NeverFails) (s : Session σ ε) :
    (∃ outcome, (reconcile x spec previouslyManaged s).1 = .ok outcome) ↔
      ∃ sts, (plan x.connection spec previouslyManaged s.state).1 = .ok sts := by
  obtain ⟨s, records⟩ := s
  rcases hcompare : compare x.connection spec previouslyManaged s with ⟨e | c, s'⟩
  · simp [reconcile, plan, hcompare]
  · obtain ⟨ran, t, hran⟩ := Executor.exists_runAll h
      ((c.statements spec.defaultSchema).map Statement.command) ⟨s', records⟩
    rw [reconcile_of_compare hcompare, hran]
    dsimp only
    constructor
    · rintro ⟨outcome, houtcome⟩
      rcases hread : c.readAll spec.defaultSchema with e | ⟨⟩
      · rw [hread] at houtcome
        cases houtcome
      · have hplan := Comparison.planUpdate_eq_ok_iff.mpr ⟨hread, rfl⟩
        rw [grantee_of_compare hcompare] at hplan
        refine ⟨c.statements spec.defaultSchema, ?_⟩
        rw [plan_eq_ok_iff.mpr ⟨c, hcompare, hplan⟩]
    · rintro ⟨sts, hsts⟩
      obtain ⟨c', hcompare', hplan⟩ := plan_eq_ok_iff.mp (Prod.ext hsts rfl)
      rw [hcompare] at hcompare'
      cases hcompare'
      rw [← grantee_of_compare hcompare] at hplan
      obtain ⟨hread, -⟩ := Comparison.planUpdate_eq_ok_iff.mp hplan
      rw [hread]
      exact ⟨_, rfl⟩

section rows

variable {s t : σ} {s' t' : σ'} {privilegeRows roleRows privilegeRows' roleRows' : List Row}

/-- A comparison with some rows goes with one with the same rows in any other order. -/
theorem exists_compare_of_same {connection : Connection σ ε} {connection' : Connection σ' ε'}
    (h : Catalog.Answers connection spec s privilegeRows roleRows t)
    (h' : Catalog.Answers connection' spec s' privilegeRows' roleRows' t')
    (hprivileges : ∀ row, row ∈ privilegeRows ↔ row ∈ privilegeRows')
    (hroles : ∀ row, row ∈ roleRows ↔ row ∈ roleRows') {c : Comparison}
    (hcompare : compare connection spec previouslyManaged s = (.ok c, t)) :
    ∃ c', compare connection' spec previouslyManaged s' = (.ok c', t') ∧ c.Agrees c' := by
  obtain ⟨-, D, DR, O, OR, hdesired, hO, hOR, rfl⟩ := (compare_eq_ok_iff_of_answers h).mp hcompare
  obtain ⟨O', hO', hobserved⟩ := Catalog.exists_privilegeStrings_of_same hprivileges hO
  obtain ⟨OR', hOR', hobservedRoles⟩ := Catalog.exists_roleStrings_of_same hroles hOR
  exact ⟨_, (compare_eq_ok_iff_of_answers h').mpr ⟨rfl, D, DR, O', OR', hdesired, hO', hOR', rfl⟩,
    Comparison.agrees_ofGrants hobserved hobservedRoles spec previouslyManaged D DR⟩

/-- So does a plan. -/
theorem exists_plan_of_same {connection : Connection σ ε} {connection' : Connection σ' ε'}
    (h : Catalog.Answers connection spec s privilegeRows roleRows t)
    (h' : Catalog.Answers connection' spec s' privilegeRows' roleRows' t')
    (hprivileges : ∀ row, row ∈ privilegeRows ↔ row ∈ privilegeRows')
    (hroles : ∀ row, row ∈ roleRows ↔ row ∈ roleRows') {sts : List Statement}
    (hplan : (plan connection spec previouslyManaged s).1 = .ok sts) :
    ∃ sts', (plan connection' spec previouslyManaged s').1 = .ok sts' ∧
      Statement.SamePlan sts sts' := by
  obtain ⟨c, hcompare, hupdate⟩ := plan_eq_ok_iff.mp (Prod.ext hplan rfl)
  obtain ⟨hstate, -⟩ := (compare_eq_ok_iff_of_answers h).mp hcompare
  rw [hstate] at hcompare
  obtain ⟨c', hcompare', hagrees⟩ := exists_compare_of_same h h' hprivileges hroles hcompare
  obtain ⟨sts', hupdate', hsame⟩ := Statement.exists_planUpdate_of_agrees hagrees hupdate
  refine ⟨sts', ?_, hsame⟩
  rw [plan_eq_ok_iff.mpr ⟨c', hcompare', hupdate'⟩]

/-- Passes over the same rows, in any order and with any repetitions, have a plan or fail alike. Their
plans have the same grants in the same order, and for each revoke of one the other has one that revokes
the same privileges or roles. What they return says alike whether there was anything to do, and over
databases that refuse nothing they return alike. -/
theorem same_pass_of_same_rows (x : Executor σ ε) (x' : Executor σ' ε')
    (h : Catalog.Answers x.connection spec s privilegeRows roleRows t)
    (h' : Catalog.Answers x'.connection spec s' privilegeRows' roleRows' t')
    (hprivileges : ∀ row, row ∈ privilegeRows ↔ row ∈ privilegeRows')
    (hroles : ∀ row, row ∈ roleRows ↔ row ∈ roleRows') (previouslyManaged : List Text)
    (records : List (Record ε)) (records' : List (Record ε')) :
    ((∃ sts, (plan x.connection spec previouslyManaged s).1 = .ok sts) ↔
      ∃ sts', (plan x'.connection spec previouslyManaged s').1 = .ok sts') ∧
    (∀ sts sts', (plan x.connection spec previouslyManaged s).1 = .ok sts →
      (plan x'.connection spec previouslyManaged s').1 = .ok sts' → Statement.SamePlan sts sts') ∧
    (∀ outcome outcome', (reconcile x spec previouslyManaged ⟨s, records⟩).1 = .ok outcome →
      (reconcile x' spec previouslyManaged ⟨s', records'⟩).1 = .ok outcome' →
        outcome.comparison.changed = outcome'.comparison.changed) ∧
    (x.NeverFails → x'.NeverFails →
      ((∃ outcome, (reconcile x spec previouslyManaged ⟨s, records⟩).1 = .ok outcome) ↔
        ∃ outcome', (reconcile x' spec previouslyManaged ⟨s', records'⟩).1 = .ok outcome')) := by
  have hiff : (∃ sts, (plan x.connection spec previouslyManaged s).1 = .ok sts) ↔
      ∃ sts', (plan x'.connection spec previouslyManaged s').1 = .ok sts' := by
    constructor
    · rintro ⟨sts, hplan⟩
      obtain ⟨sts', hplan', -⟩ := exists_plan_of_same h h' hprivileges hroles hplan
      exact ⟨sts', hplan'⟩
    · rintro ⟨sts', hplan'⟩
      obtain ⟨sts, hplan, -⟩ := exists_plan_of_same h' h (fun row => (hprivileges row).symm)
        (fun row => (hroles row).symm) hplan'
      exact ⟨sts, hplan⟩
  refine ⟨hiff, fun sts sts' hplan hplan' => ?_, fun outcome outcome' hreturn hreturn' => ?_,
    fun hnever hnever' => ?_⟩
  · obtain ⟨sts'', hplan'', hsame⟩ := exists_plan_of_same h h' hprivileges hroles hplan
    rw [hplan', Except.ok.injEq] at hplan''
    rw [hplan'']
    exact hsame
  · obtain ⟨u, hcompare, -, -⟩ := of_returned hreturn
    obtain ⟨u', hcompare', -, -⟩ := of_returned hreturn'
    obtain ⟨rfl, -⟩ := (compare_eq_ok_iff_of_answers h).mp hcompare
    obtain ⟨c', hother, hagrees⟩ := exists_compare_of_same h h' hprivileges hroles hcompare
    rw [hcompare', Prod.mk.injEq, Except.ok.injEq] at hother
    rw [hother.1]
    exact hagrees.changed
  · rw [exists_reconcile_iff hnever, exists_reconcile_iff hnever']
    exact hiff

end rows

/-- The database in which a grantee holds some privileges on the schema of `reporter`, none of which it
may pass on, and some roles. -/
def holding (privileges roles : List Text) : Connection Unit Empty :=
  .ofTables
    (fun _ => privileges.map fun privilege =>
      [.text "SCHEMA".toList, .text privilege, .text "X".toList, .null, .text "FALSE".toList])
    (fun _ => roles.map fun role => [.null, .text role, .text "FALSE".toList]) fun _ s => s

/-- The plan of a pass over this database. -/
theorem plan_holding {privileges roles observed observedRoles : List Text} {sts : List Statement}
    (hprivileges : Catalog.privilegeStrings (privileges.map fun privilege =>
      [.text "SCHEMA".toList, .text privilege, .text "X".toList, .null, .text "FALSE".toList]) =
        .ok observed)
    (hroles : Catalog.roleStrings (roles.map fun role =>
      [.null, .text role, .text "FALSE".toList]) = .ok observedRoles)
    (hplan : Statement.planUpdate reporter.grantee reporter.defaultSchema
      (Difference.between ["SELECT ON SCHEMA X".toList] observed).toAdd
      (Difference.between ["SELECT ON SCHEMA X".toList] observed).toRemove
      (Difference.between [] observedRoles).toAdd (Difference.between [] observedRoles).toRemove =
        .ok sts) :
    (plan (holding privileges roles) reporter [] ()).1 = .ok sts := by
  have hcompare : compare (holding privileges roles) reporter [] () =
      (.ok (Comparison.ofGrants reporter [] ["SELECT ON SCHEMA X".toList] [] observed
        observedRoles), ()) := compare_ofTables (by decide) hprivileges hroles
  rw [plan_eq_ok_iff.mpr ⟨_, hcompare, hplan⟩]

/-- A role that holds two unwanted privileges and two unwanted roles, shown in one order and in another
one with a repetition: the revokes name them in other orders. -/
theorem same_plan_of_repeated_rows : ∃ sts sts',
    (plan (holding ["INSERT".toList, "DELETE".toList] ["A".toList, "B".toList]) reporter [] ()).1 =
        .ok sts ∧
      (plan (holding ["DELETE".toList, "INSERT".toList, "DELETE".toList] ["B".toList, "A".toList])
        reporter [] ()).1 = .ok sts' ∧
      sts.map Statement.text =
        ["GRANT SELECT ON SCHEMA X TO REPORTER".toList,
          "REVOKE INSERT, DELETE ON SCHEMA X FROM REPORTER".toList,
          "REVOKE A, B FROM REPORTER".toList] ∧
      sts'.map Statement.text =
        ["GRANT SELECT ON SCHEMA X TO REPORTER".toList,
          "REVOKE DELETE, INSERT ON SCHEMA X FROM REPORTER".toList,
          "REVOKE B, A FROM REPORTER".toList] ∧
      Statement.SamePlan sts sts' := by
  have hrepeated : ∀ a b name : Text, name ∈ [a, b] ↔ name ∈ [b, a, b] := by
    intro a b name
    simp only [List.mem_cons, List.not_mem_nil, or_false]
    tauto
  have hswapped : ∀ a b name : Text, name ∈ [a, b] ↔ name ∈ [b, a] := by
    intro a b name
    simp only [List.mem_cons, List.not_mem_nil, or_false]
    exact or_comm
  have hplan : (plan (holding ["INSERT".toList, "DELETE".toList] ["A".toList, "B".toList])
      reporter [] ()).1 = .ok [
        .grantPrivilegeBatch ⟨.schema, "X".toList, false, ["SELECT".toList]⟩ "REPORTER".toList,
        .revokePrivilegeBatch ⟨.schema, "X".toList, false, ["INSERT".toList, "DELETE".toList]⟩
          "REPORTER".toList,
        .revokeRoleNames ["A".toList, "B".toList] "REPORTER".toList] :=
    plan_holding rfl rfl (by decide)
  have hplan' : (plan (holding ["DELETE".toList, "INSERT".toList, "DELETE".toList]
      ["B".toList, "A".toList]) reporter [] ()).1 = .ok [
        .grantPrivilegeBatch ⟨.schema, "X".toList, false, ["SELECT".toList]⟩ "REPORTER".toList,
        .revokePrivilegeBatch ⟨.schema, "X".toList, false, ["DELETE".toList, "INSERT".toList]⟩
          "REPORTER".toList,
        .revokeRoleNames ["B".toList, "A".toList] "REPORTER".toList] :=
    plan_holding rfl rfl (by decide)
  refine ⟨_, _, hplan, hplan', by decide, by decide, ?_⟩
  obtain ⟨-, hsame, -, -⟩ := same_pass_of_same_rows
    ⟨holding ["INSERT".toList, "DELETE".toList] ["A".toList, "B".toList], false⟩
    ⟨holding ["DELETE".toList, "INSERT".toList, "DELETE".toList] ["B".toList, "A".toList], false⟩
    (Catalog.answers_ofTables reporter ()) (Catalog.answers_ofTables reporter ())
    (fun row => by simp only [List.mem_map, hrepeated "INSERT".toList])
    (fun row => by simp only [List.mem_map, hswapped "A".toList]) [] [] []
  exact hsame _ _ hplan hplan'

end Pass

end AccessGrants
