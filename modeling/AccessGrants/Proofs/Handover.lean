import AccessGrants.Proofs.Convergence
import AccessGrants.Proofs.Executing
import AccessGrants.Proofs.Keeping

/-!
# What is handed over

Passes over the grants of a grantee come one after the other. A pass that returns hands the
privileges that it desired over to the next one as managed; a pass that raises hands on what it was
told itself. Between two passes the catalog may change in any way, and any statement may fail. Still,
a lax pass revokes only what the last pass that returned had desired, and what others granted has no
part in it.

* `Pass.Turn`: a pass with all that it is run with; `Pass.Relay`: turns one after the other.
* `Pass.Turn.result_session`: what a turn leaves, by the statements that it asks for.
* `Pass.Relay.mem_iff`: what is handed over is what the last turn that returned had desired.
* `Comparison.exists_reading_of_revokes`: a statement revokes only what is to be removed.
* `Comparison.privilegeStatements_of_relevant`: the statements for privileges depend on the observed
  privileges that are desired or managed, and on no other.
* `Pass.revokes_handed_over`: both for a lax turn of any relay.
-/

namespace AccessGrants

/-! ## What a lax comparison depends on -/

namespace Comparison

variable {c : Comparison} {spec : Spec} {previouslyManaged D DR O OR O' OR' : List Text}

/-- The observed privileges that are desired or were managed before. -/
def relevantPrivileges (c : Comparison) (previouslyManaged : List Text) : List Text :=
  c.observedPrivileges.filter fun x => x ∈ c.desiredPrivileges || x ∈ previouslyManaged

/-- Of the relevant privileges a lax comparison owns all but the baseline. -/
theorem ownedPrivileges_of_lax (hlax : spec.policy = .lax)
    (hc : c = ofGrants spec previouslyManaged D DR O OR) :
    c.ownedPrivileges = (c.relevantPrivileges previouslyManaged).filter
      fun x => !Baseline.isSpelling spec.defaultSchema x := by
  subst hc
  dsimp only [relevantPrivileges, ofGrants]
  rw [hlax, List.filter_filter]
  rfl

/-- Two lax comparisons with the same relevant privileges ask for the same statements for
privileges. -/
theorem privilegeStatements_of_relevant {c' : Comparison} (hlax : spec.policy = .lax)
    (hc : c = ofGrants spec previouslyManaged D DR O OR)
    (hc' : c' = ofGrants spec previouslyManaged D DR O' OR')
    (h : c'.relevantPrivileges previouslyManaged = c.relevantPrivileges previouslyManaged)
    (defaultSchema : Text) :
    c'.privilegeStatements defaultSchema = c.privilegeStatements defaultSchema := by
  have howned : c'.ownedPrivileges = c.ownedPrivileges := by
    rw [ownedPrivileges_of_lax hlax hc', ownedPrivileges_of_lax hlax hc, h]
  have hdifference : c'.privilegeDifference = c.privilegeDifference := by
    rw [show c'.privilegeDifference = Difference.between D c'.ownedPrivileges by rw [hc']; rfl,
      show c.privilegeDifference = Difference.between D c.ownedPrivileges by rw [hc]; rfl, howned]
  have hgrantee : c'.grantee = c.grantee := by rw [hc, hc']; rfl
  rw [privilegeStatements, privilegeStatements, hdifference, hgrantee]

/-- What a statement of a comparison revokes is said by a string to remove, whatever its option. -/
theorem exists_reading_of_revokes {defaultSchema : Text} {st : Statement} {p : Privilege}
    (hst : st ∈ c.statements defaultSchema) (hrevokes : st.Revokes p) :
    ∃ x ∈ c.privilegeDifference.toRemove, ∃ q, Privilege.parse x defaultSchema = .ok q ∧
      q.SameGrant p := by
  have hprivileges : ∃ privileges, c.privilegeStatements defaultSchema = .ok privileges ∧
      st ∈ privileges := by
    unfold statements at hst
    split at hst
    · cases hst
    · next privileges hprivileges =>
      refine ⟨privileges, hprivileges, ?_⟩
      split at hst
      · exact hst
      · next roles hroles =>
        -- the statements for roles revoke no privilege
        obtain ⟨rs, ts, -, -, rfl⟩ := Statement.planRoles_eq_ok_iff.mp hroles
        exact (List.mem_append.mp hst).resolve_right fun hrole =>
          (Statement.only_roles hrole).2 p hrevokes
  obtain ⟨privileges, hplan, hmem⟩ := hprivileges
  obtain ⟨ps, qs, -, hqs, rfl⟩ := Statement.planPrivileges_eq_ok_iff.mp hplan
  have hrevoke : st ∈ Statement.ofPrivilegeRevokes c.grantee qs :=
    (List.mem_append.mp hmem).resolve_left fun hgrant => (Statement.only_grants hgrant).1 p hrevokes
  obtain ⟨q, hq, hsame⟩ := Statement.exists_revokes_ofPrivilegeRevokes.mp ⟨st, hrevoke, hrevokes⟩
  obtain ⟨x, hx, hparse⟩ := (Privilege.mem_parseAll hqs).mp hq
  exact ⟨x, hx, q, hparse, hsame⟩

end Comparison

namespace Pass

variable {σ ε : Type}

/-! ## Turns -/

/-- A pass among others: what it is run with, for which specification, and what it is told to have
been managed before. -/
structure Turn (σ ε : Type) where
  executor : Executor σ ε
  spec : Spec
  previouslyManaged : List Text
  session : Session σ ε

namespace Turn

variable {t : Turn σ ε}

/-- What comes out of a turn. -/
def result (t : Turn σ ε) : Except (OperationError ε) (Outcome ε) × Session σ ε :=
  reconcile t.executor t.spec t.previouslyManaged t.session

/-- What a turn compares before it changes anything. -/
def comparison (t : Turn σ ε) : Except (OperationError ε) Comparison × σ :=
  compare t.executor.connection t.spec t.previouslyManaged t.session.state

/-- The statements that a turn asks for, as long as none fails. -/
def asked (t : Turn σ ε) : List Statement :=
  match t.comparison.1 with
  | .ok c => c.statements t.spec.defaultSchema
  | .error _ => []

/-- The managed privileges that the next turn is told. -/
def handOver (t : Turn σ ε) : List Text :=
  match t.result.1 with
  | .ok outcome => outcome.comparison.managedPrivileges
  | .error _ => t.previouslyManaged

/-- A turn leaves what running its statements leaves. -/
theorem result_session (t : Turn σ ε) :
    t.result.2 = (t.executor.runAll (t.asked.map Statement.command)
      ⟨t.comparison.2, t.session.records⟩).2 := by
  obtain ⟨x, spec, previouslyManaged, s, records⟩ := t
  dsimp only [result, asked, comparison]
  rcases hcompare : compare x.connection spec previouslyManaged s with ⟨e | c, s'⟩
  · simp [reconcile, hcompare, Executor.runAll]
  · rw [reconcile_of_compare hcompare]
    dsimp only
    rcases x.runAll _ _ with ⟨e | ran, t⟩
    · rfl
    · dsimp only
      cases c.readAll spec.defaultSchema <;> rfl

/-- What a turn records is a beginning of what it asks for. -/
theorem records_prefix (t : Turn σ ε) :
    ∃ ran, ran <+: t.asked ∧ t.result.2.records.map Record.command =
      t.session.records.map Record.command ++ ran.map Statement.command := by
  obtain ⟨commands, hbeginning, hrecords, -⟩ := Executor.runAll_records (x := t.executor)
    (t.asked.map Statement.command) ⟨t.comparison.2, t.session.records⟩
  obtain ⟨ran, hran, rfl⟩ := List.prefix_map_iff.mp hbeginning
  exact ⟨ran, hran, by rw [result_session, hrecords]⟩

end Turn

/-! ## Relays -/

/-- Turns one after the other, the last one first, and what they hand over: nothing before the first
turn, and every turn is told what the turn before it hands over. -/
inductive Relay : List (Turn σ ε) → List Text → Prop
  | start : Relay [] []
  | pass {earlier : List (Turn σ ε)} {managed : List Text} {t : Turn σ ε}
      (hearlier : Relay earlier managed) (htold : t.previouslyManaged = managed) :
      Relay (t :: earlier) t.handOver

/-- The outcome of the last turn that returned. -/
def lastOutcome : List (Turn σ ε) → Option (Outcome ε)
  | [] => none
  | t :: earlier =>
    match t.result.1 with
    | .ok outcome => some outcome
    | .error _ => lastOutcome earlier

/-- What is handed over is what the last turn that returned had desired. -/
theorem Relay.mem_iff {turns : List (Turn σ ε)} {managed : List Text} (h : Relay turns managed)
    {x : Text} : x ∈ managed ↔
      ∃ last, lastOutcome turns = some last ∧ x ∈ last.comparison.desiredPrivileges := by
  induction h with
  | start => simp [lastOutcome]
  | @pass earlier managed t hearlier htold ih =>
      rw [Turn.handOver, lastOutcome]
      rcases t.result.1 with e | outcome
      · -- a turn that raises hands on what it was told
        dsimp only
        rw [htold, ih]
      · simp [Comparison.managedPrivileges]

/-- What a lax turn of a relay revokes is said by observed strings that the last turn that returned
had desired, that are no longer desired and that are not the baseline. What it records is a beginning
of what it asks for. Any other comparison that differs only in observed privileges that are neither
desired nor managed asks for the same statements for privileges. -/
theorem revokes_handed_over {earlier : List (Turn σ ε)} {managed : List Text} {t : Turn σ ε}
    (hrelay : Relay earlier managed) (htold : t.previouslyManaged = managed)
    (hlax : t.spec.policy = .lax) :
    (∃ ran, ran <+: t.asked ∧ t.result.2.records.map Record.command =
      t.session.records.map Record.command ++ ran.map Statement.command) ∧
    (∀ st ∈ t.asked, ∀ p, st.Revokes p → ∃ c s, t.comparison = (.ok c, s) ∧
      ∃ x ∈ c.observedPrivileges,
        (∃ q, Privilege.parse x t.spec.defaultSchema = .ok q ∧ q.SameGrant p) ∧
        (∃ last, lastOutcome earlier = some last ∧ x ∈ last.comparison.desiredPrivileges) ∧
        x ∉ c.desiredPrivileges ∧ Baseline.isSpelling t.spec.defaultSchema x = false) ∧
    ∀ c s, t.comparison = (.ok c, s) →
      ∀ {σ' ε' : Type} (other : Connection σ' ε') (s₁ s₂ : σ') (c' : Comparison),
        compare other t.spec managed s₁ = (.ok c', s₂) →
        c'.relevantPrivileges managed = c.relevantPrivileges managed →
          c'.privilegeStatements t.spec.defaultSchema =
            c.privilegeStatements t.spec.defaultSchema := by
  refine ⟨t.records_prefix, fun st hst p hrevokes => ?_,
    fun c s hcompare _ _ other s₁ s₂ c' hother hrelevant => ?_⟩
  · rcases hcompare : t.comparison with ⟨e | c, s⟩
    · rw [Turn.asked, hcompare] at hst
      cases hst
    · rw [Turn.asked, hcompare] at hst
      obtain ⟨_, _, _, _, _, -, -, -, hc⟩ := compare_eq_ok_iff.mp hcompare
      obtain ⟨x, hx, hreading⟩ := Comparison.exists_reading_of_revokes hst hrevokes
      refine ⟨c, s, rfl, x, ?_⟩
      rw [hc] at hx ⊢
      obtain ⟨howned, hnew⟩ := Difference.mem_toRemove_between.mp hx
      rw [hlax, htold] at howned
      obtain ⟨hobserved, hspelling, hwanted⟩ := ManagementPolicy.mem_owned_lax.mp howned
      exact ⟨hobserved, hreading, hrelay.mem_iff.mp (hwanted.resolve_left hnew), hnew, hspelling⟩
  · obtain ⟨_, _, _, _, _, hdesired, -, -, hc⟩ := compare_eq_ok_iff.mp hcompare
    obtain ⟨_, _, _, _, _, hdesired', -, -, hc'⟩ := compare_eq_ok_iff.mp hother
    rw [htold] at hc
    rw [hdesired] at hdesired'
    cases hdesired'
    exact Comparison.privilegeStatements_of_relevant hlax hc hc' hrelevant _

/-! ### A relay of two turns -/

/-- The pass of `analyst` that grants what is missing. -/
def analystTurn : Turn Bool Empty :=
  ⟨⟨analystTables, false⟩, analyst, [], ⟨false, []⟩⟩

/-- A later pass for which nothing is desired. -/
def analystLastTurn : Turn Bool Empty :=
  ⟨⟨analystTables, false⟩, { analyst with privileges := [] }, ["SELECT ON SCHEMA X".toList],
    ⟨true, []⟩⟩

/-- The first turn returns and hands its only desired privilege over. -/
theorem analystTurn_handOver : analystTurn.handOver = ["SELECT ON SCHEMA X".toList] := by
  have hcompare : compare analystTables analyst [] false =
      (.ok (Comparison.ofGrants analyst [] ["SELECT ON SCHEMA X".toList] []
        ["INSERT ON SCHEMA X".toList] []), false) :=
    compare_ofTables (by decide) (by decide) (by decide)
  have hresult : ∃ records, analystTurn.result = (.ok ⟨Comparison.ofGrants analyst []
      ["SELECT ON SCHEMA X".toList] [] ["INSERT ON SCHEMA X".toList] [], records⟩,
        ⟨true, records⟩) :=
    ⟨_, (reconcile_of_compare (x := ⟨analystTables, false⟩) hcompare []).trans rfl⟩
  obtain ⟨records, hresult⟩ := hresult
  rw [Turn.handOver, hresult]
  rfl

/-- The last turn revokes what the first one had desired, and would ask for the same without the
privilege that others granted. -/
theorem revokes_handed_over_by_analyst :
    ∃ c c', analystLastTurn.comparison = (.ok c, true) ∧
      analystLastTurn.asked.map Statement.text =
        ["REVOKE SELECT ON SCHEMA X FROM ANALYST".toList] ∧
      (∃ x ∈ c.observedPrivileges,
        (∃ q, Privilege.parse x "ANALYST".toList = .ok q ∧ q.SameGrant (onX "SELECT".toList)) ∧
        ∃ last, lastOutcome [analystTurn] = some last ∧ x ∈ last.comparison.desiredPrivileges) ∧
      compare (oneGrant "SELECT".toList "FALSE".toList) { analyst with privileges := [] }
        ["SELECT ON SCHEMA X".toList] () = (.ok c', ()) ∧
      c'.observedPrivileges ≠ c.observedPrivileges ∧
      c'.privilegeStatements "ANALYST".toList = c.privilegeStatements "ANALYST".toList := by
  have hcompare : analystLastTurn.comparison = (.ok (Comparison.ofGrants
      { analyst with privileges := [] } ["SELECT ON SCHEMA X".toList] [] []
      ["INSERT ON SCHEMA X".toList, "SELECT ON SCHEMA X".toList] []), true) :=
    compare_ofTables (by decide) (by decide) (by decide)
  have hother : compare (oneGrant "SELECT".toList "FALSE".toList)
      { analyst with privileges := [] } ["SELECT ON SCHEMA X".toList] () =
        (.ok (Comparison.ofGrants { analyst with privileges := [] } ["SELECT ON SCHEMA X".toList]
          [] [] ["SELECT ON SCHEMA X".toList] []), ()) :=
    compare_ofTables (by decide) (by decide) (by decide)
  have hasked : analystLastTurn.asked = [.revokePrivilegeBatch
      ⟨.schema, "X".toList, false, ["SELECT".toList]⟩ "ANALYST".toList] := by
    rw [Turn.asked, hcompare]
    decide
  have hrelay : Relay [analystTurn] ["SELECT ON SCHEMA X".toList] := by
    rw [← analystTurn_handOver]
    exact .pass .start rfl
  obtain ⟨-, hrevokes, hforeign⟩ := revokes_handed_over (t := analystLastTurn) hrelay rfl rfl
  have hnamed : ∃ st ∈ analystLastTurn.asked, st.Revokes (onX "SELECT".toList) := by
    rw [hasked]
    exact ⟨_, List.mem_singleton_self _, onX "SELECT".toList, by decide, by decide⟩
  obtain ⟨st, hst, hselect⟩ := hnamed
  obtain ⟨_, _, hc, x, hobserved, hreading, hlast, -⟩ := hrevokes st hst _ hselect
  rw [hcompare] at hc
  cases hc
  exact ⟨_, _, hcompare, by rw [hasked]; decide, ⟨x, hobserved, hreading, hlast⟩, hother, by decide,
    hforeign _ _ hcompare _ _ _ _ hother (by decide)⟩

end Pass

end AccessGrants
