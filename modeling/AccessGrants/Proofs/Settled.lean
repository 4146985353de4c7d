import AccessGrants.Proofs.Convergence
import AccessGrants.Proofs.Executing
import AccessGrants.Proofs.OwnSchema

/-!
# Settled grantees

A grantee is settled if it holds the desired roles and the desired privileges, and nothing else that
its policy makes a pass remove. A pass over a settled grantee should change nothing. Under the lax
policy it may: the baseline is left out of what is observed, but not out of what is desired, so that a
pass grants a listed baseline however often it has been granted before.

* `Comparison.Settled`: a comparison that finds a settled grantee.
* `Comparison.Settled.mem_owned_iff`: what a pass then owns.
* `Comparison.Settled.changed_iff`: the pass changes something exactly if the policy is lax and the
  baseline is listed.
* `Pass.left_alone_iff`: a settled grantee is left alone exactly otherwise.
-/

namespace AccessGrants

namespace Comparison

/-- A grantee holds the desired roles. Under the strict policy it holds the desired privileges, under
the lax policy these and others that were not managed before. -/
structure Settled (c : Comparison) (policy : ManagementPolicy) (previouslyManaged : List Text) :
    Prop where
  roles : ∀ r, r ∈ c.observedRoles ↔ r ∈ c.desiredRoles
  strict : policy = .strict → ∀ t, t ∈ c.observedPrivileges ↔ t ∈ c.desiredPrivileges
  lax : policy = .lax → ∀ t ∈ c.desiredPrivileges, t ∈ c.observedPrivileges
  others : policy = .lax → ∀ t ∈ c.observedPrivileges, t ∉ c.desiredPrivileges →
    t ∉ previouslyManaged

namespace Settled

variable {c : Comparison} {spec : Spec} {previouslyManaged D DR O OR : List Text}

/-- Of a settled grantee a pass owns the desired privileges, under the lax policy without the
baseline. -/
theorem mem_owned_iff (h : c.Settled spec.policy previouslyManaged)
    (hc : c = ofGrants spec previouslyManaged D DR O OR) {t : Text} :
    t ∈ c.ownedPrivileges ↔ t ∈ c.desiredPrivileges ∧
      (spec.policy = .lax → Baseline.isSpelling spec.defaultSchema t = false) := by
  subst hc
  have hstrict := h.strict
  have hlax := h.lax
  have hothers := h.others
  dsimp only [ofGrants] at hstrict hlax hothers ⊢
  cases hpolicy : spec.policy with
  | strict =>
      rw [ManagementPolicy.mem_owned_strict, hstrict hpolicy]
      simp
  | lax =>
      rw [ManagementPolicy.mem_owned_lax]
      constructor
      · rintro ⟨hobserved, hspelling, hwanted⟩
        refine ⟨?_, fun _ => hspelling⟩
        by_contra hnew
        exact hothers hpolicy t hobserved hnew (hwanted.resolve_left hnew)
      · rintro ⟨hdesired, hspelling⟩
        exact ⟨hlax hpolicy t hdesired, hspelling rfl, .inl hdesired⟩

/-- A pass finds something to do for a settled grantee exactly if the policy is lax and the baseline
is desired. -/
theorem changed_iff (h : c.Settled spec.policy previouslyManaged)
    (hc : c = ofGrants spec previouslyManaged D DR O OR) :
    c.changed = true ↔ spec.policy = .lax ∧
      ∃ t ∈ c.desiredPrivileges, Baseline.isSpelling spec.defaultSchema t = true := by
  have howned : ∀ t, t ∈ c.ownedPrivileges ↔ _ := fun t => h.mem_owned_iff hc
  have hroles : c.roleDifference.equal = true := by
    rw [hc]
    refine Difference.equal_between_iff.mpr fun r => ?_
    have hr := h.roles r
    rw [hc] at hr
    exact hr.symm
  have hprivileges : c.privilegeDifference.equal = true ↔
      ∀ t, t ∈ c.desiredPrivileges ↔ t ∈ c.ownedPrivileges := by
    rw [hc]
    exact Difference.equal_between_iff
  have hequal : c.privilegeDifference.equal = true ↔ ∀ t ∈ c.desiredPrivileges,
      spec.policy = .lax → Baseline.isSpelling spec.defaultSchema t = false := by
    rw [hprivileges]
    simp only [howned]
    exact forall_congr' fun t => by rw [iff_self_and]
  rw [changed, hroles, Bool.and_true, Bool.not_eq_true', ← Bool.not_eq_true, hequal]
  simp only [not_forall, Bool.not_eq_false]
  constructor
  · rintro ⟨t, ht, hlax, hspelling⟩
    exact ⟨hlax, t, ht, hspelling⟩
  · rintro ⟨hlax, t, ht, hspelling⟩
    exact ⟨t, ht, hlax, hspelling⟩

end Settled

end Comparison

namespace Pass

variable {σ ε : Type}

/-- A pass leaves a settled grantee alone, asks for no statement and reports no change, exactly if
the policy is strict or the baseline is not desired. -/
theorem left_alone_iff {x : Executor σ ε} {spec : Spec} {previouslyManaged : List Text} {s s' : σ}
    {c : Comparison} (hcompare : compare x.connection spec previouslyManaged s = (.ok c, s'))
    (hsettled : c.Settled spec.policy previouslyManaged) (log : List Text)
    (records : List (Record ε)) :
    reconcile x.logged spec previouslyManaged ⟨(s, log), records⟩ =
        (.ok ⟨c, []⟩, ⟨(s', log), records⟩) ∧ c.changed = false ↔
      (spec.policy = .lax →
        ∀ t ∈ c.desiredPrivileges, Baseline.isSpelling spec.defaultSchema t = false) := by
  obtain ⟨D, DR, O, OR, s₁, -, -, -, hc⟩ := compare_eq_ok_iff.mp hcompare
  have hunchanged : c.changed = false ↔ (spec.policy = .lax →
      ∀ t ∈ c.desiredPrivileges, Baseline.isSpelling spec.defaultSchema t = false) := by
    rw [← Bool.not_eq_true, hsettled.changed_iff hc]
    simp only [not_and, not_exists, Bool.not_eq_true]
  rw [← hunchanged]
  refine and_iff_right_of_imp fun hchanged => ?_
  simp only [Comparison.changed, Bool.not_eq_false', Bool.and_eq_true] at hchanged
  exact (reconcile_of_equal (compare_logged hcompare log) hchanged.1 hchanged.2 records).1

/-- A lax pass leaves a role alone that holds what it should, and something that others granted. -/
theorem left_alone_beside_foreign :
    ∃ c, compare analystTables analyst ["SELECT ON SCHEMA X".toList] true = (.ok c, true) ∧
      reconcile (Executor.logged ⟨analystTables, false⟩) analyst ["SELECT ON SCHEMA X".toList]
        ⟨(true, []), []⟩ = (.ok ⟨c, []⟩, ⟨(true, []), []⟩) ∧ c.changed = false := by
  have hcompare : compare analystTables analyst ["SELECT ON SCHEMA X".toList] true =
      (.ok (Comparison.ofGrants analyst ["SELECT ON SCHEMA X".toList]
        ["SELECT ON SCHEMA X".toList] []
        ["INSERT ON SCHEMA X".toList, "SELECT ON SCHEMA X".toList] []), true) :=
    compare_ofTables (by decide) (by decide) (by decide)
  have hsettled : (Comparison.ofGrants analyst ["SELECT ON SCHEMA X".toList]
      ["SELECT ON SCHEMA X".toList] []
      ["INSERT ON SCHEMA X".toList, "SELECT ON SCHEMA X".toList] []).Settled .lax
        ["SELECT ON SCHEMA X".toList] :=
    ⟨fun _ => Iff.rfl, nofun, fun _ => by decide, fun _ => by decide⟩
  exact ⟨_, hcompare, (left_alone_iff (x := ⟨analystTables, false⟩) hcompare hsettled [] []).mpr
    fun _ => by decide⟩

/-- A new user whose baseline is listed. -/
def aliceWithBaseline : Spec :=
  { alice none with
    policy := .lax
    privileges := ["CREATE ANY ON SCHEMA ALICE WITH GRANT OPTION".toList] }

/-- A lax pass grants a new user its listed baseline, which the user has already. -/
theorem grants_held_baseline :
    ∃ c records, compare newUser aliceWithBaseline [] () = (.ok c, ()) ∧ c.Settled .lax [] ∧
      c.changed = true ∧
      reconcile (Executor.logged ⟨newUser, false⟩) aliceWithBaseline [] ⟨((), []), []⟩ =
        (.ok ⟨c, records⟩,
          ⟨((), ["GRANT CREATE ANY ON SCHEMA ALICE TO ALICE WITH GRANT OPTION".toList]),
            records⟩) := by
  have hcompare : compare newUser aliceWithBaseline [] () =
      (.ok (Comparison.ofGrants aliceWithBaseline []
        ["CREATE ANY ON SCHEMA ALICE WITH GRANT OPTION".toList] ["PUBLIC".toList]
        ["CREATE ANY ON SCHEMA ALICE WITH GRANT OPTION".toList] ["PUBLIC".toList]), ()) :=
    compare_ofTables (by decide) (by decide) (by decide)
  have hsettled : (Comparison.ofGrants aliceWithBaseline []
      ["CREATE ANY ON SCHEMA ALICE WITH GRANT OPTION".toList] ["PUBLIC".toList]
      ["CREATE ANY ON SCHEMA ALICE WITH GRANT OPTION".toList] ["PUBLIC".toList]).Settled .lax [] :=
    ⟨fun _ => Iff.rfl, nofun, fun _ _ => id, fun _ _ ht hnew => absurd ht hnew⟩
  exact ⟨_, _, hcompare, hsettled, by decide,
    (reconcile_of_compare (x := Executor.logged ⟨newUser, false⟩)
      (compare_logged hcompare []) []).trans rfl⟩

end Pass

end AccessGrants
