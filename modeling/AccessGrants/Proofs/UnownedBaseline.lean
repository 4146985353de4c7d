import AccessGrants.Proofs.Baselines
import AccessGrants.Proofs.Comparing

/-!
# The baseline that is not owned

The baseline of a schema is written by the policy, by the filter of the lax policy and by the reader
of the catalog, each in its own way. They agree on one grant string, and it tells the schema. So
under the lax policy a pass never owns the baseline that it reads, and the baseline of any other
schema is owned like every other privilege.

* `Baseline.OneSpelling`: the grant string that all three agree on. `Baseline.oneSpelling`: there is
  one for each schema that has a name of one line.
* `ManagementPolicy.count_owned_lax`: what is managed, and is not the baseline, is owned as often as
  it is observed.
* `ManagementPolicy.baseline_unowned`: the baseline is not owned, and no other one is left out.
-/

namespace AccessGrants

/-! ## One spelling -/

/-- A grant string is what the baseline of a schema comes to, however it is written: the policy's is
read as a privilege with this display, the filter has it as its second spelling, and the reader
shows it for the row of the baseline. -/
structure Baseline.OneSpelling (schema grant : Text) : Prop where
  written : ∀ defaultSchema, ∃ p,
    Privilege.parse (privilege schema) defaultSchema = .ok p ∧ p.display = grant
  filtered : catalogPrivilege schema = grant
  shown : Catalog.privilegeStrings [row schema] = .ok [grant]

/-- There is such a grant string for each schema that has a name of one line. -/
theorem Baseline.oneSpelling {schema : Text} (hne : schema ≠ []) (hline : '\n' ∉ schema) :
    OneSpelling schema (catalogPrivilege schema) where
  written _ := ⟨_, parse_privilege hne hline, display_onSchemaPrivilege schema⟩
  filtered := rfl
  shown := privilegeStrings_row hne hline

/-! ## What the lax policy owns -/

namespace ManagementPolicy

variable {observed desired previouslyManaged : List Text} {defaultSchema grant : Text}

/-- The owned privileges for a policy that is given by its name. -/
theorem filterManaged_word (policy : ManagementPolicy) :
    filterManaged (some observed) desired previouslyManaged (.text policy.word) defaultSchema =
      .ok (owned policy observed desired previouslyManaged defaultSchema) := by
  rw [filterManaged, resolve_word]

/-- What is managed, and is no spelling of the baseline, is owned as often as it is observed. -/
theorem count_owned_lax (hspelling : Baseline.isSpelling defaultSchema grant = false)
    (hmanaged : grant ∈ desired ∨ grant ∈ previouslyManaged) :
    (owned .lax observed desired previouslyManaged defaultSchema).count grant =
      observed.count grant := by
  apply List.count_filter
  rw [hspelling, Bool.not_false, Bool.true_and, Bool.or_eq_true, decide_eq_true_eq,
    decide_eq_true_eq]
  exact hmanaged

/-- The baseline of a schema has one spelling, which no other schema shares. Under the lax policy it
is never owned, while the baseline of every other schema is owned as often as it is observed, if it
is desired or was managed before. -/
theorem baseline_unowned {schema : Text} (hne : schema ≠ []) (hline : '\n' ∉ schema) :
    ∃ grant, Baseline.OneSpelling schema grant ∧
      (∀ other, Baseline.catalogPrivilege other = grant → other = schema) ∧
      ∀ observed desired previouslyManaged, ∃ owned,
        filterManaged (some observed) desired previouslyManaged (.text (word .lax)) schema =
          .ok owned ∧
        grant ∉ owned ∧
        ∀ other, other ≠ [] → '\n' ∉ other → other ≠ schema → ∃ otherGrant,
          Baseline.OneSpelling other otherGrant ∧
          (otherGrant ∈ desired ∨ otherGrant ∈ previouslyManaged →
            owned.count otherGrant = observed.count otherGrant) := by
  refine ⟨_, Baseline.oneSpelling hne hline, fun other => Baseline.catalogPrivilege_injective,
    fun observed desired previouslyManaged => ⟨_, filterManaged_word .lax, ?_, ?_⟩⟩
  · intro hmem
    have hspelling := (mem_owned_lax.mp hmem).2.1
    rw [Baseline.isSpelling_catalogPrivilege_iff.mpr rfl] at hspelling
    cases hspelling
  · intro other hother hline' hapart
    have hspelling : Baseline.isSpelling schema (Baseline.catalogPrivilege other) = false := by
      rw [Bool.eq_false_iff, ne_eq, Baseline.isSpelling_catalogPrivilege_iff]
      exact hapart
    exact ⟨_, Baseline.oneSpelling hother hline', count_owned_lax hspelling⟩

/-- A user with a blank in its name does not own the baseline that it holds, though it was managed
before, but it owns the baseline of another schema. -/
theorem baseline_unowned_of_quoted_name : ∃ owned,
    filterManaged (some ["CREATE ANY ON SCHEMA \"my user\" WITH GRANT OPTION".toList,
          "CREATE ANY ON SCHEMA ALICE WITH GRANT OPTION".toList]) []
        ["CREATE ANY ON SCHEMA \"my user\" WITH GRANT OPTION".toList,
          "CREATE ANY ON SCHEMA ALICE WITH GRANT OPTION".toList]
        (.text (word .lax)) "my user".toList = .ok owned ∧
      "CREATE ANY ON SCHEMA \"my user\" WITH GRANT OPTION".toList ∉ owned ∧
      owned.count "CREATE ANY ON SCHEMA ALICE WITH GRANT OPTION".toList = 1 := by
  have hname : "my user".toList ≠ [] := by decide
  have hline : '\n' ∉ "my user".toList := by decide
  obtain ⟨grant, hspelling, -, hfilter⟩ := baseline_unowned hname hline
  obtain ⟨owned, howned, hnot, hothers⟩ := hfilter _ [] _
  obtain ⟨otherGrant, hother, hcount⟩ := hothers "ALICE".toList (by decide) (by decide) (by decide)
  have hgrant : grant = "CREATE ANY ON SCHEMA \"my user\" WITH GRANT OPTION".toList :=
    hspelling.filtered.symm.trans (by decide)
  have halice : otherGrant = "CREATE ANY ON SCHEMA ALICE WITH GRANT OPTION".toList :=
    hother.filtered.symm.trans (by decide)
  subst hgrant halice
  exact ⟨owned, howned, hnot, (hcount (.inr (by decide))).trans (by decide)⟩

end ManagementPolicy

end AccessGrants
