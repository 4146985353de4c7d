import AccessGrants.Proofs.Reading

/-!
# What a pass compares

The difference of two lists is that of two sets: what is in one and not in the other, and nothing at
all exactly if both have the same elements. A pass compares the desired grants with the observed
ones that it owns.

* `Difference.equal_between_iff`, `Difference.mem_toAdd_between`, `Difference.mem_toRemove_between`:
  the difference by its elements.
* `ManagementPolicy.mem_owned_strict`, `ManagementPolicy.mem_owned_lax`: what each policy owns.
* `Pass.compare_eq_ok_iff`: when a comparison is found, and which.
* `Connection.ofTables` is a database of which all is known; `Pass.compare_ofTables` compares with
  it.
-/

namespace AccessGrants

/-! ## Differences -/

namespace Difference

variable {α : Type} [DecidableEq α] {desired observed : List α} {a : α}

/-- Lists compare as equal exactly if they have the same members. -/
theorem sameElements_iff :
    sameElements desired observed = true ↔ ∀ a, a ∈ desired ↔ a ∈ observed := by
  unfold sameElements
  rw [Bool.and_eq_true, List.all_eq_true, List.all_eq_true]
  simp only [decide_eq_true_eq]
  constructor
  · rintro ⟨hdesired, hobserved⟩ a
    exact ⟨hdesired a, hobserved a⟩
  · intro h
    exact ⟨fun a => (h a).mp, fun a => (h a).mpr⟩

/-- A difference is empty exactly if both sides have the same elements. -/
theorem equal_between_iff :
    (between desired observed).equal = true ↔ ∀ a, a ∈ desired ↔ a ∈ observed := by
  rw [← sameElements_iff]
  unfold between
  split <;> simp_all

/-- What to add is desired and not observed. -/
@[simp] theorem mem_toAdd_between :
    a ∈ (between desired observed).toAdd ↔ a ∈ desired ∧ a ∉ observed := by
  unfold between
  split
  · next h =>
    have := sameElements_iff.mp h a
    simp_all
  · exact mem_minus

/-- What to remove is observed and not desired. -/
@[simp] theorem mem_toRemove_between :
    a ∈ (between desired observed).toRemove ↔ a ∈ observed ∧ a ∉ desired := by
  unfold between
  split
  · next h =>
    have := sameElements_iff.mp h a
    simp_all
  · exact mem_minus

/-- A difference without anything to do has nothing to add and nothing to remove. -/
theorem nil_of_equal_between (h : (between desired observed).equal = true) :
    (between desired observed).toAdd = [] ∧ (between desired observed).toRemove = [] := by
  have hsame := equal_between_iff.mp h
  constructor
  · refine List.eq_nil_iff_forall_not_mem.mpr fun a ha => ?_
    rw [mem_toAdd_between, hsame a] at ha
    exact ha.2 ha.1
  · refine List.eq_nil_iff_forall_not_mem.mpr fun a ha => ?_
    rw [mem_toRemove_between, hsame a] at ha
    exact ha.2 ha.1

end Difference

/-! ## Ownership -/

namespace ManagementPolicy

variable {observed desired previouslyManaged : List Text} {defaultSchema grant : Text}

@[simp] theorem mem_owned_strict :
    grant ∈ owned .strict observed desired previouslyManaged defaultSchema ↔ grant ∈ observed :=
  Iff.rfl

@[simp] theorem mem_owned_lax :
    grant ∈ owned .lax observed desired previouslyManaged defaultSchema ↔
      grant ∈ observed ∧ Baseline.isSpelling defaultSchema grant = false ∧
        (grant ∈ desired ∨ grant ∈ previouslyManaged) := by
  simp [owned]

/-- What a pass owns is observed. -/
theorem mem_observed_of_mem_owned {policy : ManagementPolicy}
    (h : grant ∈ owned policy observed desired previouslyManaged defaultSchema) :
    grant ∈ observed := by
  cases policy with
  | strict => exact h
  | lax => exact (mem_owned_lax.mp h).1

end ManagementPolicy

/-! ## Comparisons -/

namespace Pass

variable {σ ε : Type}

/-- A pass finds a comparison if the desired grants and the rows of the catalog are read. -/
theorem compare_eq_ok_iff {connection : Connection σ ε} {spec : Spec}
    {previouslyManaged : List Text} {s s' : σ} {c : Comparison} :
    compare connection spec previouslyManaged s = (.ok c, s') ↔
      ∃ desiredPrivileges desiredRoles observedPrivileges observedRoles s₁,
        spec.desiredGrants = .ok (desiredPrivileges, desiredRoles) ∧
        Catalog.readPrivileges connection spec.grantee spec.granteeType s =
          (.ok observedPrivileges, s₁) ∧
        Catalog.readRoles connection spec.grantee spec.granteeType s₁ = (.ok observedRoles, s') ∧
        c = Comparison.ofGrants spec previouslyManaged desiredPrivileges desiredRoles
          observedPrivileges observedRoles := by
  unfold compare
  constructor
  · intro h
    split at h
    · cases h
    · next hdesired =>
      split at h
      · cases h
      · next hprivileges =>
        split at h
        · cases h
        · next hroles =>
          cases h
          exact ⟨_, _, _, _, _, hdesired, hprivileges, hroles, rfl⟩
  · rintro ⟨D, DR, O, OR, s₁, hdesired, hprivileges, hroles, rfl⟩
    simp only [hdesired, hprivileges, hroles]

end Pass

/-- The rows that a database answers with are read. -/
theorem Catalog.readRows_of_query {σ ε : Type} {connection : Connection σ ε} {s s' : σ}
    {read : List Row → Except RowError (List Text)} {query grantee : Text} {type : GranteeType}
    {rows : List Row}
    (h : connection.query (forGrantee query grantee type).1
      ((forGrantee query grantee type).2.map Value.text) s = (.ok rows, s')) :
    readRows connection read query grantee type s = ((read rows).mapError .row, s') := by
  unfold readRows
  simp only [h]
  cases read rows <;> rfl

/-! ## Databases as tables -/

/-- The database that shows the rows of two tables, either of which depends on its state, and runs
every statement. -/
def Connection.ofTables {σ : Type} (privilegeRows roleRows : σ → List Row) (run : Text → σ → σ) :
    Connection σ Empty where
  execute statement s := (.ok (), run statement s)
  query query _ s :=
    (.ok (if Catalog.privilegesQuery.isPrefixOf query then privilegeRows s else roleRows s), s)
  describe e := e.elim

namespace Catalog

variable {σ : Type} {privilegeRows roleRows : σ → List Row} {run : Text → σ → σ} {grantee : Text}
  {type : GranteeType} {s : σ}

/-- A query for one grantee begins with the query for all of them. -/
theorem prefix_forGrantee (query grantee : Text) (type : GranteeType) :
    query <+: (forGrantee query grantee type).1 := by
  unfold forGrantee
  split
  · exact ⟨_, (List.append_assoc _ _ _).symm⟩
  · exact List.prefix_append _ _

/-- The query for the privileges of a grantee is one for privileges. -/
theorem isPrefixOf_privilegesQuery (grantee : Text) (type : GranteeType) :
    privilegesQuery.isPrefixOf (forGrantee privilegesQuery grantee type).1 = true :=
  List.isPrefixOf_iff_prefix.mpr (prefix_forGrantee _ _ _)

/-- The query for the roles of a grantee is none for privileges. -/
theorem isPrefixOf_rolesQuery (grantee : Text) (type : GranteeType) :
    privilegesQuery.isPrefixOf (forGrantee rolesQuery grantee type).1 = false := by
  have hapart : ¬ (privilegesQuery <+: rolesQuery ∨ rolesQuery <+: privilegesQuery) := by
    decide +kernel
  rw [Bool.eq_false_iff]
  exact fun h => hapart (List.prefix_or_prefix_of_prefix (List.isPrefixOf_iff_prefix.mp h)
    (prefix_forGrantee rolesQuery grantee type))

/-- A database of two tables shows the rows of the first as privileges. -/
theorem readPrivileges_ofTables :
    readPrivileges (.ofTables privilegeRows roleRows run) grantee type s =
      ((privilegeStrings (privilegeRows s)).mapError .row, s) := by
  apply readRows_of_query
  simp only [Connection.ofTables, isPrefixOf_privilegesQuery, if_true]

/-- It shows the rows of the second as roles. -/
theorem readRoles_ofTables :
    readRoles (.ofTables privilegeRows roleRows run) grantee type s =
      ((roleStrings (roleRows s)).mapError .row, s) := by
  apply readRows_of_query
  simp only [Connection.ofTables, isPrefixOf_rolesQuery, Bool.false_eq_true, if_false]

end Catalog

/-- A pass over tables compares what their rows say. -/
theorem Pass.compare_ofTables {σ : Type} {privilegeRows roleRows : σ → List Row}
    {run : Text → σ → σ} {spec : Spec} {previouslyManaged : List Text} {s : σ}
    {desiredPrivileges desiredRoles observedPrivileges observedRoles : List Text}
    (hdesired : spec.desiredGrants = .ok (desiredPrivileges, desiredRoles))
    (hprivileges : Catalog.privilegeStrings (privilegeRows s) = .ok observedPrivileges)
    (hroles : Catalog.roleStrings (roleRows s) = .ok observedRoles) :
    compare (.ofTables privilegeRows roleRows run) spec previouslyManaged s =
      (.ok (Comparison.ofGrants spec previouslyManaged desiredPrivileges desiredRoles
        observedPrivileges observedRoles), s) := by
  refine compare_eq_ok_iff.mpr ⟨_, _, _, _, s, hdesired, ?_, ?_, rfl⟩
  · rw [Catalog.readPrivileges_ofTables, hprivileges]
    rfl
  · rw [Catalog.readRoles_ofTables, hroles]
    rfl

end AccessGrants
