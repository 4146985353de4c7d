import AccessGrants.Proofs.DefaultSchema

/-!
# The principal that a grantee stands for

A statement has its grantee as it is, so the grantee has to be written with the quotes that its names
need. A query cuts the same text at its first dot and binds the parts as values, with their quotes.
So both speak of the same user or role exactly if its names need no quotes.

* `Principal`: a user or a role as the catalog knows it. `Principal.written`, `Principal.bare`: its
  names with the quotes that they need, and without quotes.
* `Catalog.Binds`: a query that binds columns to values.
* `Principal.binds_iff`: the one text with which a query asks for a principal.
* `Principal.binds_written_iff`: when this is the text that statements need.
-/

namespace AccessGrants

open Text

/-- A dot does not stand in a name that needs no quotes. -/
theorem Identifier.not_dot_mem_of_isPlain {name : Text} (h : isPlain name = true) : '.' ∉ name := by
  intro hdot
  rcases isPlainRest_of_mem h hdot with hrest | hline
  · exact absurd hrest (by decide)
  · exact absurd hline (by decide)

/-! ## Queries that bind columns -/

namespace Catalog

/-- A query for the grantees of a type, restricted by some columns: the text names the columns, and
the parameters have their values in the same order. -/
def Binds (query : Text) (type : GranteeType) (columns : List (Text × Text))
    (restricted : Text × List Text) : Prop :=
  restricted.1 = query ++ columns.flatMap (fun column => " AND ".toList ++ column.1 ++ " = ?".toList) ∧
    restricted.2 = type.word :: columns.map Prod.snd

instance (query : Text) (type : GranteeType) (columns : List (Text × Text))
    (restricted : Text × List Text) : Decidable (Binds query type columns restricted) :=
  inferInstanceAs (Decidable (_ ∧ _))

end Catalog

/-! ## Principals -/

/-- A user or a role as the catalog knows it: its name, and the schema that it belongs to, if any. -/
structure Principal where
  schema : Option Text
  name : Text

namespace Principal

variable {p : Principal} {query grantee : Text} {type : GranteeType}

/-- The names of a principal: its schema, if it has one, and its own. -/
def names (p : Principal) : List Text :=
  p.schema.toList ++ [p.name]

/-- A principal as a statement names it, with the quotes that its names need. -/
def written (p : Principal) : Text :=
  join ['.'] (p.names.map Identifier.quote)

/-- A principal without any quotes. -/
def bare (p : Principal) : Text :=
  join ['.'] p.names

/-- What the catalog has in its columns for a principal. -/
def columns (p : Principal) : List (Text × Text) :=
  ("GRANTEE".toList, p.name) :: p.schema.toList.map fun schema =>
    ("GRANTEE_SCHEMA_NAME".toList, schema)

/-- The first dot of a principal without quotes is not one in a name: it stands behind the schema, or
there is none. -/
def FirstDotApart (p : Principal) : Prop :=
  ∀ first ∈ p.names.head?, '.' ∉ first

/-- A query that is restricted to a grantee without a dot binds one column. -/
theorem binds_forGrantee_of_no_dot (hdot : '.' ∉ grantee) :
    Catalog.Binds query type p.columns (Catalog.forGrantee query grantee type) ↔
      p.schema = none ∧ grantee = p.name := by
  rw [Catalog.forGrantee, splitAtFirst_of_not_mem hdot]
  obtain ⟨_ | schema, name⟩ := p
  · simp [Catalog.Binds, columns]
  · simp [Catalog.Binds, columns]

/-- A query that is restricted to a grantee with a dot binds two, to what stands before the dot and to
what stands after it. -/
theorem binds_forGrantee_of_dot {before after : Text} (hdot : '.' ∉ before) :
    Catalog.Binds query type p.columns
        (Catalog.forGrantee query (before ++ '.' :: after) type) ↔
      p.schema = some before ∧ after = p.name := by
  rw [Catalog.forGrantee, splitAtFirst_eq_some_iff.mpr ⟨rfl, hdot⟩]
  obtain ⟨_ | schema, name⟩ := p
  · simp [Catalog.Binds, columns]
  · simp [Catalog.Binds, columns, and_comm, eq_comm]

/-- A query asks for a principal if its grantee is the principal without quotes, and if the first dot
of it is not one in a name. -/
theorem binds_iff : Catalog.Binds query type p.columns (Catalog.forGrantee query grantee type) ↔
    grantee = p.bare ∧ p.FirstDotApart := by
  by_cases hdot : '.' ∈ grantee
  · obtain ⟨before, after, rfl, hbefore⟩ := List.eq_append_cons_of_mem hdot
    rw [binds_forGrantee_of_dot hbefore]
    obtain ⟨_ | schema, name⟩ := p
    · -- a name without a schema would have a dot
      simp only [FirstDotApart, bare, names, Option.toList, List.nil_append, join_singleton,
        List.head?_cons, Option.mem_some, forall_eq', reduceCtorEq, false_and, false_iff, not_and,
        not_not]
      intro hname
      rw [← hname]
      exact hdot
    · simp only [FirstDotApart, bare, names, Option.toList, List.singleton_append, join_cons_cons,
        join_singleton, List.head?_cons, Option.mem_some, forall_eq', Option.some.injEq]
      constructor
      · rintro ⟨rfl, rfl⟩
        exact ⟨rfl, hbefore⟩
      · rintro ⟨heq, hschema⟩
        obtain ⟨rfl, rfl⟩ := (append_separator_inj hbefore hschema).mp heq
        exact ⟨rfl, rfl⟩
  · rw [binds_forGrantee_of_no_dot hdot]
    obtain ⟨_ | schema, name⟩ := p
    · simp only [FirstDotApart, bare, names, Option.toList, List.nil_append, join_singleton,
        List.head?_cons, Option.mem_some, forall_eq', true_and]
      constructor
      · rintro rfl
        exact ⟨rfl, hdot⟩
      · exact And.left
    · simp only [bare, names, Option.toList, List.singleton_append, join_cons_cons, join_singleton,
        reduceCtorEq, false_and, false_iff, not_and]
      rintro rfl
      exact absurd (List.mem_append_right _ List.mem_cons_self) hdot

/-- A principal is written without quotes, and its first dot is not one in a name, exactly if its names
need no quotes. -/
theorem written_eq_bare_iff : p.written = p.bare ∧ p.FirstDotApart ↔
    ∀ name ∈ p.names, Identifier.isPlain name = true := by
  obtain ⟨_ | schema, name⟩ := p
  · simp only [FirstDotApart, written, bare, names, Option.toList, List.nil_append,
      List.map_singleton, join_singleton, List.head?_cons, Option.mem_some, forall_eq',
      List.mem_singleton, forall_eq, Identifier.quote_eq_self_iff]
    exact and_iff_left_of_imp Identifier.not_dot_mem_of_isPlain
  · simp only [FirstDotApart, written, bare, names, Option.toList, List.singleton_append,
      List.map_cons, List.map_nil, join_cons_cons, join_singleton, List.head?_cons, Option.mem_some,
      forall_eq', List.forall_mem_cons, List.not_mem_nil, false_implies, implies_true, and_true]
    constructor
    · rintro ⟨heq, hschema⟩
      have hquoted : '.' ∉ Identifier.quote schema :=
        fun hdot => hschema (Identifier.mem_of_mem_quote (by decide) hdot)
      obtain ⟨hs, hn⟩ := (append_separator_inj hquoted hschema).mp heq
      exact ⟨Identifier.quote_eq_self_iff.mp hs, Identifier.quote_eq_self_iff.mp hn⟩
    · rintro ⟨hs, hn⟩
      rw [Identifier.quote_eq_self_iff.mpr hs, Identifier.quote_eq_self_iff.mpr hn]
      exact ⟨rfl, Identifier.not_dot_mem_of_isPlain hs⟩

/-- A query asks for a principal with one text alone, the principal without quotes, and with none if the
first dot of that is one in a name. It is the text that statements need exactly if none of the names
needs quotes. -/
theorem binds_written_iff (p : Principal) (query : Text) (type : GranteeType) :
    (∀ grantee, Catalog.Binds query type p.columns (Catalog.forGrantee query grantee type) ↔
      grantee = p.bare ∧ p.FirstDotApart) ∧
    (Catalog.Binds query type p.columns (Catalog.forGrantee query p.written type) ↔
      ∀ name ∈ p.names, Identifier.isPlain name = true) :=
  ⟨fun _ => binds_iff, binds_iff.trans written_eq_bare_iff⟩

/-- A role whose name has a dot. -/
def dottedRole : Principal := ⟨none, "REPORT.READER".toList⟩

/-- It is written in quotes, and a query with that text asks for another role, in a schema. -/
theorem other_principal_of_quoted_dot :
    dottedRole.name ≠ [] ∧ '\n' ∉ dottedRole.name ∧
      dottedRole.written = "\"REPORT.READER\"".toList ∧
      ¬ Catalog.Binds Catalog.rolesQuery .role dottedRole.columns
        (Catalog.forGrantee Catalog.rolesQuery dottedRole.written .role) ∧
      Catalog.Binds Catalog.rolesQuery .role (columns ⟨some "\"REPORT".toList, "READER\"".toList⟩)
        (Catalog.forGrantee Catalog.rolesQuery dottedRole.written .role) := by
  refine ⟨by decide, by decide, by decide, by decide, by decide⟩

end Principal

end AccessGrants
