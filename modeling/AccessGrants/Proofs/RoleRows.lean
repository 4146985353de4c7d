import AccessGrants.Proofs.CatalogRows
import AccessGrants.Proofs.StoredRoles

/-!
# Rows of the catalog for roles

A row for a role has one name or two, and any text on one line may be a name. Quoted names tell a dot
between two names from a dot inside one, and the words of an option from a name that holds them. So
the role of a row says what the row says, and it is read from every way to write its names.

* `Identifier.Writes`: the identifiers that may be written for a name, with the quotes it needs and
  with needless ones.
* `GrantedRole`: the rows as a database has them. `GrantedRole.ofRow_row` is the role of a row.
* `GrantedRole.parse_of_writes`: it is read from its names however they are written.
* `GrantedRole.role_eq_iff`: rows of one role say the same.
* `GrantedRole.readable_from_any_quotes`: both together.
-/

namespace AccessGrants

open Text

/-! ## Names as they may be written -/

/-- An identifier on one line that is the name, in the quotes that it needs or in needless ones. -/
structure Identifier.Writes (i name : Text) : Prop where
  written : IsWritten isAsciiLetter i
  canonical : canonical i = quote name
  line : '\n' ∉ i

namespace Identifier

variable {name : Text} {is names : List Text}

/-- A name in the quotes that it needs. -/
theorem writes_quote (hname : name ≠ [] ∧ '\n' ∉ name) : Writes (quote name) name := by
  have hcanonical := isCanonical_quote hname.1 hname.2
  exact ⟨hcanonical.isWritten isAlphabet_ascii, hcanonical.canonical_eq,
    fun hmem => hname.2 (mem_of_mem_quote (by decide) hmem)⟩

/-- A name between quotes, its own quotes doubled. -/
theorem writes_enquote (hname : name ≠ [] ∧ '\n' ∉ name) : Writes (enquote name) name :=
  ⟨.quoted hname.1, canonical_enquote name, fun hmem => hname.2 (mem_of_mem_enquote (by decide) hmem)⟩

/-- Every name is written by a function that writes each of its names. -/
theorem writes_map {write : Text → Text} (h : ∀ name ∈ names, Writes (write name) name) :
    List.Forall₂ Writes (names.map write) names := by
  rw [List.forall₂_map_left_iff, List.forall₂_same]
  exact h

/-- Identifiers on one line are on one line together. -/
theorem line_of_writes (h : List.Forall₂ Writes is names) : '\n' ∉ join ['.'] is := by
  have hlines : ∀ i ∈ is, '\n' ∉ i := by
    induction h with
    | nil => exact nofun
    | cons hi _ ih =>
        rw [List.forall_mem_cons]
        exact ⟨hi.line, ih⟩
  intro hmem
  rcases exists_mem_of_mem_join hmem with hdot | ⟨i, hi, hmem⟩
  · exact absurd hdot (by decide)
  · exact hlines i hi hmem

end Identifier

/-! ## Rows as a database has them -/

/-- A row of the view of roles as a database has it: the name of the role is a text of one line that
is not empty, and the schema is nothing or a text of one line. The flag may be anything. -/
structure GrantedRole where
  schema : Value
  name : Text
  grantable : Value
  schemaName : Text
  schema_eq : Row.name schema = .ok schemaName
  schema_line : '\n' ∉ schemaName
  named : name ≠ [] ∧ '\n' ∉ name

namespace GrantedRole

variable {r s : GrantedRole} {is : List Text}

/-- The columns of a row. -/
def row (r : GrantedRole) : Row :=
  [r.schema, .text r.name, r.grantable]

/-- The names of a row: the schema, if there is one, and the role. -/
def names (r : GrantedRole) : List Text :=
  if r.schemaName = [] then [r.name] else [r.schemaName, r.name]

/-- The role of a row, its names in the quotes that they need. -/
def role (r : GrantedRole) : Role :=
  ⟨join ['.'] (r.names.map Identifier.quote), Row.flag r.grantable⟩

/-- The grant string of a row with all names in quotes. -/
def quoted (r : GrantedRole) : Text :=
  Role.render ⟨join ['.'] (r.names.map Identifier.enquote), Row.flag r.grantable⟩

/-- A row has one name or two. -/
theorem names_cases (r : GrantedRole) :
    r.names = [r.name] ∧ r.schemaName = [] ∨ r.names = [r.schemaName, r.name] ∧ r.schemaName ≠ [] := by
  unfold names
  split
  · next hnil => exact .inl ⟨rfl, hnil⟩
  · next hne => exact .inr ⟨rfl, hne⟩

/-- The names of a row are on one line, and not empty. -/
theorem named_names (r : GrantedRole) : ∀ name ∈ r.names, name ≠ [] ∧ '\n' ∉ name := by
  rcases r.names_cases with ⟨hnames, -⟩ | ⟨hnames, hne⟩
  · simpa [hnames] using r.named
  · simpa [hnames] using ⟨⟨hne, r.schema_line⟩, r.named⟩

/-- Rows with the same names have the same schema and the same role. -/
theorem names_eq_iff : r.names = s.names ↔ r.schemaName = s.schemaName ∧ r.name = s.name := by
  constructor
  · intro h
    rcases r.names_cases with ⟨hr, hrnil⟩ | ⟨hr, -⟩ <;>
      rcases s.names_cases with ⟨hs, hsnil⟩ | ⟨hs, -⟩ <;> rw [hr, hs] at h
    · exact ⟨hrnil.trans hsnil.symm, List.singleton_inj.mp h⟩
    · simp at h
    · simp at h
    · simpa using h
  · rintro ⟨hschema, hname⟩
    rw [names, names, hschema, hname]

/-! ## Reading a row, and its grant strings -/

/-- The names of a row, however they are written, make up a path. It is read as the name of the role
of the row. -/
theorem path_of_writes (hwrites : List.Forall₂ Identifier.Writes is r.names) :
    Identifier.IsPath Identifier.isAsciiLetter (join ['.'] is) ∧
      Role.readName (join ['.'] is) = some r.role.name := by
  rw [role]
  rcases r.names_cases with ⟨hnames, -⟩ | ⟨hnames, -⟩ <;> rw [hnames] at hwrites ⊢
  · cases hwrites with
    | cons hi hrest =>
        cases hrest
        rw [join_singleton, List.map_singleton, join_singleton, ← hi.canonical]
        exact ⟨.inl hi.written, Role.readName_of_isWritten hi.written⟩
  · cases hwrites with
    | cons hi hrest =>
        cases hrest with
        | cons hj hrest =>
            cases hrest
            rw [join_cons_cons, join_singleton, List.map_cons, List.map_singleton, join_cons_cons,
              join_singleton, ← hi.canonical, ← hj.canonical]
            exact ⟨.inr ⟨_, _, hi.written, hj.written, rfl⟩,
              Role.readName_of_pair hi.written hj.written⟩

/-- The name of the role of a row has no white space at its ends. -/
theorem solid_name (r : GrantedRole) : Solid r.role.name := by
  have hwrites := Identifier.writes_map fun name hname =>
    Identifier.writes_quote (r.named_names name hname)
  exact (path_of_writes hwrites).1.solid Identifier.isAlphabet_ascii

/-- A row is read as its role. -/
theorem ofRow_row (r : GrantedRole) : Role.ofRow r.row = .ok r.role := by
  have hread : Role.ofRow r.row = .ok (Role.trimmed r.role.name (Row.flag r.grantable)) := by
    refine bind_eq_ok_iff.mpr ⟨r.schemaName, r.schema_eq, ?_⟩
    rw [role]
    rcases r.names_cases with ⟨hnames, hnil⟩ | ⟨hnames, hne⟩
    · rw [hnames, hnil, List.map_singleton, join_singleton]
      rfl
    · obtain ⟨c, t, hschema⟩ := List.exists_cons_of_ne_nil hne
      rw [hnames, hschema, List.map_cons, List.map_singleton, join_cons_cons, join_singleton]
      rfl
  rw [hread, Role.trimmed, r.solid_name.stripWhiteSpace_eq]
  rfl

/-- The role of a row is read from its names, however they are written. -/
theorem parse_of_writes (hwrites : List.Forall₂ Identifier.Writes is r.names) :
    Role.parse (Role.render ⟨join ['.'] is, Row.flag r.grantable⟩) = .ok r.role := by
  obtain ⟨hpath, hname⟩ := path_of_writes hwrites
  have hline := Identifier.line_of_writes hwrites
  rw [Role.parse_of_splitGrant (Role.splitGrant_of_path hpath fun _ => hline) hname, Role.trimmed,
    r.solid_name.stripWhiteSpace_eq]
  rfl

/-- Rows have the same role exactly if they agree on schema, name and flag. -/
theorem role_eq_iff : r.role = s.role ↔ r.schemaName = s.schemaName ∧ r.name = s.name ∧
    Row.flag r.grantable = Row.flag s.grantable := by
  rw [← and_assoc, ← names_eq_iff, role, role, Role.mk.injEq]
  constructor
  · rintro ⟨hname, hflag⟩
    exact ⟨Identifier.join_quote_injective r.named_names s.named_names hname, hflag⟩
  · rintro ⟨hnames, hflag⟩
    rw [hnames]
    exact ⟨rfl, hflag⟩

/-- What the catalog shows of roles is readable and unambiguous: the grant string of a row is read
back as its role, and so is the one with all names in quotes. Two rows have the same role exactly if
they agree on schema, name and flag. -/
theorem readable_from_any_quotes :
    (∀ r : GrantedRole, ∃ x, Role.ofRow r.row = .ok x ∧ Role.parse x.render = .ok x ∧
      Role.parse r.quoted = .ok x) ∧
    ∀ r s : GrantedRole, Role.ofRow r.row = Role.ofRow s.row ↔ r.schemaName = s.schemaName ∧
      r.name = s.name ∧ Row.flag r.grantable = Row.flag s.grantable := by
  refine ⟨fun r => ?_, fun r s => ?_⟩
  · have hquote := Identifier.writes_map fun name hname =>
      Identifier.writes_quote (r.named_names name hname)
    have henquote := Identifier.writes_map fun name hname =>
      Identifier.writes_enquote (r.named_names name hname)
    exact ⟨r.role, r.ofRow_row, parse_of_writes hquote, parse_of_writes henquote⟩
  · rw [r.ofRow_row, s.ofRow_row, Except.ok.injEq]
    exact role_eq_iff

/-- A role without a schema whose name has a dot and ends with the words of the admin option. -/
def dottedRole : GrantedRole where
  schema := .null
  name := "SALES.R WITH ADMIN OPTION".toList
  grantable := .text "FALSE".toList
  schemaName := []
  schema_eq := rfl
  schema_line := by decide
  named := by decide

/-- The grantable role `R` in the schema `SALES`. -/
def grantableRole : GrantedRole where
  schema := .text "SALES".toList
  name := "R".toList
  grantable := .text "TRUE".toList
  schemaName := "SALES".toList
  schema_eq := rfl
  schema_line := by decide
  named := by decide

/-- A dot and an option inside a name are not those of another row, and both rows are read back. -/
theorem readable_from_any_quotes_of_dots_and_options :
    (∃ x, Role.ofRow dottedRole.row = .ok x ∧ Role.parse x.render = .ok x ∧
      Role.parse "\"SALES.R WITH ADMIN OPTION\"".toList = .ok x) ∧
    (∃ x, Role.ofRow grantableRole.row = .ok x ∧ Role.parse x.render = .ok x ∧
      Role.parse "\"SALES\".\"R\" WITH ADMIN OPTION".toList = .ok x) ∧
    Role.ofRow dottedRole.row ≠ Role.ofRow grantableRole.row := by
  obtain ⟨hreadable, hunambiguous⟩ := readable_from_any_quotes
  refine ⟨hreadable dottedRole, hreadable grantableRole, fun halike => ?_⟩
  obtain ⟨hschema, -, -⟩ := (hunambiguous _ _).mp halike
  exact absurd hschema (by decide)

end GrantedRole

end AccessGrants
