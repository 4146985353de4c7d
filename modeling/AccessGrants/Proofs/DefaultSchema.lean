import AccessGrants.Proofs.Baselines
import AccessGrants.Proofs.WellFormed

/-!
# The two readings of the default schema

The default schema is put before an unqualified object as the text that it is, and the baseline and
the rows of the catalog take it for a name, which they quote. Both mean the same schema exactly if the
name needs no quotes.

* `Identifier.quote_eq_self_iff`: when quoting a name changes nothing.
* `Privilege.parse_object`: a grant on an identifier is one on the object of that name, with the
  default schema before it.
* `Privilege.unqualified`, `Privilege.parse_unqualified`: a grant on an object without a schema is one
  on the object in the default schema as given.
* `Catalog.tableRow`, `Privilege.ofRow_tableRow`: the same grant in the catalog is one on the object in
  the schema of that name.
* `Privilege.same_schema_iff`: exactly when they are the same.
-/

namespace AccessGrants

open Text Layout

variable {verb schema object defaultSchema : Text}

/-! ## Names -/

/-- Only a name that needs no quotes is quoted as itself. -/
theorem Identifier.quote_eq_self_iff {name : Text} : quote name = name ↔ isPlain name = true := by
  constructor
  · intro hquote
    by_contra hplain
    rw [quote, if_neg hplain] at hquote
    have hlength := congrArg List.length hquote
    have hdoubled : name.length ≤ (doubleQuotes name).length := by
      clear hplain hquote hlength
      induction name with
      | nil => exact Nat.le_refl 0
      | cons c r ih =>
          rw [doubleQuotes]
          split <;> simp only [List.length_cons] <;> omega
    simp only [enquote, List.length_append, List.length_cons, List.length_nil] at hlength
    omega
  · intro hplain
    rw [quote, if_pos hplain]

/-- A name without white space at its ends does not begin with any. -/
theorem Text.dropWhile_of_stripWhiteSpace (hstrip : stripWhiteSpace schema = schema) :
    schema.dropWhile isWhiteSpace = schema := by
  have hfirst := head?_trim isWhiteSpace schema
  rw [← stripWhiteSpace, hstrip] at hfirst
  cases schema with
  | nil => rfl
  | cons c r => exact List.dropWhile_cons_of_neg (by simp [hfirst c rfl])

/-! ## A grant on an object without a schema -/

namespace Privilege

/-- A verb and an identifier are read as a grant on the object of that name, with the default schema
before it as it is given. -/
theorem parse_object (hverb : Verb.isVerb verb = true)
    (hobject : Identifier.IsWritten isLetter object) (defaultSchema : Text) :
    parse (PrivilegeKind.object.clause verb object) defaultSchema =
      .ok (trimmed .object (upper verb)
        (Form.inSchema defaultSchema (Identifier.canonical object)) false) := by
  have hkind : PrivilegeKind.object ≠ .system := by decide
  have hbody : PrivilegeKind.object.clause verb object = verb ++ (" ON ".toList ++ object) :=
    List.append_assoc _ _ _
  have hsolid : Solid (PrivilegeKind.object.clause verb object) := by
    rw [hbody]
    exact (Verb.solid hverb).append (hobject.solid Form.isLetter_letter) _
  have hkeeps : Keeps .plain .plain (PrivilegeKind.object.clause verb object) := by
    rw [PrivilegeKind.clause_eq hkind]
    exact ((Verb.keeps hverb).append (PrivilegeKind.keeps_preposition hkind)).append
      (hobject.keeps Form.isLetter_letter nofun)
  have hsplit : splitGrant (PrivilegeKind.object.clause verb object) =
      .ok (PrivilegeKind.object.clause verb object,
        if false then some (PrivilegeKind.grantOption .object) else none) :=
    @splitGrant_of_words _ .grant false hsolid hkeeps nofun fun _ =>
      PrivilegeKind.no_option_of_target hkind nofun (.inl hobject)
  have hread : Form.object.read defaultSchema (PrivilegeKind.object.clause verb object) =
      some (upper verb, Form.inSchema defaultSchema (Identifier.canonical object)) := by
    rw [Form.read, hbody, Form.readVerb_of_splitOn (Form.splitOn_append_on hverb _),
      Form.readIdentifier, hobject.whole_eq Form.isLetter_letter]
    rfl
  have hfirst : Form.firstRead Form.all defaultSchema (PrivilegeKind.object.clause verb object) =
      some (.object, upper verb, Form.inSchema defaultSchema (Identifier.canonical object)) :=
    Form.firstRead_eq_some_iff.mpr ⟨hread, fun hform => absurd hform (by decide)⟩
  exact parse_of_splitGrant hsplit hsolid.ne_nil hfirst rfl

/-- The default schema stands before the identifier of an object, whose ends are trimmed alone. -/
theorem stripWhiteSpace_inSchema (hobject : Identifier.IsWritten isLetter object) (hne : schema ≠ [])
    (hstrip : stripWhiteSpace schema = schema) :
    stripWhiteSpace (Form.inSchema schema (Identifier.canonical object)) =
      schema ++ '.' :: stripWhiteSpace (Identifier.canonical object) := by
  rw [Form.inSchema, if_neg hne,
    stripWhiteSpace_append_dot _ (Identifier.first_canonical Form.isLetter_letter hobject),
    dropWhile_of_stripWhiteSpace hstrip]

/-- The grant string of a verb on an object without a schema. -/
def unqualified (verb object : Text) : Text :=
  verb ++ " ON ".toList ++ Identifier.quote object

/-- Such a grant is read as one on the object in the default schema, which stands as it is given. -/
theorem parse_unqualified (hverb : Verb.IsCanonical verb) (hobject : object ≠ [])
    (hline : '\n' ∉ object) (hne : schema ≠ []) (hstrip : stripWhiteSpace schema = schema) :
    parse (unqualified verb object) schema =
      .ok ⟨.object, verb, schema ++ '.' :: Identifier.quote object, false⟩ := by
  have hcanonical := Identifier.isCanonical_quote hobject hline
  have hwritten := hcanonical.isWritten Form.isLetter_letter
  have hparse := parse_object hverb.isVerb hwritten schema
  rw [trimmed, hverb.upper_eq, (Verb.solid hverb.isVerb).stripWhiteSpace_eq,
    stripWhiteSpace_inSchema hwritten hne hstrip, hcanonical.canonical_eq,
    (hwritten.solid Form.isLetter_letter).stripWhiteSpace_eq] at hparse
  exact hparse

end Privilege

/-! ## The same grant in the catalog -/

/-- The row of the catalog for a privilege on a table. -/
def Catalog.tableRow (verb schema object : Text) : Row :=
  [.text "TABLE".toList, .text verb, .text schema, .text object, .scalar (.bool false)]

namespace Privilege

/-- The row shows a privilege on the table in the schema of that name. -/
theorem ofRow_tableRow (hverb : Verb.IsCanonical verb) (hschema : schema ≠ [] ∧ '\n' ∉ schema)
    (hobject : object ≠ [] ∧ '\n' ∉ object) :
    ofRow (Catalog.tableRow verb schema object) = .ok ⟨.object, verb,
      Identifier.quote schema ++ '.' :: Identifier.quote object, false⟩ := by
  have hsolid : ∀ {name : Text}, name ≠ [] ∧ '\n' ∉ name → Solid (Identifier.quote name) :=
    fun hname => ((Identifier.isCanonical_quote hname.1 hname.2).isWritten
      Form.isLetter_letter).solid Form.isLetter_letter
  have htarget : Solid (Identifier.quote schema ++ '.' :: Identifier.quote object) :=
    (hsolid hschema).append (hsolid hobject) ['.']
  refine ofRow_of_check rfl rfl rfl rfl (check_of_solid (Verb.solid hverb.isVerb) nofun fun _ => ?_)
  exact htarget

/-- For the default schema as a schema name, the grant on an object without a schema, the row of the
catalog for that object in that schema, and the baseline on that schema: the last two name the schema
alike, and the first is the same privilege as the second exactly if the name needs no quotes. -/
theorem same_schema_iff (hverb : Verb.IsCanonical verb) (hne : schema ≠ []) (hline : '\n' ∉ schema)
    (hstrip : stripWhiteSpace schema = schema) (hobject : object ≠ []) (hobjectLine : '\n' ∉ object) :
    ∃ p q b, parse (unqualified verb object) schema = .ok p ∧
      ofRow (Catalog.tableRow verb schema object) = .ok q ∧
      parse (Baseline.privilege schema) schema = .ok b ∧
      q.target = b.target ++ '.' :: Identifier.quote object ∧
      (p = q ↔ Identifier.isPlain schema = true) := by
  refine ⟨_, _, _, parse_unqualified hverb hobject hobjectLine hne hstrip,
    ofRow_tableRow hverb ⟨hne, hline⟩ ⟨hobject, hobjectLine⟩, Baseline.parse_privilege hne hline,
    rfl, ?_⟩
  rw [Privilege.mk.injEq, ← Identifier.quote_eq_self_iff]
  constructor
  · rintro ⟨-, -, htarget, -⟩
    exact (List.append_cancel_right htarget).symm
  · intro hquote
    rw [hquote]
    exact ⟨rfl, rfl, rfl, rfl⟩

/-- A schema in capitals is the same in all readings, whatever the table is called. -/
theorem same_schema_of_capitals : ∃ p q b,
    parse (unqualified "SELECT".toList "a \"b\" ON c.d".toList) "SALES".toList = .ok p ∧
      ofRow (Catalog.tableRow "SELECT".toList "SALES".toList "a \"b\" ON c.d".toList) = .ok q ∧
      parse (Baseline.privilege "SALES".toList) "SALES".toList = .ok b ∧
      q.target = b.target ++ '.' :: Identifier.quote "a \"b\" ON c.d".toList ∧ p = q := by
  obtain ⟨p, q, b, hp, hq, hb, htarget, hsame⟩ := @same_schema_iff "SELECT".toList
    "SALES".toList "a \"b\" ON c.d".toList (by decide) (by decide) (by decide) (by decide)
    (by decide) (by decide)
  exact ⟨p, q, b, hp, hq, hb, htarget, hsame.mpr (by decide)⟩

/-- A schema with a blank in its name stands without quotes before an object, and in quotes in the
catalog. -/
theorem other_schema_of_blank : ∃ p q,
    parse (unqualified "SELECT".toList "T".toList) "my schema".toList = .ok p ∧
      ofRow (Catalog.tableRow "SELECT".toList "my schema".toList "T".toList) = .ok q ∧
      p.target = "my schema.T".toList ∧ q.target = "\"my schema\".T".toList ∧ p ≠ q :=
  ⟨⟨.object, "SELECT".toList, "my schema.T".toList, false⟩,
    ⟨.object, "SELECT".toList, "\"my schema\".T".toList, false⟩,
    by decide, by decide, rfl, rfl, by decide⟩

end Privilege

end AccessGrants
