import AccessGrants.Proofs.CatalogRows
import AccessGrants.Proofs.Reading

/-!
# The baseline in its two spellings

The baseline quotes its schema always, and the catalog quotes it only when it has to. The first
spelling is read as the privilege that the second one displays, unless the schema has no name or one
of several lines: then the baseline is not read at all.

* `Baseline.onSchemaPrivilege` is the privilege, `Baseline.display_onSchemaPrivilege` its display.
* `Baseline.parse_catalogPrivilege`, `Baseline.parse_privilege_eq_ok_iff`: when the baseline is read,
  and as what.
* `Baseline.catalogPrivilege_injective`, `Baseline.isSpelling_catalogPrivilege_iff`: different schemas
  have different baselines, in either spelling.
* `Baseline.privilegeStrings_row`: what a row of the catalog with the baseline displays.
-/

namespace AccessGrants

open Text Layout

namespace Baseline

variable {schema defaultSchema : Text}

/-- The privilege to create anything in a schema, grantable. -/
def onSchemaPrivilege (schema : Text) : Privilege :=
  ⟨.schema, "CREATE ANY".toList, Identifier.quote schema, true⟩

/-- The same without its option, with the schema spelled as given. -/
def body (identifier : Text) : Text :=
  "CREATE ANY".toList ++ (" ON ".toList ++ ("SCHEMA ".toList ++ identifier))

/-- The body as a verb, the word `ON` and the rest, in which shape the forms read it. -/
theorem body_eq (identifier : Text) : body identifier =
    "CREATE ANY".toList ++ (" ON ".toList ++ ("SCHEMA ".toList ++ identifier)) := rfl

/-- It is on one line if the schema is. -/
theorem line_body {identifier : Text} (hline : '\n' ∉ identifier) : '\n' ∉ body identifier := by
  rw [body_eq, List.mem_append, List.mem_append, List.mem_append, not_or, not_or, not_or]
  exact ⟨by decide, by decide, by decide, hline⟩

/-- The verb of the baseline is canonical. -/
theorem isCanonical_verb : Verb.IsCanonical "CREATE ANY".toList := by decide

/-- The grant string is its body with the option after it. -/
theorem onSchema_eq (identifier : Text) :
    onSchema identifier = body identifier ++ ' ' :: GrantOption.grant.suffix := by
  have hstart : "CREATE ANY ON SCHEMA ".toList =
      "CREATE ANY".toList ++ (" ON ".toList ++ "SCHEMA ".toList) := by decide
  have hend : " WITH GRANT OPTION".toList = ' ' :: GrantOption.grant.suffix := by decide
  unfold onSchema
  simp only [body_eq, hstart, hend, List.append_assoc]

/-- The baseline in the spelling of the catalog is a display. -/
theorem display_onSchemaPrivilege (schema : Text) :
    (onSchemaPrivilege schema).display = catalogPrivilege schema := by
  have hpreposition : PrivilegeKind.preposition .schema = " ON ".toList ++ "SCHEMA ".toList := by
    decide
  have hclause : PrivilegeKind.clause .schema "CREATE ANY".toList (Identifier.quote schema) =
      body (Identifier.quote schema) := by
    rw [PrivilegeKind.clause_eq (by decide), hpreposition, body_eq]
    simp only [List.append_assoc]
  rw [Privilege.display_eq, catalogPrivilege, onSchema_eq, ← hclause]
  rfl

/-- The baseline is in normal layout, whatever its schema is called. -/
theorem normalize_privilege (schema : Text) : normalize (privilege schema) = privilege schema := by
  have hphrase : Keeps .plain .blank (" ON ".toList ++ "SCHEMA ".toList) := fun _ => rfl
  have htarget : Keeps .blank .plain (Identifier.enquote schema) :=
    Keeps.enquote (by decide) schema
  have hkeeps : Keeps .plain .plain ("CREATE ANY".toList ++
      (" ON ".toList ++ "SCHEMA ".toList ++ Identifier.enquote schema) ++
        ' ' :: GrantOption.grant.suffix) :=
    ((Verb.keeps isCanonical_verb.isVerb).append (hphrase.append htarget)).append
      (GrantOption.keeps_suffix .grant)
  have hsolid := (Verb.solid isCanonical_verb.isVerb).append (GrantOption.solid_suffix .grant)
    (" ON ".toList ++ ("SCHEMA ".toList ++ Identifier.enquote schema) ++ [' '])
  rw [privilege, onSchema_eq, body_eq]
  simp only [List.append_assoc, List.singleton_append] at hkeeps hsolid ⊢
  exact normalize_eq_self hsolid hkeeps

/-! ## Reading the baseline -/

/-- The form for schemas is the first that reads the body, and it takes off needless quotes. -/
theorem firstRead_body (hne : schema ≠ []) :
    Form.firstRead Form.all defaultSchema (body (Identifier.enquote schema)) =
      some (.schema, "CREATE ANY".toList, Identifier.quote schema) := by
  have hread : Identifier.read isLetter (Identifier.enquote schema ++ []) =
      some (Identifier.enquote schema, []) := Identifier.read_enquote hne nofun
  have hwhole : Identifier.whole isLetter (Identifier.enquote schema) =
      some (Identifier.enquote schema) := by
    rw [List.append_nil] at hread
    rw [Identifier.whole, hread]
    rfl
  rw [body_eq, Form.firstRead_schema isCanonical_verb.isVerb hwhole, isCanonical_verb.upper_eq,
    Identifier.canonical_enquote]

/-- Without one identifier after `SCHEMA` no form reads a privilege to create anything. -/
theorem firstRead_eq_none {x : Text} (hwhole : Identifier.whole isLetter x = none) :
    Form.firstRead Form.all defaultSchema (body x) = none := by
  have hsplit : Verb.splitOn (body x) = some ("CREATE ANY".toList, "SCHEMA ".toList ++ x) :=
    Form.splitOn_append_on isCanonical_verb.isVerb _
  -- an identifier ends before the blank, and nothing that follows it fits
  have hword : Identifier.read isLetter ("SCHEMA".toList ++ ' ' :: x) =
      some ("SCHEMA".toList, ' ' :: x) := by
    have hplain : Identifier.IsCanonical "SCHEMA".toList := .plain (by decide)
    refine (hplain.isWritten Form.isLetter_letter).read_append Form.isLetter_letter fun c hc => ?_
    rw [List.head?_cons, Option.mem_some] at hc
    rw [← hc]
    decide
  have hphrase : "SCHEMA ".toList ++ x = "SCHEMA".toList ++ ' ' :: x := rfl
  have hschema : Form.readTarget "SCHEMA ".toList ("SCHEMA ".toList ++ x) = none := by
    have hdrop : dropPhrase "SCHEMA ".toList ("SCHEMA ".toList ++ x) = some x :=
      dropPhrase_eq_some_iff.mpr ⟨_, rfl, by decide⟩
    rw [Form.readTarget, hdrop]
    dsimp only
    rw [Form.readIdentifier, hwhole]
    rfl
  have hqualified : Form.readQualified ("SCHEMA ".toList ++ x) = none := by
    rw [Form.readQualified, hphrase, Identifier.qualified, hword]
    rfl
  have hobject : Form.readIdentifier ("SCHEMA ".toList ++ x) = none := by
    rw [Form.readIdentifier, hphrase, Identifier.whole, hword]
    rfl
  exact Form.firstRead_eq_none hsplit rfl rfl rfl hschema hqualified hobject

/-- The option of the baseline is split off if the name of the schema is on one line. -/
theorem splitGrant_privilege (hline : '\n' ∉ schema) :
    splitGrant (privilege schema) = .ok (body (Identifier.enquote schema), some .grant) := by
  have hbody : '\n' ∉ body (Identifier.enquote schema) :=
    line_body fun hmem => hline (Identifier.mem_of_mem_enquote (by decide) hmem)
  rw [splitGrant, normalize_privilege, privilege, onSchema_eq,
    GrantOption.split_append_suffix .grant hbody]
  rfl

/-- Otherwise the option stays where it is, after the identifier. -/
theorem splitGrant_privilege_of_mem (hline : '\n' ∈ schema) :
    splitGrant (privilege schema) =
      .ok (body (Identifier.enquote schema ++ ' ' :: GrantOption.grant.suffix), none) := by
  have hbody : '\n' ∈ body (Identifier.enquote schema) := by
    simp [body_eq, Identifier.enquote, Identifier.mem_doubleQuotes, hline]
  rw [splitGrant, normalize_privilege, privilege, onSchema_eq,
    GrantOption.split_append_suffix_of_mem .grant hbody, body_eq, body_eq]
  simp only [List.append_assoc]
  rfl

/-- The baseline of a schema on one line is a canonical privilege. -/
theorem isCanonical_onSchemaPrivilege (hne : schema ≠ []) (hline : '\n' ∉ schema) :
    (onSchemaPrivilege schema).IsCanonical :=
  ⟨isCanonical_verb, nofun, Identifier.isCanonical_quote hne hline,
    fun _ hmem => hline (Identifier.mem_of_mem_quote (by decide) hmem), nofun, nofun⟩

/-- The baseline in the spelling of the catalog is read back. -/
theorem parse_catalogPrivilege (hne : schema ≠ []) (hline : '\n' ∉ schema) :
    Privilege.parse (catalogPrivilege schema) defaultSchema = .ok (onSchemaPrivilege schema) := by
  rw [← display_onSchemaPrivilege]
  exact Privilege.parse_display (isCanonical_onSchemaPrivilege hne hline) nofun

/-- The baseline in its other spelling is read as the same privilege. -/
theorem parse_privilege (hne : schema ≠ []) (hline : '\n' ∉ schema) :
    Privilege.parse (privilege schema) defaultSchema = .ok (onSchemaPrivilege schema) := by
  have hbody : body (Identifier.enquote schema) ≠ [] := by
    rw [body_eq]
    exact List.append_ne_nil_of_left_ne_nil (Verb.solid isCanonical_verb.isVerb).ne_nil _
  have hsplit : splitGrant (privilege schema) = .ok (body (Identifier.enquote schema),
      if true then some (PrivilegeKind.grantOption .schema) else none) :=
    splitGrant_privilege hline
  rw [Privilege.parse_of_splitGrant hsplit hbody (firstRead_body hne) rfl]
  exact congrArg _ (isCanonical_onSchemaPrivilege hne hline).isStored.trimmed_eq

/-- Without a name for its schema, or with one of several lines, the baseline is refused. -/
theorem exists_parse_privilege_error (defaultSchema : Text)
    (hname : schema = [] ∨ '\n' ∈ schema) :
    ∃ reason, Privilege.parse (privilege schema) defaultSchema =
      .error (.grammar (.unknownPrivilege (privilege schema) reason)) := by
  by_cases hne : schema = []
  · have hread : Form.firstRead Form.all defaultSchema (body (Identifier.enquote [])) = none :=
      firstRead_eq_none (by decide)
    rw [hne]
    exact Privilege.parse_of_firstRead_eq_none (splitGrant_privilege (by decide)) hread
  · have hline : '\n' ∈ schema := hname.resolve_left hne
    have hread : Identifier.read isLetter
        (Identifier.enquote schema ++ ' ' :: GrantOption.grant.suffix) =
          some (Identifier.enquote schema, ' ' :: GrantOption.grant.suffix) :=
      Identifier.read_enquote hne (by decide)
    have hwhole : Identifier.whole isLetter
        (Identifier.enquote schema ++ ' ' :: GrantOption.grant.suffix) = none := by
      rw [Identifier.whole, hread]
      rfl
    exact Privilege.parse_of_firstRead_eq_none (splitGrant_privilege_of_mem hline)
      (firstRead_eq_none hwhole)

/-- The baseline is read exactly if its schema has a name of one line, as the privilege to create
anything in that schema. -/
theorem parse_privilege_eq_ok_iff {p : Privilege} :
    Privilege.parse (privilege schema) defaultSchema = .ok p ↔
      schema ≠ [] ∧ '\n' ∉ schema ∧ p = onSchemaPrivilege schema := by
  constructor
  · intro hparse
    by_cases hname : schema = [] ∨ '\n' ∈ schema
    · obtain ⟨_, herror⟩ := exists_parse_privilege_error defaultSchema hname
      rw [herror] at hparse
      cases hparse
    · obtain ⟨hne, hline⟩ := not_or.mp hname
      rw [parse_privilege hne hline, Except.ok.injEq] at hparse
      exact ⟨hne, hline, hparse.symm⟩
  · rintro ⟨hne, hline, rfl⟩
    exact parse_privilege hne hline

/-- Different schemas have different baselines. -/
theorem catalogPrivilege_injective {other : Text}
    (h : catalogPrivilege schema = catalogPrivilege other) : schema = other := by
  unfold catalogPrivilege onSchema at h
  exact Identifier.quote_injective (List.append_cancel_left (List.append_cancel_right h))

/-- In the spelling of the catalog, the baseline of one schema is the baseline of another one in either
spelling only if the schemas are the same. -/
theorem isSpelling_catalogPrivilege_iff {other : Text} :
    isSpelling schema (catalogPrivilege other) = true ↔ other = schema := by
  rw [isSpelling, Bool.or_eq_true, beq_iff_eq, beq_iff_eq]
  constructor
  · rintro (h | h)
    · unfold catalogPrivilege privilege onSchema at h
      exact Identifier.eq_of_quote_eq_enquote (List.append_cancel_left (List.append_cancel_right h))
    · exact catalogPrivilege_injective h
  · rintro rfl
    exact .inr rfl

/-! ## The baseline in the catalog -/

/-- The row of the catalog for the baseline of a schema. -/
def row (schema : Text) : Row :=
  [.text "SCHEMA".toList, .text "CREATE ANY".toList, .text schema, .null, .text "TRUE".toList]

/-- A row for the baseline shows it in the spelling of the catalog. -/
theorem privilegeStrings_row (hne : schema ≠ []) (hline : '\n' ∉ schema) :
    Catalog.privilegeStrings [row schema] = .ok [catalogPrivilege schema] := by
  have hprivilege : Privilege.ofRow (row schema) = .ok (onSchemaPrivilege schema) := by
    have hkind : Row.kind (.text "SCHEMA".toList) = .ok .schema := by decide
    have hflag : Row.flag (.text "TRUE".toList) = true := by decide
    exact Privilege.ofRow_of_check hkind rfl rfl hflag
      (isCanonical_onSchemaPrivilege hne hline).isStored.check_eq
  rw [Catalog.privilegeStrings, ← display_onSchemaPrivilege]
  simp [hprivilege, bind, Except.bind, pure, Except.pure]

end Baseline

end AccessGrants
