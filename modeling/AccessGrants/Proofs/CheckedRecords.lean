import AccessGrants.Proofs.Reading

/-!
# Records that validate

A record validates if each of its fields does, so its specification can be read off field by field.

* `Check.both_eq_ok_iff`, `Check.required_eq_ok_iff`, `Check.optional_eq_ok_iff`: when checks succeed.
* `Check.nonempty_eq_ok_iff`, `Check.textOrNull_eq_ok_iff`: which texts pass, and as what.
* `Spec.checkKeys_eq_ok_iff`: a record has no key that a specification does not have.
* `Spec.ReadsAs`: the fields of a record, one by one. `Spec.ofValue_eq_ok_iff`: they are the record.
* `Spec.bare`, `Spec.ofValue_bareRecord`: what a record with nothing but a grantee says.
-/

namespace AccessGrants

open Text

/-! ## Checks -/

namespace Check

variable {α β : Type} {check : Value → Check α} {entries : List (Scalar × Value)} {key : Text}
  {v : Value} {a default : α} {t : Text}

/-- A place does not matter to a check that succeeds. -/
theorem under_eq_ok_iff {step : Step} {checked : Check α} :
    under step checked = .ok a ↔ checked = .ok a :=
  mapError_eq_ok_iff

/-- Two checks succeed together if each of them does. -/
theorem both_eq_ok_iff {x : Check α} {y : Check β} {b : β} :
    both x y = .ok (a, b) ↔ x = .ok a ∧ y = .ok b := by
  cases x <;> cases y <;> simp [both]

/-- A field that has to be there passes if it is there and its value passes. -/
theorem required_eq_ok_iff :
    required key check entries = .ok a ↔
      ∃ v, Value.get? key entries = some v ∧ check v = .ok a := by
  rw [required, under_eq_ok_iff]
  cases Value.get? key entries with
  | none => simp [fail]
  | some v => simp

/-- A field with a default passes also if it is not there. -/
theorem optional_eq_ok_iff :
    optional key default check entries = .ok a ↔
      (∃ v, Value.get? key entries = some v ∧ check v = .ok a) ∨
        Value.get? key entries = none ∧ a = default := by
  unfold optional
  cases Value.get? key entries with
  | none => simp [eq_comm]
  | some v => simp [under_eq_ok_iff]

/-- Only a text is a text, and it is trimmed. -/
theorem text_eq_ok_iff : text v = .ok t ↔ ∃ raw, v = .text raw ∧ stripWhiteSpace raw = t := by
  unfold text
  split
  · simp
  · simp [fail]
  · next hother _ =>
    refine iff_of_false nofun ?_
    rintro ⟨raw, rfl, -⟩
    exact hother raw rfl

/-- It is not empty if something is left of it. -/
theorem nonempty_eq_ok_iff :
    nonempty v = .ok t ↔ t ≠ [] ∧ ∃ raw, v = .text raw ∧ stripWhiteSpace raw = t := by
  rw [← text_eq_ok_iff]
  unfold nonempty
  split
  · next hempty =>
    rw [hempty]
    refine iff_of_false nofun ?_
    rintro ⟨hne, heq⟩
    exact hne (Except.ok.inj heq).symm
  · next hnonempty =>
    refine ⟨fun heq => ⟨?_, heq⟩, And.right⟩
    rintro rfl
    exact hnonempty heq

/-- A text may also be nothing, which is not the empty text. -/
theorem textOrNull_eq_ok_iff {given : Option Text} :
    textOrNull v = .ok given ↔ v = .null ∧ given = none ∨
      ∃ raw, v = .text raw ∧ given = some (stripWhiteSpace raw) := by
  unfold textOrNull
  split
  · simp [Value.null, eq_comm]
  · next hnull =>
    rw [bind_eq_ok_iff]
    constructor
    · rintro ⟨t, htext, hgiven⟩
      obtain ⟨raw, hv, rfl⟩ := text_eq_ok_iff.mp htext
      cases hgiven
      exact .inr ⟨raw, hv, rfl⟩
    · rintro (⟨hv, -⟩ | ⟨raw, hv, rfl⟩)
      · exact absurd hv hnull
      · exact ⟨_, text_eq_ok_iff.mpr ⟨raw, hv, rfl⟩, rfl⟩

/-- A value is a record only if it is a mapping. -/
theorem record_eq_ok_iff {name : Text} {fields : List (Scalar × Value) → Check α} :
    record name fields v = .ok a ↔ ∃ entries, v = .mapping entries ∧ fields entries = .ok a := by
  unfold record
  split
  · simp [mapError_eq_ok_iff]
  · next hmapping =>
    refine iff_of_false nofun ?_
    rintro ⟨entries, rfl, -⟩
    exact hmapping entries rfl

end Check

/-! ## Specifications -/

namespace Spec

variable {defaultPolicy : ManagementPolicy} {entries : List (Scalar × Value)} {v : Value}
  {spec : Spec}

/-- An entry has no issue if its key is a text and known. -/
theorem extraIssue_eq_none_iff {known : List Text} {entry : Scalar × Value} :
    extraIssue known entry = none ↔ ∃ key ∈ known, entry.1 = .text key := by
  obtain ⟨key, v⟩ := entry
  unfold extraIssue
  split
  · next key' _ heq =>
    cases heq
    simp
  · next hother heq =>
    cases heq
    refine iff_of_false nofun ?_
    rintro ⟨key', -, hkey⟩
    exact hother key' hkey

/-- All entries of a record pass if their keys are known. -/
theorem checkKeys_eq_ok_iff {known : List Text} :
    checkKeys known entries = .ok () ↔ ∀ entry ∈ entries, ∃ key ∈ known, entry.1 = .text key := by
  have hsorted : ∀ issues, Issue.sortByPlace issues = [] ↔ issues = [] := by
    intro issues
    rw [Issue.sortByPlace, ← List.perm_nil, (List.mergeSort_perm issues _).congr_left,
      List.perm_nil]
  simp only [← extraIssue_eq_none_iff]
  rw [← List.filterMap_eq_nil_iff, ← hsorted]
  unfold checkKeys
  split
  · next hnil => simp [hnil]
  · next hsome => exact iff_of_false nofun hsome

/-- The fields of a record make up a specification, and it has no others. -/
structure ReadsAs (defaultPolicy : ManagementPolicy) (entries : List (Scalar × Value))
    (spec : Spec) : Prop where
  texts : checkTexts entries = .ok ()
  grantee : Check.required "grantee".toList Check.nonempty entries = .ok spec.grantee
  granteeType : Check.optional "grantee_type".toList .user
    (Check.choice GranteeType.ofWord? [GranteeType.user.word, GranteeType.role.word]) entries =
      .ok spec.granteeType
  defaultSchema : ∃ given,
    Check.optional "default_schema".toList none Check.textOrNull entries = .ok given ∧
      spec.defaultSchema = resolveSchema spec.grantee given
  policy : Check.optional (policyKey entries) defaultPolicy
    (Check.choice ManagementPolicy.ofWord?
      [ManagementPolicy.strict.word, ManagementPolicy.lax.word]) entries = .ok spec.policy
  privileges : Check.optional "privileges".toList [] (Check.list Check.text) entries =
    .ok spec.privileges
  roles : Check.optional "roles".toList [] (Check.list Check.text) entries = .ok spec.roles
  restricted : Check.optional "restricted".toList false Check.flag entries = .ok spec.restricted
  keys : checkKeys (Spec.keys (policyKey entries)) entries = .ok ()

/-- A record validates exactly if all of its fields do. -/
theorem checkFields_eq_ok_iff :
    checkFields defaultPolicy entries = .ok spec ↔ ReadsAs defaultPolicy entries spec := by
  unfold checkFields
  constructor
  · intro h
    obtain ⟨_, htexts, h⟩ := bind_eq_ok_iff.mp h
    obtain ⟨⟨grantee, granteeType, given, policy, privileges, roles, restricted, _⟩, hfields, h⟩ :=
      bind_eq_ok_iff.mp h
    simp only [Check.both_eq_ok_iff] at hfields
    obtain ⟨hgrantee, htype, hgiven, hpolicy, hprivileges, hroles, hrestricted, hkeys⟩ := hfields
    cases h
    exact ⟨htexts, hgrantee, htype, ⟨given, hgiven, rfl⟩, hpolicy, hprivileges, hroles, hrestricted,
      hkeys⟩
  · intro h
    obtain ⟨given, hgiven, hschema⟩ := h.defaultSchema
    refine bind_eq_ok_iff.mpr ⟨(), h.texts, bind_eq_ok_iff.mpr
      ⟨(spec.grantee, spec.granteeType, given, spec.policy, spec.privileges, spec.roles,
        spec.restricted, ()), ?_, ?_⟩⟩
    · simp only [Check.both_eq_ok_iff]
      exact ⟨h.grantee, h.granteeType, hgiven, h.policy, h.privileges, h.roles, h.restricted, h.keys⟩
    · dsimp only
      rw [← hschema]
      rfl

/-- A value is a specification exactly if it is a record whose fields are. -/
theorem ofValue_eq_ok_iff :
    ofValue defaultPolicy v = .ok spec ↔
      ∃ entries, v = .mapping entries ∧ ReadsAs defaultPolicy entries spec := by
  rw [ofValue, Check.record_eq_ok_iff]
  simp only [checkFields_eq_ok_iff]

/-! ## A grantee and nothing else -/

/-- A record with nothing but a grantee. -/
def bareRecord (grantee : Text) : Value :=
  .mapping [(.text "grantee".toList, .text grantee)]

/-- The specification of such a record. -/
def bare (grantee : Text) : Spec :=
  ⟨grantee, .user, ownSchema grantee, .strict, [], [], false⟩

/-- Such a record validates if the grantee is trimmed. -/
theorem ofValue_bareRecord {grantee : Text} (hne : grantee ≠ [])
    (htrim : stripWhiteSpace grantee = grantee) :
    ofValue .strict (bareRecord grantee) = .ok (bare grantee) := by
  refine ofValue_eq_ok_iff.mpr ⟨_, rfl, rfl, ?_, rfl, ⟨none, rfl, rfl⟩, rfl, rfl, rfl, rfl, ?_⟩
  · exact Check.required_eq_ok_iff.mpr
      ⟨_, rfl, Check.nonempty_eq_ok_iff.mpr ⟨hne, grantee, rfl, htrim⟩⟩
  · rw [checkKeys_eq_ok_iff, List.forall_mem_singleton]
    exact ⟨_, List.mem_cons_self, rfl⟩

end Spec

end AccessGrants
