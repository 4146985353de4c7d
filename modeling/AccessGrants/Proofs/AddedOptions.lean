import AccessGrants.Proofs.CanonicalLayout
import AccessGrants.Proofs.StoredGrants
import AccessGrants.Proofs.StoredRoles

/-!
# Options added to grants

A grant that is read without an option may be written with one: the option of its kind makes it
grantable, and the other one is refused. This holds exactly as far as no line feed stands in a quoted
span, because an option is split off one line only.

* `Layout.normalize_append_suffix`: the layout of a grant string with an option after it.
* `Privilege.parse_append_suffix_iff`, `Role.parse_append_suffix_iff`: what such a grant string is
  read as.
* `option_law_iff`: exactly which grants may carry an option.
-/

namespace AccessGrants

open Text Layout

/-! ## Layout -/

namespace Layout

/-- The layout of a grant string with an option after it. -/
theorem normalize_append_suffix {raw : Text} (hne : normalize raw ≠ []) (o : GrantOption) :
    normalize (raw ++ ' ' :: o.suffix) = normalize raw ++ ' ' :: o.suffix := by
  obtain ⟨a, z, hraw, ha, hz⟩ := exists_eq_append_trim isBlank raw
  have hsolid : Solid (strip raw) := by
    refine solid_strip fun hnil => hne ?_
    rw [normalize, hnil]
    rfl
  have hwhole : raw ++ ' ' :: o.suffix = a ++ (strip raw ++ ((z ++ [' ']) ++ o.suffix)) := by
    rw [strip]
    nth_rewrite 1 [hraw]
    simp
  have hstrip : strip (raw ++ ' ' :: o.suffix) = strip raw ++ (z ++ ' ' :: o.suffix) := by
    rw [hwhole, strip_append ha (hsolid.append (GrantOption.solid_suffix o) _)]
    simp
  have hquote : '"' ∉ z ++ ' ' :: o.suffix := by
    rw [List.mem_append, not_or]
    exact ⟨fun hmem => absurd (hz _ hmem) (by decide), by cases o <;> decide⟩
  obtain ⟨c, hc, hlast⟩ := hsolid.last
  have hafter : Place.after .plain (strip raw) = .plain :=
    after_of_getLast? (fun hplace => absurd hplace (by decide)) hc hlast
  have hsuffix : squeeze .blank o.suffix = o.suffix := by
    cases o <;> rfl
  have hrun : squeeze .plain (z ++ ' ' :: o.suffix) = ' ' :: squeeze .blank o.suffix := by
    rw [← List.singleton_append, ← List.append_assoc]
    refine squeeze_plain_append (by simp) (fun d hd => ?_) o.suffix
    rcases List.mem_append.mp hd with hd | hd
    · exact hz d hd
    · rw [List.mem_singleton.mp hd]
      rfl
  rw [normalize, hstrip, squeeze_append hquote, hafter, hrun, hsuffix, normalize]

end Layout

/-- The option after a grant string is split off, unless a line feed stands in a quoted span. -/
theorem splitGrant_append_suffix {raw : Text} (hne : normalize raw ≠ []) (o : GrantOption) :
    splitGrant (raw ++ ' ' :: o.suffix) =
      .ok (if InSpan '\n' raw then (normalize raw ++ ' ' :: o.suffix, none)
        else (normalize raw, some o)) := by
  rw [splitGrant, normalize_append_suffix hne]
  by_cases hline : InSpan '\n' raw
  · rw [if_pos hline,
      GrantOption.split_append_suffix_of_mem o (newline_mem_normalize_iff.mpr hline)]
    rfl
  · rw [if_neg hline, GrantOption.split_append_suffix o (mt newline_mem_normalize_iff.mp hline)]
    rfl

/-! ## Privileges -/

namespace Privilege

variable {raw defaultSchema body : Text} {p : Privilege}

/-- A grant string whose option is not split off is read as a plain grant. -/
theorem grantable_of_splitGrant (hsplit : splitGrant raw = .ok (body, none))
    (h : parse raw defaultSchema = .ok p) : p.grantable = false := by
  obtain ⟨form, other, name, target, grantable, hother, -, rfl⟩ := exists_read_of_parse h
  rw [hsplit, Except.ok.injEq, Prod.mk.injEq] at hother
  cases grantable with
  | false => rfl
  | true => cases hother.2

/-- A grant that is read without an option is read from the whole grant string. -/
theorem exists_firstRead_normalize (h : parse raw defaultSchema = .ok p)
    (hplain : p.grantable = false) : normalize raw ≠ [] ∧ ∃ (form : Form) (name target : Text),
      Form.firstRead Form.all defaultSchema (normalize raw) = some (form, name, target) ∧
      p = trimmed form.kind name target false := by
  obtain ⟨form, body, name, target, grantable, hsplit, hread, rfl⟩ := exists_read_of_parse h
  obtain rfl : grantable = false := hplain
  obtain ⟨rfl, -⟩ := GrantOption.eq_of_split_none (splitGrant_eq_ok_iff.mp hsplit)
  refine ⟨fun hnil => ?_, form, name, target, hread, rfl⟩
  rw [hnil] at hread
  cases hread

/-- With the option of its kind after it a grant is grantable, and with the other one it is refused,
exactly if no line feed stands in a quoted span. -/
theorem parse_append_suffix_iff (h : parse raw defaultSchema = .ok p)
    (hplain : p.grantable = false) :
    (∀ o : GrantOption, parse (raw ++ ' ' :: o.suffix) defaultSchema =
      if o = p.kind.grantOption then .ok { p with grantable := true }
      else .error (.grammar (optionError (raw ++ ' ' :: o.suffix) o))) ↔ ¬ InSpan '\n' raw := by
  obtain ⟨hne, form, name, target, hread, rfl⟩ := exists_firstRead_normalize h hplain
  constructor
  · intro hall hline
    have hgrantable := (hall form.kind.grantOption).trans (if_pos rfl)
    have hsplit := splitGrant_append_suffix hne form.kind.grantOption
    rw [if_pos hline] at hsplit
    cases grantable_of_splitGrant hsplit hgrantable
  · intro hline o
    have hparse : parse (raw ++ ' ' :: o.suffix) defaultSchema =
        ofBody Form.all (raw ++ ' ' :: o.suffix) defaultSchema (normalize raw) (some o) := by
      rw [parse, splitGrant_append_suffix hne, if_neg hline]
      rfl
    rw [hparse, ofBody, if_neg hne, hread]
    rfl

end Privilege

/-! ## Roles -/

namespace Role

variable {raw body : Text} {r : Role}

/-- A grant string whose option is not split off is read as a plain role. -/
theorem grantable_of_splitGrant (hsplit : splitGrant raw = .ok (body, none))
    (h : parse raw = .ok r) : r.grantable = false := by
  obtain ⟨other, name, grantable, hother, -, rfl⟩ := exists_readName_of_parse h
  rw [hsplit, Except.ok.injEq, Prod.mk.injEq] at hother
  cases grantable with
  | false => rfl
  | true => cases hother.2

/-- A role that is read without an option is read from the whole grant string. -/
theorem exists_readName_normalize (h : parse raw = .ok r) (hplain : r.grantable = false) :
    normalize raw ≠ [] ∧ ∃ name, readName (normalize raw) = some name ∧ r = trimmed name false := by
  obtain ⟨body, name, grantable, hsplit, hread, rfl⟩ := exists_readName_of_parse h
  obtain rfl : grantable = false := hplain
  obtain ⟨rfl, -⟩ := GrantOption.eq_of_split_none (splitGrant_eq_ok_iff.mp hsplit)
  refine ⟨fun hnil => ?_, name, hread, rfl⟩
  rw [hnil] at hread
  cases hread

/-- With the admin option after it a role is grantable, and with the grant option it is refused,
exactly if no line feed stands in a quoted span. -/
theorem parse_append_suffix_iff (h : parse raw = .ok r) (hplain : r.grantable = false) :
    (parse (raw ++ ' ' :: GrantOption.admin.suffix) = .ok { r with grantable := true } ∧
      parse (raw ++ ' ' :: GrantOption.grant.suffix) =
        .error (.grammar (.invalidGrantOption (raw ++ ' ' :: GrantOption.grant.suffix)
          "role".toList))) ↔ ¬ InSpan '\n' raw := by
  obtain ⟨hne, name, hname, rfl⟩ := exists_readName_normalize h hplain
  constructor
  · rintro ⟨hgrantable, -⟩ hline
    have hsplit := splitGrant_append_suffix hne .admin
    rw [if_pos hline] at hsplit
    cases grantable_of_splitGrant hsplit hgrantable
  · intro hline
    have hsplit : ∀ o, splitGrant (raw ++ ' ' :: GrantOption.suffix o) =
        .ok (normalize raw, some o) := fun o => by
      rw [splitGrant_append_suffix hne, if_neg hline]
    have hadmin : parse (raw ++ ' ' :: GrantOption.admin.suffix) = .ok (trimmed name true) :=
      parse_of_splitGrant (hsplit .admin) hname
    refine ⟨hadmin, ?_⟩
    rw [parse, hsplit]
    rfl

end Role

/-! ## Both -/

/-- Every grant may carry its option exactly as far as no line feed stands in a quoted span: then the
option of its kind makes a privilege grantable and the other one is refused with the whole text, and
so it is for a role with the admin option and the grant option. -/
theorem option_law_iff (raw defaultSchema : Text) :
    (∀ p, Privilege.parse raw defaultSchema = .ok p → p.grantable = false →
      ((∀ o : GrantOption, Privilege.parse (raw ++ ' ' :: o.suffix) defaultSchema =
        if o = p.kind.grantOption then .ok { p with grantable := true }
        else .error (.grammar (Privilege.optionError (raw ++ ' ' :: o.suffix) o))) ↔
          ¬ InSpan '\n' raw)) ∧
    (∀ r, Role.parse raw = .ok r → r.grantable = false →
      ((Role.parse (raw ++ ' ' :: GrantOption.admin.suffix) = .ok { r with grantable := true } ∧
        Role.parse (raw ++ ' ' :: GrantOption.grant.suffix) =
          .error (.grammar (.invalidGrantOption (raw ++ ' ' :: GrantOption.grant.suffix)
            "role".toList))) ↔ ¬ InSpan '\n' raw)) :=
  ⟨fun _ h hplain => Privilege.parse_append_suffix_iff h hplain,
    fun _ h hplain => Role.parse_append_suffix_iff h hplain⟩

/-- A grant on an object with quotes and the words of an option in its name, with a line feed before
the name, and a role in a schema. -/
theorem option_law_of_quoted_names :
    Privilege.parse "select\non \"a \"\"b\"\" WITH ADMIN OPTION\" WITH GRANT OPTION".toList
        "SALES".toList =
      .ok ⟨.object, "SELECT".toList, "SALES.\"a \"\"b\"\" WITH ADMIN OPTION\"".toList, true⟩ ∧
    Role.parse "SALES.\"day shift\" WITH ADMIN OPTION".toList =
      .ok ⟨"SALES.\"day shift\"".toList, true⟩ := by
  have hp : Privilege.parse "select\non \"a \"\"b\"\" WITH ADMIN OPTION\"".toList "SALES".toList =
      .ok ⟨.object, "SELECT".toList, "SALES.\"a \"\"b\"\" WITH ADMIN OPTION\"".toList, false⟩ :=
    rfl
  have hr : Role.parse "SALES.\"day shift\"".toList =
      .ok ⟨"SALES.\"day shift\"".toList, false⟩ := rfl
  exact ⟨((option_law_iff _ _).1 _ hp rfl).mpr (by decide) .grant,
    (((option_law_iff _ []).2 _ hr rfl).mpr (by decide)).1⟩

/-- A schema whose name has a line feed in it may not carry the grant option. -/
theorem refused_option_of_line_feed :
    ∃ p, Privilege.parse "SELECT ON SCHEMA \"a\nb\"".toList [] = .ok p ∧
      p.grantable = false ∧ p.kind.grantOption = .grant ∧
      Privilege.parse "SELECT ON SCHEMA \"a\nb\" WITH GRANT OPTION".toList [] ≠
        .ok { p with grantable := true } :=
  ⟨⟨.schema, "SELECT".toList, "\"a\nb\"".toList, false⟩, rfl, rfl, rfl, by decide⟩

end AccessGrants
