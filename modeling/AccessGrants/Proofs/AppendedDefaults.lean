import AccessGrants.Proofs.Baselines
import AccessGrants.Proofs.RepeatedOptions

/-!
# Defaults beside listed grants

The catalog shows a grant once, with the option that it has. So of two desired grant strings that
differ only in their option a pass finds one missing each time, and grants it again. The defaults of
an unrestricted user are appended where they are missing, but a default counts as missing while it
is listed with another option than its own, and then the desired grants have such a pair.

* `DifferInOption`, `OptionsApart`: grant strings that differ in their option only, and lists
  without any. `differInOption_iff`: the three ways to differ.
* `Privilege.option_of_render`, `Role.option_of_render`: the option that a canonical form ends with.
* `Baseline.differInOption_catalogPrivilege_iff`, `Baseline.differInOption_publicRole_iff`: the one
  canonical form that differs from a default in its option.
* `ManagementPolicy.exists_canonical_insertMissing`: a list with a default, read.
* `ManagementPolicy.optionsApart_applyDefaults_iff`: when the lists with defaults have no such pair.
-/

namespace AccessGrants

open Text Layout

/-! ## Grant strings that differ in their option -/

namespace GrantOption

/-- The options are written in different words. -/
theorem suffix_injective {o o' : GrantOption} (h : o.suffix = o'.suffix) : o = o' := by
  revert h
  cases o <;> cases o' <;> decide

/-- With the blank before it, an option has eighteen characters. -/
theorem length_blank_suffix (o : GrantOption) : (' ' :: o.suffix).length = 18 := by
  cases o <;> decide

/-- A text with an option behind it has no other one there, and behind no other text. -/
theorem append_suffix_inj {t u : Text} {o o' : GrantOption} :
    t ++ ' ' :: o.suffix = u ++ ' ' :: o'.suffix ↔ t = u ∧ o = o' := by
  constructor
  · intro h
    have hlength : (' ' :: o.suffix).length = (' ' :: o'.suffix).length := by
      rw [length_blank_suffix, length_blank_suffix]
    obtain ⟨hbody, hsuffix⟩ := List.append_inj' h hlength
    exact ⟨hbody, suffix_injective (List.tail_eq_of_cons_eq hsuffix)⟩
  · rintro ⟨rfl, rfl⟩
    rfl

end GrantOption

section DifferInOption

variable {body t u x : Text} {ts : List Text}

/-- A grant string is a body with or without an option behind it. -/
def IsWithOption (body t : Text) : Prop :=
  t = body ∨ ∃ o : GrantOption, t = body ++ ' ' :: o.suffix

instance : Decidable (IsWithOption body t) :=
  decidable_of_iff (t = body ∨ t = body ++ ' ' :: GrantOption.admin.suffix ∨
    t = body ++ ' ' :: GrantOption.grant.suffix)
    ⟨fun h => h.imp_right fun h => h.elim (fun h => ⟨.admin, h⟩) fun h => ⟨.grant, h⟩,
      fun h => h.imp_right fun ⟨o, h⟩ => by
        cases o with
        | admin => exact .inl h
        | grant => exact .inr h⟩

/-- Two grant strings differ, but only in the option behind a common body. -/
def DifferInOption (t u : Text) : Prop :=
  t ≠ u ∧ ∃ body, IsWithOption body t ∧ IsWithOption body u

/-- There are two bodies that a grant string can have. -/
theorem IsWithOption.mem_bodies (h : IsWithOption body t) :
    body ∈ [t, t.take (t.length - 18)] := by
  rcases h with rfl | ⟨o, rfl⟩
  · exact List.mem_cons_self
  · rw [List.length_append, GrantOption.length_blank_suffix, Nat.add_sub_cancel, List.take_left]
    exact List.mem_cons_of_mem _ List.mem_cons_self

instance : Decidable (DifferInOption t u) :=
  decidable_of_iff (t ≠ u ∧ ∃ body ∈ [t, t.take (t.length - 18)],
    IsWithOption body t ∧ IsWithOption body u)
    ⟨fun ⟨hne, body, _, h⟩ => ⟨hne, body, h⟩, fun ⟨hne, body, h⟩ => ⟨hne, body, h.1.mem_bodies, h⟩⟩

/-- Either one of them is the other with an option, or they have the two options. -/
theorem differInOption_iff : DifferInOption t u ↔
    (∃ o : GrantOption, u = t ++ ' ' :: o.suffix) ∨ (∃ o : GrantOption, t = u ++ ' ' :: o.suffix) ∨
      ∃ (body : Text) (o o' : GrantOption), o ≠ o' ∧ t = body ++ ' ' :: o.suffix ∧
        u = body ++ ' ' :: o'.suffix := by
  constructor
  · rintro ⟨hne, body, rfl | ⟨o, rfl⟩, rfl | ⟨o', rfl⟩⟩
    · exact absurd rfl hne
    · exact .inl ⟨o', rfl⟩
    · exact .inr (.inl ⟨o, rfl⟩)
    · refine .inr (.inr ⟨body, o, o', ?_, rfl, rfl⟩)
      rintro rfl
      exact hne rfl
  · rintro (⟨o, rfl⟩ | ⟨o, rfl⟩ | ⟨body, o, o', hne, rfl, rfl⟩)
    · exact ⟨by simp, t, .inl rfl, .inr ⟨o, rfl⟩⟩
    · exact ⟨by simp, u, .inr ⟨o, rfl⟩, .inl rfl⟩
    · exact ⟨fun h => hne (GrantOption.append_suffix_inj.mp h).2, body, .inr ⟨o, rfl⟩,
        .inr ⟨o', rfl⟩⟩

/-- Of two such grant strings it does not matter which is named first. -/
theorem DifferInOption.symm (h : DifferInOption t u) : DifferInOption u t :=
  ⟨h.1.symm, h.2.imp fun _ => And.symm⟩

/-- No two grant strings of a list differ in their option only. -/
def OptionsApart (ts : List Text) : Prop :=
  ∀ t ∈ ts, ∀ u ∈ ts, ¬ DifferInOption t u

instance : Decidable (OptionsApart ts) :=
  inferInstanceAs (Decidable (∀ t ∈ ts, ∀ u ∈ ts, ¬ DifferInOption t u))

/-- One more grant string has to differ from each one in the list by more than its option. -/
theorem optionsApart_concat_iff :
    OptionsApart (ts ++ [x]) ↔ OptionsApart ts ∧ ∀ t ∈ ts, ¬ DifferInOption t x := by
  constructor
  · intro h
    exact ⟨fun t ht u hu => h t (List.mem_append_left _ ht) u (List.mem_append_left _ hu),
      fun t ht => h t (List.mem_append_left _ ht) x (List.mem_append_right _ List.mem_cons_self)⟩
  · rintro ⟨hapart, hx⟩ t ht u hu hdiffer
    rw [List.mem_append, List.mem_singleton] at ht hu
    rcases ht with ht | rfl
    · rcases hu with hu | rfl
      · exact hapart t ht u hu hdiffer
      · exact hx t ht hdiffer
    · rcases hu with hu | rfl
      · exact hx u hu hdiffer.symm
      · exact hdiffer.1 rfl

/-- A list to which a grant string is appended stays without such a pair exactly if it does not have
the one grant string that makes a pair with it. -/
theorem optionsApart_concat_iff_of_only {other : Text} (hapart : OptionsApart ts)
    (honly : ∀ t ∈ ts, DifferInOption t x ↔ t = other) :
    OptionsApart (ts ++ [x]) ↔ other ∉ ts := by
  rw [optionsApart_concat_iff, and_iff_right hapart]
  constructor
  · intro h hmem
    exact h other hmem ((honly other hmem).mpr rfl)
  · intro hmem t ht hdiffer
    rw [(honly t ht).mp hdiffer] at ht
    exact hmem ht

end DifferInOption

/-! ## The option that a canonical form ends with -/

section Render

variable {raw w defaultSchema schema : Text} {o : GrantOption}

/-- What is written of a system privilege is a verb, with its option as well. -/
theorem Privilege.isVerb_render {p : Privilege} (h : parse raw defaultSchema = .ok p)
    (hkind : p.kind = .system) : Verb.isVerb (p.render schema) = true := by
  have hname : Verb.isVerb p.name = true := (name_of_parse h).1.verb
  unfold render
  rw [hkind, PrivilegeKind.clause_system]
  dsimp only
  split
  · exact Form.isVerb_append_suffix hname (o := .admin) (by decide)
  · exact hname

/-- If what is written of any other privilege ends with an option, it is its own, and there is none
before it. -/
theorem Privilege.option_of_render {p : Privilege} (h : parse raw defaultSchema = .ok p)
    (hkind : p.kind ≠ .system) (hline : '\n' ∉ w)
    (hrender : p.render schema = w ++ ' ' :: o.suffix) :
    o = .grant ∧ GrantOption.split w = .ok (w, none) := by
  have hsplit := (split_render_eq_iff h schema).mpr fun hsystem => hkind hsystem.1
  have hplain : ({ p with grantable := false } : Privilege).render schema =
      p.kind.clause p.name (p.qualifiedTarget schema) := rfl
  rw [hplain] at hsplit
  unfold render at hrender
  dsimp only at hrender
  split at hrender
  · obtain ⟨rfl, rfl⟩ := GrantOption.append_suffix_inj.mp hrender
    refine ⟨?_, hsplit⟩
    cases hp : p.kind with
    | system => exact absurd hp hkind
    | _ => rfl
  · rw [hrender, GrantOption.split_append_suffix o hline] at hsplit
    simp at hsplit

/-- If what is written of a role ends with an option, it is the one for roles. -/
theorem Role.option_of_render {r : Role} (h : parse raw = .ok r)
    (hrender : r.render = w ++ ' ' :: o.suffix) : o = .admin := by
  unfold render at hrender
  split at hrender
  · exact (GrantOption.append_suffix_inj.mp hrender).2.symm
  · refine absurd ⟨o, ?_⟩ (not_endsInOption_name h)
    rw [hrender, splitBy_append, GrantOption.splitBy_suffix]
    exact List.suffix_append _ _

end Render

/-! ## What differs from a default -/

namespace Baseline

variable {raw defaultSchema : Text}

/-- What begins like the baseline is not a system privilege. -/
theorem kind_ne_system_of_render {p : Privilege} {identifier schema : Text}
    (h : Privilege.parse raw defaultSchema = .ok p) (hrender : p.render schema = body identifier) :
    p.kind ≠ .system := by
  intro hkind
  have hverb : Verb.isVerb (p.render schema) = true := Privilege.isVerb_render h hkind
  rw [hrender, body_eq,
    Verb.isVerb_eq_false_of_splitOn (Form.splitOn_append_on isCanonical_verb.isVerb _)] at hverb
  cases hverb

/-- Of all canonical forms, the baseline without its option alone differs from the baseline in the
option. -/
theorem differInOption_catalogPrivilege_iff {p : Privilege} (hline : '\n' ∉ defaultSchema)
    (h : Privilege.parse raw defaultSchema = .ok p) :
    DifferInOption (p.render defaultSchema) (catalogPrivilege defaultSchema) ↔
      p.render defaultSchema = body (Identifier.quote defaultSchema) := by
  have hbaseline : catalogPrivilege defaultSchema =
      body (Identifier.quote defaultSchema) ++ ' ' :: GrantOption.grant.suffix := onSchema_eq _
  have hbehind : ∀ (identifier : Text) (o : GrantOption), body identifier ++ ' ' :: o.suffix =
      body (identifier ++ ' ' :: o.suffix) := by
    intro identifier o
    simp only [body_eq, List.append_assoc]
  have hbody : '\n' ∉ body (Identifier.quote defaultSchema) :=
    line_body fun hmem => hline (Identifier.mem_of_mem_quote (by decide) hmem)
  rw [differInOption_iff, hbaseline]
  constructor
  · rintro (⟨o, heq⟩ | ⟨o, heq⟩ | ⟨t, o, o', hne, heq, hbase⟩)
    · exact (GrantOption.append_suffix_inj.mp heq).1.symm
    · -- with one more option behind it the baseline has one inside
      have hkind := kind_ne_system_of_render h (heq.trans (by rw [hbehind, hbehind]))
      have hlines : '\n' ∉ body (Identifier.quote defaultSchema) ++
          ' ' :: GrantOption.grant.suffix := by
        rw [List.mem_append, not_or]
        exact ⟨hbody, by decide⟩
      have hsplit := (Privilege.option_of_render h hkind hlines heq).2
      rw [GrantOption.split_append_suffix .grant hbody] at hsplit
      simp at hsplit
    · -- and it has no other option than its own
      obtain ⟨rfl, rfl⟩ := GrantOption.append_suffix_inj.mp hbase
      have hkind := kind_ne_system_of_render h (heq.trans (hbehind _ _))
      exact absurd (Privilege.option_of_render h hkind hbody heq).1 hne
  · intro heq
    rw [heq]
    exact .inl ⟨.grant, rfl⟩

/-- Of all canonical forms of roles, the public role with its option alone differs from the public
role in the option. -/
theorem differInOption_publicRole_iff {r : Role} (h : Role.parse raw = .ok r) :
    DifferInOption r.render publicRole ↔
      r.render = publicRole ++ ' ' :: GrantOption.admin.suffix := by
  have hword : ∀ (t : Text) (o : GrantOption), publicRole ≠ t ++ ' ' :: o.suffix := by
    intro t o heq
    have hblank : ' ' ∈ publicRole := by
      rw [heq]
      exact List.mem_append_right _ List.mem_cons_self
    exact absurd hblank (by decide)
  rw [differInOption_iff]
  constructor
  · rintro (⟨o, heq⟩ | ⟨o, heq⟩ | ⟨t, o, o', -, -, heq⟩)
    · exact absurd heq (hword _ o)
    · rw [heq, Role.option_of_render h heq]
    · exact absurd heq (hword t o')
  · intro heq
    exact .inr (.inl ⟨.admin, heq⟩)

end Baseline

/-! ## Lists with defaults -/

namespace ManagementPolicy

variable {privileges roles ps rs : List Text} {defaultSchema : Text}

/-- A list with a default that is added unless it is there, whatever it is a list of: it is read as
before, perhaps with the default behind it. It has no grant strings that differ in their option only
exactly if the one that makes a pair with the default is not in it. -/
theorem exists_canonical_insertMissing {α : Type} {read : Text → Except ParseError α}
    {write : α → Text} {raws ts : List Text} {raw other : Text} {a : α}
    (h : (raws.mapM read >>= fun as => pure (as.map write)) = .ok ts) (hread : read raw = .ok a)
    (hapart : OptionsApart ts) (honly : ∀ t ∈ ts, DifferInOption t (write a) ↔ t = other) :
    ∃ ts', ((insertMissing raw raws).mapM read >>= fun as => pure (as.map write)) = .ok ts' ∧
      (ts' = ts ∨ ts' = ts ++ [write a]) ∧ (OptionsApart ts' ↔ other ∉ ts) := by
  obtain ⟨as, has, hmap⟩ := bind_eq_ok_iff.mp h
  cases hmap
  unfold insertMissing
  split
  · next hmem =>
    obtain ⟨b, hb, hreadAgain⟩ := exists_of_mapM_eq_ok has hmem
    rw [hread, Except.ok.injEq] at hreadAgain
    have hdefault : write a ∈ as.map write := by
      rw [hreadAgain]
      exact List.mem_map_of_mem hb
    refine ⟨_, h, .inl rfl, iff_of_true hapart ?_⟩
    intro hother
    exact hapart other hother _ hdefault ((honly other hother).mpr rfl)
  · refine ⟨as.map write ++ [write a], ?_, .inr rfl, optionsApart_concat_iff_of_only hapart honly⟩
    exact bind_eq_ok_iff.mpr
      ⟨_, mapM_concat_eq_ok has hread, congrArg Except.ok List.map_append⟩

/-- Privileges with the baseline. -/
theorem exists_canonical_with_baseline
    (hread : Privilege.canonicalStrings privileges defaultSchema = .ok ps)
    (hne : defaultSchema ≠ []) (hline : '\n' ∉ defaultSchema) (hapart : OptionsApart ps) :
    ∃ ps', Privilege.canonicalStrings (insertMissing (Baseline.privilege defaultSchema) privileges)
        defaultSchema = .ok ps' ∧
      (ps' = ps ∨ ps' = ps ++ [Baseline.catalogPrivilege defaultSchema]) ∧
      (OptionsApart ps' ↔ Baseline.body (Identifier.quote defaultSchema) ∉ ps) := by
  have hrender : (Baseline.onSchemaPrivilege defaultSchema).render defaultSchema =
      Baseline.catalogPrivilege defaultSchema := Baseline.display_onSchemaPrivilege defaultSchema
  rw [← hrender]
  apply exists_canonical_insertMissing hread (Baseline.parse_privilege hne hline) hapart
  intro t ht
  obtain ⟨raw, -, p, hparse, rfl⟩ := (Privilege.mem_canonicalStrings hread).mp ht
  rw [hrender]
  exact Baseline.differInOption_catalogPrivilege_iff hline hparse

/-- Roles with the public role. -/
theorem exists_canonical_with_publicRole (hread : Role.canonicalStrings roles = .ok rs)
    (hapart : OptionsApart rs) :
    ∃ rs', Role.canonicalStrings (insertMissing Baseline.publicRole roles) = .ok rs' ∧
      (rs' = rs ∨ rs' = rs ++ [Baseline.publicRole]) ∧
      (OptionsApart rs' ↔ Baseline.publicRole ++ ' ' :: GrantOption.admin.suffix ∉ rs) := by
  have hpublic : Role.parse Baseline.publicRole = .ok ⟨Baseline.publicRole, false⟩ := by decide
  apply exists_canonical_insertMissing hread hpublic hapart
  intro t ht
  obtain ⟨raw, -, r, hparse, rfl⟩ := (Role.mem_canonicalStrings hread).mp ht
  exact Baseline.differInOption_publicRole_iff hparse

/-- A policy is resolved from its name. -/
theorem applyDefaults_word (policy : ManagementPolicy) (restricted : Bool) :
    applyDefaults privileges roles (.text policy.word) defaultSchema restricted =
      .ok (if restricted then (privileges, roles)
        else withDefaults policy privileges roles defaultSchema) := by
  unfold applyDefaults
  split
  · rfl
  · rw [resolve_word]
    rfl

/-- Lists that are read are read with their defaults as well: all that was there comes first, and
only the defaults come behind it. If no two grant strings of a list differ in their option only,
then the lists with defaults have no such pair exactly if none of the defaults that belong there is
listed with another option than its own. -/
theorem optionsApart_applyDefaults_iff (policy : ManagementPolicy) (restricted : Bool)
    (hps : Privilege.canonicalStrings privileges defaultSchema = .ok ps)
    (hrs : Role.canonicalStrings roles = .ok rs) (hne : defaultSchema ≠ [])
    (hline : '\n' ∉ defaultSchema) (hprivileges : OptionsApart ps) (hroles : OptionsApart rs) :
    ∃ privileges' roles' ps' rs',
      applyDefaults privileges roles (.text policy.word) defaultSchema restricted =
        .ok (privileges', roles') ∧
      Privilege.canonicalStrings privileges' defaultSchema = .ok ps' ∧
      Role.canonicalStrings roles' = .ok rs' ∧
      (ps' = ps ∨ (restricted = false ∧ policy = .strict) ∧
        ps' = ps ++ [Baseline.catalogPrivilege defaultSchema]) ∧
      (rs' = rs ∨ restricted = false ∧ rs' = rs ++ [Baseline.publicRole]) ∧
      (OptionsApart ps' ∧ OptionsApart rs' ↔ restricted = true ∨
        (policy = .strict → Baseline.body (Identifier.quote defaultSchema) ∉ ps) ∧
          Baseline.publicRole ++ ' ' :: GrantOption.admin.suffix ∉ rs) := by
  rw [applyDefaults_word]
  cases restricted with
  | true =>
      exact ⟨_, _, ps, rs, rfl, hps, hrs, .inl rfl, .inl rfl,
        iff_of_true ⟨hprivileges, hroles⟩ (.inl rfl)⟩
  | false =>
      obtain ⟨rs', hrs', hbehind, hiff⟩ := exists_canonical_with_publicRole hrs hroles
      cases policy with
      | lax =>
          refine ⟨_, _, ps, rs', rfl, hps, hrs', .inl rfl, hbehind.imp_right fun h => ⟨rfl, h⟩, ?_⟩
          simp [hprivileges, hiff]
      | strict =>
          obtain ⟨ps', hps', hbehind', hiff'⟩ :=
            exists_canonical_with_baseline hps hne hline hprivileges
          refine ⟨_, _, ps', rs', rfl, hps', hrs', hbehind'.imp_right fun h => ⟨⟨rfl, rfl⟩, h⟩,
            hbehind.imp_right fun h => ⟨rfl, h⟩, ?_⟩
          simp [hiff, hiff']

/-- Defaults that are listed in another spelling of their names come in a second time, with the same
option. -/
theorem optionsApart_of_other_spellings : ∃ privileges' roles' ps' rs',
    applyDefaults ["Create Any on Schema \"ALICE\" with grant option".toList] ["\"PUBLIC\"".toList]
        (.text (word .strict)) "ALICE".toList false = .ok (privileges', roles') ∧
      Privilege.canonicalStrings privileges' "ALICE".toList = .ok ps' ∧
      Role.canonicalStrings roles' = .ok rs' ∧ OptionsApart ps' ∧ OptionsApart rs' := by
  have hps : Privilege.canonicalStrings
      ["Create Any on Schema \"ALICE\" with grant option".toList] "ALICE".toList =
        .ok ["CREATE ANY ON SCHEMA ALICE WITH GRANT OPTION".toList] := by decide
  have hrs : Role.canonicalStrings ["\"PUBLIC\"".toList] = .ok ["PUBLIC".toList] := by decide
  obtain ⟨privileges', roles', ps', rs', happly, hps', hrs', -, -, hiff⟩ :=
    optionsApart_applyDefaults_iff .strict false hps hrs (by decide) (by decide) (by decide)
      (by decide)
  exact ⟨privileges', roles', ps', rs', happly, hps', hrs', hiff.mpr (.inr (by decide))⟩

/-- The public role is appended beside its own listing with the admin option, and so is the baseline
beside its own listing without an option. -/
theorem not_optionsApart_of_other_option :
    (applyDefaults [] ["PUBLIC WITH ADMIN OPTION".toList] (.text (word .lax)) "ALICE".toList false =
        .ok ([], ["PUBLIC WITH ADMIN OPTION".toList, "PUBLIC".toList]) ∧
      Role.canonicalStrings ["PUBLIC WITH ADMIN OPTION".toList] =
        .ok ["PUBLIC WITH ADMIN OPTION".toList] ∧
      Role.canonicalStrings ["PUBLIC WITH ADMIN OPTION".toList, "PUBLIC".toList] =
        .ok ["PUBLIC WITH ADMIN OPTION".toList, "PUBLIC".toList] ∧
      OptionsApart ["PUBLIC WITH ADMIN OPTION".toList] ∧
      ¬ OptionsApart ["PUBLIC WITH ADMIN OPTION".toList, "PUBLIC".toList]) ∧
    ∃ privileges' roles' ps',
      applyDefaults ["CREATE ANY ON SCHEMA ALICE".toList] [] (.text (word .strict)) "ALICE".toList
        false = .ok (privileges', roles') ∧
      Privilege.canonicalStrings privileges' "ALICE".toList = .ok ps' ∧
      OptionsApart ["CREATE ANY ON SCHEMA ALICE".toList] ∧ ¬ OptionsApart ps' := by
  refine ⟨⟨by decide, by decide, by decide, by decide, by decide⟩, _, _,
    ["CREATE ANY ON SCHEMA ALICE".toList, "CREATE ANY ON SCHEMA ALICE WITH GRANT OPTION".toList],
    rfl, by decide, by decide, by decide⟩

end ManagementPolicy

end AccessGrants
