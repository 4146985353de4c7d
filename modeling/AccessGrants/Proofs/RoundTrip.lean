import AccessGrants.Privilege.Parse
import AccessGrants.Proofs.CanonicalForms

/-!
# Reading undoes writing

The grant string of a stored privilege is read back as that privilege. It is in normal layout already,
its last words are its option or none, and the form of its kind reads its body.

* `PrivilegeKind.keeps_clause`, `PrivilegeKind.solid_clause`: the layout of a stored body.
* `Privilege.no_option_clause`: a stored body does not end with an option.
* `Privilege.splitGrant_display`: the grant string is split into its body and its option.
* `Privilege.IsStored.parse_eq`: reading undoes writing on stored privileges,
  `Privilege.parse_display`: and so on canonical ones.
-/

namespace AccessGrants

open Text Layout

/-! ## Layout of stored parts -/

namespace Verb

variable {t : Text}

/-- A word has neither quotes nor blanks, and it is not empty. -/
theorem solid_of_isWord {w : Text} (h : isWord w = true) :
    w ≠ [] ∧ ∀ c ∈ w, c ≠ '"' ∧ isBlank c = false := by
  obtain ⟨hne, hletter, -⟩ := isWord_iff.mp h
  refine ⟨hne, fun c hc => ?_⟩
  have hc := Form.isLetter_letter.other c (hletter c hc)
  exact ⟨hc.1, hc.2.2⟩

/-- A verb is kept. -/
theorem keeps (h : isVerb t = true) : Keeps .plain .plain t := by
  have hwords : Keeps .plain .plain (join [' '] (splitBy ' ' t)) :=
    Keeps.words (by decide) (splitBy ' ' t) (splitBy_ne_nil ' ' t) fun w hw =>
      solid_of_isWord (isVerb_iff.mp h w hw)
  rwa [join_splitBy] at hwords

/-- A verb begins and ends with a letter. -/
theorem solid (h : isVerb t = true) : Solid t := by
  have hwords : ∀ ws : List Text, ws ≠ [] → (∀ w ∈ ws, Solid w) → Solid (join [' '] ws) := by
    intro ws hne hws
    induction ws with
    | nil => exact absurd rfl hne
    | cons w ws ih =>
        cases ws with
        | nil =>
            rw [join_singleton]
            exact hws w List.mem_cons_self
        | cons v vs =>
            rw [join_cons_cons]
            exact (hws w List.mem_cons_self).append (ih (List.cons_ne_nil _ _) fun u hu =>
              hws u (List.mem_cons_of_mem _ hu)) [' ']
  have hjoin := hwords (splitBy ' ' t) (splitBy_ne_nil ' ' t) fun w hw => by
    obtain ⟨hne, hchars⟩ := solid_of_isWord (isVerb_iff.mp h w hw)
    exact Solid.of_not_blank hne fun c hc => (hchars c hc).2
  rwa [join_splitBy] at hjoin

end Verb

namespace PrivilegeKind

variable {kind : PrivilegeKind} {name target : Text}

/-- A stored target of any kind that has one is a path. -/
theorem path_target (hkind : kind ≠ .system) (h : kind.IsStoredTarget target) :
    Identifier.IsStoredPath isLetter target := by
  cases kind with
  | system => exact absurd rfl hkind
  | object => exact h
  | _ => exact .inl h

/-- What stands between the verb and the target is kept in normal layout. -/
theorem keeps_preposition (hkind : kind ≠ .system) : Keeps .plain .blank kind.preposition := by
  intro rest
  cases kind with
  | system => exact absurd rfl hkind
  | _ => rfl

/-- The body of a privilege that has a target. -/
theorem clause_eq (hkind : kind ≠ .system) :
    kind.clause name target = name ++ kind.preposition ++ target := by
  cases kind with
  | system => exact absurd rfl hkind
  | _ => rfl

/-- A stored body is kept. -/
theorem keeps_clause (hname : Verb.isVerb name = true) (htarget : kind.IsStoredTarget target) :
    Keeps .plain .plain (kind.clause name target) := by
  by_cases hkind : kind = .system
  · rw [hkind, clause_system]
    exact Verb.keeps hname
  · rw [clause_eq hkind]
    exact ((Verb.keeps hname).append (keeps_preposition hkind)).append
      ((path_target hkind htarget).keeps Form.isLetter_letter nofun)

/-- A stored body is solid. -/
theorem solid_clause (hname : Verb.isVerb name = true) (htarget : kind.IsStoredTarget target) :
    Solid (kind.clause name target) := by
  by_cases hkind : kind = .system
  · rw [hkind, clause_system]
    exact Verb.solid hname
  · rw [clause_eq hkind, List.append_assoc]
    exact (Verb.solid hname).append ((path_target hkind htarget).solid Form.isLetter_letter) _

/-- A stored body is on one line if its target is. -/
theorem line_clause (hname : Verb.isVerb name = true) (htarget : '\n' ∉ target) :
    '\n' ∉ kind.clause name target := by
  have hverb : '\n' ∉ name := fun hmem => absurd (Verb.isLetter_or_blank hname hmem) (by decide)
  by_cases hkind : kind = .system
  · rw [hkind, clause_system]
    exact hverb
  · have hpreposition : '\n' ∉ kind.preposition := by
      cases kind <;> decide
    rw [clause_eq hkind, List.mem_append, List.mem_append, not_or, not_or]
    exact ⟨⟨hverb, hpreposition⟩, htarget⟩

end PrivilegeKind

/-! ## Options -/

namespace GrantOption

variable {t front k i : Text}

/-- An option after a space is kept in normal layout. -/
theorem keeps_suffix (o : GrantOption) : Keeps .plain .plain (' ' :: o.suffix) := by
  intro rest
  cases o <;> rfl

/-- An option begins and ends with letters. -/
theorem solid_suffix (o : GrantOption) : Solid o.suffix := by
  cases o
  · exact ⟨⟨'W', by decide, by decide⟩, ⟨'N', by decide, by decide⟩⟩
  · exact ⟨⟨'W', by decide, by decide⟩, ⟨'N', by decide, by decide⟩⟩

/-- An option after a text or none at all opens no quotes, and does not matter to the layout of the
text. -/
theorem exists_suffix (o : GrantOption) (grantable : Bool) : ∃ u : Text,
    (∀ t : Text, (if grantable then t ++ ' ' :: o.suffix else t) = t ++ u) ∧ '"' ∉ u ∧
      Keeps .plain .plain u ∧ ∀ t, Solid t → Solid (t ++ u) := by
  cases grantable with
  | false =>
      refine ⟨[], fun t => (List.append_nil t).symm, List.not_mem_nil, Keeps.nil _, fun t ht => ?_⟩
      rwa [List.append_nil]
  | true =>
      have hquote : '"' ∉ ' ' :: o.suffix := by
        cases o <;> decide
      exact ⟨' ' :: o.suffix, fun t => rfl, hquote, keeps_suffix o,
        fun t ht => ht.append (solid_suffix o) [' ']⟩

/-- A text does not end with the words of an option if there is a character in its last word that is
no letter. -/
theorem not_words_of_mem {u : Text} {c : Char} (hu : ' ' ∉ u) (hc : c ∈ u)
    (hletter : isLetter c = false) (o : GrantOption) :
    ¬ o.words <:+ (splitBy ' ' (t ++ u)).map (List.map fold) := by
  intro hsuffix
  obtain ⟨ws, w, -, hlast⟩ := exists_splitBy_append (t := t) hu
  rw [hlast, List.map_append] at hsuffix
  obtain ⟨front, hfront⟩ := hsuffix
  have hend : "OPTION".toList = (w ++ u).map fold := by
    have hboth : (front ++ ["WITH".toList, o.word]) ++ ["OPTION".toList] =
        ws.map (List.map fold) ++ [(w ++ u).map fold] := by
      rw [List.append_assoc]
      exact hfront
    exact List.singleton_inj.mp (List.append_inj_right' hboth rfl)
  have hmem : fold c ∈ "OPTION".toList := by
    rw [hend]
    exact List.mem_map_of_mem (List.mem_append_right _ hc)
  rw [fold_of_not_isLetter hletter] at hmem
  have hall : "OPTION".toList.all isLetter = true := by decide
  rw [List.all_eq_true.mp hall _ hmem] at hletter
  cases hletter

/-- A text does not end with the words of an option if the last word but one is no option word. -/
theorem not_words_of_word (hk : ' ' ∉ k) (hi : ' ' ∉ i) (hword : ofWord? (k.map fold) = none)
    (o : GrantOption) :
    ¬ o.words <:+ (splitBy ' ' (front ++ ' ' :: (k ++ ' ' :: i))).map (List.map fold) := by
  rw [splitBy_append, splitBy_append, splitBy_of_not_mem hk, splitBy_of_not_mem hi]
  rintro ⟨ws, hws⟩
  have hboth : (ws ++ ["WITH".toList]) ++ [o.word, "OPTION".toList] =
      (splitBy ' ' front).map (List.map fold) ++ [k.map fold, i.map fold] := by
    rw [List.append_assoc]
    exact hws.trans (by simp)
  have hlast := List.append_inj_right' hboth rfl
  rw [← (List.cons.inj hlast).1, ofWord?_word] at hword
  cases hword

/-- A text does not end with the words of an option if it ends with a quoted name. -/
theorem not_words_of_enquote (before name : Text) (o : GrantOption) :
    ¬ o.words <:+ (splitBy ' ' (before ++ Identifier.enquote name)).map (List.map fold) := by
  rw [Identifier.enquote, ← List.append_assoc]
  exact not_words_of_mem (by decide) List.mem_cons_self (by decide) o

/-- A text does not end with the words of an option if it ends with a dot and an identifier. -/
theorem not_words_of_dot {letter : Char → Bool} (hletter : Identifier.IsAlphabet letter)
    (before : Text) (hi : Identifier.IsWritten letter i) (o : GrantOption) :
    ¬ o.words <:+ (splitBy ' ' (before ++ '.' :: i)).map (List.map fold) := by
  cases hi with
  | plain hi =>
      -- the last word has the dot in it
      have hblank : ' ' ∉ '.' :: i := by
        simpa using hi.not_blank_mem hletter
      exact not_words_of_mem hblank List.mem_cons_self (by decide) o
  | @quoted name =>
      have hlast := not_words_of_enquote (before ++ ['.']) name o
      rw [List.append_assoc, List.singleton_append] at hlast
      exact hlast

end GrantOption

namespace PrivilegeKind

variable {kind : PrivilegeKind} {name : Text}

/-- The last word before a target, where it belongs to the kind, is no option word. -/
theorem exists_word_of_preposition (hkind : kind ≠ .system) (hstructured : kind ≠ .structured) :
    ∃ front k, kind.preposition = front ++ ' ' :: (k ++ [' ']) ∧ ' ' ∉ k ∧
      GrantOption.ofWord? (k.map fold) = none := by
  cases kind with
  | system => exact absurd rfl hkind
  | source => exact ⟨" ON REMOTE".toList, "SOURCE".toList, by decide⟩
  | schema => exact ⟨" ON".toList, "SCHEMA".toList, by decide⟩
  | object => exact ⟨[], "ON".toList, by decide⟩
  | usergroup => exact ⟨" ON".toList, "USERGROUP".toList, by decide⟩
  | columnKey =>
      exact ⟨" ON CLIENTSIDE ENCRYPTION COLUMN".toList, "KEY".toList, by decide⟩
  | structured => exact absurd rfl hstructured

/-- What stands before a target ends with a word that is no option word. -/
theorem exists_word_before (hkind : kind ≠ .system)
    (hfixed : kind = .structured → name = "STRUCTURED PRIVILEGE".toList) :
    ∃ front k, ' ' ∉ k ∧ GrantOption.ofWord? (k.map fold) = none ∧
      ∀ target, kind.clause name target = front ++ ' ' :: (k ++ ' ' :: target) := by
  by_cases hstructured : kind = .structured
  · obtain ⟨hname, hpreposition, hk, hword⟩ :
        "STRUCTURED PRIVILEGE".toList = "STRUCTURED".toList ++ ' ' :: "PRIVILEGE".toList ∧
          preposition .structured = [' '] ∧ ' ' ∉ "PRIVILEGE".toList ∧
            GrantOption.ofWord? ("PRIVILEGE".toList.map fold) = none := by
      decide
    refine ⟨"STRUCTURED".toList, "PRIVILEGE".toList, hk, hword, fun target => ?_⟩
    rw [clause_eq hkind, hfixed hstructured, hname, hstructured, hpreposition]
    simp only [List.append_assoc, List.cons_append, List.nil_append]
  · obtain ⟨front, k, hpreposition, hk, hword⟩ := exists_word_of_preposition hkind hstructured
    refine ⟨name ++ front, k, hk, hword, fun target => ?_⟩
    rw [clause_eq hkind, hpreposition]
    simp only [List.append_assoc, List.cons_append, List.nil_append]

/-- A body does not end with the words of an option if its target is an identifier, or ends with a dot
and one. -/
theorem no_option_of_target {target : Text} (hkind : kind ≠ .system)
    (hfixed : kind = .structured → name = "STRUCTURED PRIVILEGE".toList)
    (ht : Identifier.IsWritten isLetter target ∨
      ∃ t j, Identifier.IsWritten isLetter j ∧ target = t ++ '.' :: j) (o : GrantOption) :
    ¬ o.words <:+ (splitBy ' ' (kind.clause name target)).map (List.map fold) := by
  obtain ⟨front, k, hk, hword, hshape⟩ := exists_word_before hkind hfixed
  rw [hshape]
  rcases ht with hi | ⟨t, j, hj, rfl⟩
  · cases hi with
    | plain hi =>
        exact GrantOption.not_words_of_word hk (hi.not_blank_mem Form.isLetter_letter) hword o
    | @quoted name =>
        have hlast := GrantOption.not_words_of_enquote (front ++ ' ' :: (k ++ [' '])) name o
        rw [List.append_assoc, List.cons_append, List.append_assoc] at hlast
        exact hlast
  · have hlast := GrantOption.not_words_of_dot Form.isLetter_letter (front ++ ' ' :: (k ++ ' ' :: t))
      hj o
    rw [List.append_assoc, List.cons_append, List.append_assoc, List.cons_append] at hlast
    exact hlast

end PrivilegeKind

/-! ## Splitting a grant string -/

/-- The splitting of the normal layout is that of the grant string. -/
theorem splitGrant_eq_ok_iff {raw body : Text} {option : Option GrantOption} :
    splitGrant raw = .ok (body, option) ↔
      GrantOption.split (normalize raw) = .ok (body, option) := by
  unfold splitGrant
  rcases GrantOption.split (normalize raw) with e | parts
  · exact ⟨nofun, nofun⟩
  · rw [Except.mapError, Except.ok.injEq, Except.ok.injEq]

/-- A body whose option is split off is on one line. -/
theorem line_of_splitGrant {raw body : Text} {o : GrantOption}
    (h : splitGrant raw = .ok (body, some o)) : '\n' ∉ body :=
  GrantOption.line_of_split (splitGrant_eq_ok_iff.mp h)

/-- A body without an option does not end with the words of one, unless it has several lines. -/
theorem no_option_of_splitGrant {raw body : Text} (h : splitGrant raw = .ok (body, none))
    (hline : '\n' ∉ dropFinalNewline body) (o : GrantOption) :
    ¬ o.words <:+ (splitBy ' ' (dropFinalNewline body)).map (List.map fold) := by
  obtain ⟨rfl, hwords⟩ := GrantOption.eq_of_split_none (splitGrant_eq_ok_iff.mp h)
  exact hwords hline o

/-- A text in normal layout is split from the option after it. It has to be on one line, then, and
without an option it must not end with the words of one. -/
theorem splitGrant_of_words {t : Text} {o : GrantOption} {grantable : Bool} (hsolid : Solid t)
    (hkeeps : Keeps .plain .plain t) (hline : grantable = true → '\n' ∉ t)
    (hwords : grantable = false →
      ∀ o : GrantOption, ¬ o.words <:+ (splitBy ' ' t).map (List.map fold)) :
    splitGrant (if grantable then t ++ ' ' :: o.suffix else t) =
      .ok (t, if grantable then some o else none) := by
  rw [splitGrant_eq_ok_iff]
  cases grantable with
  | true =>
      have hlayout : normalize (t ++ ' ' :: o.suffix) = t ++ ' ' :: o.suffix :=
        normalize_eq_self (hsolid.append (GrantOption.solid_suffix o) [' '])
          (hkeeps.append (GrantOption.keeps_suffix o))
      rw [if_pos rfl, if_pos rfl, hlayout]
      exact GrantOption.split_append_suffix o (hline rfl)
  | false =>
      have hlast : t.getLast? ≠ some '\n' := by
        obtain ⟨c, hc, hblank⟩ := hsolid.last
        rw [hc]
        rintro ⟨rfl⟩
        exact absurd hblank (by decide)
      rw [if_neg (by decide), if_neg (by decide), normalize_eq_self hsolid hkeeps]
      exact GrantOption.split_of_words hlast (hwords rfl)

namespace Privilege

variable {p : Privilege} {defaultSchema : Text}

/-- The body of a stored privilege does not end with the words of an option, unless the privilege is
grantable. -/
theorem no_option_clause (h : p.IsStored) (hplain : p.grantable = false) (o : GrantOption) :
    ¬ o.words <:+ (splitBy ' ' (p.kind.clause p.name p.target)).map (List.map fold) := by
  by_cases hkind : p.kind = .system
  · rw [hkind, PrivilegeKind.clause_system, ← splitBy_map_fold]
    exact h.noOption hkind hplain o
  · refine PrivilegeKind.no_option_of_target hkind
      (fun hstructured => h.fixedName _ (by rw [hstructured]; rfl)) ?_ o
    rcases PrivilegeKind.path_target hkind h.target with hi | ⟨i, j, -, hj, htarget⟩
    · exact .inl hi.written
    · exact .inr ⟨i, j, hj.written, htarget⟩

/-- A grant string with its target as it is has the option after the body. -/
theorem display_eq (p : Privilege) :
    p.display = if p.grantable then
      p.kind.clause p.name p.target ++ ' ' :: p.kind.grantOption.suffix
    else p.kind.clause p.name p.target := by
  unfold display render qualifiedTarget
  simp

/-- The grant string of a stored privilege is split into its body and its option. -/
theorem splitGrant_display (h : p.IsStored) :
    splitGrant p.display = .ok (p.kind.clause p.name p.target,
      if p.grantable then some p.kind.grantOption else none) := by
  rw [display_eq]
  exact splitGrant_of_words (PrivilegeKind.solid_clause h.name.verb h.target)
    (PrivilegeKind.keeps_clause h.name.verb h.target)
    (fun hgrantable => PrivilegeKind.line_clause h.name.verb (h.line hgrantable))
    (no_option_clause h)

/-- A grant string whose option fits the form that reads its body is read. -/
theorem parse_of_splitGrant {raw body name target : Text} {form : Form} {kind : PrivilegeKind}
    {grantable : Bool}
    (hsplit : splitGrant raw = .ok (body, if grantable then some kind.grantOption else none))
    (hbody : body ≠ [])
    (hread : Form.firstRead Form.all defaultSchema body = some (form, name, target))
    (hkind : kind.grantOption = form.kind.grantOption) :
    parse raw defaultSchema = .ok (trimmed form.kind name target grantable) := by
  have hparse : parse raw defaultSchema =
      ofBody Form.all raw defaultSchema body
        (if grantable then some kind.grantOption else none) := by
    rw [parse, hsplit]
    rfl
  rw [hparse, ofBody, if_neg hbody, hread]
  cases grantable with
  | false => rfl
  | true => exact if_pos hkind

/-- A body that no form reads is refused. -/
theorem parse_of_firstRead_eq_none {raw body : Text} {option : Option GrantOption}
    (hsplit : splitGrant raw = .ok (body, option))
    (hread : Form.firstRead Form.all defaultSchema body = none) :
    ∃ reason, parse raw defaultSchema = .error (.grammar (.unknownPrivilege raw reason)) := by
  have hparse : parse raw defaultSchema = ofBody Form.all raw defaultSchema body option := by
    rw [parse, hsplit]
    rfl
  rw [hparse, ofBody, hread]
  split
  · exact ⟨none, rfl⟩
  · exact ⟨_, rfl⟩

namespace IsStored

/-- A stored system privilege has no target. -/
theorem target_eq_nil (h : p.IsStored) (hkind : p.kind = .system) : p.target = [] := by
  have htarget := h.target
  rw [hkind] at htarget
  exact htarget

/-- All other stored privileges have one. -/
theorem solid_target (h : p.IsStored) (hkind : p.kind ≠ .system) : Solid p.target :=
  (PrivilegeKind.path_target hkind h.target).solid Form.isLetter_letter

/-- There is no white space around the parts of a stored privilege. -/
theorem trimmed_eq (h : p.IsStored) : trimmed p.kind p.name p.target p.grantable = p := by
  have htarget : stripWhiteSpace p.target = p.target := by
    by_cases hkind : p.kind = .system
    · rw [h.target_eq_nil hkind]
      rfl
    · exact (h.solid_target hkind).stripWhiteSpace_eq
  rw [trimmed, (Verb.solid h.name.verb).stripWhiteSpace_eq, htarget]

/-- The grant string of a stored privilege is read back as that privilege, in every default schema,
unless an object has no schema of its own. -/
theorem parse_eq (h : p.IsStored)
    (hschema : p.kind = .object → Identifier.IsStored isLetter p.target → defaultSchema = []) :
    parse p.display defaultSchema = .ok p := by
  obtain ⟨form, hform, hread⟩ := Form.exists_firstRead_clause h hschema
  have hbody := (PrivilegeKind.solid_clause h.name.verb h.target).ne_nil
  rw [parse_of_splitGrant (splitGrant_display h) hbody hread (by rw [hform]), hform, h.trimmed_eq]

end IsStored

/-- Reading undoes writing: the canonical grant string of a canonical privilege is read back as that
privilege, in every default schema, unless an object has no schema of its own. -/
theorem parse_display (h : p.IsCanonical)
    (hschema : p.kind = .object → Identifier.IsCanonical p.target → defaultSchema = []) :
    parse p.display defaultSchema = .ok p := by
  refine h.isStored.parse_eq fun hkind hstored => ?_
  have htarget := h.target
  rw [hkind] at htarget
  rcases htarget with hi | ⟨i, j, hi, hj, heq⟩
  · exact hschema hkind hi
  · -- an object with its schema is not one identifier
    have hone := hstored.written
    rw [heq] at hone
    exact absurd hone ((hi.isWritten Form.isLetter_letter).not_isWritten_append Form.isLetter_letter
      (hj.isWritten Form.isLetter_letter))

/-- A grantable privilege on an object whose name has blanks, quotes and the word `ON` in it. -/
theorem parse_display_quoted_object :
    parse "SELECT ON SALES.\"a \"\"b\"\" ON c\" WITH GRANT OPTION".toList "X".toList =
      .ok ⟨.object, "SELECT".toList, "SALES.\"a \"\"b\"\" ON c\"".toList, true⟩ := by
  have htarget : PrivilegeKind.object.IsCanonicalTarget "SALES.\"a \"\"b\"\" ON c\"".toList :=
    .inr ⟨"SALES".toList, Identifier.enquote "a \"b\" ON c".toList, .plain (by decide),
      .quoted (by decide) (by decide), by decide⟩
  have hcanonical : IsCanonical
      ⟨.object, "SELECT".toList, "SALES.\"a \"\"b\"\" ON c\"".toList, true⟩ :=
    ⟨by decide, nofun, htarget, fun _ => by decide, nofun, nofun⟩
  have hqualified : ¬ Identifier.IsCanonical "SALES.\"a \"\"b\"\" ON c\"".toList := fun h =>
    absurd (h.whole_eq Form.isLetter_letter) (by decide)
  exact parse_display hcanonical fun _ h => absurd h hqualified

end Privilege

end AccessGrants
