import AccessGrants.Privilege.Parse
import AccessGrants.Proofs.CanonicalForms
import AccessGrants.Proofs.RaisedLetters

/-!
# Letter case

Outside the quotes the case of an ASCII letter does not matter: grant strings that differ in nothing else
are read as grants of the same name, of the same kind and with the same option, on targets that differ in
nothing else, or they are refused with errors of one class.

* `Verb.splitOn_raised`, `GrantOption.split_raised`: a raised text has the verb and the option that the
  text has.
* `Form.read_raised`, `Form.firstRead_raised`, `Role.readName_raised`: what is read of a raised body.
* `AlikeOutcomes`: both grant strings are read and alike, or refused with errors of one class.
* `parse_of_sameButCase`: reading grant strings that differ in such case only.
-/

namespace AccessGrants

open Text Layout

/-! ## Phrases and verbs -/

namespace Text

variable {phrase : Text}

/-- Capitals and small letters are read alike in a phrase. -/
theorem dropPhrase_map_toUpper (phrase t : Text) :
    dropPhrase phrase (t.map Char.toUpper) = (dropPhrase phrase t).map (List.map Char.toUpper) := by
  induction phrase generalizing t with
  | nil => simp
  | cons k ks ih =>
      cases t with
      | nil => rfl
      | cons c r =>
          rw [List.map_cons, dropPhrase, dropPhrase, fold_toUpper, ih]
          split <;> rfl

/-- What follows a phrase in a raised text is raised. -/
theorem dropPhrase_raised (hphrase : '"' ∉ phrase) (t : Text) :
    dropPhrase phrase (raised false t) = (dropPhrase phrase t).map (raised false) := by
  induction phrase generalizing t with
  | nil => simp
  | cons k ks ih =>
      rw [List.mem_cons, not_or] at hphrase
      cases t with
      | nil => rfl
      | cons c r =>
          by_cases hc : c = '"'
          · subst hc
            have hk : ¬ fold '"' = k := hphrase.1
            rw [raised_false_quote, dropPhrase, dropPhrase, if_neg hk, if_neg hk]
            rfl
          · rw [raised_false_cons_of_ne hc, dropPhrase, dropPhrase, fold_toUpper, ih hphrase.2]
            split <;> rfl

/-- A phrase is one in capitals, too. -/
theorem isPhrase_map_toUpper (phrase t : Text) :
    isPhrase phrase (t.map Char.toUpper) = isPhrase phrase t := by
  rw [isPhrase, isPhrase, map_fold_map_toUpper]

end Text

namespace Verb

variable {t v r : Text}

/-- A verb is one in capitals, too. -/
theorem isVerb_map_toUpper (t : Text) : isVerb (t.map Char.toUpper) = isVerb t := by
  rw [← isVerb_map_fold, map_fold_map_toUpper, isVerb_map_fold]

/-- A verb has no quotes in it. -/
theorem not_quote_mem (h : isVerb t = true) : '"' ∉ t := by
  intro hmem
  rcases isLetter_or_blank h hmem with hletter | hblank
  · exact absurd hletter (by decide)
  · exact absurd hblank (by decide)

/-- A text is a verb in any letter case. -/
theorem isVerb_raised (t : Text) : isVerb (raised false t) = isVerb t := by
  by_cases hquote : '"' ∈ t
  · have hraised : '"' ∈ raised false t := (mem_raised_iff (by decide)).mpr hquote
    rw [Bool.eq_false_iff.mpr fun h => not_quote_mem h hquote,
      Bool.eq_false_iff.mpr fun h => not_quote_mem h hraised]
  · rw [raised_of_not_mem hquote, isVerb_map_toUpper]

/-- Up to the end of the word `ON` a text has no quotes. -/
theorem not_quote_mem_of_isOn {o : Text} (hverb : isVerb v = true) (ho : isOn o = true) :
    '"' ∉ v ++ ' ' :: (o ++ [' ']) := by
  have hon : '"' ∉ o := by
    intro hmem
    have hfold : fold '"' ∈ "ON".toList := eq_of_beq ho ▸ List.mem_map_of_mem hmem
    exact absurd hfold (by decide)
  simp [not_quote_mem hverb, hon]

/-- The verb of a raised text is that of the text in upper case. -/
theorem splitOn_raised (t : Text) : splitOn (raised false t) =
    (splitOn t).map fun parts => (parts.1.map Char.toUpper, raised false parts.2) := by
  rcases hsplit : splitOn t with _ | ⟨v, r⟩
  · rw [Option.map_none, Option.eq_none_iff_forall_ne_some]
    rintro ⟨v', r'⟩ hraised
    obtain ⟨hverb, o', ho, heq⟩ := splitOn_eq_some_iff.mp hraised
    -- the text has a verb where the raised text has one
    have hparts : raised false t = (v' ++ ' ' :: (o' ++ [' '])) ++ r' := by
      rw [heq]
      simp
    obtain ⟨u, r, rfl, hu, -⟩ := exists_append_of_raised (not_quote_mem_of_isOn hverb ho) hparts
    obtain ⟨v, y, rfl, rfl, hy⟩ := List.map_eq_append_iff.mp hu
    obtain ⟨b, z, rfl, hb, hz⟩ := List.map_eq_cons_iff.mp hy
    obtain ⟨o, e, rfl, rfl, he⟩ := List.map_eq_append_iff.mp hz
    obtain ⟨e, l, rfl, he, hl⟩ := List.map_eq_cons_iff.mp he
    obtain rfl := (toUpper_eq_iff (by decide)).mp hb
    obtain rfl := (toUpper_eq_iff (by decide)).mp he
    obtain rfl := List.map_eq_nil_iff.mp hl
    rw [isVerb_map_toUpper] at hverb
    rw [isOn, isPhrase_map_toUpper] at ho
    have hsome : splitOn (v ++ ' ' :: (o ++ [' ']) ++ r) = some (v, r) :=
      splitOn_eq_some_iff.mpr ⟨hverb, o, ho, by simp⟩
    rw [hsome] at hsplit
    cases hsplit
  · obtain ⟨hverb, o, ho, rfl⟩ := splitOn_eq_some_iff.mp hsplit
    have hparts : v ++ ' ' :: (o ++ ' ' :: r) = (v ++ ' ' :: (o ++ [' '])) ++ r := by simp
    rw [hparts, raised_append (not_quote_mem_of_isOn hverb ho), Option.map_some,
      splitOn_eq_some_iff]
    refine ⟨(isVerb_map_toUpper v).trans hverb, o.map Char.toUpper, ?_, ?_⟩
    · rw [isOn, isPhrase_map_toUpper]
      exact ho
    · have hblank : ' '.toUpper = ' ' := rfl
      simp [hblank]

end Verb

/-! ## Options -/

namespace GrantOption

variable {t body : Text}

/-- An option may be written in any case. -/
theorem suffixWord?_map_toUpper (t : Text) :
    suffixWord? (t.map Char.toUpper) = (suffixWord? t).map (List.map Char.toUpper) := by
  unfold suffixWord?
  rw [dropPhrase_map_toUpper]
  rcases dropPhrase "WITH ".toList t with _ | rest
  · rfl
  · rw [Option.map_some]
    dsimp only
    rw [← List.map_take, ← List.map_drop, isPhrase_map_toUpper, isPhrase_map_toUpper,
      isPhrase_map_toUpper]
    split <;> rfl

/-- An option has no quotes in it. -/
theorem not_quote_mem_of_suffixWord? {w : Text} (h : suffixWord? t = some w) : '"' ∉ t := by
  obtain ⟨o, hfold⟩ := map_fold_of_suffixWord? h
  intro hmem
  have hquote : fold '"' ∈ o.suffix := hfold ▸ List.mem_map_of_mem hmem
  cases o <;> exact absurd hquote (by decide)

/-- What is an option in a raised text is an option in the text. -/
theorem exists_cut_of_raised {w : Text} (hend : t.getLast? ≠ some '\n')
    (h : cut (raised false t) = (body, some w)) : ∃ body w, cut t = (body, some w) := by
  have hraised : (raised false t).getLast? ≠ some '\n' := mt (getLast?_raised_iff (by decide)).mp hend
  obtain ⟨hline, s', hword, hshape⟩ := (cut_eq_some_iff_of_end hraised).mp h
  have hquote := not_quote_mem_of_suffixWord? hword
  have hsuffix : ∀ {s}, s.map Char.toUpper = s' → ∃ w, suffixWord? s = some w := by
    rintro s rfl
    rw [suffixWord?_map_toUpper] at hword
    obtain ⟨w, hword, -⟩ := Option.map_eq_some_iff.mp hword
    exact ⟨w, hword⟩
  rcases hshape with heq | ⟨rfl, heq⟩
  · obtain ⟨r, u, rfl, rfl, hu⟩ := exists_append_right_of_raised (by simpa using hquote) heq
    obtain ⟨b, s, rfl, hb, hs⟩ := List.map_eq_cons_iff.mp hu
    obtain rfl := (toUpper_eq_iff (by decide)).mp hb
    obtain ⟨w, hs⟩ := hsuffix hs
    exact ⟨r, w, (cut_eq_some_iff_of_end hend).mpr
      ⟨mt (mem_raised_iff (by decide)).mpr hline, s, hs, .inl rfl⟩⟩
  · rw [← heq, mem_raised_iff (by decide)] at hquote
    rw [raised_of_not_mem hquote] at heq
    obtain ⟨w, ht⟩ := hsuffix heq
    exact ⟨[], w, (cut_eq_some_iff_of_end hend).mpr ⟨hline, t, ht, .inr ⟨rfl, rfl⟩⟩⟩

/-- The option is cut off the raised text where it is cut off the text. -/
theorem cut_raised (hend : t.getLast? ≠ some '\n') :
    cut (raised false t) = (raised false (cut t).1, (cut t).2.map (List.map Char.toUpper)) := by
  rcases hcut : cut t with ⟨body, _ | w⟩
  · obtain rfl := eq_of_cut_none hcut
    rcases hraised : cut (raised false body) with ⟨other, _ | w⟩
    · rw [eq_of_cut_none hraised]
      rfl
    · obtain ⟨_, _, hsome⟩ := exists_cut_of_raised hend hraised
      rw [hcut] at hsome
      cases hsome
  · obtain ⟨hline, s, hword, hshape⟩ := (cut_eq_some_iff_of_end hend).mp hcut
    have hquote := not_quote_mem_of_suffixWord? hword
    have hupper : suffixWord? (s.map Char.toUpper) = some (w.map Char.toUpper) := by
      rw [suffixWord?_map_toUpper, hword, Option.map_some]
    refine (cut_eq_some_iff_of_end (mt (getLast?_raised_iff (by decide)).mp hend)).mpr
      ⟨mt (mem_raised_iff (by decide)).mp hline, _, hupper, ?_⟩
    rcases hshape with rfl | ⟨rfl, rfl⟩
    · left
      rw [raised_append_right (by simpa using hquote)]
      rfl
    · exact .inr ⟨raised_nil _, raised_of_not_mem hquote⟩

/-- The body of a raised text is raised, and the option is the same; so is an option that is none. -/
theorem split_raised (hend : t.getLast? ≠ some '\n') :
    split (raised false t) = (split t).map fun parts => (raised false parts.1, parts.2) := by
  unfold split
  rw [cut_raised hend]
  rcases cut t with ⟨body, _ | w⟩
  · rfl
  · simp only [Option.map_some, upper_map_toUpper]
    split <;> rfl

end GrantOption

/-! ## Forms -/

namespace Form

variable {defaultSchema : Text}

/-- A letter is one as a capital, too, and nothing else becomes one. -/
theorem isLetter_toUpper (c : Char) : isLetter c.toUpper = isLetter c := by
  rw [isLetter, isLetter, fold_toUpper]

/-- What is read of a body: its name as it is, and its target raised. -/
def raisedParts (parts : Text × Text) : Text × Text := (parts.1, raised false parts.2)

/-- The identifier that is read of a raised text, without needless quotes. -/
theorem readIdentifier_raised (t : Text) :
    readIdentifier (raised false t) = (readIdentifier t).map (raised false) :=
  Identifier.whole_raised isLetter_letter isLetter_toUpper t

/-- The target that is read after a phrase is raised. -/
theorem readTarget_raised {phrase : Text} (hphrase : '"' ∉ phrase) (t : Text) :
    readTarget phrase (raised false t) = (readTarget phrase t).map (raised false) := by
  unfold readTarget
  rw [dropPhrase_raised hphrase]
  rcases dropPhrase phrase t with _ | rest
  · rfl
  · rw [Option.map_some]
    dsimp only
    rw [readIdentifier_raised]
    rcases hread : readIdentifier rest with _ | i
    · rfl
    · have hi := (Identifier.isWritten_of_whole hread).1
      exact congrArg some (Identifier.canonical_raised isLetter_letter hi)

/-- So are the two identifiers of an object with its schema. -/
theorem readQualified_raised (t : Text) :
    readQualified (raised false t) = (readQualified t).map (raised false) := by
  unfold readQualified
  rw [Identifier.qualified_raised isLetter_letter isLetter_toUpper]
  rcases hread : Identifier.qualified isLetter t with _ | ⟨i, j⟩
  · rfl
  · obtain ⟨hi, hj, -⟩ := Identifier.isWritten_of_qualified hread
    exact congrArg some (Identifier.canonical_dot_raised isLetter_letter hi hj)

/-- What is read after a verb is raised if the target is. -/
theorem readVerb_raised {target : Text → Option Text}
    (htarget : ∀ t, (target (raised false t)).map (raised false) = (target t).map (raised false))
    (t : Text) :
    (readVerb target (raised false t)).map raisedParts = (readVerb target t).map raisedParts := by
  unfold readVerb
  rw [Verb.splitOn_raised]
  rcases Verb.splitOn t with _ | ⟨v, r⟩
  · rfl
  · have hparts : ∀ o : Option Text, (o.map fun target => (upper v, target)).map raisedParts =
        (o.map (raised false)).map fun target => (upper v, target) := fun o => by
      rw [Option.map_map, Option.map_map]
      rfl
    simp only [Option.map_some, upper_map_toUpper]
    rw [hparts, hparts, htarget]

/-- A form reads of a raised body what it reads of the body, up to the case of the target. -/
theorem read_raised (form : Form) (defaultSchema body : Text) :
    (form.read defaultSchema (raised false body)).map raisedParts =
      (form.read defaultSchema body).map raisedParts := by
  have htwice : ∀ o : Option Text, (o.map (raised false)).map (raised false) = o.map (raised false) :=
    fun o => by simp [Function.comp_def]
  have hphrase : ∀ {phrase : Text}, '"' ∉ phrase → ∀ t,
      (readTarget phrase (raised false t)).map (raised false) =
        (readTarget phrase t).map (raised false) := fun hquote t => by
    rw [readTarget_raised hquote, htwice]
  have hfixed : ∀ {phrase : Text}, '"' ∉ phrase → ∀ name : Text,
      ((readTarget phrase (raised false body)).map fun target => (name, target)).map raisedParts =
        ((readTarget phrase body).map fun target => (name, target)).map raisedParts := by
    intro phrase hquote name
    rw [readTarget_raised hquote]
    simp [Function.comp_def, raisedParts]
  cases form with
  | usergroup => exact hfixed (by decide) _
  | columnKey => exact hfixed (by decide) _
  | source => exact readVerb_raised (hphrase (by decide)) body
  | schema => exact readVerb_raised (hphrase (by decide)) body
  | qualifiedObject =>
      exact readVerb_raised (fun t => by rw [readQualified_raised, htwice]) body
  | object =>
      refine readVerb_raised (fun t => ?_) body
      rw [readIdentifier_raised]
      rcases hread : readIdentifier t with _ | i
      · rfl
      · have hi := (Identifier.isWritten_of_whole hread).1
        refine congrArg some ?_
        have hcase := Identifier.raised_append_canonical isLetter_letter hi
        unfold inSchema
        split
        · exact hcase []
        · simpa using hcase (defaultSchema ++ ['.'])
  | structured => exact hfixed (by decide) _
  | system =>
      simp only [read, dropFinalNewline_raised, Verb.isVerb_raised]
      split
      · next hverb =>
        rw [raised_of_not_mem (Verb.not_quote_mem hverb), upper_map_toUpper]
      · rfl

/-- The form that reads a raised body is the one that reads the body. -/
theorem firstRead_raised (forms : List Form) (defaultSchema body : Text) :
    (firstRead forms defaultSchema (raised false body)).map (Prod.map id raisedParts) =
      (firstRead forms defaultSchema body).map (Prod.map id raisedParts) := by
  have hform : ∀ (form : Form) (b : Text),
      ((form.read defaultSchema b).map fun parts => (form, parts)).map (Prod.map id raisedParts) =
        ((form.read defaultSchema b).map raisedParts).map fun parts => (form, parts) := by
    intro form b
    rw [Option.map_map, Option.map_map]
    rfl
  simp only [firstRead, List.map_findSome?, Function.comp_def, hform, read_raised]

end Form

/-- The name of a role is raised as well. -/
theorem Role.readName_raised (body : Text) :
    readName (raised false body) = (readName body).map (raised false) := by
  have hletter := Identifier.isAlphabet_ascii
  have hcase : ∀ c, Identifier.isAsciiLetter c.toUpper = Identifier.isAsciiLetter c :=
    of_toUpper (P := fun c d => Identifier.isAsciiLetter d = Identifier.isAsciiLetter c)
      (fun _ => rfl) (by decide)
  unfold readName
  rw [Identifier.qualified_raised hletter hcase, Identifier.whole_raised hletter hcase]
  rcases hqualified : Identifier.qualified Identifier.isAsciiLetter body with _ | ⟨i, j⟩
  · rcases hwhole : Identifier.whole Identifier.isAsciiLetter body with _ | i
    · rfl
    · have hi := (Identifier.isWritten_of_whole hwhole).1
      exact congrArg some (Identifier.canonical_raised hletter hi)
  · obtain ⟨hi, hj, -⟩ := Identifier.isWritten_of_qualified hqualified
    exact congrArg some (Identifier.canonical_dot_raised hletter hi hj)

/-! ## Outcomes -/

/-- The classes of the errors with which grant strings are refused. -/
inductive ErrorClass
  | other
  | unknownPrivilege
  | unknownRole
  | invalidOption
  | invalidGrantOption
  | invalidAdminOption
  | unknownOption
  deriving DecidableEq

/-- The class of an error, whatever it carries. -/
def ParseError.errorClass : ParseError → ErrorClass
  | .grammar (.other _ _) => .other
  | .grammar (.unknownPrivilege _ _) => .unknownPrivilege
  | .grammar (.unknownRole _) => .unknownRole
  | .grammar (.invalidOption _ _ _ _) => .invalidOption
  | .grammar (.invalidGrantOption _ _) => .invalidGrantOption
  | .grammar (.invalidAdminOption _ _) => .invalidAdminOption
  | .unknownOption _ => .unknownOption

/-- Two grant strings are both read, and what they grant is alike, or they are both refused with errors
of one class. -/
def AlikeOutcomes {α : Type} (alike : α → α → Prop) :
    Except ParseError α → Except ParseError α → Prop
  | .ok a, .ok b => alike a b
  | .error e, .error e' => e.errorClass = e'.errorClass
  | _, _ => False

/-- Privileges that differ in the case of letters outside the quotes of their targets at most. -/
structure Privilege.AlikeButCase (p q : Privilege) : Prop where
  kind : p.kind = q.kind
  name : p.name = q.name
  target : SameButCase p.target q.target
  grantable : p.grantable = q.grantable

/-- Roles that differ in the case of letters outside the quotes of their names at most. -/
structure Role.AlikeButCase (r s : Role) : Prop where
  name : SameButCase r.name s.name
  grantable : r.grantable = s.grantable

variable {raw other body body' : Text} {option : Option GrantOption}

/-- Privileges whose targets have one raised text are alike. -/
theorem Privilege.trimmed_alike {kind : PrivilegeKind} {name target target' : Text}
    (h : raised false target = raised false target') (grantable : Bool) :
    (trimmed kind name target grantable).AlikeButCase (trimmed kind name target' grantable) :=
  ⟨rfl, rfl, sameButCase_stripWhiteSpace h, rfl⟩

/-- Bodies with one raised text are read alike. -/
theorem Privilege.ofBody_alike (h : raised false body = raised false body') (forms : List Form)
    (defaultSchema : Text) :
    AlikeOutcomes AlikeButCase (ofBody forms raw defaultSchema body option)
      (ofBody forms other defaultSchema body' option) := by
  have hnil : body = [] ↔ body' = [] := by
    rw [← @raised_eq_nil_iff false body, h, raised_eq_nil_iff]
  have hfirst := Form.firstRead_raised forms defaultSchema body
  rw [h, Form.firstRead_raised] at hfirst
  unfold ofBody
  by_cases hbody : body = []
  · rw [if_pos hbody, if_pos (hnil.mp hbody)]
    rfl
  · rw [if_neg hbody, if_neg (mt hnil.mpr hbody)]
    rcases hread : Form.firstRead forms defaultSchema body with _ | ⟨form, name, target⟩
    · rw [hread, Option.map_none, Option.map_eq_none_iff] at hfirst
      rw [hfirst]
      rfl
    · rw [hread, Option.map_some] at hfirst
      obtain ⟨⟨form', name', target'⟩, hread', hparts⟩ := Option.map_eq_some_iff.mp hfirst
      obtain ⟨rfl, rfl, htarget⟩ : form' = form ∧ name' = name ∧
          raised false target' = raised false target := by
        simpa [Form.raisedParts] using hparts
      rw [hread']
      cases option with
      | none => exact trimmed_alike htarget.symm false
      | some o =>
          dsimp only
          split
          · exact trimmed_alike htarget.symm true
          · cases o <;> rfl

/-- Bodies with one raised text have names that are alike, or none. -/
theorem Role.ofName_alike (h : raised false body = raised false body') (grantable : Bool) :
    AlikeOutcomes AlikeButCase
      (match readName body with
        | none => .error (.grammar (.unknownRole raw))
        | some name => .ok (trimmed name grantable))
      (match readName body' with
        | none => .error (.grammar (.unknownRole other))
        | some name => .ok (trimmed name grantable)) := by
  have hname := readName_raised body
  rw [h, readName_raised] at hname
  rcases hread : readName body with _ | name
  · rw [hread, Option.map_none, Option.map_eq_none_iff] at hname
    rw [hname]
    rfl
  · rw [hread, Option.map_some] at hname
    obtain ⟨name', hread', hraised⟩ := Option.map_eq_some_iff.mp hname
    rw [hread']
    exact ⟨sameButCase_stripWhiteSpace hraised.symm, rfl⟩

/-! ## Reading -/

/-- What is read of bodies with one raised text and of the same option is alike, so that what is read of
grant strings that differ in case only is, too. -/
theorem splitGrant_alike {α : Type} {alike : α → α → Prop}
    {goOn goOn' : Text × Option GrantOption → Except ParseError α}
    (h : SameButCase (normalize raw) (normalize other))
    (hgoOn : ∀ {body body' : Text}, raised false body = raised false body' → ∀ option,
      AlikeOutcomes alike (goOn (body, option)) (goOn' (body', option))) :
    AlikeOutcomes alike (splitGrant raw >>= goOn) (splitGrant other >>= goOn') := by
  have hsplit := GrantOption.split_raised (getLast?_normalize raw)
  rw [sameButCase_iff.mp h, GrantOption.split_raised (getLast?_normalize other)] at hsplit
  unfold splitGrant
  rcases hraw : GrantOption.split (normalize raw) with word | ⟨body, option⟩ <;>
    rcases hother : GrantOption.split (normalize other) with word' | ⟨body', option'⟩ <;>
      rw [hraw, hother] at hsplit
  · rfl
  · cases hsplit
  · cases hsplit
  · obtain ⟨hbody, rfl⟩ : raised false body' = raised false body ∧ option' = option := by
      simpa [Except.map] using hsplit
    exact hgoOn hbody.symm option'

/-- Grant strings whose normal layouts are of one length and have the same characters at all places, but
for the case of ASCII letters outside the quotes, are both read or both refused. As privileges, they
are of one kind and have one name and one option, and their targets differ in such case at most. As
roles, they have one option, and their names differ in such case at most. Refused, they are refused with
errors of one class. -/
theorem parse_of_sameButCase (h : SameButCase (normalize raw) (normalize other)) :
    (∀ defaultSchema, AlikeOutcomes Privilege.AlikeButCase (Privilege.parse raw defaultSchema)
      (Privilege.parse other defaultSchema)) ∧
    AlikeOutcomes Role.AlikeButCase (Role.parse raw) (Role.parse other) := by
  refine ⟨fun defaultSchema => ?_, ?_⟩
  · exact splitGrant_alike h fun hbody option =>
      Privilege.ofBody_alike hbody Form.all defaultSchema
  · refine splitGrant_alike h fun hbody option => ?_
    dsimp only
    split
    · rfl
    · exact Role.ofName_alike hbody _

/-- A grant on a quoted object in letters of both cases. -/
theorem parse_of_small_letters :
    SameButCase (normalize "SELECT ON my.\"Tab le\" WITH GRANT OPTION".toList)
        (normalize "select  on My.\"Tab le\"\twith Grant option".toList) ∧
      AlikeOutcomes Privilege.AlikeButCase
        (Privilege.parse "SELECT ON my.\"Tab le\" WITH GRANT OPTION".toList [])
        (Privilege.parse "select  on My.\"Tab le\"\twith Grant option".toList []) ∧
      Privilege.parse "SELECT ON my.\"Tab le\" WITH GRANT OPTION".toList [] =
        .ok ⟨.object, "SELECT".toList, "my.\"Tab le\"".toList, true⟩ ∧
      Privilege.parse "select  on My.\"Tab le\"\twith Grant option".toList [] =
        .ok ⟨.object, "SELECT".toList, "My.\"Tab le\"".toList, true⟩ := by
  have h : SameButCase (normalize "SELECT ON my.\"Tab le\" WITH GRANT OPTION".toList)
      (normalize "select  on My.\"Tab le\"\twith Grant option".toList) := by decide
  exact ⟨h, (parse_of_sameButCase h).1 [], by decide, by decide⟩

end AccessGrants
