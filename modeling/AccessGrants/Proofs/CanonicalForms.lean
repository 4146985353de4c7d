import AccessGrants.Proofs.NormalLayout
import AccessGrants.Proofs.OptionSuffix

/-!
# Privileges in canonical form

The body of a canonical privilege is read by one form only, and that form gives back its name and its
target. A body with a word `ON` after its verb is read by what follows that word; all other bodies are
read by the last two forms.

Canonical privileges are in ASCII. The reader lets a few more letters through, and what it stores of
them is read back for the same reasons; so the forms are gone through once, for stored privileges.

* `PrivilegeKind.IsCanonicalTarget`, `Privilege.IsCanonical`: the privileges of the canonical domain.
* `PrivilegeKind.IsStoredTarget`, `Privilege.IsStored`: the same over all letters that are read;
  `Privilege.IsCanonical.isStored`.
* `Form.firstRead_of_splitOn`, `Form.firstRead_of_splitOn_none`, `Form.firstRead_eq_none`: what the
  word `ON` leaves to which forms.
* `Form.exists_firstRead_clause`: the form of a stored privilege.
-/

namespace AccessGrants

/-! ## The canonical domain -/

namespace PrivilegeKind

/-- The name of the privileges of a kind that has only one. -/
def fixedName? : PrivilegeKind → Option Text
  | .usergroup => some "USERGROUP OPERATOR".toList
  | .columnKey => some "USAGE".toList
  | .structured => some "STRUCTURED PRIVILEGE".toList
  | _ => none

/-- A canonical target: nothing for a system privilege, for an object one identifier or two joined by
a dot, and for all other kinds one identifier. -/
def IsCanonicalTarget : PrivilegeKind → Text → Prop
  | .system, t => t = []
  | .object, t => Identifier.IsCanonical t ∨
    ∃ i j, Identifier.IsCanonical i ∧ Identifier.IsCanonical j ∧ t = i ++ '.' :: j
  | _, t => Identifier.IsCanonical t

/-- A target as it is stored, of the same shape for each kind. -/
def IsStoredTarget : PrivilegeKind → Text → Prop
  | .system, t => t = []
  | .object, t => Identifier.IsStoredPath Text.isLetter t
  | _, t => Identifier.IsStored Text.isLetter t

end PrivilegeKind

/-- A privilege in canonical form. What a name and a target are depends on the kind. A grantable
privilege is written on one line, and the name of a system privilege is neither that of a structured
privilege with its target nor, without an option, one that ends with the words of an option. -/
structure Privilege.IsCanonical (p : Privilege) : Prop where
  name : Verb.IsCanonical p.name
  fixedName : ∀ name, p.kind.fixedName? = some name → p.name = name
  target : p.kind.IsCanonicalTarget p.target
  line : p.grantable = true → '\n' ∉ p.target
  notStructured : p.kind = .system →
    ∀ w, Text.splitBy ' ' p.name ≠ ["STRUCTURED".toList, "PRIVILEGE".toList, w]
  noOption : p.kind = .system → p.grantable = false →
    ∀ o : GrantOption, ¬ o.words <:+ Text.splitBy ' ' p.name

/-- A privilege as it is stored, of the same shape over all letters that are read. Words that are
read as those of a structured privilege or of an option count as them. -/
structure Privilege.IsStored (p : Privilege) : Prop where
  name : Verb.IsStored p.name
  fixedName : ∀ name, p.kind.fixedName? = some name → p.name = name
  target : p.kind.IsStoredTarget p.target
  line : p.grantable = true → '\n' ∉ p.target
  notStructured : p.kind = .system → ∀ w,
    Text.splitBy ' ' (p.name.map Text.fold) ≠ ["STRUCTURED".toList, "PRIVILEGE".toList, w]
  noOption : p.kind = .system → p.grantable = false →
    ∀ o : GrantOption, ¬ o.words <:+ Text.splitBy ' ' (p.name.map Text.fold)

namespace Form

variable {defaultSchema body v rest t i : Text}

/-! ## Targets -/

/-- The letters that are read make up an alphabet. -/
theorem isLetter_letter : Identifier.IsAlphabet Text.isLetter := by
  refine ⟨fun c hc => Text.isLetter_of_isAlpha hc, fun c hc => ?_⟩
  exact Text.of_isLetter (P := fun c => c ≠ '"' ∧ c ≠ '.' ∧ Text.isBlank c = false) (by decide)
    (by decide) hc

/-- An identifier is read after its phrase and loses its needless quotes. -/
theorem readTarget_append {phrase : Text} (hphrase : phrase.map Text.fold = phrase)
    (hi : Identifier.whole Text.isLetter i = some i) :
    readTarget phrase (phrase ++ i) = some (Identifier.canonical i) := by
  have hdrop : Text.dropPhrase phrase (phrase ++ i) = some i :=
    Text.dropPhrase_eq_some_iff.mpr ⟨phrase, rfl, hphrase⟩
  rw [readTarget, hdrop]
  dsimp only
  rw [readIdentifier, hi, Option.map_some]

/-- After a phrase an identifier is read. -/
theorem readTarget_iff_dropPhrase {phrase target : Text} : readTarget phrase t = some target ↔
    ∃ rest, Text.dropPhrase phrase t = some rest ∧
      (readIdentifier rest).map Identifier.canonical = some target := by
  unfold readTarget
  cases Text.dropPhrase phrase t with
  | none => simp
  | some rest => simp

/-- What is read after a phrase is an identifier in the spelling in which it is stored. -/
theorem exists_append_of_readTarget {phrase target : Text}
    (h : readTarget phrase t = some target) :
    ∃ w rest i, t = w ++ rest ∧ w.map Text.fold = phrase ∧ readIdentifier rest = some i ∧
      target = Identifier.canonical i := by
  obtain ⟨rest, hdrop, htarget⟩ := readTarget_iff_dropPhrase.mp h
  obtain ⟨i, hread, rfl⟩ := Option.map_eq_some_iff.mp htarget
  obtain ⟨w, rfl, hw⟩ := Text.dropPhrase_eq_some_iff.mp hdrop
  exact ⟨w, rest, i, rfl, hw, hread, rfl⟩

/-- Without the phrase at its head nothing is read off a text. -/
theorem readTarget_of_dropPhrase {phrase : Text} (h : Text.dropPhrase phrase t = none) :
    readTarget phrase t = none := by
  rw [readTarget, h]

/-- A phrase of several words begins with the first of them. -/
theorem exists_word_of_dropPhrase {word phrase : Text}
    (h : Text.dropPhrase (word ++ ' ' :: phrase) t = some rest) :
    ∃ w u, t = w ++ ' ' :: u ∧ w.map Text.fold = word := by
  obtain ⟨x, rfl, hfold⟩ := Text.dropPhrase_eq_some_iff.mp h
  obtain ⟨w, y, rfl, hw, hy⟩ := List.map_eq_append_iff.mp hfold
  obtain ⟨b, z, rfl, hb, -⟩ := List.map_eq_cons_iff.mp hy
  rw [(Text.fold_eq_iff (by decide)).mp hb]
  exact ⟨w, z ++ rest, by simp, hw⟩

/-- A word of letters with a blank after it is read as an identifier. -/
theorem read_word_append {word w : Text} (hne : word ≠ []) (hword : word.all Char.isUpper = true)
    (hw : w.map Text.fold = word) (u : Text) :
    Identifier.read Text.isLetter (w ++ ' ' :: u) = some (w, ' ' :: u) := by
  have hletter : ∀ c ∈ w, Text.isLetter c = true := fun c hc =>
    List.all_eq_true.mp hword _ (hw ▸ List.mem_map_of_mem hc)
  have hplain : Identifier.IsPlainOver Text.isLetter w := by
    cases w with
    | nil => exact hne hw.symm
    | cons c r =>
        exact ⟨.inl (hletter c List.mem_cons_self), fun d hd => by
          simp [Identifier.isNameChar, hletter d (List.mem_cons_of_mem _ hd)]⟩
  refine (Identifier.IsWritten.plain hplain).read_append isLetter_letter fun c hc => ?_
  rw [List.head?_cons, Option.mem_some] at hc
  rw [← hc]
  decide

/-- The target of an object does not begin with a word and a blank. -/
theorem dropPhrase_objectTarget {word phrase : Text} (hne : word ≠ [])
    (hword : word.all Char.isUpper = true) (ht : Identifier.IsStoredPath Text.isLetter t) :
    Text.dropPhrase (word ++ ' ' :: phrase) t = none := by
  rw [Option.eq_none_iff_forall_ne_some]
  intro r hr
  obtain ⟨w, u, rfl, hw⟩ := exists_word_of_dropPhrase hr
  have hread := read_word_append hne hword hw u
  -- nothing but a dot follows the first identifier of a path
  rcases ht with hi | ⟨i, j, hi, hj, heq⟩
  · have hwhole := hi.written.whole_eq isLetter_letter
    rw [Identifier.whole, hread] at hwhole
    cases hwhole
  · have hqualified := hi.written.qualified_eq isLetter_letter hj.written
    rw [← heq, Identifier.qualified, hread] at hqualified
    cases hqualified

/-! ## Forms with a verb before `ON` -/

/-- A form that reads the body is tried before those after it. -/
theorem firstRead_cons_of_some {form : Form} {forms : List Form} {parts : Text × Text}
    (h : form.read defaultSchema body = some parts) :
    firstRead (form :: forms) defaultSchema body = some (form, parts) := by
  rw [firstRead, List.findSome?_cons, h]
  rfl

/-- A form that does not read the body leaves it to those after it. -/
theorem firstRead_cons_of_none {form : Form} {forms : List Form}
    (h : form.read defaultSchema body = none) :
    firstRead (form :: forms) defaultSchema body = firstRead forms defaultSchema body := by
  rw [firstRead, List.findSome?_cons, h]
  rfl

/-- A phrase with `ON` in it does not stand at the head of a body, if what follows `ON` does not
fit. -/
theorem readTarget_on_eq_none {verb phrase : Text} (hverb : Verb.isVerb verb = true)
    (h : ∀ v rest, Verb.splitOn body = some (v, rest) → readTarget phrase rest = none) :
    readTarget (verb ++ (" ON ".toList ++ phrase)) body = none := by
  unfold readTarget
  split
  · next r hdrop =>
    obtain ⟨v, rest, hsplit, -, hrest⟩ := Verb.splitOn_of_dropPhrase hverb hdrop
    have hnone := h v rest hsplit
    rw [readTarget, hrest] at hnone
    exact hnone
  · rfl

/-- A body is left alone by the form for user groups, if what follows its `ON` does not fit. -/
theorem read_usergroup_eq_none
    (h : ∀ v rest, Verb.splitOn body = some (v, rest) →
      readTarget "USERGROUP ".toList rest = none) :
    Form.usergroup.read defaultSchema body = none := by
  have hnone : readTarget ("USERGROUP OPERATOR".toList ++ (" ON ".toList ++ "USERGROUP ".toList))
      body = none := readTarget_on_eq_none (by decide) h
  rw [read]
  exact congrArg (Option.map _) hnone

/-- So it is with the form for column keys. -/
theorem read_columnKey_eq_none
    (h : ∀ v rest, Verb.splitOn body = some (v, rest) →
      readTarget "CLIENTSIDE ENCRYPTION COLUMN KEY ".toList rest = none) :
    Form.columnKey.read defaultSchema body = none := by
  have hnone : readTarget ("USAGE".toList ++
      (" ON ".toList ++ "CLIENTSIDE ENCRYPTION COLUMN KEY ".toList)) body = none :=
    readTarget_on_eq_none (by decide) h
  rw [read]
  exact congrArg (Option.map _) hnone

/-- A verb is read up to the word `ON` after it. -/
theorem splitOn_append_on (hverb : Verb.isVerb v = true) (rest : Text) :
    Verb.splitOn (v ++ (" ON ".toList ++ rest)) = some (v, rest) :=
  Verb.splitOn_eq_some_iff.mpr ⟨hverb, "ON".toList, by decide, rfl⟩

/-- Of a body with a verb before `ON`, the verb and what stands for a target are read. -/
theorem readVerb_of_splitOn {target : Text → Option Text}
    (hsplit : Verb.splitOn body = some (v, rest)) :
    readVerb target body = (target rest).map fun target => (Text.upper v, target) := by
  rw [readVerb, hsplit]

/-- What is read of a body with a verb are its verb and a target after `ON`. -/
theorem exists_splitOn_of_readVerb {target : Text → Option Text} {parts : Text × Text}
    (h : readVerb target body = some parts) :
    ∃ v rest, Verb.splitOn body = some (v, rest) ∧ target rest = some parts.2 ∧
      parts.1 = Text.upper v := by
  unfold readVerb at h
  split at h
  · next v rest hsplit =>
    obtain ⟨t, ht, rfl⟩ := Option.map_eq_some_iff.mp h
    exact ⟨v, rest, hsplit, ht, rfl⟩
  · cases h

/-- Of a body without a verb before `ON` nothing is read. -/
theorem readVerb_of_splitOn_none {target : Text → Option Text} (hsplit : Verb.splitOn body = none) :
    readVerb target body = none := by
  rw [readVerb, hsplit]

/-- A body without a verb before `ON` is read by none of the forms that have one. -/
theorem read_eq_none_of_splitOn_none (hsplit : Verb.splitOn body = none) (form : Form)
    (hform : form ≠ .structured ∧ form ≠ .system) : form.read defaultSchema body = none := by
  have hnone : ∀ v rest, ¬ Verb.splitOn body = some (v, rest) := by
    intro v rest h
    rw [hsplit] at h
    cases h
  cases form with
  | usergroup => exact read_usergroup_eq_none fun v rest h => absurd h (hnone v rest)
  | columnKey => exact read_columnKey_eq_none fun v rest h => absurd h (hnone v rest)
  | source => exact readVerb_of_splitOn_none hsplit
  | schema => exact readVerb_of_splitOn_none hsplit
  | qualifiedObject => exact readVerb_of_splitOn_none hsplit
  | object => exact readVerb_of_splitOn_none hsplit
  | structured => exact absurd rfl hform.1
  | system => exact absurd rfl hform.2

/-- A body without a verb before `ON` is left to the last two forms. -/
theorem firstRead_of_splitOn_none (hsplit : Verb.splitOn body = none) :
    firstRead all defaultSchema body = firstRead [.structured, .system] defaultSchema body := by
  have hread : ∀ form : Form, form ≠ .structured ∧ form ≠ .system →
      form.read defaultSchema body = none := read_eq_none_of_splitOn_none hsplit
  rw [all, firstRead_cons_of_none (hread .usergroup (by decide)),
    firstRead_cons_of_none (hread .columnKey (by decide)),
    firstRead_cons_of_none (hread .source (by decide)),
    firstRead_cons_of_none (hread .schema (by decide)),
    firstRead_cons_of_none (hread .qualifiedObject (by decide)),
    firstRead_cons_of_none (hread .object (by decide))]

/-- A body with a verb before `ON` that neither of the first two forms reads is left to the others. -/
theorem firstRead_of_splitOn (hsplit : Verb.splitOn body = some (v, rest))
    (husergroup : readTarget "USERGROUP ".toList rest = none)
    (hcolumnKey : readTarget "CLIENTSIDE ENCRYPTION COLUMN KEY ".toList rest = none) :
    firstRead all defaultSchema body =
      firstRead [.source, .schema, .qualifiedObject, .object, .structured, .system] defaultSchema
        body := by
  have honly : ∀ v' rest', Verb.splitOn body = some (v', rest') → rest' = rest := by
    intro v' rest' h
    rw [hsplit] at h
    cases h
    rfl
  rw [all,
    firstRead_cons_of_none (read_usergroup_eq_none fun v' rest' h => honly v' rest' h ▸ husergroup),
    firstRead_cons_of_none (read_columnKey_eq_none fun v' rest' h => honly v' rest' h ▸ hcolumnKey)]

/-! ## Forms without a verb before `ON` -/

/-- What the form for structured privileges reads begins with its two words. An identifier is left,
so that what follows is one word or begins with a quote. -/
theorem words_of_read_structured {parts : Text × Text}
    (h : Form.structured.read defaultSchema body = some parts) :
    ∃ u r, body = u ++ ' ' :: r ∧ u.map Text.fold = "STRUCTURED PRIVILEGE".toList ∧
      (' ' ∉ r ∨ r.head? = some '"') := by
  obtain ⟨target, htarget, -⟩ := Option.map_eq_some_iff.mp h
  obtain ⟨r, hdrop, hread⟩ := readTarget_iff_dropPhrase.mp htarget
  rw [show "STRUCTURED PRIVILEGE ".toList = "STRUCTURED PRIVILEGE".toList ++ [' '] from rfl,
    Text.dropPhrase_blank_eq_some_iff] at hdrop
  obtain ⟨u, rfl, hu⟩ := hdrop
  obtain ⟨i, hi, -⟩ := Option.map_eq_some_iff.mp hread
  obtain ⟨hwritten, hr⟩ := Identifier.isWritten_of_whole hi
  refine ⟨u, r, rfl, hu, ?_⟩
  cases hwritten with
  | plain hplain =>
      have hblank := hplain.not_blank_mem isLetter_letter
      left
      rcases hr with rfl | rfl
      · exact hblank
      · simpa using hblank
  | quoted =>
      right
      rcases hr with rfl | rfl <;> rfl

/-- The two words of a structured privilege and one more word, or a quote, are no verb with a word `ON`
after it. -/
theorem splitOn_structured_eq_none {u r : Text}
    (hu : u.map Text.fold = "STRUCTURED PRIVILEGE".toList)
    (hr : ' ' ∉ r ∨ r.head? = some '"') : Verb.splitOn (u ++ ' ' :: r) = none := by
  rw [Option.eq_none_iff_forall_ne_some]
  rintro ⟨v, rest⟩ hsplit
  obtain ⟨hverb, o, ho, heq⟩ := Verb.splitOn_eq_some_iff.mp hsplit
  -- the words of the body, once as they are written and once as they are cut
  have hphrase : (Text.splitBy ' ' u).map (List.map Text.fold) =
      ["STRUCTURED".toList, "PRIVILEGE".toList] := by
    rw [← Text.splitBy_map_fold, hu]
    decide
  obtain ⟨a, as, hu', ha, has⟩ := List.map_eq_cons_iff.mp hphrase
  obtain ⟨b, bs, rfl, hb, hbs⟩ := List.map_eq_cons_iff.mp has
  rw [List.map_eq_nil_iff.mp hbs] at hu'
  have hwords : a :: b :: Text.splitBy ' ' r =
      Text.splitBy ' ' v ++ o :: Text.splitBy ' ' rest := by
    have hcut := congrArg (Text.splitBy ' ') heq
    rw [Text.splitBy_append, Text.splitBy_append, Text.splitBy_append,
      Text.splitBy_of_not_mem (Verb.not_blank_mem_of_isOn ho), List.singleton_append, hu'] at hcut
    exact hcut
  obtain ⟨v₁, vs, hv⟩ := List.exists_cons_of_ne_nil (Text.splitBy_ne_nil ' ' v)
  have hword := Verb.isVerb_iff.mp hverb
  rw [hv] at hwords hword
  rw [List.cons_append, List.cons.injEq] at hwords
  cases vs with
  | nil =>
      have ho' : b = o := (List.cons.inj hwords.2).1
      rw [← ho', Verb.isOn, Text.isPhrase, hb] at ho
      exact absurd ho (by decide)
  | cons v₂ vs =>
      rw [List.cons_append, List.cons.injEq] at hwords
      have hrest := hwords.2.2
      rcases hr with hblank | hquote
      · -- what follows is the last word, but two more would have to follow
        rw [Text.splitBy_of_not_mem hblank] at hrest
        have hlength := congrArg List.length hrest
        have hne := List.length_pos_iff.mpr (Text.splitBy_ne_nil ' ' rest)
        simp only [List.length_append, List.length_cons, List.length_nil] at hlength
        omega
      · -- a word that begins with a quote is neither `ON` nor a word of a verb
        obtain ⟨q, rfl⟩ := List.head?_eq_some_iff.mp hquote
        obtain ⟨w, ws, hw⟩ := List.exists_cons_of_ne_nil (Text.splitBy_ne_nil ' ' q)
        rw [Text.splitBy_cons_of_ne (by decide) hw] at hrest
        cases vs with
        | nil =>
            rw [← (List.cons.inj hrest).1] at ho
            exact absurd (List.cons.inj (eq_of_beq ho)).1 (by decide)
        | cons v₃ vs =>
            have hv₃ := hword v₃ (by simp)
            rw [← (List.cons.inj hrest).1, Verb.isWord_iff] at hv₃
            exact absurd (hv₃.2.1 '"' List.mem_cons_self) (by decide)

/-- A structured privilege has no word `ON` after a verb, whatever its target is. -/
theorem splitOn_of_read_structured {parts : Text × Text}
    (h : Form.structured.read defaultSchema body = some parts) : Verb.splitOn body = none := by
  obtain ⟨u, r, rfl, hu, hr⟩ := words_of_read_structured h
  exact splitOn_structured_eq_none hu hr

/-- A verb alone has no word `ON`. -/
theorem splitOn_of_isVerb (h : Verb.isVerb v = true) : Verb.splitOn v = none := by
  rw [Option.eq_none_iff_forall_ne_some]
  rintro ⟨w, r⟩ hsplit
  rw [Verb.isVerb_eq_false_of_splitOn hsplit] at h
  cases h

/-- A verb is a structured privilege exactly if it has just one word for a target. -/
theorem read_structured_eq_none_iff (h : Verb.isVerb v = true) :
    Form.structured.read defaultSchema v = none ↔
      ∀ w, Text.splitBy ' ' (v.map Text.fold) ≠ ["STRUCTURED".toList, "PRIVILEGE".toList, w] := by
  have hfirst : Text.splitBy ' ' "STRUCTURED PRIVILEGE".toList =
      ["STRUCTURED".toList, "PRIVILEGE".toList] := by decide
  constructor
  · intro hnone w hwords
    -- the last word is an identifier
    rw [Text.splitBy_map_fold] at hwords
    obtain ⟨a, vs, hv, ha, hvs⟩ := List.map_eq_cons_iff.mp hwords
    obtain ⟨b, vs, rfl, hb, hvs⟩ := List.map_eq_cons_iff.mp hvs
    obtain ⟨c, vs, rfl, -, hvs⟩ := List.map_eq_cons_iff.mp hvs
    rw [List.map_eq_nil_iff.mp hvs] at hv
    have hplain : Identifier.IsPlainOver Text.isLetter c := by
      have hc := Verb.isWord_iff.mp (Verb.isVerb_iff.mp h c (by rw [hv]; simp))
      obtain ⟨d, r, rfl⟩ := List.exists_cons_of_ne_nil hc.1
      exact ⟨.inl (hc.2.1 d List.mem_cons_self), fun e he => by
        simp [Identifier.isNameChar, hc.2.1 e (List.mem_cons_of_mem _ he)]⟩
    have hshape : v = (a ++ ' ' :: b) ++ ' ' :: c := by
      rw [← Text.join_splitBy ' ' v, hv, Text.join_cons_cons, Text.join_cons_cons,
        Text.join_singleton, List.append_assoc, List.cons_append]
    have hdrop : Text.dropPhrase ("STRUCTURED PRIVILEGE".toList ++ [' ']) v = some c := by
      refine Text.dropPhrase_blank_eq_some_iff.mpr ⟨_, hshape, ?_⟩
      rw [List.map_append, List.map_cons, ha, hb]
      rfl
    have hwhole : Identifier.whole Text.isLetter c = some c :=
      (Identifier.IsWritten.plain hplain).whole_eq isLetter_letter
    have hread : readTarget ("STRUCTURED PRIVILEGE".toList ++ [' ']) v =
        some (Identifier.canonical c) := by
      rw [readTarget, hdrop]
      dsimp only
      rw [readIdentifier, hwhole]
      rfl
    have hsome : Form.structured.read defaultSchema v =
        some ("STRUCTURED PRIVILEGE".toList, Identifier.canonical c) := congrArg (Option.map _) hread
    rw [hsome] at hnone
    cases hnone
  · intro hnot
    rw [Option.eq_none_iff_forall_ne_some]
    intro parts hread
    obtain ⟨u, r, rfl, hu, hr⟩ := words_of_read_structured hread
    have hblank : ' ' ∉ r := by
      refine hr.resolve_right fun hquote => ?_
      obtain ⟨q, rfl⟩ := List.head?_eq_some_iff.mp hquote
      rcases Verb.isLetter_or_blank h (c := '"') (by simp) with hletter | hblank
      · exact absurd hletter (by decide)
      · exact absurd hblank (by decide)
    refine hnot (r.map Text.fold) ?_
    rw [Text.splitBy_map_fold, Text.splitBy_append, List.map_append, ← Text.splitBy_map_fold, hu,
      hfirst, Text.splitBy_of_not_mem hblank]
    rfl

/-- A stored verb alone is read by the last form. -/
theorem read_system_of_isStored (h : Verb.IsStored v) :
    Form.system.read defaultSchema v = some (v, []) := by
  have hline : v.getLast? ≠ some '\n' := by
    intro hlast
    have hmem := Verb.isLetter_or_blank h.verb (List.mem_of_getLast? hlast)
    exact absurd hmem (by decide)
  rw [read, Text.dropFinalNewline_eq_self hline, if_pos h.verb, h.upper]

/-- A body with a verb before `ON` is read by no form, if no form for targets reads what follows. -/
theorem firstRead_eq_none (hsplit : Verb.splitOn body = some (v, rest))
    (husergroup : readTarget "USERGROUP ".toList rest = none)
    (hcolumnKey : readTarget "CLIENTSIDE ENCRYPTION COLUMN KEY ".toList rest = none)
    (hsource : readTarget "REMOTE SOURCE ".toList rest = none)
    (hschema : readTarget "SCHEMA ".toList rest = none)
    (hqualified : readQualified rest = none) (hobject : readIdentifier rest = none) :
    firstRead all defaultSchema body = none := by
  have hverb : ∀ {target : Text → Option Text}, target rest = none →
      readVerb target body = none := by
    intro target htarget
    rw [readVerb_of_splitOn hsplit, htarget]
    rfl
  have hsources : Form.source.read defaultSchema body = none := hverb hsource
  have hschemas : Form.schema.read defaultSchema body = none := hverb hschema
  have hpairs : Form.qualifiedObject.read defaultSchema body = none := hverb hqualified
  have hobjects : Form.object.read defaultSchema body = none :=
    hverb (congrArg (Option.map _) hobject)
  have hstructured : Form.structured.read defaultSchema body = none := by
    rw [Option.eq_none_iff_forall_ne_some]
    intro parts hread
    rw [splitOn_of_read_structured hread] at hsplit
    cases hsplit
  have hsystem : Form.system.read defaultSchema body = none := by
    have hfalse := Verb.isVerb_eq_false_of_splitOn (Verb.splitOn_dropFinalNewline hsplit)
    rw [read, hfalse]
    rfl
  rw [firstRead_of_splitOn hsplit husergroup hcolumnKey, firstRead_cons_of_none hsources,
    firstRead_cons_of_none hschemas, firstRead_cons_of_none hpairs,
    firstRead_cons_of_none hobjects, firstRead_cons_of_none hstructured,
    firstRead_cons_of_none hsystem]
  rfl

/-! ## The form of a stored privilege -/

/-- A verb on a schema is read by the form for schemas. -/
theorem firstRead_schema (hverb : Verb.isVerb v = true)
    (hi : Identifier.whole Text.isLetter i = some i) :
    firstRead all defaultSchema (v ++ (" ON ".toList ++ ("SCHEMA ".toList ++ i))) =
      some (.schema, Text.upper v, Identifier.canonical i) := by
  have hsplit := splitOn_append_on hverb ("SCHEMA ".toList ++ i)
  have hsource : Form.source.read defaultSchema (v ++ (" ON ".toList ++ ("SCHEMA ".toList ++ i))) =
      none := by
    rw [read, readVerb_of_splitOn hsplit]
    rfl
  have hschema : Form.schema.read defaultSchema (v ++ (" ON ".toList ++ ("SCHEMA ".toList ++ i))) =
      some (Text.upper v, Identifier.canonical i) := by
    rw [read, readVerb_of_splitOn hsplit, readTarget_append (by decide) hi]
    rfl
  rw [firstRead_of_splitOn hsplit rfl rfl, firstRead_cons_of_none hsource,
    firstRead_cons_of_some hschema]

/-- A verb on a remote source is read by the form for sources. -/
theorem firstRead_source (hverb : Verb.isVerb v = true)
    (hi : Identifier.whole Text.isLetter i = some i) :
    firstRead all defaultSchema (v ++ (" ON ".toList ++ ("REMOTE SOURCE ".toList ++ i))) =
      some (.source, Text.upper v, Identifier.canonical i) := by
  have hsplit := splitOn_append_on hverb ("REMOTE SOURCE ".toList ++ i)
  have hsource :
      Form.source.read defaultSchema (v ++ (" ON ".toList ++ ("REMOTE SOURCE ".toList ++ i))) =
        some (Text.upper v, Identifier.canonical i) := by
    rw [read, readVerb_of_splitOn hsplit, readTarget_append (by decide) hi]
    rfl
  rw [firstRead_of_splitOn hsplit rfl rfl, firstRead_cons_of_some hsource]

/-- A verb on an object is read by a form for objects. -/
theorem exists_firstRead_object (hverb : Verb.isVerb v = true)
    (ht : Identifier.IsStoredPath Text.isLetter t)
    (hschema : Identifier.IsStored Text.isLetter t → defaultSchema = []) :
    ∃ form : Form, form.kind = .object ∧
      firstRead all defaultSchema (v ++ (" ON ".toList ++ t)) = some (form, Text.upper v, t) := by
  have hsplit := splitOn_append_on hverb t
  have hphrase : ∀ {word phrase : Text}, word ≠ [] → word.all Char.isUpper = true →
      Text.dropPhrase (word ++ ' ' :: phrase) t = none := fun hne hword =>
    dropPhrase_objectTarget hne hword ht
  have hsource : Form.source.read defaultSchema (v ++ (" ON ".toList ++ t)) = none := by
    have hdrop : Text.dropPhrase ("REMOTE".toList ++ ' ' :: "SOURCE ".toList) t = none :=
      hphrase (by decide) (by decide)
    rw [read, readVerb_of_splitOn hsplit]
    exact congrArg (Option.map _) (readTarget_of_dropPhrase hdrop)
  have hschemas : Form.schema.read defaultSchema (v ++ (" ON ".toList ++ t)) = none := by
    have hdrop : Text.dropPhrase ("SCHEMA".toList ++ ' ' :: []) t = none :=
      hphrase (by decide) (by decide)
    rw [read, readVerb_of_splitOn hsplit]
    exact congrArg (Option.map _) (readTarget_of_dropPhrase hdrop)
  have hleft : firstRead all defaultSchema (v ++ (" ON ".toList ++ t)) =
      firstRead [.qualifiedObject, .object, .structured, .system] defaultSchema
        (v ++ (" ON ".toList ++ t)) := by
    have husergroup : Text.dropPhrase ("USERGROUP".toList ++ ' ' :: []) t = none :=
      hphrase (by decide) (by decide)
    have hcolumnKey : Text.dropPhrase
        ("CLIENTSIDE".toList ++ ' ' :: "ENCRYPTION COLUMN KEY ".toList) t = none :=
      hphrase (by decide) (by decide)
    rw [firstRead_of_splitOn hsplit (readTarget_of_dropPhrase husergroup)
      (readTarget_of_dropPhrase hcolumnKey), firstRead_cons_of_none hsource,
      firstRead_cons_of_none hschemas]
  rcases ht with hi | ⟨i, j, hi, hj, rfl⟩
  · have hqualified : Form.qualifiedObject.read defaultSchema (v ++ (" ON ".toList ++ t)) = none := by
      rw [read, readVerb_of_splitOn hsplit, readQualified,
        hi.written.qualified_eq_none isLetter_letter]
      rfl
    have hobject : Form.object.read defaultSchema (v ++ (" ON ".toList ++ t)) =
        some (Text.upper v, t) := by
      rw [read, readVerb_of_splitOn hsplit, readIdentifier,
        hi.written.whole_eq isLetter_letter, Option.map_some, hi.canonical, inSchema,
        if_pos (hschema hi)]
      rfl
    exact ⟨.object, rfl, by rw [hleft, firstRead_cons_of_none hqualified,
      firstRead_cons_of_some hobject]⟩
  · have hqualified : Form.qualifiedObject.read defaultSchema
        (v ++ (" ON ".toList ++ (i ++ '.' :: j))) = some (Text.upper v, i ++ '.' :: j) := by
      rw [read, readVerb_of_splitOn hsplit, readQualified,
        hi.written.qualified_eq isLetter_letter hj.written, Option.map_some, hi.canonical,
        hj.canonical]
      rfl
    exact ⟨.qualifiedObject, rfl, by rw [hleft, firstRead_cons_of_some hqualified]⟩

/-- The only verb on a usergroup is read by the form for usergroups. -/
theorem firstRead_usergroup (hi : Identifier.whole Text.isLetter i = some i) :
    firstRead all defaultSchema ("USERGROUP OPERATOR ON USERGROUP ".toList ++ i) =
      some (.usergroup, "USERGROUP OPERATOR".toList, Identifier.canonical i) := by
  have husergroup : Form.usergroup.read defaultSchema
      ("USERGROUP OPERATOR ON USERGROUP ".toList ++ i) =
        some ("USERGROUP OPERATOR".toList, Identifier.canonical i) := by
    rw [read, readTarget_append (by decide) hi]
    rfl
  rw [all, firstRead_cons_of_some husergroup]

/-- The only verb on a column key is read by the form for column keys. -/
theorem firstRead_columnKey (hi : Identifier.whole Text.isLetter i = some i) :
    firstRead all defaultSchema ("USAGE ON CLIENTSIDE ENCRYPTION COLUMN KEY ".toList ++ i) =
      some (.columnKey, "USAGE".toList, Identifier.canonical i) := by
  have husergroup : Form.usergroup.read defaultSchema
      ("USAGE ON CLIENTSIDE ENCRYPTION COLUMN KEY ".toList ++ i) = none := rfl
  have hcolumnKey : Form.columnKey.read defaultSchema
      ("USAGE ON CLIENTSIDE ENCRYPTION COLUMN KEY ".toList ++ i) =
        some ("USAGE".toList, Identifier.canonical i) := by
    rw [read, readTarget_append (by decide) hi]
    rfl
  rw [all, firstRead_cons_of_none husergroup, firstRead_cons_of_some hcolumnKey]

/-- A structured privilege is read by the form for structured privileges. -/
theorem firstRead_structured (hi : Identifier.whole Text.isLetter i = some i) :
    firstRead all defaultSchema ("STRUCTURED PRIVILEGE ".toList ++ i) =
      some (.structured, "STRUCTURED PRIVILEGE".toList, Identifier.canonical i) := by
  have hstructured : Form.structured.read defaultSchema ("STRUCTURED PRIVILEGE ".toList ++ i) =
      some ("STRUCTURED PRIVILEGE".toList, Identifier.canonical i) := by
    rw [read, readTarget_append (by decide) hi]
    rfl
  rw [firstRead_of_splitOn_none (splitOn_of_read_structured hstructured),
    firstRead_cons_of_some hstructured]

/-- A stored privilege is read by a form of its kind, which gives back its name and its target. -/
theorem exists_firstRead_clause {p : Privilege} (h : p.IsStored)
    (hschema : p.kind = .object → Identifier.IsStored Text.isLetter p.target →
      defaultSchema = []) :
    ∃ form : Form, form.kind = p.kind ∧
      firstRead all defaultSchema (p.kind.clause p.name p.target) =
        some (form, p.name, p.target) := by
  obtain ⟨kind, name, target, grantable⟩ := p
  have hverb : Verb.isVerb name = true := h.name.verb
  have hupper : Text.upper name = name := h.name.upper
  have hwhole : ∀ {i : Text}, Identifier.IsStored Text.isLetter i →
      Identifier.whole Text.isLetter i = some i := fun hi => hi.written.whole_eq isLetter_letter
  cases kind with
  | system =>
      obtain rfl : target = [] := h.target
      refine ⟨.system, rfl, ?_⟩
      have hstructured : Form.structured.read defaultSchema name = none :=
        (read_structured_eq_none_iff hverb).mpr (h.notStructured rfl)
      rw [PrivilegeKind.clause_system, firstRead_of_splitOn_none (splitOn_of_isVerb hverb),
        firstRead_cons_of_none hstructured, firstRead_cons_of_some (read_system_of_isStored h.name)]
  | source =>
      have hi : Identifier.IsStored Text.isLetter target := h.target
      refine ⟨.source, rfl, (congrArg _ (List.append_assoc _ _ _)).trans ?_⟩
      exact (firstRead_source hverb (hwhole hi)).trans (by rw [hupper, hi.canonical])
  | schema =>
      have hi : Identifier.IsStored Text.isLetter target := h.target
      refine ⟨.schema, rfl, (congrArg _ (List.append_assoc _ _ _)).trans ?_⟩
      exact (firstRead_schema hverb (hwhole hi)).trans (by rw [hupper, hi.canonical])
  | object =>
      obtain ⟨form, hform, hread⟩ := exists_firstRead_object hverb h.target (hschema rfl)
      refine ⟨form, hform, (congrArg _ (List.append_assoc _ _ _)).trans ?_⟩
      exact hread.trans (by rw [hupper])
  | usergroup =>
      have hi : Identifier.IsStored Text.isLetter target := h.target
      obtain rfl : name = "USERGROUP OPERATOR".toList := h.fixedName _ rfl
      exact ⟨.usergroup, rfl, (firstRead_usergroup (hwhole hi)).trans (by rw [hi.canonical])⟩
  | columnKey =>
      have hi : Identifier.IsStored Text.isLetter target := h.target
      obtain rfl : name = "USAGE".toList := h.fixedName _ rfl
      exact ⟨.columnKey, rfl, (firstRead_columnKey (hwhole hi)).trans (by rw [hi.canonical])⟩
  | structured =>
      have hi : Identifier.IsStored Text.isLetter target := h.target
      obtain rfl : name = "STRUCTURED PRIVILEGE".toList := h.fixedName _ rfl
      exact ⟨.structured, rfl, (firstRead_structured (hwhole hi)).trans (by rw [hi.canonical])⟩

end Form

/-! ## Canonical privileges are stored -/

/-- A canonical target is stored as it is. -/
theorem PrivilegeKind.IsCanonicalTarget.isStoredTarget {kind : PrivilegeKind} {t : Text}
    (h : kind.IsCanonicalTarget t) : kind.IsStoredTarget t := by
  have hstored : ∀ {i : Text}, Identifier.IsCanonical i → Identifier.IsStored Text.isLetter i :=
    fun hi => hi.isStored Form.isLetter_letter
  cases kind with
  | system => exact h
  | object =>
      rcases h with hi | ⟨i, j, hi, hj, ht⟩
      · exact .inl (hstored hi)
      · exact .inr ⟨i, j, hstored hi, hstored hj, ht⟩
  | _ => exact hstored h

/-- A canonical privilege is stored as it is. -/
theorem Privilege.IsCanonical.isStored {p : Privilege} (h : p.IsCanonical) : p.IsStored := by
  refine ⟨h.name.isStored, h.fixedName, h.target.isStoredTarget, h.line, ?_, ?_⟩
  · rw [h.name.map_fold]
    exact h.notStructured
  · rw [h.name.map_fold]
    exact h.noOption

end AccessGrants
