import AccessGrants.Proofs.Planning
import AccessGrants.Proofs.StoredRoles
import AccessGrants.Proofs.WellFormed

/-!
# Options that stay in a name

Only the last option of a grant string is split off. What stands before it may be a verb that ends with
the words of an option, and so may what stands before the word `ON`: a verb is any row of words. Then the
words stay in the name, and the name is written into the statement that revokes the privilege.

* `Text.EndsInOption`: the last words of a text are those of an option.
* `OptionInside`: the grant strings in which an option stands before the end.
* `Privilege.endsInOption_name_iff`: these are the ones whose name keeps an option.
* `Privilege.split_render_eq_iff`: when no option is found in what is written of a privilege without
  its own.
* `option_left_iff`: exactly which names, rendered privileges and statements carry an option.
-/

namespace AccessGrants

open Text Layout

/-! ## Texts that end with an option -/

namespace Text

variable {t : Text} {spell : Char → Char}

/-- The last words of a text are those of an option. -/
def EndsInOption (t : Text) : Prop :=
  ∃ o : GrantOption, o.words <:+ splitBy ' ' t

instance (t : Text) : Decidable (EndsInOption t) :=
  decidable_of_iff (GrantOption.admin.words <:+ splitBy ' ' t ∨ GrantOption.grant.words <:+ splitBy ' ' t)
    ⟨fun h => h.elim (fun h => ⟨.admin, h⟩) fun h => ⟨.grant, h⟩,
      fun ⟨o, h⟩ => by cases o with | admin => exact .inl h | grant => exact .inr h⟩

/-- The words of an option are read as themselves. -/
theorem map_fold_words (o : GrantOption) : o.words.map (List.map fold) = o.words := by
  cases o <;> decide

/-- A text that ends with an option in some spelling is read as one that does. -/
theorem endsInOption_map_fold (hspell : ∀ c, fold (spell c) = fold c)
    (h : EndsInOption (t.map spell)) : EndsInOption (t.map fold) := by
  obtain ⟨o, ho⟩ := h
  have hread := ho.map (List.map fold)
  have hcomp : (t.map spell).map fold = t.map fold := by
    rw [List.map_map]
    exact List.map_congr_left fun c _ => hspell c
  rw [map_fold_words, ← splitBy_map_fold, hcomp] at hread
  exact ⟨o, hread⟩

end Text

namespace GrantOption

variable {t : Text}

/-- A line has no option exactly if it is not read as one that ends with an option. -/
theorem split_eq_self_iff (hline : '\n' ∉ t) :
    split t = .ok (t, none) ↔ ¬ EndsInOption (t.map fold) := by
  have hend : t.getLast? ≠ some '\n' := fun hlast => hline (List.mem_of_getLast? hlast)
  unfold EndsInOption
  rw [splitBy_map_fold, not_exists]
  constructor
  · intro h
    have hwords := (eq_of_split_none h).2
    rw [dropFinalNewline_eq_self hend] at hwords
    exact hwords hline
  · intro hwords
    exact split_of_words hend hwords

end GrantOption

/-- A grant string has an option before its end: a verb that ends with the words of an option, in some
spelling of its letters, stands before an option for system privileges or before the word `ON`. -/
def OptionInside (spell : Char → Char) (raw : Text) : Prop :=
  ∃ v r, normalize raw = v ++ r ∧ Verb.isVerb v = true ∧ EndsInOption (v.map spell) ∧
    (r.map fold = ' ' :: GrantOption.admin.suffix ∨ (dropPhrase " ON ".toList r).isSome)

/-! ## Verbs that are read -/

namespace Form

variable {form : Form} {defaultSchema body name target v rest s t : Text} {o o' : GrantOption}

/-- A body that a form with a target after `ON` reads has a verb before it. The name is the upper case
of that verb, or the only one of its kind. -/
theorem exists_verb_of_read (hform : form ≠ .structured ∧ form ≠ .system)
    (h : form.read defaultSchema body = some (name, target)) :
    ∃ v rest, Verb.splitOn body = some (v, rest) ∧
      (name = upper v ∨ form.kind.fixedName? = some (v.map fold)) := by
  have hphrase : ∀ (verb : Text) {phrase fixed : Text}, Verb.isVerb verb = true →
      (readTarget (verb ++ (" ON ".toList ++ phrase)) body).map (fun target => (fixed, target)) =
        some (name, target) →
      ∃ v rest, Verb.splitOn body = some (v, rest) ∧ v.map fold = verb := by
    intro verb phrase fixed hverb hread
    obtain ⟨_, htarget, -⟩ := Option.map_eq_some_iff.mp hread
    obtain ⟨r, hdrop, -⟩ := readTarget_iff_dropPhrase.mp htarget
    obtain ⟨v, rest, hsplit, hv, -⟩ := Verb.splitOn_of_dropPhrase hverb hdrop
    exact ⟨v, rest, hsplit, hv⟩
  have hverb : ∀ {target' : Text → Option Text}, readVerb target' body = some (name, target) →
      ∃ v rest, Verb.splitOn body = some (v, rest) ∧
        (name = upper v ∨ form.kind.fixedName? = some (v.map fold)) := by
    intro target' hread
    obtain ⟨v, rest, hsplit, -, hname⟩ := exists_splitOn_of_readVerb hread
    exact ⟨v, rest, hsplit, .inl hname⟩
  cases form with
  | usergroup =>
      obtain ⟨v, rest, hsplit, hv⟩ := hphrase "USERGROUP OPERATOR".toList (by decide) h
      exact ⟨v, rest, hsplit, .inr (congrArg some hv.symm)⟩
  | columnKey =>
      obtain ⟨v, rest, hsplit, hv⟩ := hphrase "USAGE".toList (by decide) h
      exact ⟨v, rest, hsplit, .inr (congrArg some hv.symm)⟩
  | source => exact hverb h
  | schema => exact hverb h
  | qualifiedObject => exact hverb h
  | object => exact hverb h
  | structured => exact absurd rfl hform.1
  | system => exact absurd rfl hform.2

/-- No kind has a name of its own that ends with an option. -/
theorem not_endsInOption_fixedName {kind : PrivilegeKind} {fixed : Text}
    (h : kind.fixedName? = some fixed) : ¬ EndsInOption (fixed.map fold) := by
  cases kind <;> cases h <;> decide

/-- A structured privilege with an option after it has no verb before a word `ON` that ends with an
option: its own words and those of its option are all there is. -/
theorem not_endsInOption_of_structured {parts : Text × Text}
    (h : Form.structured.read defaultSchema body = some parts) (hs : s.map fold = o.suffix)
    (hsplit : Verb.splitOn (body ++ ' ' :: s) = some (v, rest)) : ¬ EndsInOption (v.map fold) := by
  rintro ⟨o', front, hfront⟩
  obtain ⟨u, r, rfl, hu, hr⟩ := words_of_read_structured h
  rw [List.append_assoc, List.cons_append] at hsplit
  have hblank : ' ' ∉ r := by
    refine hr.resolve_right fun hquote => ?_
    have hhead : (r ++ ' ' :: s).head? = some '"' := by
      rw [List.head?_append, hquote, Option.some_or]
    rw [splitOn_structured_eq_none hu (.inr hhead)] at hsplit
    cases hsplit
  -- the words of the whole text, once as they are written and once as they are cut
  have hwords : ["STRUCTURED".toList, "PRIVILEGE".toList, r.map fold] ++ o.words =
      front ++ o'.words ++ "ON".toList :: (splitBy ' ' rest).map (List.map fold) := by
    obtain ⟨-, on, hon, heq⟩ := Verb.splitOn_eq_some_iff.mp hsplit
    have hphrase : splitBy ' ' "STRUCTURED PRIVILEGE".toList =
        ["STRUCTURED".toList, "PRIVILEGE".toList] := by decide
    have hcut := congrArg (fun t => splitBy ' ' (t.map fold)) heq
    simp only [List.map_append, List.map_cons, hu, hs, show fold ' ' = ' ' from rfl,
      splitBy_append, GrantOption.splitBy_suffix, hphrase] at hcut
    rw [← splitBy_map_fold rest, hfront]
    rw [splitBy_map_fold r, splitBy_of_not_mem hblank, splitBy_map_fold on,
      splitBy_of_not_mem (Verb.not_blank_mem_of_isOn hon)] at hcut
    simpa [eq_of_beq hon] using hcut
  have hlength := congrArg List.length hwords
  simp only [List.length_append, List.length_cons, List.length_nil, List.length_map,
    GrantOption.words] at hlength
  rcases front with _ | ⟨x, _ | ⟨y, _ | ⟨z, front⟩⟩⟩
  · simp [GrantOption.words] at hwords
  · simp [GrantOption.words] at hwords
  · simp only [GrantOption.words, List.cons_append, List.nil_append, List.cons.injEq] at hwords
    revert hwords
    cases o' <;> simp [GrantOption.word]
  · simp only [List.length_cons] at hlength
    have hpos := List.length_pos_iff.mpr (splitBy_ne_nil ' ' rest)
    omega

/-- A verb with an option after it is a verb. -/
theorem isVerb_append_suffix (hv : Verb.isVerb v = true) (hs : s.map fold = o.suffix) :
    Verb.isVerb (v ++ ' ' :: s) = true := by
  have hsuffix : Verb.isVerb s = true := by
    rw [← Verb.isVerb_map_fold, hs]
    cases o <;> decide
  rw [Verb.isVerb_iff] at hv hsuffix ⊢
  intro w hw
  rw [splitBy_append, List.mem_append] at hw
  exact hw.elim (hv w) (hsuffix w)

/-- What is stored of a target is an identifier, or it ends with a dot and one. -/
theorem written_of_isTarget (hform : form ≠ .system) (h : form.IsTarget defaultSchema t) :
    Identifier.IsWritten isLetter (stripWhiteSpace t) ∨
      ∃ u j, Identifier.IsWritten isLetter j ∧ stripWhiteSpace t = u ++ '.' :: j := by
  have hone : ∀ {i : Text}, Identifier.IsWritten isLetter i →
      Identifier.IsWritten isLetter (stripWhiteSpace (Identifier.canonical i)) := fun hi =>
    (Identifier.stripWhiteSpace_canonical isLetter_letter hi).written
  have htwo : ∀ {t j : Text}, Identifier.IsWritten isLetter j →
      ∃ u k, Identifier.IsWritten isLetter k ∧
        stripWhiteSpace (t ++ '.' :: Identifier.canonical j) = u ++ '.' :: k := fun hj =>
    ⟨_, _, hone hj, stripWhiteSpace_append_dot _ (Identifier.first_canonical isLetter_letter hj)⟩
  cases form with
  | system => exact absurd rfl hform
  | qualifiedObject =>
      obtain ⟨i, j, -, hj, rfl⟩ := h
      exact .inr (htwo hj)
  | object =>
      obtain ⟨i, hi, rfl⟩ := h
      unfold inSchema
      split
      · exact .inl (hone hi)
      · exact .inr (htwo hi)
  | _ =>
      obtain ⟨i, hi, rfl⟩ := h
      exact .inl (hone hi)

/-- What a form reads is not empty. -/
theorem ne_nil_of_read {parts : Text × Text} (h : form.read defaultSchema body = some parts) :
    body ≠ [] := by
  rintro rfl
  cases form <;> cases h

end Form

/-! ## Names -/

namespace Privilege

variable {raw defaultSchema body name target v rest : Text} {p : Privilege} {form : Form}
  {grantable : Bool} {spell : Char → Char}

/-- A grant string is its body, or its body on one line and its option. -/
theorem normalize_eq_of_splitGrant {o : GrantOption} (hne : body ≠ [])
    (h : splitGrant raw = .ok (body, if grantable then some o else none)) :
    (grantable = false ∧ normalize raw = body) ∨ '\n' ∉ body ∧
      ∃ s, s.map fold = o.suffix ∧ normalize raw = body ++ ' ' :: s := by
  cases grantable with
  | false =>
      exact .inl ⟨rfl, (GrantOption.eq_of_split_none (splitGrant_eq_ok_iff.mp h)).1.symm⟩
  | true =>
      obtain ⟨s, hs, hshape⟩ :=
        GrantOption.exists_suffix_of_split (getLast?_normalize raw) (splitGrant_eq_ok_iff.mp h)
      exact .inr ⟨line_of_splitGrant h, s, hs, hshape.resolve_right fun hnil => hne hnil.1⟩

/-- A grant string of a verb alone is that verb, or that verb and the option for system privileges. -/
theorem normalize_eq_of_system
    (hsplit : splitGrant raw = .ok (body, if grantable then some .admin else none))
    (hread : Form.system.read defaultSchema body = some (name, target)) :
    ∃ v, Verb.isVerb v = true ∧ name = upper v ∧
      ((normalize raw = v ∧ ¬ EndsInOption (v.map fold)) ∨
        ∃ s, s.map fold = GrantOption.admin.suffix ∧ normalize raw = v ++ ' ' :: s) := by
  obtain ⟨hverb, hname⟩ := (Form.reads_of_read hread).wholeBody rfl
  refine ⟨_, hverb, hname, ?_⟩
  rcases normalize_eq_of_splitGrant (Form.ne_nil_of_read hread) hsplit with
    ⟨rfl, heq⟩ | ⟨hline, s, hs, heq⟩
  · have hself : dropFinalNewline body = body := by
      rw [← heq]
      exact dropFinalNewline_eq_self (getLast?_normalize raw)
    have hfeed : '\n' ∉ body := by
      intro hmem
      rw [hself] at hverb
      exact absurd (Verb.isLetter_or_blank hverb hmem) (by decide)
    rw [hself]
    have hself := splitGrant_eq_ok_iff.mp hsplit
    rw [heq] at hself
    exact .inl ⟨heq, (GrantOption.split_eq_self_iff hfeed).mp hself⟩
  · rw [dropFinalNewline_of_not_mem hline]
    exact .inr ⟨s, hs, heq⟩

/-- A verb before a word `ON` of the body stands there in the grant string. -/
theorem exists_splitOn_normalize
    (hsplit : splitGrant raw = .ok (body, if grantable then some form.kind.grantOption else none))
    (hon : Verb.splitOn body = some (v, rest)) :
    ∃ rest', Verb.splitOn (normalize raw) = some (v, rest') := by
  obtain ⟨hverb, o, ho, rfl⟩ := Verb.splitOn_eq_some_iff.mp hon
  have hnormal : ∃ z, normalize raw = v ++ ' ' :: (o ++ ' ' :: (rest ++ z)) := by
    rcases normalize_eq_of_splitGrant (by simp) hsplit with ⟨-, heq⟩ | ⟨-, s, -, heq⟩
    · exact ⟨[], by rw [heq, List.append_nil]⟩
    · exact ⟨' ' :: s, by rw [heq]; simp⟩
  obtain ⟨z, heq⟩ := hnormal
  exact ⟨rest ++ z, Verb.splitOn_eq_some_iff.mpr ⟨hverb, o, ho, heq⟩⟩

/-- A verb that ends with an option and stands before a word `ON` is the name that is read. -/
theorem name_of_splitOn
    (hsplit : splitGrant raw = .ok (body, if grantable then some form.kind.grantOption else none))
    (hread : form.read defaultSchema body = some (name, target))
    (hon : Verb.splitOn (normalize raw) = some (v, rest)) (hv : EndsInOption (v.map fold)) :
    name = upper v := by
  have hshape := normalize_eq_of_splitGrant (Form.ne_nil_of_read hread) hsplit
  by_cases hform : form ≠ .structured ∧ form ≠ .system
  · -- the verb of the body is the verb of the grant string
    obtain ⟨v', rest', hon', hname⟩ := Form.exists_verb_of_read hform hread
    obtain ⟨_, hnormal⟩ := exists_splitOn_normalize hsplit hon'
    obtain rfl : v' = v := by
      rw [hnormal] at hon
      cases hon
      rfl
    rcases hname with hname | hfixed
    · exact hname
    · have hfold : (v'.map fold).map fold = v'.map fold := by
        simp [Function.comp_def]
      have hnot := Form.not_endsInOption_fixedName hfixed
      rw [hfold] at hnot
      exact absurd hv hnot
  · -- the last two forms read no word `ON` after a verb, and there is none in an option
    exfalso
    rw [not_and_or, not_not, not_not] at hform
    rcases hform with rfl | rfl
    · rcases hshape with ⟨-, heq⟩ | ⟨-, s, hs, heq⟩
      · rw [heq, Form.splitOn_of_read_structured hread] at hon
        cases hon
      · rw [heq] at hon
        exact Form.not_endsInOption_of_structured hread hs hon hv
    · obtain ⟨u, hu, -, ⟨heq, -⟩ | ⟨s, hs, heq⟩⟩ := normalize_eq_of_system hsplit hread
      · have hverb := Verb.isVerb_eq_false_of_splitOn hon
        rw [heq, hu] at hverb
        cases hverb
      · have hverb := Verb.isVerb_eq_false_of_splitOn hon
        rw [heq, Form.isVerb_append_suffix hu hs] at hverb
        cases hverb

/-- The name of a privilege that is read is a verb in upper case, the only one of its kind if there is
but one. -/
theorem name_of_parse (h : parse raw defaultSchema = .ok p) :
    Verb.IsStored p.name ∧ ∀ fixed, p.kind.fixedName? = some fixed → p.name = fixed := by
  obtain ⟨form, body, name, target, grantable, -, hfirst, rfl⟩ := exists_read_of_parse h
  obtain ⟨hread, -⟩ := Form.firstRead_eq_some_iff.mp hfirst
  have hreads := Form.reads_of_read hread
  have hname : (trimmed form.kind name target grantable).name = name :=
    (Verb.solid hreads.verb.verb).stripWhiteSpace_eq
  rw [hname]
  exact ⟨hreads.verb, hreads.fixedVerb⟩

section spelling

variable (hspell : ∀ c, spell (capital c) = spell c ∧ fold (spell c) = fold c)

include hspell

/-- The upper case of a verb is spelled like the verb. -/
theorem map_spell_upper (v : Text) : (upper v).map spell = v.map spell := by
  rw [upper, List.map_map]
  exact List.map_congr_left fun c _ => (hspell c).1

/-- If the name that is read ends with an option, there is one inside the grant string. -/
theorem optionInside_of_name
    (hsplit : splitGrant raw = .ok (body, if grantable then some form.kind.grantOption else none))
    (hread : form.read defaultSchema body = some (name, target))
    (hends : EndsInOption (name.map spell)) : OptionInside spell raw := by
  have hfold := endsInOption_map_fold (fun c => (hspell c).2) hends
  -- a kind with one name only has none that ends so
  have hfree : ∀ {fixed : Text}, form.kind.fixedName? = some fixed → False := by
    intro fixed hfixed
    have hnot := Form.not_endsInOption_fixedName hfixed
    rw [← (Form.reads_of_read hread).fixedVerb _ hfixed] at hnot
    exact hnot hfold
  by_cases hform : form ≠ .structured ∧ form ≠ .system
  · obtain ⟨v, rest, hon, rfl | hfixed⟩ := Form.exists_verb_of_read hform hread
    · obtain ⟨rest', hnormal⟩ := exists_splitOn_normalize hsplit hon
      obtain ⟨hv, o, ho, heq⟩ := Verb.splitOn_eq_some_iff.mp hnormal
      rw [map_spell_upper hspell] at hends
      refine ⟨v, ' ' :: (o ++ ' ' :: rest'), heq, hv, hends, .inr ?_⟩
      rw [Verb.dropPhrase_on_eq_some_iff.mpr ⟨o, ho, rfl⟩]
      rfl
    · exact (hfree hfixed).elim
  · rw [not_and_or, not_not, not_not] at hform
    rcases hform with rfl | rfl
    · exact (hfree rfl).elim
    · obtain ⟨v, hv, rfl, ⟨-, hnot⟩ | ⟨s, hs, heq⟩⟩ := normalize_eq_of_system hsplit hread
      · rw [map_fold_upper] at hfold
        exact absurd hfold hnot
      · rw [map_spell_upper hspell] at hends
        refine ⟨v, ' ' :: s, heq, hv, hends, .inl ?_⟩
        rw [List.map_cons, hs]
        rfl

/-- If there is an option inside the grant string, the name that is read ends with it. -/
theorem name_of_optionInside
    (hsplit : splitGrant raw = .ok (body, if grantable then some form.kind.grantOption else none))
    (hread : form.read defaultSchema body = some (name, target)) (h : OptionInside spell raw) :
    EndsInOption (name.map spell) := by
  obtain ⟨v, r, hnormal, hv, hends, hr⟩ := h
  suffices hname : name = upper v by
    rw [hname, map_spell_upper hspell]
    exact hends
  rcases hr with hr | hr
  · -- the option at the end is split off, and only system privileges accept it
    obtain ⟨b, s, rfl, hb, hs⟩ := List.map_eq_cons_iff.mp hr
    obtain rfl : b = ' ' := (fold_eq_iff (by decide)).mp hb
    have hline : '\n' ∉ v := fun hmem => absurd (Verb.isLetter_or_blank hv hmem) (by decide)
    have hlast : v.getLast? ≠ some '\n' := fun hlast => hline (List.mem_of_getLast? hlast)
    rw [splitGrant_eq_ok_iff, hnormal] at hsplit
    obtain ⟨rfl, hoption⟩ := GrantOption.eq_of_split_append hline hs hsplit
    obtain rfl : form = .system := by
      revert hoption
      cases grantable <;> cases form <;> decide
    rw [((Form.reads_of_read hread).wholeBody rfl).2, dropFinalNewline_eq_self hlast]
  · obtain ⟨rest, hdrop⟩ := Option.isSome_iff_exists.mp hr
    obtain ⟨o, ho, rfl⟩ := Verb.dropPhrase_on_eq_some_iff.mp hdrop
    have hon := Verb.splitOn_eq_some_iff.mpr ⟨hv, o, ho, hnormal⟩
    exact name_of_splitOn hsplit hread hon (endsInOption_map_fold (fun c => (hspell c).2) hends)

/-- The grant strings whose name keeps an option are those with an option before the end. -/
theorem endsInOption_name_iff (h : parse raw defaultSchema = .ok p) :
    EndsInOption (p.name.map spell) ↔ OptionInside spell raw := by
  obtain ⟨form, body, name, target, grantable, hsplit, hfirst, rfl⟩ := exists_read_of_parse h
  obtain ⟨hread, -⟩ := Form.firstRead_eq_some_iff.mp hfirst
  have hname : (trimmed form.kind name target grantable).name = name :=
    (Verb.solid (Form.reads_of_read hread).verb.verb).stripWhiteSpace_eq
  rw [hname]
  exact ⟨optionInside_of_name hspell hsplit hread, name_of_optionInside hspell hsplit hread⟩

end spelling

/-- As it is stored, the name ends with an option exactly if the verb inside does in upper case. -/
theorem endsInOption_iff (h : parse raw defaultSchema = .ok p) :
    EndsInOption p.name ↔ OptionInside capital raw := by
  have hspell : ∀ c, capital (capital c) = capital c ∧ fold (capital c) = fold c := fun c =>
    ⟨capital_capital c, fold_capital c⟩
  have hupper : p.name.map capital = p.name := (name_of_parse h).1.upper
  rw [← endsInOption_name_iff hspell h, hupper]

/-! ## What is written -/

/-- The target of a privilege on something is an identifier, or it ends with a dot and one. -/
theorem target_of_parse (h : parse raw defaultSchema = .ok p) (hkind : p.kind ≠ .system) :
    Identifier.IsWritten isLetter p.target ∨
      ∃ t j, Identifier.IsWritten isLetter j ∧ p.target = t ++ '.' :: j := by
  obtain ⟨form, body, name, target, grantable, -, hfirst, rfl⟩ := exists_read_of_parse h
  obtain ⟨hread, -⟩ := Form.firstRead_eq_some_iff.mp hfirst
  refine Form.written_of_isTarget ?_ (Form.reads_of_read hread).isTarget
  rintro rfl
  exact hkind rfl

/-- So is the target that is written, whatever schema an object is placed in. -/
theorem qualifiedTarget_of_parse (h : parse raw defaultSchema = .ok p) (hkind : p.kind ≠ .system)
    (schema : Text) : Identifier.IsWritten isLetter (p.qualifiedTarget schema) ∨
      ∃ t j, Identifier.IsWritten isLetter j ∧ p.qualifiedTarget schema = t ++ '.' :: j := by
  unfold qualifiedTarget
  split
  · next hobject =>
    rcases target_of_parse h hkind with hi | ⟨t, j, -, heq⟩
    · exact .inr ⟨schema, p.target, hi, rfl⟩
    · have hdot : '.' ∈ p.target := by
        rw [heq]
        simp
      exact absurd hdot hobject.2.2
  · exact target_of_parse h hkind

/-- No option is found in what is written of a privilege without its own, unless it is a system
privilege that is read from a grant string with an option inside. -/
theorem split_render_eq_iff (h : parse raw defaultSchema = .ok p) (schema : Text) :
    GrantOption.split ({ p with grantable := false }.render schema) =
        .ok ({ p with grantable := false }.render schema, none) ↔
      ¬ (p.kind = .system ∧ OptionInside fold raw) := by
  have hspell : ∀ c, fold (capital c) = fold c ∧ fold (fold c) = fold c := fun c =>
    ⟨fold_capital c, fold_fold c⟩
  obtain ⟨hstored, hfixed⟩ := name_of_parse h
  have hrender : ({ p with grantable := false } : Privilege).render schema =
      p.kind.clause p.name (p.qualifiedTarget schema) := rfl
  rw [hrender]
  by_cases hkind : p.kind = .system
  · have hline : '\n' ∉ p.name := fun hmem =>
      absurd (Verb.isLetter_or_blank hstored.verb hmem) (by decide)
    rw [hkind, PrivilegeKind.clause_system, GrantOption.split_eq_self_iff hline,
      endsInOption_name_iff hspell h, and_iff_right rfl]
  · have htarget := qualifiedTarget_of_parse h hkind schema
    obtain ⟨c, hc, hblank⟩ : ∃ c, (p.qualifiedTarget schema).getLast? = some c ∧
        isBlank c = false := by
      rcases htarget with hi | ⟨t, j, hj, heq⟩
      · exact (hi.solid Form.isLetter_letter).last
      · obtain ⟨c, hc, hblank⟩ := (hj.solid Form.isLetter_letter).last
        exact ⟨c, by rw [heq, List.getLast?_append, List.getLast?_cons, hc]; rfl, hblank⟩
    have hlast : (p.kind.clause p.name (p.qualifiedTarget schema)).getLast? ≠ some '\n' := by
      rw [PrivilegeKind.clause_eq hkind, List.getLast?_append, hc, Option.some_or]
      rintro ⟨rfl⟩
      exact absurd hblank (by decide)
    have hwords := PrivilegeKind.no_option_of_target hkind
      (fun hstructured => hfixed _ (by rw [hstructured]; rfl)) htarget
    exact iff_of_true (GrantOption.split_of_words hlast hwords) fun hsystem => hkind hsystem.1

end Privilege

/-! ## Statements -/

/-- The name of a role does not end with an option: it is a path, or its last part is an identifier. -/
theorem Role.not_endsInOption_name {raw : Text} {r : Role} (h : parse raw = .ok r) :
    ¬ EndsInOption r.name := by
  intro hends
  have hself : EndsInOption (r.name.map id) := by
    rwa [List.map_id]
  obtain ⟨o, ho⟩ := endsInOption_map_fold (fun _ => rfl) hself
  rw [splitBy_map_fold] at ho
  rcases stored_or_torn_of_parse h with hstored | htorn
  · exact no_option_name hstored.name.isPath o ho
  · obtain ⟨w, j, -, hj, heq⟩ := htorn.name
    have hnot := GrantOption.not_words_of_dot Identifier.isAlphabet_ascii (w ++ ['\n']) hj.written o
    rw [List.append_assoc, List.singleton_append, ← heq] at hnot
    exact hnot ho

namespace Statement

variable {grantee defaultSchema : Text} {toGrant toRevoke rolesToGrant rolesToRevoke : List Text}
  {statements : List Statement}

/-- A statement that revokes something has an option behind one of the names in it. -/
def CarriesOption : Statement → Prop
  | .revokePrivilegeBatch batch _ => ∃ name ∈ batch.names, EndsInOption name
  | .revokeRoleNames names _ => ∃ name ∈ names, EndsInOption name
  | _ => False

instance : (st : Statement) → Decidable st.CarriesOption
  | .revokePrivilegeBatch batch _ => inferInstanceAs (Decidable (∃ name ∈ batch.names, _))
  | .revokeRoleNames names _ => inferInstanceAs (Decidable (∃ name ∈ names, _))
  | .grantPrivilegeBatch _ _ => inferInstanceAs (Decidable False)
  | .grantRoleBatch _ _ => inferInstanceAs (Decidable False)

/-- A plan revokes with an option exactly if a privilege to revoke is written with one inside. -/
theorem exists_carriesOption_iff
    (h : planUpdate grantee defaultSchema toGrant toRevoke rolesToGrant rolesToRevoke =
      .ok statements) :
    (∃ st ∈ statements, st.CarriesOption) ↔ ∃ raw ∈ toRevoke, OptionInside capital raw := by
  constructor
  · rintro ⟨st, hst, hcarries⟩
    cases st with
    | revokePrivilegeBatch batch grantee =>
        obtain ⟨name, hmem, hends⟩ := hcarries
        have hrevokes : Revokes (.revokePrivilegeBatch batch grantee)
            ⟨batch.kind, name, batch.target, batch.grantable⟩ :=
          ⟨_, List.mem_map_of_mem hmem, rfl, rfl, rfl⟩
        obtain ⟨raw, hraw, q, hparse, -, rfl, -⟩ := (exists_revokes_iff h).mp ⟨_, hst, hrevokes⟩
        exact ⟨raw, hraw, (Privilege.endsInOption_iff hparse).mp hends⟩
    | revokeRoleNames names grantee =>
        obtain ⟨name, hmem, hends⟩ := hcarries
        have hrevokes : RevokesRole (.revokeRoleNames names grantee) ⟨name, false⟩ := hmem
        obtain ⟨raw, -, r, hparse, rfl⟩ := (exists_revokesRole_iff h).mp ⟨_, hst, hrevokes⟩
        exact absurd hends (Role.not_endsInOption_name hparse)
    | grantPrivilegeBatch _ _ => exact hcarries.elim
    | grantRoleBatch _ _ => exact hcarries.elim
  · rintro ⟨raw, hraw, hinside⟩
    obtain ⟨-, qs, -, -, -, hqs, -, -, -⟩ := exists_ofUpdate_of_planUpdate h
    obtain ⟨p, -, hparse⟩ := exists_of_mapM_eq_ok hqs hraw
    obtain ⟨st, hst, hrevokes⟩ := (exists_revokes_iff h).mpr ⟨raw, hraw, p, hparse, rfl, rfl, rfl⟩
    refine ⟨st, hst, ?_⟩
    cases st with
    | revokePrivilegeBatch batch grantee =>
        obtain ⟨q, hq, -, hsame, -⟩ := hrevokes
        obtain ⟨name, hmem, rfl⟩ := List.mem_map.mp hq
        have hsame : name = p.name := hsame
        refine ⟨name, hmem, ?_⟩
        rw [hsame]
        exact (Privilege.endsInOption_iff hparse).mpr hinside
    | revokeRoleNames _ _ => exact hrevokes.elim
    | grantPrivilegeBatch _ _ => exact hrevokes.elim
    | grantRoleBatch _ _ => exact hrevokes.elim

end Statement

/-- Only the last option of a grant string is split off. The name of a privilege that is read ends with an
option exactly if the grant string has one inside; what is written of it without its own option is found
to have one exactly if it is a system privilege as well; and a plan revokes with an option exactly if one
of the privileges to revoke is written with one inside. -/
theorem option_left_iff (defaultSchema : Text) :
    (∀ (raw : Text) (p : Privilege), Privilege.parse raw defaultSchema = .ok p →
      (EndsInOption p.name ↔ OptionInside capital raw) ∧
      ∀ schema, GrantOption.split ({ p with grantable := false }.render schema) =
          .ok ({ p with grantable := false }.render schema, none) ↔
        ¬ (p.kind = .system ∧ OptionInside fold raw)) ∧
    ∀ (grantee : Text) (toGrant toRevoke rolesToGrant rolesToRevoke : List Text)
      (statements : List Statement),
      Statement.planUpdate grantee defaultSchema toGrant toRevoke rolesToGrant rolesToRevoke =
        .ok statements →
      ((∃ st ∈ statements, st.CarriesOption) ↔ ∃ raw ∈ toRevoke, OptionInside capital raw) := by
  constructor
  · intro raw p hparse
    exact ⟨Privilege.endsInOption_iff hparse, Privilege.split_render_eq_iff hparse⟩
  · intro grantee toGrant toRevoke rolesToGrant rolesToRevoke statements hplan
    exact Statement.exists_carriesOption_iff hplan

/-- A system privilege with both options: the first one stays in its name, is found in what is written of
it, and is written into the statement that revokes it. -/
theorem option_left_in_system_privilege :
    Privilege.parse "CATALOG READ WITH GRANT OPTION WITH ADMIN OPTION".toList [] =
        .ok ⟨.system, "CATALOG READ WITH GRANT OPTION".toList, [], true⟩ ∧
      EndsInOption "CATALOG READ WITH GRANT OPTION".toList ∧
      GrantOption.split (Privilege.display
          ⟨.system, "CATALOG READ WITH GRANT OPTION".toList, [], false⟩) =
        .ok ("CATALOG READ".toList, some .grant) ∧
      (Statement.planUpdate "ANALYST".toList [] []
          ["CATALOG READ WITH GRANT OPTION WITH ADMIN OPTION".toList] [] []).map
          (fun statements => statements.map Statement.text) =
        .ok ["REVOKE CATALOG READ WITH GRANT OPTION FROM ANALYST".toList] := by
  refine ⟨by decide, by decide, by decide, by decide⟩

/-- The privilege with one option keeps none, and the one with both has an option inside, as its name and
the statement that revokes it say. -/
theorem option_left_of_both_options :
    (¬ OptionInside capital "CATALOG READ WITH ADMIN OPTION".toList ∧
      ¬ OptionInside fold "CATALOG READ WITH ADMIN OPTION".toList) ∧
    OptionInside capital "CATALOG READ WITH GRANT OPTION WITH ADMIN OPTION".toList ∧
    ∃ st ∈ [Statement.revokePrivilegeBatch
        ⟨.system, [], true, ["CATALOG READ WITH GRANT OPTION".toList]⟩ "ANALYST".toList],
      st.CarriesOption := by
  have hone := (option_left_iff []).1 "CATALOG READ WITH ADMIN OPTION".toList
    ⟨.system, "CATALOG READ".toList, [], true⟩ (by decide)
  have hboth := (option_left_iff []).1 "CATALOG READ WITH GRANT OPTION WITH ADMIN OPTION".toList
    ⟨.system, "CATALOG READ WITH GRANT OPTION".toList, [], true⟩ (by decide)
  have hplan := (option_left_iff []).2 "ANALYST".toList []
    ["CATALOG READ WITH GRANT OPTION WITH ADMIN OPTION".toList] [] [] _ rfl
  have hinside := hboth.1.mp (by decide)
  refine ⟨⟨fun h => absurd (hone.1.mpr h) (by decide), fun h => ?_⟩, hinside, ?_⟩
  · exact (hone.2 []).mp (by decide) ⟨rfl, h⟩
  · exact hplan.mpr ⟨_, List.mem_cons_self, hinside⟩

end AccessGrants
