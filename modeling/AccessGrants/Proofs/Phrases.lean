import AccessGrants.Proofs.Words

/-!
# Phrases and verbs

A phrase is read in any letter case, so a text begins with a phrase if a part of it folds onto the
phrase. A verb is a row of words of which none folds onto `ON`, so a text that begins with a verb is
cut where the first word `ON` stands.

* `Text.fold_of_isUpper`, `Text.fold_of_not_isLetter`, `Text.fold_eq_iff`: what folding leaves alone.
* `Text.dropPhrase_eq_some_iff`: what follows a phrase.
* `Verb.splitOn_eq_some_iff`: the verb of a text and what follows `ON`.
-/

namespace AccessGrants

namespace Text

/-! ## Letters -/

/-- A capital is an ASCII letter. -/
theorem isAlpha_of_isUpper {c : Char} (h : c.isUpper = true) : c.isAlpha = true :=
  Bool.or_eq_true_iff.mpr (.inl h)

/-- An ASCII letter is a letter or a digit. -/
theorem isAlphanum_of_isAlpha {c : Char} (h : c.isAlpha = true) : c.isAlphanum = true :=
  Bool.or_eq_true_iff.mpr (.inl h)

/-- A digit is a letter or a digit. -/
theorem isAlphanum_of_isDigit {c : Char} (h : c.isDigit = true) : c.isAlphanum = true :=
  Bool.or_eq_true_iff.mpr (.inr h)

/-- A capital is a letter or a digit. -/
theorem isAlphanum_of_isUpper {c : Char} (h : c.isUpper = true) : c.isAlphanum = true :=
  isAlphanum_of_isAlpha (isAlpha_of_isUpper h)

/-- The letters and digits of this class are in ASCII. -/
theorem ascii_of_isAlphanum {c : Char} (h : c.isAlphanum = true) : c.toNat < 128 := by
  have hbound : ∀ d : Char, c.val ≤ d.val → d.toNat < 128 → c.toNat < 128 := fun d hle =>
    Nat.lt_of_le_of_lt (UInt32.le_iff_toNat_le.mp hle)
  rcases Bool.or_eq_true_iff.mp h with hletter | hdigit
  · rcases Bool.or_eq_true_iff.mp hletter with hupper | hlower
    · exact hbound 'Z' (of_decide_eq_true hupper).2 (by decide)
    · exact hbound 'z' (of_decide_eq_true (Bool.and_eq_true_iff.mp hlower).2) (by decide)
  · exact hbound '9' (of_decide_eq_true (Bool.and_eq_true_iff.mp hdigit).2) (by decide)

/-- What holds of the 128 characters of ASCII holds of each of them. -/
theorem of_ascii {P : Char → Prop} (h : ∀ n < 128, P (Char.ofNat n)) {c : Char}
    (hc : c.toNat < 128) : P c := by
  have hofNat := h c.toNat hc
  rwa [Char.ofNat_toNat] at hofNat

/-- A capital is read as itself. -/
theorem fold_of_isUpper {c : Char} (h : c.isUpper = true) : fold c = c :=
  of_ascii (P := fun c => c.isUpper = true → fold c = c) (by decide)
    (ascii_of_isAlphanum (isAlphanum_of_isUpper h)) h

/-- A capital is stored as itself. -/
theorem capital_of_isUpper {c : Char} (h : c.isUpper = true) : capital c = c :=
  of_ascii (P := fun c => c.isUpper = true → capital c = c) (by decide)
    (ascii_of_isAlphanum (isAlphanum_of_isUpper h)) h

/-- An ASCII letter is read as a letter. -/
theorem isLetter_of_isAlpha {c : Char} (h : c.isAlpha = true) : isLetter c = true :=
  of_ascii (P := fun c => c.isAlpha = true → isLetter c = true) (by decide)
    (ascii_of_isAlphanum (isAlphanum_of_isAlpha h)) h

/-- A letter or a digit is not blank. -/
theorem isBlank_of_isAlphanum {c : Char} (h : c.isAlphanum = true) : isBlank c = false :=
  of_ascii (P := fun c => c.isAlphanum = true → isBlank c = false) (by decide)
    (ascii_of_isAlphanum h) h

/-- Only a small letter has another capital. -/
theorem toUpper_of_not_isLower {c : Char} (h : ¬ c.isLower = true) : c.toUpper = c :=
  dif_neg fun hrange =>
    h (Bool.and_eq_true_iff.mpr ⟨decide_eq_true hrange.1, decide_eq_true hrange.2⟩)

/-- What is read as no letter is no small letter. -/
theorem not_isLower_of_not_isLetter {c : Char} (h : isLetter c = false) : ¬ c.isLower = true := by
  intro hlower
  rw [isLetter_of_isAlpha (Bool.or_eq_true_iff.mpr (.inr hlower))] at h
  cases h

/-- A character that is not read as a letter is read as itself. -/
theorem fold_of_not_isLetter {c : Char} (h : isLetter c = false) : fold c = c := by
  have hlower := not_isLower_of_not_isLetter h
  unfold isLetter at h
  unfold fold at h ⊢
  split
  all_goals first | exact absurd h (by decide) | skip
  exact toUpper_of_not_isLower hlower

/-- A character that is not read as a letter is stored as itself. -/
theorem capital_of_not_isLetter {c : Char} (h : isLetter c = false) : capital c = c := by
  have hlower := not_isLower_of_not_isLetter h
  unfold capital
  split
  · exact absurd h (by decide)
  · exact absurd h (by decide)
  · exact toUpper_of_not_isLower hlower

/-- The letters are those of ASCII and the four that fold onto one of them. -/
theorem isAlpha_or_eq_of_isLetter {c : Char} (h : isLetter c = true) :
    c.isAlpha = true ∨ c = 'ı' ∨ c = 'İ' ∨ c = 'ſ' ∨ c = '\u212A' := by
  unfold isLetter fold at h
  split at h
  · simp
  · simp
  · simp
  · simp
  · left
    by_cases hlower : c.isLower = true
    · exact Bool.or_eq_true_iff.mpr (.inr hlower)
    · rw [toUpper_of_not_isLower hlower] at h
      exact isAlpha_of_isUpper h

/-- What holds of the letters of ASCII and of the four others holds of each letter. -/
theorem of_isLetter {P : Char → Prop}
    (hascii : ∀ n < 128, (Char.ofNat n).isAlpha = true → P (Char.ofNat n))
    (hother : P 'ı' ∧ P 'İ' ∧ P 'ſ' ∧ P '\u212A') {c : Char} (h : isLetter c = true) : P c := by
  obtain ⟨hdotless, hdotted, hlong, hkelvin⟩ := hother
  rcases isAlpha_or_eq_of_isLetter h with halpha | rfl | rfl | rfl | rfl
  · exact of_ascii (P := fun c => c.isAlpha = true → P c) hascii
      (ascii_of_isAlphanum (isAlphanum_of_isAlpha halpha)) halpha
  · exact hdotless
  · exact hdotted
  · exact hlong
  · exact hkelvin

/-- A character and its upper case are read as the same one. -/
@[simp] theorem fold_capital (c : Char) : fold (capital c) = fold c := by
  rcases hc : isLetter c with _ | _
  · rw [capital_of_not_isLetter hc]
  · exact of_isLetter (P := fun c => fold (capital c) = fold c) (by decide) (by decide) hc

/-- Upper case is stored as it is. -/
@[simp] theorem capital_capital (c : Char) : capital (capital c) = capital c := by
  rcases hc : isLetter c with _ | _
  · rw [capital_of_not_isLetter hc, capital_of_not_isLetter hc]
  · exact of_isLetter (P := fun c => capital (capital c) = capital c) (by decide) (by decide) hc

/-- All letters but two are stored as they are read. -/
theorem capital_eq_fold {c : Char} (hdotted : c ≠ 'İ') (hkelvin : c ≠ '\u212A') :
    capital c = fold c := by
  rcases hc : isLetter c with _ | _
  · rw [capital_of_not_isLetter hc, fold_of_not_isLetter hc]
  · exact of_isLetter (P := fun c => c ≠ 'İ' → c ≠ '\u212A' → capital c = fold c) (by decide)
      (by decide) hc hdotted hkelvin

@[simp] theorem map_fold_upper (t : Text) : (upper t).map fold = t.map fold := by
  simp [upper, Function.comp_def]

@[simp] theorem upper_upper (t : Text) : upper (upper t) = upper t := by
  simp [upper, Function.comp_def]

/-- Reading a character twice is reading it once. -/
@[simp] theorem fold_fold (c : Char) : fold (fold c) = fold c := by
  rcases hc : isLetter c with _ | _
  · rw [fold_of_not_isLetter hc]
    exact fold_of_not_isLetter hc
  · exact fold_of_isUpper hc

/-- Only the character itself is read as a character that is no letter. -/
theorem fold_eq_iff {c d : Char} (hd : isLetter d = false) : fold c = d ↔ c = d := by
  constructor
  · intro h
    rcases hc : isLetter c with _ | _
    · rwa [fold_of_not_isLetter hc] at h
    · rw [isLetter, h] at hc
      rw [isLetter, fold_of_isUpper hc, hc] at hd
      cases hd
  · rintro rfl
    exact fold_of_not_isLetter hd

/-- A text of capitals is read as itself. -/
theorem map_fold_of_upper {t : Text} (h : ∀ c ∈ t, c.isUpper = true) : t.map fold = t :=
  (List.map_congr_left fun c hc => fold_of_isUpper (h c hc)).trans (List.map_id t)

/-- The words of a text, read in any letter case. -/
theorem splitBy_map_fold (t : Text) :
    splitBy ' ' (t.map fold) = (splitBy ' ' t).map (List.map fold) :=
  splitBy_map (fun _ => fold_eq_iff (by decide)) t

/-! ## Phrases -/

variable {phrase rest t : Text}

/-- What follows a phrase is what is left after a part that folds onto it. -/
theorem dropPhrase_eq_some_iff :
    dropPhrase phrase t = some rest ↔ ∃ w, t = w ++ rest ∧ w.map fold = phrase := by
  induction phrase generalizing t with
  | nil => simp [eq_comm]
  | cons k ks ih =>
      cases t with
      | nil => simp [dropPhrase]
      | cons c t =>
          rw [dropPhrase]
          constructor
          · intro h
            split at h
            · next hk =>
              obtain ⟨w, rfl, hw⟩ := ih.mp h
              exact ⟨c :: w, rfl, by rw [List.map_cons, hk, hw]⟩
            · cases h
          · rintro ⟨w, ht, hw⟩
            obtain ⟨d, v, rfl, hd, hv⟩ := List.map_eq_cons_iff.mp hw
            rw [List.cons_append, List.cons.injEq] at ht
            rw [ht.1, if_pos hd]
            exact ih.mpr ⟨v, ht.2, hv⟩

/-- A phrase that ends a word is followed by the words after it. -/
theorem dropPhrase_blank_eq_some_iff :
    dropPhrase (phrase ++ [' ']) t = some rest ↔
      ∃ w, t = w ++ ' ' :: rest ∧ w.map fold = phrase := by
  rw [dropPhrase_eq_some_iff]
  constructor
  · rintro ⟨v, rfl, hv⟩
    obtain ⟨w, b, rfl, hw, hb⟩ := List.map_eq_append_iff.mp hv
    obtain ⟨d, hd, rfl⟩ : ∃ d, fold d = ' ' ∧ b = [d] := by
      obtain ⟨d, e, rfl, hd, he⟩ := List.map_eq_cons_iff.mp hb
      exact ⟨d, hd, by rw [List.map_eq_nil_iff.mp he]⟩
    rw [(fold_eq_iff (by decide)).mp hd]
    exact ⟨w, by rw [List.append_assoc, List.singleton_append], hw⟩
  · rintro ⟨w, rfl, hw⟩
    refine ⟨w ++ [' '], by rw [List.append_assoc, List.singleton_append], ?_⟩
    rw [List.map_append, hw]
    rfl

/-- Where a text is cut at a phrase, the phrase stands. -/
theorem append_of_splitAtPhrase {before : Text} (h : splitAtPhrase phrase t = some (before, rest)) :
    ∃ w, t = before ++ (w ++ rest) ∧ w.map fold = phrase := by
  induction t generalizing before with
  | nil => cases h
  | cons c t ih =>
      rw [splitAtPhrase] at h
      split at h
      · next hdrop =>
        cases h
        exact dropPhrase_eq_some_iff.mp hdrop
      · obtain ⟨⟨before, rest⟩, hsplit, hparts⟩ := Option.map_eq_some_iff.mp h
        cases hparts
        obtain ⟨w, rfl, hw⟩ := ih hsplit
        exact ⟨w, rfl, hw⟩

/-- A character at which a phrase does not stand is passed over. -/
theorem splitAtPhrase_cons {c : Char} (h : dropPhrase phrase (c :: t) = none) :
    splitAtPhrase phrase (c :: t) =
      (splitAtPhrase phrase t).map fun parts => (c :: parts.1, parts.2) := by
  rw [splitAtPhrase, h]

end Text

namespace Verb

/-! ## Verbs -/

variable {v r t w : Text}

/-- A word is made of letters, at least one, and is not `ON`. -/
theorem isWord_iff : isWord w = true ↔
    w ≠ [] ∧ (∀ c ∈ w, Text.isLetter c = true) ∧ isOn w = false := by
  simp [isWord, and_assoc]

/-- A verb is made of words with single spaces between them. -/
theorem isVerb_iff : isVerb t = true ↔ ∀ w ∈ Text.splitBy ' ' t, isWord w = true := by
  simp [isVerb]

/-- A word has no spaces in it. -/
theorem not_blank_mem_of_isWord (h : isWord w = true) : ' ' ∉ w := by
  intro hmem
  have hletter := (isWord_iff.mp h).2.1 ' ' hmem
  exact absurd hletter (by decide)

/-- The word `ON` with the blanks around it. -/
theorem dropPhrase_on_eq_some_iff :
    Text.dropPhrase " ON ".toList t = some r ↔ ∃ o, isOn o = true ∧ t = ' ' :: (o ++ ' ' :: r) := by
  rw [show " ON ".toList = " ON".toList ++ [' '] from rfl, Text.dropPhrase_blank_eq_some_iff]
  constructor
  · rintro ⟨u, rfl, hu⟩
    obtain ⟨b, o, rfl, hb, ho⟩ := List.map_eq_cons_iff.mp hu
    rw [(Text.fold_eq_iff (by decide)).mp hb]
    exact ⟨o, by rw [isOn, Text.isPhrase, ho]; rfl, rfl⟩
  · rintro ⟨o, ho, rfl⟩
    refine ⟨' ' :: o, rfl, ?_⟩
    rw [List.map_cons, eq_of_beq ho]
    rfl

/-- The word `ON` has no spaces in it. -/
theorem not_blank_mem_of_isOn (h : isOn w = true) : ' ' ∉ w := by
  intro hmem
  have hfold : Text.fold ' ' ∈ "ON".toList := eq_of_beq h ▸ List.mem_map_of_mem hmem
  exact absurd hfold (by decide)

/-- A word is passed over on the way to the first `ON`. -/
theorem splitAtPhrase_word_append (h : ' ' ∉ w) :
    Text.splitAtPhrase " ON ".toList (w ++ t) =
      (Text.splitAtPhrase " ON ".toList t).map fun parts => (w ++ parts.1, parts.2) := by
  induction w with
  | nil => simp
  | cons c w ih =>
      rw [List.mem_cons, not_or] at h
      have hdrop : Text.dropPhrase " ON ".toList (c :: (w ++ t)) = none := by
        rw [Option.eq_none_iff_forall_ne_some]
        intro r hr
        obtain ⟨o, -, heq⟩ := dropPhrase_on_eq_some_iff.mp hr
        exact h.1 (List.cons.inj heq).1.symm
      rw [List.cons_append, Text.splitAtPhrase_cons hdrop, ih h.2, Option.map_map]
      rfl

/-- Words without blanks that begin texts which go on with a blank are equal if the texts are. -/
theorem word_eq_of_append_eq {o x y : Text} (hw : ' ' ∉ w) (ho : ' ' ∉ o)
    (h : w ++ ' ' :: x = o ++ ' ' :: y) : w = o := by
  have hwords := congrArg (Text.splitBy ' ') h
  rw [Text.splitBy_append, Text.splitBy_append, Text.splitBy_of_not_mem hw,
    Text.splitBy_of_not_mem ho] at hwords
  exact (List.cons.inj hwords).1

/-- Before a word of a verb there is no `ON`. -/
theorem dropPhrase_on_word (h : isWord w = true) :
    Text.dropPhrase " ON ".toList (' ' :: (w ++ ' ' :: t)) = none := by
  rw [Option.eq_none_iff_forall_ne_some]
  intro r hr
  obtain ⟨o, ho, heq⟩ := dropPhrase_on_eq_some_iff.mp hr
  have hsame := word_eq_of_append_eq (not_blank_mem_of_isWord h) (not_blank_mem_of_isOn ho)
    (List.cons.inj heq).2
  rw [hsame, isWord_iff, ho] at h
  exact absurd h.2.2 (by decide)

/-- The first `ON` after a row of words is the one that follows them. -/
theorem splitAtPhrase_words_append {o : Text} (ho : isOn o = true) (ws : List Text)
    (hne : ws ≠ []) (hws : ∀ w ∈ ws, isWord w = true) :
    Text.splitAtPhrase " ON ".toList (Text.join [' '] ws ++ ' ' :: (o ++ ' ' :: r)) =
      some (Text.join [' '] ws, r) := by
  induction ws with
  | nil => exact absurd rfl hne
  | cons w ws ih =>
      have hw := not_blank_mem_of_isWord (hws w List.mem_cons_self)
      cases ws with
      | nil =>
          have hhere : Text.splitAtPhrase " ON ".toList (' ' :: (o ++ ' ' :: r)) = some ([], r) := by
            rw [Text.splitAtPhrase, dropPhrase_on_eq_some_iff.mpr ⟨o, ho, rfl⟩]
          rw [Text.join_singleton, splitAtPhrase_word_append hw, hhere]
          simp
      | cons w' ws =>
          have hrest := ih (List.cons_ne_nil _ _) fun v hv => hws v (List.mem_cons_of_mem _ hv)
          -- the next word is not `ON`, so the blank before it is passed over
          have hdrop : Text.dropPhrase " ON ".toList
              (' ' :: (Text.join [' '] (w' :: ws) ++ ' ' :: (o ++ ' ' :: r))) = none := by
            obtain ⟨rest, hword⟩ := Text.exists_join_append ' ' w' ws (o ++ ' ' :: r)
            rw [hword]
            exact dropPhrase_on_word (hws w' (List.mem_cons_of_mem _ List.mem_cons_self))
          rw [Text.join_cons_cons, List.append_assoc, List.cons_append,
            splitAtPhrase_word_append hw, Text.splitAtPhrase_cons hdrop, hrest]
          rfl

/-- The verb of a text is a verb before a word `ON`. -/
theorem splitOn_eq_some_iff :
    splitOn t = some (v, r) ↔
      isVerb v = true ∧ ∃ o, isOn o = true ∧ t = v ++ ' ' :: (o ++ ' ' :: r) := by
  unfold splitOn
  constructor
  · intro h
    split at h
    · next verb rest hsplit =>
      split at h
      · next hverb =>
        cases h
        obtain ⟨w, rfl, hw⟩ := Text.append_of_splitAtPhrase hsplit
        obtain ⟨o, ho, heq⟩ := dropPhrase_on_eq_some_iff.mp
          (Text.dropPhrase_eq_some_iff.mpr ⟨w, rfl, hw⟩)
        exact ⟨hverb, o, ho, by rw [heq]⟩
      · cases h
    · cases h
  · rintro ⟨hverb, o, ho, rfl⟩
    have hsplit := splitAtPhrase_words_append (r := r) ho (Text.splitBy ' ' v)
      (Text.splitBy_ne_nil ' ' v) (isVerb_iff.mp hverb)
    rw [Text.join_splitBy] at hsplit
    rw [hsplit]
    exact if_pos hverb

/-- A text is a verb if it is read as one. -/
theorem isVerb_map_fold (t : Text) : isVerb (t.map Text.fold) = isVerb t := by
  have hword : ∀ w : Text, isWord (w.map Text.fold) = isWord w := by
    intro w
    have hfold : (w.map Text.fold).map Text.fold = w.map Text.fold := by
      simp [Function.comp_def]
    simp only [isWord, isOn, Text.isPhrase, hfold, List.all_map, Function.comp_def, Text.isLetter,
      Text.fold_fold]
    cases w <;> rfl
  rw [isVerb, isVerb, Text.splitBy_map_fold, List.all_map]
  simp only [Function.comp_def, hword]

/-- A phrase with `ON` in it stands at the head of a text only if the text has a verb, the verb is
what stands before `ON` in the phrase, and what stands after it follows. -/
theorem splitOn_of_dropPhrase {verb phrase : Text} (hverb : isVerb verb = true)
    (h : Text.dropPhrase (verb ++ (" ON ".toList ++ phrase)) t = some r) :
    ∃ v rest, splitOn t = some (v, rest) ∧ v.map Text.fold = verb ∧
      Text.dropPhrase phrase rest = some r := by
  obtain ⟨w, rfl, hw⟩ := Text.dropPhrase_eq_some_iff.mp h
  obtain ⟨v, y, rfl, hv, hy⟩ := List.map_eq_append_iff.mp hw
  obtain ⟨on, z, rfl, hon, hz⟩ := List.map_eq_append_iff.mp hy
  obtain ⟨o, ho, heq⟩ := dropPhrase_on_eq_some_iff.mp
    (Text.dropPhrase_eq_some_iff.mpr ⟨on, rfl, hon⟩ :
      Text.dropPhrase " ON ".toList (on ++ (z ++ r)) = some (z ++ r))
  refine ⟨v, z ++ r, splitOn_eq_some_iff.mpr ⟨?_, o, ho, ?_⟩, hv,
    Text.dropPhrase_eq_some_iff.mpr ⟨z, rfl, hz⟩⟩
  · rw [← isVerb_map_fold, hv, hverb]
  · rw [List.append_assoc, List.append_assoc, heq]

/-- A verb consists of letters and blanks. -/
theorem isLetter_or_blank (h : isVerb t = true) {c : Char} (hc : c ∈ t) :
    Text.isLetter c = true ∨ c = ' ' := by
  rcases Text.exists_mem_splitBy (c := ' ') hc with hblank | ⟨w, hw, hcw⟩
  · exact .inr hblank
  · exact .inl ((isWord_iff.mp (isVerb_iff.mp h w hw)).2.1 c hcw)

/-- Up to the rest of a text after its verb there are letters and blanks. -/
theorem exists_append_of_splitOn (h : splitOn t = some (v, r)) :
    ∃ front, t = front ++ r ∧ ∀ c ∈ front, Text.isLetter c = true ∨ c = ' ' := by
  obtain ⟨hverb, o, ho, rfl⟩ := splitOn_eq_some_iff.mp h
  have hword : ∀ c ∈ o, Text.isLetter c = true := by
    intro c hc
    rcases hletter : Text.isLetter c with _ | _
    · have hfold : Text.fold c ∈ "ON".toList := eq_of_beq ho ▸ List.mem_map_of_mem hc
      rw [Text.fold_of_not_isLetter hletter] at hfold
      have hall : "ON".toList.all Text.isLetter = true := by decide
      rw [List.all_eq_true.mp hall _ hfold] at hletter
      cases hletter
    · rfl
  refine ⟨v ++ ' ' :: (o ++ [' ']), by simp, fun c hc => ?_⟩
  simp only [List.mem_append, List.mem_cons, List.not_mem_nil, or_false] at hc
  rcases hc with hc | rfl | hc | rfl
  · exact isLetter_or_blank hverb hc
  · exact .inr rfl
  · exact .inl (hword c hc)
  · exact .inr rfl

/-- A verb with a word `ON` after it is no verb as a whole. -/
theorem isVerb_eq_false_of_splitOn (h : splitOn t = some (v, r)) : isVerb t = false := by
  obtain ⟨-, o, ho, rfl⟩ := splitOn_eq_some_iff.mp h
  rw [Bool.eq_false_iff]
  intro hverb
  have hmem : o ∈ Text.splitBy ' ' (v ++ ' ' :: (o ++ ' ' :: r)) := by
    rw [Text.splitBy_append, Text.splitBy_append, Text.splitBy_of_not_mem (not_blank_mem_of_isOn ho)]
    simp
  have hword := isWord_iff.mp (isVerb_iff.mp hverb o hmem)
  rw [hword.2.2] at ho
  cases ho

/-- A line feed at the end does not matter to the verb of a text. -/
theorem splitOn_dropFinalNewline (h : splitOn t = some (v, r)) :
    splitOn (Text.dropFinalNewline t) = some (v, Text.dropFinalNewline r) := by
  obtain ⟨hverb, o, ho, rfl⟩ := splitOn_eq_some_iff.mp h
  refine splitOn_eq_some_iff.mpr ⟨hverb, o, ho, ?_⟩
  have happend : v ++ ' ' :: (o ++ ' ' :: r) = (v ++ ' ' :: o) ++ ' ' :: r := by simp
  rw [happend, Text.dropFinalNewline_append_cons (by decide)]
  simp

/-! ## Verbs in upper case -/

/-- A verb as it is stored, in upper case. -/
structure IsStored (t : Text) : Prop where
  verb : isVerb t = true
  upper : Text.upper t = t

/-- The upper case of a verb is stored. -/
theorem isStored_upper (h : isVerb t = true) : IsStored (Text.upper t) := by
  refine ⟨?_, Text.upper_upper t⟩
  rw [← isVerb_map_fold, Text.map_fold_upper, isVerb_map_fold, h]

/-! ## Verbs in canonical form -/

/-- One or more words of the letters `A` to `Z` with single spaces between them, none of them
`ON`. -/
def IsCanonical (t : Text) : Prop :=
  ∀ w ∈ Text.splitBy ' ' t, w ≠ [] ∧ (∀ c ∈ w, c.isUpper = true) ∧ w ≠ "ON".toList

-- the words are finite lists, and characters are not gone through one by one
instance (t : Text) : Decidable (IsCanonical t) :=
  decidable_of_iff ((Text.splitBy ' ' t).all fun w => w != [] && w.all Char.isUpper &&
    w != "ON".toList) (by simp [IsCanonical, and_assoc])

namespace IsCanonical

/-- A canonical verb consists of capitals and blanks. -/
theorem isUpper_or_blank (h : IsCanonical t) {c : Char} (hc : c ∈ t) :
    c.isUpper = true ∨ c = ' ' := by
  rcases Text.exists_mem_splitBy (c := ' ') hc with hblank | ⟨w, hw, hcw⟩
  · exact .inr hblank
  · exact .inl ((h w hw).2.1 c hcw)

/-- A canonical verb is read as it is. -/
theorem map_fold (h : IsCanonical t) : t.map Text.fold = t := by
  refine (List.map_congr_left fun c hc => ?_).trans (List.map_id t)
  rcases h.isUpper_or_blank hc with hupper | rfl
  · exact Text.fold_of_isUpper hupper
  · rfl

/-- A canonical verb is stored as it is. -/
theorem upper_eq (h : IsCanonical t) : Text.upper t = t := by
  refine (List.map_congr_left fun c hc => ?_).trans (List.map_id t)
  rcases h.isUpper_or_blank hc with hupper | rfl
  · exact Text.capital_of_isUpper hupper
  · rfl

/-- A canonical verb is read as a verb. -/
theorem isVerb (h : IsCanonical t) : isVerb t = true := by
  refine isVerb_iff.mpr fun w hw => ?_
  obtain ⟨hne, hupper, hon⟩ := h w hw
  refine isWord_iff.mpr ⟨hne, fun c hc => ?_, ?_⟩
  · exact Text.isLetter_of_isAlpha (Text.isAlpha_of_isUpper (hupper c hc))
  · rw [isOn, Text.isPhrase, Text.map_fold_of_upper hupper]
    exact beq_eq_false_iff_ne.mpr hon

/-- A canonical verb is in upper case. -/
theorem isStored (h : IsCanonical t) : IsStored t := ⟨h.isVerb, h.upper_eq⟩

end IsCanonical

end Verb

end AccessGrants
