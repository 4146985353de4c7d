import AccessGrants.Proofs.Phrases

/-!
# The option of a grant string

An option is the last three words of a grant string. It is cut off exactly where it stands, and a
text whose last words are no option keeps them.

* `GrantOption.suffixWord?_eq_some_iff`: the texts that are an option in any letter case.
* `GrantOption.cutSuffix_eq_some_iff`: where an option is cut off.
* `GrantOption.split_append_suffix`: the option of a grant string of one line.
* `GrantOption.split_eq_ok_some_iff` and its companions: when a text is split, and when it is not.
* `GrantOption.split_of_words`: no option without its words; `GrantOption.eq_of_split_none`: and no
  words without their option.
* `GrantOption.line_of_split`: an option is split off one line.
-/

namespace AccessGrants

namespace GrantOption

variable {t body before w : Text}

/-! ## The suffix -/

/-- The words of an option. -/
def words (o : GrantOption) : List Text :=
  ["WITH".toList, o.word, "OPTION".toList]

/-- An option as it is written has three words. -/
theorem splitBy_suffix (o : GrantOption) : Text.splitBy ' ' o.suffix = o.words := by
  cases o <;> decide

/-- A word that passes for one of an option is that of an option in any letter case. -/
theorem isPhrase_or_iff : (Text.isPhrase (word .admin) w || Text.isPhrase (word .grant) w) = true ↔
    ∃ o : GrantOption, w.map Text.fold = o.word := by
  simp only [Text.isPhrase, Bool.or_eq_true, beq_iff_eq]
  constructor
  · rintro (h | h)
    · exact ⟨.admin, h⟩
    · exact ⟨.grant, h⟩
  · rintro ⟨_ | _, h⟩
    · exact .inl h
    · exact .inr h

/-- A text is an option in any letter case if its parts fold onto the wording of one. -/
theorem suffixWord?_eq_some_iff :
    suffixWord? t = some w ↔ ∃ (o : GrantOption) (x y : Text), t = x ++ (w ++ y) ∧
      x.map Text.fold = "WITH ".toList ∧ w.map Text.fold = o.word ∧
      y.map Text.fold = " OPTION".toList := by
  unfold suffixWord?
  constructor
  · intro h
    split at h
    · cases h
    · next rest hdrop =>
      obtain ⟨x, rfl, hx⟩ := Text.dropPhrase_eq_some_iff.mp hdrop
      dsimp only at h
      split at h
      · next hphrase =>
        cases h
        rw [Bool.and_eq_true, isPhrase_or_iff] at hphrase
        obtain ⟨⟨o, ho⟩, hoption⟩ := hphrase
        exact ⟨o, x, rest.drop 5, by rw [List.take_append_drop], hx, ho, eq_of_beq hoption⟩
      · cases h
  · rintro ⟨o, x, y, rfl, hx, ho, hy⟩
    have hlength : w.length = 5 := by
      rw [← List.length_map Text.fold, ho]
      cases o <;> rfl
    have hphrase : (Text.isPhrase (word .admin) w || Text.isPhrase (word .grant) w) = true :=
      isPhrase_or_iff.mpr ⟨o, ho⟩
    have hoption : Text.isPhrase " OPTION".toList y = true := by
      rw [Text.isPhrase, hy]
      exact beq_self_eq_true _
    rw [Text.dropPhrase_eq_some_iff.mpr ⟨x, rfl, hx⟩]
    dsimp only
    rw [List.take_left' hlength, List.drop_left' hlength, hphrase, hoption]
    rfl

/-- The whole text folds onto the wording, then. -/
theorem map_fold_of_suffixWord? (h : suffixWord? t = some w) :
    ∃ o : GrantOption, t.map Text.fold = o.suffix := by
  obtain ⟨o, x, y, rfl, hx, ho, hy⟩ := suffixWord?_eq_some_iff.mp h
  refine ⟨o, ?_⟩
  rw [List.map_append, List.map_append, hx, ho, hy, suffix, List.append_assoc]

/-- All options are of one length. -/
theorem length_of_suffixWord? (h : suffixWord? t = some w) : t.length = 17 := by
  obtain ⟨o, hfold⟩ := map_fold_of_suffixWord? h
  rw [← List.length_map Text.fold, hfold]
  cases o <;> rfl

/-- An option is cut off where it stands. -/
theorem cutSuffix_eq_some_iff :
    cutSuffix t = some (before, w) ↔ ∃ s, t = before ++ s ∧ suffixWord? s = some w := by
  induction t generalizing before with
  | nil =>
      constructor
      · nofun
      · rintro ⟨s, hs, hword⟩
        obtain ⟨-, rfl⟩ := List.nil_eq_append_iff.mp hs
        cases hword
  | cons c r ih =>
      rw [cutSuffix]
      constructor
      · intro h
        split at h
        · next hword =>
          cases h
          exact ⟨c :: r, rfl, hword⟩
        · obtain ⟨⟨before, w⟩, hcut, hparts⟩ := Option.map_eq_some_iff.mp h
          cases hparts
          obtain ⟨s, rfl, hword⟩ := ih.mp hcut
          exact ⟨s, rfl, hword⟩
      · rintro ⟨s, hs, hword⟩
        cases before with
        | nil =>
            rw [List.nil_append] at hs
            rw [hs, hword]
        | cons d before =>
            -- a longer text is no option
            have hnone : suffixWord? (c :: r) = none := by
              rw [Option.eq_none_iff_forall_ne_some]
              intro v hv
              have hlong := length_of_suffixWord? hv
              have hshort := length_of_suffixWord? hword
              rw [hs, List.length_append, List.length_cons, hshort] at hlong
              omega
            rw [List.cons_append, List.cons.injEq] at hs
            rw [hnone, hs.1, ih.mpr ⟨s, hs.2, hword⟩]
            rfl

/-! ## Splitting -/

/-- What stands before an option is its body and a space, or nothing. -/
theorem eq_of_body? (h : body? before = some body) :
    '\n' ∉ body ∧ (before = body ++ [' '] ∨ before = [] ∧ body = []) := by
  unfold body? at h
  split at h
  · next hnil =>
    cases h
    exact ⟨List.not_mem_nil, .inr ⟨hnil, rfl⟩⟩
  · split at h
    · next hblank =>
      cases h
      obtain ⟨front, rfl⟩ := List.getLast?_eq_some_iff.mp hblank.1
      rw [List.dropLast_concat]
      exact ⟨fun hmem => hblank.2 (List.mem_append_left _ hmem), .inl rfl⟩
    · cases h

/-- An option at the end of a text is cut off if the text has one line only. -/
theorem cut_append_suffix (body : Text) (o : GrantOption) :
    cut (body ++ ' ' :: o.suffix) =
      if '\n' ∈ body then (body ++ ' ' :: o.suffix, none) else (body, some o.word) := by
  have hlast : (body ++ ' ' :: o.suffix).getLast? ≠ some '\n' := by
    have hend : (' ' :: o.suffix).getLast? = some 'N' := by
      cases o <;> decide
    rw [List.getLast?_append, hend, Option.some_or]
    decide
  have hword : suffixWord? o.suffix = some o.word := by
    cases o <;> decide
  have hcut : cutSuffix (body ++ ' ' :: o.suffix) = some (body ++ [' '], o.word) :=
    cutSuffix_eq_some_iff.mpr ⟨o.suffix, by rw [List.append_assoc, List.singleton_append], hword⟩
  have hbody : body? (body ++ [' ']) = if '\n' ∈ body then none else some body := by
    unfold body?
    rw [if_neg (by simp)]
    simp
  unfold cut
  rw [Text.dropFinalNewline_eq_self hlast, hcut]
  dsimp only
  rw [hbody]
  by_cases hline : '\n' ∈ body
  · rw [if_pos hline, if_pos hline]
  · rw [if_neg hline, if_neg hline]

/-- The option of a grant string of one line is split off. -/
theorem split_append_suffix (o : GrantOption) (hline : '\n' ∉ body) :
    split (body ++ ' ' :: o.suffix) = .ok (body, some o) := by
  have hupper : Text.upper o.word = o.word := by
    cases o <;> decide
  unfold split
  rw [cut_append_suffix, if_neg hline]
  dsimp only
  rw [hupper, ofWord?_word]

/-- The option of a grant string of several lines is not. -/
theorem split_append_suffix_of_mem (o : GrantOption) (hline : '\n' ∈ body) :
    split (body ++ ' ' :: o.suffix) = .ok (body ++ ' ' :: o.suffix, none) := by
  rw [split, cut_append_suffix, if_pos hline]

/-- A text of which the last words are no option has none. -/
theorem split_of_words (hline : t.getLast? ≠ some '\n')
    (hwords : ∀ o : GrantOption, ¬ o.words <:+ (Text.splitBy ' ' t).map (List.map Text.fold)) :
    split t = .ok (t, none) := by
  suffices hcut : cut t = (t, none) by rw [split, hcut]
  unfold cut
  rw [Text.dropFinalNewline_eq_self hline]
  split
  · rfl
  · next before w hcut =>
    split
    · rfl
    · next body hbody =>
      obtain ⟨s, rfl, hword⟩ := cutSuffix_eq_some_iff.mp hcut
      obtain ⟨o, hsuffix⟩ := map_fold_of_suffixWord? hword
      refine absurd ?_ (hwords o)
      rw [← Text.splitBy_map_fold, List.map_append, hsuffix]
      obtain ⟨-, rfl | ⟨rfl, -⟩⟩ := eq_of_body? hbody
      · rw [List.map_append, List.append_assoc, List.map_cons, List.map_nil,
          List.singleton_append, show Text.fold ' ' = ' ' from rfl, Text.splitBy_append,
          splitBy_suffix]
        exact List.suffix_append _ _
      · exact ⟨[], (splitBy_suffix o).symm⟩

/-! ## What is split off -/

/-- Each option has its own word. -/
theorem ofWord?_eq_some_iff {o : GrantOption} : ofWord? w = some o ↔ w = o.word := by
  constructor
  · intro h
    unfold ofWord? at h
    split at h
    · next hadmin =>
      cases h
      exact hadmin
    · split at h
      · next hgrant =>
        cases h
        exact hgrant
      · cases h
  · rintro rfl
    exact ofWord?_word o

/-- A text has no option exactly if none is cut off it. -/
theorem split_eq_ok_none_iff : split t = .ok (body, none) ↔ cut t = (body, none) := by
  unfold split
  rcases cut t with ⟨other, _ | w⟩
  · simp
  · dsimp only
    split <;> simp

/-- A text has an option exactly if its word is cut off in some letter case. -/
theorem split_eq_ok_some_iff {o : GrantOption} :
    split t = .ok (body, some o) ↔ ∃ w, cut t = (body, some w) ∧ Text.upper w = o.word := by
  unfold split
  rcases cut t with ⟨other, _ | w⟩
  · simp
  · rcases hword : ofWord? (Text.upper w) with _ | o'
    · dsimp only
      rw [hword]
      constructor
      · nofun
      · rintro ⟨_, ⟨⟩, hupper⟩
        rw [hupper, ofWord?_word] at hword
        cases hword
    · dsimp only
      rw [hword]
      constructor
      · rintro ⟨⟩
        exact ⟨w, rfl, ofWord?_eq_some_iff.mp hword⟩
      · rintro ⟨_, ⟨⟩, hupper⟩
        rw [hupper, ofWord?_word] at hword
        cases hword
        rfl

/-- A text is not split if its last words are read as those of an option but are stored otherwise. -/
theorem split_eq_error_iff {word : Text} : split t = .error word ↔
    ∃ body w, cut t = (body, some w) ∧ word = Text.upper w ∧ ofWord? word = none := by
  unfold split
  rcases cut t with ⟨other, _ | w⟩
  · simp
  · rcases hword : ofWord? (Text.upper w) with _ | o
    · dsimp only
      rw [hword]
      constructor
      · rintro ⟨⟩
        exact ⟨other, w, rfl, rfl, hword⟩
      · rintro ⟨_, _, ⟨⟩, rfl, -⟩
        rfl
    · dsimp only
      rw [hword]
      constructor
      · nofun
      · rintro ⟨_, _, ⟨⟩, rfl, hnone⟩
        rw [hword] at hnone
        cases hnone

/-- What is cut off a text are letters and blanks. -/
theorem exists_append_of_cut {w : Option Text} (h : cut t = (body, w)) :
    ∃ z, t = body ++ z ∧ ∀ c ∈ z, Text.isLetter c = true ∨ c = ' ' ∨ c = '\n' := by
  unfold cut at h
  split at h
  · cases h
    exact ⟨[], (List.append_nil t).symm, nofun⟩
  · next before v hcut =>
    split at h
    · cases h
      exact ⟨[], (List.append_nil t).symm, nofun⟩
    · next hbody =>
      cases h
      obtain ⟨s, hs, hword⟩ := cutSuffix_eq_some_iff.mp hcut
      obtain ⟨o, hfold⟩ := map_fold_of_suffixWord? hword
      have hchars : ∀ c ∈ s, Text.isLetter c = true ∨ c = ' ' ∨ c = '\n' := by
        intro c hc
        rcases hletter : Text.isLetter c with _ | _
        · have hmem : c ∈ o.suffix := by
            rw [← hfold, ← Text.fold_of_not_isLetter hletter]
            exact List.mem_map_of_mem hc
          have hall : o.suffix.all (fun d => Text.isLetter d || d == ' ') = true := by
            cases o <;> decide
          have hchar := List.all_eq_true.mp hall c hmem
          rw [hletter, Bool.false_or, beq_iff_eq] at hchar
          exact .inr (.inl hchar)
        · exact .inl rfl
      -- a line feed at the end is cut off as well
      obtain ⟨e, he, hend⟩ : ∃ e, t = Text.dropFinalNewline t ++ e ∧ ∀ c ∈ e, c = '\n' := by
        rcases Text.eq_or_eq_append_of_dropFinalNewline t with heq | heq
        · exact ⟨[], by rw [List.append_nil]; exact heq, nofun⟩
        · exact ⟨['\n'], heq, by simp⟩
      obtain ⟨-, rfl | ⟨rfl, rfl⟩⟩ := eq_of_body? hbody
      · refine ⟨' ' :: (s ++ e), by rw [he, hs]; simp, fun c hc => ?_⟩
        rcases List.mem_cons.mp hc with rfl | hc
        · exact .inr (.inl rfl)
        · exact (List.mem_append.mp hc).elim (hchars c) fun hc => .inr (.inr (hend c hc))
      · refine ⟨s ++ e, by rw [he, hs]; simp, fun c hc => ?_⟩
        exact (List.mem_append.mp hc).elim (hchars c) fun hc => .inr (.inr (hend c hc))

/-- What is split off a text are letters and blanks. -/
theorem exists_append_of_split {option : Option GrantOption} (h : split t = .ok (body, option)) :
    ∃ z, t = body ++ z ∧ ∀ c ∈ z, Text.isLetter c = true ∨ c = ' ' ∨ c = '\n' := by
  cases option with
  | none => exact exists_append_of_cut (split_eq_ok_none_iff.mp h)
  | some o =>
      obtain ⟨w, hcut, -⟩ := split_eq_ok_some_iff.mp h
      exact exists_append_of_cut hcut

/-- What is cut off a text is an option at its end, after a space or as the whole text, and there is
one line before it. -/
theorem cut_eq_some_iff_of_end (hend : t.getLast? ≠ some '\n') : cut t = (body, some w) ↔
    '\n' ∉ body ∧ ∃ s, suffixWord? s = some w ∧ (t = body ++ ' ' :: s ∨ body = [] ∧ t = s) := by
  unfold cut
  rw [Text.dropFinalNewline_eq_self hend]
  constructor
  · intro h
    split at h
    · cases h
    · next before v hcut =>
      obtain ⟨s, rfl, hword⟩ := cutSuffix_eq_some_iff.mp hcut
      split at h
      · cases h
      · next hbody =>
        cases h
        obtain ⟨hline, rfl | ⟨rfl, rfl⟩⟩ := eq_of_body? hbody
        · exact ⟨hline, s, hword, .inl (by simp)⟩
        · exact ⟨hline, s, hword, .inr ⟨rfl, rfl⟩⟩
  · rintro ⟨hline, s, hword, rfl | ⟨rfl, rfl⟩⟩
    · have hcut : cutSuffix (body ++ ' ' :: s) = some (body ++ [' '], w) :=
        cutSuffix_eq_some_iff.mpr ⟨s, by simp, hword⟩
      have hfront : '\n' ∉ body ++ [' '] := by
        simpa using hline
      rw [hcut]
      dsimp only
      rw [body?, if_neg (by simp), if_pos ⟨by simp, hfront⟩, List.dropLast_concat]
    · have hcut : cutSuffix t = some ([], w) := cutSuffix_eq_some_iff.mpr ⟨t, rfl, hword⟩
      rw [hcut]
      rfl

/-- What is cut off a line is an option at its end, after a space or as the whole line. -/
theorem cut_eq_some_iff (hline : '\n' ∉ t) : cut t = (body, some w) ↔
    ∃ s, suffixWord? s = some w ∧ (t = body ++ ' ' :: s ∨ body = [] ∧ t = s) := by
  rw [cut_eq_some_iff_of_end fun hend => hline (List.mem_of_getLast? hend)]
  refine and_iff_right_of_imp ?_
  rintro ⟨s, -, rfl | ⟨rfl, -⟩⟩
  · exact fun hmem => hline (List.mem_append_left _ hmem)
  · exact List.not_mem_nil

/-- A text of which no option is cut off is left as it is. -/
theorem eq_of_cut_none (h : cut t = (body, none)) : body = t := by
  unfold cut at h
  split at h
  · cases h
    rfl
  · split at h
    · cases h
      rfl
    · cases h

/-- A body whose option is split off is on one line. -/
theorem line_of_split {o : GrantOption} (h : split t = .ok (body, some o)) : '\n' ∉ body := by
  obtain ⟨w, hcut, -⟩ := split_eq_ok_some_iff.mp h
  unfold cut at hcut
  split at hcut
  · cases hcut
  · split at hcut
    · cases hcut
    · next hbody =>
      cases hcut
      exact (eq_of_body? hbody).1

/-- What is split off a text is an option at its end, after a space or as the whole text. -/
theorem exists_suffix_of_split {o : GrantOption} (hend : t.getLast? ≠ some '\n')
    (h : split t = .ok (body, some o)) :
    ∃ s, s.map Text.fold = o.suffix ∧ (t = body ++ ' ' :: s ∨ body = [] ∧ t = s) := by
  obtain ⟨w, hcut, hupper⟩ := split_eq_ok_some_iff.mp h
  obtain ⟨-, s, hword, hshape⟩ := (cut_eq_some_iff_of_end hend).mp hcut
  obtain ⟨o', x, y, rfl, hx, ho, hy⟩ := suffixWord?_eq_some_iff.mp hword
  -- the word is read as it is stored
  have hsame : w.map Text.fold = o.word := by
    rw [← Text.map_fold_upper, hupper]
    cases o <;> decide
  refine ⟨_, ?_, hshape⟩
  rw [List.map_append, List.map_append, hx, hsame, hy, suffix, List.append_assoc]

/-- An option after one line is split off. -/
theorem eq_of_split_append {v s : Text} {o : GrantOption} {option : Option GrantOption}
    (hline : '\n' ∉ v) (hs : s.map Text.fold = o.suffix)
    (h : split (v ++ ' ' :: s) = .ok (body, option)) : body = v ∧ option = some o := by
  rw [suffix, List.append_assoc] at hs
  obtain ⟨x, z, rfl, hx, hz⟩ := List.map_eq_append_iff.mp hs
  obtain ⟨w, y, rfl, hw, hy⟩ := List.map_eq_append_iff.mp hz
  have hword : suffixWord? (x ++ (w ++ y)) = some w :=
    suffixWord?_eq_some_iff.mpr ⟨o, x, y, rfl, hx, hw, hy⟩
  have hfeed : '\n' ∉ v ++ ' ' :: (x ++ (w ++ y)) := by
    have hrest : '\n' ∉ x ++ (w ++ y) := by
      intro hmem
      have hfold := List.mem_map_of_mem (f := Text.fold) hmem
      rw [hs] at hfold
      cases o <;> exact absurd hfold (by decide)
    simp only [List.mem_append, List.mem_cons] at hrest ⊢
    rintro (hmem | hmem | hmem)
    · exact hline hmem
    · exact absurd hmem (by decide)
    · exact hrest hmem
  have hcut : cut (v ++ ' ' :: (x ++ (w ++ y))) = (v, some w) :=
    (cut_eq_some_iff hfeed).mpr ⟨_, hword, .inl rfl⟩
  cases option with
  | none =>
      rw [split_eq_ok_none_iff, hcut] at h
      cases h
  | some o' =>
      obtain ⟨w', hcut', hupper⟩ := split_eq_ok_some_iff.mp h
      rw [hcut, Prod.mk.injEq, Option.some.injEq] at hcut'
      obtain ⟨rfl, rfl⟩ := hcut'
      refine ⟨rfl, ?_⟩
      rw [← Text.map_fold_upper, hupper] at hw
      revert hw
      cases o <;> cases o' <;> decide

/-- The words of an option at the end of a line are cut off. -/
theorem exists_cut_of_words {o : GrantOption} (hline : '\n' ∉ Text.dropFinalNewline t)
    (h : o.words <:+ (Text.splitBy ' ' (Text.dropFinalNewline t)).map (List.map Text.fold)) :
    ∃ body w, cut t = (body, some w) := by
  generalize hu : Text.dropFinalNewline t = u at h hline
  obtain ⟨front, hfront⟩ := h
  obtain ⟨ws, vs, hwords, -, hvs⟩ := List.map_eq_append_iff.mp hfront.symm
  obtain ⟨a, vs, rfl, ha, hvs⟩ := List.map_eq_cons_iff.mp hvs
  obtain ⟨w, vs, rfl, hw, hvs⟩ := List.map_eq_cons_iff.mp hvs
  obtain ⟨c, vs, rfl, hc, hvs⟩ := List.map_eq_cons_iff.mp hvs
  rw [List.map_eq_nil_iff.mp hvs] at hwords
  have hsuffix : suffixWord? (a ++ ' ' :: (w ++ ' ' :: c)) = some w := by
    refine suffixWord?_eq_some_iff.mpr ⟨o, a ++ [' '], ' ' :: c, by simp, ?_, hw, ?_⟩
    · rw [List.map_append, ha]
      rfl
    · rw [List.map_cons, hc]
      rfl
  have hjoin : Text.join [' '] [a, w, c] = a ++ ' ' :: (w ++ ' ' :: c) := by
    rw [Text.join_cons_cons, Text.join_cons_cons, Text.join_singleton]
  -- what stands before the option is nothing, or words and a blank
  obtain ⟨before, body, hbefore, hbody⟩ : ∃ before body,
      u = before ++ (a ++ ' ' :: (w ++ ' ' :: c)) ∧ body? before = some body := by
    rw [← Text.join_splitBy ' ' u, hwords] at hline ⊢
    cases ws with
    | nil => exact ⟨[], [], by rw [List.nil_append, List.nil_append, hjoin], rfl⟩
    | cons v ws =>
        rw [Text.join_append ' ' (List.cons_ne_nil v ws) (List.cons_ne_nil a _), hjoin] at hline ⊢
        refine ⟨Text.join [' '] (v :: ws) ++ [' '], Text.join [' '] (v :: ws), by simp, ?_⟩
        have hfirst : '\n' ∉ Text.join [' '] (v :: ws) ++ [' '] := by
          intro hmem
          rw [List.mem_append, List.mem_singleton] at hmem
          rcases hmem with hmem | hmem
          · exact hline (List.mem_append_left _ hmem)
          · exact absurd hmem (by decide)
        unfold body?
        rw [if_neg (by simp), if_pos ⟨by simp, hfirst⟩, List.dropLast_concat]
  refine ⟨body, w, ?_⟩
  have hcut : cutSuffix u = some (before, w) := cutSuffix_eq_some_iff.mpr ⟨_, hbefore, hsuffix⟩
  unfold cut
  rw [hu, hcut]
  dsimp only
  rw [hbody]

/-- A text that is not split is its own body, and it does not end with the words of an option. -/
theorem eq_of_split_none (h : split t = .ok (body, none)) :
    body = t ∧ ('\n' ∉ Text.dropFinalNewline t → ∀ o : GrantOption,
      ¬ o.words <:+ (Text.splitBy ' ' (Text.dropFinalNewline t)).map (List.map Text.fold)) := by
  have hcut := split_eq_ok_none_iff.mp h
  refine ⟨eq_of_cut_none hcut, fun hline o hwords => ?_⟩
  obtain ⟨_, _, hsome⟩ := exists_cut_of_words hline hwords
  rw [hcut] at hsome
  cases hsome

end GrantOption

end AccessGrants
