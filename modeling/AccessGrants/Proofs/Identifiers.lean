import AccessGrants.Proofs.Phrases

/-!
# Identifiers are read back

An identifier is read as it is written, by itself and before a dot, and what is read is an identifier
that stands there.

* `Identifier.IsPlainName` and `Identifier.IsCanonical` are the canonical forms: plain, or quoted when
  quotes are needed.
* `Identifier.IsAlphabet` is what the readers ask of a class of letters, `Identifier.IsWritten` the
  identifiers that may be written with it, `Identifier.IsStored` those that are stored.
  `Identifier.IsPath` and `Identifier.IsStoredPath` are the same for one identifier or two.
* `Identifier.read_enquote`, `Identifier.canonical_enquote`: any name between quotes.
* `Identifier.isCanonical_quote`: the identifier of a name is canonical.
* `Identifier.IsWritten.read_append`, `Identifier.IsWritten.whole_eq`,
  `Identifier.IsWritten.qualified_eq`: the readers on identifiers that are written.
* `Identifier.isWritten_of_read`, `Identifier.isWritten_of_whole`,
  `Identifier.isWritten_of_qualified`: what the readers read.
* `Identifier.quote_injective`: different names have different identifiers.
-/

namespace AccessGrants

namespace Identifier

/-- An ASCII letter or a low line, then letters, digits and low lines. -/
def IsPlainName : Text → Prop
  | [] => False
  | c :: r => (c.isAlpha = true ∨ c = '_') ∧ ∀ d ∈ r, d.isAlphanum = true ∨ d = '_'

instance : (t : Text) → Decidable (IsPlainName t)
  | [] => inferInstanceAs (Decidable False)
  | c :: r => decidable_of_iff ((c.isAlpha || c == '_') && r.all fun d => d.isAlphanum || d == '_')
      (by simp [IsPlainName])

/-- A plain identifier, or a quoted name that is not empty and needs its quotes. -/
inductive IsCanonical : Text → Prop
  | plain {t : Text} (h : IsPlainName t) : IsCanonical t
  | quoted {name : Text} (hne : name ≠ []) (hquotes : isPlain name = false) :
    IsCanonical (enquote name)

/-- A plain upper-case name with nothing after it. -/
def IsUpperName (name : Text) : Prop :=
  isPlain name = true ∧ '\n' ∉ name

instance (name : Text) : Decidable (IsUpperName name) :=
  inferInstanceAs (Decidable (_ ∧ _))

/-- A class of letters that identifiers are written with: the ASCII letters and perhaps others, but
no quote, no dot and no blank. -/
structure IsAlphabet (letter : Char → Bool) : Prop where
  ascii : ∀ c, c.isAlpha = true → letter c = true
  other : ∀ c, letter c = true → c ≠ '"' ∧ c ≠ '.' ∧ Text.isBlank c = false

/-- A letter or a low line, then letters, digits and low lines. -/
def IsPlainOver (letter : Char → Bool) : Text → Prop
  | [] => False
  | c :: r => (letter c = true ∨ c = '_') ∧ ∀ d ∈ r, isNameChar letter d = true

/-- An identifier as it may be written: plain, or any name but the empty one between quotes. -/
inductive IsWritten (letter : Char → Bool) : Text → Prop
  | plain {t : Text} (h : IsPlainOver letter t) : IsWritten letter t
  | quoted {name : Text} (hne : name ≠ []) : IsWritten letter (enquote name)

/-- An identifier as it is stored: written without needless quotes. -/
structure IsStored (letter : Char → Bool) (i : Text) : Prop where
  written : IsWritten letter i
  canonical : canonical i = i

/-- One identifier, or two with a dot between them, as they may be written. -/
def IsPath (letter : Char → Bool) (t : Text) : Prop :=
  IsWritten letter t ∨ ∃ i j, IsWritten letter i ∧ IsWritten letter j ∧ t = i ++ '.' :: j

/-- One identifier, or two with a dot between them, as they are stored. -/
def IsStoredPath (letter : Char → Bool) (t : Text) : Prop :=
  IsStored letter t ∨ ∃ i j, IsStored letter i ∧ IsStored letter j ∧ t = i ++ '.' :: j

/-- A path that is stored is one that may be written. -/
theorem IsStoredPath.isPath {letter : Char → Bool} {t : Text} (h : IsStoredPath letter t) :
    IsPath letter t := by
  rcases h with hi | ⟨i, j, hi, hj, rfl⟩
  · exact .inl hi.written
  · exact .inr ⟨i, j, hi.written, hj.written, rfl⟩

/-! ## Quoted names -/

variable {name rest t : Text}

/-- Doubling the quotes of a name that is not empty does not make it so. -/
theorem doubleQuotes_ne_nil (h : name ≠ []) : doubleQuotes name ≠ [] := by
  cases name with
  | nil => exact absurd rfl h
  | cons c r =>
      rw [doubleQuotes]
      split <;> exact List.cons_ne_nil _ _

/-- A name without quotes stands between quotes as it is. -/
theorem doubleQuotes_of_not_mem (h : '"' ∉ name) : doubleQuotes name = name := by
  induction name with
  | nil => rfl
  | cons c r ih =>
      rw [List.mem_cons, not_or] at h
      rw [doubleQuotes, if_neg (Ne.symm h.1), ih h.2]

/-- Doubling the quotes of a name brings in no other characters. -/
theorem mem_doubleQuotes {c : Char} : c ∈ doubleQuotes name ↔ c ∈ name := by
  induction name with
  | nil => rfl
  | cons d r ih =>
      rw [doubleQuotes]
      split
      · next hd =>
        rw [List.mem_cons, List.mem_cons, List.mem_cons, ih, hd]
        exact or_self_left
      · rw [List.mem_cons, List.mem_cons, ih]

/-- Between the quotes stand the characters of the name. -/
theorem mem_of_mem_enquote {c : Char} (hquote : c ≠ '"') (h : c ∈ enquote name) : c ∈ name := by
  rw [enquote, List.mem_append, List.mem_cons, List.mem_singleton] at h
  rcases h with (h | h) | h
  · exact absurd h hquote
  · exact mem_doubleQuotes.mp h
  · exact absurd h hquote

/-- So it is with the identifier of a name, whether it has quotes or not. -/
theorem mem_of_mem_quote {c : Char} (hquote : c ≠ '"') (h : c ∈ quote name) : c ∈ name := by
  unfold quote at h
  split at h
  · exact h
  · exact mem_of_mem_enquote hquote h

/-- A name is known by its text with the quotes doubled. -/
theorem doubleQuotes_injective {other : Text} (h : doubleQuotes name = doubleQuotes other) :
    name = other := by
  induction name generalizing other with
  | nil =>
      cases other with
      | nil => rfl
      | cons d q => exact absurd h.symm (doubleQuotes_ne_nil (List.cons_ne_nil _ _))
  | cons c r ih =>
      cases other with
      | nil => exact absurd h (doubleQuotes_ne_nil (List.cons_ne_nil _ _))
      | cons d q =>
          rw [doubleQuotes, doubleQuotes] at h
          split at h <;> split at h
          · next hc hd => rw [hc, hd, ih (List.cons.inj (List.cons.inj h).2).2]
          · next hd => exact absurd (List.cons.inj h).1.symm hd
          · next hc _ => exact absurd (List.cons.inj h).1 hc
          · rw [(List.cons.inj h).1, ih (List.cons.inj h).2]

/-- The inside of a quoted name is read up to its closing quote. -/
theorem readQuoted_doubleQuotes (h : rest.head? ≠ some '"') :
    readQuoted (doubleQuotes name ++ '"' :: rest) = some (doubleQuotes name, rest) := by
  induction name with
  | nil =>
      cases rest with
      | nil => simp [readQuoted]
      | cons c r =>
          have hc : c ≠ '"' := fun hc => h (by rw [hc]; rfl)
          rw [doubleQuotes_nil, List.nil_append, readQuoted]
          · simp
          · intro r' _ hr
            exact hc (List.cons.inj hr).1
  | cons c r ih =>
      rw [doubleQuotes]
      split
      · rw [List.cons_append, List.cons_append, readQuoted, ih]
        rfl
      · next hc =>
        rw [List.cons_append, readQuoted, ih]
        · simp [hc]
        · intro r' hr
          exact absurd hr hc

/-! ## Names that need no quotes -/

/-- A plain upper-case name has no other characters, but for a line feed at its end. -/
theorem isPlainRest_of_mem {c : Char} (h : isPlain name = true) (hc : c ∈ name) :
    isPlainRest c = true ∨ c = '\n' := by
  refine (Text.mem_dropFinalNewline hc).imp_left fun hmem => ?_
  unfold isPlain at h
  split at h
  · cases h
  · next d r heq =>
    rw [heq] at hmem
    rw [Bool.and_eq_true, List.all_eq_true] at h
    rcases List.mem_cons.mp hmem with rfl | hmem
    · exact Bool.or_eq_true_iff.mpr (.inl h.1)
    · exact h.2 c hmem

/-- A plain upper-case name has no quotes in it. -/
theorem not_quote_mem_of_isPlain (h : isPlain name = true) : '"' ∉ name := by
  intro hmem
  rcases isPlainRest_of_mem h hmem with hrest | hline
  · exact absurd hrest (by decide)
  · exact absurd hline (by decide)

/-- Doubled quotes do not make a name plain. -/
theorem isPlain_doubleQuotes (name : Text) : isPlain (doubleQuotes name) = isPlain name := by
  by_cases hquote : '"' ∈ name
  · have hname : ¬ isPlain name = true := fun h => not_quote_mem_of_isPlain h hquote
    have hdoubled : ¬ isPlain (doubleQuotes name) = true :=
      fun h => not_quote_mem_of_isPlain h (mem_doubleQuotes.mpr hquote)
    rw [Bool.eq_false_iff.mpr hname, Bool.eq_false_iff.mpr hdoubled]
  · rw [doubleQuotes_of_not_mem hquote]

/-- Between the outer quotes of a quoted name stands the name with its quotes doubled. -/
theorem inner?_enquote (name : Text) : inner? (enquote name) = some (doubleQuotes name) := by
  simp [inner?, enquote]

/-- A quoted name loses the quotes that it does not need. -/
theorem canonical_enquote (name : Text) : canonical (enquote name) = quote name := by
  unfold canonical quote
  rw [inner?_enquote]
  dsimp only
  rw [isPlain_doubleQuotes]
  split
  · next h => exact doubleQuotes_of_not_mem (not_quote_mem_of_isPlain h)
  · rfl

/-- Without needless quotes an identifier has no other characters. -/
theorem mem_of_mem_canonical {c : Char} (h : c ∈ canonical t) : c ∈ t := by
  unfold canonical at h
  split at h
  · next name hinner =>
    split at h
    · unfold inner? at hinner
      split at hinner
      · cases hinner
      · split at hinner
        · cases hinner
          exact List.mem_cons_of_mem _ (List.dropLast_subset _ h)
        · cases hinner
    · exact h
  · exact h

/-- A plain name is no name between quotes. -/
theorem ne_enquote_of_isPlain {other : Text} (h : isPlain name = true) : name ≠ enquote other := by
  rintro rfl
  exact not_quote_mem_of_isPlain h List.mem_cons_self

/-- A name is known by what it is between quotes. -/
theorem enquote_injective {other : Text} (h : enquote name = enquote other) : name = other :=
  doubleQuotes_injective (List.append_cancel_right (List.cons.inj h).2)

/-- An identifier that is a name between quotes is that name. -/
theorem eq_of_quote_eq_enquote {other : Text} (h : quote name = enquote other) : name = other := by
  unfold quote at h
  split at h
  · next hplain => exact absurd h (ne_enquote_of_isPlain hplain)
  · exact enquote_injective h

/-- Different names have different identifiers. -/
theorem quote_injective {other : Text} (h : quote name = quote other) : name = other := by
  by_cases hplain : isPlain other = true
  · have hother : quote other = other := if_pos hplain
    rw [hother] at h
    unfold quote at h
    split at h
    · exact h
    · exact absurd h.symm (ne_enquote_of_isPlain hplain)
  · have hother : quote other = enquote other := if_neg hplain
    rw [hother] at h
    exact eq_of_quote_eq_enquote h

/-! ## Alphabets -/

section alphabet

variable {letter : Char → Bool} {i j : Text}

/-- A character of a plain identifier is neither a quote nor a dot nor a blank. -/
theorem IsAlphabet.nameChar (hletter : IsAlphabet letter) {c : Char}
    (h : isNameChar letter c = true) : c ≠ '"' ∧ c ≠ '.' ∧ Text.isBlank c = false := by
  unfold isNameChar at h
  rw [Bool.or_eq_true, Bool.or_eq_true, beq_iff_eq] at h
  rcases h with (h | h) | rfl
  · exact hletter.other c h
  · refine ⟨?_, ?_, Text.isBlank_of_isAlphanum (Text.isAlphanum_of_isDigit h)⟩
    · rintro rfl
      exact absurd h (by decide)
    · rintro rfl
      exact absurd h (by decide)
  · decide

/-- The ASCII letters are an alphabet. -/
theorem isAlphabet_ascii : IsAlphabet isAsciiLetter := by
  refine ⟨fun c hc => hc, fun c hc => ⟨?_, ?_, ?_⟩⟩
  · rintro rfl
    exact absurd hc (by decide)
  · rintro rfl
    exact absurd hc (by decide)
  · exact Text.isBlank_of_isAlphanum (Text.isAlphanum_of_isAlpha hc)

/-- A plain identifier by its first character and the others. -/
theorem IsPlainOver.exists_cons (h : IsPlainOver letter t) :
    ∃ c r, t = c :: r ∧ (letter c = true ∨ c = '_') ∧ ∀ d ∈ r, isNameChar letter d = true := by
  cases t with
  | nil => exact h.elim
  | cons c r => exact ⟨c, r, rfl, h⟩

/-- A plain identifier is not empty. -/
theorem IsPlainOver.ne_nil (h : IsPlainOver letter t) : t ≠ [] := by
  rintro rfl
  exact h

/-- A plain identifier consists of letters, digits and low lines. -/
theorem IsPlainOver.nameChar (h : IsPlainOver letter t) {c : Char} (hc : c ∈ t) :
    isNameChar letter c = true := by
  obtain ⟨d, r, rfl, hd, hr⟩ := h.exists_cons
  rcases List.mem_cons.mp hc with rfl | hc
  · rcases hd with hd | rfl
    · simp [isNameChar, hd]
    · simp [isNameChar]
  · exact hr c hc

/-- A plain identifier has neither quotes nor dots nor blanks. -/
theorem IsPlainOver.solid (hletter : IsAlphabet letter) (h : IsPlainOver letter t) {c : Char}
    (hc : c ∈ t) : c ≠ '"' ∧ c ≠ '.' ∧ Text.isBlank c = false :=
  hletter.nameChar (h.nameChar hc)

/-- A plain identifier is one word. -/
theorem IsPlainOver.not_blank_mem (hletter : IsAlphabet letter) (h : IsPlainOver letter t) :
    ' ' ∉ t := by
  intro hmem
  exact absurd (h.solid hletter hmem).2.2 (by decide)

/-! ## Reading what is written -/

/-- A quoted name is read up to its closing quote. -/
theorem read_enquote (hne : name ≠ []) (hrest : rest.head? ≠ some '"') :
    read letter (enquote name ++ rest) = some (enquote name, rest) := by
  obtain ⟨d, inside, hd⟩ := List.exists_cons_of_ne_nil (doubleQuotes_ne_nil hne)
  have hread : readQuoted (doubleQuotes name ++ '"' :: rest) = some (d :: inside, rest) := by
    rw [readQuoted_doubleQuotes hrest, hd]
  have hshape : enquote name ++ rest = '"' :: (doubleQuotes name ++ '"' :: rest) := by
    rw [enquote, List.append_assoc, List.cons_append, List.singleton_append]
  rw [hshape, read, if_pos rfl, hread, enquote, hd]

/-- An identifier is read up to its end, if what follows cannot belong to it. -/
theorem IsWritten.read_append (hletter : IsAlphabet letter) (h : IsWritten letter i)
    (hrest : ∀ c ∈ rest.head?, isNameChar letter c = false ∧ c ≠ '"') :
    read letter (i ++ rest) = some (i, rest) := by
  cases h with
  | plain h =>
      have hquote := fun c hc => (h.solid hletter (c := c) hc).1
      obtain ⟨c, r, rfl, hc, hr⟩ := h.exists_cons
      have hstart : (letter c || c == '_') = true := by
        rw [Bool.or_eq_true, beq_iff_eq]
        exact hc
      obtain ⟨htake, hdrop⟩ := Text.cut_while hr fun d hd => (hrest d hd).1
      rw [List.cons_append, read, if_neg (hquote c List.mem_cons_self), if_pos hstart, htake, hdrop]
  | quoted hne => exact read_enquote hne fun hhead => (hrest _ hhead).2 rfl

/-- An identifier is read to the end of a text. -/
theorem IsWritten.read_self (hletter : IsAlphabet letter) (h : IsWritten letter i) :
    read letter i = some (i, []) := by
  have hread : read letter (i ++ []) = some (i, []) := h.read_append hletter nofun
  rwa [List.append_nil] at hread

/-- An identifier is read up to a dot. -/
theorem IsWritten.read_dot (hletter : IsAlphabet letter) (h : IsWritten letter i) (u : Text) :
    read letter (i ++ '.' :: u) = some (i, '.' :: u) := by
  apply h.read_append hletter
  intro c hc
  rw [List.head?_cons, Option.mem_some] at hc
  rw [← hc, Bool.eq_false_iff]
  exact ⟨fun hchar => (hletter.nameChar hchar).2.1 rfl, by decide⟩

/-- An identifier is read as a whole. -/
theorem IsWritten.whole_eq (hletter : IsAlphabet letter) (h : IsWritten letter i) :
    whole letter i = some i := by
  rw [whole, h.read_self hletter]
  rfl

/-- A line feed after an identifier is overlooked. -/
theorem IsWritten.whole_append_newline (hletter : IsAlphabet letter) (h : IsWritten letter i) :
    whole letter (i ++ ['\n']) = some i := by
  have hnewline : isNameChar letter '\n' = false := by
    rw [Bool.eq_false_iff]
    intro hchar
    exact absurd (hletter.nameChar hchar).2.2 (by decide)
  have hread : read letter (i ++ ['\n']) = some (i, ['\n']) := by
    refine h.read_append hletter fun c hc => ?_
    rw [List.head?_cons, Option.mem_some] at hc
    rw [← hc]
    exact ⟨hnewline, by decide⟩
  rw [whole, hread]
  rfl

/-- Two identifiers are read on both sides of their dot. -/
theorem IsWritten.qualified_eq (hletter : IsAlphabet letter) (hi : IsWritten letter i)
    (hj : IsWritten letter j) : qualified letter (i ++ '.' :: j) = some (i, j) := by
  simp only [qualified, hi.read_dot hletter, hj.whole_eq hletter, Option.map_some]

/-- One identifier is not two. -/
theorem IsWritten.qualified_eq_none (hletter : IsAlphabet letter) (h : IsWritten letter i) :
    qualified letter i = none := by
  rw [qualified, h.read_self hletter]

/-- Two identifiers with a dot between them are not one. -/
theorem IsWritten.not_isWritten_append (hletter : IsAlphabet letter) (hi : IsWritten letter i)
    (hj : IsWritten letter j) : ¬ IsWritten letter (i ++ '.' :: j) := by
  intro h
  have hnone := h.qualified_eq_none hletter
  rw [hi.qualified_eq hletter hj] at hnone
  cases hnone

/-! ## What is read -/

/-- What stands inside the quotes is a name with its quotes doubled. -/
theorem eq_of_readQuoted {inside : Text} (h : readQuoted t = some (inside, rest)) :
    ∃ name, inside = doubleQuotes name ∧ t = doubleQuotes name ++ '"' :: rest := by
  induction t using readQuoted.induct generalizing inside with
  | case1 => cases h
  | case2 r ih =>
      rw [readQuoted] at h
      obtain ⟨⟨inside, rest⟩, hread, hparts⟩ := Option.map_eq_some_iff.mp h
      cases hparts
      obtain ⟨name, rfl, rfl⟩ := ih hread
      exact ⟨'"' :: name, by simp [doubleQuotes]⟩
  | case3 r hr =>
      rw [readQuoted, if_pos rfl] at h
      · cases h
        exact ⟨[], rfl, rfl⟩
      · exact hr
  | case4 c r hr hc ih =>
      rw [readQuoted, if_neg hc] at h
      · obtain ⟨⟨inside, rest⟩, hread, hparts⟩ := Option.map_eq_some_iff.mp h
        cases hparts
        obtain ⟨name, rfl, rfl⟩ := ih hread
        exact ⟨c :: name, by simp [doubleQuotes, hc]⟩
      · exact fun r' heq => absurd heq hc

/-- What is read off a text is an identifier at its head. -/
theorem isWritten_of_read (h : read letter t = some (i, rest)) :
    IsWritten letter i ∧ t = i ++ rest := by
  cases t with
  | nil => cases h
  | cons c r =>
      rw [read] at h
      split at h
      · next hc =>
        split at h
        · next d inside rest' hquoted =>
          cases h
          obtain ⟨name, hname, rfl⟩ := eq_of_readQuoted hquoted
          have hshape : '"' :: d :: inside ++ ['"'] = enquote name := by
            rw [enquote, ← hname]
          rw [hshape, hc]
          refine ⟨.quoted ?_, by simp [enquote]⟩
          rintro rfl
          cases hname
        · cases h
      · split at h
        · next hstart =>
          cases h
          rw [Bool.or_eq_true, beq_iff_eq] at hstart
          refine ⟨.plain ⟨hstart, fun d hd => List.mem_takeWhile_imp hd⟩, ?_⟩
          rw [List.cons_append, List.takeWhile_append_dropWhile]
        · cases h

/-- What is read as a whole is read at the beginning, and the text is at its end there. -/
theorem exists_read_of_whole (h : whole letter t = some i) :
    ∃ rest, read letter t = some (i, rest) ∧ Text.atEnd rest = true := by
  unfold whole at h
  split at h
  · next rest hread =>
    split at h
    · next hend =>
      cases h
      exact ⟨rest, hread, hend⟩
    · cases h
  · cases h

/-- Of two identifiers the first is read at the beginning, and the second is all that follows the
dot. -/
theorem exists_read_of_qualified (h : qualified letter t = some (i, j)) :
    ∃ rest, read letter t = some (i, '.' :: rest) ∧ whole letter rest = some j := by
  unfold qualified at h
  split at h
  · next rest hread =>
    obtain ⟨name, hwhole, hparts⟩ := Option.map_eq_some_iff.mp h
    cases hparts
    exact ⟨rest, hread, hwhole⟩
  · cases h

/-- What is read as a whole is an identifier with nothing after it but perhaps a line feed. -/
theorem isWritten_of_whole (h : whole letter t = some i) :
    IsWritten letter i ∧ (t = i ∨ t = i ++ ['\n']) := by
  obtain ⟨rest, hread, hend⟩ := exists_read_of_whole h
  obtain ⟨hi, rfl⟩ := isWritten_of_read hread
  refine ⟨hi, ?_⟩
  rcases Bool.or_eq_true_iff.mp hend with hnil | hline
  · rw [eq_of_beq hnil, List.append_nil]
    exact .inl rfl
  · rw [eq_of_beq hline]
    exact .inr rfl

/-- What is read as two identifiers are identifiers with a dot between them. -/
theorem isWritten_of_qualified (h : qualified letter t = some (i, j)) :
    IsWritten letter i ∧ IsWritten letter j ∧
      (t = i ++ '.' :: j ∨ t = i ++ '.' :: (j ++ ['\n'])) := by
  obtain ⟨rest, hread, hwhole⟩ := exists_read_of_qualified h
  obtain ⟨hi, rfl⟩ := isWritten_of_read hread
  obtain ⟨hj, rfl | rfl⟩ := isWritten_of_whole hwhole
  · exact ⟨hi, hj, .inl rfl⟩
  · exact ⟨hi, hj, .inr rfl⟩

/-- The characters of an identifier that is read stand in the text. -/
theorem mem_of_whole {c : Char} (h : whole letter t = some i) (hc : c ∈ canonical i) : c ∈ t := by
  have hi := mem_of_mem_canonical hc
  obtain ⟨-, rfl | rfl⟩ := isWritten_of_whole h
  · exact hi
  · exact List.mem_append_left _ hi

/-- So do those of two identifiers, and the dot between them. -/
theorem mem_of_qualified {c : Char} (h : qualified letter t = some (i, j))
    (hc : c ∈ canonical i ++ '.' :: canonical j) : c ∈ t := by
  have hboth : c ∈ i ++ '.' :: j := by
    rw [List.mem_append, List.mem_cons] at hc ⊢
    exact hc.imp mem_of_mem_canonical (Or.imp_right mem_of_mem_canonical)
  obtain ⟨-, -, rfl | rfl⟩ := isWritten_of_qualified h
  · exact hboth
  · rw [← List.cons_append, ← List.append_assoc]
    exact List.mem_append_left _ hboth

/-! ## Canonical identifiers -/

/-- What is left of a plain upper-case name without the line feed that is overlooked is one. -/
theorem isUpperName_dropFinalNewline (h : isPlain name = true) :
    IsUpperName (Text.dropFinalNewline name) := by
  have hline : '\n' ∉ Text.dropFinalNewline name := by
    intro hmem
    unfold isPlain at h
    split at h
    · cases h
    · next c r heq =>
      rw [heq] at hmem
      rw [Bool.and_eq_true, List.all_eq_true] at h
      rcases List.mem_cons.mp hmem with rfl | hmem
      · exact absurd h.1 (by decide)
      · exact absurd (h.2 _ hmem) (by decide)
  refine ⟨?_, hline⟩
  rw [isPlain, Text.dropFinalNewline_of_not_mem hline]
  exact h

/-- A line feed after a plain upper-case name is overlooked. -/
theorem IsUpperName.isPlain_append_newline (h : IsUpperName name) :
    isPlain (name ++ ['\n']) = true := by
  obtain ⟨hplain, hline⟩ := h
  rw [isPlain, Text.dropFinalNewline_of_not_mem hline] at hplain
  rw [isPlain, Text.dropFinalNewline_append_newline]
  exact hplain

/-- A plain upper-case name is a plain identifier. -/
theorem IsUpperName.isPlainName (h : IsUpperName name) : IsPlainName name := by
  have hstart : ∀ c, isPlainStart c = true → c.isAlpha = true ∨ c = '_' := by
    intro c hc
    rcases Bool.or_eq_true_iff.mp hc with hupper | hlow
    · exact .inl (Text.isAlpha_of_isUpper hupper)
    · exact .inr (eq_of_beq hlow)
  have hrest : ∀ c, isPlainRest c = true → c.isAlphanum = true ∨ c = '_' := by
    intro c hc
    rcases Bool.or_eq_true_iff.mp hc with hc | hdigit
    · exact (hstart c hc).imp_left Text.isAlphanum_of_isAlpha
    · exact .inl (Text.isAlphanum_of_isDigit hdigit)
  obtain ⟨hplain, hline⟩ := h
  rw [isPlain, Text.dropFinalNewline_of_not_mem hline] at hplain
  split at hplain
  · cases hplain
  · next c r =>
    rw [Bool.and_eq_true, List.all_eq_true] at hplain
    exact ⟨hstart c hplain.1, fun d hd => hrest d (hplain.2 d hd)⟩

/-- The identifier of a name is canonical, if the name is on one line. -/
theorem isCanonical_quote (hne : name ≠ []) (hline : '\n' ∉ name) : IsCanonical (quote name) := by
  unfold quote
  split
  · next hplain => exact .plain (IsUpperName.isPlainName ⟨hplain, hline⟩)
  · next hquotes => exact .quoted hne (Bool.eq_false_iff.mpr hquotes)

/-- A plain identifier of ASCII may be written with every alphabet. -/
theorem IsPlainName.isPlainOver (hletter : IsAlphabet letter) (h : IsPlainName t) :
    IsPlainOver letter t := by
  cases t with
  | nil => exact h
  | cons c r =>
      refine ⟨h.1.imp_left (hletter.ascii c), fun d hd => ?_⟩
      rcases h.2 d hd with hd | rfl
      · rcases Bool.or_eq_true_iff.mp hd with hd | hd
        · simp [isNameChar, hletter.ascii d hd]
        · simp [isNameChar, hd]
      · simp [isNameChar]

/-- A canonical identifier may be written with every alphabet. -/
theorem IsCanonical.isWritten (hletter : IsAlphabet letter) (h : IsCanonical i) :
    IsWritten letter i := by
  cases h with
  | plain h => exact .plain (h.isPlainOver hletter)
  | quoted hne => exact .quoted hne

/-- A plain identifier has no quotes to lose. -/
theorem IsPlainOver.canonical_eq (hletter : IsAlphabet letter) (h : IsPlainOver letter i) :
    canonical i = i := by
  have hquote := fun c hc => (h.solid hletter (c := c) hc).1
  obtain ⟨c, r, rfl, -⟩ := h.exists_cons
  simp [canonical, inner?, hquote c List.mem_cons_self]

/-- A canonical identifier has no needless quotes. -/
theorem IsCanonical.canonical_eq (h : IsCanonical i) : canonical i = i := by
  cases h with
  | plain h => exact (h.isPlainOver isAlphabet_ascii).canonical_eq isAlphabet_ascii
  | quoted hne hquotes => rw [canonical_enquote, quote, hquotes, if_neg (by decide)]

/-- A canonical identifier is stored as it is. -/
theorem IsCanonical.isStored (hletter : IsAlphabet letter) (h : IsCanonical i) :
    IsStored letter i := ⟨h.isWritten hletter, h.canonical_eq⟩

/-- A canonical identifier is read as a whole. -/
theorem IsCanonical.whole_eq (hletter : IsAlphabet letter) (h : IsCanonical i) :
    whole letter i = some i :=
  (h.isWritten hletter).whole_eq hletter

end alphabet

end Identifier

end AccessGrants
