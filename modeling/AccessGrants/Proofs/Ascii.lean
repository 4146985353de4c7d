import AccessGrants.Proofs.CanonicalForms
import AccessGrants.Proofs.CanonicalLayout

/-!
# Grants in ASCII

Where a grant string has only characters of ASCII outside its quoted spans, the letters that are read
are the ASCII letters, and their upper case is that of ASCII.

* `Text.AsciiOutside`: the texts that have only characters of ASCII outside their quoted spans.
* `Text.Spells`: a phrase in any letter case. `Text.Spells.map_fold`, `Text.spells_of_map_fold`: it is
  read so.
* `Verb.IsWritten`, `Identifier.Denotes`: verbs and identifiers of ASCII letters.
* `Form.readTarget_eq_some_iff`, `Form.readVerb_eq_some_iff`, `Form.readIdentifier_eq_some_iff`,
  `Form.readQualified_eq_some_iff`: the parts of a body are read exactly as they are written.
-/

namespace AccessGrants

namespace Text

variable {t u phrase : Text} {c : Char}

/-! ## Characters -/

/-- In ASCII a character is compared by its capital. -/
theorem fold_of_ascii (h : c.toNat < 128) : fold c = c.toUpper :=
  of_ascii (P := fun c => fold c = c.toUpper) (by decide) h

/-- In ASCII the stored capital is the ASCII one. -/
theorem capital_of_ascii (h : c.toNat < 128) : capital c = c.toUpper :=
  of_ascii (P := fun c => capital c = c.toUpper) (by decide) h

/-- In ASCII the letters that are read are the ASCII letters. -/
theorem isLetter_of_ascii (h : c.toNat < 128) : isLetter c = c.isAlpha :=
  of_ascii (P := fun c => isLetter c = c.isAlpha) (by decide) h

/-- Only a character of ASCII has an upper case there. -/
theorem ascii_of_toUpper (h : c.toUpper.toNat < 128) : c.toNat < 128 := by
  by_cases hlower : c.isLower = true
  · exact ascii_of_isAlphanum (isAlphanum_of_isAlpha (Bool.or_eq_true_iff.mpr (.inr hlower)))
  · rwa [toUpper_of_not_isLower hlower] at h

/-! ## Texts -/

/-- A text has only characters of ASCII. -/
def IsAscii (t : Text) : Prop := ∀ c ∈ t, c.toNat < 128

instance (t : Text) : Decidable (IsAscii t) :=
  List.decidableBAll (fun c : Char => c.toNat < 128) t

/-- A text has only characters of ASCII outside its quoted spans. -/
def AsciiOutside (t : Text) : Prop := ∀ c, OutOfSpans c t → c.toNat < 128

instance (t : Text) : Decidable (AsciiOutside t) :=
  decidable_of_iff ((marked false t).all fun mark => mark.2 || decide (mark.1.toNat < 128))
    (by simp [AsciiOutside, OutOfSpans])

/-- A text is a phrase of capitals and blanks in any letter case. -/
def Spells (phrase t : Text) : Prop := t.map Char.toUpper = phrase

instance (phrase t : Text) : Decidable (Spells phrase t) :=
  inferInstanceAs (Decidable (_ = _))

/-- A text of ASCII is compared by its capitals. -/
theorem map_fold_of_ascii (h : IsAscii t) : t.map fold = t.map Char.toUpper :=
  List.map_congr_left fun c hc => fold_of_ascii (h c hc)

/-- A text of ASCII is stored in ASCII capitals. -/
theorem upper_of_ascii (h : IsAscii t) : upper t = t.map Char.toUpper :=
  List.map_congr_left fun c hc => capital_of_ascii (h c hc)

/-- A phrase of ASCII is spelled in ASCII. -/
theorem Spells.isAscii (hphrase : IsAscii phrase) (h : Spells phrase t) : IsAscii t := fun _ hc =>
  ascii_of_toUpper (hphrase _ (h ▸ List.mem_map_of_mem hc))

/-- A phrase in any letter case is read as such. -/
theorem Spells.map_fold (hphrase : IsAscii phrase) (h : Spells phrase t) : t.map fold = phrase := by
  rw [map_fold_of_ascii (h.isAscii hphrase)]
  exact h

/-- In ASCII only a phrase in any letter case is read as such. -/
theorem spells_of_map_fold (ht : IsAscii t) (h : t.map fold = phrase) : Spells phrase t := by
  rwa [map_fold_of_ascii ht] at h

/-- A character of a phrase that is no letter is written as it is. -/
theorem Spells.mem (hc : c.toUpper = c) (h : Spells phrase t) (hmem : c ∈ t) : c ∈ phrase := by
  rw [← h, ← hc]
  exact List.mem_map_of_mem hmem

/-! ## Outside the spans -/

/-- What stands before the first quote is in ASCII, and so is what stands outside the spans after
it. -/
theorem asciiOutside_append (hu : '"' ∉ u) :
    AsciiOutside (u ++ t) ↔ IsAscii u ∧ AsciiOutside t := by
  simp only [AsciiOutside, OutOfSpans, IsAscii, marked_append_of_not_mem false hu, List.mem_append,
    List.mem_map, Prod.mk.injEq, and_true, exists_eq_right]
  exact ⟨fun h => ⟨fun c hc => h c (.inl hc), fun c hc => h c (.inr hc)⟩,
    fun h c hc => hc.elim (h.1 c) (h.2 c)⟩

/-- So it is with what stands after the last quote. -/
theorem asciiOutside_append_right (hu : '"' ∉ u) :
    AsciiOutside (t ++ u) ↔ AsciiOutside t ∧ IsAscii u := by
  simp only [AsciiOutside, OutOfSpans, IsAscii,
    marked_false_append_right hu, List.mem_append, List.mem_map, Prod.mk.injEq,
    and_true, exists_eq_right]
  exact ⟨fun h => ⟨fun c hc => h c (.inl hc), fun c hc => h c (.inr hc)⟩,
    fun h c hc => hc.elim (h.1 c) (h.2 c)⟩

/-- A quoted name does not matter. -/
theorem asciiOutside_enquote_append {name : Text} :
    AsciiOutside (Identifier.enquote name ++ t) ↔ AsciiOutside t := by
  have hname : ∀ c, (c, false) ∉ (Identifier.enquote name).map fun d => (d, true) := by simp
  simp only [AsciiOutside, OutOfSpans, marked_enquote_append, List.mem_append, hname, false_or]

/-- A quoted name has nothing outside its spans, so that nothing there is beyond ASCII. -/
theorem asciiOutside_enquote (name : Text) : AsciiOutside (Identifier.enquote name) := by
  rw [← List.append_nil (Identifier.enquote name), asciiOutside_enquote_append]
  nofun

/-- A text without quotes stands outside of all spans. -/
theorem asciiOutside_iff_isAscii (ht : '"' ∉ t) : AsciiOutside t ↔ IsAscii t := by
  have hall : AsciiOutside (t ++ []) ↔ IsAscii t ∧ AsciiOutside [] := asciiOutside_append ht
  rw [List.append_nil] at hall
  rw [hall, and_iff_left]
  nofun

/-- The normal layout of a text is as much in ASCII as the text. -/
theorem AsciiOutside.normalize (h : AsciiOutside t) : AsciiOutside (Layout.normalize t) := by
  intro c hc
  rcases (Layout.isNormalForm_normalize t).outOfSpans hc with rfl | ⟨-, hc⟩
  · decide
  · exact h c hc

end Text

open Text

/-! ## Verbs and identifiers -/

/-- One or more words of ASCII letters with single spaces between them, none of them `ON` in any letter
case. -/
def Verb.IsWritten (t : Text) : Prop :=
  ∀ w ∈ splitBy ' ' t, w ≠ [] ∧ (∀ c ∈ w, c.isAlpha = true) ∧ ¬ Spells "ON".toList w

instance (t : Text) : Decidable (Verb.IsWritten t) :=
  decidable_of_iff ((splitBy ' ' t).all fun w => w != [] && w.all Char.isAlpha &&
    !decide (Spells "ON".toList w)) (by simp [Verb.IsWritten, and_assoc])

/-- An identifier of ASCII, and what is stored of it: a quoted name loses the quotes that it does not
need. -/
inductive Identifier.Denotes : Text → Text → Prop
  | plain {i : Text} (h : IsPlainName i) : Denotes i i
  | quoted {name : Text} (h : name ≠ []) : Denotes (enquote name) (quote name)

namespace Verb

variable {t : Text} {c : Char}

/-- A verb is in ASCII and has no quotes. -/
theorem IsWritten.ascii (h : IsWritten t) (hc : c ∈ t) : c.toNat < 128 ∧ c ≠ '"' := by
  rcases exists_mem_splitBy (c := ' ') hc with rfl | ⟨w, hw, hcw⟩
  · decide
  · have halpha := (h w hw).2.1 c hcw
    refine ⟨ascii_of_isAlphanum (isAlphanum_of_isAlpha halpha), ?_⟩
    rintro rfl
    exact absurd halpha (by decide)

/-- In ASCII the verbs are those that are read. -/
theorem isVerb_iff_isWritten (ht : IsAscii t) : isVerb t = true ↔ IsWritten t := by
  rw [isVerb_iff, IsWritten]
  refine forall₂_congr fun w hw => ?_
  have hascii : IsAscii w := fun c hc => ht c (mem_of_mem_splitBy hw hc)
  have hletter : (∀ c ∈ w, isLetter c = true) ↔ ∀ c ∈ w, c.isAlpha = true :=
    forall₂_congr fun c hc => by rw [isLetter_of_ascii (hascii c hc)]
  have hon : isOn w = false ↔ ¬ Spells "ON".toList w := by
    rw [isOn, isPhrase, map_fold_of_ascii hascii, beq_eq_false_iff_ne]
    rfl
  rw [isWord_iff, hletter, hon]

/-- A verb is read as it is written. -/
theorem IsWritten.isVerb (h : IsWritten t) : isVerb t = true :=
  (isVerb_iff_isWritten fun _ hc => (h.ascii hc).1).mpr h

end Verb

namespace Identifier

variable {i t u : Text}

/-- What stands outside the spans of an identifier and of what follows it. -/
theorem IsWritten.asciiOutside_append (hi : IsWritten isLetter i) (h : AsciiOutside (i ++ t)) :
    AsciiOutside i ∧ AsciiOutside t := by
  cases hi with
  | plain hi =>
      have hquote : '"' ∉ i := fun hmem => (hi.solid Form.isLetter_letter hmem).1 rfl
      obtain ⟨hi, ht⟩ := (Text.asciiOutside_append hquote).mp h
      exact ⟨(asciiOutside_iff_isAscii hquote).mpr hi, ht⟩
  | @quoted name => exact ⟨asciiOutside_enquote name, asciiOutside_enquote_append.mp h⟩

/-- In ASCII the identifiers are those that are read. -/
theorem denotes_canonical (hascii : AsciiOutside i) (h : IsWritten isLetter i) :
    Denotes i (canonical i) := by
  cases h with
  | plain h =>
      have hquote : '"' ∉ i := fun hmem => (h.solid Form.isLetter_letter hmem).1 rfl
      have hall := (asciiOutside_iff_isAscii hquote).mp hascii
      rw [h.canonical_eq Form.isLetter_letter]
      refine .plain ?_
      obtain ⟨c, r, rfl, hc, hr⟩ := h.exists_cons
      refine ⟨hc.imp_left fun hc => ?_, fun d hd => ?_⟩
      · rwa [isLetter_of_ascii (hall c List.mem_cons_self)] at hc
      · have hchar := hr d hd
        rw [isNameChar, isLetter_of_ascii (hall d (List.mem_cons_of_mem _ hd)), Bool.or_eq_true,
          beq_iff_eq] at hchar
        exact hchar
  | quoted hne =>
      rw [canonical_enquote]
      exact .quoted hne

/-- An identifier is read, and this is what is stored of it. -/
theorem Denotes.isWritten (h : Denotes i u) : IsWritten isLetter i ∧ canonical i = u := by
  cases h with
  | plain h =>
      have hplain := h.isPlainOver Form.isLetter_letter
      exact ⟨.plain hplain, hplain.canonical_eq Form.isLetter_letter⟩
  | quoted hne => exact ⟨.quoted hne, canonical_enquote _⟩

/-- What is stored of an identifier of one line is canonical. -/
theorem Denotes.isCanonical (hline : '\n' ∉ i) (h : Denotes i u) : IsCanonical u := by
  cases h with
  | plain h => exact .plain h
  | @quoted name hne =>
      refine isCanonical_quote hne fun hmem => hline ?_
      rw [enquote, List.mem_append, List.mem_cons]
      exact .inl (.inr (mem_doubleQuotes.mpr hmem))

end Identifier

/-! ## The parts of a body -/

namespace Form

variable {t target phrase name : Text}

/-- One identifier is read, and nothing else. -/
theorem readIdentifier_eq_some_iff (hline : '\n' ∉ t) (hascii : AsciiOutside t) :
    (readIdentifier t).map Identifier.canonical = some target ↔ Identifier.Denotes t target := by
  constructor
  · intro h
    obtain ⟨i, hread, rfl⟩ := Option.map_eq_some_iff.mp h
    obtain ⟨hi, rfl | rfl⟩ := Identifier.isWritten_of_whole hread
    · exact Identifier.denotes_canonical hascii hi
    · exact absurd (List.mem_append_right _ List.mem_cons_self) hline
  · intro h
    obtain ⟨hi, rfl⟩ := h.isWritten
    rw [readIdentifier, hi.whole_eq isLetter_letter, Option.map_some]

/-- Two identifiers with a dot between them are read, and nothing else. -/
theorem readQualified_eq_some_iff (hline : '\n' ∉ t) (hascii : AsciiOutside t) :
    readQualified t = some target ↔ ∃ i j u v, t = i ++ '.' :: j ∧ Identifier.Denotes i u ∧
      Identifier.Denotes j v ∧ target = u ++ '.' :: v := by
  constructor
  · intro h
    obtain ⟨⟨i, j⟩, hread, rfl⟩ := Option.map_eq_some_iff.mp h
    obtain ⟨hi, hj, rfl | rfl⟩ := Identifier.isWritten_of_qualified hread
    · obtain ⟨hfirst, hrest⟩ := hi.asciiOutside_append hascii
      have hdot : AsciiOutside (['.'] ++ j) := hrest
      exact ⟨i, j, _, _, rfl, Identifier.denotes_canonical hfirst hi,
        Identifier.denotes_canonical ((asciiOutside_append (by decide)).mp hdot).2 hj, rfl⟩
    · refine absurd ?_ hline
      simp
  · rintro ⟨i, j, u, v, rfl, hi, hj, rfl⟩
    obtain ⟨hfirst, rfl⟩ := hi.isWritten
    obtain ⟨hsecond, rfl⟩ := hj.isWritten
    rw [readQualified, hfirst.qualified_eq isLetter_letter hsecond, Option.map_some]

/-- A phrase in any letter case and an identifier are read, and nothing else. -/
theorem readTarget_eq_some_iff (hphrase : IsAscii phrase ∧ '"' ∉ phrase) (hline : '\n' ∉ t)
    (hascii : AsciiOutside t) : readTarget phrase t = some target ↔
      ∃ k i, t = k ++ i ∧ Spells phrase k ∧ Identifier.Denotes i target := by
  constructor
  · intro h
    obtain ⟨rest, hdrop, hread⟩ := readTarget_iff_dropPhrase.mp h
    obtain ⟨k, rfl, hk⟩ := dropPhrase_eq_some_iff.mp hdrop
    have hquote : '"' ∉ k := fun hmem =>
      hphrase.2 (hk ▸ List.mem_map_of_mem (f := fold) hmem)
    obtain ⟨hfirst, hrest⟩ := (asciiOutside_append hquote).mp hascii
    have hend : '\n' ∉ rest := fun hmem => hline (List.mem_append_right _ hmem)
    exact ⟨k, rest, rfl, spells_of_map_fold hfirst hk,
      (readIdentifier_eq_some_iff hend hrest).mp hread⟩
  · rintro ⟨k, i, rfl, hk, hi⟩
    obtain ⟨hwritten, rfl⟩ := hi.isWritten
    refine readTarget_iff_dropPhrase.mpr
      ⟨i, dropPhrase_eq_some_iff.mpr ⟨k, rfl, hk.map_fold hphrase.1⟩, ?_⟩
    rw [readIdentifier, hwritten.whole_eq isLetter_letter, Option.map_some]

/-- A verb and the word `ON` are read, and what follows. -/
theorem readVerb_eq_some_iff {read : Text → Option Text} (hascii : AsciiOutside t) :
    readVerb read t = some (name, target) ↔ ∃ v k rest, t = v ++ (k ++ rest) ∧ Verb.IsWritten v ∧
      Spells " ON ".toList k ∧ name = v.map Char.toUpper ∧ read rest = some target := by
  constructor
  · intro h
    obtain ⟨v, rest, hsplit, hread, rfl⟩ := exists_splitOn_of_readVerb h
    obtain ⟨hverb, o, ho, rfl⟩ := Verb.splitOn_eq_some_iff.mp hsplit
    have hfold : (' ' :: (o ++ [' '])).map fold = " ON ".toList := by
      rw [List.map_cons, List.map_append, eq_of_beq ho]
      rfl
    have hshape : v ++ ' ' :: (o ++ ' ' :: rest) = (v ++ ' ' :: (o ++ [' '])) ++ rest := by simp
    have hquote : '"' ∉ v ++ ' ' :: (o ++ [' ']) := by
      rw [List.mem_append, not_or]
      refine ⟨fun hmem => absurd (Verb.isLetter_or_blank hverb hmem) (by decide), fun hmem => ?_⟩
      exact absurd (hfold ▸ List.mem_map_of_mem (f := fold) hmem) (by decide)
    rw [hshape] at hascii
    have hfront := ((asciiOutside_append hquote).mp hascii).1
    have hv : IsAscii v := fun c hc => hfront c (List.mem_append_left _ hc)
    exact ⟨v, ' ' :: (o ++ [' ']), rest, by simp, (Verb.isVerb_iff_isWritten hv).mp hverb,
      spells_of_map_fold (fun c hc => hfront c (List.mem_append_right _ hc)) hfold,
      upper_of_ascii hv, hread⟩
  · rintro ⟨v, k, rest, rfl, hv, hk, rfl, hread⟩
    have hdrop : dropPhrase " ON ".toList (k ++ rest) = some rest :=
      dropPhrase_eq_some_iff.mpr ⟨k, rfl, hk.map_fold (by decide)⟩
    obtain ⟨o, ho, hshape⟩ := Verb.dropPhrase_on_eq_some_iff.mp hdrop
    have hsplit : Verb.splitOn (v ++ (k ++ rest)) = some (v, rest) :=
      Verb.splitOn_eq_some_iff.mpr ⟨hv.isVerb, o, ho, by rw [hshape]⟩
    rw [readVerb_of_splitOn hsplit, hread, upper_of_ascii fun _ hc => (hv.ascii hc).1]
    rfl

end Form

end AccessGrants
