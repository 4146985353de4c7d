import AccessGrants.Proofs.CanonicalForms
import AccessGrants.Proofs.StoredNames
import Mathlib.Computability.Language

/-!
# The language of identifiers

Identifiers are a regular language, and so are pairs of them with a dot between. The readers find
exactly the matches of these languages, so that a text is matched in one way at most. A quote in a
name is doubled, and therefore no dot in a name is taken for the one between two names.

* `Identifier.language`: the identifiers as a regular language. `Identifier.mem_language_iff`: these
  are the identifiers that may be written.
* `Identifier.MatchedWhole`, `Identifier.MatchedPair`: a text as one identifier or two.
  `Identifier.whole_eq_some_iff`, `Identifier.qualified_eq_some_iff`: the readers find the matches.
* `Identifier.HasIdentifier`, `Identifier.quote_mem_language_iff`: the names that have an
  identifier.
* `Identifier.IsFaithful`, `Identifier.quote_faithful`: names are written so that they are read back
  in one way.
-/

namespace AccessGrants

open scoped Computability

namespace Identifier

/-! ## A regular language -/

/-- The texts of one character of a class. -/
def oneOf (p : Char → Bool) : Language Char := {t | ∃ c, p c = true ∧ t = [c]}

/-- What may stand between quotes for one character: a character but a quote, or two quotes. -/
def quotedUnit : Language Char := oneOf (· != '"') + {['"', '"']}

/-- The identifiers over a class of letters: one or more units between quotes, or a letter or a low
line and then letters, digits and low lines. -/
def language (letter : Char → Bool) : Language Char :=
  {['"']} * (quotedUnit * quotedUnit∗) * {['"']} +
    oneOf (fun c => letter c || c == '_') * (oneOf (isNameChar letter))∗

/-- A text is matched as one identifier. A line feed after it is overlooked. -/
def MatchedWhole (letter : Char → Bool) (t i : Text) : Prop :=
  i ∈ language letter ∧ (t = i ∨ t = i ++ ['\n'])

/-- A text is matched as two identifiers with a dot between them. A line feed after the second is
overlooked. -/
def MatchedPair (letter : Char → Bool) (t i j : Text) : Prop :=
  i ∈ language letter ∧ j ∈ language letter ∧ (t = i ++ '.' :: j ∨ t = i ++ '.' :: (j ++ ['\n']))

/-- A name is not empty, and it is no plain upper-case name with one line feed after it. -/
def HasIdentifier (name : Text) : Prop :=
  name ≠ [] ∧ ¬ ∃ upper, IsUpperName upper ∧ name = upper ++ ['\n']

/-- Names are written faithfully as identifiers over a class of letters: the names that have an
identifier are written as one, and two of them with a dot between are matched in one way as two
identifiers and in none as one. The readers read them so. -/
structure IsFaithful (letter : Char → Bool) : Prop where
  identifier : ∀ name, quote name ∈ language letter ↔ HasIdentifier name
  pair : ∀ schema object, HasIdentifier schema → HasIdentifier object → ∀ i j,
    MatchedPair letter (quote schema ++ '.' :: quote object) i j ↔
      i = quote schema ∧ j = quote object
  single : ∀ schema object, HasIdentifier schema → HasIdentifier object → ∀ i,
    ¬ MatchedWhole letter (quote schema ++ '.' :: quote object) i
  readWhole : ∀ name, HasIdentifier name → whole letter (quote name) = some (quote name)
  readPair : ∀ schema object, HasIdentifier schema → HasIdentifier object →
    qualified letter (quote schema ++ '.' :: quote object) = some (quote schema, quote object) ∧
      whole letter (quote schema ++ '.' :: quote object) = none

variable {letter p : Char → Bool} {name t i j : Text}

/-! ## Its texts -/

/-- A text of the class is one character of it. -/
theorem mem_oneOf : t ∈ oneOf p ↔ ∃ c, p c = true ∧ t = [c] := Iff.rfl

/-- A row of characters of a class. -/
theorem mem_kstar_oneOf : t ∈ (oneOf p)∗ ↔ ∀ c ∈ t, p c = true := by
  constructor
  · intro h c hc
    obtain ⟨ws, rfl, hws⟩ := Language.mem_kstar.mp h
    obtain ⟨w, hw, hcw⟩ := List.mem_flatten.mp hc
    obtain ⟨d, hd, rfl⟩ := hws w hw
    rwa [List.mem_singleton.mp hcw]
  · intro h
    refine Language.mem_kstar.mpr ⟨t.map fun c => [c], ?_, ?_⟩
    · rw [← List.flatMap_def, List.flatMap_singleton']
    · rw [List.forall_mem_map]
      exact fun c hc => ⟨c, h c hc, rfl⟩

/-- A unit is what doubling makes of one character. -/
theorem mem_quotedUnit : t ∈ quotedUnit ↔ ∃ c, t = doubleQuotes [c] := by
  rw [quotedUnit, Language.mem_add, mem_oneOf]
  constructor
  · rintro (⟨c, hc, rfl⟩ | h)
    · exact ⟨c, by rw [doubleQuotes, if_neg (bne_iff_ne.mp hc)]; rfl⟩
    · exact ⟨'"', h⟩
  · rintro ⟨c, rfl⟩
    by_cases hc : c = '"'
    · rw [hc]
      exact .inr rfl
    · rw [doubleQuotes, if_neg hc]
      exact .inl ⟨c, bne_iff_ne.mpr hc, rfl⟩

/-- Quotes are doubled one character after the other. -/
theorem doubleQuotes_cons (c : Char) (r : Text) :
    doubleQuotes (c :: r) = doubleQuotes [c] ++ doubleQuotes r := by
  rw [doubleQuotes, doubleQuotes]
  split <;> rfl

/-- Units in a row are a name with its quotes doubled. -/
theorem mem_kstar_quotedUnit : t ∈ quotedUnit∗ ↔ ∃ name, t = doubleQuotes name := by
  constructor
  · intro h
    obtain ⟨units, rfl, hunits⟩ := Language.mem_kstar.mp h
    clear h
    induction units with
    | nil => exact ⟨[], rfl⟩
    | cons u units ih =>
        rw [List.forall_mem_cons] at hunits
        obtain ⟨c, rfl⟩ := mem_quotedUnit.mp hunits.1
        obtain ⟨name, hname⟩ := ih hunits.2
        exact ⟨c :: name, by rw [List.flatten_cons, hname, ← doubleQuotes_cons]⟩
  · rintro ⟨name, rfl⟩
    induction name with
    | nil => exact Language.nil_mem_kstar _
    | cons c r ih =>
        rw [doubleQuotes_cons, ← Language.one_add_self_mul_kstar_eq_kstar]
        exact .inr (Language.append_mem_mul (mem_quotedUnit.mpr ⟨c, rfl⟩) ih)

/-- Between quotes stands any name but the empty one. -/
theorem mem_quoted_iff :
    t ∈ {['"']} * (quotedUnit * quotedUnit∗) * {['"']} ↔ ∃ name, name ≠ [] ∧ t = enquote name := by
  rw [Language.mem_mul]
  constructor
  · rintro ⟨_, ⟨_, rfl, inside, hinside, rfl⟩, _, rfl, rfl⟩
    obtain ⟨_, hunit, _, hunits, rfl⟩ := Language.mem_mul.mp hinside
    obtain ⟨c, rfl⟩ := mem_quotedUnit.mp hunit
    obtain ⟨r, rfl⟩ := mem_kstar_quotedUnit.mp hunits
    exact ⟨c :: r, List.cons_ne_nil c r, by rw [enquote, doubleQuotes_cons c r]; rfl⟩
  · rintro ⟨name, hne, rfl⟩
    obtain ⟨c, r, rfl⟩ := List.exists_cons_of_ne_nil hne
    have hinside : doubleQuotes (c :: r) ∈ quotedUnit * quotedUnit∗ := by
      rw [doubleQuotes_cons]
      exact Language.append_mem_mul (mem_quotedUnit.mpr ⟨c, rfl⟩)
        (mem_kstar_quotedUnit.mpr ⟨r, rfl⟩)
    exact ⟨_, ⟨_, rfl, _, hinside, rfl⟩, _, rfl, rfl⟩

/-- Without quotes stands a plain identifier. -/
theorem mem_plain_iff :
    t ∈ oneOf (fun c => letter c || c == '_') * (oneOf (isNameChar letter))∗ ↔
      IsPlainOver letter t := by
  rw [Language.mem_mul]
  constructor
  · rintro ⟨_, ⟨c, hc, rfl⟩, r, hr, rfl⟩
    rw [Bool.or_eq_true, beq_iff_eq] at hc
    exact ⟨hc, mem_kstar_oneOf.mp hr⟩
  · intro h
    obtain ⟨c, r, rfl, hc, hr⟩ := h.exists_cons
    have hstart : (letter c || c == '_') = true := by
      rw [Bool.or_eq_true, beq_iff_eq]
      exact hc
    exact ⟨[c], ⟨c, hstart, rfl⟩, r, mem_kstar_oneOf.mpr hr, rfl⟩

/-- The texts of the language are the identifiers that may be written. -/
theorem mem_language_iff : t ∈ language letter ↔ IsWritten letter t := by
  rw [language, Language.mem_add, mem_quoted_iff, mem_plain_iff]
  constructor
  · rintro (⟨name, hne, rfl⟩ | h)
    · exact .quoted hne
    · exact .plain h
  · intro h
    cases h with
    | plain h => exact .inr h
    | quoted hne => exact .inl ⟨_, hne, rfl⟩

/-! ## Matches -/

/-- The reader of one identifier finds the matches. -/
theorem whole_eq_some_iff (hletter : IsAlphabet letter) :
    whole letter t = some i ↔ MatchedWhole letter t i := by
  rw [MatchedWhole, mem_language_iff]
  constructor
  · exact isWritten_of_whole
  · rintro ⟨hi, rfl | rfl⟩
    · exact hi.whole_eq hletter
    · exact hi.whole_append_newline hletter

/-- The reader of two identifiers finds the matches. -/
theorem qualified_eq_some_iff (hletter : IsAlphabet letter) :
    qualified letter t = some (i, j) ↔ MatchedPair letter t i j := by
  rw [MatchedPair, mem_language_iff, mem_language_iff]
  constructor
  · exact isWritten_of_qualified
  · rintro ⟨hi, hj, rfl | rfl⟩
    · exact hi.qualified_eq hletter hj
    · rw [qualified, hi.read_dot hletter]
      simp only [hj.whole_append_newline hletter, Option.map_some]

/-- What is matched as two identifiers is not matched as one. -/
theorem whole_eq_none_of_qualified (h : qualified letter t = some (i, j)) :
    whole letter t = none := by
  -- both readers take the first identifier, and a dot is not the end of a text
  obtain ⟨rest, hread, -⟩ := exists_read_of_qualified h
  rw [whole, hread]
  rfl

/-! ## Names -/

/-- A plain name with a line feed anywhere has it after a plain upper-case name. -/
theorem exists_isUpperName_iff :
    (∃ upper, IsUpperName upper ∧ name = upper ++ ['\n']) ↔ isPlain name = true ∧ '\n' ∈ name := by
  constructor
  · rintro ⟨upper, hupper, rfl⟩
    exact ⟨hupper.isPlain_append_newline, List.mem_append_right _ List.mem_cons_self⟩
  · rintro ⟨hplain, hline⟩
    have hupper := isUpperName_dropFinalNewline hplain
    rcases Text.eq_or_eq_append_of_dropFinalNewline name with heq | heq
    · exact absurd (heq ▸ hline) hupper.2
    · exact ⟨_, hupper, heq⟩

/-- A name has an identifier unless it is empty, or plain with a line feed in it. -/
theorem hasIdentifier_iff :
    HasIdentifier name ↔ name ≠ [] ∧ (isPlain name = true → '\n' ∉ name) := by
  rw [HasIdentifier, exists_isUpperName_iff, not_and]

instance (name : Text) : Decidable (HasIdentifier name) :=
  decidable_of_iff _ hasIdentifier_iff.symm

/-- Two quotes with nothing between them are no identifier. -/
theorem not_isWritten_enquote_nil (hletter : IsAlphabet letter) :
    ¬ IsWritten letter (enquote []) := by
  rw [← mem_language_iff, language, Language.mem_add, mem_quoted_iff, mem_plain_iff]
  rintro (⟨name, hne, heq⟩ | hplain)
  · exact hne (enquote_injective heq).symm
  · exact (hplain.solid hletter List.mem_cons_self).1 rfl

/-- A name has an identifier exactly if it is not empty and no plain upper-case name with a line
feed after it. -/
theorem quote_mem_language_iff (hletter : IsAlphabet letter) :
    quote name ∈ language letter ↔ HasIdentifier name := by
  rw [mem_language_iff, hasIdentifier_iff]
  constructor
  · refine fun h => ⟨?_, fun hplain hline => ?_⟩
    · rintro rfl
      exact not_isWritten_enquote_nil hletter h
    · obtain ⟨upper, -, rfl⟩ := exists_isUpperName_iff.mpr ⟨hplain, hline⟩
      rw [quote, if_pos hplain] at h
      obtain ⟨c, hlast, hblank⟩ := (h.solid hletter).last
      rw [List.getLast?_concat, Option.some.injEq] at hlast
      exact absurd hblank (by rw [← hlast]; decide)
  · rintro ⟨hne, hline⟩
    unfold quote
    split
    · next hplain =>
      exact .plain ((IsUpperName.isPlainName ⟨hplain, hline hplain⟩).isPlainOver hletter)
    · exact .quoted hne

/-- Two names that have identifiers are read as they are written. -/
theorem qualified_quote (hletter : IsAlphabet letter) {schema object : Text}
    (hschema : HasIdentifier schema) (hobject : HasIdentifier object) :
    qualified letter (quote schema ++ '.' :: quote object) = some (quote schema, quote object) := by
  have hfirst := (quote_mem_language_iff hletter).mpr hschema
  have hsecond := (quote_mem_language_iff hletter).mpr hobject
  exact (qualified_eq_some_iff hletter).mpr ⟨hfirst, hsecond, .inl rfl⟩

/-- Names are written faithfully over every alphabet. -/
theorem isFaithful_of_isAlphabet (hletter : IsAlphabet letter) : IsFaithful letter where
  identifier _ := quote_mem_language_iff hletter
  pair schema object hschema hobject i j := by
    rw [← qualified_eq_some_iff hletter, qualified_quote hletter hschema hobject, Option.some.injEq,
      Prod.mk.injEq]
    exact and_congr eq_comm eq_comm
  single schema object hschema hobject i hmatch := by
    have hone := (whole_eq_some_iff hletter).mpr hmatch
    rw [whole_eq_none_of_qualified (qualified_quote hletter hschema hobject)] at hone
    cases hone
  readWhole name hname :=
    (whole_eq_some_iff hletter).mpr ⟨(quote_mem_language_iff hletter).mpr hname, .inl rfl⟩
  readPair schema object hschema hobject :=
    ⟨qualified_quote hletter hschema hobject,
      whole_eq_none_of_qualified (qualified_quote hletter hschema hobject)⟩

/-- The codec of identifiers is faithful. -/
theorem quote_faithful :
    (∀ name, canonical (enquote name) = quote name) ∧ Function.Injective quote ∧
      IsFaithful isAsciiLetter ∧ IsFaithful Text.isLetter :=
  ⟨canonical_enquote, fun _ _ => quote_injective, isFaithful_of_isAlphabet isAlphabet_ascii,
    isFaithful_of_isAlphabet Form.isLetter_letter⟩

/-- A dot in a name is none between two names, with quotes beside it too. -/
theorem quote_faithful_of_quoted_dot :
    HasIdentifier "A\".\"B".toList ∧ HasIdentifier "\"".toList ∧
      quote "A\".\"B".toList ++ '.' :: quote "\"".toList = "\"A\"\".\"\"B\".\"\"\"\"".toList ∧
      ∀ i j, MatchedPair Text.isLetter "\"A\"\".\"\"B\".\"\"\"\"".toList i j ↔
        i = "\"A\"\".\"\"B\"".toList ∧ j = "\"\"\"\"".toList := by
  obtain ⟨-, -, -, hfaithful⟩ := quote_faithful
  have hfirst : HasIdentifier "A\".\"B".toList := by decide
  have hsecond : HasIdentifier "\"".toList := by decide
  exact ⟨hfirst, hsecond, by decide, hfaithful.pair _ _ hfirst hsecond⟩

end Identifier

end AccessGrants
