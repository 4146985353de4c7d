import AccessGrants.Proofs.NormalLayout

/-!
# Names as they are stored

An identifier is stored without the quotes that it does not need, and the white space around a whole
name or target is left out. One thing goes wrong: a line feed after a plain upper-case name is
overlooked where the quotes are judged, so `"A<line feed>"` loses its quotes as well. At the end of a
text the line feed is left out as white space. Before a dot it stays, outside of any quotes.

* `Identifier.exists_isStored_of_isWritten`: what is stored of an identifier.
* `Identifier.IsTorn`: two identifiers with such a line feed before their dot.
* `Identifier.stripWhiteSpace_canonical`, `Identifier.stripWhiteSpace_pair`: what is stored of a name.
* `Text.outsideQuotes` has the characters outside the quotes. `Identifier.IsTorn.line` and
  `Identifier.IsStoredPath.line`: only a torn name has a line feed there.
-/

namespace AccessGrants

namespace Text

variable {t u : Text}

/-! ## Outside the quotes -/

/-- The characters of a text that stand outside the quotes, if the text begins inside them or not. -/
def outside : Bool → Text → Text
  | _, [] => []
  | quoted, c :: r =>
    if c = '"' then outside (!quoted) r
    else if quoted then outside quoted r
    else c :: outside quoted r

/-- The characters of a text that stand outside its quotes. Each quote opens a span or closes it. -/
def outsideQuotes (t : Text) : Text := outside false t

@[simp] theorem outsideQuotes_nil : outsideQuotes [] = [] := rfl

/-- What stands outside the quotes of a text stands in it. -/
theorem mem_of_mem_outside {quoted : Bool} {c : Char} (h : c ∈ outside quoted t) : c ∈ t := by
  induction t generalizing quoted with
  | nil => exact h
  | cons d r ih =>
      rw [outside] at h
      split at h
      · exact List.mem_cons_of_mem _ (ih h)
      · split at h
        · exact List.mem_cons_of_mem _ (ih h)
        · rcases List.mem_cons.mp h with rfl | h
          · exact List.mem_cons_self
          · exact List.mem_cons_of_mem _ (ih h)

/-- What is outside the quotes of a text is the same whatever follows it, and what follows begins
inside them after an odd number of quotes. -/
theorem outside_append (quoted : Bool) (t u : Text) :
    outside quoted (t ++ u) =
      outside quoted t ++ outside (quoted ^^ decide (t.count '"' % 2 = 1)) u := by
  induction t generalizing quoted with
  | nil => simp [outside]
  | cons c r ih =>
      rw [List.cons_append, outside, outside]
      split
      · next hc =>
        have hodd : decide ((r.count '"' + 1) % 2 = 1) = !decide (r.count '"' % 2 = 1) := by
          rw [← decide_not]
          exact decide_eq_decide.mpr (by omega)
        rw [ih, hc, List.count_cons_self, hodd, Bool.xor_not, Bool.not_xor]
      · next hc =>
        rw [List.count_cons_of_ne hc, ih]
        split <;> rfl

/-- A text that closes all spans it opens: what follows it begins outside the quotes. -/
def Balanced (t : Text) : Prop :=
  ∀ u, outsideQuotes (t ++ u) = outsideQuotes t ++ outsideQuotes u

/-- A text closes all spans it opens if it has an even number of quotes. -/
theorem balanced_iff : Balanced t ↔ t.count '"' % 2 = 0 := by
  constructor
  · intro h
    by_contra hodd
    have hone := h ['.']
    rw [outsideQuotes, outside_append, decide_eq_true (Nat.mod_two_ne_zero.mp hodd)] at hone
    exact absurd (List.append_cancel_left hone) (by decide)
  · intro h u
    rw [outsideQuotes, outside_append, h]
    rfl

/-- Texts that close their spans do so one after the other. -/
theorem Balanced.append (ht : Balanced t) (hu : Balanced u) : Balanced (t ++ u) := by
  intro v
  rw [List.append_assoc, ht, hu, ht, List.append_assoc]

/-- A text without quotes stands outside of them. -/
theorem outsideQuotes_append_of_not_mem (h : '"' ∉ t) (u : Text) :
    outsideQuotes (t ++ u) = t ++ outsideQuotes u := by
  induction t with
  | nil => rfl
  | cons c r ih =>
      rw [List.mem_cons, not_or] at h
      rw [List.cons_append, outsideQuotes, outside, if_neg (Ne.symm h.1), if_neg (by decide)]
      exact congrArg _ (ih h.2)

/-- All of a text without quotes stands outside of them. -/
theorem outsideQuotes_of_not_mem (h : '"' ∉ t) : outsideQuotes t = t := by
  have hall := outsideQuotes_append_of_not_mem h []
  rwa [List.append_nil, outsideQuotes_nil, List.append_nil] at hall

/-- A text without quotes opens no span. -/
theorem balanced_of_not_mem (h : '"' ∉ t) : Balanced t := by
  intro u
  rw [outsideQuotes_append_of_not_mem h, outsideQuotes_of_not_mem h]

/-- Trimming a text brings nothing out of the quotes. -/
theorem mem_outsideQuotes_of_trim {p : Char → Bool} (hp : p '"' = false) {c : Char}
    (h : c ∈ outsideQuotes (trim p t)) : c ∈ outsideQuotes t := by
  obtain ⟨a, z, ht, ha, -⟩ := exists_eq_append_trim p t
  have hquote : '"' ∉ a := by
    intro hmem
    rw [ha _ hmem] at hp
    cases hp
  rw [ht, outsideQuotes_append_of_not_mem hquote, outsideQuotes, outside_append]
  exact List.mem_append_right _ (List.mem_append_left _ h)

/-- A blank after a solid text is stripped off. -/
theorem Solid.stripWhiteSpace_append (h : Solid t) {c : Char} (hc : isWhiteSpace c = true) :
    stripWhiteSpace (t ++ [c]) = t := by
  have htrim := h.stripWhiteSpace_eq
  unfold stripWhiteSpace trim at htrim ⊢
  obtain ⟨d, hd, hblank⟩ := h.first
  obtain ⟨r, rfl⟩ := List.head?_eq_some_iff.mp hd
  have hspace : isWhiteSpace d = false :=
    Bool.eq_false_iff.mpr fun hs => Bool.eq_false_iff.mp hblank (isBlank_of_isWhiteSpace hs)
  rw [List.dropWhile_cons_of_neg (by simp [hspace])] at htrim
  rw [List.cons_append, List.dropWhile_cons_of_neg (by simp [hspace]), ← List.cons_append,
    List.reverse_append, List.reverse_singleton, List.singleton_append,
    List.dropWhile_cons_of_pos hc]
  exact htrim

end Text

namespace Identifier

open Text

variable {letter : Char → Bool} {name i j t : Text}

/-! ## Quotes around names -/

/-- Inside its quotes a name with its quotes doubled brings nothing out. -/
theorem outside_doubleQuotes (name u : Text) :
    outside true (doubleQuotes name ++ u) = outside true u := by
  induction name with
  | nil => rfl
  | cons c r ih =>
      rw [doubleQuotes]
      split
      · -- the two quotes of a doubled one close a span and open the next
        exact ih
      · next hc =>
        rw [List.cons_append, outside, if_neg hc, if_pos rfl, ih]

/-- A quoted name has nothing outside its quotes. -/
theorem outsideQuotes_enquote_append (name u : Text) :
    outsideQuotes (enquote name ++ u) = outsideQuotes u := by
  rw [enquote, List.append_assoc, List.cons_append, outsideQuotes, outside, if_pos rfl]
  exact outside_doubleQuotes name ('"' :: u)

/-- A quoted name by itself has nothing outside its quotes. -/
theorem outsideQuotes_enquote (name : Text) : outsideQuotes (enquote name) = [] := by
  have hall := outsideQuotes_enquote_append name []
  rwa [List.append_nil] at hall

/-- A quoted name closes its span. -/
theorem balanced_enquote (name : Text) : Balanced (enquote name) := by
  intro u
  rw [outsideQuotes_enquote_append, outsideQuotes_enquote, List.nil_append]

/-- An identifier closes the quotes it opens. -/
theorem IsWritten.balanced (hletter : IsAlphabet letter) (h : IsWritten letter i) :
    Balanced i := by
  cases h with
  | plain h => exact balanced_of_not_mem fun hmem => (h.solid hletter hmem).1 rfl
  | @quoted name => exact balanced_enquote name

/-- What an identifier has outside its quotes are letters, digits and low lines. -/
theorem IsWritten.nameChar_of_mem (hletter : IsAlphabet letter) (h : IsWritten letter i)
    {c : Char} (hc : c ∈ outsideQuotes i) : isNameChar letter c = true := by
  cases h with
  | plain h =>
      rw [outsideQuotes_of_not_mem fun hmem => (h.solid hletter hmem).1 rfl] at hc
      exact h.nameChar hc
  | quoted =>
      rw [outsideQuotes_enquote] at hc
      cases hc

/-- What stands outside the quotes of two identifiers with a dot between them. -/
theorem IsWritten.outsideQuotes_append (hletter : IsAlphabet letter) (h : IsWritten letter i)
    (u : Text) : outsideQuotes (i ++ '.' :: u) = outsideQuotes i ++ '.' :: outsideQuotes u :=
  h.balanced hletter ('.' :: u)

/-! ## What is stored -/

/-- A plain upper-case name is stored as it is. -/
theorem IsUpperName.isStored (hletter : IsAlphabet letter) (h : IsUpperName name) :
    IsStored letter name :=
  (IsCanonical.plain h.isPlainName).isStored hletter

/-- What is stored of an identifier is read back as it is, but for a line feed that was overlooked
where its quotes were taken off. -/
theorem exists_isStored_of_isWritten (hletter : IsAlphabet letter) (h : IsWritten letter i) :
    ∃ s, IsStored letter s ∧
      (canonical i = s ∨ IsUpperName s ∧ canonical i = s ++ ['\n']) := by
  cases h with
  | plain h =>
      have hcanonical := h.canonical_eq hletter
      exact ⟨_, ⟨.plain h, hcanonical⟩, .inl hcanonical⟩
  | @quoted name hne =>
      rw [canonical_enquote, quote]
      split
      · next hplain =>
        have hupper := isUpperName_dropFinalNewline hplain
        refine ⟨_, hupper.isStored hletter, ?_⟩
        exact (eq_or_eq_append_of_dropFinalNewline name).imp_right fun h => ⟨hupper, h⟩
      · next hplain =>
        have hcanonical : IsCanonical (enquote name) :=
          .quoted hne (Bool.eq_false_iff.mpr hplain)
        exact ⟨_, hcanonical.isStored hletter, .inl rfl⟩

/-- Two identifiers, of which the first is a plain upper-case name that a line feed separates from
their dot. -/
def IsTorn (letter : Char → Bool) (t : Text) : Prop :=
  ∃ w j, IsUpperName w ∧ IsStored letter j ∧ t = w ++ '\n' :: '.' :: j

/-- A torn name has a line feed in it. -/
theorem IsTorn.mem (h : IsTorn letter t) : '\n' ∈ t := by
  obtain ⟨w, j, -, -, rfl⟩ := h
  exact List.mem_append_right _ List.mem_cons_self

/-- A torn name begins and ends with characters that are not blank. -/
theorem IsTorn.solid (hletter : IsAlphabet letter) (h : IsTorn letter t) : Solid t := by
  obtain ⟨w, j, hw, hj, rfl⟩ := h
  exact ((hw.isStored hletter).written.solid hletter).append (hj.written.solid hletter)
    ['\n', '.']

/-- A torn name has a line feed outside its quotes. -/
theorem IsTorn.line (h : IsTorn letter t) : '\n' ∈ outsideQuotes t := by
  obtain ⟨w, j, hw, -, rfl⟩ := h
  have hquote : '"' ∉ w := not_quote_mem_of_isPlain hw.1
  rw [outsideQuotes_append_of_not_mem hquote]
  exact List.mem_append_right _ List.mem_cons_self

/-- What a path has outside its quotes are letters, digits, low lines and the dot. -/
theorem IsStoredPath.nameChar_of_mem (hletter : IsAlphabet letter) (h : IsStoredPath letter t)
    {c : Char} (hc : c ∈ outsideQuotes t) : isNameChar letter c = true ∨ c = '.' := by
  rcases h with hi | ⟨i, j, hi, hj, rfl⟩
  · exact .inl (hi.written.nameChar_of_mem hletter hc)
  · rw [hi.written.outsideQuotes_append hletter, List.mem_append, List.mem_cons] at hc
    rcases hc with hc | rfl | hc
    · exact .inl (hi.written.nameChar_of_mem hletter hc)
    · exact .inr rfl
    · exact .inl (hj.written.nameChar_of_mem hletter hc)

/-- A path has no line feed outside its quotes. -/
theorem IsStoredPath.line (hletter : IsAlphabet letter) (h : IsStoredPath letter t) :
    '\n' ∉ outsideQuotes t := by
  intro hmem
  rcases h.nameChar_of_mem hletter hmem with hchar | hdot
  · exact absurd (hletter.nameChar hchar).2.2 (by decide)
  · exact absurd hdot (by decide)

/-- A name of one identifier is stored so that it is read back. -/
theorem stripWhiteSpace_canonical (hletter : IsAlphabet letter) (hi : IsWritten letter i) :
    IsStored letter (stripWhiteSpace (canonical i)) := by
  obtain ⟨s, hs, heq | ⟨-, heq⟩⟩ := exists_isStored_of_isWritten hletter hi
  · rwa [heq, (hs.written.solid hletter).stripWhiteSpace_eq]
  · rwa [heq, (hs.written.solid hletter).stripWhiteSpace_append (by decide)]

/-- A name of two identifiers is stored as two that are read back and not as one, or it is torn. -/
theorem stripWhiteSpace_pair (hletter : IsAlphabet letter) (hi : IsWritten letter i)
    (hj : IsWritten letter j) :
    (IsStoredPath letter (stripWhiteSpace (canonical i ++ '.' :: canonical j)) ∧
      ¬ IsStored letter (stripWhiteSpace (canonical i ++ '.' :: canonical j))) ∨
        IsTorn letter (stripWhiteSpace (canonical i ++ '.' :: canonical j)) := by
  obtain ⟨s, hs, hcanonical⟩ := exists_isStored_of_isWritten hletter hi
  obtain ⟨u, hu, hlast⟩ := exists_isStored_of_isWritten hletter hj
  -- whatever stands between the identifiers, only a line feed after the second is stripped off
  have hstrip : ∀ middle : Text, stripWhiteSpace (s ++ (middle ++ canonical j)) =
      s ++ (middle ++ u) := by
    intro middle
    have hsolid := (hs.written.solid hletter).append (hu.written.solid hletter) middle
    rcases hlast with heq | ⟨-, heq⟩
    · rw [heq, hsolid.stripWhiteSpace_eq]
    · rw [heq, ← List.append_assoc, ← List.append_assoc, List.append_assoc s,
        hsolid.stripWhiteSpace_append (by decide)]
  rcases hcanonical with heq | ⟨hupper, heq⟩
  · have hpair : stripWhiteSpace (canonical i ++ '.' :: canonical j) = s ++ '.' :: u := by
      rw [heq]
      exact hstrip ['.']
    rw [hpair]
    exact .inl ⟨.inr ⟨s, u, hs, hu, rfl⟩, fun h =>
      hs.written.not_isWritten_append hletter hu.written h.written⟩
  · rw [heq, List.append_assoc]
    exact .inr ⟨s, u, hupper, hu, hstrip ['\n', '.']⟩

end Identifier

end AccessGrants
