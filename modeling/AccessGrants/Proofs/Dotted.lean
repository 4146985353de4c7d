import AccessGrants.Proofs.Spans
import AccessGrants.Proofs.StoredGrants

/-!
# Dots outside the quotes

A dot that stands outside the quotes of the first line of a text stays there when the text is brought
into normal layout and its option is split off. What stands before it may be any text: an identifier
that is read ends before the dot.

* `Text.Dotted`: a text has such a dot.
* `Text.stripWhiteSpace_append_dot`, `Text.Dotted.of_splitGrant`: the dot stays.
* `Text.Dotted.of_read`: the identifier at the head of such a text is stored as it is, and it is not all
  there is.
* `Form.balanced_of_read`, `Privilege.balanced_of_parse`: what is read closes its quotes.
-/

namespace AccessGrants

open Text Layout

/-! ## Texts with a dot -/

namespace Text

variable {t u v body : Text}

/-- A dot stands outside the quotes of the first line of a text. -/
def Dotted (t : Text) : Prop :=
  ∃ a b, t = a ++ '.' :: b ∧ Balanced a ∧ '\n' ∉ a

/-- A text that does not begin with a blank does not begin with white space. -/
theorem dropWhile_isWhiteSpace (h : ∃ c, t.head? = some c ∧ isBlank c = false) :
    t.dropWhile isWhiteSpace = t := by
  obtain ⟨c, hc, hblank⟩ := h
  obtain ⟨r, rfl⟩ := List.head?_eq_some_iff.mp hc
  refine List.dropWhile_cons_of_neg fun hspace => ?_
  exact Bool.eq_false_iff.mp hblank (isBlank_of_isWhiteSpace hspace)

/-- White space before a dot is kept but at the beginning, and white space after it but at the end. -/
theorem stripWhiteSpace_append_dot (t : Text) (hu : ∃ c, u.head? = some c ∧ isBlank c = false) :
    stripWhiteSpace (t ++ '.' :: u) = t.dropWhile isWhiteSpace ++ '.' :: stripWhiteSpace u := by
  rw [stripWhiteSpace, trim_append_cons (by decide), stripWhiteSpace, trim,
    dropWhile_isWhiteSpace hu]

/-- A character that is not among those cut off the end of a text stays in it. -/
theorem exists_of_append_eq {a b : Text} {c : Char} (h : t ++ u = a ++ c :: b) (hu : c ∉ u) :
    ∃ x, t = a ++ c :: x := by
  rcases List.append_eq_append_iff.mp h with ⟨x, rfl, hx⟩ | ⟨x, rfl, hx⟩
  · exact absurd (by rw [hx]; simp) hu
  · cases x with
    | nil => exact absurd (by rw [← List.nil_append u, ← hx]; simp) hu
    | cons d x =>
        obtain ⟨rfl, -⟩ := List.cons.inj hx
        exact ⟨x, rfl⟩

namespace Dotted

/-- What is cut off behind the dot does not matter. -/
theorem of_append (h : Dotted (t ++ u)) (hu : '.' ∉ u) : Dotted t := by
  obtain ⟨a, b, heq, hbalanced, hline⟩ := h
  obtain ⟨x, rfl⟩ := exists_of_append_eq heq hu
  exact ⟨a, x, rfl, hbalanced, hline⟩

/-- Nor does what is cut off before it, if it has no quotes. -/
theorem of_append_left (h : Dotted (t ++ u)) (hdot : '.' ∉ t) (hquote : '"' ∉ t) : Dotted u := by
  obtain ⟨a, b, heq, hbalanced, hline⟩ := h
  rcases List.append_eq_append_iff.mp heq with ⟨x, rfl, rfl⟩ | ⟨x, rfl, hx⟩
  · refine ⟨x, b, rfl, ?_, fun hmem => hline (List.mem_append_right _ hmem)⟩
    rw [balanced_iff] at hbalanced ⊢
    rwa [List.count_append, List.count_eq_zero_of_not_mem hquote, Nat.zero_add] at hbalanced
  · cases x with
    | nil => exact ⟨[], b, hx.symm, balanced_of_not_mem List.not_mem_nil, List.not_mem_nil⟩
    | cons c x =>
        obtain ⟨rfl, -⟩ := List.cons.inj hx
        exact absurd (List.mem_append_right _ List.mem_cons_self) hdot

end Dotted

end Text

namespace Layout

/-- A character that is kept separates what is written before it from what is written after it. -/
theorem exists_squeeze_append_cons {c : Char} (hc : isBlank c = false) (place : Place)
    (a b : Text) : ∃ a' after, squeeze place (a ++ c :: b) = a' ++ c :: squeeze after b ∧
      a'.count '"' = a.count '"' ∧ ∀ d ∈ a', d ∈ a ∨ d = ' ' := by
  induction a generalizing place with
  | nil =>
      refine ⟨[], place.next c b, ?_, rfl, nofun⟩
      rw [List.nil_append, squeeze_cons, Place.written, if_pos (.inr hc)]
      rfl
  | cons e a ih =>
      obtain ⟨a', after, heq, hcount, hmem⟩ := ih (place.next e (a ++ c :: b))
      refine ⟨place.written e ++ a', after, ?_, ?_, fun d hd => ?_⟩
      · rw [List.cons_append, squeeze_cons, heq, List.append_assoc]
      · rw [List.count_append, count_written, hcount, ← List.count_append, List.singleton_append]
      · rcases List.mem_append.mp hd with hd | hd
        · unfold Place.written at hd
          split at hd
          · exact .inl (by rw [List.mem_singleton.mp hd]; exact List.mem_cons_self)
          · split at hd
            · cases hd
            · exact .inr (List.mem_singleton.mp hd)
        · exact (hmem d hd).imp_left (List.mem_cons_of_mem e)

end Layout

namespace Text.Dotted

variable {raw body t rest i : Text} {letter : Char → Bool}

/-- The dot of a solid text stays in its normal layout. -/
theorem normalize (hsolid : Solid t) (h : Dotted t) : Dotted (Layout.normalize t) := by
  obtain ⟨a, b, rfl, hbalanced, hline⟩ := h
  obtain ⟨a', after, heq, hcount, hmem⟩ :=
    exists_squeeze_append_cons (by decide : isBlank '.' = false) .plain a b
  rw [Layout.normalize, hsolid.strip_eq, heq]
  refine ⟨a', _, rfl, ?_, fun hfeed => ?_⟩
  · rw [balanced_iff, hcount]
    exact balanced_iff.mp hbalanced
  · rcases hmem _ hfeed with hfeed | hfeed
    · exact hline hfeed
    · exact absurd hfeed (by decide)

/-- It is in the body of a grant string. -/
theorem of_splitGrant {option : Option GrantOption} (hsolid : Solid raw) (h : Dotted raw)
    (hsplit : splitGrant raw = .ok (body, option)) : Dotted body := by
  have hlayout := h.normalize hsolid
  obtain ⟨z, heq, hz⟩ := GrantOption.exists_append_of_split (splitGrant_eq_ok_iff.mp hsplit)
  rw [heq] at hlayout
  exact hlayout.of_append fun hmem => absurd (hz _ hmem) (by decide)

/-- An identifier ends before the dot, so it is stored, and more follows. -/
theorem of_read (hletter : Identifier.IsAlphabet letter) (h : Dotted t)
    (hread : Identifier.read letter t = some (i, rest)) :
    atEnd rest = false ∧ Identifier.IsStored letter (Identifier.canonical i) := by
  obtain ⟨a, b, rfl, hbalanced, hline⟩ := h
  obtain ⟨hi, heq⟩ := Identifier.isWritten_of_read hread
  -- the dot is no part of the identifier
  obtain ⟨x, rfl, rfl⟩ : ∃ x, a = i ++ x ∧ rest = x ++ '.' :: b := by
    rcases List.append_eq_append_iff.mp heq with ⟨x, rfl, hx⟩ | hx
    · cases x with
      | nil => exact ⟨[], by simp, hx.symm⟩
      | cons c x =>
          obtain ⟨rfl, -⟩ := List.cons.inj hx
          have hdot : '.' ∈ outsideQuotes (a ++ '.' :: x) := by
            rw [hbalanced]
            exact List.mem_append_right _ List.mem_cons_self
          exact absurd rfl (hletter.nameChar (hi.nameChar_of_mem hletter hdot)).2.1
    · exact hx
  constructor
  · have hdot : '.' ∈ x ++ '.' :: b := List.mem_append_right _ List.mem_cons_self
    rw [← Bool.not_eq_true, atEnd, Bool.or_eq_true, beq_iff_eq, beq_iff_eq]
    rintro (hnil | hfeed)
    · rw [hnil] at hdot
      cases hdot
    · rw [hfeed] at hdot
      exact absurd hdot (by decide)
  · obtain ⟨s, hs, heq | ⟨-, heq⟩⟩ := Identifier.exists_isStored_of_isWritten hletter hi
    · rwa [heq]
    · have hfeed : '\n' ∈ Identifier.canonical i := by
        rw [heq]
        exact List.mem_append_right _ List.mem_cons_self
      exact absurd (List.mem_append_left _ (Identifier.mem_of_mem_canonical hfeed)) hline

end Text.Dotted

/-! ## Bodies that are read -/

namespace Form

variable {form : Form} {defaultSchema body phrase t : Text} {parts : Text × Text}

/-- An identifier that is read as a whole closes its quotes. -/
theorem balanced_of_readIdentifier {i : Text} (h : readIdentifier t = some i) : Balanced t := by
  obtain ⟨hi, rfl | rfl⟩ := Identifier.isWritten_of_whole h
  · exact hi.balanced isLetter_letter
  · exact (hi.balanced isLetter_letter).append (balanced_of_not_mem (by decide))

/-- So do two of them. -/
theorem balanced_of_readQualified {target : Text} (h : readQualified t = some target) :
    Balanced t := by
  obtain ⟨⟨i, j⟩, hread, -⟩ := Option.map_eq_some_iff.mp h
  obtain ⟨hi, hj, heq⟩ := Identifier.isWritten_of_qualified hread
  have hdot : Balanced ['.'] := balanced_of_not_mem (by decide)
  have hboth : Balanced (i ++ ('.' :: j)) :=
    (hi.balanced isLetter_letter).append (hdot.append (hj.balanced isLetter_letter))
  rcases heq with rfl | rfl
  · exact hboth
  · rw [← List.cons_append, ← List.append_assoc]
    exact hboth.append (balanced_of_not_mem (by decide))

/-- A phrase does not open quotes. -/
theorem balanced_of_readTarget {target : Text} (hphrase : '"' ∉ phrase)
    (h : readTarget phrase t = some target) : Balanced t := by
  obtain ⟨w, rest, i, rfl, rfl, hread, -⟩ := exists_append_of_readTarget h
  have hquote : '"' ∉ w := fun hmem => hphrase (List.mem_map_of_mem (f := Text.fold) hmem)
  exact (balanced_of_not_mem hquote).append (balanced_of_readIdentifier hread)

/-- Nor does a verb. -/
theorem balanced_of_readVerb {target : Text → Option Text}
    (htarget : ∀ rest u, target rest = some u → Balanced rest)
    (h : readVerb target body = some parts) : Balanced body := by
  obtain ⟨v, rest, hsplit, hread, -⟩ := exists_splitOn_of_readVerb h
  obtain ⟨front, rfl, hfront⟩ := Verb.exists_append_of_splitOn hsplit
  have hquote : '"' ∉ front := fun hmem => absurd (hfront _ hmem) (by decide)
  exact (balanced_of_not_mem hquote).append (htarget _ _ hread)

/-- A body that is read closes the quotes that it opens. -/
theorem balanced_of_read (h : form.read defaultSchema body = some parts) : Balanced body := by
  have htarget : ∀ {phrase name : Text}, '"' ∉ phrase →
      (readTarget phrase body).map (fun target => (name, target)) = some parts →
        Balanced body := by
    intro phrase name hphrase hread
    obtain ⟨target, htarget, -⟩ := Option.map_eq_some_iff.mp hread
    exact balanced_of_readTarget hphrase htarget
  cases form with
  | usergroup => exact htarget (by decide) h
  | columnKey => exact htarget (by decide) h
  | structured => exact htarget (by decide) h
  | source => exact balanced_of_readVerb (fun _ _ => balanced_of_readTarget (by decide)) h
  | schema => exact balanced_of_readVerb (fun _ _ => balanced_of_readTarget (by decide)) h
  | qualifiedObject => exact balanced_of_readVerb (fun _ _ => balanced_of_readQualified) h
  | object =>
      refine balanced_of_readVerb (fun rest u hu => ?_) h
      obtain ⟨i, hread, -⟩ := Option.map_eq_some_iff.mp hu
      exact balanced_of_readIdentifier hread
  | system =>
      rw [read] at h
      split at h
      · next hverb =>
        refine balanced_of_not_mem fun hmem => ?_
        rcases mem_dropFinalNewline hmem with hmem | hfeed
        · exact absurd (Verb.isLetter_or_blank hverb hmem) (by decide)
        · exact absurd hfeed (by decide)
      · cases h

end Form

/-- A grant string that is read has an even number of quotes. -/
theorem Privilege.balanced_of_parse {raw defaultSchema : Text} {p : Privilege}
    (h : parse raw defaultSchema = .ok p) : Balanced raw := by
  obtain ⟨form, body, name, target, grantable, hsplit, hfirst, -⟩ := exists_read_of_parse h
  have hbody := balanced_iff.mp (Form.balanced_of_read (Form.firstRead_eq_some_iff.mp hfirst).1)
  obtain ⟨z, heq, hz⟩ := GrantOption.exists_append_of_split (splitGrant_eq_ok_iff.mp hsplit)
  have hquote : '"' ∉ z := fun hmem => absurd (hz _ hmem) (by decide)
  rw [balanced_iff, ← count_normalize, heq, List.count_append,
    List.count_eq_zero_of_not_mem hquote, Nat.add_zero, hbody]

end AccessGrants
