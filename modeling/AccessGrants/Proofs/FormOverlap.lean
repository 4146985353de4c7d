import AccessGrants.Proofs.CanonicalForms

/-!
# Overlap of the forms

A body is read by one form at most, but for a structured privilege that is a verb as well. What stands
after the word `ON` tells the forms with a target apart: it begins with a word of its own for each of
them, or it is one identifier, or two.

* `Form.readAfterOn`: what a form reads after the word `ON`.
* `Form.eq_of_readAfterOn`: it is read by one form.
* `Form.eq_or_of_read`: no two other forms read the same body.
* `Form.firstRead_eq_some_iff`: so the order of the forms matters only to the last two.
-/

namespace AccessGrants

namespace Form

variable {form other : Form} {defaultSchema body rest t u : Text} {parts others : Text × Text}

/-! ## After `ON` -/

/-- The first word after `ON` in the forms that have one before the target. -/
def firstWord? : Form → Option Text
  | .usergroup => some "USERGROUP".toList
  | .columnKey => some "CLIENTSIDE".toList
  | .source => some "REMOTE".toList
  | .schema => some "SCHEMA".toList
  | _ => none

/-- The target that a form reads after `ON`. -/
def readAfterOn (defaultSchema : Text) : Form → Text → Option Text
  | .usergroup, rest => readTarget "USERGROUP ".toList rest
  | .columnKey, rest => readTarget "CLIENTSIDE ENCRYPTION COLUMN KEY ".toList rest
  | .source, rest => readTarget "REMOTE SOURCE ".toList rest
  | .schema, rest => readTarget "SCHEMA ".toList rest
  | .qualifiedObject, rest => readQualified rest
  | .object, rest =>
    (readIdentifier rest).map fun object => inSchema defaultSchema (Identifier.canonical object)
  | .structured, _ => none
  | .system, _ => none

/-- A body that a form with a target after `ON` reads has a verb, and the target follows it. -/
theorem exists_splitOn_of_read (hform : form ≠ .structured ∧ form ≠ .system)
    (h : form.read defaultSchema body = some parts) :
    ∃ v rest, Verb.splitOn body = some (v, rest) ∧
      form.readAfterOn defaultSchema rest = some parts.2 := by
  -- a phrase with `ON` in it is a verb and what follows
  have hphrase : ∀ (verb : Text) {phrase name : Text}, Verb.isVerb verb = true →
      (readTarget (verb ++ (" ON ".toList ++ phrase)) body).map (fun target => (name, target)) =
        some parts →
      ∃ v rest, Verb.splitOn body = some (v, rest) ∧ readTarget phrase rest = some parts.2 := by
    intro verb phrase name hverb hread
    obtain ⟨target, htarget, rfl⟩ := Option.map_eq_some_iff.mp hread
    obtain ⟨r, hdrop, hread⟩ := readTarget_iff_dropPhrase.mp htarget
    obtain ⟨v, rest, hsplit, -, hrest⟩ := Verb.splitOn_of_dropPhrase hverb hdrop
    exact ⟨v, rest, hsplit, readTarget_iff_dropPhrase.mpr ⟨r, hrest, hread⟩⟩
  have hverb : ∀ {target : Text → Option Text}, readVerb target body = some parts →
      ∃ v rest, Verb.splitOn body = some (v, rest) ∧ target rest = some parts.2 := by
    intro target hread
    obtain ⟨v, rest, hsplit, ht, -⟩ := exists_splitOn_of_readVerb hread
    exact ⟨v, rest, hsplit, ht⟩
  cases form with
  | usergroup => exact hphrase "USERGROUP OPERATOR".toList (by decide) h
  | columnKey => exact hphrase "USAGE".toList (by decide) h
  | source => exact hverb h
  | schema => exact hverb h
  | qualifiedObject => exact hverb h
  | object => exact hverb h
  | structured => exact absurd rfl hform.1
  | system => exact absurd rfl hform.2

/-- What a form reads after its first word begins with that word. -/
theorem exists_word_of_readAfterOn {word : Text} (hword : form.firstWord? = some word)
    (h : form.readAfterOn defaultSchema rest = some t) :
    ∃ w u, rest = w ++ ' ' :: u ∧ w.map Text.fold = word := by
  have hphrase : ∀ {word : Text} (phrase : Text), readTarget (word ++ ' ' :: phrase) rest = some t →
      ∃ w u, rest = w ++ ' ' :: u ∧ w.map Text.fold = word := by
    intro word phrase hread
    obtain ⟨_, hdrop, -⟩ := readTarget_iff_dropPhrase.mp hread
    exact exists_word_of_dropPhrase hdrop
  cases form with
  | usergroup =>
      cases hword
      exact hphrase [] h
  | columnKey =>
      cases hword
      exact hphrase "ENCRYPTION COLUMN KEY ".toList h
  | source =>
      cases hword
      exact hphrase "SOURCE ".toList h
  | schema =>
      cases hword
      exact hphrase [] h
  | _ => cases hword

/-- A text that begins with a word of letters and a blank is no identifier, nor two. -/
theorem readAfterOn_word_eq_none {word w : Text} (hother : other.firstWord? = none)
    (hne : word ≠ []) (hword : word.all Char.isUpper = true) (hw : w.map Text.fold = word)
    (u : Text) : other.readAfterOn defaultSchema (w ++ ' ' :: u) = none := by
  have hread := read_word_append hne hword hw u
  cases other with
  | qualifiedObject =>
      rw [readAfterOn, readQualified, Identifier.qualified, hread]
      rfl
  | object =>
      rw [readAfterOn, readIdentifier, Identifier.whole, hread]
      rfl
  | structured => rfl
  | system => rfl
  | _ => cases hother

/-- No two forms begin with the same word after `ON`. -/
theorem firstWord?_injective (hword : form.firstWord? ≠ none)
    (h : form.firstWord? = other.firstWord?) : form = other := by
  revert hword h
  cases form <;> cases other <;> decide

/-- What stands after `ON` and begins with no such word is an object. -/
theorem object_of_readAfterOn (hword : form.firstWord? = none)
    (h : form.readAfterOn defaultSchema rest = some t) :
    form = .qualifiedObject ∨ form = .object := by
  cases form with
  | qualifiedObject => exact .inl rfl
  | object => exact .inr rfl
  | structured => cases h
  | system => cases h
  | _ => cases hword

/-- What stands after `ON` is read by one form. -/
theorem eq_of_readAfterOn (h : form.readAfterOn defaultSchema rest = some t)
    (hother : other.readAfterOn defaultSchema rest = some u) : form = other := by
  have hwords : ∀ {f : Form} {word : Text}, f.firstWord? = some word →
      word ≠ [] ∧ word.all Char.isUpper = true ∧ ' ' ∉ word := by
    intro f word hf
    cases f <;> cases hf <;> decide
  -- a word of one of them is no target of another
  have hapart : ∀ {f g : Form} {word x y : Text}, f.firstWord? = some word →
      g.firstWord? = none → f.readAfterOn defaultSchema rest = some x →
      ¬ g.readAfterOn defaultSchema rest = some y := by
    intro f g word x y hf hg hx hy
    obtain ⟨hne, hupper, -⟩ := hwords hf
    obtain ⟨w, v, rfl, hw⟩ := exists_word_of_readAfterOn hf hx
    rw [readAfterOn_word_eq_none hg hne hupper hw] at hy
    cases hy
  rcases hf : form.firstWord? with _ | word <;> rcases hg : other.firstWord? with _ | word'
  · -- one identifier is not two
    have hone : ∀ {x y : Text}, Form.qualifiedObject.readAfterOn defaultSchema rest = some x →
        ¬ Form.object.readAfterOn defaultSchema rest = some y := by
      intro x y hx hy
      obtain ⟨⟨i, j⟩, hpair, -⟩ := Option.map_eq_some_iff.mp hx
      obtain ⟨k, hwhole, -⟩ := Option.map_eq_some_iff.mp hy
      obtain ⟨_, hfirst, -⟩ := Identifier.exists_read_of_qualified hpair
      obtain ⟨_, hread, hend⟩ := Identifier.exists_read_of_whole hwhole
      rw [hfirst] at hread
      cases hread
      cases hend
    rcases object_of_readAfterOn hf h with rfl | rfl <;>
      rcases object_of_readAfterOn hg hother with rfl | rfl
    · rfl
    · exact absurd hother (hone h)
    · exact absurd h (hone hother)
    · rfl
  · exact absurd h (hapart hg hf hother)
  · exact absurd hother (hapart hf hg h)
  · obtain ⟨w, v, hrest, hw⟩ := exists_word_of_readAfterOn hf h
    obtain ⟨w', v', hrest', hw'⟩ := exists_word_of_readAfterOn hg hother
    have hblank : ∀ {w word : Text}, w.map Text.fold = word → ' ' ∉ word → ' ' ∉ w :=
      fun hw hword hmem => hword (hw ▸ List.mem_map_of_mem (f := Text.fold) hmem)
    have hsame : w = w' := Verb.word_eq_of_append_eq (hblank hw (hwords hf).2.2)
      (hblank hw' (hwords hg).2.2) (hrest.symm.trans hrest')
    refine firstWord?_injective (hf ▸ Option.some_ne_none word) ?_
    rw [hf, hg, ← hw, ← hw', hsame]

/-! ## Bodies -/

/-- A body that the form for verbs alone reads has no word `ON` after a verb. -/
theorem splitOn_of_read_system (h : Form.system.read defaultSchema body = some parts) :
    Verb.splitOn body = none := by
  rw [Option.eq_none_iff_forall_ne_some]
  rintro ⟨v, rest⟩ hsplit
  have hfalse := Verb.isVerb_eq_false_of_splitOn (Verb.splitOn_dropFinalNewline hsplit)
  rw [read, hfalse] at h
  cases h

/-- No two forms read the same body, but for the last two. -/
theorem eq_or_of_read (h : form.read defaultSchema body = some parts)
    (hother : other.read defaultSchema body = some others) :
    form = other ∨ (form = .structured ∧ other = .system) ∨
      (form = .system ∧ other = .structured) := by
  -- a form with a target after `ON` shares a body with no other form
  have hon : ∀ {f g : Form} {x y : Text × Text}, f ≠ .structured ∧ f ≠ .system →
      f.read defaultSchema body = some x → g.read defaultSchema body = some y → f = g := by
    intro f g x y hf hx hy
    obtain ⟨v, rest, hsplit, hrest⟩ := exists_splitOn_of_read hf hx
    have hg : g ≠ .structured ∧ g ≠ .system := by
      constructor
      · rintro rfl
        rw [splitOn_of_read_structured hy] at hsplit
        cases hsplit
      · rintro rfl
        rw [splitOn_of_read_system hy] at hsplit
        cases hsplit
    obtain ⟨v', rest', hsplit', hrest'⟩ := exists_splitOn_of_read hg hy
    rw [hsplit, Option.some.injEq, Prod.mk.injEq] at hsplit'
    obtain ⟨-, rfl⟩ := hsplit'
    exact eq_of_readAfterOn hrest hrest'
  have hlast : ∀ {f : Form}, ¬ (f ≠ .structured ∧ f ≠ .system) → f = .structured ∨ f = .system := by
    intro f hf
    rwa [not_and_or, not_not, not_not] at hf
  by_cases hf : form ≠ .structured ∧ form ≠ .system
  · exact .inl (hon hf h hother)
  · by_cases hg : other ≠ .structured ∧ other ≠ .system
    · exact .inl (hon hg hother h).symm
    · rcases hlast hf with rfl | rfl <;> rcases hlast hg with rfl | rfl
      · exact .inl rfl
      · exact .inr (.inl ⟨rfl, rfl⟩)
      · exact .inr (.inr ⟨rfl, rfl⟩)
      · exact .inl rfl

/-- The first form that reads a body is the one that reads it, and a structured privilege is no
system privilege. -/
theorem firstRead_eq_some_iff : firstRead all defaultSchema body = some (form, parts) ↔
    form.read defaultSchema body = some parts ∧
      (form = .system → Form.structured.read defaultSchema body = none) := by
  constructor
  · intro h
    obtain ⟨f, hf, hread⟩ := List.exists_of_findSome?_eq_some h
    obtain ⟨_, hparts, heq⟩ := Option.map_eq_some_iff.mp hread
    cases heq
    refine ⟨hparts, ?_⟩
    rintro rfl
    rw [Option.eq_none_iff_forall_ne_some]
    intro others hothers
    rw [firstRead_of_splitOn_none (splitOn_of_read_structured hothers),
      firstRead_cons_of_some hothers] at h
    cases h
  · rintro ⟨hread, hsystem⟩
    -- no form before this one reads the body
    have hbefore : ∀ other ∈ all.takeWhile (· != form), other.read defaultSchema body = none := by
      intro other hother
      rw [Option.eq_none_iff_forall_ne_some]
      intro others hothers
      rcases eq_or_of_read hread hothers with rfl | ⟨rfl, rfl⟩ | ⟨rfl, rfl⟩
      · simpa using List.mem_takeWhile_imp hother
      · exact absurd hother (by decide)
      · rw [hsystem rfl] at hothers
        cases hothers
    have hall : ∃ after, all = all.takeWhile (· != form) ++ form :: after := by
      cases form <;> exact ⟨_, rfl⟩
    obtain ⟨after, hall⟩ := hall
    refine List.findSome?_eq_some_iff.mpr ⟨_, form, after, hall, ?_, fun other hother => ?_⟩
    · rw [hread]
      rfl
    · rw [hbefore other hother]
      rfl

end Form

end AccessGrants
