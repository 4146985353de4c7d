import AccessGrants.Privilege.Form
import AccessGrants.Text.Blank
import Mathlib.Data.List.TakeWhile

/-!
# Words of a text

A text is the row of its words with the separator between each two, and the words of two texts with a
separator between them are the words of both.

* `Text.join_splitBy`, `Text.splitBy_append`, `Text.join_append`, `Text.splitBy_of_not_mem`: a text
  and its words.
* `Text.exists_splitBy_append`: what is put after a text without a separator lengthens its last
  word.
* `Text.splitBy_map`: words are replaced letter by letter.
* `Text.splitAtFirst_eq_some_iff`: a text is cut before and after its first separator.
* `Text.trim_eq_self`: a text that begins and ends well is not trimmed.
-/

namespace AccessGrants

namespace Text

variable {c : Char} {t u : Text}

/-! ## Cutting and joining -/

/-- A text has at least one part. -/
theorem splitBy_ne_nil (c : Char) (t : Text) : splitBy c t ≠ [] := by
  induction t with
  | nil => exact List.cons_ne_nil _ _
  | cons d r ih =>
      rw [splitBy]
      cases hr : splitBy c r with
      | nil => exact absurd hr ih
      | cons w ws =>
          dsimp only
          split <;> exact List.cons_ne_nil _ _

/-- A separator begins a new word. -/
@[simp] theorem splitBy_cons_self (c : Char) (r : Text) :
    splitBy c (c :: r) = [] :: splitBy c r := by
  rw [splitBy]
  cases hr : splitBy c r with
  | nil => exact absurd hr (splitBy_ne_nil c r)
  | cons w ws => simp

/-- Any other character belongs to the first word. -/
theorem splitBy_cons_of_ne {d : Char} {r w : Text} {ws : List Text} (hd : d ≠ c)
    (hr : splitBy c r = w :: ws) : splitBy c (d :: r) = (d :: w) :: ws := by
  rw [splitBy, hr]
  simp [hd]

/-- A text without a separator is one word. -/
theorem splitBy_of_not_mem (h : c ∉ t) : splitBy c t = [t] := by
  induction t with
  | nil => rfl
  | cons d r ih =>
      rw [List.mem_cons, not_or] at h
      exact splitBy_cons_of_ne (Ne.symm h.1) (ih h.2)

/-- A character of a text is a separator or stands in a word. -/
theorem exists_mem_splitBy {d : Char} (h : d ∈ t) : d = c ∨ ∃ w ∈ splitBy c t, d ∈ w := by
  induction t with
  | nil => cases h
  | cons e r ih =>
      by_cases he : e = c
      · rw [he] at h ⊢
        rw [splitBy_cons_self]
        rcases List.mem_cons.mp h with rfl | h
        · exact .inl rfl
        · exact (ih h).imp_right fun ⟨w, hw, hd⟩ => ⟨w, List.mem_cons_of_mem _ hw, hd⟩
      · obtain ⟨v, vs, hr⟩ := List.exists_cons_of_ne_nil (splitBy_ne_nil c r)
        rw [splitBy_cons_of_ne he hr]
        rw [hr] at ih
        rcases List.mem_cons.mp h with rfl | h
        · exact .inr ⟨_, List.mem_cons_self, List.mem_cons_self⟩
        · refine (ih h).imp_right ?_
          rintro ⟨w, hw, hd⟩
          rcases List.mem_cons.mp hw with rfl | hw
          · exact ⟨_, List.mem_cons_self, List.mem_cons_of_mem _ hd⟩
          · exact ⟨w, List.mem_cons_of_mem _ hw, hd⟩

/-- What stands in a word stands in the text. -/
theorem mem_of_mem_splitBy {d : Char} {w : Text} (hw : w ∈ splitBy c t) (hd : d ∈ w) : d ∈ t := by
  induction t generalizing w with
  | nil =>
      rw [splitBy, List.mem_singleton] at hw
      rwa [hw] at hd
  | cons e r ih =>
      by_cases he : e = c
      · rw [he, splitBy_cons_self] at hw
        rcases List.mem_cons.mp hw with rfl | hw
        · cases hd
        · exact List.mem_cons_of_mem _ (ih hw hd)
      · obtain ⟨v, vs, hr⟩ := List.exists_cons_of_ne_nil (splitBy_ne_nil c r)
        rw [splitBy_cons_of_ne he hr] at hw
        rw [hr] at ih
        rcases List.mem_cons.mp hw with rfl | hw
        · rcases List.mem_cons.mp hd with rfl | hd
          · exact List.mem_cons_self
          · exact List.mem_cons_of_mem _ (ih List.mem_cons_self hd)
        · exact List.mem_cons_of_mem _ (ih (List.mem_cons_of_mem _ hw) hd)

/-- The words of two texts with a separator between them are the words of both. -/
theorem splitBy_append (c : Char) (t u : Text) :
    splitBy c (t ++ c :: u) = splitBy c t ++ splitBy c u := by
  induction t with
  | nil => rw [List.nil_append, splitBy_cons_self, splitBy, List.singleton_append]
  | cons d r ih =>
      rw [List.cons_append]
      by_cases hd : d = c
      · rw [hd, splitBy_cons_self, splitBy_cons_self, ih, List.cons_append]
      · obtain ⟨w, ws, hr⟩ := List.exists_cons_of_ne_nil (splitBy_ne_nil c r)
        rw [hr, List.cons_append] at ih
        rw [splitBy_cons_of_ne hd ih, splitBy_cons_of_ne hd hr, List.cons_append]

/-- What stands after the last separator of a text is lengthened by what follows without one. -/
theorem exists_splitBy_append (h : c ∉ u) :
    ∃ ws w, splitBy c t = ws ++ [w] ∧ splitBy c (t ++ u) = ws ++ [w ++ u] := by
  induction t with
  | nil => exact ⟨[], [], rfl, splitBy_of_not_mem h⟩
  | cons d r ih =>
      obtain ⟨ws, w, hr, hru⟩ := ih
      by_cases hd : d = c
      · refine ⟨[] :: ws, w, ?_, ?_⟩
        · rw [hd, splitBy_cons_self, hr, List.cons_append]
        · rw [hd, List.cons_append, splitBy_cons_self, hru, List.cons_append]
      · cases ws with
        | nil =>
            exact ⟨[], d :: w, splitBy_cons_of_ne hd hr, splitBy_cons_of_ne hd hru⟩
        | cons v vs =>
            exact ⟨(d :: v) :: vs, w, splitBy_cons_of_ne hd hr, splitBy_cons_of_ne hd hru⟩

/-- Between two parts of a joined text stands one separator. -/
theorem join_cons_cons (c : Char) (v w : Text) (ws : List Text) :
    join [c] (v :: w :: ws) = v ++ c :: join [c] (w :: ws) := by
  rw [join, List.intercalate_cons_cons, List.append_assoc]
  rfl

/-- What follows a row of words with a separator follows the first of them so. -/
theorem exists_join_append (c : Char) (w : Text) (ws : List Text) (u : Text) :
    ∃ rest, join [c] (w :: ws) ++ c :: u = w ++ c :: rest := by
  cases ws with
  | nil => exact ⟨u, by rw [join_singleton]⟩
  | cons v vs => exact ⟨_, by rw [join_cons_cons, List.append_assoc, List.cons_append]⟩

/-- A character of a row of words is a separator or stands in a word. -/
theorem exists_mem_of_mem_join {d : Char} {ws : List Text} (h : d ∈ join [c] ws) :
    d = c ∨ ∃ w ∈ ws, d ∈ w := by
  induction ws with
  | nil => cases h
  | cons w ws ih =>
      cases ws with
      | nil =>
          rw [join_singleton] at h
          exact .inr ⟨w, List.mem_cons_self, h⟩
      | cons v vs =>
          rw [join_cons_cons, List.mem_append, List.mem_cons] at h
          rcases h with h | h | h
          · exact .inr ⟨w, List.mem_cons_self, h⟩
          · exact .inl h
          · exact (ih h).imp_right fun ⟨u, hu, hd⟩ => ⟨u, List.mem_cons_of_mem _ hu, hd⟩

/-- A row of words is cut anywhere at a separator. -/
theorem join_append (c : Char) {vs ws : List Text} (hvs : vs ≠ []) (hws : ws ≠ []) :
    join [c] (vs ++ ws) = join [c] vs ++ c :: join [c] ws := by
  induction vs with
  | nil => exact absurd rfl hvs
  | cons v vs ih =>
      obtain ⟨w, ws, rfl⟩ := List.exists_cons_of_ne_nil hws
      cases vs with
      | nil => rw [List.singleton_append, join_cons_cons, join_singleton]
      | cons v' vs =>
          rw [List.cons_append, List.cons_append, join_cons_cons, ← List.cons_append,
            ih (List.cons_ne_nil _ _), join_cons_cons, List.append_assoc, List.cons_append]

/-- Joining the words of a text gives the text back. -/
theorem join_splitBy (c : Char) (t : Text) : join [c] (splitBy c t) = t := by
  induction t with
  | nil => rfl
  | cons d r ih =>
      obtain ⟨w, ws, hr⟩ := List.exists_cons_of_ne_nil (splitBy_ne_nil c r)
      by_cases hd : d = c
      · rw [hd, splitBy_cons_self, hr, join_cons_cons, ← hr, ih, List.nil_append]
      · rw [splitBy_cons_of_ne hd hr]
        rw [hr] at ih
        cases ws with
        | nil => simpa using ih
        | cons v vs =>
            rw [join_cons_cons] at ih ⊢
            rw [List.cons_append, ih]

/-- A text without a separator is not cut. -/
theorem splitAtFirst_of_not_mem (h : c ∉ t) : splitAtFirst c t = none := by
  induction t with
  | nil => rfl
  | cons d r ih =>
      rw [List.mem_cons, not_or] at h
      rw [splitAtFirst, if_neg (Ne.symm h.1), ih h.2]
      rfl

/-- A text with a separator is cut at the first one. -/
theorem splitAtFirst_eq_some_iff {v : Text} :
    splitAtFirst c t = some (u, v) ↔ t = u ++ c :: v ∧ c ∉ u := by
  induction t generalizing u with
  | nil => simp [splitAtFirst]
  | cons d r ih =>
      rw [splitAtFirst]
      split
      · next hd =>
        rw [hd, Option.some.injEq, Prod.mk.injEq]
        constructor
        · rintro ⟨rfl, rfl⟩
          exact ⟨rfl, List.not_mem_nil⟩
        · rintro ⟨heq, hfirst⟩
          cases u with
          | nil => exact ⟨rfl, List.tail_eq_of_cons_eq heq⟩
          | cons e u =>
              rw [List.cons_append, List.cons.injEq] at heq
              exact absurd (heq.1 ▸ List.mem_cons_self) hfirst
      · next hd =>
        constructor
        · intro h
          obtain ⟨⟨u', v'⟩, hr, hparts⟩ := Option.map_eq_some_iff.mp h
          cases hparts
          obtain ⟨rfl, hfirst⟩ := ih.mp hr
          exact ⟨rfl, List.not_mem_cons_of_ne_of_not_mem (Ne.symm hd) hfirst⟩
        · rintro ⟨heq, hfirst⟩
          cases u with
          | nil => exact absurd (List.cons.inj heq).1 hd
          | cons e u =>
              rw [List.cons_append, List.cons.injEq] at heq
              obtain ⟨rfl, rfl⟩ := heq
              rw [List.mem_cons, not_or] at hfirst
              rw [ih.mpr ⟨rfl, hfirst.2⟩]
              rfl

/-- Two texts that are cut at their first separators are the same if their parts are. -/
theorem append_separator_inj {t' u' : Text} (ht : c ∉ t) (ht' : c ∉ t') :
    t ++ c :: u = t' ++ c :: u' ↔ t = t' ∧ u = u' := by
  constructor
  · intro h
    have hcut : splitAtFirst c (t' ++ c :: u') = some (t, u) :=
      splitAtFirst_eq_some_iff.mpr ⟨h.symm, ht⟩
    rw [splitAtFirst_eq_some_iff.mpr ⟨rfl, ht'⟩, Option.some.injEq, Prod.mk.injEq] at hcut
    exact ⟨hcut.1.symm, hcut.2.symm⟩
  · rintro ⟨rfl, rfl⟩
    rfl

/-- A map of characters that neither makes nor removes separators maps the words. -/
theorem splitBy_map {f : Char → Char} (hf : ∀ d, f d = c ↔ d = c) (t : Text) :
    splitBy c (t.map f) = (splitBy c t).map (List.map f) := by
  induction t with
  | nil => rfl
  | cons d r ih =>
      rw [List.map_cons]
      by_cases hd : d = c
      · rw [(hf d).mpr hd, hd, splitBy_cons_self, splitBy_cons_self, ih, List.map_cons, List.map_nil]
      · obtain ⟨w, ws, hr⟩ := List.exists_cons_of_ne_nil (splitBy_ne_nil c r)
        rw [hr, List.map_cons] at ih
        rw [splitBy_cons_of_ne (fun h => hd ((hf d).mp h)) ih, splitBy_cons_of_ne hd hr,
          List.map_cons, List.map_cons]

/-! ## Ends -/

/-- The characters of a class are cut off a text up to the first one that stays. -/
theorem cut_while {p : Char → Bool} {u : Text} (hu : ∀ d ∈ u, p d = true)
    (ht : ∀ d ∈ t.head?, p d = false) :
    (u ++ t).takeWhile p = u ∧ (u ++ t).dropWhile p = t := by
  rw [List.takeWhile_append_of_pos hu, List.dropWhile_append_of_pos hu]
  cases t with
  | nil => exact ⟨List.append_nil u, rfl⟩
  | cons d r =>
      have hd : ¬ p d = true := Bool.eq_false_iff.mp (ht d rfl)
      rw [List.takeWhile_cons_of_neg hd, List.dropWhile_cons_of_neg hd, List.append_nil]
      exact ⟨rfl, rfl⟩

/-- A text whose first and last characters stay is not trimmed. -/
theorem trim_eq_self {p : Char → Bool} (hfirst : ∀ d ∈ t.head?, p d = false)
    (hlast : ∀ d ∈ t.getLast?, p d = false) : trim p t = t := by
  have hdrop : ∀ {u : Text}, (∀ d ∈ u.head?, p d = false) → u.dropWhile p = u := by
    intro u hu
    have hnone : ∀ d ∈ ([] : Text), p d = true := nofun
    exact (cut_while hnone hu).2
  unfold trim
  rw [hdrop hfirst, hdrop fun d hd => hlast d (by rwa [List.getLast?_eq_head?_reverse]),
    List.reverse_reverse]

/-- A character that stays separates what is trimmed off the start from what is trimmed off the end. -/
theorem trim_append_cons {p : Char → Bool} {d : Char} (hd : p d = false) (t u : Text) :
    trim p (t ++ d :: u) = t.dropWhile p ++ d :: (u.reverse.dropWhile p).reverse := by
  have hdrop : ∀ v w : Text, (v ++ d :: w).dropWhile p = v.dropWhile p ++ d :: w := by
    intro v w
    rw [List.dropWhile_append]
    split
    · next hnil =>
      rw [List.isEmpty_iff.mp hnil, List.dropWhile_cons_of_neg (Bool.eq_false_iff.mp hd),
        List.nil_append]
    · rfl
  rw [trim, hdrop, List.reverse_append, List.reverse_cons, List.append_assoc, List.singleton_append,
    hdrop, List.reverse_append, List.reverse_cons, List.reverse_reverse, List.append_assoc,
    List.singleton_append]

/-- Trimming the front of a text leaves the trimmed text and what is trimmed off its back. -/
theorem dropWhile_eq_trim_append (p : Char → Bool) (t : Text) :
    t.dropWhile p = trim p t ++ ((t.dropWhile p).reverse.takeWhile p).reverse := by
  rw [trim, ← List.reverse_append, List.takeWhile_append_dropWhile, List.reverse_reverse]

/-- A trimmed text stands in the text between what was trimmed off. -/
theorem exists_eq_append_trim (p : Char → Bool) (t : Text) :
    ∃ a z, t = a ++ (trim p t ++ z) ∧ (∀ d ∈ a, p d = true) ∧ ∀ d ∈ z, p d = true := by
  have hfront : t = t.takeWhile p ++ t.dropWhile p := List.takeWhile_append_dropWhile.symm
  exact ⟨t.takeWhile p, _, by rw [← dropWhile_eq_trim_append, ← hfront],
    fun d hd => List.mem_takeWhile_imp hd,
    fun d hd => List.mem_takeWhile_imp (List.mem_reverse.mp hd)⟩

/-- A trimmed text begins with a character that stays. -/
theorem head?_trim (p : Char → Bool) (t : Text) : ∀ d ∈ (trim p t).head?, p d = false := by
  intro d hd
  obtain ⟨r, hr⟩ := List.head?_eq_some_iff.mp hd
  have hfirst := List.head?_dropWhile_not p t
  rw [dropWhile_eq_trim_append, hr, List.cons_append] at hfirst
  simpa using hfirst

/-- A trimmed text ends with a character that stays. -/
theorem getLast?_trim (p : Char → Bool) (t : Text) : ∀ d ∈ (trim p t).getLast?, p d = false := by
  intro d hd
  rw [trim, List.getLast?_reverse] at hd
  have hlast := List.head?_dropWhile_not p (t.dropWhile p).reverse
  rw [hd] at hlast
  simpa using hlast

/-- Trimming a text brings in no characters. -/
theorem mem_of_mem_trim {p : Char → Bool} (h : c ∈ trim p t) : c ∈ t := by
  obtain ⟨a, z, ht, -⟩ := exists_eq_append_trim p t
  rw [ht]
  exact List.mem_append_right _ (List.mem_append_left _ h)

/-- Nothing but a line feed is dropped from the end of a text. -/
theorem mem_dropFinalNewline (h : c ∈ t) : c ∈ dropFinalNewline t ∨ c = '\n' := by
  induction t with
  | nil => cases h
  | cons d r ih =>
      unfold dropFinalNewline
      split
      · next heq => cases heq
      · next heq =>
        cases heq
        exact .inr (List.mem_singleton.mp h)
      · next heq =>
        cases heq
        rcases List.mem_cons.mp h with rfl | h
        · exact .inl List.mem_cons_self
        · exact (ih h).imp_left (List.mem_cons_of_mem _)

/-- A text is what is left of it, or that and a line feed. -/
theorem eq_or_eq_append_of_dropFinalNewline (t : Text) :
    t = dropFinalNewline t ∨ t = dropFinalNewline t ++ ['\n'] := by
  induction t with
  | nil => exact .inl rfl
  | cons d r ih =>
      unfold dropFinalNewline
      split
      · next heq => cases heq
      · next heq => exact .inr heq
      · next heq =>
        cases heq
        rcases ih with h | h
        · exact .inl (congrArg _ h)
        · exact .inr (congrArg _ h)

/-- What stands before any other character is no matter. -/
theorem dropFinalNewline_append_cons (h : c ≠ '\n') (t u : Text) :
    dropFinalNewline (t ++ c :: u) = t ++ c :: dropFinalNewline u := by
  induction t with
  | nil =>
      rw [List.nil_append, List.nil_append, dropFinalNewline]
      exact fun heq => absurd heq h
  | cons d r ih =>
      rw [List.cons_append, dropFinalNewline, ih, List.cons_append]
      simp

/-- A line feed at the end is dropped. -/
theorem dropFinalNewline_append_newline (t : Text) : dropFinalNewline (t ++ ['\n']) = t := by
  induction t with
  | nil => rfl
  | cons d r ih =>
      rw [List.cons_append, dropFinalNewline, ih]
      simp

/-- A text that does not end with a line feed keeps its end. -/
theorem dropFinalNewline_eq_self (h : t.getLast? ≠ some '\n') : dropFinalNewline t = t := by
  induction t with
  | nil => rfl
  | cons d r ih =>
      cases r with
      | nil =>
          rw [List.getLast?_singleton] at h
          unfold dropFinalNewline
          split <;> simp_all
      | cons e r =>
          rw [List.getLast?_cons_cons] at h
          rw [dropFinalNewline, ih h]
          simp

/-- A text on one line is left as it is. -/
theorem dropFinalNewline_of_not_mem (h : '\n' ∉ t) : dropFinalNewline t = t :=
  dropFinalNewline_eq_self fun hlast => h (List.mem_of_getLast? hlast)

end Text

end AccessGrants
