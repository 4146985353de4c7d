import AccessGrants.Proofs.Ascii
import Mathlib.Data.List.DropRight
import Mathlib.Data.List.Forall2

/-!
# Letters in upper case outside the quotes

Two texts that differ only in the case of ASCII letters outside the quoted spans have the same raised
text, in which each such letter is replaced by its capital. A reader that treats both alike commutes with
raising: it reads of the raised text what it reads of the text, raised.

* `Text.raised`: the raised text; `Text.SameButCase`: texts that differ in such case at most.
  `Text.sameButCase_iff`: these are the texts with one raised text.
* `Text.raised_append`, `Text.raised_append_right`, `Text.raised_enquote_append`: raising a text part by
  part; `Text.exists_append_of_raised`, `Text.exists_append_right_of_raised`: the parts of a raised text.
* `Text.stripWhiteSpace_raised`: raising commutes with trimming.
* `Identifier.read_raised`, `Identifier.canonical_raised`: and with reading identifiers.
-/

namespace AccessGrants

namespace Text

variable {inside : Bool} {c d : Char} {t u v w : Text}

/-! ## Capitals -/

/-- What holds of a character and itself, and of a character of ASCII and its capital, holds of each
character and its capital. -/
theorem of_toUpper {P : Char → Char → Prop} (hself : ∀ c, P c c)
    (hascii : ∀ n < 128, P (Char.ofNat n) (Char.ofNat n).toUpper) (c : Char) : P c c.toUpper := by
  by_cases hlower : c.isLower = true
  · exact of_ascii (P := fun c => P c c.toUpper) hascii
      (ascii_of_isAlphanum (isAlphanum_of_isAlpha (Bool.or_eq_true_iff.mpr (.inr hlower))))
  · rw [toUpper_of_not_isLower hlower]
    exact hself c

@[simp] theorem toUpper_toUpper (c : Char) : c.toUpper.toUpper = c.toUpper :=
  of_toUpper (P := fun c d => d.toUpper = c.toUpper) (fun _ => rfl) (by decide) c

@[simp] theorem fold_toUpper (c : Char) : fold c.toUpper = fold c :=
  of_toUpper (P := fun c d => fold d = fold c) (fun _ => rfl) (by decide) c

@[simp] theorem capital_toUpper (c : Char) : capital c.toUpper = capital c :=
  of_toUpper (P := fun c d => capital d = capital c) (fun _ => rfl) (by decide) c

/-- The capital of a character is no other character, unless it is a letter. -/
theorem toUpper_eq_iff (hd : d.isAlpha = false) : c.toUpper = d ↔ c = d := by
  by_cases hlower : c.isLower = true
  · have halpha := Bool.or_eq_true_iff.mpr (.inr hlower : c.isUpper = true ∨ c.isLower = true)
    have hupper : c.toUpper.isAlpha = true :=
      of_ascii (P := fun c => c.isAlpha = true → c.toUpper.isAlpha = true) (by decide)
        (ascii_of_isAlphanum (isAlphanum_of_isAlpha halpha)) halpha
    constructor
    · rintro rfl
      rw [hupper] at hd
      cases hd
    · rintro rfl
      rw [show c.isAlpha = true from halpha] at hd
      cases hd
  · rw [toUpper_of_not_isLower hlower]

@[simp] theorem map_fold_map_toUpper (t : Text) : (t.map Char.toUpper).map fold = t.map fold := by
  simp [Function.comp_def]

@[simp] theorem upper_map_toUpper (t : Text) : upper (t.map Char.toUpper) = upper t := by
  simp [upper, Function.comp_def]

/-! ## Raising -/

/-- A text with each ASCII letter outside of the quoted spans in upper case, for a text that begins in a
span or outside of all. -/
def raised (inside : Bool) (t : Text) : Text :=
  (marked inside t).map fun mark => if mark.2 then mark.1 else mark.1.toUpper

@[simp] theorem raised_nil (inside : Bool) : raised inside [] = [] := by
  rw [raised, marked_nil, List.map_nil]

/-- In a span all characters stay. -/
@[simp] theorem raised_true_cons (c : Char) (t : Text) :
    raised true (c :: t) = c :: raised (c != '"') t := rfl

/-- A character outside of the spans opens one if it is a quote and another quote follows. -/
def opens (c : Char) (t : Text) : Bool :=
  decide (c = '"' ∧ '"' ∈ t)

/-- A character outside of the spans is marked if it opens one. -/
theorem marked_false_cons (c : Char) (t : Text) :
    marked false (c :: t) = (c, opens c t) :: marked (opens c t) t := by
  by_cases h : c = '"' ∧ '"' ∈ t <;> simp [marked, opens, h]

/-- Outside of them a character is raised. -/
theorem raised_false_cons (c : Char) (t : Text) :
    raised false (c :: t) = c.toUpper :: raised (opens c t) t := by
  have hquote : opens c t = true → c = c.toUpper := fun h => by
    rw [(of_decide_eq_true h).1]
    rfl
  rw [raised, marked_false_cons, List.map_cons]
  refine congrArg (· :: _) ?_
  split
  · next h => exact hquote h
  · rfl

@[simp] theorem raised_false_quote (t : Text) :
    raised false ('"' :: t) = '"' :: raised (decide ('"' ∈ t)) t := by
  rw [raised_false_cons, opens]
  simp only [true_and]
  rfl

/-- Outside of the spans a character that is no quote is raised, and no span begins. -/
theorem raised_false_cons_of_ne (hc : c ≠ '"') (t : Text) :
    raised false (c :: t) = c.toUpper :: raised false t := by
  simp [raised_false_cons, opens, hc]

/-- Raising changes no character but to its capital. -/
theorem forall₂_raised (inside : Bool) (t : Text) :
    List.Forall₂ (fun c d => d = c ∨ d = c.toUpper) t (raised inside t) := by
  induction t generalizing inside with
  | nil => simp
  | cons c r ih =>
      cases inside with
      | true => exact .cons (.inl rfl) (ih _)
      | false =>
          rw [raised_false_cons]
          exact .cons (.inr rfl) (ih _)

@[simp] theorem length_raised (inside : Bool) (t : Text) : (raised inside t).length = t.length :=
  (forall₂_raised inside t).length_eq.symm

@[simp] theorem raised_eq_nil_iff : raised inside t = [] ↔ t = [] := by
  rw [← List.length_eq_zero_iff, length_raised, List.length_eq_zero_iff]

/-- A character that is no letter stands at the same places of a text and of the raised text. -/
theorem map_beq_raised (hd : d.isAlpha = false) (inside : Bool) (t : Text) :
    (raised inside t).map (· == d) = t.map (· == d) := by
  have hchars := forall₂_raised inside t
  generalize raised inside t = u at hchars ⊢
  induction hchars with
  | nil => rfl
  | cons hc _ ih =>
      rw [List.map_cons, List.map_cons, ih]
      rcases hc with rfl | rfl
      · rfl
      · exact congrArg (· :: _) (Bool.eq_iff_iff.mpr (by simp [toUpper_eq_iff hd]))

/-- A character stands in a text exactly if it stands at one of its places. -/
theorem mem_iff_map_beq : d ∈ t ↔ true ∈ t.map (· == d) := by
  rw [List.mem_map]
  exact ⟨fun h => ⟨d, h, beq_self_eq_true d⟩, fun ⟨_, hc, heq⟩ => eq_of_beq heq ▸ hc⟩

/-- A character that is no letter stands in the raised text exactly if it stands in the text. -/
theorem mem_raised_iff (hd : d.isAlpha = false) : d ∈ raised inside t ↔ d ∈ t := by
  rw [mem_iff_map_beq, mem_iff_map_beq, map_beq_raised hd]

/-- So it stands at the beginning of both or of neither. -/
theorem head?_raised_iff (hd : d.isAlpha = false) :
    (raised inside t).head? = some d ↔ t.head? = some d := by
  have hfirst : ∀ u : Text, u.head? = some d ↔ (u.map (· == d)).head? = some true := by
    intro u
    rw [List.head?_map, Option.map_eq_some_iff]
    simp
  rw [hfirst, map_beq_raised hd, ← hfirst]

/-- And at the end. -/
theorem getLast?_raised_iff (hd : d.isAlpha = false) :
    (raised inside t).getLast? = some d ↔ t.getLast? = some d := by
  have hlast : ∀ u : Text, u.getLast? = some d ↔ (u.map (· == d)).getLast? = some true := by
    intro u
    rw [List.getLast?_map, Option.map_eq_some_iff]
    simp
  rw [hlast, map_beq_raised hd, ← hlast]

/-- Of texts with one raised text either both open a span or none does. -/
theorem opens_congr {a b : Bool} (hupper : c.toUpper = d.toUpper) (h : raised a t = raised b u) :
    opens c t = opens d u := by
  have hchar : c = '"' ↔ d = '"' := by
    rw [← toUpper_eq_iff (c := c) (by decide), hupper, toUpper_eq_iff (by decide)]
  have hleft : '"' ∈ raised a t ↔ '"' ∈ t := mem_raised_iff (by decide)
  have hrest : '"' ∈ t ↔ '"' ∈ u := by
    rw [← hleft, h, mem_raised_iff (by decide)]
  rw [opens, opens, decide_eq_decide, hchar, hrest]

/-! ## Part by part -/

/-- A text without quotes is raised by itself. -/
theorem raised_append (hu : '"' ∉ u) (t : Text) :
    raised false (u ++ t) = u.map Char.toUpper ++ raised false t := by
  rw [raised, marked_append_of_not_mem false hu, List.map_append, List.map_map]
  rfl

/-- A text without quotes is raised to its capitals. -/
theorem raised_of_not_mem (hu : '"' ∉ u) : raised false u = u.map Char.toUpper := by
  have hall := raised_append hu []
  rwa [List.append_nil, raised_nil, List.append_nil] at hall

/-- A text without quotes after another one does not matter to it. -/
theorem raised_append_right (hu : '"' ∉ u) (t : Text) :
    raised false (t ++ u) = raised false t ++ u.map Char.toUpper := by
  rw [raised, marked_false_append_right hu, List.map_append, List.map_map]
  rfl

/-- A quoted name stays. -/
theorem raised_enquote_append (name t : Text) :
    raised false (Identifier.enquote name ++ t) = Identifier.enquote name ++ raised false t := by
  rw [raised, marked_enquote_append, List.map_append, List.map_map]
  exact congrArg (· ++ _) (List.map_id _)

/-- A quoted name by itself stays. -/
theorem raised_enquote (name : Text) :
    raised false (Identifier.enquote name) = Identifier.enquote name := by
  have hall := raised_enquote_append name []
  rwa [List.append_nil, raised_nil, List.append_nil] at hall

/-- The raised text of a raised text is that text. -/
@[simp] theorem raised_raised (inside : Bool) (t : Text) :
    raised inside (raised inside t) = raised inside t := by
  induction t generalizing inside with
  | nil => simp
  | cons c r ih =>
      cases inside with
      | true => rw [raised_true_cons, raised_true_cons, ih]
      | false =>
          have hopens : opens c.toUpper (raised (opens c r) r) = opens c r :=
            opens_congr (toUpper_toUpper c) (ih _)
          rw [raised_false_cons, raised_false_cons, toUpper_toUpper, hopens, ih]

/-- A part without quotes at the beginning of a raised text is a raised part of the text. -/
theorem exists_append_of_raised (hw : '"' ∉ w) (h : raised false t = w ++ v) :
    ∃ u r, t = u ++ r ∧ u.map Char.toUpper = w ∧ raised false r = v := by
  induction w generalizing t with
  | nil => exact ⟨[], t, rfl, rfl, h⟩
  | cons d w ih =>
      rw [List.mem_cons, not_or] at hw
      cases t with
      | nil => cases h
      | cons c t =>
          by_cases hc : c = '"'
          · subst hc
            rw [raised_false_quote, List.cons_append, List.cons.injEq] at h
            exact absurd h.1 hw.1
          · rw [raised_false_cons_of_ne hc, List.cons_append, List.cons.injEq] at h
            obtain ⟨u, r, rfl, hu, hr⟩ := ih hw.2 h.2
            exact ⟨c :: u, r, rfl, by rw [List.map_cons, h.1, hu], hr⟩

/-- So is one at its end. -/
theorem exists_append_right_of_raised (hv : '"' ∉ v) (h : raised false t = w ++ v) :
    ∃ r u, t = r ++ u ∧ raised false r = w ∧ u.map Char.toUpper = v := by
  have hquote : '"' ∉ t.drop w.length := by
    have hplaces := congrArg (List.drop w.length) (map_beq_raised (d := '"') (by decide) false t)
    rw [h, ← List.map_drop, ← List.map_drop, List.drop_left] at hplaces
    rwa [mem_iff_map_beq, ← hplaces, ← mem_iff_map_beq]
  have hparts := raised_append_right hquote (t.take w.length)
  rw [List.take_append_drop, h] at hparts
  have hlength : (raised false (t.take w.length)).length = w.length := by
    have htotal := congrArg List.length h
    rw [length_raised, List.length_append] at htotal
    rw [length_raised, List.length_take, htotal]
    omega
  obtain ⟨hleft, hright⟩ := List.append_inj hparts.symm hlength
  exact ⟨_, _, (List.take_append_drop w.length t).symm, hleft, hright⟩

/-! ## Texts that differ in case -/

/-- Two texts are of one length and have the same characters at all places, except that an ASCII letter
outside the quoted spans may be in another case. -/
def SameButCase (t u : Text) : Prop :=
  List.Forall₂ (fun mark d => mark.1 = d ∨ mark.2 = false ∧ mark.1.toUpper = d.toUpper)
    (marked false t) u

/-- Two texts that both begin in a span, or both outside, differ in such case at most exactly if they have
one raised text. -/
theorem forall₂_marked_iff :
    List.Forall₂ (fun mark d => mark.1 = d ∨ mark.2 = false ∧ mark.1.toUpper = d.toUpper)
      (marked inside t) u ↔ raised inside t = raised inside u := by
  induction t generalizing inside u with
  | nil => simp [eq_comm (a := ([] : Text))]
  | cons c r ih =>
      have htrue : marked true (c :: r) = (c, true) :: marked (c != '"') r := rfl
      cases u with
      | nil => cases inside <;> simp [htrue, marked_false_cons, raised_false_cons]
      | cons d s =>
          cases inside with
          | true =>
              simp only [htrue, List.forall₂_cons, raised_true_cons, List.cons.injEq, ih,
                Bool.true_eq_false, false_and, or_false]
              refine and_congr_right ?_
              rintro rfl
              rfl
          | false =>
              simp only [marked_false_cons, List.forall₂_cons, raised_false_cons, List.cons.injEq, ih]
              constructor
              · rintro ⟨hchar, hrest⟩
                have hupper : c.toUpper = d.toUpper := hchar.elim (congrArg _) And.right
                rw [← opens_congr hupper hrest]
                exact ⟨hupper, hrest⟩
              · rintro ⟨hupper, hrest⟩
                have hopens := opens_congr hupper hrest
                rw [← hopens] at hrest
                refine ⟨?_, hrest⟩
                rcases hc : opens c r with _ | _
                · exact .inr ⟨rfl, hupper⟩
                · rw [hc] at hopens
                  exact .inl ((of_decide_eq_true hc).1.trans (of_decide_eq_true hopens.symm).1.symm)

/-- Texts are the same but for letter case exactly if they have the same raised text. -/
theorem sameButCase_iff : SameButCase t u ↔ raised false t = raised false u :=
  forall₂_marked_iff

instance (t u : Text) : Decidable (SameButCase t u) :=
  decidable_of_iff _ sameButCase_iff.symm

/-! ## Ends -/

section ends

variable {p : Char → Bool} (hp : ∀ c, p c.toUpper = p c) (hquote : p '"' = false)

include hp hquote

/-- Raising commutes with leaving out characters in front of a quote, whatever their case. -/
theorem dropWhile_raised (t : Text) :
    (raised false t).dropWhile p = raised false (t.dropWhile p) := by
  induction t with
  | nil => simp
  | cons c r ih =>
      by_cases hc : c = '"'
      · subst hc
        rw [List.dropWhile_cons_of_neg (by simp [hquote]), raised_false_quote,
          List.dropWhile_cons_of_neg (by simp [hquote])]
      · rw [raised_false_cons_of_ne hc, List.dropWhile_cons, List.dropWhile_cons, hp, ih]
        split
        · rfl
        · rw [raised_false_cons_of_ne hc]

/-- What is left out are the capitals of what is left out of the text. -/
theorem takeWhile_raised (t : Text) :
    (raised false t).takeWhile p = (t.takeWhile p).map Char.toUpper := by
  induction t with
  | nil => simp
  | cons c r ih =>
      by_cases hc : c = '"'
      · subst hc
        rw [List.takeWhile_cons_of_neg (by simp [hquote]), raised_false_quote,
          List.takeWhile_cons_of_neg (by simp [hquote]), List.map_nil]
      · rw [raised_false_cons_of_ne hc, List.takeWhile_cons, List.takeWhile_cons, hp, ih]
        split
        · rfl
        · rfl

/-- Raising commutes with leaving out characters at the end. -/
theorem rdropWhile_raised (t : Text) :
    (raised false t).rdropWhile p = raised false (t.rdropWhile p) := by
  induction t using List.reverseRecOn with
  | nil => simp
  | append_singleton r c ih =>
      by_cases hc : c = '"'
      · subst hc
        obtain ⟨front, hfront⟩ : ∃ front, raised false (r ++ ['"']) = front ++ ['"'] :=
          List.getLast?_eq_some_iff.mp ((getLast?_raised_iff (by decide)).mpr List.getLast?_concat)
        rw [List.rdropWhile_concat_neg _ _ _ (by simp [hquote]), hfront,
          List.rdropWhile_concat_neg _ _ _ (by simp [hquote])]
      · have hmem : '"' ∉ [c] := fun h => hc (List.mem_singleton.mp h).symm
        rw [raised_append_right hmem, List.map_cons, List.map_nil, List.rdropWhile_concat,
          List.rdropWhile_concat, hp, ih]
        split
        · rfl
        · rw [raised_append_right hmem]
          rfl

end ends

/-- Raising commutes with trimming. -/
theorem stripWhiteSpace_raised (t : Text) :
    stripWhiteSpace (raised false t) = raised false (stripWhiteSpace t) := by
  have hspace : ∀ c : Char, isWhiteSpace c.toUpper = isWhiteSpace c :=
    of_toUpper (P := fun c d => isWhiteSpace d = isWhiteSpace c) (fun _ => rfl) (by decide)
  have hquote : isWhiteSpace '"' = false := by decide
  change ((raised false t).dropWhile isWhiteSpace).rdropWhile isWhiteSpace =
    raised false ((t.dropWhile isWhiteSpace).rdropWhile isWhiteSpace)
  rw [dropWhile_raised hspace hquote, rdropWhile_raised hspace hquote]

/-- Texts with one raised text differ in case at most after trimming. -/
theorem sameButCase_stripWhiteSpace (h : raised false t = raised false u) :
    SameButCase (stripWhiteSpace t) (stripWhiteSpace u) := by
  rw [sameButCase_iff, ← stripWhiteSpace_raised, h, stripWhiteSpace_raised]

/-- Raising commutes with dropping a line feed at the end. -/
theorem dropFinalNewline_raised (t : Text) :
    dropFinalNewline (raised false t) = raised false (dropFinalNewline t) := by
  by_cases hlast : t.getLast? = some '\n'
  · obtain ⟨u, rfl⟩ := List.getLast?_eq_some_iff.mp hlast
    rw [raised_append_right (by decide)]
    exact (dropFinalNewline_append_newline _).trans
      (congrArg _ (dropFinalNewline_append_newline u).symm)
  · have hraised : (raised false t).getLast? ≠ some '\n' :=
      mt (getLast?_raised_iff (by decide)).mp hlast
    rw [dropFinalNewline_eq_self hlast, dropFinalNewline_eq_self hraised]

/-- A text is at its end exactly if it is empty without a line feed there. -/
theorem atEnd_iff : atEnd t = true ↔ dropFinalNewline t = [] := by
  constructor
  · intro h
    rcases Bool.or_eq_true_iff.mp h with hnil | hline
    · rw [eq_of_beq hnil]
      rfl
    · rw [eq_of_beq hline]
      rfl
  · intro h
    rcases eq_or_eq_append_of_dropFinalNewline t with ht | ht
    · rw [ht, h]
      rfl
    · rw [ht, h]
      rfl

/-- Raising leaves no more of a text than there is. -/
theorem atEnd_raised (t : Text) : atEnd (raised false t) = atEnd t := by
  rw [Bool.eq_iff_iff, atEnd_iff, atEnd_iff, dropFinalNewline_raised, raised_eq_nil_iff]

end Text

/-! ## Identifiers -/

namespace Identifier

open Text

variable {letter : Char → Bool} {i t : Text}

/-- No quoted name is read where no quote closes it. -/
theorem readQuoted_of_not_mem (ht : '"' ∉ t) : readQuoted t = none := by
  rw [Option.eq_none_iff_forall_ne_some]
  rintro ⟨inside, rest⟩ hread
  obtain ⟨name, -, rfl⟩ := eq_of_readQuoted hread
  exact ht (by simp)

/-- The inside of a quoted name is read as it is, and what follows it is raised. -/
theorem readQuoted_raised (t : Text) :
    readQuoted (raised true t) =
      (readQuoted t).map fun parts => (parts.1, raised false parts.2) := by
  induction t using readQuoted.induct with
  | case1 => simp [readQuoted]
  | case2 r ih =>
      have hraised : raised true ('"' :: '"' :: r) = '"' :: '"' :: raised (decide ('"' ∈ r)) r := by
        rw [raised_true_cons, ← raised_false_quote]
        rfl
      rw [hraised, readQuoted, readQuoted]
      by_cases hr : '"' ∈ r
      · rw [decide_eq_true hr, ih, Option.map_map, Option.map_map]
        rfl
      · rw [readQuoted_of_not_mem hr, readQuoted_of_not_mem (mt (mem_raised_iff (by decide)).mp hr)]
        rfl
  | case3 r hr =>
      have hraised : raised true ('"' :: r) = '"' :: raised false r := rfl
      rw [hraised, readQuoted, readQuoted, if_pos rfl, if_pos rfl, Option.map_some]
      · exact hr
      · intro r' _ heq
        have hhead : (raised false r).head? = some '"' := by
          rw [heq]
          rfl
        obtain ⟨q, rfl⟩ := List.head?_eq_some_iff.mp ((head?_raised_iff (by decide)).mp hhead)
        exact hr q rfl rfl
  | case4 c r hr hc ih =>
      have hraised : raised true (c :: r) = c :: raised true r := by
        rw [raised_true_cons, bne_iff_ne.mpr hc]
      rw [hraised, readQuoted, readQuoted, if_neg hc, if_neg hc, ih, Option.map_map, Option.map_map]
      · rfl
      · exact fun _ heq => absurd heq hc
      · exact fun _ heq => absurd heq hc

/-- The characters of a plain identifier may be of any case. -/
theorem isNameChar_toUpper (hcase : ∀ c, letter c.toUpper = letter c) (c : Char) :
    isNameChar letter c.toUpper = isNameChar letter c := by
  have hrest : ∀ c : Char, (c.toUpper.isDigit || c.toUpper == '_') = (c.isDigit || c == '_') :=
    of_toUpper (P := fun c d => (d.isDigit || d == '_') = (c.isDigit || c == '_')) (fun _ => rfl)
      (by decide)
  rw [isNameChar, isNameChar, Bool.or_assoc, Bool.or_assoc, hrest, hcase]

section alphabet

variable (hletter : IsAlphabet letter) (hcase : ∀ c, letter c.toUpper = letter c)

include hletter hcase

/-- The identifier that is read of the raised text is the one that is read of the text, raised. -/
theorem read_raised (t : Text) : read letter (raised false t) =
    (read letter t).map fun parts => (raised false parts.1, raised false parts.2) := by
  cases t with
  | nil =>
      rw [raised_nil, read]
      rfl
  | cons c r =>
      by_cases hc : c = '"'
      · subst hc
        rw [raised_false_quote, read, read, if_pos rfl, if_pos rfl]
        by_cases hr : '"' ∈ r
        · rw [decide_eq_true hr, readQuoted_raised]
          rcases hread : readQuoted r with _ | ⟨_ | ⟨d, inside⟩, rest⟩
          · rfl
          · rfl
          · obtain ⟨name, hname, -⟩ := eq_of_readQuoted hread
            have hstays := raised_enquote name
            rw [enquote, ← hname] at hstays
            rw [Option.map_some, Option.map_some]
            dsimp only
            rw [hstays]
        · rw [readQuoted_of_not_mem hr, readQuoted_of_not_mem (mt (mem_raised_iff (by decide)).mp hr)]
          rfl
      · have hupper : c.toUpper ≠ '"' := mt (toUpper_eq_iff (by decide)).mp hc
        have hlow : (c.toUpper == '_') = (c == '_') :=
          Bool.eq_iff_iff.mpr (by simp [toUpper_eq_iff (d := '_') (by decide)])
        have hquote : isNameChar letter '"' = false := by
          rw [Bool.eq_false_iff]
          exact fun h => (hletter.nameChar h).1 rfl
        have hname : '"' ∉ c :: r.takeWhile (isNameChar letter) := by
          rw [List.mem_cons, not_or]
          refine ⟨Ne.symm hc, fun hmem => ?_⟩
          rw [List.mem_takeWhile_imp hmem] at hquote
          cases hquote
        have hchar := isNameChar_toUpper hcase
        rw [raised_false_cons_of_ne hc, read, read, if_neg hc, if_neg hupper, hcase, hlow]
        split
        · rw [Option.map_some, takeWhile_raised hchar hquote, dropWhile_raised hchar hquote,
            raised_of_not_mem hname, List.map_cons]
        · rfl

/-- So is the identifier that a text consists of. -/
theorem whole_raised (t : Text) :
    whole letter (raised false t) = (whole letter t).map (raised false) := by
  unfold whole
  rw [read_raised hletter hcase]
  rcases read letter t with _ | ⟨i, rest⟩
  · rfl
  · rw [Option.map_some]
    dsimp only
    rw [atEnd_raised]
    split <;> rfl

/-- And the two identifiers that a text consists of. -/
theorem qualified_raised (t : Text) : qualified letter (raised false t) =
    (qualified letter t).map fun parts => (raised false parts.1, raised false parts.2) := by
  unfold qualified
  rw [read_raised hletter hcase]
  rcases read letter t with _ | ⟨i, _ | ⟨c, rest⟩⟩
  · rfl
  · rfl
  · by_cases hc : c = '.'
    · subst hc
      have hraised : raised false ('.' :: rest) = '.' :: raised false rest :=
        raised_false_cons_of_ne (by decide) rest
      simp only [Option.map_some, hraised, whole_raised hletter hcase, Option.map_map,
        Function.comp_def]
    · have hhead : (raised false (c :: rest)).head? ≠ some '.' :=
        mt (head?_raised_iff (by decide)).mp fun h => hc (Option.some.inj h)
      rw [Option.map_some]
      dsimp only
      generalize raised false (c :: rest) = u at hhead
      split
      · next heq =>
        cases heq
        exact absurd rfl hhead
      · split
        · next heq =>
          cases heq
          exact absurd rfl hc
        · rfl

end alphabet

/-! ## Identifiers in the spelling that is stored -/

/-- A name that needs no quotes is in upper case, and a quoted one stays. -/
theorem raised_quote (name : Text) : raised false (quote name) = quote name := by
  unfold quote
  split
  · next hplain =>
    rw [raised_of_not_mem (not_quote_mem_of_isPlain hplain)]
    exact (List.map_congr_left fun c hc => of_toUpper
      (P := fun c d => isPlainRest c = true ∨ c = '\n' → d = c) (fun _ _ => rfl) (by decide) c
      (isPlainRest_of_mem hplain hc)).trans (List.map_id name)
  · exact raised_enquote name

/-- An identifier without quotes has none to lose. -/
theorem canonical_of_not_mem (hi : '"' ∉ i) : canonical i = i := by
  cases i with
  | nil => rfl
  | cons c r =>
      have hc : c ≠ '"' := fun hc => hi (hc ▸ List.mem_cons_self)
      simp [canonical, inner?, hc]

/-- A written identifier has no quotes, or it is a quoted name. -/
theorem IsWritten.plain_or_quoted (hletter : IsAlphabet letter) (h : IsWritten letter i) :
    '"' ∉ i ∨ ∃ name, i = enquote name := by
  cases h with
  | plain h => exact .inl fun hmem => (h.solid hletter hmem).1 rfl
  | quoted hne => exact .inr ⟨_, rfl⟩

section written

variable (hletter : IsAlphabet letter) (h : IsWritten letter i)

include hletter h

/-- Raising commutes with taking off needless quotes. -/
theorem canonical_raised : canonical (raised false i) = raised false (canonical i) := by
  rcases h.plain_or_quoted hletter with hquote | ⟨name, rfl⟩
  · rw [canonical_of_not_mem hquote, canonical_of_not_mem (mt (mem_raised_iff (by decide)).mp hquote)]
  · rw [raised_enquote, canonical_enquote, raised_quote]

/-- What follows a stored identifier is raised by itself. -/
theorem raised_canonical_append (t : Text) :
    raised false (canonical i ++ t) = raised false (canonical i) ++ raised false t := by
  rcases h.plain_or_quoted hletter with hquote | ⟨name, rfl⟩
  · rw [canonical_of_not_mem hquote, raised_append hquote, raised_of_not_mem hquote]
  · rw [canonical_enquote, raised_quote, quote]
    split
    · next hplain =>
      have hname := raised_quote name
      rw [quote, if_pos hplain, raised_of_not_mem (not_quote_mem_of_isPlain hplain)] at hname
      rw [raised_append (not_quote_mem_of_isPlain hplain), hname]
    · exact raised_enquote_append name t

/-- The case of a stored identifier does not matter to a raised text that it ends. -/
theorem raised_append_canonical (t : Text) :
    raised false (t ++ canonical (raised false i)) = raised false (t ++ canonical i) := by
  rcases h.plain_or_quoted hletter with hquote | ⟨name, rfl⟩
  · have hraised : '"' ∉ raised false i := mt (mem_raised_iff (by decide)).mp hquote
    rw [canonical_of_not_mem hquote, canonical_of_not_mem hraised, raised_append_right hraised,
      raised_append_right hquote, raised_of_not_mem hquote, List.map_map]
    simp only [Function.comp_def, toUpper_toUpper]
  · rw [raised_enquote]

end written

/-- Raising commutes with taking off the needless quotes on both sides of a dot. -/
theorem canonical_dot_raised {j : Text} (hletter : IsAlphabet letter) (hi : IsWritten letter i)
    (hj : IsWritten letter j) :
    canonical (raised false i) ++ '.' :: canonical (raised false j) =
      raised false (canonical i ++ '.' :: canonical j) := by
  have hdot : raised false ('.' :: canonical j) = '.' :: raised false (canonical j) :=
    raised_false_cons_of_ne (by decide) _
  rw [raised_canonical_append hletter hi, hdot, canonical_raised hletter hi,
    canonical_raised hletter hj]

end Identifier

end AccessGrants
