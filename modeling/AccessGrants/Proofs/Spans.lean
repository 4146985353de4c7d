import AccessGrants.Proofs.NormalLayout

/-!
# Quoted spans

The quoted spans of a text are taken from left to right: a quote opens one if another quote follows,
and that quote closes it. Laying a text out goes the same way, one character after the other.

* `Text.marked` tells for each character whether it stands in a span; `Text.InSpan` and
  `Text.OutOfSpans` are the characters of both sorts.
* `Layout.squeeze_cons`: how one character is laid out. `Layout.count_normalize`: no quotes are lost.
* `Layout.squeeze_append`: how a text with another one after it is laid out;
  `Layout.getLast?_normalize`: how a text ends.
-/

namespace AccessGrants

namespace Text

variable {inside : Bool} {t u : Text}

/-! ## Spans -/

/-- The characters of a text in order, each with whether it stands in a quoted span, for a text that
begins in a span or outside of all. -/
def marked : Bool → Text → List (Char × Bool)
  | _, [] => []
  | true, c :: r => (c, true) :: marked (c != '"') r
  | false, c :: r =>
    if c = '"' ∧ '"' ∈ r then (c, true) :: marked true r else (c, false) :: marked false r

@[simp] theorem marked_nil (inside : Bool) : marked inside [] = [] := by
  cases inside <;> rfl

/-- A character stands in a quoted span of a text. -/
def InSpan (c : Char) (t : Text) : Prop :=
  (c, true) ∈ marked false t

instance (c : Char) (t : Text) : Decidable (InSpan c t) :=
  inferInstanceAs (Decidable (_ ∈ _))

/-- A character stands outside of the quoted spans of a text. -/
def OutOfSpans (c : Char) (t : Text) : Prop :=
  (c, false) ∈ marked false t

instance (c : Char) (t : Text) : Decidable (OutOfSpans c t) :=
  inferInstanceAs (Decidable (_ ∈ _))

/-- A text without quotes neither opens nor closes a span. -/
theorem marked_append_of_not_mem (inside : Bool) (hu : '"' ∉ u) (t : Text) :
    marked inside (u ++ t) = u.map (fun c => (c, inside)) ++ marked inside t := by
  induction u with
  | nil => rfl
  | cons c r ih =>
      rw [List.mem_cons, not_or] at hu
      have hc : c ≠ '"' := Ne.symm hu.1
      cases inside with
      | false => rw [List.cons_append, marked, if_neg fun h => hc h.1, ih hu.2]; rfl
      | true => rw [List.cons_append, marked, bne_iff_ne.mpr hc, ih hu.2]; rfl

/-- A text without quotes stands outside of the spans of the text before it. -/
theorem marked_append_right {inside : Bool} (hu : '"' ∉ u) (ht : inside = true → '"' ∈ t) :
    marked inside (t ++ u) = marked inside t ++ u.map (fun c => (c, false)) := by
  induction t generalizing inside with
  | nil =>
      obtain rfl : inside = false := by
        rw [← Bool.not_eq_true]
        exact fun h => absurd (ht h) List.not_mem_nil
      have hall := marked_append_of_not_mem false hu []
      rwa [List.append_nil, marked_nil, List.append_nil] at hall
  | cons c r ih =>
      have hmem : '"' ∈ r ++ u ↔ '"' ∈ r := by
        rw [List.mem_append, or_iff_left hu]
      cases inside with
      | true =>
          have hnext : (c != '"') = true → '"' ∈ r := fun hc =>
            List.mem_of_ne_of_mem (Ne.symm (bne_iff_ne.mp hc)) (ht rfl)
          rw [List.cons_append, marked, marked, ih hnext, List.cons_append]
      | false =>
          rw [List.cons_append, marked, marked, if_congr (and_congr_right fun _ => hmem) rfl rfl]
          split
          · next hopen => rw [ih fun _ => hopen.2, List.cons_append]
          · rw [ih (Bool.noConfusion : false = true → _), List.cons_append]

/-- So it is with a text that begins outside of the spans. -/
theorem marked_false_append_right (hu : '"' ∉ u) :
    marked false (t ++ u) = marked false t ++ u.map (fun c => (c, false)) :=
  marked_append_right hu nofun

/-- A quoted name is a row of spans. -/
theorem marked_enquote_append (name u : Text) : marked false (Identifier.enquote name ++ u) =
    (Identifier.enquote name).map (fun c => (c, true)) ++ marked false u := by
  have hinside : marked true (Identifier.doubleQuotes name ++ ('"' :: u)) =
      (Identifier.doubleQuotes name ++ ['"']).map (fun c => (c, true)) ++ marked false u := by
    induction name with
    | nil => rfl
    | cons c r ih =>
        rw [Identifier.doubleQuotes]
        split
        · -- the two quotes of a doubled one close a span and open the next
          have hopen : '"' ∈ Identifier.doubleQuotes r ++ '"' :: u := by simp
          have hclose : ('"' != '"') = false := by decide
          simp only [List.cons_append, marked, hclose, hopen, and_self, if_true, ih, List.map_cons]
        · next hc =>
          simp only [List.cons_append, marked, bne_iff_ne.mpr hc, ih, List.map_cons]
  have hopen : '"' = '"' ∧ '"' ∈ Identifier.doubleQuotes name ++ '"' :: u := by simp
  have hshape : Identifier.enquote name ++ u = '"' :: (Identifier.doubleQuotes name ++ '"' :: u) := by
    simp [Identifier.enquote]
  rw [hshape, marked, if_pos hopen, hinside]
  rfl

end Text

namespace Layout

open Text

variable {place : Place} {t u raw : Text}

/-! ## One character after another -/

/-- Where the rest of a text stands after its first character. -/
def Place.next (place : Place) (c : Char) (r : Text) : Place :=
  if place = .quoted then if c = '"' then .plain else .quoted
  else if c = '"' then if '"' ∈ r then .quoted else .plain
  else if isBlank c then .blank
  else .plain

/-- What is written for a character. -/
def Place.written (place : Place) (c : Char) : Text :=
  if place = .quoted ∨ isBlank c = false then [c]
  else if place = .blank then []
  else [' ']

/-- A blank is not a quote. -/
theorem ne_quote_of_isBlank {c : Char} (h : isBlank c = true) : c ≠ '"' := by
  rintro rfl
  exact absurd h (by decide)

/-- A text is laid out one character after the other, each by the place where it stands. -/
theorem squeeze_cons (place : Place) (c : Char) (r : Text) :
    squeeze place (c :: r) = place.written c ++ squeeze (place.next c r) r := by
  have hquote : c = '"' → isBlank c = false := fun hc =>
    Bool.eq_false_iff.mpr fun hb => ne_quote_of_isBlank hb hc
  cases place with
  | quoted => rfl
  | _ =>
      rw [squeeze]
      · unfold Place.written Place.next
        split
        · next hc => simp [hquote hc]
        · split <;> simp [*]
      · intro hplace
        cases hplace

/-- Blanks after a blank are left out. -/
theorem squeeze_blank_append (ht : ∀ c ∈ t, isBlank c = true) (u : Text) :
    squeeze .blank (t ++ u) = squeeze .blank u := by
  induction t with
  | nil => rfl
  | cons c r ih =>
      have hc := ht c List.mem_cons_self
      have hnext : Place.next .blank c (r ++ u) = .blank := by
        simp [Place.next, ne_quote_of_isBlank hc, hc]
      have hwritten : Place.written .blank c = [] := by
        simp [Place.written, hc]
      rw [List.cons_append, squeeze_cons, hnext, hwritten, List.nil_append]
      exact ih fun d hd => ht d (List.mem_cons_of_mem _ hd)

/-- Blanks are one space. -/
theorem squeeze_plain_append (hne : t ≠ []) (ht : ∀ c ∈ t, isBlank c = true) (u : Text) :
    squeeze .plain (t ++ u) = ' ' :: squeeze .blank u := by
  obtain ⟨c, r, rfl⟩ := List.exists_cons_of_ne_nil hne
  rw [List.forall_mem_cons] at ht
  have hnext : Place.next .plain c (r ++ u) = .blank := by
    simp [Place.next, ne_quote_of_isBlank ht.1, ht.1]
  have hwritten : Place.written .plain c = [' '] := by
    simp [Place.written, ht.1]
  rw [List.cons_append, squeeze_cons, hnext, hwritten, squeeze_blank_append ht.2]
  rfl

/-! ## Quotes are kept -/

/-- What is written for a character has as many quotes. -/
theorem count_written (place : Place) (c : Char) :
    (place.written c).count '"' = [c].count '"' := by
  unfold Place.written
  split
  · rfl
  · next hc =>
    rw [not_or, Bool.not_eq_false] at hc
    have hzero : [c].count '"' = 0 := List.count_eq_zero_of_not_mem fun hmem =>
      ne_quote_of_isBlank hc.2 (List.mem_singleton.mp hmem).symm
    rw [hzero]
    split <;> rfl

/-- No quotes are lost. -/
theorem count_squeeze (place : Place) (t : Text) : (squeeze place t).count '"' = t.count '"' := by
  induction t generalizing place with
  | nil => rw [squeeze_nil]
  | cons c r ih =>
      rw [squeeze_cons, List.count_append, count_written, ih, ← List.count_append,
        List.singleton_append]

/-- No quotes are lost with the blanks at the ends either. -/
theorem count_normalize (raw : Text) : (normalize raw).count '"' = raw.count '"' := by
  obtain ⟨a, z, hraw, ha, hz⟩ := exists_eq_append_trim isBlank raw
  have hquote : ∀ {v : Text}, (∀ c ∈ v, isBlank c = true) → v.count '"' = 0 := fun hv =>
    List.count_eq_zero_of_not_mem fun hmem => ne_quote_of_isBlank (hv _ hmem) rfl
  have hcount := congrArg (List.count '"') hraw
  rw [List.count_append, List.count_append, hquote ha, hquote hz, Nat.zero_add, Nat.add_zero] at hcount
  rw [normalize, count_squeeze, hcount, strip]

/-! ## One text after another -/

/-- Where a text without quotes stands after another one. -/
def Place.after : Place → Text → Place
  | place, [] => place
  | place, c :: r => (place.next c r).after r

/-- A text that is followed by one without quotes is laid out as it is by itself. -/
theorem squeeze_append (hu : '"' ∉ u) (place : Place) (t : Text) :
    squeeze place (t ++ u) = squeeze place t ++ squeeze (place.after t) u := by
  induction t generalizing place with
  | nil =>
      rw [squeeze_nil]
      rfl
  | cons c r ih =>
      have hnext : place.next c (r ++ u) = place.next c r := by
        simp [Place.next, hu]
      rw [List.cons_append, squeeze_cons, squeeze_cons, hnext, ih, List.append_assoc]
      rfl

/-- After a text that ends with a character that is not blank, another one stands beside a word. -/
theorem after_of_getLast? {c : Char} (hplace : place = .quoted → '"' ∈ t)
    (hlast : t.getLast? = some c) (hc : isBlank c = false) : place.after t = .plain := by
  induction t generalizing place with
  | nil => cases hlast
  | cons d r ih =>
      have hnext : place.next d r = .quoted → '"' ∈ r := by
        unfold Place.next
        grind
      cases r with
      | nil =>
          obtain rfl : d = c := Option.some.inj hlast
          change place.next d [] = .plain
          unfold Place.next
          grind
      | cons e q =>
          rw [List.getLast?_cons_cons] at hlast
          exact ih hnext hlast

/-- A text that ends with a character that is not blank is laid out so that it ends with it. -/
theorem getLast?_squeeze {c : Char} (hlast : t.getLast? = some c) (hc : isBlank c = false) :
    (squeeze place t).getLast? = some c := by
  induction t generalizing place with
  | nil => cases hlast
  | cons d r ih =>
      rw [squeeze_cons]
      cases r with
      | nil =>
          obtain rfl : d = c := Option.some.inj hlast
          rw [squeeze_nil, List.append_nil, Place.written, if_pos (.inr hc)]
          rfl
      | cons e q =>
          rw [List.getLast?_cons_cons] at hlast
          rw [List.getLast?_append, ih hlast, Option.some_or]

/-- No line feed is left at the end of a grant string. -/
theorem getLast?_normalize (raw : Text) : (normalize raw).getLast? ≠ some '\n' := by
  by_cases hnil : strip raw = []
  · simp [normalize, hnil]
  · obtain ⟨c, hc, hblank⟩ := (solid_strip hnil).last
    rw [normalize, getLast?_squeeze hc hblank]
    rintro ⟨rfl⟩
    exact absurd hblank (by decide)

end Layout

end AccessGrants
