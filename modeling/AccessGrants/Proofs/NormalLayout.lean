import AccessGrants.Layout
import AccessGrants.Proofs.Identifiers

/-!
# Texts in normal layout

Bringing a text into its normal layout leaves it alone if its words stand one space apart outside the
quotes, and if it neither begins nor ends with a blank.

* `Text.Solid`: a text begins and ends with characters that are not blank; nothing is stripped off
  it.
* `Layout.Keeps`: reading a text from one place leads to another and collapses nothing.
* `Layout.normalize_eq_self`: a solid text that is kept is in normal layout; `Layout.normalize_blank`:
  but for a single blank in it.
* `Identifier.IsWritten.keeps`, `Identifier.IsWritten.solid`: identifiers are kept and solid.
-/

namespace AccessGrants

namespace Text

variable {t u v : Text}

/-! ## Ends that are not blank -/

/-- A text begins and ends with characters that are not blank. -/
structure Solid (t : Text) : Prop where
  first : ∃ c, t.head? = some c ∧ isBlank c = false
  last : ∃ c, t.getLast? = some c ∧ isBlank c = false

namespace Solid

/-- A solid text is not empty. -/
theorem ne_nil (h : Solid t) : t ≠ [] := by
  rintro rfl
  obtain ⟨c, hc, -⟩ := h.first
  cases hc

/-- What stands between the ends does not matter. -/
theorem append (hu : Solid u) (hv : Solid v) (t : Text) : Solid (u ++ (t ++ v)) := by
  obtain ⟨c, hc, hfirst⟩ := hu.first
  obtain ⟨d, hd, hlast⟩ := hv.last
  refine ⟨⟨c, ?_, hfirst⟩, ⟨d, ?_, hlast⟩⟩
  · rw [List.head?_append, hc]
    rfl
  · rw [List.getLast?_append, List.getLast?_append, hd]
    rfl

/-- A text without blanks is solid if it is not empty. -/
theorem of_not_blank (hne : t ≠ []) (h : ∀ c ∈ t, isBlank c = false) : Solid t := by
  refine ⟨⟨t.head hne, List.head?_eq_some_head hne, h _ (List.head_mem hne)⟩,
    ⟨t.getLast hne, List.getLast?_eq_some_getLast hne, h _ (List.getLast_mem hne)⟩⟩

/-- A quoted name is solid, whatever it is. -/
theorem enquote (name : Text) : Solid (Identifier.enquote name) := by
  refine ⟨⟨'"', rfl, by decide⟩, ⟨'"', ?_, by decide⟩⟩
  rw [Identifier.enquote, List.getLast?_append]
  rfl

/-- Nothing is stripped off a solid text. -/
theorem strip_eq (h : Solid t) : strip t = t := by
  obtain ⟨c, hc, hfirst⟩ := h.first
  obtain ⟨d, hd, hlast⟩ := h.last
  refine trim_eq_self (fun e he => ?_) fun e he => ?_
  · rw [hc, Option.mem_some] at he
    rwa [← he]
  · rw [hd, Option.mem_some] at he
    rwa [← he]

/-- Nothing is stripped off a solid text, whichever class of blanks is stripped. -/
theorem stripWhiteSpace_eq (h : Solid t) : stripWhiteSpace t = t := by
  have hspace : ∀ {c : Char}, isBlank c = false → isWhiteSpace c = false := fun hc =>
    Bool.eq_false_iff.mpr fun hs => Bool.eq_false_iff.mp hc (isBlank_of_isWhiteSpace hs)
  obtain ⟨c, hc, hfirst⟩ := h.first
  obtain ⟨d, hd, hlast⟩ := h.last
  refine trim_eq_self (fun e he => ?_) fun e he => ?_
  · rw [hc, Option.mem_some] at he
    rw [← he, hspace hfirst]
  · rw [hd, Option.mem_some] at he
    rw [← he, hspace hlast]

end Solid

/-- What is left of a text without the blanks at its ends is solid, if anything is. -/
theorem solid_strip (h : strip t ≠ []) : Solid (strip t) :=
  ⟨⟨_, List.head?_eq_some_head h, head?_trim isBlank t _ (List.head?_eq_some_head h)⟩,
    ⟨_, List.getLast?_eq_some_getLast h, getLast?_trim isBlank t _ (List.getLast?_eq_some_getLast h)⟩⟩

/-- Blanks before a solid text are stripped off. -/
theorem strip_append (hu : ∀ c ∈ u, isBlank c = true) (ht : Solid t) : strip (u ++ t) = t := by
  have hself := ht.strip_eq
  rw [strip, trim] at hself ⊢
  rw [List.dropWhile_append_of_pos hu, hself]

end Text

namespace Layout

/-! ## Runs that are kept -/

/-- Reading a text from one place leads to another, whatever follows, and collapses nothing. -/
def Keeps (start stop : Place) (t : Text) : Prop :=
  ∀ rest, squeeze start (t ++ rest) = t ++ squeeze stop rest

namespace Keeps

variable {start middle stop : Place} {t u : Text}

/-- The empty text is kept. -/
theorem nil (start : Place) : Keeps start start [] := fun _ => rfl

/-- Two texts are kept one after the other. -/
theorem append (ht : Keeps start middle t) (hu : Keeps middle stop u) :
    Keeps start stop (t ++ u) := by
  intro rest
  rw [List.append_assoc, ht, hu, List.append_assoc]

/-- Outside the quotes a character that is neither a blank nor a quote is kept. -/
theorem char {c : Char} (hstart : start ≠ .quoted) (hquote : c ≠ '"')
    (hblank : Text.isBlank c = false) : Keeps start .plain [c] := by
  intro rest
  cases start with
  | quoted => exact absurd rfl hstart
  | _ => simp [squeeze, hquote, hblank]

/-- A space after a word is kept. -/
theorem space : Keeps .plain .blank [' '] := fun _ => rfl

/-- Words are kept. -/
theorem word (hstart : start ≠ .quoted) (hne : t ≠ [])
    (ht : ∀ c ∈ t, c ≠ '"' ∧ Text.isBlank c = false) : Keeps start .plain t := by
  induction t generalizing start with
  | nil => exact absurd rfl hne
  | cons c r ih =>
      obtain ⟨hquote, hblank⟩ := ht c List.mem_cons_self
      have hc := char hstart hquote hblank
      cases r with
      | nil => exact hc
      | cons d q =>
          exact hc.append (ih nofun (List.cons_ne_nil _ _) fun e he =>
            ht e (List.mem_cons_of_mem _ he))

/-- Inside the quotes everything is kept, up to the closing quote. -/
theorem inside (name : Text) :
    Keeps .quoted .plain (Identifier.doubleQuotes name ++ ['"']) := by
  intro rest
  induction name with
  | nil => rfl
  | cons c r ih =>
      rw [Identifier.doubleQuotes]
      split
      · have hmem : '"' ∈ Identifier.doubleQuotes r ++ ['"'] ++ rest := by simp
        rw [List.cons_append, List.cons_append, List.cons_append, List.cons_append,
          squeeze_quoted_cons, if_pos rfl, squeeze, if_pos rfl, if_pos hmem, ih]
        · rfl
        · decide
      · next hc =>
        rw [List.cons_append, List.cons_append, squeeze_quoted_cons, if_neg hc, ih]
        rfl

/-- A quoted name is kept, its blanks included. -/
theorem enquote (hstart : start ≠ .quoted) (name : Text) :
    Keeps start .plain (Identifier.enquote name) := by
  intro rest
  have hmem : '"' ∈ Identifier.doubleQuotes name ++ ['"'] ++ rest := by simp
  have hinside := inside name rest
  rw [Identifier.enquote, List.cons_append, List.cons_append, squeeze, if_pos rfl, if_pos hmem,
    hinside]
  · rfl
  · exact fun h => hstart h

/-- Words with single spaces between them are kept. -/
theorem words (hstart : start ≠ .quoted) (ws : List Text) (hne : ws ≠ [])
    (hws : ∀ w ∈ ws, w ≠ [] ∧ ∀ c ∈ w, c ≠ '"' ∧ Text.isBlank c = false) :
    Keeps start .plain (Text.join [' '] ws) := by
  induction ws generalizing start with
  | nil => exact absurd rfl hne
  | cons w ws ih =>
      obtain ⟨hw, hchars⟩ := hws w List.mem_cons_self
      cases ws with
      | nil =>
          rw [Text.join_singleton]
          exact word hstart hw hchars
      | cons v vs =>
          rw [Text.join_cons_cons]
          have hrest : Keeps .blank .plain (Text.join [' '] (v :: vs)) :=
            ih nofun (List.cons_ne_nil _ _) fun u hu => hws u (List.mem_cons_of_mem _ hu)
          exact (word hstart hw hchars).append (space.append hrest)

end Keeps

/-- A solid text that is kept is in normal layout. -/
theorem normalize_eq_self {stop : Place} {t : Text} (hsolid : Text.Solid t)
    (hkeeps : Keeps .plain stop t) : normalize t = t := by
  have hall := hkeeps []
  rw [List.append_nil, squeeze_nil, List.append_nil] at hall
  rw [normalize, hsolid.strip_eq, hall]

/-- A single blank between two texts that are kept becomes a space. -/
theorem normalize_blank {stop : Place} {t u : Text} {c : Char} (hblank : Text.isBlank c = true)
    (hsolid : Text.Solid (t ++ c :: u)) (ht : Keeps .plain .plain t) (hu : Keeps .blank stop u) :
    normalize (t ++ c :: u) = t ++ ' ' :: u := by
  have hquote : c ≠ '"' := by
    rintro rfl
    exact absurd hblank (by decide)
  have hrest := hu []
  rw [List.append_nil, squeeze_nil, List.append_nil] at hrest
  rw [normalize, hsolid.strip_eq, ht, squeeze, if_neg hquote, if_pos hblank, if_neg nofun, hrest]
  exact nofun

end Layout

/-! ## Identifiers -/

namespace Identifier

variable {letter : Char → Bool} {i : Text}

/-- An identifier is kept. -/
theorem IsWritten.keeps {start : Layout.Place} (hletter : IsAlphabet letter)
    (hstart : start ≠ .quoted) (h : IsWritten letter i) : Layout.Keeps start .plain i := by
  cases h with
  | plain h =>
      refine Layout.Keeps.word hstart h.ne_nil fun c hc => ?_
      obtain ⟨hquote, -, hblank⟩ := h.solid hletter hc
      exact ⟨hquote, hblank⟩
  | @quoted name => exact Layout.Keeps.enquote hstart name

/-- An identifier is solid. -/
theorem IsWritten.solid (hletter : IsAlphabet letter) (h : IsWritten letter i) : Text.Solid i := by
  cases h with
  | plain h => exact Text.Solid.of_not_blank h.ne_nil fun c hc => (h.solid hletter hc).2.2
  | @quoted name => exact Text.Solid.enquote name

/-- A path is kept. -/
theorem IsPath.keeps {start : Layout.Place} (hletter : IsAlphabet letter)
    (hstart : start ≠ .quoted) (h : IsPath letter i) : Layout.Keeps start .plain i := by
  rcases h with hi | ⟨i, j, hi, hj, rfl⟩
  · exact hi.keeps hletter hstart
  · have hfirst : Layout.Keeps start .plain i := hi.keeps hletter hstart
    have hdot : Layout.Keeps .plain .plain ['.'] := Layout.Keeps.char nofun (by decide) (by decide)
    have hsecond : Layout.Keeps .plain .plain j := hj.keeps hletter nofun
    exact hfirst.append (hdot.append hsecond)

/-- A path is solid. -/
theorem IsPath.solid (hletter : IsAlphabet letter) (h : IsPath letter i) : Text.Solid i := by
  rcases h with hi | ⟨i, j, hi, hj, rfl⟩
  · exact hi.solid hletter
  · exact (hi.solid hletter).append (hj.solid hletter) ['.']

/-- A stored path is kept outside of quotes. -/
theorem IsStoredPath.keeps {start : Layout.Place} (hletter : IsAlphabet letter)
    (hstart : start ≠ .quoted) (h : IsStoredPath letter i) : Layout.Keeps start .plain i :=
  h.isPath.keeps hletter hstart

/-- A stored path is solid. -/
theorem IsStoredPath.solid (hletter : IsAlphabet letter) (h : IsStoredPath letter i) :
    Text.Solid i :=
  h.isPath.solid hletter

end Identifier

end AccessGrants
