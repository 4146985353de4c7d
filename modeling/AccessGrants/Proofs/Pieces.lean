import AccessGrants.Proofs.Spans
import Mathlib.Data.List.DropRight

/-!
# Pieces of a text

A text is cut from left to right into quoted spans, runs of blanks and other characters. A quote
opens a span if another quote follows, and the next quote closes it. Outside of the spans a run of
blanks goes on as far as blanks follow each other.

* `Text.Piece`: a span, a run of blanks or a character. `Text.pieces` cuts a text, `Text.written`
  puts pieces together.
* `Text.IsCut`: the lists of pieces that are cut so. `Text.pieces_eq_iff`: the pieces of a text are
  the only such list that it is put together from.
* `Text.inSpan_iff_pieces`, `Text.outOfSpans_iff_pieces`: the characters in the spans of a text and
  outside of them are those of its pieces.
* `Text.trimRuns` leaves out the runs at both ends. `Text.trimRuns_pieces`: these are the blanks at
  the ends of a text.
-/

namespace AccessGrants

namespace Text

/-- A piece of a text: a quoted span, by what stands between its quotes, a run of blanks outside of
the spans, or one other character there. -/
inductive Piece
  | span (inside : Text)
  | run (blanks : Text)
  | char (c : Char)
  deriving DecidableEq

namespace Piece

/-- A piece as it stands in the text. -/
def text : Piece → Text
  | span inside => '"' :: inside ++ ['"']
  | run blanks => blanks
  | char c => [c]

/-- A piece is a run of blanks. -/
def isRun : Piece → Bool
  | run _ => true
  | _ => false

/-- A piece is a span. -/
def isSpan : Piece → Bool
  | span _ => true
  | _ => false

/-- What a piece is by itself: a span has no quotes inside, a run has blanks only and at least one, and
any other character is not blank. -/
def IsProper : Piece → Prop
  | span inside => '"' ∉ inside
  | run blanks => blanks ≠ [] ∧ ∀ c ∈ blanks, isBlank c = true
  | char c => isBlank c = false

/-- The characters of a piece, each with whether it stands in a quoted span. -/
def marks (p : Piece) : List (Char × Bool) :=
  p.text.map fun c => (c, p.isSpan)

end Piece

/-- The text that is put together from pieces. -/
def written (ps : List Piece) : Text :=
  ps.flatMap Piece.text

@[simp] theorem written_nil : written [] = [] := rfl

@[simp] theorem written_cons (p : Piece) (ps : List Piece) :
    written (p :: ps) = p.text ++ written ps := rfl

@[simp] theorem written_append (ps qs : List Piece) :
    written (ps ++ qs) = written ps ++ written qs :=
  List.flatMap_append

/-- Pieces without the runs at both ends. -/
def trimRuns (ps : List Piece) : List Piece :=
  (ps.dropWhile Piece.isRun).rdropWhile Piece.isRun

/-- The pieces of a text, from left to right. -/
def pieces : Text → List Piece
  | [] => []
  | c :: r =>
    if c = '"' ∧ '"' ∈ r then
      .span (r.takeWhile (· != '"')) :: pieces (r.dropWhile (· != '"')).tail
    else if isBlank c then .run (c :: r.takeWhile isBlank) :: pieces (r.dropWhile isBlank)
    else .char c :: pieces r
termination_by t => t.length
decreasing_by
  · have hdrop := (List.dropWhile_suffix (l := r) (· != '"')).length_le
    rw [List.length_tail, List.length_cons]
    omega
  · have hdrop := (List.dropWhile_suffix (l := r) isBlank).length_le
    rw [List.length_cons]
    omega
  · exact Nat.lt_succ_self _

@[simp] theorem pieces_nil : pieces [] = [] := by
  rw [pieces]

variable {t rest inside blanks : Text} {ps qs : List Piece} {p : Piece} {c : Char}

/-! ## One piece after another -/

/-- What stands before the next quote, and what from there. -/
theorem cut_at_quote (hinside : '"' ∉ inside) (rest : Text) :
    (inside ++ '"' :: rest).takeWhile (· != '"') = inside ∧
      (inside ++ '"' :: rest).dropWhile (· != '"') = '"' :: rest := by
  apply cut_while
  · intro c hc
    exact bne_iff_ne.mpr (ne_of_mem_of_not_mem hc hinside)
  · intro c hc
    rw [← Option.some.inj hc]
    rfl

/-- A span ends at the next quote. -/
theorem pieces_span (hinside : '"' ∉ inside) (rest : Text) :
    pieces ('"' :: (inside ++ '"' :: rest)) = .span inside :: pieces rest := by
  obtain ⟨htake, hdrop⟩ := cut_at_quote hinside rest
  have hopen : '"' = '"' ∧ '"' ∈ inside ++ '"' :: rest := by simp
  rw [pieces, if_pos hopen, htake, hdrop, List.tail_cons]

/-- A run goes on to the next character that is not blank. -/
theorem pieces_run (hne : blanks ≠ []) (hblanks : ∀ c ∈ blanks, isBlank c = true)
    (hrest : ∀ c ∈ rest.head?, isBlank c = false) :
    pieces (blanks ++ rest) = .run blanks :: pieces rest := by
  obtain ⟨c, r, rfl⟩ := List.exists_cons_of_ne_nil hne
  rw [List.forall_mem_cons] at hblanks
  obtain ⟨htake, hdrop⟩ := cut_while hblanks.2 hrest
  have hquote : ¬ (c = '"' ∧ '"' ∈ r ++ rest) := fun h => Layout.ne_quote_of_isBlank hblanks.1 h.1
  rw [List.cons_append, pieces, if_neg hquote, if_pos hblanks.1, htake, hdrop]

/-- Any other character is a piece, and so is a quote without another one after it. -/
theorem pieces_char (hblank : isBlank c = false) (hquote : c = '"' → '"' ∉ rest) :
    pieces (c :: rest) = .char c :: pieces rest := by
  have hopen : ¬ (c = '"' ∧ '"' ∈ rest) := fun h => hquote h.1 h.2
  rw [pieces, if_neg hopen, if_neg (Bool.eq_false_iff.mp hblank)]

/-- Every text is empty, or it begins with a span, a run or a character, and a text follows. -/
@[elab_as_elim]
theorem pieces_induction {P : Text → Prop} (nil : P [])
    (span : ∀ inside rest, '"' ∉ inside → P rest → P ('"' :: (inside ++ '"' :: rest)))
    (run : ∀ blanks rest, blanks ≠ [] → (∀ c ∈ blanks, isBlank c = true) →
      (∀ c ∈ rest.head?, isBlank c = false) → P rest → P (blanks ++ rest))
    (char : ∀ c rest, isBlank c = false → (c = '"' → '"' ∉ rest) → P rest → P (c :: rest))
    (t : Text) : P t := by
  induction t using pieces.induct with
  | case1 => exact nil
  | case2 c r hopen ih =>
      obtain ⟨rfl, hclose⟩ := hopen
      obtain ⟨inside, rest, rfl, hinside⟩ := List.eq_append_cons_of_mem hclose
      rw [(cut_at_quote hinside rest).2, List.tail_cons] at ih
      exact span inside rest hinside ih
  | case3 c r _ hblank ih =>
      have hblanks : ∀ d ∈ c :: r.takeWhile isBlank, isBlank d = true :=
        List.forall_mem_cons.mpr ⟨hblank, fun d hd => List.mem_takeWhile_imp hd⟩
      have hstop : ∀ d ∈ (r.dropWhile isBlank).head?, isBlank d = false := by
        intro d hd
        have hfirst := List.head?_dropWhile_not isBlank r
        rw [hd] at hfirst
        simpa using hfirst
      have hall := run (c :: r.takeWhile isBlank) (r.dropWhile isBlank) (List.cons_ne_nil _ _)
        hblanks hstop ih
      rwa [List.cons_append, List.takeWhile_append_dropWhile] at hall
  | case4 c r hopen hblank ih =>
      exact char c r (Bool.eq_false_iff.mpr hblank) (fun hc hmem => hopen ⟨hc, hmem⟩) ih

/-! ## Lists of pieces -/

/-- Pieces as they are cut off a text: a span has no quotes inside, a run has blanks only and all of
them, and a quote by itself has no other one after it. -/
inductive IsCut : List Piece → Prop
  | nil : IsCut []
  | span {inside : Text} {ps : List Piece} (hinside : '"' ∉ inside) (hps : IsCut ps) :
    IsCut (.span inside :: ps)
  | run {blanks : Text} {ps : List Piece} (hne : blanks ≠ [])
    (hblanks : ∀ c ∈ blanks, isBlank c = true) (hnext : ∀ p ∈ ps.head?, p.isRun = false)
    (hps : IsCut ps) : IsCut (.run blanks :: ps)
  | char {c : Char} {ps : List Piece} (hblank : isBlank c = false)
    (hquote : c = '"' → '"' ∉ written ps) (hps : IsCut ps) : IsCut (.char c :: ps)

/-- Pieces that do not begin with a run are not put together to a text that begins with a blank. -/
theorem IsCut.head_written (h : IsCut ps) (hhead : ∀ p ∈ ps.head?, p.isRun = false) :
    ∀ c ∈ (written ps).head?, isBlank c = false := by
  cases h with
  | nil => exact nofun
  | span hinside hps =>
      intro c hc
      obtain rfl : '"' = c := Option.some.inj hc
      decide
  | run hne hblanks hnext hps => exact absurd (hhead _ rfl) (by simp [Piece.isRun])
  | char hblank hquote hps =>
      intro c hc
      obtain rfl := Option.some.inj hc
      exact hblank

/-- Each piece that is cut off a text is proper. -/
theorem IsCut.isProper_of_mem (h : IsCut ps) (hmem : p ∈ ps) : p.IsProper := by
  induction h with
  | nil => cases hmem
  | span hinside hps ih =>
      rcases List.mem_cons.mp hmem with rfl | hmem
      · exact hinside
      · exact ih hmem
  | run hne hblanks hnext hps ih =>
      rcases List.mem_cons.mp hmem with rfl | hmem
      · exact ⟨hne, hblanks⟩
      · exact ih hmem
  | char hblank hquote hps ih =>
      rcases List.mem_cons.mp hmem with rfl | hmem
      · exact hblank
      · exact ih hmem

/-- Pieces that are put together to a text are its pieces. -/
theorem IsCut.pieces_written (h : IsCut ps) : pieces (written ps) = ps := by
  induction h with
  | nil => exact pieces_nil
  | @span inside ps hinside hps ih =>
      have hshape : written (.span inside :: ps) = '"' :: (inside ++ '"' :: written ps) := by
        simp [Piece.text]
      rw [hshape, pieces_span hinside, ih]
  | run hne hblanks hnext hps ih =>
      rw [written_cons, Piece.text, pieces_run hne hblanks (hps.head_written hnext), ih]
  | char hblank hquote hps ih =>
      rw [written_cons, Piece.text, List.singleton_append, pieces_char hblank hquote, ih]

/-- A text that does not begin with a blank does not begin with a run. -/
theorem head_pieces (h : ∀ c ∈ t.head?, isBlank c = false) :
    ∀ p ∈ (pieces t).head?, p.isRun = false := by
  induction t using pieces_induction with
  | nil =>
      rw [pieces_nil]
      exact nofun
  | span inside rest hinside =>
      rw [pieces_span hinside]
      exact fun p hp => by rw [← Option.some.inj hp]; rfl
  | run blanks rest hne hblanks hrest =>
      obtain ⟨c, r, rfl⟩ := List.exists_cons_of_ne_nil hne
      have hc := h c rfl
      rw [hblanks c List.mem_cons_self] at hc
      cases hc
  | char c rest hblank hquote =>
      rw [pieces_char hblank hquote]
      exact fun p hp => by rw [← Option.some.inj hp]; rfl

/-- The pieces of a text are put together to it. -/
theorem written_pieces (t : Text) : written (pieces t) = t := by
  induction t using pieces_induction with
  | nil => rw [pieces_nil, written_nil]
  | span inside rest hinside ih =>
      rw [pieces_span hinside, written_cons, ih, Piece.text, List.cons_append, List.cons_append,
        List.append_assoc, List.singleton_append]
  | run blanks rest hne hblanks hrest ih =>
      rw [pieces_run hne hblanks hrest, written_cons, ih, Piece.text]
  | char c rest hblank hquote ih =>
      rw [pieces_char hblank hquote, written_cons, ih, Piece.text, List.singleton_append]

/-- The pieces of a text are cut off it. -/
theorem isCut_pieces (t : Text) : IsCut (pieces t) := by
  induction t using pieces_induction with
  | nil =>
      rw [pieces_nil]
      exact .nil
  | span inside rest hinside ih =>
      rw [pieces_span hinside]
      exact .span hinside ih
  | run blanks rest hne hblanks hrest ih =>
      rw [pieces_run hne hblanks hrest]
      exact .run hne hblanks (head_pieces hrest) ih
  | char c rest hblank hquote ih =>
      rw [pieces_char hblank hquote]
      exact .char hblank (fun hc => by rw [written_pieces]; exact hquote hc) ih

/-- The pieces of a text are the only ones that are cut off it. -/
theorem pieces_eq_iff : pieces t = ps ↔ IsCut ps ∧ written ps = t := by
  constructor
  · rintro rfl
    exact ⟨isCut_pieces t, written_pieces t⟩
  · rintro ⟨hps, rfl⟩
    exact hps.pieces_written

/-- A text is known by its pieces. -/
theorem pieces_injective : Function.Injective pieces := by
  intro t u h
  rw [← written_pieces t, h, written_pieces]

/-- A text that does not end with a blank does not end with a run. -/
theorem last_pieces (h : ∀ c ∈ t.getLast?, isBlank c = false) :
    ∀ p ∈ (pieces t).getLast?, p.isRun = false := by
  intro p hp
  obtain ⟨qs, hqs⟩ := List.getLast?_eq_some_iff.mp hp
  cases p with
  | run blanks =>
      have hmem : .run blanks ∈ pieces t := by rw [hqs]; simp
      obtain ⟨hne, hblanks⟩ := (isCut_pieces t).isProper_of_mem hmem
      have ht : t = written qs ++ blanks := by
        rw [← written_pieces t, hqs, written_append, written_cons, written_nil, List.append_nil]
        rfl
      have hend : isBlank (blanks.getLast hne) = false := by
        refine h _ ?_
        rw [ht, List.getLast?_append, List.getLast?_eq_some_getLast hne]
        rfl
      rw [hblanks _ (List.getLast_mem hne)] at hend
      cases hend
  | _ => rfl

/-! ## Characters of the pieces -/

/-- The characters of spans are those that are marked. -/
theorem marked_eq_flatMap_pieces (t : Text) : marked false t = (pieces t).flatMap Piece.marks := by
  induction t using pieces_induction with
  | nil => rw [pieces_nil, marked_nil, List.flatMap_nil]
  | span inside rest hinside ih =>
      have hspan : '"' :: (inside ++ '"' :: rest) = Identifier.enquote inside ++ rest := by
        simp [Identifier.enquote, Identifier.doubleQuotes_of_not_mem hinside]
      rw [pieces_span hinside, List.flatMap_cons, ← ih, hspan, marked_enquote_append,
        Identifier.enquote, Identifier.doubleQuotes_of_not_mem hinside]
      rfl
  | run blanks rest hne hblanks hrest ih =>
      have hquote : '"' ∉ blanks := fun hmem => absurd (hblanks _ hmem) (by decide)
      rw [pieces_run hne hblanks hrest, List.flatMap_cons, ← ih,
        marked_append_of_not_mem false hquote]
      rfl
  | char c rest hblank hquote ih =>
      have hopen : ¬ (c = '"' ∧ '"' ∈ rest) := fun h => hquote h.1 h.2
      rw [pieces_char hblank hquote, List.flatMap_cons, ← ih, marked, if_neg hopen]
      rfl

/-- A character stands in a text with a mark exactly if it stands in a piece that gives it the mark. -/
theorem mem_marked_iff {mark : Bool} :
    (c, mark) ∈ marked false t ↔ ∃ p ∈ pieces t, p.isSpan = mark ∧ c ∈ p.text := by
  rw [marked_eq_flatMap_pieces, List.mem_flatMap]
  refine exists_congr fun p => and_congr_right fun _ => ?_
  rw [Piece.marks, List.mem_map]
  constructor
  · rintro ⟨d, hd, heq⟩
    obtain ⟨rfl, rfl⟩ := Prod.mk.inj heq
    exact ⟨rfl, hd⟩
  · rintro ⟨rfl, hc⟩
    exact ⟨c, hc, rfl⟩

/-- The characters in the spans of a text are those of the pieces that are spans. -/
theorem inSpan_iff_pieces : InSpan c t ↔ ∃ p ∈ pieces t, p.isSpan = true ∧ c ∈ p.text :=
  mem_marked_iff

/-- The characters outside of the spans are those of the other pieces. -/
theorem outOfSpans_iff_pieces : OutOfSpans c t ↔ ∃ p ∈ pieces t, p.isSpan = false ∧ c ∈ p.text :=
  mem_marked_iff

/-- A character of a text stands in a span or outside of all. -/
theorem mem_iff_inSpan_or_outOfSpans : c ∈ t ↔ InSpan c t ∨ OutOfSpans c t := by
  have hpieces : c ∈ t ↔ ∃ p ∈ pieces t, c ∈ p.text := by
    rw [← List.mem_flatMap, ← written, written_pieces]
  rw [hpieces, inSpan_iff_pieces, outOfSpans_iff_pieces]
  constructor
  · rintro ⟨p, hp, hc⟩
    cases hspan : p.isSpan with
    | true => exact .inl ⟨p, hp, hspan, hc⟩
    | false => exact .inr ⟨p, hp, hspan, hc⟩
  · rintro (⟨p, hp, -, hc⟩ | ⟨p, hp, -, hc⟩)
    · exact ⟨p, hp, hc⟩
    · exact ⟨p, hp, hc⟩

/-! ## Blanks at the ends -/

/-- Blanks before a text are a run of their own. -/
theorem exists_pieces_append_left {a : Text} (ha : ∀ c ∈ a, isBlank c = true)
    (ht : ∀ c ∈ t.head?, isBlank c = false) :
    ∃ front, pieces (a ++ t) = front ++ pieces t ∧ ∀ p ∈ front, p.isRun = true := by
  by_cases hne : a = []
  · exact ⟨[], by rw [hne]; rfl, nofun⟩
  · exact ⟨[.run a], pieces_run hne ha ht, fun p hp => by rw [List.mem_singleton.mp hp]; rfl⟩

/-- A run may follow pieces that do not end with one. -/
theorem IsCut.append_run {z : Text} (hne : z ≠ []) (hz : ∀ c ∈ z, isBlank c = true) (h : IsCut ps)
    (hlast : ∀ p ∈ ps.getLast?, p.isRun = false) : IsCut (ps ++ [.run z]) := by
  have htail : ∀ {q : Piece} {qs : List Piece}, (∀ p ∈ (q :: qs).getLast?, p.isRun = false) →
      ∀ p ∈ qs.getLast?, p.isRun = false := by
    intro q qs hq p hp
    refine hq p ?_
    rw [List.getLast?_cons, Option.mem_def.mp hp]
    rfl
  induction h with
  | nil => exact .run hne hz nofun .nil
  | span hinside hps ih => exact .span hinside (ih (htail hlast))
  | @run blanks ps hne hblanks hnext hps ih =>
      refine .run hne hblanks ?_ (ih (htail hlast))
      cases ps with
      | nil => cases hlast _ rfl
      | cons q qs => exact hnext
  | @char c ps hblank hquote hps ih =>
      have hquote' : c = '"' → '"' ∉ written (ps ++ [.run z]) := by
        rw [written_append, written_cons, written_nil, List.append_nil, List.mem_append, not_or]
        exact fun hc => ⟨hquote hc, fun hmem => absurd (hz _ hmem) (by decide)⟩
      exact .char hblank hquote' (ih (htail hlast))

/-- Blanks after a text are a run of their own. -/
theorem exists_pieces_append_right {z : Text} (hz : ∀ c ∈ z, isBlank c = true)
    (ht : ∀ c ∈ t.getLast?, isBlank c = false) :
    ∃ back, pieces (t ++ z) = pieces t ++ back ∧ ∀ p ∈ back, p.isRun = true := by
  by_cases hne : z = []
  · exact ⟨[], by rw [hne, List.append_nil, List.append_nil], nofun⟩
  · have hcut : IsCut (pieces t ++ [.run z]) := (isCut_pieces t).append_run hne hz (last_pieces ht)
    have hwritten : written (pieces t ++ [.run z]) = t ++ z := by
      rw [written_append, written_pieces, written_cons, written_nil, List.append_nil, Piece.text]
    exact ⟨[.run z], pieces_eq_iff.mpr ⟨hcut, hwritten⟩,
      fun p hp => by rw [List.mem_singleton.mp hp]; rfl⟩

/-- A text without the blanks at its ends has the same pieces but for the runs there. -/
theorem exists_pieces_strip (raw : Text) : ∃ front back,
    pieces raw = front ++ (pieces (strip raw) ++ back) ∧ ∀ p ∈ front ++ back, p.isRun = true := by
  obtain ⟨a, z, hraw, ha, hz⟩ := exists_eq_append_trim isBlank raw
  change raw = a ++ (strip raw ++ z) at hraw
  by_cases hnil : strip raw = []
  · -- all of the text is one run, or it is empty
    have hblanks : ∀ c ∈ a ++ z, isBlank c = true := fun c hc =>
      (List.mem_append.mp hc).elim (ha c) (hz c)
    obtain ⟨front, heq, hfront⟩ := exists_pieces_append_left (t := []) hblanks nofun
    have hall : raw = a ++ z ++ [] := by rw [List.append_nil, hraw, hnil, List.nil_append]
    refine ⟨front, [], ?_, by rwa [List.append_nil]⟩
    rw [hnil, List.append_nil, ← heq, ← hall]
  · have hhead : ∀ c ∈ (strip raw ++ z).head?, isBlank c = false := by
      rw [List.head?_append, List.head?_eq_some_head hnil, Option.some_or,
        ← List.head?_eq_some_head hnil]
      exact head?_trim isBlank raw
    obtain ⟨front, hleft, hfront⟩ := exists_pieces_append_left ha hhead
    obtain ⟨back, hright, hback⟩ := exists_pieces_append_right hz (getLast?_trim isBlank raw)
    refine ⟨front, back, ?_, fun p hp => (List.mem_append.mp hp).elim (hfront p) (hback p)⟩
    calc pieces raw = pieces (a ++ (strip raw ++ z)) := congrArg pieces hraw
      _ = front ++ pieces (strip raw ++ z) := hleft
      _ = front ++ (pieces (strip raw) ++ back) := congrArg (front ++ ·) hright

/-- Runs before and after pieces are left out. -/
theorem trimRuns_append {front back : List Piece} (hfront : ∀ p ∈ front, p.isRun = true)
    (hback : ∀ p ∈ back, p.isRun = true) (hfirst : ∀ p ∈ ps.head?, p.isRun = false)
    (hlast : ∀ p ∈ ps.getLast?, p.isRun = false) : trimRuns (front ++ (ps ++ back)) = ps := by
  rw [trimRuns, List.dropWhile_append_of_pos hfront]
  cases ps with
  | nil =>
      rw [List.nil_append, List.dropWhile_eq_nil_iff.mpr hback]
      rfl
  | cons p r =>
      have hself : (p :: r).rdropWhile Piece.isRun = p :: r :=
        List.rdropWhile_eq_self_iff.mpr fun hne => by
          simp [hlast _ (List.getLast?_eq_some_getLast hne)]
      have hreverse : ∀ q ∈ back.reverse, q.isRun = true := fun q hq =>
        hback q (List.mem_reverse.mp hq)
      rw [List.cons_append, List.dropWhile_cons_of_neg (by simp [hfirst p rfl]), ← List.cons_append,
        List.rdropWhile, List.reverse_append, List.dropWhile_append_of_pos hreverse]
      exact hself

/-- The runs at the ends of a text are the blanks there. -/
theorem trimRuns_pieces (raw : Text) : trimRuns (pieces raw) = pieces (strip raw) := by
  obtain ⟨front, back, heq, hruns⟩ := exists_pieces_strip raw
  rw [List.forall_mem_append] at hruns
  have hfirst : ∀ p ∈ (pieces (strip raw)).head?, p.isRun = false :=
    head_pieces (head?_trim isBlank raw)
  have hlast : ∀ p ∈ (pieces (strip raw)).getLast?, p.isRun = false :=
    last_pieces (getLast?_trim isBlank raw)
  rw [heq, trimRuns_append hruns.1 hruns.2 hfirst hlast]

end Text

end AccessGrants
