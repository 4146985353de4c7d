import AccessGrants.Proofs.Pieces
import Mathlib.Data.List.Forall2

/-!
# The normal layout is canonical

In normal layout a text has the pieces that it has without the blanks at its ends, but for a single
space in the place of each run. All else follows from this: what is kept, that a text in normal
layout stays as it is, and which texts have the same normal layout.

* `Text.solidPieces`: the spans of a text and what is not blank outside of them.
  `Text.IsNormalForm`: what the normal form of a text has to be.
* `Layout.squeeze_written`: how pieces are laid out. `Layout.pieces_normalize`: the pieces of a text
  in normal layout.
* `Layout.isNormalForm_iff`: a text has one normal form.
* `Text.IsNormalForm.inSpan_iff`, `Text.IsNormalForm.outOfSpans`: what a normal form has in its spans
  and outside of them. `Layout.newline_mem_normalize_iff`: a line feed is kept exactly in a span.
* `Text.DifferInBlanks`, `Layout.normalize_eq_iff`: texts with the same normal form.
* `Layout.normalize_canonical`: all of it.
-/

namespace AccessGrants

namespace Text

/-- A piece, with a single space for a run of blanks. -/
def Piece.squeezed : Piece → Piece
  | .run _ => .run [' ']
  | p => p

/-- A piece that is the same as another one, or a run of blanks as the other one is. -/
inductive Piece.Alike : Piece → Piece → Prop
  | same (p : Piece) : Alike p p
  | runs (blanks other : Text) : Alike (.run blanks) (.run other)

/-- The quoted spans of a text and the characters outside of them that are not blank, in order. -/
def solidPieces (t : Text) : List Piece :=
  (pieces t).filter fun p => !p.isRun

/-- A text is the normal form of another one: it has the same spans and the same characters outside
of them that are not blank, no blank stands at its ends, and outside of its spans it has no blanks
but single spaces, which stand among its pieces where the other one, without the blanks at its ends,
has a run. -/
structure IsNormalForm (raw form : Text) : Prop where
  solid : solidPieces form = solidPieces raw
  first : ∀ c ∈ form.head?, isBlank c = false
  last : ∀ c ∈ form.getLast?, isBlank c = false
  single : ∀ blanks, .run blanks ∈ pieces form → blanks = [' ']
  runs : (pieces form).map Piece.isRun = (pieces (strip raw)).map Piece.isRun

/-- Two texts differ only in the length and the kind of the runs of blanks outside of their spans,
and in the blanks at their ends: apart from runs there, each piece of one is alike to one of the
other. -/
def DifferInBlanks (t u : Text) : Prop :=
  List.Forall₂ Piece.Alike (trimRuns (pieces t)) (trimRuns (pieces u))

variable {ps qs : List Piece} {p q : Piece} {raw form t u : Text} {c : Char}

/-! ## Single spaces -/

@[simp] theorem Piece.isRun_squeezed (p : Piece) : p.squeezed.isRun = p.isRun := by
  cases p <;> rfl

@[simp] theorem Piece.squeezed_squeezed (p : Piece) : p.squeezed.squeezed = p.squeezed := by
  cases p <;> rfl

/-- Apart from the runs the pieces stay as they are. -/
theorem filter_squeezed (ps : List Piece) :
    (ps.map Piece.squeezed).filter (fun p => !p.isRun) = ps.filter fun p => !p.isRun := by
  induction ps with
  | nil => rfl
  | cons p ps ih =>
      rw [List.map_cons, List.filter_cons, List.filter_cons, ih, Piece.isRun_squeezed]
      cases p <;> rfl

/-- Pieces with single spaces for their runs are known by the other pieces and the places of the
runs. -/
theorem eq_map_squeezed (hsolid : (ps.filter fun p => !p.isRun) = qs.filter fun p => !p.isRun)
    (hruns : ps.map Piece.isRun = qs.map Piece.isRun)
    (hsingle : ∀ blanks, .run blanks ∈ ps → blanks = [' ']) : ps = qs.map Piece.squeezed := by
  induction ps generalizing qs with
  | nil => rw [List.map_eq_nil_iff.mp hruns.symm, List.map_nil]
  | cons p ps ih =>
      obtain ⟨q, qs, rfl, hq, htail⟩ := List.map_eq_cons_iff.mp hruns.symm
      have hrest : ∀ blanks, .run blanks ∈ ps → blanks = [' '] := fun blanks hmem =>
        hsingle blanks (List.mem_cons_of_mem _ hmem)
      rw [List.filter_cons, List.filter_cons, hq] at hsolid
      rw [List.map_cons]
      cases p with
      | run blanks =>
          cases q with
          | run other =>
              rw [hsingle blanks List.mem_cons_self, ih hsolid htail.symm hrest, Piece.squeezed]
          | _ => cases hq
      | _ =>
          obtain ⟨rfl, hsame⟩ := List.cons.inj hsolid
          rw [← ih hsame htail.symm hrest]
          rfl

/-- With single spaces two pieces are the same exactly if they were so before, or both are runs. -/
theorem Piece.alike_iff : Alike p q ↔ p.squeezed = q.squeezed := by
  constructor
  · rintro (p | ⟨blanks, other⟩)
    · rfl
    · rfl
  · intro h
    cases p with
    | run blanks =>
        cases q with
        | run other => exact .runs blanks other
        | _ => cases h
    | span inside =>
        cases q with
        | span other =>
            cases h
            exact .same _
        | _ => cases h
    | char c =>
        cases q with
        | char d =>
            cases h
            exact .same _
        | _ => cases h

/-- With single spaces for their runs, pieces have no more quotes. -/
theorem quote_mem_of_squeezed (h : '"' ∈ written (ps.map Piece.squeezed)) : '"' ∈ written ps := by
  induction ps with
  | nil => exact h
  | cons p ps ih =>
      rw [List.map_cons, written_cons, List.mem_append] at h
      rw [written_cons, List.mem_append]
      refine h.imp (fun hp => ?_) ih
      cases p with
      | run blanks =>
          change '"' ∈ [' '] at hp
          exact absurd hp (by decide)
      | _ => exact hp

/-- Pieces stay such with single spaces for their runs. -/
theorem IsCut.map_squeezed (h : IsCut ps) : IsCut (ps.map Piece.squeezed) := by
  induction h with
  | nil => exact .nil
  | span hinside hps ih => exact .span hinside ih
  | @run blanks ps hne hblanks hnext hps ih =>
      have hspace : ∀ c ∈ [' '], isBlank c = true := List.forall_mem_singleton.mpr (by decide)
      refine .run (List.cons_ne_nil _ _) hspace (fun p hp => ?_) ih
      rw [List.head?_map] at hp
      obtain ⟨q, hq, rfl⟩ := Option.map_eq_some_iff.mp hp
      rw [Piece.isRun_squeezed, hnext q hq]
  | char hblank hquote hps ih =>
      exact .char hblank (fun hc => mt quote_mem_of_squeezed (hquote hc)) ih

/-- Without the blanks at its ends a text has the same spans, and the same outside of them. -/
theorem solidPieces_strip (raw : Text) : solidPieces (strip raw) = solidPieces raw := by
  have hnone : ∀ {qs : List Piece}, (∀ p ∈ qs, p.isRun = true) →
      qs.filter (fun p => !p.isRun) = [] := fun hqs =>
    List.filter_eq_nil_iff.mpr fun p hp => by simp [hqs p hp]
  obtain ⟨front, back, heq, hruns⟩ := exists_pieces_strip raw
  rw [List.forall_mem_append] at hruns
  rw [solidPieces, solidPieces, heq, List.filter_append, List.filter_append, hnone hruns.1,
    hnone hruns.2, List.nil_append, List.append_nil]

/-! ## Spans of a normal form -/

/-- The spans of a text are among the pieces that a normal form keeps. -/
theorem inSpan_iff_solidPieces :
    InSpan c t ↔ ∃ p ∈ solidPieces t, p.isSpan = true ∧ c ∈ p.text := by
  rw [inSpan_iff_pieces]
  constructor
  · rintro ⟨p, hp, hspan, hc⟩
    have hrun : (!p.isRun) = true := by
      cases p with
      | span inside => rfl
      | _ => cases hspan
    exact ⟨p, List.mem_filter.mpr ⟨hp, hrun⟩, hspan, hc⟩
  · rintro ⟨p, hp, hspan, hc⟩
    exact ⟨p, (List.mem_filter.mp hp).1, hspan, hc⟩

/-- A normal form has the same characters in its spans. -/
theorem IsNormalForm.inSpan_iff (h : IsNormalForm raw form) : InSpan c form ↔ InSpan c raw := by
  rw [inSpan_iff_solidPieces, inSpan_iff_solidPieces, h.solid]

/-- Outside of its spans a normal form has nothing but spaces and what stands there in the text. -/
theorem IsNormalForm.outOfSpans (h : IsNormalForm raw form) (hc : OutOfSpans c form) :
    c = ' ' ∨ isBlank c = false ∧ OutOfSpans c raw := by
  obtain ⟨p, hp, hspan, hmem⟩ := outOfSpans_iff_pieces.mp hc
  cases p with
  | span inside => cases hspan
  | run blanks =>
      have hspace : c ∈ [' '] := h.single blanks hp ▸ hmem
      exact .inl (List.mem_singleton.mp hspace)
  | char d =>
      obtain rfl : c = d := List.mem_singleton.mp hmem
      have hsolid : .char c ∈ solidPieces raw := h.solid ▸ List.mem_filter.mpr ⟨hp, rfl⟩
      have hraw := (List.mem_filter.mp hsolid).1
      exact .inr ⟨(isCut_pieces raw).isProper_of_mem hraw,
        outOfSpans_iff_pieces.mpr ⟨_, hraw, rfl, hmem⟩⟩

/-- A blank other than the space is kept exactly in a span. -/
theorem IsNormalForm.mem_iff_of_isBlank (h : IsNormalForm raw form) (hblank : isBlank c = true)
    (hspace : c ≠ ' ') : c ∈ form ↔ InSpan c raw := by
  rw [mem_iff_inSpan_or_outOfSpans, h.inSpan_iff]
  refine or_iff_left fun hout => ?_
  rcases h.outOfSpans hout with heq | ⟨hsolid, -⟩
  · exact hspace heq
  · rw [hblank] at hsolid
    cases hsolid

end Text

namespace Layout

open Text

variable {ps : List Piece} {raw form t u : Text}

/-! ## The pieces of a text in normal layout -/

/-- Laid out, pieces have a single space for each run. -/
theorem squeeze_written {place : Place} (h : IsCut ps) (hplace : place ≠ .quoted)
    (hfirst : place = .blank → ∀ p ∈ ps.head?, p.isRun = false) :
    squeeze place (written ps) = written (ps.map Piece.squeezed) := by
  induction h generalizing place with
  | nil => rw [written_nil, squeeze_nil, List.map_nil, written_nil]
  | @span inside ps hinside hps ih =>
      have hspan : Keeps place .plain (Piece.span inside).text := by
        have hquoted := Keeps.enquote hplace inside
        rwa [Identifier.enquote, Identifier.doubleQuotes_of_not_mem hinside] at hquoted
      have hrest : squeeze .plain (written ps) = written (ps.map Piece.squeezed) :=
        ih (by decide) fun hblank => absurd hblank (by decide)
      rw [written_cons, hspan, hrest]
      rfl
  | @run blanks ps hne hblanks hnext hps ih =>
      -- no run follows a blank, because a run has all the blanks that follow each other
      have hplain : place = .plain := by
        cases place with
        | plain => rfl
        | blank =>
            have hrun : true = false := hfirst rfl _ rfl
            cases hrun
        | quoted => exact absurd rfl hplace
      have hrest : squeeze .blank (written ps) = written (ps.map Piece.squeezed) :=
        ih (by decide) fun _ => hnext
      rw [hplain, written_cons, Piece.text, squeeze_plain_append hne hblanks, hrest]
      rfl
  | @char c ps hblank hquote hps ih =>
      have hnext : place.next c (written ps) = .plain := by
        rw [Place.next, if_neg hplace]
        split
        · next hc => exact if_neg (hquote hc)
        · exact if_neg (Bool.eq_false_iff.mp hblank)
      have hrest : squeeze .plain (written ps) = written (ps.map Piece.squeezed) :=
        ih (by decide) fun hblank => absurd hblank (by decide)
      rw [written_cons, Piece.text, List.singleton_append, squeeze_cons, hnext, Place.written,
        if_pos (.inr hblank), hrest]
      rfl

/-- In normal layout a text is put together from its pieces without the blanks at its ends, with a
single space for each run. -/
theorem normalize_eq_written (raw : Text) :
    normalize raw = written ((pieces (strip raw)).map Piece.squeezed) := by
  have hlayout : squeeze .plain (written (pieces (strip raw))) =
      written ((pieces (strip raw)).map Piece.squeezed) :=
    squeeze_written (isCut_pieces _) (by decide) fun hblank => absurd hblank (by decide)
  rw [← hlayout, written_pieces, normalize]

/-- These are its pieces. -/
theorem pieces_normalize (raw : Text) :
    pieces (normalize raw) = (pieces (strip raw)).map Piece.squeezed := by
  rw [normalize_eq_written, (isCut_pieces _).map_squeezed.pieces_written]

/-- In normal layout a text neither begins nor ends with a blank. -/
theorem solid_normalize (h : strip raw ≠ []) : Solid (normalize raw) := by
  obtain ⟨⟨c, hc, hfirst⟩, d, hd, hlast⟩ := solid_strip h
  refine ⟨⟨c, ?_, hfirst⟩, d, getLast?_squeeze hd hlast, hlast⟩
  obtain ⟨r, hr⟩ := List.head?_eq_some_iff.mp hc
  rw [normalize, hr, squeeze_cons, Place.written, if_pos (.inr hfirst)]
  rfl

/-- Nothing is stripped off a text in normal layout. -/
theorem strip_normalize (raw : Text) : strip (normalize raw) = normalize raw := by
  by_cases hnil : strip raw = []
  · rw [normalize, hnil]
    rfl
  · exact (solid_normalize hnil).strip_eq

/-! ## One normal form -/

/-- A text in normal layout is a normal form. -/
theorem isNormalForm_normalize (raw : Text) : IsNormalForm raw (normalize raw) where
  solid := by
    rw [← solidPieces_strip raw, solidPieces, solidPieces, pieces_normalize, filter_squeezed]
  first := by
    rw [← strip_normalize]
    exact head?_trim isBlank _
  last := by
    rw [← strip_normalize]
    exact getLast?_trim isBlank _
  single := by
    intro blanks hmem
    rw [pieces_normalize] at hmem
    obtain ⟨p, -, hp⟩ := List.mem_map.mp hmem
    cases p <;> cases hp
    rfl
  runs := by
    rw [pieces_normalize, List.map_map]
    exact List.map_congr_left fun p _ => Piece.isRun_squeezed p

/-- It is the only one. -/
theorem isNormalForm_iff : IsNormalForm raw form ↔ form = normalize raw := by
  constructor
  · intro h
    have hsolid : solidPieces form = solidPieces (strip raw) := by rw [h.solid, solidPieces_strip]
    -- both texts have the same pieces but for their runs, and runs are single spaces in both
    apply pieces_injective
    rw [pieces_normalize]
    exact eq_map_squeezed hsolid h.runs h.single
  · rintro rfl
    exact isNormalForm_normalize raw

/-- A line feed is kept exactly in a span. -/
theorem newline_mem_normalize_iff : '\n' ∈ normalize raw ↔ InSpan '\n' raw :=
  (isNormalForm_normalize raw).mem_iff_of_isBlank (by decide) (by decide)

/-- A text in normal layout stays as it is. -/
theorem normalize_normalize (raw : Text) : normalize (normalize raw) = normalize raw := by
  apply pieces_injective
  rw [pieces_normalize, strip_normalize, pieces_normalize, List.map_map]
  refine List.map_congr_left fun p _ => ?_
  exact Piece.squeezed_squeezed p

/-- Texts have the same normal layout exactly if they differ only in their runs of blanks. -/
theorem normalize_eq_iff : normalize t = normalize u ↔ DifferInBlanks t u := by
  rw [← pieces_injective.eq_iff, pieces_normalize, pieces_normalize, DifferInBlanks,
    trimRuns_pieces, trimRuns_pieces, ← List.forall₂_eq_eq_eq, List.forall₂_map_left_iff,
    List.forall₂_map_right_iff]
  constructor
  · exact fun h => h.imp fun _ _ => Piece.alike_iff.mpr
  · exact fun h => h.imp fun _ _ => Piece.alike_iff.mp

/-- The normal layout is canonical. -/
theorem normalize_canonical (raw other : Text) :
    (∀ form, IsNormalForm raw form ↔ form = normalize raw) ∧
      normalize (normalize raw) = normalize raw ∧
      (normalize raw = normalize other ↔ DifferInBlanks raw other) :=
  ⟨fun _ => isNormalForm_iff, normalize_normalize raw, normalize_eq_iff⟩

/-- Blanks are kept in a span, but not after a quote that opens none. -/
example : normalize " SELECT \t ON  \"A  B\"\"\"\n\"  C ".toList =
    "SELECT ON \"A  B\"\"\" \" C".toList := by decide

end Layout

end AccessGrants
