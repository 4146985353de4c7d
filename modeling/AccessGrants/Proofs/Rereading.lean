import AccessGrants.Proofs.StoredGrants
import AccessGrants.Proofs.StoredRoles

/-!
# Canonical forms are read again

A pass reads the canonical forms that it has written itself. What is stored is read back unchanged. A
torn name is not: the line feed before its dot is laid out as a space, and no form reads an identifier
with a space after it.

* `Identifier.IsTorn.splitGrant_append`: the layout of a text that ends with a torn name.
* `Privilege.IsTorn.parse_ne_ok`, `Role.IsTorn.parse_ne_ok`: what is torn is refused.
* `mapM_render_eq_ok_iff`: a list is its own canonical form exactly if each entry is stable.
* `canonical_stable_iff`: canonical forms are stable exactly as far as no line feed stands outside
  the quotes.
-/

namespace AccessGrants

open Text Layout

/-! ## Torn names are refused -/

namespace Identifier

variable {letter : Char → Bool} {t front : Text}

/-- A text that ends with a torn name has no option, and the line feed becomes a space. -/
theorem IsTorn.splitGrant_append (hletter : IsAlphabet letter) (h : IsTorn letter t)
    {start : Place} (hstart : start ≠ .quoted) (hfront : Keeps .plain start front)
    (hsolid : Solid (front ++ t)) :
    ∃ w j, IsUpperName w ∧ t = w ++ '\n' :: '.' :: j ∧
      splitGrant (front ++ t) = .ok (front ++ (w ++ ' ' :: '.' :: j), none) := by
  obtain ⟨w, j, hw, hj, rfl⟩ := h
  have hword : Keeps start .plain w := (hw.isStored hletter).written.keeps hletter hstart
  have hdot : Keeps .blank .plain ['.'] := Keeps.char nofun (by decide) (by decide)
  have hname : Keeps .plain .plain j := hj.written.keeps hletter nofun
  have hrest : Keeps .blank .plain ('.' :: j) := hdot.append hname
  rw [← List.append_assoc] at hsolid
  have hlayout : normalize (front ++ (w ++ '\n' :: '.' :: j)) =
      front ++ (w ++ ' ' :: '.' :: j) := by
    rw [← List.append_assoc, normalize_blank (by decide) hsolid (hfront.append hword) hrest,
      List.append_assoc]
  have hshape : front ++ (w ++ ' ' :: '.' :: j) = (front ++ (w ++ [' '])) ++ '.' :: j := by
    simp only [List.append_assoc, List.singleton_append]
  have hlast : (front ++ (w ++ ' ' :: '.' :: j)).getLast? ≠ some '\n' := by
    obtain ⟨c, hc, hblank⟩ := (hj.written.solid hletter).last
    rw [hshape, List.getLast?_append, List.getLast?_cons, hc]
    rintro ⟨rfl⟩
    exact absurd hblank (by decide)
  refine ⟨w, j, hw, rfl, splitGrant_eq_ok_iff.mpr ?_⟩
  rw [hlayout]
  refine GrantOption.split_of_words hlast fun o => ?_
  rw [hshape]
  exact GrantOption.not_words_of_dot hletter _ hj.written o

/-- A word and a space are not an identifier, and they are none before a dot either. -/
theorem read_eq_none_of_blank {w u : Text} (hletter : IsAlphabet letter) (hw : IsUpperName w) :
    whole letter (w ++ ' ' :: u) = none ∧ qualified letter (w ++ ' ' :: u) = none := by
  have hread : read letter (w ++ ' ' :: u) = some (w, ' ' :: u) := by
    refine (hw.isStored hletter).written.read_append hletter fun c hc => ?_
    rw [List.head?_cons, Option.mem_some] at hc
    rw [← hc]
    refine ⟨Bool.eq_false_iff.mpr fun hchar => ?_, by decide⟩
    exact absurd (hletter.nameChar hchar).2.2 (by decide)
  constructor
  · rw [whole, hread]
    rfl
  · rw [qualified, hread]
    rfl

end Identifier

namespace Form

/-- A word, a space and a dot are no identifier after a phrase. -/
theorem readTarget_eq_none_of_dot {w u : Text} (phrase : Text) (hw : ' ' ∉ w)
    (hphrase : '.' ∉ phrase) : readTarget (phrase ++ [' ']) (w ++ ' ' :: '.' :: u) = none := by
  unfold readTarget
  split
  · next r hdrop =>
    obtain ⟨v, heq, hv⟩ := dropPhrase_blank_eq_some_iff.mp hdrop
    have hr : r = '.' :: u := by
      rcases List.append_eq_append_iff.mp heq with ⟨q, hq, heq⟩ | ⟨q, hq, heq⟩
      · cases q with
        | nil => exact (List.cons.inj heq).2.symm
        | cons c q =>
            -- the phrase would go on with the dot
            have hdot : '.' ∈ v := by
              have htail := (List.cons.inj heq).2
              cases q with
              | nil => exact absurd (List.cons.inj htail).1 (by decide)
              | cons d q =>
                  rw [hq, (List.cons.inj htail).1]
                  simp
            refine absurd ?_ hphrase
            rw [← hv]
            exact List.mem_map_of_mem (f := fold) hdot
      · cases q with
        | nil => exact (List.cons.inj heq).2
        | cons c q =>
            refine absurd ?_ hw
            rw [hq, (List.cons.inj heq).1]
            simp
    rw [hr]
    rfl
  · rfl

end Form

namespace Privilege

variable {p q : Privilege} {defaultSchema : Text}

/-- The grant string of a privilege on an object whose schema is torn from the dot is refused. -/
theorem IsTorn.parse_ne_ok (h : p.IsTorn) : parse p.display defaultSchema ≠ .ok q := by
  obtain ⟨hkind, hname, htarget, hplain⟩ := h
  have hphrase : Keeps .plain .blank " ON ".toList := fun _ => rfl
  have hfront : Keeps .plain .blank (p.name ++ " ON ".toList) :=
    (Verb.keeps hname.verb).append hphrase
  have hsolid : Solid (p.name ++ " ON ".toList ++ p.target) := by
    rw [List.append_assoc]
    exact (Verb.solid hname.verb).append (htarget.solid Form.isLetter_letter) " ON ".toList
  obtain ⟨w, j, hw, -, hsplit⟩ :=
    htarget.splitGrant_append Form.isLetter_letter (by decide) hfront hsolid
  have hdisplay : p.display = p.name ++ " ON ".toList ++ p.target := by
    rw [display_eq, hplain, hkind]
    rfl
  have hverb : Verb.splitOn (p.name ++ " ON ".toList ++ (w ++ ' ' :: '.' :: j)) =
      some (p.name, w ++ ' ' :: '.' :: j) := by
    rw [List.append_assoc]
    exact Form.splitOn_append_on hname.verb _
  have hblank : ' ' ∉ w := fun hmem =>
    absurd (Identifier.isPlainRest_of_mem hw.1 hmem) (by decide)
  obtain ⟨hwhole, hqualified⟩ := Identifier.read_eq_none_of_blank (u := '.' :: j)
    Form.isLetter_letter hw
  have hread : Form.firstRead Form.all defaultSchema
      (p.name ++ " ON ".toList ++ (w ++ ' ' :: '.' :: j)) = none :=
    Form.firstRead_eq_none hverb
      (Form.readTarget_eq_none_of_dot "USERGROUP".toList hblank (by decide))
      (Form.readTarget_eq_none_of_dot "CLIENTSIDE ENCRYPTION COLUMN KEY".toList hblank
        (by decide))
      (Form.readTarget_eq_none_of_dot "REMOTE SOURCE".toList hblank (by decide))
      (Form.readTarget_eq_none_of_dot "SCHEMA".toList hblank (by decide))
      (by rw [Form.readQualified, hqualified]; rfl) hwhole
  obtain ⟨_, herror⟩ := parse_of_firstRead_eq_none hsplit hread
  intro hparse
  rw [hdisplay, herror] at hparse
  cases hparse

end Privilege

namespace Role

variable {r q : Role}

/-- The grant string of a role whose schema is torn from the dot is refused. -/
theorem IsTorn.parse_ne_ok (h : r.IsTorn) : parse r.render ≠ .ok q := by
  obtain ⟨hname, hplain⟩ := h
  have hsolid : Solid ([] ++ r.name) := hname.solid Identifier.isAlphabet_ascii
  obtain ⟨w, j, hw, -, hsplit⟩ := hname.splitGrant_append Identifier.isAlphabet_ascii (by decide)
    (Keeps.nil .plain) hsolid
  have hrender : r.render = [] ++ r.name := by
    rw [render, hplain]
    rfl
  obtain ⟨hwhole, hqualified⟩ := Identifier.read_eq_none_of_blank (u := '.' :: j)
    Identifier.isAlphabet_ascii hw
  intro hparse
  obtain ⟨body, name, grantable, hother, hread, -⟩ := exists_readName_of_parse hparse
  rw [hrender, hsplit, Except.ok.injEq, Prod.mk.injEq] at hother
  rw [← hother.1, List.nil_append, readName, hqualified] at hread
  dsimp only at hread
  rw [hwhole] at hread
  cases hread

end Role

/-! ## What is read is stable or refused -/

namespace Privilege

variable {p : Privilege} {raw defaultSchema : Text}

/-- Outside the quotes of a stored privilege there is no line feed. -/
theorem IsStored.line_target (h : p.IsStored) : '\n' ∉ outsideQuotes p.target := by
  by_cases hkind : p.kind = .system
  · rw [h.target_eq_nil hkind]
    exact List.not_mem_nil
  · exact (PrivilegeKind.path_target hkind h.target).line Form.isLetter_letter

/-- A name has no quotes, so what follows it is quoted as it is by itself. -/
theorem outsideQuotes_append_name {name front u : Text} (hname : Verb.isVerb name = true)
    (hfront : '"' ∉ front) :
    outsideQuotes (name ++ front ++ u) = name ++ front ++ outsideQuotes u := by
  refine outsideQuotes_append_of_not_mem ?_ u
  rw [List.mem_append, not_or]
  exact ⟨fun hmem => absurd (Verb.isLetter_or_blank hname hmem) (by decide), hfront⟩

/-- Nor is there one in its grant string. -/
theorem IsStored.line_display (h : p.IsStored) : '\n' ∉ outsideQuotes p.display := by
  have hname : '\n' ∉ p.name := fun hmem =>
    absurd (Verb.isLetter_or_blank h.name.verb hmem) (by decide)
  rw [display_eq]
  split
  · next hgrantable =>
    intro hmem
    have hline : '\n' ∉ p.kind.clause p.name p.target :=
      PrivilegeKind.line_clause h.name.verb (h.line hgrantable)
    have hsuffix : '\n' ∉ ' ' :: p.kind.grantOption.suffix := by
      cases p.kind <;> decide
    exact (List.mem_append.mp (mem_of_mem_outside hmem)).elim hline hsuffix
  · by_cases hkind : p.kind = .system
    · rw [hkind, PrivilegeKind.clause_system]
      exact fun hmem => hname (mem_of_mem_outside hmem)
    · have hquote : '"' ∉ p.kind.preposition := by
        cases p.kind <;> decide
      have hline : '\n' ∉ p.kind.preposition := by
        cases p.kind <;> decide
      rw [PrivilegeKind.clause_eq hkind, outsideQuotes_append_name h.name.verb hquote,
        List.mem_append, List.mem_append, not_or, not_or]
      exact ⟨⟨hname, hline⟩, h.line_target⟩

/-- In the grant string of a torn object there is one. -/
theorem IsTorn.line_display (h : p.IsTorn) : '\n' ∈ outsideQuotes p.display := by
  have hshape : p.display = p.name ++ " ON ".toList ++ p.target := by
    rw [display_eq, h.plain, h.kind]
    rfl
  rw [hshape, outsideQuotes_append_name h.name.verb (by decide)]
  exact List.mem_append_right _ h.target.line

/-- A privilege that is read is read back, or its grant string is refused, and a line feed outside the
quotes tells which. -/
theorem stable_or_refused
    (hschema : defaultSchema = [] ∨ Identifier.IsUpperName defaultSchema)
    (h : parse raw defaultSchema = .ok p) :
    (parse p.display defaultSchema = .ok p ∧ '\n' ∉ outsideQuotes p.target ∧
        '\n' ∉ outsideQuotes p.display) ∨
      ((∀ q, parse p.display defaultSchema ≠ .ok q) ∧ '\n' ∈ outsideQuotes p.target ∧
        '\n' ∈ outsideQuotes p.display) := by
  rcases stored_or_torn_of_parse hschema h with ⟨hstored, hobject⟩ | htorn
  · exact .inl ⟨hstored.parse_eq hobject, hstored.line_target, hstored.line_display⟩
  · exact .inr ⟨fun q => htorn.parse_ne_ok, htorn.target.line, htorn.line_display⟩

/-- A target with a dot is left as it is. -/
theorem render_eq_display (hdot : p.kind = .object → defaultSchema ≠ [] → '.' ∈ p.target) :
    p.render defaultSchema = p.display := by
  have htarget : p.qualifiedTarget defaultSchema = p.target :=
    if_neg fun h => h.2.2 (hdot h.1 h.2.1)
  rw [display_eq, render, htarget]

/-- An object that is read in a default schema has the dot after its schema. -/
theorem dot_mem_of_parse (hschema : defaultSchema = [] ∨ Identifier.IsUpperName defaultSchema)
    (h : parse raw defaultSchema = .ok p) (hkind : p.kind = .object) (hne : defaultSchema ≠ []) :
    '.' ∈ p.target := by
  rcases stored_or_torn_of_parse hschema h with ⟨hstored, hobject⟩ | htorn
  · have hpath := hstored.target
    rw [hkind] at hpath
    rcases hpath with hone | ⟨i, j, -, -, heq⟩
    · exact absurd (hobject hkind hone) hne
    · rw [heq]
      exact List.mem_append_right _ List.mem_cons_self
  · obtain ⟨w, j, -, -, heq⟩ := htorn.target
    rw [heq]
    simp

/-- A privilege that is read in a default schema has its schema already. -/
theorem render_of_parse (hschema : defaultSchema = [] ∨ Identifier.IsUpperName defaultSchema)
    (h : parse raw defaultSchema = .ok p) : p.render defaultSchema = p.display :=
  render_eq_display (dot_mem_of_parse hschema h)

end Privilege

namespace Role

variable {r : Role} {raw : Text}

/-- A role that is read is read back, or its grant string is refused, and a line feed outside the
quotes tells which. -/
theorem stable_or_refused (h : parse raw = .ok r) :
    (parse r.render = .ok r ∧ '\n' ∉ outsideQuotes r.name ∧ '\n' ∉ outsideQuotes r.render) ∨
      ((∀ q, parse r.render ≠ .ok q) ∧ '\n' ∈ outsideQuotes r.name ∧
        '\n' ∈ outsideQuotes r.render) := by
  rcases stored_or_torn_of_parse h with hstored | htorn
  · have hline := hstored.name.line Identifier.isAlphabet_ascii
    refine .inl ⟨hstored.parse_eq, hline, ?_⟩
    rw [render]
    split
    · next hgrantable =>
      intro hmem
      exact (List.mem_append.mp (mem_of_mem_outside hmem)).elim (hstored.line hgrantable)
        (by decide)
    · exact hline
  · have hrender : r.render = r.name := by
      rw [render, htorn.plain]
      rfl
    refine .inr ⟨fun q => htorn.parse_ne_ok, htorn.name.line, ?_⟩
    rw [hrender]
    exact htorn.name.line

end Role

/-! ## Lists -/

/-- A list of canonical forms is its own canonical form exactly if each of its entries is stable,
where what is stable is read back and what is not is refused. -/
theorem mapM_render_eq_ok_iff {α ε : Type} (parse : Text → Except ε α) (render : α → Text)
    (stable : Text → Prop) {as : List α}
    (h : ∀ a ∈ as, (parse (render a) = .ok a ∧ stable (render a)) ∨
      ((∀ b, parse (render a) ≠ .ok b) ∧ ¬ stable (render a))) :
    ((as.map render).mapM parse >>= fun bs => pure (bs.map render)) = .ok (as.map render) ↔
      ∀ t ∈ as.map render, stable t := by
  rw [List.forall_mem_map]
  constructor
  · intro hlist a ha
    obtain ⟨bs, hread, -⟩ := bind_eq_ok_iff.mp hlist
    obtain ⟨b, -, hb⟩ := exists_of_mapM_eq_ok hread (List.mem_map_of_mem ha)
    rcases h a ha with ⟨-, hstable⟩ | ⟨hrefused, -⟩
    · exact hstable
    · exact absurd hb (hrefused b)
  · intro hall
    refine bind_eq_ok_iff.mpr ⟨as, mapM_eq_ok_iff.mpr ?_, rfl⟩
    rw [List.forall₂_map_left_iff, List.forall₂_same]
    intro a ha
    rcases h a ha with ⟨hread, -⟩ | ⟨-, hunstable⟩
    · exact hread
    · exact absurd (hall a ha) hunstable

/-- The canonical form of a list of privileges is stable exactly if no line feed stands outside the
quotes. -/
theorem Privilege.canonicalStrings_stable_iff {raws ts : List Text} {defaultSchema : Text}
    (hschema : defaultSchema = [] ∨ Identifier.IsUpperName defaultSchema)
    (h : canonicalStrings raws defaultSchema = .ok ts) :
    canonicalStrings ts defaultSchema = .ok ts ↔ ∀ t ∈ ts, '\n' ∉ outsideQuotes t := by
  obtain ⟨ps, hread, heq⟩ := bind_eq_ok_iff.mp h
  obtain rfl : ps.map (fun p => p.render defaultSchema) = ts := Except.ok.inj heq
  refine mapM_render_eq_ok_iff (fun raw => parse raw defaultSchema)
    (fun p => p.render defaultSchema) _ fun p hp => ?_
  obtain ⟨raw, -, hraw⟩ := (mem_parseAll hread).mp hp
  rw [render_of_parse hschema hraw]
  exact (stable_or_refused hschema hraw).imp (fun h => ⟨h.1, h.2.2⟩)
    fun h => ⟨h.1, not_not_intro h.2.2⟩

/-- The canonical form of a list of roles is stable exactly if no line feed stands outside the
quotes. -/
theorem Role.canonicalStrings_stable_iff {raws ts : List Text}
    (h : canonicalStrings raws = .ok ts) :
    canonicalStrings ts = .ok ts ↔ ∀ t ∈ ts, '\n' ∉ outsideQuotes t := by
  obtain ⟨rs, hread, heq⟩ := bind_eq_ok_iff.mp h
  obtain rfl : rs.map render = ts := Except.ok.inj heq
  refine mapM_render_eq_ok_iff parse render _ fun r hr => ?_
  obtain ⟨raw, -, hraw⟩ := (mem_parseAll hread).mp hr
  exact (stable_or_refused hraw).imp (fun h => ⟨h.1, h.2.2⟩) fun h => ⟨h.1, not_not_intro h.2.2⟩

/-! ## Stability -/

/-- Canonical forms are stable exactly as far as no line feed stands outside the quotes: a privilege
or a role that is read is read back from its grant string, and the canonical form of a list is its own
canonical form. -/
theorem canonical_stable_iff {defaultSchema : Text}
    (hschema : defaultSchema = [] ∨ Identifier.IsUpperName defaultSchema) :
    (∀ raw p, Privilege.parse raw defaultSchema = .ok p →
      (Privilege.parse p.display defaultSchema = .ok p ↔ '\n' ∉ outsideQuotes p.target)) ∧
    (∀ raw r, Role.parse raw = .ok r →
      (Role.parse r.render = .ok r ↔ '\n' ∉ outsideQuotes r.name)) ∧
    (∀ raws ts, Privilege.canonicalStrings raws defaultSchema = .ok ts →
      (Privilege.canonicalStrings ts defaultSchema = .ok ts ↔
        ∀ t ∈ ts, '\n' ∉ outsideQuotes t)) ∧
    (∀ raws ts, Role.canonicalStrings raws = .ok ts →
      (Role.canonicalStrings ts = .ok ts ↔ ∀ t ∈ ts, '\n' ∉ outsideQuotes t)) := by
  refine ⟨fun raw p h => ?_, fun raw r h => ?_,
    fun raws ts h => Privilege.canonicalStrings_stable_iff hschema h,
    fun raws ts h => Role.canonicalStrings_stable_iff h⟩
  · rcases Privilege.stable_or_refused hschema h with ⟨hstable, hline, -⟩ | ⟨hrefused, hline, -⟩
    · exact iff_of_true hstable hline
    · exact iff_of_false (hrefused p) (not_not_intro hline)
  · rcases Role.stable_or_refused h with ⟨hstable, hline, -⟩ | ⟨hrefused, hline, -⟩
    · exact iff_of_true hstable hline
    · exact iff_of_false (hrefused r) (not_not_intro hline)

/-- A privilege and a role whose names have blanks in them. -/
theorem canonical_stable_of_quoted_names :
    ∃ p r, Privilege.parse "select on \"a b\" with grant option".toList "SALES".toList = .ok p ∧
      Privilege.parse p.display "SALES".toList = .ok p ∧
      Role.parse "\"day shift\" with admin option".toList = .ok r ∧
      Role.parse r.render = .ok r ∧
      Privilege.canonicalStrings [p.display] "SALES".toList = .ok [p.display] ∧
      Role.canonicalStrings [r.render] = .ok [r.render] := by
  obtain ⟨hprivilege, hrole, hprivileges, hroles⟩ :=
    canonical_stable_iff (.inr (by decide) : "SALES".toList = [] ∨ _)
  have hp : Privilege.parse "select on \"a b\" with grant option".toList "SALES".toList =
      .ok ⟨.object, "SELECT".toList, "SALES.\"a b\"".toList, true⟩ := rfl
  have hr : Role.parse "\"day shift\" with admin option".toList =
      .ok ⟨"\"day shift\"".toList, true⟩ := rfl
  refine ⟨_, _, hp, (hprivilege _ _ hp).mpr (by decide), hr, (hrole _ _ hr).mpr (by decide), ?_, ?_⟩
  · exact (hprivileges ["select on \"a b\" with grant option".toList] _ rfl).mpr (by decide)
  · exact (hroles ["\"day shift\" with admin option".toList] _ rfl).mpr (by decide)

/-- A schema that loses its quotes although a line feed follows its name. -/
theorem reread_torn_object :
    ∃ p, Privilege.parse "SELECT ON \"A\n\".B".toList [] = .ok p ∧
      Privilege.parse p.display [] ≠ .ok p := by
  refine ⟨⟨.object, "SELECT".toList, "A\n.B".toList, false⟩, rfl, ?_⟩
  refine Privilege.IsTorn.parse_ne_ok ⟨rfl, ⟨by decide, by decide⟩, ?_, rfl⟩
  have hname : Identifier.IsCanonical "B".toList := .plain (by decide)
  exact ⟨"A".toList, "B".toList, by decide, hname.isStored Form.isLetter_letter, by decide⟩

end AccessGrants
