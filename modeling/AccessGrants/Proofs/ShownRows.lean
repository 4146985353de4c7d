import AccessGrants.Proofs.CatalogSpellings
import AccessGrants.Proofs.WellFormed

/-!
# What the catalog shows is well-formed

The names of the catalog may be any texts, also such as no grant string can have: the empty name, and a
plain name with a line feed, which is shown without quotes. The grant string of a row need not be read
back, then. If it is read, what is read is well-formed.

* `Identifier.IsShown`: a name as it is shown, at the end of a grant string.
* `Identifier.exists_normalize_quote`: a name as it is shown before a dot.
* `Privilege.IsShown`, `Privilege.isShown_of_ofRow`: the privileges that are shown.
* `Privilege.wellFormed_of_parse_display`, `Role.path_of_parse_shown`: what is read of a row is
  well-formed.
-/

namespace AccessGrants

open Text Layout

variable {letter : Char → Bool} {name t u rest i : Text}

/-! ## Names as they are shown -/

namespace Identifier

/-- A name as it is shown at the end of a grant string: it is stored, or it is the empty name. -/
def IsShown (letter : Char → Bool) (t : Text) : Prop :=
  t = enquote [] ∨ IsStored letter t

/-- What is shown of a name is a stored identifier, perhaps with a line feed after it, but for the empty
name. -/
theorem exists_isShown_quote (hletter : IsAlphabet letter) (name : Text) :
    ∃ s, IsShown letter s ∧ (quote name = s ∨ IsUpperName s ∧ quote name = s ++ ['\n']) := by
  by_cases hne : name = []
  · subst hne
    exact ⟨enquote [], .inl rfl, .inl rfl⟩
  · obtain ⟨s, hs, hcanonical⟩ := exists_isStored_of_isWritten hletter (.quoted hne)
    rw [canonical_enquote] at hcanonical
    exact ⟨s, .inr hs, hcanonical⟩

namespace IsShown

/-- What is shown of a name is solid. -/
theorem solid (hletter : IsAlphabet letter) (h : IsShown letter t) : Solid t := by
  rcases h with rfl | hstored
  · exact Solid.enquote []
  · exact hstored.written.solid hletter

/-- What is shown of a name is kept in normal layout. -/
theorem keeps {start : Place} (hletter : IsAlphabet letter) (hstart : start ≠ .quoted)
    (h : IsShown letter t) : Keeps start .plain t := by
  rcases h with rfl | hstored
  · exact Keeps.enquote hstart []
  · exact hstored.written.keeps hletter hstart

/-- What is shown is one word, or it is quoted. -/
theorem plain_or_quoted (hletter : IsAlphabet letter) (h : IsShown letter t) :
    (' ' ∉ t ∧ '\n' ∉ t) ∨ ∃ name, t = enquote name := by
  rcases h with rfl | ⟨hwritten, -⟩
  · exact .inr ⟨[], rfl⟩
  · cases hwritten with
    | plain hplain =>
        refine .inl ⟨hplain.not_blank_mem hletter, fun hmem => ?_⟩
        exact absurd (hplain.solid hletter hmem).2.2 (by decide)
    | @quoted name => exact .inr ⟨name, rfl⟩

/-- What is read of it, with a blank or a dot after it, is all of it, and it is stored. -/
theorem of_read (hletter : IsAlphabet letter) (h : IsShown letter t)
    (hrest : ∀ c ∈ rest.head?, c = ' ' ∨ c = '.')
    (hread : read letter (t ++ rest) = some (i, u)) :
    u = rest ∧ IsStored letter (canonical i) := by
  rcases h with rfl | hstored
  · -- nothing stands between the quotes
    have hquotes : readQuoted ('"' :: rest) = some ([], rest) := by
      have hempty : readQuoted (doubleQuotes [] ++ '"' :: rest) = some (doubleQuotes [], rest) := by
        refine readQuoted_doubleQuotes fun hquote => ?_
        rcases hrest '"' hquote with hchar | hchar
        · exact absurd hchar (by decide)
        · exact absurd hchar (by decide)
      exact hempty
    change read letter ('"' :: '"' :: rest) = some (i, u) at hread
    rw [read, if_pos rfl, hquotes] at hread
    cases hread
  · have hall : read letter (t ++ rest) = some (t, rest) := by
      refine hstored.written.read_append hletter fun c hc => ?_
      rcases hrest c hc with rfl | rfl
      · refine ⟨Bool.eq_false_iff.mpr fun hchar => ?_, by decide⟩
        exact absurd (hletter.nameChar hchar).2.2 (by decide)
      · exact ⟨Bool.eq_false_iff.mpr fun hchar => (hletter.nameChar hchar).2.1 rfl, by decide⟩
    rw [hall] at hread
    cases hread
    rw [hstored.canonical]
    exact ⟨rfl, hstored⟩

end IsShown

/-- Without white space around it a name is shown. -/
theorem isShown_stripWhiteSpace (hletter : IsAlphabet letter) (name : Text) :
    IsShown letter (stripWhiteSpace (quote name)) := by
  obtain ⟨s, hs, heq | ⟨-, heq⟩⟩ := exists_isShown_quote hletter name
  · rwa [heq, (hs.solid hletter).stripWhiteSpace_eq]
  · rwa [heq, (hs.solid hletter).stripWhiteSpace_append (by decide)]

/-- A name does not begin with a blank. -/
theorem first_quote (hletter : IsAlphabet letter) (name : Text) :
    ∃ c, (quote name).head? = some c ∧ isBlank c = false := by
  by_cases hne : name = []
  · exact ⟨'"', by rw [hne]; rfl, by decide⟩
  · rw [← canonical_enquote]
    exact first_canonical hletter (.quoted hne)

/-- Two names are trimmed after the second one only. -/
theorem stripWhiteSpace_quote_append (hletter : IsAlphabet letter) (name other : Text) :
    stripWhiteSpace (quote name ++ '.' :: quote other) =
      quote name ++ '.' :: stripWhiteSpace (quote other) := by
  rw [stripWhiteSpace_append_dot _ (first_quote hletter other),
    dropWhile_isWhiteSpace (first_quote hletter name)]

/-- In normal layout a name before a dot is shown, perhaps with a space after it. -/
theorem exists_normalize_quote (hletter : IsAlphabet letter) {start : Place} {front : Text}
    (hstart : start ≠ .quoted) (hfront : Keeps .plain start front) (hu : Keeps .plain .plain u)
    (hsolid : Solid (front ++ (quote name ++ '.' :: u))) :
    ∃ s x, IsShown letter s ∧ (x = [] ∨ x = [' ']) ∧
      normalize (front ++ (quote name ++ '.' :: u)) = front ++ (s ++ (x ++ '.' :: u)) := by
  obtain ⟨s, hs, hquote⟩ := exists_isShown_quote hletter name
  have hname : Keeps .plain .plain (front ++ s) := hfront.append (hs.keeps hletter hstart)
  have hdot : ∀ {place : Place}, place ≠ .quoted → Keeps place .plain ('.' :: u) := fun hplace =>
    (Keeps.char hplace (by decide) (by decide)).append hu
  rcases hquote with heq | ⟨-, heq⟩
  · refine ⟨s, [], hs, .inl rfl, ?_⟩
    rw [heq] at hsolid ⊢
    have hall : Keeps .plain .plain (front ++ (s ++ '.' :: u)) := by
      rw [← List.append_assoc]
      exact hname.append (hdot nofun)
    exact normalize_eq_self hsolid hall
  · refine ⟨s, [' '], hs, .inr rfl, ?_⟩
    have hshape : front ++ (quote name ++ '.' :: u) = (front ++ s) ++ '\n' :: '.' :: u := by
      rw [heq]
      simp only [List.append_assoc, List.cons_append, List.nil_append]
    rw [hshape] at hsolid ⊢
    rw [normalize_blank (by decide) hsolid hname (hdot nofun), List.append_assoc]
    rfl

end Identifier

/-! ## Options -/

/-- A text that does not end with the words of an option is split as it is, or with an option that is
put after it and not split off. -/
theorem body_of_splitGrant {body : Text} {o : GrantOption} {option : Option GrantOption}
    {grantable : Bool} (hsolid : Solid t) (hkeeps : Keeps .plain .plain t)
    (hwords : ∀ o : GrantOption, ¬ o.words <:+ (splitBy ' ' t).map (List.map fold))
    (h : splitGrant (if grantable then t ++ ' ' :: o.suffix else t) = .ok (body, option)) :
    body = t ∨ '\n' ∈ t ∧ body = t ++ ' ' :: o.suffix := by
  rw [splitGrant_eq_ok_iff] at h
  cases grantable with
  | false =>
      have hlast : t.getLast? ≠ some '\n' := by
        obtain ⟨c, hc, hblank⟩ := hsolid.last
        rw [hc]
        rintro ⟨rfl⟩
        exact absurd hblank (by decide)
      rw [if_neg (by decide), normalize_eq_self hsolid hkeeps,
        GrantOption.split_of_words hlast hwords] at h
      cases h
      exact .inl rfl
  | true =>
      have hlayout : normalize (t ++ ' ' :: o.suffix) = t ++ ' ' :: o.suffix :=
        normalize_eq_self (hsolid.append (GrantOption.solid_suffix o) [' '])
          (hkeeps.append (GrantOption.keeps_suffix o))
      rw [if_pos rfl, hlayout] at h
      by_cases hline : '\n' ∈ t
      · rw [GrantOption.split_append_suffix_of_mem o hline] at h
        cases h
        exact .inr ⟨hline, rfl⟩
      · rw [GrantOption.split_append_suffix o hline] at h
        cases h
        exact .inl rfl

/-- A body with a name before its dot begins with the name as it is shown. -/
theorem exists_shown_of_splitGrant (hletter : Identifier.IsAlphabet letter) {start : Place}
    {front body : Text} {option : Option GrantOption} (hstart : start ≠ .quoted)
    (hfront : Keeps .plain start front) (hu : Keeps .plain .plain u)
    (hsolid : Solid (front ++ (Identifier.quote name ++ '.' :: u)))
    (h : splitGrant (front ++ (Identifier.quote name ++ '.' :: u)) = .ok (body, option)) :
    ∃ s r, Identifier.IsShown letter s ∧ body = front ++ (s ++ r) ∧ atEnd r = false ∧
      ∀ c ∈ r.head?, c = ' ' ∨ c = '.' := by
  obtain ⟨s, x, hs, hx, hlayout⟩ :=
    Identifier.exists_normalize_quote hletter hstart hfront hu hsolid
  obtain ⟨z, heq, hz⟩ := GrantOption.exists_append_of_split (splitGrant_eq_ok_iff.mp h)
  have hdot : '.' ∉ z := fun hmem => absurd (hz _ hmem) (by decide)
  have hbody : body ++ z = (front ++ (s ++ x)) ++ '.' :: u := by
    rw [← heq, hlayout]
    simp only [List.append_assoc]
  obtain ⟨b, rfl⟩ := exists_of_append_eq hbody hdot
  refine ⟨s, x ++ '.' :: b, hs, by simp only [List.append_assoc], ?_, ?_⟩
  · rcases hx with rfl | rfl <;> simp [atEnd]
  · rcases hx with rfl | rfl <;> simp

/-! ## Rows of privileges -/

/-- The target of a privilege as it is shown: nothing, one name, or for an object two, of which only the
second one is at the end. -/
def PrivilegeKind.IsShownTarget : PrivilegeKind → Text → Prop
  | .system, t => t = []
  | .object, t => ∃ name s, Identifier.IsShown isLetter s ∧ t = Identifier.quote name ++ '.' :: s
  | _, t => Identifier.IsShown isLetter t

/-- A privilege as it is shown. Its name is a verb, and the one of structured privileges for those. -/
structure Privilege.IsShown (p : Privilege) : Prop where
  name : Verb.IsStored p.name
  structured : p.kind = .structured → p.name = "STRUCTURED PRIVILEGE".toList
  target : p.kind.IsShownTarget p.target

namespace Form

/-- A body whose target comes after a word of its own is guarded. -/
theorem guarded_of_word {word : Text} (hname : Verb.isVerb name = true) (hne : word ≠ [])
    (hword : word.all Char.isUpper = true) (u : Text) :
    Guarded (name ++ (" ON ".toList ++ (word ++ ' ' :: u))) := by
  intro v rest i r hsplit hread
  rw [splitOn_append_on hname] at hsplit
  cases hsplit
  have hupper : ∀ c ∈ word, c.isUpper = true := List.all_eq_true.mp hword
  rw [read_word_append hne hword (map_fold_of_upper hupper)] at hread
  cases hread
  have hplain : Identifier.IsPlainOver isLetter word := by
    obtain ⟨c, q, rfl⟩ := List.exists_cons_of_ne_nil hne
    have hletter : ∀ d ∈ c :: q, isLetter d = true := fun d hd =>
      isLetter_of_isAlpha (isAlpha_of_isUpper (hupper d hd))
    exact ⟨.inl (hletter c List.mem_cons_self), fun d hd => by
      simp [Identifier.isNameChar, hletter d (List.mem_cons_of_mem _ hd)]⟩
  have hcanonical := hplain.canonical_eq isLetter_letter
  refine ⟨by simp [atEnd], ?_⟩
  rw [hcanonical]
  exact ⟨.plain hplain, hcanonical⟩

end Form

namespace Privilege

variable {p q : Privilege} {row : Row} {body defaultSchema : Text} {option : Option GrantOption}

/-- The target of a row is shown. -/
theorem isShownTarget_of_target {kind : PrivilegeKind} {schema object : Value}
    (h : Row.target kind schema object = .ok t) : kind.IsShownTarget (stripWhiteSpace t) := by
  have hone : ∀ {v : Value}, (Row.name v >>= fun n => pure (Identifier.quote n)) = .ok t →
      Identifier.IsShown isLetter (stripWhiteSpace t) := by
    intro v hv
    obtain ⟨n, -, hn⟩ := bind_eq_ok_iff.mp hv
    cases hn
    exact Identifier.isShown_stripWhiteSpace Form.isLetter_letter n
  cases kind with
  | system =>
      cases h
      rfl
  | object =>
      obtain ⟨n, -, hn⟩ := bind_eq_ok_iff.mp h
      obtain ⟨m, -, hm⟩ := bind_eq_ok_iff.mp hn
      cases hm
      exact ⟨n, _, Identifier.isShown_stripWhiteSpace Form.isLetter_letter m,
        Identifier.stripWhiteSpace_quote_append Form.isLetter_letter n m⟩
  | schema => exact hone h
  | source => exact hone h
  | usergroup => exact hone h
  | columnKey => exact hone h
  | structured => exact hone h

/-- The privilege of a row is shown, if what the row has for its name is a canonical verb. -/
theorem isShown_of_ofRow (hverb : ∀ t : Text, row[1]? = some (.text t) → Verb.IsCanonical t)
    (h : ofRow row = .ok p) : p.IsShown := by
  unfold ofRow at h
  split at h
  · next type privilege schema object grantable =>
    obtain ⟨kind, -, h⟩ := bind_eq_ok_iff.mp h
    obtain ⟨t, ht, h⟩ := bind_eq_ok_iff.mp h
    obtain ⟨name, hname, rfl⟩ := exists_trimmed_of_check (mapError_eq_ok_iff.mp h)
    have hcanonical : Verb.IsCanonical name := by
      have hfixed : Verb.IsCanonical "USERGROUP OPERATOR".toList ∧
          Verb.IsCanonical "STRUCTURED PRIVILEGE".toList := by decide
      cases kind with
      | usergroup =>
          cases hname
          exact hfixed.1
      | structured =>
          cases hname
          exact hfixed.2
      | _ => exact hverb name (congrArg some hname)
    have hstrip : stripWhiteSpace name = name := (Verb.solid hcanonical.isVerb).stripWhiteSpace_eq
    rw [trimmed, hstrip, hstrip]
    refine ⟨hcanonical.isStored, fun hkind => ?_, isShownTarget_of_target ht⟩
    obtain rfl : kind = .structured := hkind
    cases hname
    rfl
  · cases h

namespace IsShown

/-- A shown privilege of no system has its target at the end of its body, and no option there. -/
theorem body_of_splitGrant (h : p.IsShown) (hkind : p.kind ≠ .system)
    (htarget : Identifier.IsShown isLetter p.target)
    (hsplit : splitGrant p.display = .ok (body, option)) :
    body = p.kind.clause p.name p.target ∨
      '\n' ∈ p.target ∧
        body = p.kind.clause p.name p.target ++ ' ' :: p.kind.grantOption.suffix := by
  have hclause : p.kind.clause p.name p.target = p.name ++ p.kind.preposition ++ p.target :=
    PrivilegeKind.clause_eq hkind
  have hkeeps : Keeps .plain .plain (p.kind.clause p.name p.target) := by
    rw [hclause]
    exact ((Verb.keeps h.name.verb).append (PrivilegeKind.keeps_preposition hkind)).append
      (htarget.keeps Form.isLetter_letter nofun)
  have hsolid : Solid (p.kind.clause p.name p.target) := by
    rw [hclause, List.append_assoc]
    exact (Verb.solid h.name.verb).append (htarget.solid Form.isLetter_letter) _
  have hwords : ∀ o : GrantOption,
      ¬ o.words <:+ (splitBy ' ' (p.kind.clause p.name p.target)).map (List.map fold) := by
    intro o
    obtain ⟨front, k, hk, hword, hshape⟩ :=
      PrivilegeKind.exists_word_before hkind h.structured
    rw [hshape]
    rcases htarget.plain_or_quoted Form.isLetter_letter with ⟨hblank, -⟩ | ⟨name, heq⟩
    · exact GrantOption.not_words_of_word hk hblank hword o
    · have hlast := GrantOption.not_words_of_enquote (front ++ ' ' :: (k ++ [' '])) name o
      rw [List.append_assoc, List.cons_append, List.append_assoc] at hlast
      rw [heq]
      exact hlast
  rw [display_eq] at hsplit
  refine (AccessGrants.body_of_splitGrant hsolid hkeeps hwords hsplit).imp_right ?_
  rintro ⟨hline, hbody⟩
  refine ⟨?_, hbody⟩
  by_contra htarget
  exact PrivilegeKind.line_clause h.name.verb htarget hline

/-- The body of an object that is shown has the dot after its schema. -/
theorem guarded_object (h : p.IsShown) (hkind : p.kind = .object)
    (hsplit : splitGrant p.display = .ok (body, option)) : Form.Guarded body := by
  have htarget := h.target
  have hname := h.name.verb
  rcases p with ⟨kind, verb, target, grantable⟩
  obtain rfl : kind = .object := hkind
  obtain ⟨name, s, hs, rfl⟩ := htarget
  obtain ⟨suffix, hdisplay, -, hsuffix, hsolid⟩ := exists_display_object (Identifier.quote name)
    grantable h.name (hs.solid Form.isLetter_letter)
  have hfront : Keeps .plain .blank (verb ++ " ON ".toList) :=
    (Verb.keeps hname).append fun _ => rfl
  rw [hdisplay] at hsplit
  obtain ⟨t, u, ht, rfl, hend, hhead⟩ := exists_shown_of_splitGrant Form.isLetter_letter
    (by decide) hfront ((hs.keeps Form.isLetter_letter (by decide)).append hsuffix) hsolid hsplit
  intro v rest i r hverb hread
  rw [List.append_assoc, Form.splitOn_append_on hname] at hverb
  cases hverb
  obtain ⟨rfl, hstored⟩ := ht.of_read Form.isLetter_letter hhead hread
  exact ⟨hend, hstored⟩

/-- The body of a system privilege has no word `ON`, with an option or without one. -/
theorem guarded_system (h : p.IsShown) (hkind : p.kind = .system)
    (hsplit : splitGrant p.display = .ok (body, option)) : Form.Guarded body := by
  have hverb : Verb.isVerb p.display = true := by
    rw [display_eq, hkind, PrivilegeKind.clause_system]
    split
    · have hoption : ∀ w ∈ GrantOption.words .admin, Verb.isWord w = true := by decide
      refine Verb.isVerb_iff.mpr fun w hw => ?_
      change w ∈ splitBy ' ' (p.name ++ ' ' :: GrantOption.admin.suffix) at hw
      rw [splitBy_append, GrantOption.splitBy_suffix] at hw
      exact (List.mem_append.mp hw).elim (Verb.isVerb_iff.mp h.name.verb w) (hoption w)
    · exact h.name.verb
  obtain ⟨z, heq, -⟩ := GrantOption.exists_append_of_split (splitGrant_eq_ok_iff.mp hsplit)
  rw [normalize_eq_self (Verb.solid hverb) (Verb.keeps hverb)] at heq
  intro v rest i r hon
  -- what is cut off does not matter to the word
  obtain ⟨hfirst, o, ho, rfl⟩ := Verb.splitOn_eq_some_iff.mp hon
  have hwhole : Verb.splitOn p.display = some (v, rest ++ z) :=
    Verb.splitOn_eq_some_iff.mpr ⟨hfirst, o, ho, by rw [heq]; simp⟩
  rw [Form.splitOn_of_isVerb hverb] at hwhole
  cases hwhole

/-- The body of a structured privilege has no word `ON` after a verb. -/
theorem guarded_structured (h : p.IsShown) (hkind : p.kind = .structured)
    (hsplit : splitGrant p.display = .ok (body, option)) : Form.Guarded body := by
  have htarget := h.target
  rw [hkind] at htarget
  have hname := h.structured hkind
  have hbody := h.body_of_splitGrant (by rw [hkind]; decide) htarget hsplit
  obtain ⟨r, rfl, hr⟩ : ∃ r, body = "STRUCTURED PRIVILEGE".toList ++ ' ' :: r ∧
      (' ' ∉ r ∨ r.head? = some '"') := by
    rw [hkind, hname] at hbody
    rcases htarget.plain_or_quoted Form.isLetter_letter with ⟨hblank, hline⟩ | ⟨name, heq⟩
    · rcases hbody with rfl | ⟨hmem, -⟩
      · exact ⟨p.target, rfl, .inl hblank⟩
      · exact absurd hmem hline
    · rcases hbody with rfl | ⟨-, rfl⟩
      · exact ⟨p.target, rfl, .inr (by rw [heq]; rfl)⟩
      · exact ⟨p.target ++ ' ' :: GrantOption.grant.suffix, rfl, .inr (by rw [heq]; rfl)⟩
  intro v rest i r hon
  rw [Form.splitOn_structured_eq_none (by decide) hr] at hon
  cases hon

/-- The body of a privilege of any kind is guarded. -/
theorem guarded (h : p.IsShown) (hsplit : splitGrant p.display = .ok (body, option)) :
    Form.Guarded body := by
  -- the other kinds have a word of their own after `ON`
  have hword : ∀ (word more : Text), p.kind ≠ .system → Identifier.IsShown isLetter p.target →
      p.kind.preposition = " ON ".toList ++ (word ++ ' ' :: more) → word ≠ [] →
      word.all Char.isUpper = true → Form.Guarded body := by
    intro word more hkind htarget hpreposition hne hupper
    have hclause : p.kind.clause p.name p.target =
        p.name ++ (" ON ".toList ++ (word ++ ' ' :: (more ++ p.target))) := by
      rw [PrivilegeKind.clause_eq hkind, hpreposition]
      simp only [List.append_assoc, List.cons_append]
    have hbody := h.body_of_splitGrant hkind htarget hsplit
    rw [hclause] at hbody
    rcases hbody with rfl | ⟨-, rfl⟩
    · exact Form.guarded_of_word h.name.verb hne hupper _
    · simp only [List.append_assoc, List.cons_append]
      exact Form.guarded_of_word h.name.verb hne hupper _
  have htarget := h.target
  cases hkind : p.kind with
  | system => exact h.guarded_system hkind hsplit
  | object => exact h.guarded_object hkind hsplit
  | structured => exact h.guarded_structured hkind hsplit
  | source =>
      rw [hkind] at htarget hword
      exact hword "REMOTE".toList "SOURCE ".toList (by decide) htarget rfl (by decide) (by decide)
  | schema =>
      rw [hkind] at htarget hword
      exact hword "SCHEMA".toList [] (by decide) htarget rfl (by decide) (by decide)
  | usergroup =>
      rw [hkind] at htarget hword
      exact hword "USERGROUP".toList [] (by decide) htarget rfl (by decide) (by decide)
  | columnKey =>
      rw [hkind] at htarget hword
      exact hword "CLIENTSIDE".toList "ENCRYPTION COLUMN KEY ".toList (by decide) htarget rfl
        (by decide) (by decide)

end IsShown

/-- What is read of the grant string of a row is well-formed. -/
theorem wellFormed_of_parse_display
    (hverb : ∀ t : Text, row[1]? = some (.text t) → Verb.IsCanonical t)
    (hrow : ofRow row = .ok p) (h : parse p.display defaultSchema = .ok q) : q.WellFormed :=
  wellFormed_of_guarded (fun _ _ hsplit => (isShown_of_ofRow hverb hrow).guarded hsplit) h

end Privilege

/-! ## Rows of roles -/

namespace Role

variable {r q : Role} {row : Row}

/-- The name of the role of a row is shown, or it is one that is shown after its schema. -/
theorem shown_of_ofRow (h : ofRow row = .ok r) :
    Identifier.IsShown Identifier.isAsciiLetter r.name ∨
      ∃ name s, Identifier.IsShown Identifier.isAsciiLetter s ∧
        r.name = Identifier.quote name ++ '.' :: s := by
  unfold ofRow at h
  split at h
  · next schema name grantable =>
    split at h
    · next name =>
      have hname := Identifier.isShown_stripWhiteSpace Identifier.isAlphabet_ascii name
      obtain ⟨schema, -, h⟩ := bind_eq_ok_iff.mp h
      split at h
      · cases h
        exact .inl hname
      · cases h
        exact .inr ⟨_, _, hname,
          Identifier.stripWhiteSpace_quote_append Identifier.isAlphabet_ascii _ name⟩
    · cases h
  · cases h

/-- The identifier at the head of the body of a shown role is stored. -/
theorem stored_of_read {body : Text} {option : Option GrantOption} (hrow : ofRow row = .ok r)
    (hsplit : splitGrant r.render = .ok (body, option))
    (hread : Identifier.read Identifier.isAsciiLetter body = some (i, rest)) :
    Identifier.IsStored Identifier.isAsciiLetter (Identifier.canonical i) := by
  rcases shown_of_ofRow hrow with hname | ⟨name, s, hs, hname⟩
  · have hwords : ∀ o : GrantOption, ¬ o.words <:+ (splitBy ' ' r.name).map (List.map fold) := by
      intro o
      rcases hname with heq | hstored
      · rw [heq]
        exact GrantOption.not_words_of_enquote [] [] o
      · exact no_option_name (.inl hstored.written) o
    have hhead : ∃ rest', body = r.name ++ rest' ∧ ∀ c ∈ rest'.head?, c = ' ' ∨ c = '.' := by
      rcases body_of_splitGrant (hname.solid Identifier.isAlphabet_ascii)
        (hname.keeps Identifier.isAlphabet_ascii nofun) hwords hsplit with rfl | ⟨-, rfl⟩
      · exact ⟨[], (List.append_nil _).symm, nofun⟩
      · exact ⟨_, rfl, by simp⟩
    obtain ⟨rest', rfl, hhead⟩ := hhead
    exact (hname.of_read Identifier.isAlphabet_ascii hhead hread).2
  · obtain ⟨suffix, happend, -, hsuffix, hlast⟩ := GrantOption.exists_suffix .admin r.grantable
    have hrender : r.render = [] ++ (Identifier.quote name ++ '.' :: (s ++ suffix)) := by
      rw [render, hname]
      refine (happend _).trans ?_
      simp only [List.append_assoc, List.cons_append, List.nil_append]
    have hsolid : Solid ([] ++ (Identifier.quote name ++ '.' :: (s ++ suffix))) := by
      obtain ⟨c, hc, hfirst⟩ := Identifier.first_quote Identifier.isAlphabet_ascii name
      obtain ⟨d, hd, hend⟩ := (hlast s (hs.solid Identifier.isAlphabet_ascii)).last
      refine ⟨⟨c, ?_, hfirst⟩, ⟨d, ?_, hend⟩⟩
      · rw [List.nil_append, List.head?_append, hc]
        rfl
      · rw [List.nil_append, List.getLast?_append, List.getLast?_cons, hd]
        rfl
    rw [hrender] at hsplit
    obtain ⟨t, u, ht, rfl, -, hhead⟩ := exists_shown_of_splitGrant Identifier.isAlphabet_ascii
      (by decide) (Keeps.nil _)
      ((hs.keeps Identifier.isAlphabet_ascii (by decide)).append hsuffix) hsolid hsplit
    exact (ht.of_read Identifier.isAlphabet_ascii hhead hread).2

/-- What is read of the grant string of a row is a path. -/
theorem path_of_parse_shown (hrow : ofRow row = .ok r) (h : parse r.render = .ok q) :
    Identifier.IsStoredPath Identifier.isAsciiLetter q.name :=
  path_of_guarded (fun _ _ hsplit _ _ hread => stored_of_read hrow hsplit hread) h

end Role

end AccessGrants
