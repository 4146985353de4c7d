import AccessGrants.Proofs.Ascii
import AccessGrants.Proofs.FormOverlap
import AccessGrants.Proofs.StoredGrants

/-!
# The grammar of grants

A grant string is read exactly if it belongs to the grammar of grants. The grammar is that of ASCII: a
grant string has no other characters outside its quoted spans, and no line feed inside of them.

* `Form.Derives`: the bodies of each form, the names and the targets that they denote.
* `PrivilegeKind.Derives`: a structured privilege is no system privilege.
* `GrantOption.SplitsOff`: the option at the end of a text.
* `Form.read_eq_some_iff`, `Form.exists_firstRead_iff_derives`,
  `GrantOption.split_eq_ok_iff`: the readers read exactly that.
* `Privilege.parse_iff_derives`: a grant string is read exactly if it belongs to the grammar, and what
  is said of one that does not.
-/

namespace AccessGrants

open Text Layout

/-! ## Bodies -/

namespace Form

/-- The bodies of a form, with the name and the target that each denotes. Keywords are in any letter
case, and an object without a schema is placed in the default schema. -/
inductive Derives (defaultSchema : Text) : Form → Text → Text → Text → Prop
  | usergroup {k i target : Text} (hk : Spells "USERGROUP OPERATOR ON USERGROUP ".toList k)
    (hi : Identifier.Denotes i target) :
    Derives defaultSchema .usergroup (k ++ i) "USERGROUP OPERATOR".toList target
  | columnKey {k i target : Text}
    (hk : Spells "USAGE ON CLIENTSIDE ENCRYPTION COLUMN KEY ".toList k)
    (hi : Identifier.Denotes i target) :
    Derives defaultSchema .columnKey (k ++ i) "USAGE".toList target
  | source {v k i target : Text} (hv : Verb.IsWritten v) (hk : Spells " ON REMOTE SOURCE ".toList k)
    (hi : Identifier.Denotes i target) :
    Derives defaultSchema .source (v ++ (k ++ i)) (v.map Char.toUpper) target
  | schema {v k i target : Text} (hv : Verb.IsWritten v) (hk : Spells " ON SCHEMA ".toList k)
    (hi : Identifier.Denotes i target) :
    Derives defaultSchema .schema (v ++ (k ++ i)) (v.map Char.toUpper) target
  | qualifiedObject {v k i j schema object : Text} (hv : Verb.IsWritten v)
    (hk : Spells " ON ".toList k) (hi : Identifier.Denotes i schema)
    (hj : Identifier.Denotes j object) :
    Derives defaultSchema .qualifiedObject (v ++ (k ++ (i ++ '.' :: j))) (v.map Char.toUpper)
      (schema ++ '.' :: object)
  | object {v k i object : Text} (hv : Verb.IsWritten v) (hk : Spells " ON ".toList k)
    (hi : Identifier.Denotes i object) :
    Derives defaultSchema .object (v ++ (k ++ i)) (v.map Char.toUpper)
      (if defaultSchema = [] then object else defaultSchema ++ '.' :: object)
  | structured {k i target : Text} (hk : Spells "STRUCTURED PRIVILEGE ".toList k)
    (hi : Identifier.Denotes i target) :
    Derives defaultSchema .structured (k ++ i) "STRUCTURED PRIVILEGE".toList target
  | system {v : Text} (hv : Verb.IsWritten v) :
    Derives defaultSchema .system v (v.map Char.toUpper) []

variable {form : Form} {defaultSchema body name target phrase : Text}

/-- The forms with a verb, if what they read after the word `ON` is known. -/
theorem read_verb_iff {read : Text → Option Text} {Reads : Text → Prop} (hline : '\n' ∉ body)
    (hascii : AsciiOutside body)
    (hread : ∀ rest, '\n' ∉ rest → AsciiOutside rest → (read rest = some target ↔ Reads rest)) :
    readVerb read body = some (name, target) ↔ ∃ v k rest, body = v ++ (k ++ rest) ∧
      Verb.IsWritten v ∧ Spells " ON ".toList k ∧ name = v.map Char.toUpper ∧ Reads rest := by
  rw [readVerb_eq_some_iff hascii]
  refine exists_congr fun v => exists_congr fun k => exists_congr fun rest =>
    and_congr_right fun hbody => and_congr_right fun hv => and_congr_right fun hk =>
      and_congr_right fun _ => ?_
  rw [hbody] at hline hascii
  have hverb : '"' ∉ v := fun hmem => (hv.ascii hmem).2 rfl
  have hquote : '"' ∉ k := fun hmem => absurd (hk.mem (by decide) hmem) (by decide)
  exact hread rest (fun hmem => hline (List.mem_append_right _ (List.mem_append_right _ hmem)))
    ((asciiOutside_append hquote).mp ((asciiOutside_append hverb).mp hascii).2).2

/-- The forms that begin with a phrase. -/
theorem read_phrase_iff {fixed : Text} (hphrase : IsAscii phrase ∧ '"' ∉ phrase)
    (hline : '\n' ∉ body) (hascii : AsciiOutside body) :
    (readTarget phrase body).map (fun target => (fixed, target)) = some (name, target) ↔
      name = fixed ∧ ∃ k i, body = k ++ i ∧ Spells phrase k ∧ Identifier.Denotes i target := by
  rw [← readTarget_eq_some_iff hphrase hline hascii, Option.map_eq_some_iff]
  constructor
  · rintro ⟨t, ht, hparts⟩
    cases hparts
    exact ⟨rfl, ht⟩
  · rintro ⟨rfl, ht⟩
    exact ⟨target, ht, rfl⟩

/-- The forms with a verb and a phrase after it. -/
theorem read_verb_phrase_iff (hphrase : IsAscii phrase ∧ '"' ∉ phrase) (hline : '\n' ∉ body)
    (hascii : AsciiOutside body) : readVerb (readTarget phrase) body = some (name, target) ↔
      ∃ v k i, body = v ++ (k ++ i) ∧ Verb.IsWritten v ∧ Spells (" ON ".toList ++ phrase) k ∧
        name = v.map Char.toUpper ∧ Identifier.Denotes i target := by
  rw [read_verb_iff hline hascii fun rest => readTarget_eq_some_iff hphrase]
  constructor
  · rintro ⟨v, k, _, rfl, hv, hk, hname, k', i, rfl, hk', hi⟩
    refine ⟨v, k ++ k', i, by simp, hv, ?_, hname, hi⟩
    rw [Spells, List.map_append, hk, hk']
  · rintro ⟨v, k, i, rfl, hv, hk, hname, hi⟩
    obtain ⟨k, k', rfl, hk, hk'⟩ := List.map_eq_append_iff.mp hk
    exact ⟨v, k, k' ++ i, by simp, hv, hk, hname, k', i, rfl, hk', hi⟩

/-- A form reads exactly its bodies. -/
theorem read_eq_some_iff (hline : '\n' ∉ body) (hascii : AsciiOutside body) :
    form.read defaultSchema body = some (name, target) ↔
      form.Derives defaultSchema body name target := by
  cases form with
  | usergroup =>
      rw [read, read_phrase_iff (by decide) hline hascii]
      constructor
      · rintro ⟨rfl, k, i, rfl, hk, hi⟩
        exact .usergroup hk hi
      · intro h
        cases h with
        | usergroup hk hi => exact ⟨rfl, _, _, rfl, hk, hi⟩
  | columnKey =>
      rw [read, read_phrase_iff (by decide) hline hascii]
      constructor
      · rintro ⟨rfl, k, i, rfl, hk, hi⟩
        exact .columnKey hk hi
      · intro h
        cases h with
        | columnKey hk hi => exact ⟨rfl, _, _, rfl, hk, hi⟩
  | source =>
      rw [read, read_verb_phrase_iff (by decide) hline hascii]
      constructor
      · rintro ⟨v, k, i, rfl, hv, hk, rfl, hi⟩
        exact .source hv hk hi
      · intro h
        cases h with
        | source hv hk hi => exact ⟨_, _, _, rfl, hv, hk, rfl, hi⟩
  | schema =>
      rw [read, read_verb_phrase_iff (by decide) hline hascii]
      constructor
      · rintro ⟨v, k, i, rfl, hv, hk, rfl, hi⟩
        exact .schema hv hk hi
      · intro h
        cases h with
        | schema hv hk hi => exact ⟨_, _, _, rfl, hv, hk, rfl, hi⟩
  | qualifiedObject =>
      rw [read, read_verb_iff hline hascii fun rest => readQualified_eq_some_iff]
      constructor
      · rintro ⟨v, k, _, rfl, hv, hk, rfl, i, j, schema, object, rfl, hi, hj, rfl⟩
        exact .qualifiedObject hv hk hi hj
      · intro h
        cases h with
        | qualifiedObject hv hk hi hj =>
          exact ⟨_, _, _, rfl, hv, hk, rfl, _, _, _, _, rfl, hi, hj, rfl⟩
  | object =>
      have hobject : ∀ rest, '\n' ∉ rest → AsciiOutside rest →
          ((readIdentifier rest).map (fun i => inSchema defaultSchema (Identifier.canonical i)) =
            some target ↔
              ∃ object, Identifier.Denotes rest object ∧ inSchema defaultSchema object = target) := by
        intro rest hrest hrestAscii
        simp only [← readIdentifier_eq_some_iff hrest hrestAscii, ← Option.map_eq_some_iff,
          Option.map_map]
        rfl
      rw [read, read_verb_iff hline hascii hobject]
      constructor
      · rintro ⟨v, k, rest, rfl, hv, hk, rfl, object, hi, rfl⟩
        exact .object hv hk hi
      · intro h
        cases h with
        | object hv hk hi => exact ⟨_, _, _, rfl, hv, hk, rfl, _, hi, rfl⟩
  | structured =>
      rw [read, read_phrase_iff (by decide) hline hascii]
      constructor
      · rintro ⟨rfl, k, i, rfl, hk, hi⟩
        exact .structured hk hi
      · intro h
        cases h with
        | structured hk hi => exact ⟨rfl, _, _, rfl, hk, hi⟩
  | system =>
      rw [read, dropFinalNewline_of_not_mem hline]
      constructor
      · intro h
        split at h
        · next hverb =>
          have hquote : '"' ∉ body := fun hmem =>
            absurd (Verb.isLetter_or_blank hverb hmem) (by decide)
          have hbody := (asciiOutside_iff_isAscii hquote).mp hascii
          cases h
          rw [upper_of_ascii hbody]
          exact .system ((Verb.isVerb_iff_isWritten hbody).mp hverb)
        · cases h
      · intro h
        cases h with
        | system hv => rw [if_pos hv.isVerb, upper_of_ascii fun _ hc => (hv.ascii hc).1]

end Form

/-- The bodies of a kind. A body that is a structured privilege and a verb is a structured privilege. -/
def PrivilegeKind.Derives (defaultSchema : Text) (kind : PrivilegeKind)
    (body name target : Text) : Prop :=
  ∃ form : Form, form.kind = kind ∧ form.Derives defaultSchema body name target ∧
    (form = .system → ∀ name target, ¬ Form.structured.Derives defaultSchema body name target)

/-- The first form that reads a body is one of its kind. -/
theorem Form.exists_firstRead_iff_derives {kind : PrivilegeKind}
    {defaultSchema body name target : Text} (hline : '\n' ∉ body) (hascii : AsciiOutside body) :
    (∃ form : Form, form.kind = kind ∧
      firstRead all defaultSchema body = some (form, name, target)) ↔
        kind.Derives defaultSchema body name target := by
  have hnone : Form.structured.read defaultSchema body = none ↔
      ∀ name target, ¬ Form.structured.Derives defaultSchema body name target := by
    rw [Option.eq_none_iff_forall_ne_some, Prod.forall]
    exact forall₂_congr fun name target => not_congr (read_eq_some_iff hline hascii)
  simp only [firstRead_eq_some_iff, read_eq_some_iff hline hascii, hnone]
  rfl

/-- The empty body denotes nothing. -/
theorem PrivilegeKind.Derives.ne_nil {kind : PrivilegeKind} {defaultSchema body name target : Text}
    (h : kind.Derives defaultSchema body name target) : body ≠ [] := by
  rintro rfl
  obtain ⟨form, -, hread⟩ := (Form.exists_firstRead_iff_derives List.not_mem_nil nofun).mpr h
  cases hread

/-- A body denotes one privilege at most. -/
theorem PrivilegeKind.Derives.unique {kind kind' : PrivilegeKind}
    {defaultSchema body name name' target target' : Text} (hline : '\n' ∉ body)
    (hascii : AsciiOutside body) (h : kind.Derives defaultSchema body name target)
    (h' : kind'.Derives defaultSchema body name' target') :
    kind = kind' ∧ name = name' ∧ target = target' := by
  obtain ⟨form, rfl, hread⟩ := (Form.exists_firstRead_iff_derives hline hascii).mpr h
  obtain ⟨form', rfl, hread'⟩ := (Form.exists_firstRead_iff_derives hline hascii).mpr h'
  rw [hread, Option.some.injEq, Prod.mk.injEq, Prod.mk.injEq] at hread'
  exact ⟨congrArg Form.kind hread'.1, hread'.2⟩

/-! ## Options -/

namespace GrantOption

/-- The option at the end of a text, in any letter case: after a space or as the whole text, or none. -/
inductive SplitsOff : Text → Text → Option GrantOption → Prop
  | after {body s : Text} {o : GrantOption} (hs : Spells o.suffix s) :
    SplitsOff (body ++ ' ' :: s) body (some o)
  | alone {s : Text} {o : GrantOption} (hs : Spells o.suffix s) : SplitsOff s [] (some o)
  | none {t : Text} (halone : ∀ o : GrantOption, ¬ Spells o.suffix t)
    (hafter : ∀ (body s : Text) (o : GrantOption), Spells o.suffix s → t ≠ body ++ ' ' :: s) :
    SplitsOff t t none

variable {t s body : Text} {o : GrantOption} {option : Option GrantOption}

/-- An option is written in ASCII and without quotes. -/
theorem isAscii_suffix (o : GrantOption) : IsAscii o.suffix ∧ '"' ∉ o.suffix := by
  cases o <;> decide

/-- An option in any letter case is read as that option. -/
theorem exists_word_of_spells (h : Spells o.suffix s) :
    ∃ w, suffixWord? s = some w ∧ ofWord? (upper w) = some o := by
  have hword : IsAscii o.word := by
    cases o <;> decide
  obtain ⟨x, y, rfl, hx, hy⟩ := List.map_eq_append_iff.mp h
  obtain ⟨x, w, rfl, hx, hw⟩ := List.map_eq_append_iff.mp hx
  have hspells : Spells o.word w := hw
  have hwith : Spells "WITH ".toList x := hx
  have hoption : Spells " OPTION".toList y := hy
  refine ⟨w, suffixWord?_eq_some_iff.mpr ⟨o, x, y, by simp, hwith.map_fold (by decide),
    hspells.map_fold hword, hoption.map_fold (by decide)⟩, ?_⟩
  rw [upper_of_ascii (hspells.isAscii hword), hw, ofWord?_word]

/-- In ASCII what is read as an option is one in some letter case. -/
theorem exists_spells_of_word {w : Text} (hascii : IsAscii s) (h : suffixWord? s = some w) :
    ∃ o : GrantOption, Spells o.suffix s ∧ ofWord? (upper w) = some o := by
  obtain ⟨o, hfold⟩ := map_fold_of_suffixWord? h
  have hspells := spells_of_map_fold hascii hfold
  obtain ⟨v, hv, ho⟩ := exists_word_of_spells hspells
  rw [h, Option.some.injEq] at hv
  exact ⟨o, hspells, by rw [hv, ho]⟩

/-- An option has no quotes. -/
theorem not_quote_mem_of_word {w : Text} (h : suffixWord? s = some w) : '"' ∉ s := by
  obtain ⟨o, hfold⟩ := map_fold_of_suffixWord? h
  exact fun hmem => (isAscii_suffix o).2 (hfold ▸ List.mem_map_of_mem (f := fold) hmem)

/-- What is cut off a line in ASCII is an option in some letter case. -/
theorem exists_spells_of_cut {w : Text} (hline : '\n' ∉ t) (hascii : AsciiOutside t)
    (h : cut t = (body, some w)) : ∃ (s : Text) (o : GrantOption), Spells o.suffix s ∧
      ofWord? (upper w) = some o ∧ (t = body ++ ' ' :: s ∨ body = [] ∧ t = s) := by
  obtain ⟨s, hword, hshape⟩ := (cut_eq_some_iff hline).mp h
  have hquote := not_quote_mem_of_word hword
  have hs : IsAscii s := by
    rcases hshape with rfl | ⟨-, rfl⟩
    · have hall : '"' ∉ ' ' :: s := by simp [hquote]
      exact fun c hc => ((asciiOutside_append_right hall).mp hascii).2 c (List.mem_cons_of_mem _ hc)
    · exact (asciiOutside_iff_isAscii hquote).mp hascii
  obtain ⟨o, hspells, ho⟩ := exists_spells_of_word hs hword
  exact ⟨s, o, hspells, ho, hshape⟩

/-- The option is split off as it stands at the end of a line. -/
theorem split_eq_ok_iff (hline : '\n' ∉ t) (hascii : AsciiOutside t) :
    split t = .ok (body, option) ↔ SplitsOff t body option := by
  constructor
  · intro h
    unfold split at h
    split at h
    · next body' hcut =>
      cases h
      have hbody := eq_of_cut_none hcut
      rw [hbody] at hcut ⊢
      have hno : ∀ (body s : Text) (o : GrantOption), Spells o.suffix s →
          ¬ (t = body ++ ' ' :: s ∨ body = [] ∧ t = s) := by
        intro body s o hs hshape
        obtain ⟨w, hw, -⟩ := exists_word_of_spells hs
        rw [(cut_eq_some_iff hline).mpr ⟨s, hw, hshape⟩] at hcut
        cases hcut
      exact .none (fun o hs => hno [] t o hs (.inr ⟨rfl, rfl⟩))
        fun body s o hs heq => hno body s o hs (.inl heq)
    · next body' w hcut =>
      obtain ⟨s, o, hs, ho, hshape⟩ := exists_spells_of_cut hline hascii hcut
      rw [ho] at h
      cases h
      rcases hshape with rfl | ⟨rfl, rfl⟩
      · exact .after hs
      · exact .alone hs
  · -- an option that stands there is cut off
    have hsome : ∀ {body s : Text} {o : GrantOption}, Spells o.suffix s →
        (t = body ++ ' ' :: s ∨ body = [] ∧ t = s) → split t = .ok (body, some o) := by
      intro body s o hs hshape
      obtain ⟨w, hw, ho⟩ := exists_word_of_spells hs
      rw [split, (cut_eq_some_iff hline).mpr ⟨s, hw, hshape⟩]
      dsimp only
      rw [ho]
    intro h
    cases h with
    | after hs => exact hsome hs (.inl rfl)
    | alone hs => exact hsome hs (.inr ⟨rfl, rfl⟩)
    | none halone hafter =>
      unfold split
      split
      · next hcut => rw [eq_of_cut_none hcut]
      · next hcut =>
        obtain ⟨s, o, hs, -, heq | ⟨-, rfl⟩⟩ := exists_spells_of_cut hline hascii hcut
        · exact absurd heq (hafter _ s o hs)
        · exact absurd hs (halone o)

/-- Every line in ASCII is split. -/
theorem exists_splitsOff (hline : '\n' ∉ t) (hascii : AsciiOutside t) :
    ∃ body option, SplitsOff t body option := by
  rcases hcut : cut t with ⟨body, _ | w⟩
  · refine ⟨body, none, (split_eq_ok_iff hline hascii).mp ?_⟩
    rw [split, hcut]
  · obtain ⟨s, o, -, ho, -⟩ := exists_spells_of_cut hline hascii hcut
    refine ⟨body, some o, (split_eq_ok_iff hline hascii).mp ?_⟩
    rw [split, hcut]
    dsimp only
    rw [ho]

/-- The body before an option is in ASCII outside its spans, as the whole is. -/
theorem SplitsOff.of_whole (h : SplitsOff t body option) (hline : '\n' ∉ t)
    (hascii : AsciiOutside t) : '\n' ∉ body ∧ AsciiOutside body := by
  cases h with
  | @after _ s o hs =>
    have hquote : '"' ∉ ' ' :: s := by
      rw [List.mem_cons, not_or]
      exact ⟨by decide, fun hmem => (isAscii_suffix o).2 (hs.mem (by decide) hmem)⟩
    exact ⟨fun hmem => hline (List.mem_append_left _ hmem),
      ((asciiOutside_append_right hquote).mp hascii).1⟩
  | alone => exact ⟨List.not_mem_nil, nofun⟩
  | none => exact ⟨hline, hascii⟩

end GrantOption

/-! ## Grant strings -/

/-- What a body of one line denotes begins and ends with characters that are not blank. -/
theorem Form.Derives.solid {form : Form} {defaultSchema body name target : Text}
    (hschema : defaultSchema = [] ∨ Identifier.IsPlainName defaultSchema) (hline : '\n' ∉ body)
    (h : form.Derives defaultSchema body name target) :
    Solid name ∧ (target = [] ∨ Solid target) := by
  have hverb : ∀ {v : Text}, Verb.IsWritten v → Solid (v.map Char.toUpper) := by
    intro v hv
    rw [← upper_of_ascii fun _ hc => (hv.ascii hc).1]
    exact Verb.solid (Verb.isStored_upper hv.isVerb).verb
  have hcanonical : ∀ {i : Text}, Identifier.IsCanonical i → Solid i := fun hi =>
    (hi.isWritten isLetter_letter).solid isLetter_letter
  have hidentifier : ∀ {front i u : Text}, '\n' ∉ front ++ i → Identifier.Denotes i u → Solid u :=
    fun hfront hi => hcanonical (hi.isCanonical fun hmem => hfront (List.mem_append_right _ hmem))
  cases h with
  | usergroup hk hi => exact ⟨Verb.solid (by decide), .inr (hidentifier hline hi)⟩
  | columnKey hk hi => exact ⟨Verb.solid (by decide), .inr (hidentifier hline hi)⟩
  | structured hk hi => exact ⟨Verb.solid (by decide), .inr (hidentifier hline hi)⟩
  | source hv hk hi =>
      rw [← List.append_assoc] at hline
      exact ⟨hverb hv, .inr (hidentifier hline hi)⟩
  | schema hv hk hi =>
      rw [← List.append_assoc] at hline
      exact ⟨hverb hv, .inr (hidentifier hline hi)⟩
  | @qualifiedObject v k i j schema object hv hk hi hj =>
      rw [← List.append_assoc, ← List.append_assoc] at hline
      have hfirst : '\n' ∉ (v ++ k) ++ i := fun hmem => hline (List.mem_append_left _ hmem)
      have hsecond : '\n' ∉ (v ++ k ++ i ++ ['.']) ++ j := by
        rwa [List.append_assoc, List.singleton_append]
      exact ⟨hverb hv, .inr ((hidentifier hfirst hi).append (hidentifier hsecond hj) ['.'])⟩
  | object hv hk hi =>
      rw [← List.append_assoc] at hline
      have hobject := hidentifier hline hi
      refine ⟨hverb hv, .inr ?_⟩
      split
      · exact hobject
      · next hne =>
        exact (hcanonical (.plain (hschema.resolve_left hne))).append hobject ['.']
  | system hv => exact ⟨hverb hv, .inl rfl⟩

namespace Privilege

variable {raw defaultSchema body : Text} {option : Option GrantOption}

/-- What a body denotes is stored without change. -/
theorem trimmed_of_derives {kind : PrivilegeKind} {name target : Text}
    (hschema : defaultSchema = [] ∨ Identifier.IsPlainName defaultSchema) (hline : '\n' ∉ body)
    (h : kind.Derives defaultSchema body name target) (grantable : Bool) :
    trimmed kind name target grantable = ⟨kind, name, target, grantable⟩ := by
  obtain ⟨form, -, hform, -⟩ := h
  obtain ⟨hname, htarget⟩ := hform.solid hschema hline
  have hstrip : stripWhiteSpace target = target := by
    rcases htarget with rfl | htarget
    · rfl
    · exact htarget.stripWhiteSpace_eq
  rw [trimmed, hname.stripWhiteSpace_eq, hstrip]

/-- A body that belongs to the grammar is read as what it denotes, or its option is refused. -/
theorem ofBody_of_derives {kind : PrivilegeKind} {name target : Text}
    (hschema : defaultSchema = [] ∨ Identifier.IsPlainName defaultSchema) (hline : '\n' ∉ body)
    (hascii : AsciiOutside body) (h : kind.Derives defaultSchema body name target) :
    ofBody Form.all raw defaultSchema body option =
      if ∀ o ∈ option, o = kind.grantOption then .ok ⟨kind, name, target, option.isSome⟩
      else .error (.grammar (optionError raw (option.getD .admin))) := by
  obtain ⟨form, rfl, hread⟩ := (Form.exists_firstRead_iff_derives hline hascii).mpr h
  unfold ofBody
  rw [if_neg h.ne_nil, hread]
  dsimp only
  rw [trimmed_of_derives hschema hline h, trimmed_of_derives hschema hline h]
  cases option <;> simp

/-- A body that does not belong to the grammar is unknown. -/
theorem ofBody_of_not_derives (hline : '\n' ∉ body) (hascii : AsciiOutside body)
    (h : ∀ (kind : PrivilegeKind) (name target : Text),
      ¬ kind.Derives defaultSchema body name target) :
    ofBody Form.all raw defaultSchema body option =
      .error (.grammar (.unknownPrivilege raw (if body = [] then none else refusalReason body))) := by
  have hread : Form.firstRead Form.all defaultSchema body = none := by
    rw [Option.eq_none_iff_forall_ne_some]
    rintro ⟨form, name, target⟩ hread
    exact h form.kind name target
      ((Form.exists_firstRead_iff_derives hline hascii).mp ⟨form, rfl, hread⟩)
  unfold ofBody
  rw [hread]
  split <;> rfl

/-- A body of one line in ASCII is read exactly if it belongs to the grammar and has no option or that
of its kind. -/
theorem ofBody_iff_derives
    (hschema : defaultSchema = [] ∨ Identifier.IsPlainName defaultSchema) (hline : '\n' ∉ body)
    (hascii : AsciiOutside body) :
    (∀ p : Privilege, ofBody Form.all raw defaultSchema body option = .ok p ↔
      body ≠ [] ∧ p.kind.Derives defaultSchema body p.name p.target ∧
        (∀ o ∈ option, o = p.kind.grantOption) ∧ p.grantable = option.isSome) ∧
    (∀ e, ofBody Form.all raw defaultSchema body option = .error e ↔
      (∃ (kind : PrivilegeKind) (name target : Text), ∃ o ∈ option,
        kind.Derives defaultSchema body name target ∧ o ≠ kind.grantOption ∧
          e = .grammar (optionError raw o)) ∨
      ((∀ (kind : PrivilegeKind) (name target : Text),
          ¬ kind.Derives defaultSchema body name target) ∧
        e = .grammar (.unknownPrivilege raw (if body = [] then none else refusalReason body)))) := by
  by_cases hderives : ∃ (kind : PrivilegeKind) (name target : Text),
      kind.Derives defaultSchema body name target
  · obtain ⟨kind, name, target, hform⟩ := hderives
    rw [ofBody_of_derives hschema hline hascii hform]
    constructor
    · intro p
      constructor
      · intro h
        split at h
        · next hoption =>
          cases h
          exact ⟨hform.ne_nil, hform, hoption, rfl⟩
        · cases h
      · rintro ⟨-, h, hoption, hgrantable⟩
        obtain ⟨hkind, hname, htarget⟩ := h.unique hline hascii hform
        rw [hkind] at hoption
        rw [if_pos hoption, ← hkind, ← hname, ← htarget, ← hgrantable]
    · intro e
      constructor
      · intro h
        split at h
        · cases h
        · next hoption =>
          cases option with
          | none => exact absurd nofun hoption
          | some o =>
              cases h
              have hother : o ≠ kind.grantOption := by simpa using hoption
              exact .inl ⟨_, _, _, o, rfl, hform, hother, rfl⟩
      · rintro (⟨kind', name', target', o, ho, h, hother, rfl⟩ | ⟨hnone, -⟩)
        · obtain ⟨rfl, -, -⟩ := h.unique hline hascii hform
          obtain rfl : option = some o := ho
          rw [if_neg fun hall => hother (hall o rfl)]
          rfl
        · exact absurd hform (hnone _ _ _)
  · have hnone : ∀ (kind : PrivilegeKind) (name target : Text),
        ¬ kind.Derives defaultSchema body name target := fun kind name target h =>
      hderives ⟨kind, name, target, h⟩
    rw [ofBody_of_not_derives hline hascii hnone]
    refine ⟨fun p => ⟨nofun, fun h => absurd h.2.1 (hnone _ _ _)⟩, fun e => ?_⟩
    rw [Except.error.injEq]
    constructor
    · intro he
      exact .inr ⟨hnone, he.symm⟩
    · rintro (⟨kind, name, target, o, -, h, -⟩ | ⟨-, he⟩)
      · exact absurd h (hnone _ _ _)
      · exact he.symm

/-- The grammar of grants is exactly what is read. For a grant string with only characters of ASCII
outside its quoted spans and no line feed inside of them, in normal layout and with its option split
off: it is a privilege if the rest belongs to the grammar and the option is that of its kind, and then
it is the privilege that the rest denotes, grantable if there is an option. With the other option, and
if the rest does not belong to the grammar, it is refused as what it is. -/
theorem parse_iff_derives (hascii : AsciiOutside raw) (hline : ¬ InSpan '\n' raw)
    (hschema : defaultSchema = [] ∨ Identifier.IsPlainName defaultSchema) :
    (∃ body option, GrantOption.SplitsOff (normalize raw) body option) ∧
    ∀ body option, GrantOption.SplitsOff (normalize raw) body option →
      (∀ p : Privilege, parse raw defaultSchema = .ok p ↔
        body ≠ [] ∧ p.kind.Derives defaultSchema body p.name p.target ∧
          (∀ o ∈ option, o = p.kind.grantOption) ∧ p.grantable = option.isSome) ∧
      (∀ e, parse raw defaultSchema = .error e ↔
        (∃ (kind : PrivilegeKind) (name target : Text), ∃ o ∈ option,
          kind.Derives defaultSchema body name target ∧ o ≠ kind.grantOption ∧
            e = .grammar (optionError raw o)) ∨
        ((∀ (kind : PrivilegeKind) (name target : Text),
            ¬ kind.Derives defaultSchema body name target) ∧
          e = .grammar (.unknownPrivilege raw
            (if body = [] then none else refusalReason body)))) := by
  have hnormal : '\n' ∉ normalize raw := mt newline_mem_normalize_iff.mp hline
  have houtside : AsciiOutside (normalize raw) := AsciiOutside.normalize hascii
  refine ⟨GrantOption.exists_splitsOff hnormal houtside, fun body option h => ?_⟩
  obtain ⟨hbody, hbodyAscii⟩ := h.of_whole hnormal houtside
  have hsplit : splitGrant raw = .ok (body, option) :=
    splitGrant_eq_ok_iff.mpr ((GrantOption.split_eq_ok_iff hnormal houtside).mpr h)
  have hparse : parse raw defaultSchema = ofBody Form.all raw defaultSchema body option := by
    rw [parse, hsplit]
    rfl
  rw [hparse]
  exact ofBody_iff_derives hschema hbody hbodyAscii

/-- A grantable privilege on an object without a schema, whose name has quotes and letters beyond ASCII
in it, and the same with the other option. -/
theorem parse_iff_derives_of_quoted_object :
    PrivilegeKind.Derives "sales_1".toList .object "select on \"größe \"\"m\"\"\"".toList
        "SELECT".toList "sales_1.\"größe \"\"m\"\"\"".toList ∧
      parse "select\ton  \"größe \"\"m\"\"\" With Grant Option".toList "sales_1".toList =
        .ok ⟨.object, "SELECT".toList, "sales_1.\"größe \"\"m\"\"\"".toList, true⟩ ∧
      parse "select on \"größe \"\"m\"\"\" with admin option".toList "sales_1".toList =
        .error (.grammar (.invalidAdminOption
          "select on \"größe \"\"m\"\"\" with admin option".toList "privilege".toList)) := by
  have hderives : PrivilegeKind.Derives "sales_1".toList .object
      "select on \"größe \"\"m\"\"\"".toList "SELECT".toList
      "sales_1.\"größe \"\"m\"\"\"".toList := by
    refine ⟨.object, rfl, ?_, nofun⟩
    exact .object (v := "select".toList) (k := " on ".toList)
      (i := Identifier.enquote "größe \"m\"".toList) (by decide) (by decide) (.quoted (by decide))
  have hgrant : GrantOption.SplitsOff
      (normalize "select\ton  \"größe \"\"m\"\"\" With Grant Option".toList)
      "select on \"größe \"\"m\"\"\"".toList (some .grant) := by
    have hlayout : normalize "select\ton  \"größe \"\"m\"\"\" With Grant Option".toList =
        "select on \"größe \"\"m\"\"\"".toList ++ ' ' :: "With Grant Option".toList := by decide
    rw [hlayout]
    exact .after (by decide)
  have hadmin : GrantOption.SplitsOff
      (normalize "select on \"größe \"\"m\"\"\" with admin option".toList)
      "select on \"größe \"\"m\"\"\"".toList (some .admin) := by
    have hlayout : normalize "select on \"größe \"\"m\"\"\" with admin option".toList =
        "select on \"größe \"\"m\"\"\"".toList ++ ' ' :: "with admin option".toList := by decide
    rw [hlayout]
    exact .after (by decide)
  refine ⟨hderives, ?_, ?_⟩
  · exact (((parse_iff_derives (by decide) (by decide) (.inr (by decide))).2 _ _ hgrant).1 _).mpr
      ⟨by decide, hderives, by decide, rfl⟩
  · exact (((parse_iff_derives (by decide) (by decide) (.inr (by decide))).2 _ _ hadmin).2 _).mpr
      (.inl ⟨_, _, _, .admin, rfl, hderives, by decide, rfl⟩)

end Privilege

end AccessGrants
