import AccessGrants.Proofs.CatalogRows
import AccessGrants.Proofs.StoredGrants
import AccessGrants.Proofs.StoredRoles

/-!
# What the catalog can show

The catalog quotes every name that is not plain upper case, while the reader keeps an identifier
without quotes as it is written. So a desired grant that has a small letter outside its quotes is none
that the catalog shows. All others are.

* `Text.UpperOutside`: no letters but capitals outside the quotes.
* `Identifier.upperOutside_quote`, `Identifier.exists_quote_of_isStored`: the names that the catalog
  quotes are those stored identifiers.
* `Privilege.exists_row_iff`, `Role.exists_row_iff`: a grant that is read has a row exactly if it has
  no other letters there.
* `observable_iff`: both together.
-/

namespace AccessGrants

namespace Text

variable {letter : Char → Bool} {t : Text}

/-- Outside its quotes a text has no letters but capitals. -/
def UpperOutside (letter : Char → Bool) (t : Text) : Prop :=
  ∀ c ∈ outsideQuotes t, letter c = true → c.isUpper = true

instance (letter : Char → Bool) (t : Text) : Decidable (UpperOutside letter t) :=
  List.decidableBAll (fun c => letter c = true → c.isUpper = true) (outsideQuotes t)

/-- White space at the ends is no matter. -/
theorem UpperOutside.strip (h : UpperOutside letter t) :
    UpperOutside letter (stripWhiteSpace t) := fun c hc =>
  h c (mem_outsideQuotes_of_trim (by decide) hc)

end Text

open Text

namespace Identifier

variable {letter : Char → Bool} {name other i t : Text}

/-! ## Quoted names -/

/-- The letters of a plain upper-case name are capitals. -/
theorem isUpper_of_isPlainRest {c : Char} (hletter : isLetter c = true)
    (h : isPlainRest c = true) : c.isUpper = true := by
  have hdigit : c.isDigit = true → isLetter c = false := fun hd =>
    of_ascii (P := fun c => c.isDigit = true → isLetter c = false) (by decide)
      (ascii_of_isAlphanum (isAlphanum_of_isDigit hd)) hd
  rcases Bool.or_eq_true_iff.mp h with hstart | hrest
  · rcases Bool.or_eq_true_iff.mp hstart with hupper | hlow
    · exact hupper
    · rw [eq_of_beq hlow] at hletter
      exact absurd hletter (by decide)
  · rw [hdigit hrest] at hletter
    cases hletter

/-- A name closes the quotes that it is put in. -/
theorem balanced_quote (name : Text) : Balanced (quote name) := by
  unfold quote
  split
  · next hplain => exact balanced_of_not_mem (not_quote_mem_of_isPlain hplain)
  · exact balanced_enquote name

/-- Outside of them it has no letters but capitals. -/
theorem upperOutside_quote (hletter : ∀ c, letter c = true → isLetter c = true) (name : Text) :
    UpperOutside letter (quote name) := by
  intro c hc hc'
  unfold quote at hc
  split at hc
  · next hplain =>
    rw [outsideQuotes_of_not_mem (not_quote_mem_of_isPlain hplain)] at hc
    rcases isPlainRest_of_mem hplain hc with hrest | rfl
    · exact isUpper_of_isPlainRest (hletter c hc') hrest
    · exact absurd (hletter _ hc') (by decide)
  · rw [outsideQuotes_enquote] at hc
    cases hc

/-- So it is with two names. -/
theorem upperOutside_quote_append (hletter : ∀ c, letter c = true → isLetter c = true)
    (name other : Text) : UpperOutside letter (quote name ++ '.' :: quote other) := by
  intro c hc hc'
  have hdot : Balanced ['.'] := balanced_of_not_mem (by decide)
  have hshape : quote name ++ '.' :: quote other = quote name ++ (['.'] ++ quote other) := rfl
  rw [hshape, balanced_quote, hdot, List.mem_append, List.mem_append] at hc
  rcases hc with hc | hc | hc
  · exact upperOutside_quote hletter name c hc hc'
  · rw [List.mem_singleton.mp hc] at hc'
    exact absurd (hletter _ hc') (by decide)
  · exact upperOutside_quote hletter other c hc hc'

/-- A plain identifier of capitals is a plain upper-case name. -/
theorem isPlain_of_isPlainOver (hletter : IsAlphabet letter) (h : IsPlainOver letter i)
    (hupper : ∀ c ∈ i, letter c = true → c.isUpper = true) : isPlain i = true := by
  have hlast : i.getLast? ≠ some '\n' := fun hlast =>
    absurd (h.solid hletter (List.mem_of_getLast? hlast)).2.2 (by decide)
  have hstart : ∀ c ∈ i, letter c = true ∨ c = '_' → isPlainStart c = true := by
    rintro c hc (hchar | rfl)
    · exact Bool.or_eq_true_iff.mpr (.inl (hupper c hc hchar))
    · decide
  have hrest : ∀ c ∈ i, isPlainRest c = true := by
    intro c hc
    have hchar := h.nameChar hc
    unfold isNameChar at hchar
    rw [Bool.or_eq_true, Bool.or_eq_true, beq_iff_eq] at hchar
    rcases hchar with (hchar | hdigit) | hlow
    · exact Bool.or_eq_true_iff.mpr (.inl (hstart c hc (.inl hchar)))
    · exact Bool.or_eq_true_iff.mpr (.inr hdigit)
    · exact Bool.or_eq_true_iff.mpr (.inl (hstart c hc (.inr hlow)))
  rw [isPlain, dropFinalNewline_eq_self hlast]
  obtain ⟨c, r, rfl, hc, -⟩ := h.exists_cons
  dsimp only
  rw [Bool.and_eq_true, List.all_eq_true]
  exact ⟨hstart c List.mem_cons_self hc, fun d hd => hrest d (List.mem_cons_of_mem _ hd)⟩

/-- A stored identifier without other letters outside its quotes is the identifier of a name. -/
theorem exists_quote_of_isStored (hletter : IsAlphabet letter) (h : IsStored letter i)
    (hupper : UpperOutside letter i) : ∃ name, name ≠ [] ∧ quote name = i := by
  obtain ⟨hwritten, hcanonical⟩ := h
  cases hwritten with
  | plain hplain =>
      have hquote : '"' ∉ i := fun hmem => (hplain.solid hletter hmem).1 rfl
      rw [UpperOutside, outsideQuotes_of_not_mem hquote] at hupper
      exact ⟨i, hplain.ne_nil, if_pos (isPlain_of_isPlainOver hletter hplain hupper)⟩
  | @quoted name hne =>
      rw [canonical_enquote] at hcanonical
      exact ⟨name, hne, hcanonical⟩

/-- Two stored identifiers are those of two names. -/
theorem exists_quote_of_pair {j : Text} (hletter : IsAlphabet letter) (hi : IsStored letter i)
    (hj : IsStored letter j) (hupper : UpperOutside letter (i ++ '.' :: j)) :
    ∃ name other, name ≠ [] ∧ quote name ++ '.' :: quote other = i ++ '.' :: j := by
  rw [UpperOutside, hi.written.outsideQuotes_append hletter] at hupper
  obtain ⟨name, hne, hname⟩ := exists_quote_of_isStored hletter hi fun c hc =>
    hupper c (List.mem_append_left _ hc)
  obtain ⟨other, -, hother⟩ := exists_quote_of_isStored hletter hj fun c hc =>
    hupper c (List.mem_append_right _ (List.mem_cons_of_mem _ hc))
  exact ⟨name, other, hne, by rw [hname, hother]⟩

/-- A torn name is that of two names, of which the first has a line feed at its end. -/
theorem exists_quote_of_isTorn (hletter : IsAlphabet letter) (h : IsTorn letter t)
    (hupper : UpperOutside letter t) :
    ∃ name other, name ≠ [] ∧ quote name ++ '.' :: quote other = t := by
  obtain ⟨w, j, hw, hj, rfl⟩ := h
  have hquote : '"' ∉ w := not_quote_mem_of_isPlain hw.1
  rw [UpperOutside, outsideQuotes_append_of_not_mem hquote] at hupper
  obtain ⟨other, -, hother⟩ := exists_quote_of_isStored hletter hj fun c hc =>
    hupper c (List.mem_append_right _ (List.mem_cons_of_mem _ (List.mem_cons_of_mem _ hc)))
  refine ⟨w ++ ['\n'], other, by simp, ?_⟩
  rw [quote, if_pos hw.isPlain_append_newline, hother, List.append_assoc]
  rfl

end Identifier

/-! ## Rows of privileges -/

namespace Row

/-- The target of a row has each of its names in quotes if it needs them. -/
theorem upperOutside_target {kind : PrivilegeKind} {schema object : Value} {t : Text}
    (h : target kind schema object = .ok t) : UpperOutside isLetter t := by
  have hone : ∀ {v : Value}, (name v >>= fun n => pure (Identifier.quote n)) = .ok t →
      UpperOutside isLetter t := by
    intro v hv
    obtain ⟨n, -, hn⟩ := bind_eq_ok_iff.mp hv
    cases hn
    exact Identifier.upperOutside_quote (fun _ => id) n
  cases kind with
  | system =>
      cases h
      exact nofun
  | object =>
      obtain ⟨n, -, hn⟩ := bind_eq_ok_iff.mp h
      obtain ⟨m, -, hm⟩ := bind_eq_ok_iff.mp hn
      cases hm
      exact Identifier.upperOutside_quote_append (fun _ => id) n m
  | schema => exact hone h
  | source => exact hone h
  | usergroup => exact hone h
  | columnKey => exact hone h
  | structured => exact hone h

/-- A stored target without other letters there is the target of a row, but not an object without a
schema. -/
theorem exists_target {kind : PrivilegeKind} {t : Text} (h : kind.IsStoredTarget t)
    (hobject : kind = .object → ¬ Identifier.IsStored isLetter t) (hupper : UpperOutside isLetter t) :
    ∃ schema object, target kind schema object = .ok t := by
  have hone : Identifier.IsStored isLetter t → ∃ name, Identifier.quote name = t := fun hi =>
    (Identifier.exists_quote_of_isStored Form.isLetter_letter hi hupper).imp fun _ => And.right
  cases kind with
  | system =>
      obtain rfl : t = [] := h
      exact ⟨.null, .null, rfl⟩
  | object =>
      rcases h with hi | ⟨i, j, hi, hj, rfl⟩
      · exact absurd hi (hobject rfl)
      · obtain ⟨name, other, -, hquote⟩ :=
          Identifier.exists_quote_of_pair Form.isLetter_letter hi hj hupper
        rw [← hquote]
        exact ⟨.text name, .text other, rfl⟩
  | schema =>
      obtain ⟨name, rfl⟩ := hone h
      exact ⟨.text name, .null, rfl⟩
  | _ =>
      obtain ⟨name, rfl⟩ := hone h
      exact ⟨.null, .text name, rfl⟩

/-- There is an object type for each kind. -/
theorem exists_type (kind : PrivilegeKind) : ∃ type : Text, Row.kind (.text type) = .ok kind := by
  cases kind with
  | system => exact ⟨"SYSTEMPRIVILEGE".toList, by decide⟩
  | source => exact ⟨"SOURCE".toList, by decide⟩
  | schema => exact ⟨"SCHEMA".toList, by decide⟩
  | object => exact ⟨"TABLE".toList, by decide⟩
  | usergroup => exact ⟨"USERGROUP".toList, by decide⟩
  | columnKey => exact ⟨"CLIENTSIDE ENCRYPTION COLUMN KEY".toList, by decide⟩
  | structured => exact ⟨"STRUCTURED_PRIVILEGE".toList, by decide⟩

end Row

namespace Privilege

variable {p : Privilege} {raw defaultSchema : Text}

/-- The privilege of a row has no letters but capitals outside its quotes. -/
theorem upperOutside_of_ofRow {row : Row} (h : ofRow row = .ok p) :
    UpperOutside isLetter p.target := by
  unfold ofRow at h
  split at h
  · obtain ⟨kind, -, h⟩ := bind_eq_ok_iff.mp h
    obtain ⟨t, ht, h⟩ := bind_eq_ok_iff.mp h
    obtain ⟨name, -, rfl⟩ := exists_trimmed_of_check (mapError_eq_ok_iff.mp h)
    exact (Row.upperOutside_target ht).strip
  · cases h

/-- A privilege of which the catalog can show the target has a row. -/
theorem exists_row_of_target {schema object : Value} (hname : Verb.IsStored p.name)
    (hfixed : ∀ name, p.kind.fixedName? = some name → p.name = name)
    (hsystem : p.kind = .system → p.target = []) (hsolid : p.kind ≠ .system → Solid p.target)
    (htarget : Row.target p.kind schema object = .ok p.target) : ∃ row, ofRow row = .ok p := by
  obtain ⟨type, htype⟩ := Row.exists_type p.kind
  have hverb : Row.privilegeName p.kind (.text p.name) = .text p.name := by
    rw [Row.privilegeName_text, Row.verb_eq_self hfixed]
  have hflag : Row.flag (.scalar (.bool p.grantable)) = p.grantable := rfl
  exact ⟨_, ofRow_of_check htype htarget hverb hflag
    (check_of_solid (Verb.solid hname.verb) hsystem hsolid)⟩

/-- A privilege that is read in a default schema has a row in the catalog exactly if it has no letters
but capitals outside its quotes. -/
theorem exists_row_iff (hschema : Identifier.IsUpperName defaultSchema)
    (h : parse raw defaultSchema = .ok p) :
    (∃ row, ofRow row = .ok p) ↔ UpperOutside isLetter p.target := by
  refine ⟨fun ⟨row, hrow⟩ => upperOutside_of_ofRow hrow, fun hupper => ?_⟩
  rcases stored_or_torn_of_parse (.inr hschema) h with ⟨hstored, hobject⟩ | htorn
  · -- in a default schema every object has its schema
    have hnot : p.kind = .object → ¬ Identifier.IsStored isLetter p.target := by
      intro hkind hone
      rw [hobject hkind hone] at hschema
      exact absurd hschema.1 (by decide)
    obtain ⟨schema, object, htarget⟩ := Row.exists_target hstored.target hnot hupper
    exact exists_row_of_target hstored.name hstored.fixedName hstored.target_eq_nil
      hstored.solid_target htarget
  · obtain ⟨name, other, -, hquote⟩ :=
      Identifier.exists_quote_of_isTorn Form.isLetter_letter htorn.target hupper
    have htarget : Row.target p.kind (.text name) (.text other) = .ok p.target := by
      rw [htorn.kind, ← hquote]
      rfl
    have hsolid := htorn.target.solid Form.isLetter_letter
    refine exists_row_of_target htorn.name ?_ ?_ (fun _ => hsolid) htarget
    · rw [htorn.kind]
      nofun
    · rw [htorn.kind]
      nofun

end Privilege

/-! ## Rows of roles -/

namespace Role

variable {r : Role} {raw : Text}

/-- The ASCII letters are among those that are read. -/
theorem isLetter_of_isAsciiLetter (c : Char) (h : Identifier.isAsciiLetter c = true) :
    isLetter c = true :=
  isLetter_of_isAlpha h

/-- The role of a row has no letters but capitals outside its quotes. -/
theorem upperOutside_of_ofRow {row : Row} (h : ofRow row = .ok r) :
    UpperOutside Identifier.isAsciiLetter r.name := by
  unfold ofRow at h
  split at h
  · next schema name grantable =>
    split at h
    · next name =>
      obtain ⟨schema, -, h⟩ := bind_eq_ok_iff.mp h
      split at h
      · cases h
        exact (Identifier.upperOutside_quote isLetter_of_isAsciiLetter name).strip
      · cases h
        exact (Identifier.upperOutside_quote_append isLetter_of_isAsciiLetter _ name).strip
    · cases h
  · cases h

/-- The row of a role in a schema. -/
theorem ofRow_pair {schema name : Text} (hne : schema ≠ [])
    (hname : Identifier.quote schema ++ '.' :: Identifier.quote name = r.name)
    (hsolid : Solid r.name) :
    ofRow [.text schema, .text name, .scalar (.bool r.grantable)] = .ok r := by
  obtain ⟨c, q, rfl⟩ := List.exists_cons_of_ne_nil hne
  have hrow : ofRow [.text (c :: q), .text name, .scalar (.bool r.grantable)] =
      .ok (trimmed (Identifier.quote (c :: q) ++ '.' :: Identifier.quote name) r.grantable) := rfl
  rw [hrow, hname, trimmed, hsolid.stripWhiteSpace_eq]

/-- A role that is read has a row in the catalog exactly if it has no letters but capitals outside its
quotes. -/
theorem exists_row_iff (h : parse raw = .ok r) :
    (∃ row, ofRow row = .ok r) ↔ UpperOutside Identifier.isAsciiLetter r.name := by
  refine ⟨fun ⟨row, hrow⟩ => upperOutside_of_ofRow hrow, fun hupper => ?_⟩
  rcases stored_or_torn_of_parse h with hstored | htorn
  · have hsolid := hstored.name.solid Identifier.isAlphabet_ascii
    rcases hstored.name with hi | ⟨i, j, hi, hj, heq⟩
    · obtain ⟨name, -, hquote⟩ :=
        Identifier.exists_quote_of_isStored Identifier.isAlphabet_ascii hi hupper
      have hrow : ofRow [.null, .text name, .scalar (.bool r.grantable)] =
          .ok (trimmed (Identifier.quote name) r.grantable) := rfl
      rw [hquote, trimmed, hsolid.stripWhiteSpace_eq] at hrow
      exact ⟨_, hrow⟩
    · rw [heq] at hupper
      obtain ⟨schema, name, hne, hquote⟩ :=
        Identifier.exists_quote_of_pair Identifier.isAlphabet_ascii hi hj hupper
      exact ⟨_, ofRow_pair hne (hquote.trans heq.symm) hsolid⟩
  · obtain ⟨schema, name, hne, hquote⟩ :=
      Identifier.exists_quote_of_isTorn Identifier.isAlphabet_ascii htorn.name hupper
    exact ⟨_, ofRow_pair hne hquote (htorn.name.solid Identifier.isAlphabet_ascii)⟩

end Role

/-! ## Both -/

/-- The catalog can show a grant that is read exactly if no small letter stands outside its quotes. -/
theorem observable_iff {defaultSchema : Text} (hschema : Identifier.IsUpperName defaultSchema) :
    (∀ raw p, Privilege.parse raw defaultSchema = .ok p →
      ((∃ row, Privilege.ofRow row = .ok p) ↔ UpperOutside isLetter p.target)) ∧
    (∀ raw r, Role.parse raw = .ok r →
      ((∃ row, Role.ofRow row = .ok r) ↔ UpperOutside Identifier.isAsciiLetter r.name)) :=
  ⟨fun _ _ h => Privilege.exists_row_iff hschema h, fun _ _ h => Role.exists_row_iff h⟩

/-- A table with a quoted name and a role of capitals. -/
theorem observable_table_and_role :
    ∃ p r, Privilege.parse "select on \"orders\"".toList "SALES".toList = .ok p ∧
      (∃ row, Privilege.ofRow row = .ok p) ∧
      Role.parse "SALES.REPORTING with admin option".toList = .ok r ∧
      ∃ row, Role.ofRow row = .ok r := by
  have hschema : Identifier.IsUpperName "SALES".toList := by decide
  have hp : Privilege.parse "select on \"orders\"".toList "SALES".toList =
      .ok ⟨.object, "SELECT".toList, "SALES.\"orders\"".toList, false⟩ := rfl
  have hr : Role.parse "SALES.REPORTING with admin option".toList =
      .ok ⟨"SALES.REPORTING".toList, true⟩ := rfl
  obtain ⟨hprivilege, hrole⟩ := observable_iff hschema
  exact ⟨_, _, hp, (hprivilege _ _ hp).mpr (by decide), hr, (hrole _ _ hr).mpr (by decide)⟩

/-- Without quotes the name of the table keeps its small letters, and no row shows it so. -/
theorem unobservable_table :
    Identifier.IsUpperName "SALES".toList ∧
      ∃ p, Privilege.parse "SELECT ON orders".toList "SALES".toList = .ok p ∧
        ∀ row, Privilege.ofRow row ≠ .ok p := by
  refine ⟨by decide, ⟨.object, "SELECT".toList, "SALES.orders".toList, false⟩, rfl, ?_⟩
  intro row hrow
  have hupper : UpperOutside isLetter "SALES.orders".toList := Privilege.upperOutside_of_ofRow hrow
  exact absurd hupper (by decide)

end AccessGrants
