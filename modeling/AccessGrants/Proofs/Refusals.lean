import AccessGrants.Proofs.CatalogRows
import AccessGrants.Proofs.RepeatedOptions

/-!
# Refusals

A grant string that cannot be read is refused with an error that carries it unchanged, and trying again
cannot help. The one exception is an option word with a dotted capital I (U+0130): it is read as an
option, but its upper case is none of the two words.

* `Privilege.readRecord`, `Role.readRecord`: reading into a record, with the checks that a record has.
  `Privilege.readRecord_eq`, `Role.readRecord_eq`: no record is ever refused.
* `DottedOption`: the exception. `exists_split_error_iff`: it is what makes the option unknown.
* `failsForGood_unless_dotted`: exactly which grant strings are read or refused for good, and where a list
  is refused.
-/

namespace AccessGrants

open Text Layout

variable {raw defaultSchema body name target : Text}

/-! ## Errors -/

/-- Why a grant string does not become a record: it is refused, or the record is. -/
inductive ReadError
  | refused (e : ParseError)
  | invalid (e : Invalid)

/-- Trying again cannot help. Of what may go wrong in reading this is said of the errors of the grammar
only. -/
def ReadError.isTerminal : ReadError → Bool
  | .refused (.grammar _) => true
  | .refused (.unknownOption _) => false
  | .invalid _ => false

/-- A reading fails, if at all, with an error of the grammar that carries the grant string. -/
def FailsForGood {α : Type} (raw : Text) (reading : Except ReadError α) : Prop :=
  ∀ e, reading = .error e →
    ∃ g : GrammarError, e = .refused (.grammar g) ∧ g.raw = raw ∧ e.isTerminal = true

/-! ## Records of privileges -/

namespace Privilege

/-- The record of a privilege, with its checks. -/
def record (kind : PrivilegeKind) (name target : Text) (grantable : Bool) :
    Except ReadError Privilege :=
  (check kind (.text name) target grantable).mapError .invalid

/-- Reads a body and its option by the first of some forms that fits, into a record. -/
def recordOfBody (forms : List Form) (raw defaultSchema body : Text)
    (option : Option GrantOption) : Except ReadError Privilege :=
  if body = [] then .error (.refused (.grammar (.unknownPrivilege raw none)))
  else
    match Form.firstRead forms defaultSchema body with
    | none => .error (.refused (.grammar (.unknownPrivilege raw (refusalReason body))))
    | some (form, name, target) =>
      match option with
      | none => record form.kind name target false
      | some o =>
        if o = form.kind.grantOption then record form.kind name target true
        else .error (.refused (.grammar (optionError raw o)))

/-- Reads a privilege into a record. -/
def readRecord (raw defaultSchema : Text) : Except ReadError Privilege := do
  let (body, option) ← (splitGrant raw).mapError .refused
  recordOfBody Form.all raw defaultSchema body option

/-- Reads a list of privileges into records, up to the first that is refused. -/
def readRecords (raws : List Text) (defaultSchema : Text) : Except ReadError (List Privilege) :=
  raws.mapM fun raw => readRecord raw defaultSchema

/-- What a form reads passes the checks of the record. -/
theorem record_of_read {form : Form} (h : form.read defaultSchema body = some (name, target))
    (grantable : Bool) :
    record form.kind name target grantable = .ok (trimmed form.kind name target grantable) := by
  have hreads := Form.reads_of_read h
  have hname := Verb.solid hreads.verb.verb
  have hself : stripWhiteSpace name = name := hname.stripWhiteSpace_eq
  have hnonempty : Check.nonempty (.text name) = .ok name := by
    rw [Check.nonempty_text (by rw [hself]; exact hname.ne_nil), hself]
  have hissue : (trimmed form.kind name target grantable).targetIssue = none := by
    by_cases hform : form = .system
    · subst hform
      obtain rfl : target = [] := hreads.isTarget
      rfl
    · have hhas : form.kind.hasTarget = true := by
        cases form <;> first | rfl | exact absurd rfl hform
      have hne : stripWhiteSpace target ≠ [] := by
        rcases Form.written_of_isTarget hform hreads.isTarget with hi | ⟨u, j, -, heq⟩
        · exact (hi.solid Form.isLetter_letter).ne_nil
        · rw [heq]
          simp
      simp [targetIssue, trimmed, hhas, hne]
  have hchecked : checkTarget (trimmed form.kind name target grantable) =
      .ok (trimmed form.kind name target grantable) := by
    rw [checkTarget, hissue]
  unfold record check
  rw [hnonempty]
  exact congrArg (Except.mapError _ ∘ Except.mapError _) hchecked

/-- No record is refused: what reading into a record refuses are grant strings. -/
theorem readRecord_eq (raw defaultSchema : Text) :
    readRecord raw defaultSchema = (parse raw defaultSchema).mapError .refused := by
  have hbody : ∀ body option, recordOfBody Form.all raw defaultSchema body option =
      (ofBody Form.all raw defaultSchema body option).mapError .refused := by
    intro body option
    unfold recordOfBody ofBody
    by_cases hne : body = []
    · rw [if_pos hne, if_pos hne]
      rfl
    · rw [if_neg hne, if_neg hne]
      rcases hfirst : Form.firstRead Form.all defaultSchema body with _ | ⟨form, name, target⟩
      · rfl
      · have hrecord := record_of_read (Form.firstRead_eq_some_iff.mp hfirst).1
        cases option with
        | none => exact hrecord false
        | some o =>
            by_cases ho : o = form.kind.grantOption
            · simp only [if_pos ho]
              exact hrecord true
            · simp only [if_neg ho]
              rfl
  unfold readRecord parse
  rcases splitGrant raw with e | ⟨body, option⟩
  · rfl
  · exact hbody body option

end Privilege

/-! ## Records of roles -/

namespace Role

/-- The record of a role, with its check. -/
def record (name : Text) (grantable : Bool) : Except ReadError Role :=
  let checked := Check.under (.key "name".toList) (Check.nonempty (.text name))
  (checked.mapError fun issues => ReadError.invalid ⟨recordName, issues⟩).map fun name =>
    ⟨name, grantable⟩

/-- Reads a role into a record. -/
def readRecord (raw : Text) : Except ReadError Role := do
  let (body, option) ← (splitGrant raw).mapError .refused
  if option = some .grant then
    .error (.refused (.grammar (.invalidGrantOption raw "role".toList)))
  else
    match readName body with
    | none => .error (.refused (.grammar (.unknownRole raw)))
    | some name => record name (option == some .admin)

/-- Reads a list of roles into records, up to the first that is refused. -/
def readRecords (raws : List Text) : Except ReadError (List Role) :=
  raws.mapM readRecord

/-- The name of a role passes the check of the record. -/
theorem record_of_readName (h : readName body = some name) (grantable : Bool) :
    record name grantable = .ok (trimmed name grantable) := by
  have hne : stripWhiteSpace name ≠ [] := by
    rcases (stored_or_torn_of_readName h).1 with hpath | htorn
    · exact (hpath.solid Identifier.isAlphabet_ascii).ne_nil
    · exact (htorn.solid Identifier.isAlphabet_ascii).ne_nil
  unfold record
  rw [Check.nonempty_text hne]
  rfl

/-- No record is refused. -/
theorem readRecord_eq (raw : Text) : readRecord raw = (parse raw).mapError .refused := by
  unfold readRecord parse
  rcases splitGrant raw with e | ⟨body, option⟩
  · rfl
  · have hname : ∀ grantable : Bool,
        (match readName body with
          | none => .error (.refused (.grammar (.unknownRole raw)))
          | some name => record name grantable) =
        (match readName body with
          | none => Except.error (ParseError.grammar (.unknownRole raw))
          | some name => .ok (trimmed name grantable)).mapError ReadError.refused := by
      intro grantable
      rcases hread : readName body with _ | name
      · rfl
      · exact record_of_readName hread grantable
    rcases option with _ | _ | _
    · exact hname false
    · exact hname true
    · rfl

end Role

/-! ## Options that are no options -/

/-- The option word of a grant string, `ADMIN`, is written with a dotted capital I. It is read as an
option at the end of one line. -/
def DottedOption (raw : Text) : Prop :=
  ∃ before x w y, normalize raw = before ++ (x ++ (w ++ y)) ∧
    '\n' ∉ before ∧ (before = [] ∨ before.getLast? = some ' ') ∧
    x.map fold = "WITH ".toList ∧ w.map fold = "ADMIN".toList ∧ 'İ' ∈ w ∧
    y.map fold = " OPTION".toList

namespace GrantOption

variable {w : Text} {o : GrantOption}

/-- A word that is read as an option is none in upper case exactly if it has a dotted capital I. -/
theorem ofWord?_upper_eq_none_iff (ho : w.map fold = o.word) :
    ofWord? (upper w) = none ↔ 'İ' ∈ w := by
  constructor
  · intro hnone
    by_contra hdotted
    have hkelvin : '\u212A' ∉ w := by
      intro hmem
      have hfold := List.mem_map_of_mem (f := fold) hmem
      rw [ho] at hfold
      cases o <;> exact absurd hfold (by decide)
    have hupper : upper w = o.word := by
      rw [← ho]
      refine List.map_congr_left fun c hc => capital_eq_fold ?_ ?_
      · rintro rfl
        exact hdotted hc
      · rintro rfl
        exact hkelvin hc
    rw [hupper, ofWord?_word] at hnone
    cases hnone
  · intro hdotted
    rw [Option.eq_none_iff_forall_ne_some]
    intro o' hword
    have hmem : 'İ' ∈ upper w := List.mem_map_of_mem (f := capital) hdotted
    rw [ofWord?_eq_some_iff.mp hword] at hmem
    cases o' <;> exact absurd hmem (by decide)

end GrantOption

/-- The options that are read but unknown are those with a dotted capital I. -/
theorem exists_split_error_iff :
    (∃ word, GrantOption.split (normalize raw) = .error word) ↔ DottedOption raw := by
  simp only [GrantOption.split_eq_error_iff]
  constructor
  · rintro ⟨_, body, w, hcut, rfl, hnone⟩
    obtain ⟨hline, s, hword, hshape⟩ :=
      (GrantOption.cut_eq_some_iff_of_end (getLast?_normalize raw)).mp hcut
    obtain ⟨o, x, y, rfl, hx, ho, hy⟩ := GrantOption.suffixWord?_eq_some_iff.mp hword
    have hdotted := (GrantOption.ofWord?_upper_eq_none_iff ho).mp hnone
    have hadmin : w.map fold = "ADMIN".toList := by
      cases o with
      | admin => exact ho
      | grant =>
          have hfold := List.mem_map_of_mem (f := fold) hdotted
          rw [ho] at hfold
          exact absurd hfold (by decide)
    rcases hshape with heq | ⟨rfl, heq⟩
    · exact ⟨body ++ [' '], x, w, y, by rw [heq]; simp, by simpa using hline, .inr (by simp), hx,
        hadmin, hdotted, hy⟩
    · exact ⟨[], x, w, y, heq, hline, .inl rfl, hx, hadmin, hdotted, hy⟩
  · rintro ⟨before, x, w, y, heq, hline, hbefore, hx, hw, hdotted, hy⟩
    have ho : w.map fold = GrantOption.admin.word := hw
    have hword : GrantOption.suffixWord? (x ++ (w ++ y)) = some w :=
      GrantOption.suffixWord?_eq_some_iff.mpr ⟨.admin, x, y, rfl, hx, ho, hy⟩
    have hnone := (GrantOption.ofWord?_upper_eq_none_iff ho).mpr hdotted
    suffices hcut : ∃ body, GrantOption.cut (normalize raw) = (body, some w) by
      obtain ⟨body, hcut⟩ := hcut
      exact ⟨_, body, w, hcut, rfl, hnone⟩
    rcases hbefore with rfl | hlast
    · exact ⟨[], (GrantOption.cut_eq_some_iff_of_end (getLast?_normalize raw)).mpr
        ⟨List.not_mem_nil, _, hword, .inr ⟨rfl, heq⟩⟩⟩
    · obtain ⟨body, rfl⟩ := List.getLast?_eq_some_iff.mp hlast
      have hbody : '\n' ∉ body := fun hmem => hline (List.mem_append_left _ hmem)
      exact ⟨body, (GrantOption.cut_eq_some_iff_of_end (getLast?_normalize raw)).mpr
        ⟨hbody, _, hword, .inl (by rw [heq]; simp)⟩⟩

/-! ## Reading -/

/-- A body is refused with an error of the grammar that carries the grant string. -/
theorem Privilege.raw_of_ofBody {forms : List Form} {option : Option GrantOption} {e : ParseError}
    (h : ofBody forms raw defaultSchema body option = .error e) :
    ∃ g : GrammarError, e = .grammar g ∧ g.raw = raw := by
  unfold ofBody at h
  split at h
  · cases h
    exact ⟨_, rfl, rfl⟩
  · split at h
    · cases h
      exact ⟨_, rfl, rfl⟩
    · split at h
      · cases h
      · next o =>
        split at h
        · cases h
        · cases h
          exact ⟨_, rfl, by cases o <;> rfl⟩

/-- The name of a role is refused so, too. -/
theorem Role.raw_of_body {option : Option GrantOption} {e : ParseError}
    (h : (if option = some .grant then .error (.grammar (.invalidGrantOption raw "role".toList))
      else match readName body with
        | none => .error (.grammar (.unknownRole raw))
        | some name => .ok (trimmed name (option == some .admin)) : Except ParseError Role) =
      .error e) :
    ∃ g : GrammarError, e = .grammar g ∧ g.raw = raw := by
  split at h
  · cases h
    exact ⟨_, rfl, rfl⟩
  · split at h
    · cases h
      exact ⟨_, rfl, rfl⟩
    · cases h

section reading

variable {α : Type} {goOn : Text × Option GrantOption → Except ParseError α}
  (hgoOn : ∀ parts e, goOn parts = .error e → ∃ g : GrammarError, e = .grammar g ∧ g.raw = raw)

include hgoOn

/-- What is read of a body and its option fails for good, unless there is an unknown option. -/
theorem failsForGood_iff :
    FailsForGood raw ((splitGrant raw >>= goOn).mapError .refused) ↔ ¬ DottedOption raw := by
  rw [← exists_split_error_iff]
  unfold splitGrant
  rcases GrantOption.split (normalize raw) with word | parts
  · refine iff_of_false (fun h => ?_) fun h => h ⟨word, rfl⟩
    obtain ⟨g, hg, -⟩ := h _ rfl
    cases hg
  · refine iff_of_true (fun e he => ?_) fun ⟨word, h⟩ => by cases h
    obtain ⟨e', he', rfl⟩ : ∃ e', goOn parts = .error e' ∧ e = .refused e' := by
      change (goOn parts).mapError _ = _ at he
      rcases hparts : goOn parts with e' | a
      · rw [hparts] at he
        cases he
        exact ⟨e', rfl, rfl⟩
      · rw [hparts] at he
        cases he
    obtain ⟨g, rfl, hraw⟩ := hgoOn parts e' he'
    exact ⟨g, rfl, hraw, rfl⟩

/-- The error is that of an unknown option, then. -/
theorem exists_unknownOption_iff :
    (∃ word, (splitGrant raw >>= goOn).mapError ReadError.refused =
      .error (.refused (.unknownOption word))) ↔ DottedOption raw := by
  constructor
  · rintro ⟨word, hword⟩
    by_contra hdotted
    obtain ⟨g, hg, -⟩ := (failsForGood_iff hgoOn).mpr hdotted _ hword
    cases hg
  · intro hdotted
    obtain ⟨word, hword⟩ := exists_split_error_iff.mpr hdotted
    refine ⟨word, ?_⟩
    unfold splitGrant
    rw [hword]
    rfl

end reading

/-- Reading a grant string into a record gives the record, or it fails with an error of the grammar that
carries the grant string and for which trying again cannot help, but for exactly the grant strings whose
option word has a dotted capital I: there the option is unknown. A list fails exactly as the first of its
entries that does. -/
theorem failsForGood_unless_dotted (defaultSchema : Text) :
    (∀ raw, (FailsForGood raw (Privilege.readRecord raw defaultSchema) ↔ ¬ DottedOption raw) ∧
      ((∃ word, Privilege.readRecord raw defaultSchema =
        .error (.refused (.unknownOption word))) ↔ DottedOption raw)) ∧
    (∀ raw, (FailsForGood raw (Role.readRecord raw) ↔ ¬ DottedOption raw) ∧
      ((∃ word, Role.readRecord raw = .error (.refused (.unknownOption word))) ↔
        DottedOption raw)) ∧
    (∀ raws e, Privilege.readRecords raws defaultSchema = .error e ↔
      ∃ before raw after, raws = before ++ raw :: after ∧
        (∃ ps, Privilege.readRecords before defaultSchema = .ok ps) ∧
        Privilege.readRecord raw defaultSchema = .error e) ∧
    ∀ raws e, Role.readRecords raws = .error e ↔
      ∃ before raw after, raws = before ++ raw :: after ∧
        (∃ rs, Role.readRecords before = .ok rs) ∧ Role.readRecord raw = .error e := by
  refine ⟨fun raw => ?_, fun raw => ?_, fun raws e => mapM_eq_error_iff,
    fun raws e => mapM_eq_error_iff⟩
  · have hgoOn : ∀ (parts : Text × Option GrantOption) e,
        Privilege.ofBody Form.all raw defaultSchema parts.1 parts.2 = .error e →
          ∃ g : GrammarError, e = .grammar g ∧ g.raw = raw := fun _ _ => Privilege.raw_of_ofBody
    rw [Privilege.readRecord_eq]
    exact ⟨failsForGood_iff hgoOn, exists_unknownOption_iff hgoOn⟩
  · rw [Role.readRecord_eq]
    exact ⟨failsForGood_iff fun _ _ => Role.raw_of_body,
      exists_unknownOption_iff fun _ _ => Role.raw_of_body⟩

/-- An option word with a dotted capital I is unknown, after a privilege and after a role, and the error is
not one for good; with a dotless i it is read. -/
theorem unknown_option_of_dotted_letter :
    ¬ FailsForGood "CATALOG READ WITH ADMİN OPTION".toList
        (Privilege.readRecord "CATALOG READ WITH ADMİN OPTION".toList []) ∧
      Privilege.readRecord "CATALOG READ WITH ADMİN OPTION".toList [] =
        .error (.refused (.unknownOption "ADMİN".toList)) ∧
      Role.readRecord "PUBLIC WITH ADMİN OPTION".toList =
        .error (.refused (.unknownOption "ADMİN".toList)) ∧
      (ReadError.refused (.unknownOption "ADMİN".toList)).isTerminal = false ∧
      Privilege.readRecord "CATALOG READ WITH ADMıN OPTION".toList [] =
        .ok ⟨.system, "CATALOG READ".toList, [], true⟩ := by
  refine ⟨fun h => ?_, rfl, rfl, rfl, rfl⟩
  obtain ⟨g, hg, -⟩ := h _ rfl
  cases hg

end AccessGrants
