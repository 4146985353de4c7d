import AccessGrants.Catalog
import AccessGrants.Proofs.Reading
import AccessGrants.Proofs.RoundTrip

/-!
# Rows of the catalog

What a row of the catalog shows is a canonical privilege, whatever its names are, so its grant string
is read back and says all that the row says.

* `Privilege.check_of_solid`: what passes the check of a record.
* `Identifier.join_quote_injective`: quoted names with dots between them are told apart.
* `Row.usedNames`: the names that the privileges of a kind use.
* `GrantedRow`: the rows as a database has them. `GrantedRow.exists_ofRow` is the privilege of a row,
  which is canonical.
* `GrantedRow.parse_display_of_ofRow`: its grant string is read back.
* `GrantedRow.agree_of_ofRow`: only a row that says the same has this privilege.
* `GrantedRow.readable_and_unambiguous`: both together.
-/

namespace AccessGrants

open Text

/-! ## Records -/

/-- A text passes the check for texts that are not empty if anything is left of it. -/
theorem Check.nonempty_text {t : Text} (h : stripWhiteSpace t ≠ []) :
    Check.nonempty (.text t) = .ok (stripWhiteSpace t) := by
  have htext : Check.text (.text t) = .ok (stripWhiteSpace t) := rfl
  rw [Check.nonempty, htext]
  split
  · next hnil => exact absurd (Except.ok.inj hnil) h
  · rfl

/-- A privilege passes the check of a record if its name and its target have no blanks at their ends,
and if only a system privilege goes without a target. -/
theorem Privilege.check_of_solid {p : Privilege} (hname : Solid p.name)
    (hsystem : p.kind = .system → p.target = []) (htarget : p.kind ≠ .system → Solid p.target) :
    check p.kind (.text p.name) p.target p.grantable = .ok p := by
  have hnonempty : Check.nonempty (.text p.name) = .ok p.name := by
    have hself := hname.stripWhiteSpace_eq
    rw [Check.nonempty_text (by rw [hself]; exact hname.ne_nil), hself]
  have hstrip : stripWhiteSpace p.target = p.target := by
    by_cases hkind : p.kind = .system
    · rw [hsystem hkind]
      rfl
    · exact (htarget hkind).stripWhiteSpace_eq
  have hissue : p.targetIssue = none := by
    by_cases hkind : p.kind = .system
    · simp [targetIssue, hkind, PrivilegeKind.hasTarget, hsystem hkind]
    · have hhas : p.kind.hasTarget = true := by
        cases hp : p.kind <;> first | rfl | exact absurd hp hkind
      simp [targetIssue, hhas, (htarget hkind).ne_nil]
  have hchecked : checkTarget (trimmed p.kind p.name p.target p.grantable) = .ok p := by
    rw [trimmed, hname.stripWhiteSpace_eq, hstrip, checkTarget, hissue]
  unfold check
  rw [hnonempty]
  exact congrArg (Except.mapError _) hchecked

/-- What passes the check of a record are its parts without the white space around them, of which
the name is a text. -/
theorem Privilege.exists_trimmed_of_check {kind : PrivilegeKind} {v : Value} {target : Text}
    {grantable : Bool} {p : Privilege} (h : check kind v target grantable = .ok p) :
    ∃ name : Text, v = .text name ∧ p = trimmed kind (stripWhiteSpace name) target grantable := by
  obtain ⟨name, hname, hchecked⟩ := bind_eq_ok_iff.mp (mapError_eq_ok_iff.mp h)
  obtain rfl : trimmed kind name target grantable = p := by
    unfold checkTarget at hchecked
    split at hchecked
    · cases hchecked
    · exact Except.ok.inj hchecked
  unfold Check.nonempty at hname
  split at hname
  · cases hname
  · unfold Check.text at hname
    split at hname
    · cases hname
      exact ⟨_, rfl, rfl⟩
    · cases hname
    · cases hname

/-- A stored privilege passes the check of a record. -/
theorem Privilege.IsStored.check_eq {p : Privilege} (h : p.IsStored) :
    check p.kind (.text p.name) p.target p.grantable = .ok p :=
  check_of_solid (Verb.solid h.name.verb) h.target_eq_nil h.solid_target

/-- A row is read if its type has a kind, its names make up a target, and its privilege passes the
check of a record. -/
theorem Privilege.ofRow_of_check {type privilege schema object grantable : Value}
    {p : Privilege} (hkind : Row.kind type = .ok p.kind)
    (htarget : Row.target p.kind schema object = .ok p.target)
    (hname : Row.privilegeName p.kind privilege = .text p.name)
    (hflag : Row.flag grantable = p.grantable)
    (hcheck : check p.kind (.text p.name) p.target p.grantable = .ok p) :
    ofRow [type, privilege, schema, object, grantable] = .ok p := by
  unfold ofRow
  refine bind_eq_ok_iff.mpr ⟨_, hkind, bind_eq_ok_iff.mpr ⟨_, htarget, ?_⟩⟩
  rw [hname, hflag, hcheck]
  rfl

/-! ## Names with dots between them -/

namespace Identifier

variable {names others : List Text}

/-- The first of some names is read up to the dot after it. -/
theorem read_join_quote {name : Text} (hname : name ≠ [] ∧ '\n' ∉ name) (names : List Text) :
    read isAsciiLetter (join ['.'] ((name :: names).map quote)) =
      some (quote name, if names = [] then [] else '.' :: join ['.'] (names.map quote)) := by
  have hwritten : IsWritten isAsciiLetter (quote name) :=
    (isCanonical_quote hname.1 hname.2).isWritten isAlphabet_ascii
  cases names with
  | nil => rw [List.map_singleton, join_singleton, hwritten.read_self isAlphabet_ascii, if_pos rfl]
  | cons next names =>
      rw [List.map_cons, List.map_cons, join_cons_cons, hwritten.read_dot isAlphabet_ascii]
      rfl

/-- Names that are quoted and joined alike are alike, and they are as many. -/
theorem join_quote_injective (hnames : ∀ name ∈ names, name ≠ [] ∧ '\n' ∉ name)
    (hothers : ∀ name ∈ others, name ≠ [] ∧ '\n' ∉ name)
    (h : join ['.'] (names.map quote) = join ['.'] (others.map quote)) : names = others := by
  induction names generalizing others with
  | nil =>
      cases others with
      | nil => rfl
      | cons other others =>
          have hread := congrArg (read isAsciiLetter) h
          rw [read_join_quote (hothers other List.mem_cons_self)] at hread
          cases hread
  | cons name names ih =>
      cases others with
      | nil =>
          have hread := congrArg (read isAsciiLetter) h
          rw [read_join_quote (hnames name List.mem_cons_self)] at hread
          cases hread
      | cons other others =>
          have hread := congrArg (read isAsciiLetter) h
          rw [read_join_quote (hnames name List.mem_cons_self),
            read_join_quote (hothers other List.mem_cons_self), Option.some.injEq,
            Prod.mk.injEq] at hread
          obtain ⟨hfirst, hrest⟩ := hread
          rw [quote_injective hfirst]
          apply congrArg
          -- one text ends after its first name exactly if the other does
          split at hrest <;> split at hrest
          · next hnil hnil' => rw [hnil, hnil']
          · cases hrest
          · cases hrest
          · exact ih (fun k hk => hnames k (List.mem_cons_of_mem _ hk))
              (fun k hk => hothers k (List.mem_cons_of_mem _ hk)) (List.cons.inj hrest).2

end Identifier

/-! ## Rows as a database has them -/

/-- One or more words of the letters `A` to `Z` with single spaces between them, none of them a word
that begins another part of a grant. -/
def Verb.IsOrdinary (t : Text) : Prop :=
  Verb.IsCanonical t ∧ "WITH".toList ∉ splitBy ' ' t ∧ "STRUCTURED".toList ∉ splitBy ' ' t

instance (t : Text) : Decidable (Verb.IsOrdinary t) :=
  inferInstanceAs (Decidable (_ ∧ _))

namespace Row

/-- The names of a row that the privileges of a kind use. -/
def usedNames (kind : PrivilegeKind) (schema object : Value) : List Value :=
  match kind with
  | .system => []
  | .schema => [schema]
  | .object => [schema, object]
  | _ => [object]

/-- The name of the privilege of a row: what it says, unless its kind has only one. -/
def verb (kind : PrivilegeKind) (privilege : Text) : Text :=
  match kind with
  | .usergroup => "USERGROUP OPERATOR".toList
  | .structured => "STRUCTURED PRIVILEGE".toList
  | _ => privilege

/-- A text that is shown for a privilege names it. -/
theorem privilegeName_text (kind : PrivilegeKind) (privilege : Text) :
    privilegeName kind (.text privilege) = .text (verb kind privilege) := by
  cases kind <;> rfl

/-- A name that is fixed where its kind has only one is kept. -/
theorem verb_eq_self {kind : PrivilegeKind} {name : Text}
    (h : ∀ fixed, kind.fixedName? = some fixed → name = fixed) : verb kind name = name := by
  cases kind with
  | usergroup => exact (h _ rfl).symm
  | structured => exact (h _ rfl).symm
  | _ => rfl

/-- An object has two names, if they are texts. -/
theorem eq_pair_of_usedNames {schema object : Value} {names : List Text}
    (h : usedNames .object schema object = names.map Value.text) :
    ∃ a b, names = [a, b] ∧ schema = .text a ∧ object = .text b := by
  obtain ⟨a, rest, rfl, ha, hrest⟩ := List.map_eq_cons_iff.mp h.symm
  obtain ⟨b, rfl, hb⟩ := List.map_eq_singleton_iff.mp hrest
  exact ⟨a, b, rfl, ha.symm, hb.symm⟩

end Row

/-- A row of the view of privileges as a database has it, with its kind. The privilege is an ordinary
verb, for column keys the only one there is, and the names that the kind uses are texts of one line
that are not empty. The type, the other names and the flag may be anything. -/
structure GrantedRow where
  type : Scalar
  privilege : Text
  schema : Value
  object : Value
  grantable : Value
  kind : PrivilegeKind
  kind_eq : Row.kind (.scalar type) = .ok kind
  ordinary : Verb.IsOrdinary privilege
  usage : kind = .columnKey → privilege = "USAGE".toList
  named : ∀ v ∈ Row.usedNames kind schema object,
    ∃ name : Text, v = .text name ∧ name ≠ [] ∧ '\n' ∉ name

namespace GrantedRow

variable {r s : GrantedRow} {t : Text}

/-- The columns of a row. -/
def row (r : GrantedRow) : Row :=
  [.scalar r.type, .text r.privilege, r.schema, r.object, r.grantable]

/-- The names that a row uses are texts, and its target has each of them in quotes if it needs them. -/
theorem exists_names (r : GrantedRow) : ∃ names : List Text,
    Row.usedNames r.kind r.schema r.object = names.map Value.text ∧
    Row.target r.kind r.schema r.object = .ok (join ['.'] (names.map Identifier.quote)) ∧
    ∀ name ∈ names, name ≠ [] ∧ '\n' ∉ name := by
  have htexts : ∀ vs : List Value,
      (∀ v ∈ vs, ∃ name : Text, v = .text name ∧ name ≠ [] ∧ '\n' ∉ name) →
      ∃ names : List Text, vs = names.map Value.text ∧ ∀ name ∈ names, name ≠ [] ∧ '\n' ∉ name := by
    intro vs hvs
    induction vs with
    | nil => exact ⟨[], rfl, nofun⟩
    | cons v vs ih =>
        obtain ⟨name, rfl, hname⟩ := hvs v List.mem_cons_self
        obtain ⟨names, rfl, hnames⟩ := ih fun w hw => hvs w (List.mem_cons_of_mem _ hw)
        refine ⟨name :: names, rfl, fun n hn => ?_⟩
        rcases List.mem_cons.mp hn with rfl | hn
        · exact hname
        · exact hnames n hn
  obtain ⟨names, hused, hnames⟩ := htexts _ r.named
  refine ⟨names, hused, ?_, hnames⟩
  cases hkind : r.kind with
  | system =>
      rw [hkind] at hused
      rw [List.map_eq_nil_iff.mp hused.symm]
      rfl
  | object =>
      rw [hkind] at hused
      obtain ⟨a, b, rfl, hschema, hobject⟩ := Row.eq_pair_of_usedNames hused
      rw [hschema, hobject, List.map_cons, List.map_singleton, join_cons_cons, join_singleton]
      rfl
  | _ =>
      rw [hkind] at hused
      obtain ⟨a, rfl, ha⟩ := List.map_eq_singleton_iff.mp hused.symm
      rw [← ha]
      simp [Row.target, Row.name, bind, Except.bind, pure, Except.pure]

/-- Names of one line that are not empty make up a canonical target. -/
theorem isCanonicalTarget {names : List Text}
    (hused : Row.usedNames r.kind r.schema r.object = names.map Value.text)
    (hnames : ∀ name ∈ names, name ≠ [] ∧ '\n' ∉ name) :
    r.kind.IsCanonicalTarget (join ['.'] (names.map Identifier.quote)) := by
  have hquote : ∀ name ∈ names, Identifier.IsCanonical (Identifier.quote name) := fun name hname =>
    Identifier.isCanonical_quote (hnames name hname).1 (hnames name hname).2
  cases hkind : r.kind with
  | system =>
      rw [hkind] at hused
      rw [List.map_eq_nil_iff.mp hused.symm]
      rfl
  | object =>
      rw [hkind] at hused
      obtain ⟨a, b, rfl, -, -⟩ := Row.eq_pair_of_usedNames hused
      rw [List.map_cons, List.map_singleton, join_cons_cons, join_singleton]
      exact .inr ⟨_, _, hquote a (by simp), hquote b (by simp), rfl⟩
  | _ =>
      rw [hkind] at hused
      obtain ⟨a, rfl, -⟩ := List.map_eq_singleton_iff.mp hused.symm
      rw [List.map_singleton, join_singleton]
      exact hquote a List.mem_cons_self

/-- Quoted names on one line are on one line together. -/
theorem line_join {names : List Text} (hnames : ∀ name ∈ names, name ≠ [] ∧ '\n' ∉ name) :
    '\n' ∉ join ['.'] (names.map Identifier.quote) := by
  intro hmem
  rcases exists_mem_of_mem_join hmem with hdot | ⟨w, hw, hmem⟩
  · exact absurd hdot (by decide)
  · obtain ⟨name, hname, rfl⟩ := List.mem_map.mp hw
    exact (hnames name hname).2 (Identifier.mem_of_mem_quote (by decide) hmem)

/-- The name of the privilege of a row is a canonical verb. -/
theorem isCanonical_verb (r : GrantedRow) : Verb.IsCanonical (Row.verb r.kind r.privilege) := by
  have hverb := r.ordinary.1
  have hfixed : Verb.IsCanonical "USERGROUP OPERATOR".toList ∧
      Verb.IsCanonical "STRUCTURED PRIVILEGE".toList := by decide
  cases r.kind with
  | usergroup => exact hfixed.1
  | structured => exact hfixed.2
  | _ => exact hverb

/-- The privilege of a row is canonical. -/
theorem isCanonical {t : Text} (ht : r.kind.IsCanonicalTarget t) (hline : '\n' ∉ t) :
    Privilege.IsCanonical ⟨r.kind, Row.verb r.kind r.privilege, t, Row.flag r.grantable⟩ := by
  obtain ⟨-, hwith, hstructured⟩ := r.ordinary
  have hsystem : r.kind = .system → Row.verb r.kind r.privilege = r.privilege := by
    intro hkind
    rw [hkind]
    rfl
  refine ⟨r.isCanonical_verb, fun name hname => ?_, ht, fun _ => hline, ?_, ?_⟩
  · have husage := r.usage
    dsimp only at hname ⊢
    cases hkind : r.kind <;> rw [hkind] at hname husage <;> cases hname
    · rfl
    · exact husage rfl
    · rfl
  · intro hkind w hwords
    dsimp only at hkind hwords
    rw [hsystem hkind] at hwords
    refine hstructured ?_
    rw [hwords]
    exact List.mem_cons_self
  · intro hkind _ o hsuffix
    dsimp only at hkind hsuffix
    rw [hsystem hkind] at hsuffix
    exact hwith (hsuffix.subset List.mem_cons_self)

/-- The privilege of a row has its kind, its verb, its names and its flag. -/
theorem exists_ofRow (r : GrantedRow) : ∃ (p : Privilege) (names : List Text),
    Privilege.ofRow r.row = .ok p ∧ p.IsCanonical ∧
    p = ⟨r.kind, Row.verb r.kind r.privilege, join ['.'] (names.map Identifier.quote),
      Row.flag r.grantable⟩ ∧
    Row.usedNames r.kind r.schema r.object = names.map Value.text ∧
    ∀ name ∈ names, name ≠ [] ∧ '\n' ∉ name := by
  obtain ⟨names, hused, htarget, hnames⟩ := r.exists_names
  have hcanonical := isCanonical (isCanonicalTarget hused hnames) (line_join hnames)
  refine ⟨_, names, ?_, hcanonical, rfl, hused, hnames⟩
  exact Privilege.ofRow_of_check r.kind_eq htarget (Row.privilegeName_text _ _) rfl
    hcanonical.isStored.check_eq

/-- The grant string of a row is read back as the privilege of the row. -/
theorem parse_display_of_ofRow {p : Privilege} (hrow : Privilege.ofRow r.row = .ok p)
    (defaultSchema : Text) : Privilege.parse p.display defaultSchema = .ok p := by
  obtain ⟨q, names, hq, hcanonical, rfl, hused, hnames⟩ := r.exists_ofRow
  obtain rfl := Except.ok.inj (hrow.symm.trans hq)
  refine hcanonical.isStored.parse_eq fun hkind hone => ?_
  -- the target of an object has two names
  dsimp only at hkind hone
  rw [hkind] at hused
  obtain ⟨a, b, rfl, -, -⟩ := Row.eq_pair_of_usedNames hused
  have hwritten : ∀ n, n ≠ [] ∧ '\n' ∉ n → Identifier.IsWritten isLetter (Identifier.quote n) :=
    fun n hn => (Identifier.isCanonical_quote hn.1 hn.2).isWritten Form.isLetter_letter
  rw [List.map_cons, List.map_singleton, join_cons_cons, join_singleton] at hone
  exact absurd hone.written ((hwritten a (hnames a (by simp))).not_isWritten_append
    Form.isLetter_letter (hwritten b (hnames b (by simp))))

/-- Rows of one privilege say the same. -/
theorem agree_of_ofRow {p : Privilege} (hr : Privilege.ofRow r.row = .ok p)
    (hs : Privilege.ofRow s.row = .ok p) :
    r.kind = s.kind ∧ Row.verb r.kind r.privilege = Row.verb s.kind s.privilege ∧
      Row.usedNames r.kind r.schema r.object = Row.usedNames s.kind s.schema s.object ∧
      Row.flag r.grantable = Row.flag s.grantable := by
  obtain ⟨_, names, hr', -, rfl, hused, hnames⟩ := r.exists_ofRow
  obtain ⟨_, names', hs', -, rfl, hused', hnames'⟩ := s.exists_ofRow
  have heq := Except.ok.inj ((hr'.symm.trans hr).trans (hs.symm.trans hs'))
  rw [Privilege.mk.injEq] at heq
  obtain ⟨hkind, hverb, htarget, hflag⟩ := heq
  refine ⟨hkind, hverb, ?_, hflag⟩
  rw [hused, hused', Identifier.join_quote_injective hnames hnames' htarget]

/-- What the catalog shows is readable and unambiguous: the grant string of a row is read back as its
privilege in every default schema, and two rows with the same grant string have the same kind, the
same verb, the same names and the same flag. -/
theorem readable_and_unambiguous :
    (∀ r : GrantedRow, ∃ p, Privilege.ofRow r.row = .ok p ∧
      ∀ defaultSchema, Privilege.parse p.display defaultSchema = .ok p) ∧
    ∀ (r s : GrantedRow) (p q : Privilege), Privilege.ofRow r.row = .ok p →
      Privilege.ofRow s.row = .ok q → p.display = q.display →
        r.kind = s.kind ∧ Row.verb r.kind r.privilege = Row.verb s.kind s.privilege ∧
        Row.usedNames r.kind r.schema r.object = Row.usedNames s.kind s.schema s.object ∧
        Row.flag r.grantable = Row.flag s.grantable := by
  refine ⟨fun r => ?_, fun r s p q hr hs hdisplay => ?_⟩
  · obtain ⟨p, -, hp, -⟩ := r.exists_ofRow
    exact ⟨p, hp, parse_display_of_ofRow hp⟩
  · -- both are read from the same grant string
    have hread := parse_display_of_ofRow hr []
    rw [hdisplay, parse_display_of_ofRow hs []] at hread
    obtain rfl := Except.ok.inj hread
    exact agree_of_ofRow hr hs

/-- A row for `SELECT` on a table or the like whose name has quotes, blanks and the word `ON` in it. -/
def quotedObject (type : Scalar) (hkind : Row.kind (.scalar type) = .ok .object)
    (grantable : Value) : GrantedRow where
  type
  privilege := "SELECT".toList
  schema := .text "SALES".toList
  object := .text "a \"b\" ON c".toList
  grantable
  kind := .object
  kind_eq := hkind
  ordinary := by decide
  usage := nofun
  named := by
    rw [Row.usedNames, List.forall_mem_cons, List.forall_mem_singleton]
    exact ⟨⟨_, rfl, by decide, by decide⟩, ⟨_, rfl, by decide, by decide⟩⟩

/-- The row of a table with a text for its flag and the row of a view with a truth value are shown
alike. They agree on all that is shown, and that is read back. -/
theorem readable_and_unambiguous_table_and_view :
    let r := quotedObject (.text "TABLE".toList) rfl (.text "true ".toList)
    let s := quotedObject (.text "VIEW".toList) rfl (.scalar (.bool true))
    ∃ p, Privilege.ofRow r.row = .ok p ∧ Privilege.ofRow s.row = .ok p ∧
      Privilege.parse p.display "X".toList = .ok p ∧
      Row.usedNames r.kind r.schema r.object = Row.usedNames s.kind s.schema s.object ∧
      Row.flag r.grantable = Row.flag s.grantable := by
  intro r s
  obtain ⟨hreadable, hunambiguous⟩ := readable_and_unambiguous
  obtain ⟨p, hp, hparse⟩ := hreadable r
  have hs : Privilege.ofRow s.row = .ok p := by
    rw [← hp]
    rfl
  obtain ⟨-, -, hnames, hflag⟩ := hunambiguous r s p p hp hs rfl
  exact ⟨p, hp, hs, hparse _, hnames, hflag⟩

end GrantedRow

end AccessGrants
