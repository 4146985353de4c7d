import AccessGrants.Proofs.Dotted
import AccessGrants.Proofs.FormOverlap
import AccessGrants.Proofs.Rereading

/-!
# Well-formed grants

A grant is well-formed if its name is a verb, or a path, and its target has the shape of its kind. A
target that was put together with a default schema need not have that shape. It has once it is
written and read again, for a pass reads the canonical strings that it has written itself.

* `Privilege.WellFormed`: well-formed privileges.
* `Form.Guarded`: bodies that are not read as an object without a schema, nor as one with a torn
  schema. `Privilege.wellFormed_of_guarded`: what is read of such a body is well-formed.
* `Privilege.exists_object_or_parse`: a default schema matters only to an object without a schema.
* `Privilege.wellFormed_of_parse_render`, `Role.path_of_parse_render`: what is read of a desired string
  is well-formed.
-/

namespace AccessGrants

open Text Layout

variable {letter : Char → Bool} {raw body defaultSchema t i j : Text}

/-! ## Names after a dot -/

namespace Identifier

/-- What is stored of an identifier does not begin with a blank. -/
theorem first_canonical (hletter : IsAlphabet letter) (hi : IsWritten letter i) :
    ∃ c, (canonical i).head? = some c ∧ isBlank c = false := by
  obtain ⟨s, hs, hcanonical⟩ := exists_isStored_of_isWritten hletter hi
  have hsolid := hs.written.solid hletter
  rcases hcanonical with heq | ⟨-, heq⟩
  · rw [heq]
    exact hsolid.first
  · rw [heq, List.head?_append_of_ne_nil _ hsolid.ne_nil]
    exact hsolid.first

/-- A schema that is stored as it is makes a path with any object. -/
theorem isStoredPath_of_schema (hletter : IsAlphabet letter) (hi : IsStored letter t)
    (hj : IsWritten letter j) :
    IsStoredPath letter (stripWhiteSpace (t ++ '.' :: canonical j)) := by
  rw [stripWhiteSpace_append_dot t (first_canonical hletter hj),
    dropWhile_isWhiteSpace (hi.written.solid hletter).first]
  exact .inr ⟨t, _, hi, stripWhiteSpace_canonical hletter hj, rfl⟩

end Identifier

/-! ## Bodies -/

namespace Form

variable {form : Form}

/-- After the word `ON` of a body stands no identifier as a whole, and an identifier at the beginning
is stored so that it is read back. -/
def Guarded (body : Text) : Prop :=
  ∀ v rest i r, Verb.splitOn body = some (v, rest) → Identifier.read isLetter rest = some (i, r) →
    atEnd r = false ∧ Identifier.IsStored isLetter (Identifier.canonical i)

/-- A body with a dot outside its quotes is guarded. -/
theorem guarded_of_dotted (h : Dotted body) : Guarded body := by
  intro v rest i r hsplit hread
  obtain ⟨front, rfl, hfront⟩ := Verb.exists_append_of_splitOn hsplit
  have hrest : Dotted rest :=
    h.of_append_left (fun hmem => absurd (hfront _ hmem) (by decide))
      fun hmem => absurd (hfront _ hmem) (by decide)
  exact hrest.of_read isLetter_letter hread

/-- The target of any form but those for objects is stored with the shape of its kind. -/
theorem isStoredTarget_of_isTarget (hobject : form.kind ≠ .object)
    (h : form.IsTarget defaultSchema t) : form.kind.IsStoredTarget (stripWhiteSpace t) := by
  cases form with
  | system =>
      obtain rfl : t = [] := h
      rfl
  | object => exact absurd rfl hobject
  | qualifiedObject => exact absurd rfl hobject
  | _ =>
      obtain ⟨i, hi, rfl⟩ := h
      exact Identifier.stripWhiteSpace_canonical isLetter_letter hi

/-- The target that is read of a guarded body is stored with the shape of its kind. -/
theorem isStoredTarget_of_guarded {name target : Text} (hguarded : Guarded body)
    (h : form.read defaultSchema body = some (name, target)) :
    form.kind.IsStoredTarget (stripWhiteSpace target) := by
  by_cases hobject : form.kind = .object
  · cases form with
    | object =>
        obtain ⟨v, rest, hsplit, hread, -⟩ := exists_splitOn_of_readVerb h
        obtain ⟨i, hwhole, -⟩ := Option.map_eq_some_iff.mp hread
        obtain ⟨_, hfirst, hend⟩ := Identifier.exists_read_of_whole hwhole
        rw [(hguarded v rest _ _ hsplit hfirst).1] at hend
        cases hend
    | qualifiedObject =>
        obtain ⟨v, rest, hsplit, hread, -⟩ := exists_splitOn_of_readVerb h
        obtain ⟨⟨i, j⟩, hpair, rfl⟩ := Option.map_eq_some_iff.mp hread
        obtain ⟨-, hj, -⟩ := Identifier.isWritten_of_qualified hpair
        obtain ⟨_, hfirst, -⟩ := Identifier.exists_read_of_qualified hpair
        exact Identifier.isStoredPath_of_schema isLetter_letter
          (hguarded v rest _ _ hsplit hfirst).2 hj
    | _ => cases hobject
  · exact isStoredTarget_of_isTarget hobject (reads_of_read h).isTarget

end Form

/-! ## Privileges -/

namespace Privilege

variable {p q : Privilege}

/-- A privilege has a verb in upper case for its name, and a target with the shape of its kind. -/
structure WellFormed (p : Privilege) : Prop where
  name : Verb.IsStored p.name
  target : p.kind.IsStoredTarget p.target

/-- A stored privilege is well formed. -/
theorem IsStored.wellFormed (h : p.IsStored) : p.WellFormed := ⟨h.name, h.target⟩

/-- What is read of a guarded body is well-formed. -/
theorem wellFormed_of_guarded
    (hguarded : ∀ body option, splitGrant raw = .ok (body, option) → Form.Guarded body)
    (h : parse raw defaultSchema = .ok p) : p.WellFormed := by
  obtain ⟨form, body, name, target, grantable, hsplit, hfirst, rfl⟩ := exists_read_of_parse h
  have hread := (Form.firstRead_eq_some_iff.mp hfirst).1
  have hname := (Form.reads_of_read hread).verb
  refine ⟨?_, Form.isStoredTarget_of_guarded (hguarded body _ hsplit) hread⟩
  rwa [trimmed, (Verb.solid hname.verb).stripWhiteSpace_eq]

/-- A default schema matters only to an object that is read without a schema of its own. -/
theorem exists_object_or_parse (h : parse raw defaultSchema = .ok p) :
    (∀ other, parse raw other = .ok p) ∨ ∃ name i grantable, Verb.IsStored name ∧
      Identifier.IsWritten isLetter i ∧
      p = trimmed .object name (Form.inSchema defaultSchema (Identifier.canonical i)) grantable := by
  obtain ⟨form, body, name, target, grantable, hsplit, hfirst, rfl⟩ := exists_read_of_parse h
  obtain ⟨hread, hsystem⟩ := Form.firstRead_eq_some_iff.mp hfirst
  by_cases hform : form = .object
  · subst hform
    have hreads := Form.reads_of_read hread
    obtain ⟨i, hi, rfl⟩ := hreads.isTarget
    exact .inr ⟨name, i, grantable, hreads.verb, hi, rfl⟩
  · have hbody : body ≠ [] := by
      rintro rfl
      rw [parse, hsplit] at h
      cases h
    refine .inl fun other => parse_of_splitGrant hsplit hbody ?_ rfl
    refine Form.firstRead_eq_some_iff.mpr ⟨?_, hsystem⟩
    rw [← hread]
    cases form <;> first | rfl | exact absurd rfl hform

/-- An object in a default schema has a dot after the schema, and what follows the dot is stored. -/
theorem exists_eq_of_object {name : Text} (grantable : Bool) (hschema : defaultSchema ≠ [])
    (hname : Verb.IsStored name) (hi : Identifier.IsWritten isLetter i) :
    ∃ a j, a ⊆ defaultSchema ∧ Identifier.IsStored isLetter j ∧
      trimmed .object name (Form.inSchema defaultSchema (Identifier.canonical i)) grantable =
        ⟨.object, name, a ++ '.' :: j, grantable⟩ := by
  refine ⟨defaultSchema.dropWhile isWhiteSpace, stripWhiteSpace (Identifier.canonical i),
    List.dropWhile_subset _, Identifier.stripWhiteSpace_canonical Form.isLetter_letter hi, ?_⟩
  rw [trimmed, (Verb.solid hname.verb).stripWhiteSpace_eq, Form.inSchema, if_neg hschema,
    stripWhiteSpace_append_dot _ (Identifier.first_canonical Form.isLetter_letter hi)]

/-- The grant string of an object in a schema, which may be any text. -/
theorem exists_display_object {name : Text} (a : Text) (grantable : Bool)
    (hname : Verb.IsStored name) (hj : Solid j) :
    ∃ suffix, display ⟨.object, name, a ++ '.' :: j, grantable⟩ =
        (name ++ " ON ".toList) ++ (a ++ '.' :: (j ++ suffix)) ∧
      '"' ∉ suffix ∧ Keeps .plain .plain suffix ∧
      Solid ((name ++ " ON ".toList) ++ (a ++ '.' :: (j ++ suffix))) := by
  obtain ⟨suffix, happend, hquote, hkeeps, hlast⟩ := GrantOption.exists_suffix .grant grantable
  refine ⟨suffix, ?_, hquote, hkeeps, ?_⟩
  · have hclause : PrivilegeKind.object.clause name (a ++ '.' :: j) =
        name ++ " ON ".toList ++ (a ++ '.' :: j) := rfl
    rw [display_eq]
    refine (happend _).trans ?_
    rw [hclause]
    simp only [List.append_assoc, List.cons_append]
  · have hends := (Verb.solid hname.verb).append (hlast j hj) (" ON ".toList ++ a ++ ['.'])
    simpa only [List.append_assoc, List.singleton_append] using hends

/-- The grant string of an object in any schema of one line, even one that is none: what is read of
it is well-formed. The quotes of the schema are closed, or the string is refused, so that the dot after
the schema is one outside of quotes. -/
theorem wellFormed_of_parse_object {name a : Text} {grantable : Bool} (hname : Verb.IsStored name)
    (hline : '\n' ∉ a) (hj : Identifier.IsStored isLetter j)
    (h : parse (display ⟨.object, name, a ++ '.' :: j, grantable⟩) defaultSchema = .ok q) :
    q.WellFormed := by
  obtain ⟨suffix, hdisplay, hsuffix, -, hsolid⟩ :=
    exists_display_object a grantable hname (hj.written.solid Form.isLetter_letter)
  rw [hdisplay] at h
  have hfront : ∀ c ∈ name ++ " ON ".toList, isLetter c = true ∨ c = ' ' := by
    intro c hc
    rcases List.mem_append.mp hc with hc | hc
    · exact Verb.isLetter_or_blank hname.verb hc
    · have hall : " ON ".toList.all (fun d => isLetter d || d == ' ') = true := by decide
      have hchar := List.all_eq_true.mp hall c hc
      rwa [Bool.or_eq_true, beq_iff_eq] at hchar
  have hquote : '"' ∉ name ++ " ON ".toList := fun hmem => absurd (hfront _ hmem) (by decide)
  have hfeed : '\n' ∉ name ++ " ON ".toList := fun hmem => absurd (hfront _ hmem) (by decide)
  have hschema : Balanced a := by
    have hcount := balanced_iff.mp (balanced_of_parse h)
    have hobject := balanced_iff.mp (hj.written.balanced Form.isLetter_letter)
    rw [List.count_append, List.count_eq_zero_of_not_mem hquote, List.count_append,
      List.count_cons_of_ne (by decide), List.count_append,
      List.count_eq_zero_of_not_mem hsuffix] at hcount
    exact balanced_iff.mpr (by omega)
  have hdotted : Dotted ((name ++ " ON ".toList) ++ (a ++ '.' :: (j ++ suffix))) := by
    refine ⟨_, _, (List.append_assoc _ _ _).symm, (balanced_of_not_mem hquote).append hschema,
      fun hmem => ?_⟩
    exact (List.mem_append.mp hmem).elim hfeed hline
  exact wellFormed_of_guarded
    (fun body option hsplit => Form.guarded_of_dotted (hdotted.of_splitGrant hsolid hsplit)) h

/-- What is read of a desired string is well-formed, whatever the default schema is, as long as it is
on one line. -/
theorem wellFormed_of_parse_render (hline : '\n' ∉ defaultSchema)
    (h : parse raw defaultSchema = .ok p)
    (hagain : parse (p.render defaultSchema) defaultSchema = .ok q) : q.WellFormed := by
  by_cases hschema : defaultSchema = []
  · subst hschema
    rcases stored_or_torn_of_parse (.inl rfl) h with ⟨hstored, hobject⟩ | htorn
    · obtain rfl := Except.ok.inj ((hstored.parse_eq hobject).symm.trans hagain)
      exact hstored.wellFormed
    · exact absurd hagain htorn.parse_ne_ok
  · rcases exists_object_or_parse h with hother | ⟨name, i, grantable, hname, hi, rfl⟩
    · -- an object has a schema of its own, or it would be in any other one
      have hupper : "X".toList = [] ∨ Identifier.IsUpperName "X".toList := .inr (by decide)
      have hdot : p.kind = .object → '.' ∈ p.target := fun hkind =>
        dot_mem_of_parse hupper (hother "X".toList) hkind (by decide)
      rw [render_eq_display fun hkind _ => hdot hkind] at hagain
      rcases stored_or_torn_of_parse hupper (hother "X".toList) with ⟨hstored, hobject⟩ | htorn
      · rw [hstored.parse_eq fun hkind hone =>
          absurd (hobject hkind hone) (by decide)] at hagain
        obtain rfl := Except.ok.inj hagain
        exact hstored.wellFormed
      · exact absurd hagain htorn.parse_ne_ok
    · obtain ⟨a, j, ha, hj, heq⟩ := exists_eq_of_object grantable hschema hname hi
      rw [heq, render_eq_display fun _ _ => by simp] at hagain
      exact wellFormed_of_parse_object hname (fun hmem => hline (ha hmem)) hj hagain

end Privilege

/-! ## Roles -/

namespace Role

variable {r s : Role}

/-- What is read of a body is a path, if the identifier at its head is stored as it is read. -/
theorem path_of_guarded
    (hguarded : ∀ body option, splitGrant raw = .ok (body, option) → ∀ i rest,
      Identifier.read Identifier.isAsciiLetter body = some (i, rest) →
        Identifier.IsStored Identifier.isAsciiLetter (Identifier.canonical i))
    (h : parse raw = .ok r) : Identifier.IsStoredPath Identifier.isAsciiLetter r.name := by
  obtain ⟨body, name, grantable, hsplit, hread, rfl⟩ := exists_readName_of_parse h
  unfold readName at hread
  split at hread
  · next i j hpair =>
    cases hread
    obtain ⟨-, hj, -⟩ := Identifier.isWritten_of_qualified hpair
    obtain ⟨_, hfirst, -⟩ := Identifier.exists_read_of_qualified hpair
    exact Identifier.isStoredPath_of_schema Identifier.isAlphabet_ascii
      (hguarded body _ hsplit _ _ hfirst) hj
  · obtain ⟨i, hwhole, rfl⟩ := Option.map_eq_some_iff.mp hread
    exact .inl (Identifier.stripWhiteSpace_canonical Identifier.isAlphabet_ascii
      (Identifier.isWritten_of_whole hwhole).1)

/-- What is read of a desired string is a path. -/
theorem path_of_parse_render (h : parse raw = .ok r) (hagain : parse r.render = .ok s) :
    Identifier.IsStoredPath Identifier.isAsciiLetter s.name := by
  rcases stored_or_torn_of_parse h with hstored | htorn
  · obtain rfl := Except.ok.inj (hstored.parse_eq.symm.trans hagain)
    exact hstored.name
  · exact absurd hagain htorn.parse_ne_ok

end Role

end AccessGrants
