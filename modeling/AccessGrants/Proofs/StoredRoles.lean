import AccessGrants.Proofs.Reading
import AccessGrants.Proofs.RoundTrip
import AccessGrants.Proofs.StoredNames

/-!
# Roles as they are read

A role has a path for its name, of ASCII letters where it is plain, and perhaps the admin option. Like
a privilege, it is stored so that it is read back, or its name is torn.

* `Role.readName_of_isWritten`, `Role.readName_of_pair`, `Role.splitGrant_of_path`: what is read of a
  path, and of one with the option after it.
* `Role.IsStored`, `Role.IsStored.parse_eq`: the roles that are read back.
* `Role.IsTorn`, `Role.stored_or_torn_of_parse`: what is read is stored or torn.
-/

namespace AccessGrants

open Text Layout Identifier

namespace Role

variable {r : Role} {raw body name i j : Text}

/-- A role as it is stored. A grantable one is written on one line. -/
structure IsStored (r : Role) : Prop where
  name : IsStoredPath isAsciiLetter r.name
  line : r.grantable = true → '\n' ∉ r.name

/-- A role whose schema is torn from the dot by a line feed. -/
structure IsTorn (r : Role) : Prop where
  name : Identifier.IsTorn isAsciiLetter r.name
  plain : r.grantable = false

/-! ## Reading undoes writing -/

/-- An identifier is read as the name of a role, without needless quotes. -/
theorem readName_of_isWritten (hi : IsWritten isAsciiLetter i) :
    readName i = some (canonical i) := by
  rw [readName, hi.qualified_eq_none isAlphabet_ascii]
  dsimp only
  rw [hi.whole_eq isAlphabet_ascii, Option.map_some]

/-- Two identifiers are read as the name of a role in a schema, each without needless quotes. -/
theorem readName_of_pair (hi : IsWritten isAsciiLetter i) (hj : IsWritten isAsciiLetter j) :
    readName (i ++ '.' :: j) = some (canonical i ++ '.' :: canonical j) := by
  rw [readName, hi.qualified_eq isAlphabet_ascii hj]

/-- A path is the name of a role. -/
theorem readName_of_isStoredPath (h : IsStoredPath isAsciiLetter name) :
    readName name = some name := by
  rcases h with hi | ⟨i, j, hi, hj, rfl⟩
  · rw [readName_of_isWritten hi.written, hi.canonical]
  · rw [readName_of_pair hi.written hj.written, hi.canonical, hj.canonical]

/-- A path does not end with the words of an option: a plain identifier is but one word. -/
theorem no_option_name (h : IsPath isAsciiLetter name) (o : GrantOption) :
    ¬ o.words <:+ (splitBy ' ' name).map (List.map fold) := by
  rcases h with hi | ⟨i, j, -, hj, rfl⟩
  · cases hi with
    | plain hi =>
        rw [splitBy_of_not_mem (hi.not_blank_mem isAlphabet_ascii)]
        intro hsuffix
        have hlength := hsuffix.length_le
        simp [GrantOption.words] at hlength
    | @quoted name => exact GrantOption.not_words_of_enquote [] name o
  · exact GrantOption.not_words_of_dot isAlphabet_ascii i hj o

/-- A path with or without the admin option after it is split into the path and the option. -/
theorem splitGrant_of_path {grantable : Bool} (h : IsPath isAsciiLetter name)
    (hline : grantable = true → '\n' ∉ name) :
    splitGrant (render ⟨name, grantable⟩) = .ok (name, if grantable then some .admin else none) :=
  splitGrant_of_words (h.solid isAlphabet_ascii) (h.keeps isAlphabet_ascii nofun) hline
    fun _ => no_option_name h

/-- The grant string of a stored role is split into its name and its option. -/
theorem splitGrant_render (h : r.IsStored) :
    splitGrant r.render = .ok (r.name, if r.grantable then some .admin else none) :=
  splitGrant_of_path h.name.isPath h.line

/-- A grant string whose body is read as a name is read, unless it has the option that roles do not
have. -/
theorem parse_of_splitGrant {grantable : Bool}
    (hsplit : splitGrant raw = .ok (body, if grantable then some .admin else none))
    (hname : readName body = some name) : parse raw = .ok (trimmed name grantable) := by
  rw [parse, hsplit]
  change (if (if grantable then some GrantOption.admin else none) = some .grant then _ else _) = _
  rw [if_neg (by cases grantable <;> decide), hname]
  cases grantable <;> rfl

/-- The grant string of a stored role is read back as that role. -/
theorem IsStored.parse_eq (h : r.IsStored) : parse r.render = .ok r := by
  have hsolid := h.name.solid isAlphabet_ascii
  rw [parse_of_splitGrant (splitGrant_render h) (readName_of_isStoredPath h.name), trimmed,
    hsolid.stripWhiteSpace_eq]

/-! ## What is stored -/

/-- A grant string that is read is split, and its body is read as a name. -/
theorem exists_readName_of_parse (h : parse raw = .ok r) :
    ∃ (body name : Text) (grantable : Bool),
      splitGrant raw = .ok (body, if grantable then some .admin else none) ∧
      readName body = some name ∧ r = trimmed name grantable := by
  obtain ⟨⟨body, option⟩, hsplit, hbody⟩ := bind_eq_ok_iff.mp h
  dsimp only at hbody
  split at hbody
  · cases hbody
  · next hoption =>
    split at hbody
    · cases hbody
    · next name hread =>
      cases hbody
      refine ⟨body, name, option == some .admin, ?_, hread, rfl⟩
      rw [hsplit]
      rcases option with _ | _ | _
      · rfl
      · rfl
      · exact absurd rfl hoption

/-- The name of a role is a path, or it is torn. A line feed in it comes from the body. -/
theorem stored_or_torn_of_readName (h : readName body = some name) :
    (IsStoredPath isAsciiLetter (stripWhiteSpace name) ∨
      Identifier.IsTorn isAsciiLetter (stripWhiteSpace name)) ∧
        ('\n' ∉ body → '\n' ∉ name) := by
  unfold readName at h
  split at h
  · next i j hread =>
    cases h
    obtain ⟨hi, hj, -⟩ := isWritten_of_qualified hread
    exact ⟨(stripWhiteSpace_pair isAlphabet_ascii hi hj).imp_left And.left,
      fun hline hmem => hline (mem_of_qualified hread hmem)⟩
  · obtain ⟨i, hread, rfl⟩ := Option.map_eq_some_iff.mp h
    have hi := (isWritten_of_whole hread).1
    exact ⟨.inl (.inl (stripWhiteSpace_canonical isAlphabet_ascii hi)),
      fun hline hmem => hline (mem_of_whole hread hmem)⟩

/-- A role that is read is stored, or its name is torn. -/
theorem stored_or_torn_of_parse (h : parse raw = .ok r) : r.IsStored ∨ r.IsTorn := by
  obtain ⟨body, name, grantable, hsplit, hread, rfl⟩ := exists_readName_of_parse h
  obtain ⟨hname, hbody⟩ := stored_or_torn_of_readName hread
  have hline : grantable = true → '\n' ∉ stripWhiteSpace name := by
    rintro rfl hmem
    exact hbody (line_of_splitGrant hsplit) (mem_of_mem_trim hmem)
  rcases hname with hstored | htorn
  · exact .inl ⟨hstored, hline⟩
  · refine .inr ⟨htorn, ?_⟩
    rw [← Bool.not_eq_true]
    intro hgrantable
    exact hline hgrantable htorn.mem

end Role

end AccessGrants
