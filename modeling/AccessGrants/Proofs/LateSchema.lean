import AccessGrants.Proofs.DefaultSchema

/-!
# Objects placed in the default schema, early or late

An object without a schema is placed in the default schema when its grant is read with one, or, when
it was read without, as the grant is written. The reader knows an object without a schema by its form.
The writer looks for a dot in the target, and a dot may also stand inside the quotes of a single name:
such an object is taken for one with a schema, and stays without.

* `Identifier.dot_mem_stored_iff`: an identifier keeps its dots in what is stored of it.
* `Privilege.parse_object_placed`: what is read with a default schema and without one.
* `Privilege.qualified_alike_iff`: both ways write the same grant exactly if the object has no dot.
-/

namespace AccessGrants

open Text

variable {verb schema object : Text}

/-! ## Dots in names -/

namespace Identifier

variable {letter : Char → Bool} {i : Text}

/-- A dot in an identifier stands between quotes that it needs, so that it is stored. -/
theorem dot_mem_stored_iff (hletter : IsAlphabet letter) (hi : IsWritten letter i) :
    '.' ∈ stripWhiteSpace (canonical i) ↔ '.' ∈ i := by
  constructor
  · intro hdot
    apply mem_of_mem_canonical
    exact mem_of_mem_trim hdot
  · intro hdot
    cases hi with
    | plain h => exact absurd rfl (h.solid hletter hdot).2.1
    | @quoted name hne =>
        have hname : '.' ∈ name := mem_of_mem_enquote (by decide) hdot
        have hplain : ¬ isPlain name = true := by
          intro hplain
          rcases isPlainRest_of_mem hplain hname with hrest | hline
          · exact absurd hrest (by decide)
          · exact absurd hline (by decide)
        have hwritten : IsWritten letter (enquote name) := .quoted hne
        rw [canonical_enquote, quote, if_neg hplain, (hwritten.solid hletter).stripWhiteSpace_eq]
        exact hdot

end Identifier

/-! ## The target of an object -/

namespace Privilege

variable {p : Privilege}

/-- A target with a dot is written as it is. -/
theorem qualifiedTarget_of_dot (hdot : '.' ∈ p.target) : p.qualifiedTarget schema = p.target := by
  rw [qualifiedTarget, if_neg]
  rintro ⟨-, -, hnone⟩
  exact hnone hdot

/-- The target of an object without a dot is written in the default schema. -/
theorem qualifiedTarget_of_no_dot (hkind : p.kind = .object) (hne : schema ≠ [])
    (hdot : '.' ∉ p.target) : p.qualifiedTarget schema = schema ++ '.' :: p.target := by
  rw [qualifiedTarget, if_pos ⟨hkind, hne, hdot⟩]

/-- Two privileges that differ in the target alone are written alike exactly if their targets are. -/
theorem render_object_eq_iff {name t u : Text} {grantable : Bool} :
    render ⟨.object, name, t, grantable⟩ schema = render ⟨.object, name, u, grantable⟩ schema ↔
      qualifiedTarget ⟨.object, name, t, grantable⟩ schema =
        qualifiedTarget ⟨.object, name, u, grantable⟩ schema := by
  constructor
  · intro hrender
    simp only [render] at hrender
    split at hrender
    · exact List.append_cancel_left (List.append_cancel_right hrender)
    · exact List.append_cancel_left hrender
  · intro htarget
    simp only [render, htarget]

/-- With a default schema the same object is read as without, but for the schema before it. -/
theorem parse_object_placed (hverb : Verb.isVerb verb = true)
    (hobject : Identifier.IsWritten isLetter object) (hne : schema ≠ [])
    (hstrip : stripWhiteSpace schema = schema) :
    ∃ name target, parse (PrivilegeKind.object.clause verb object) [] =
        .ok ⟨.object, name, target, false⟩ ∧
      parse (PrivilegeKind.object.clause verb object) schema =
        .ok ⟨.object, name, schema ++ '.' :: target, false⟩ ∧
      ('.' ∈ target ↔ '.' ∈ object) := by
  refine ⟨_, _, parse_object hverb hobject [], ?_,
    Identifier.dot_mem_stored_iff Form.isLetter_letter hobject⟩
  rw [parse_object hverb hobject schema, trimmed, stripWhiteSpace_inSchema hobject hne hstrip]
  rfl

/-- A grant on an object, read without a default schema and with one, is the same but for the schema
before its target. Both are written alike in that schema exactly if no dot stands in the object. -/
theorem qualified_alike_iff (hverb : Verb.isVerb verb = true)
    (hobject : Identifier.IsWritten isLetter object) (hne : schema ≠ [])
    (hstrip : stripWhiteSpace schema = schema) :
    ∃ p q, parse (PrivilegeKind.object.clause verb object) [] = .ok p ∧
      parse (PrivilegeKind.object.clause verb object) schema = .ok q ∧
      q = { p with target := schema ++ '.' :: p.target } ∧
      (p.render schema = q.render schema ↔ '.' ∉ object) := by
  obtain ⟨name, target, hlate, hearly, hdot⟩ := parse_object_placed hverb hobject hne hstrip
  refine ⟨_, _, hlate, hearly, rfl, ?_⟩
  have hplaced : qualifiedTarget ⟨.object, name, schema ++ '.' :: target, false⟩ schema =
      schema ++ '.' :: target := by
    apply qualifiedTarget_of_dot
    simp
  rw [render_object_eq_iff, hplaced, ← hdot]
  constructor
  · intro halike hmem
    rw [qualifiedTarget_of_dot hmem] at halike
    have hlength := congrArg List.length halike
    simp only [List.length_append, List.length_cons] at hlength
    omega
  · intro hnone
    exact qualifiedTarget_of_no_dot rfl hne hnone

/-- A quoted name with a blank and small letters is placed in the schema either way. -/
theorem qualified_alike_of_quoted_blank : ∃ p q,
    parse (PrivilegeKind.object.clause "select".toList "\"my table\"".toList) [] = .ok p ∧
      parse (PrivilegeKind.object.clause "select".toList "\"my table\"".toList) "SALES".toList =
        .ok q ∧
      q = { p with target := "SALES".toList ++ '.' :: p.target } ∧
      p.render "SALES".toList = q.render "SALES".toList := by
  obtain ⟨p, q, hp, hq, htarget, halike⟩ := @qualified_alike_iff "select".toList "SALES".toList
    "\"my table\"".toList (by decide)
    (show Identifier.IsWritten isLetter (Identifier.enquote "my table".toList) from
      .quoted (by decide))
    (by decide) (by decide)
  exact ⟨p, q, hp, hq, htarget, halike.mpr (by decide)⟩

/-- A quoted name with a dot is placed in the schema as it is read, but not as it is written. -/
theorem unplaced_of_dot_in_quotes :
    Verb.isVerb "SELECT".toList = true ∧ Identifier.IsWritten isLetter "\"a.b\"".toList ∧
    Identifier.isPlain "SALES".toList = true ∧
    ∃ p q, parse "SELECT ON \"a.b\"".toList [] = .ok p ∧
      parse "SELECT ON \"a.b\"".toList "SALES".toList = .ok q ∧
      p.render "SALES".toList = "SELECT ON \"a.b\"".toList ∧
      q.render "SALES".toList = "SELECT ON SALES.\"a.b\"".toList ∧
      p.render "SALES".toList ≠ q.render "SALES".toList :=
  ⟨by decide, show Identifier.IsWritten isLetter (Identifier.enquote "a.b".toList) from
      .quoted (by decide), by decide,
    ⟨.object, "SELECT".toList, "\"a.b\"".toList, false⟩,
    ⟨.object, "SELECT".toList, "SALES.\"a.b\"".toList, false⟩,
    by decide, by decide, rfl, rfl, by decide⟩

end Privilege

end AccessGrants
