import AccessGrants.Proofs.FormOverlap
import AccessGrants.Proofs.Reading

/-!
# The order of the forms

Two forms fit the same body only if they are the last two: a structured privilege whose target is a word
of letters is a verb as well. So the forms may be tried in any order that has the form for structured
privileges before the one for verbs alone, and in no other.

* `Form.eq_or_of_fits`: no two other forms fit the same body.
* `Form.firstFit_eq_some_iff`: the first form that fits, in any order.
* `Privilege.parse_of_forms_perm`: the orders of the forms that read every grant string alike.
-/

namespace AccessGrants

namespace Form

variable {form other first last : Form} {forms : List Form} {defaultSchema body : Text}

/-! ## Forms that fit -/

/-- A form fits a body if it reads it. The default schema does not matter to that. -/
def fits (form : Form) (body : Text) : Bool :=
  (form.read [] body).isSome

/-- The first of some forms that fits a body. -/
def firstFit (forms : List Form) (body : Text) : Option Form :=
  forms.find? fun form => form.fits body

/-- A form reads exactly the bodies that it fits, whatever the default schema. -/
theorem isSome_read (form : Form) (defaultSchema body : Text) :
    (form.read defaultSchema body).isSome = form.fits body := by
  have hverb : ∀ {f g : Text → Text} (target : Text → Option Text),
      (readVerb (fun t => (target t).map f) body).isSome =
        (readVerb (fun t => (target t).map g) body).isSome := by
    intro f g target
    unfold readVerb
    rcases Verb.splitOn body with _ | ⟨verb, rest⟩
    · rfl
    · simp only [Option.isSome_map]
  cases form with
  | object => exact hverb readIdentifier
  | _ => rfl

/-- A form that fits a body reads it in every default schema. -/
theorem exists_read_of_fits (h : form.fits body = true) (defaultSchema : Text) :
    ∃ parts, form.read defaultSchema body = some parts :=
  Option.isSome_iff_exists.mp ((isSome_read form defaultSchema body).trans h)

/-- No two forms fit the same body, but for the last two. -/
theorem eq_or_of_fits (h : form.fits body = true) (hother : other.fits body = true) :
    form = other ∨ (form = .structured ∧ other = .system) ∨
      (form = .system ∧ other = .structured) := by
  obtain ⟨_, hread⟩ := exists_read_of_fits h []
  obtain ⟨_, hreads⟩ := exists_read_of_fits hother []
  exact eq_or_of_read hread hreads

/-- A body is read by the first form that fits it. -/
theorem firstRead_eq_bind_firstFit (forms : List Form) (defaultSchema body : Text) :
    firstRead forms defaultSchema body = (firstFit forms body).bind fun form =>
      (form.read defaultSchema body).map fun parts => (form, parts) := by
  unfold firstRead firstFit
  induction forms with
  | nil => rfl
  | cons form forms ih =>
      have hfits := isSome_read form defaultSchema body
      rw [List.findSome?_cons, List.find?_cons]
      rcases hread : form.read defaultSchema body with _ | parts
      · rw [hread, Option.isSome_none] at hfits
        rw [← hfits]
        exact ih
      · rw [hread, Option.isSome_some] at hfits
        rw [← hfits]
        simp [hread]

/-! ## Orders of the forms -/

/-- A list that has no member twice and has one before the other has it in front of the other. -/
theorem mem_of_pair_sublist {before after : List Form} (hne : first ≠ last)
    (hnodup : (before ++ last :: after).Nodup)
    (h : [first, last].Sublist (before ++ last :: after)) : first ∈ before := by
  obtain ⟨u, v, huv, hu, hv⟩ := List.sublist_append_iff.mp h
  cases u with
  | cons d u =>
      rw [List.cons_append, List.cons.injEq] at huv
      rw [huv.1]
      exact hu.subset List.mem_cons_self
  | nil =>
      -- both stand behind, so the second one is a member twice
      rw [List.nil_append] at huv
      rw [← huv, List.sublist_cons_iff] at hv
      rcases hv with hv | ⟨r, hr, -⟩
      · have hmem : last ∈ after := hv.subset (List.mem_cons_of_mem _ List.mem_cons_self)
        rw [List.nodup_append, List.nodup_cons] at hnodup
        exact absurd hmem hnodup.2.1.1
      · exact absurd (List.cons.inj hr).1 hne

/-- Of two members of a list one stands before the other. -/
theorem pair_sublist_or {a b : Form} (ha : a ∈ forms) (hb : b ∈ forms) (hne : a ≠ b) :
    [a, b].Sublist forms ∨ [b, a].Sublist forms := by
  obtain ⟨before, after, rfl⟩ := List.append_of_mem ha
  rcases List.mem_append.mp hb with hbefore | hafter
  · right
    exact (List.singleton_sublist.mpr hbefore).append
      (List.singleton_sublist.mpr List.mem_cons_self)
  · left
    have hmem : b ∈ after := (List.mem_cons.mp hafter).resolve_left (Ne.symm hne)
    exact ((List.singleton_sublist.mpr hmem).cons_cons a).trans (List.sublist_append_right _ _)

/-- The first form that fits is the one that fits; if both of the last two do, it is the one of them
that is tried before the other. -/
theorem firstFit_eq_some_iff (hperm : forms.Perm all)
    (hpair : (first = .structured ∧ last = .system) ∨ (first = .system ∧ last = .structured))
    (horder : [first, last].Sublist forms) :
    firstFit forms body = some form ↔
      form.fits body = true ∧ (form = last → first.fits body = false) := by
  have hne : first ≠ last := by
    rcases hpair with ⟨rfl, rfl⟩ | ⟨rfl, rfl⟩ <;> decide
  have hnodup : forms.Nodup := hperm.nodup_iff.mpr (by decide)
  have hmem : ∀ f : Form, f ∈ forms := fun f => hperm.mem_iff.mpr (by cases f <;> decide)
  have hfirst : ∀ {f : Form}, firstFit forms body = some f →
      f.fits body = true ∧ (f = last → first.fits body = false) := by
    intro f hf
    obtain ⟨hfits, before, after, rfl, hbefore⟩ := List.find?_eq_some_iff_append.mp hf
    refine ⟨hfits, ?_⟩
    rintro rfl
    have hnot := hbefore first (mem_of_pair_sublist hne hnodup horder)
    simpa using hnot
  constructor
  · exact hfirst
  · rintro ⟨hfits, hlast⟩
    obtain ⟨f, hf⟩ : ∃ f, firstFit forms body = some f :=
      Option.isSome_iff_exists.mp (List.find?_isSome.mpr ⟨form, hmem form, hfits⟩)
    obtain ⟨hother, hotherLast⟩ := hfirst hf
    rw [hf]
    by_contra hdiffer
    have hdiffer : form ≠ f := fun heq => hdiffer (congrArg some heq.symm)
    -- the two forms are the last two, and the one that is tried later does not fit
    have htwo : (form = first ∧ f = last) ∨ (form = last ∧ f = first) := by
      rcases eq_or_of_fits hfits hother with heq | ⟨rfl, rfl⟩ | ⟨rfl, rfl⟩
      · exact absurd heq hdiffer
      · exact hpair.imp (fun h => ⟨h.1.symm, h.2.symm⟩) fun h => ⟨h.2.symm, h.1.symm⟩
      · exact hpair.symm.imp (fun h => ⟨h.1.symm, h.2.symm⟩) fun h => ⟨h.2.symm, h.1.symm⟩
    rcases htwo with ⟨rfl, rfl⟩ | ⟨rfl, rfl⟩
    · rw [hotherLast rfl] at hfits
      cases hfits
    · rw [hlast rfl] at hother
      cases hother

/-- An order that has structured privileges before verbs alone finds the same form as the listed one. -/
theorem firstFit_eq_of_perm (hperm : forms.Perm all)
    (horder : [.structured, .system].Sublist forms) (body : Text) :
    firstFit forms body = firstFit all body := by
  have hall : [Form.structured, Form.system].Sublist all := by decide
  have hpair : (Form.structured = .structured ∧ Form.system = .system) ∨
      (Form.structured = .system ∧ Form.system = .structured) := .inl ⟨rfl, rfl⟩
  refine Option.ext fun form => ?_
  rw [firstFit_eq_some_iff hperm hpair horder,
    firstFit_eq_some_iff (List.Perm.refl all) hpair hall]

end Form

/-! ## Reading grant strings -/

namespace Privilege

variable {forms : List Form}

/-- Reads a privilege by forms that are tried in some order. -/
def parseBy (forms : List Form) (raw defaultSchema : Text) : Except ParseError Privilege := do
  let (body, option) ← splitGrant raw
  ofBody forms raw defaultSchema body option

/-- Privileges are read by the forms in their own order. -/
theorem parse_eq_parseBy (raw defaultSchema : Text) :
    parse raw defaultSchema = parseBy Form.all raw defaultSchema := rfl

/-- Orders that find the same first form read every grant string alike, refusals included. -/
theorem parseBy_congr {others : List Form}
    (h : ∀ body, Form.firstFit forms body = Form.firstFit others body) (raw defaultSchema : Text) :
    parseBy forms raw defaultSchema = parseBy others raw defaultSchema := by
  unfold parseBy ofBody
  simp only [Form.firstRead_eq_bind_firstFit, h]

/-- A structured privilege on a word of letters is read as a verb by an order that tries verbs first. -/
theorem parseBy_of_system_first (hperm : forms.Perm Form.all)
    (horder : [.system, .structured].Sublist forms) :
    parseBy forms "STRUCTURED PRIVILEGE X".toList [] =
      .ok ⟨.system, "STRUCTURED PRIVILEGE X".toList, [], false⟩ := by
  have hfit : Form.firstFit forms "STRUCTURED PRIVILEGE X".toList = some .system :=
    (Form.firstFit_eq_some_iff hperm (.inr ⟨rfl, rfl⟩) horder).mpr ⟨by decide, nofun⟩
  have hsplit : splitGrant "STRUCTURED PRIVILEGE X".toList =
      .ok ("STRUCTURED PRIVILEGE X".toList, none) := by decide
  have hbody : ofBody forms "STRUCTURED PRIVILEGE X".toList [] "STRUCTURED PRIVILEGE X".toList none =
      .ok ⟨.system, "STRUCTURED PRIVILEGE X".toList, [], false⟩ := by
    unfold ofBody
    rw [Form.firstRead_eq_bind_firstFit, hfit]
    decide
  exact bind_eq_ok_iff.mpr ⟨_, hsplit, hbody⟩

/-- No two forms fit the same body, but for those of structured privileges and of verbs alone. So in
exactly the orders that have the former before the latter the first form that fits is the same for every
body, and every grant string is read alike. -/
theorem parse_of_forms_perm :
    (∀ (body : Text) (form other : Form), form.fits body = true → other.fits body = true →
      form = other ∨ (form = .structured ∧ other = .system) ∨
        (form = .system ∧ other = .structured)) ∧
    ∀ forms : List Form, forms.Perm Form.all →
      ([.structured, .system].Sublist forms →
        ∀ body, Form.firstFit forms body = Form.firstFit Form.all body) ∧
      ([.structured, .system].Sublist forms ↔
        ∀ raw defaultSchema, parseBy forms raw defaultSchema = parse raw defaultSchema) := by
  refine ⟨fun body form other => Form.eq_or_of_fits, fun forms hperm => ?_⟩
  have hsame := Form.firstFit_eq_of_perm hperm
  refine ⟨hsame, fun horder raw defaultSchema => ?_, fun hparse => ?_⟩
  · rw [parse_eq_parseBy, parseBy_congr (hsame horder)]
  · by_contra horder
    have hmem : ∀ form : Form, form ∈ forms := fun form =>
      hperm.mem_iff.mpr (by cases form <;> decide)
    have hreversed : [Form.system, Form.structured].Sublist forms :=
      (Form.pair_sublist_or (hmem .structured) (hmem .system) (by decide)).resolve_left horder
    have hread := hparse "STRUCTURED PRIVILEGE X".toList []
    have hstructured : parse "STRUCTURED PRIVILEGE X".toList [] =
        .ok ⟨.structured, "STRUCTURED PRIVILEGE".toList, "X".toList, false⟩ := by decide
    rw [parseBy_of_system_first hperm hreversed, hstructured] at hread
    cases hread

/-- Both of the last two forms fit a structured privilege on a word of letters, and trying them first, in
their order, reads every grant string as before. -/
theorem parse_of_last_forms_first :
    (Form.structured.fits "STRUCTURED PRIVILEGE X".toList = true ∧
      Form.system.fits "STRUCTURED PRIVILEGE X".toList = true ∧
      (Form.structured = .system ∨ (Form.structured = .structured ∧ Form.system = .system) ∨
        (Form.structured = .system ∧ Form.system = .structured))) ∧
    ∀ raw defaultSchema,
      parseBy [.structured, .system, .object, .qualifiedObject, .schema, .source, .columnKey,
        .usergroup] raw defaultSchema = parse raw defaultSchema := by
  have hstructured : Form.structured.fits "STRUCTURED PRIVILEGE X".toList = true := by decide
  have hsystem : Form.system.fits "STRUCTURED PRIVILEGE X".toList = true := by decide
  refine ⟨⟨hstructured, hsystem, parse_of_forms_perm.1 _ _ _ hstructured hsystem⟩, ?_⟩
  exact ((parse_of_forms_perm.2 [.structured, .system, .object, .qualifiedObject, .schema, .source,
    .columnKey, .usergroup] (by decide)).2.mp (by decide))

end Privilege

end AccessGrants
