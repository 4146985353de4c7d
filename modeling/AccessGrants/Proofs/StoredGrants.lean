import AccessGrants.Proofs.FormOverlap
import AccessGrants.Proofs.Reading
import AccessGrants.Proofs.RoundTrip
import AccessGrants.Proofs.StoredNames

/-!
# Privileges as they are read

Whatever text a privilege is read from, its name is a verb in upper case and its target has the shape
of its kind. So it is a stored privilege, unless it is one on an object whose schema is torn from the
dot by a line feed.

* `Form.Reads`, `Form.reads_of_read`: what a form reads.
* `Privilege.exists_read_of_parse`: a grant string that is read is split, and its body is read by one
  form.
* `Privilege.IsTorn`: the exception.
* `Privilege.stored_or_torn_of_parse`: what is read is stored or torn.
-/

namespace AccessGrants

open Text Layout

namespace Form

variable {form : Form} {defaultSchema body phrase t i name target : Text}

/-! ## What a form reads -/

/-- What is read after a phrase is an identifier whose characters stand in the text. -/
theorem exists_of_readTarget (h : readTarget phrase t = some target) :
    target ⊆ t ∧ ∃ i, Identifier.IsWritten isLetter i ∧ target = Identifier.canonical i := by
  obtain ⟨w, rest, i, rfl, -, hread, rfl⟩ := exists_append_of_readTarget h
  refine ⟨fun c hc => ?_, i, (Identifier.isWritten_of_whole hread).1, rfl⟩
  exact List.mem_append_right _ (Identifier.mem_of_whole hread hc)

/-- What is read of a body with a verb is its verb and a target after `ON`. -/
theorem exists_of_readVerb {read : Text → Option Text}
    (h : readVerb read body = some (name, target)) :
    Verb.IsStored name ∧ ∃ rest, rest ⊆ body ∧ read rest = some target := by
  obtain ⟨v, rest, hsplit, ht, rfl⟩ := exists_splitOn_of_readVerb h
  obtain ⟨hverb, o, -, rfl⟩ := Verb.splitOn_eq_some_iff.mp hsplit
  refine ⟨Verb.isStored_upper hverb, rest, fun c hc => ?_, ht⟩
  simp [hc]

/-- The targets that a form reads, before white space is left out. -/
def IsTarget (defaultSchema : Text) : Form → Text → Prop
  | .system, t => t = []
  | .qualifiedObject, t => ∃ i j, Identifier.IsWritten isLetter i ∧
    Identifier.IsWritten isLetter j ∧ t = Identifier.canonical i ++ '.' :: Identifier.canonical j
  | .object, t => ∃ i, Identifier.IsWritten isLetter i ∧
    t = inSchema defaultSchema (Identifier.canonical i)
  | _, t => ∃ i, Identifier.IsWritten isLetter i ∧ t = Identifier.canonical i

/-- What a form reads of a body. A line feed in the target comes from the body or from the default
schema, and a system privilege is named by the whole body. -/
structure Reads (form : Form) (defaultSchema body name target : Text) : Prop where
  verb : Verb.IsStored name
  fixedVerb : ∀ fixed, form.kind.fixedName? = some fixed → name = fixed
  isTarget : form.IsTarget defaultSchema target
  line : '\n' ∉ body → '\n' ∉ defaultSchema → '\n' ∉ target
  wholeBody : form = .system →
    Verb.isVerb (dropFinalNewline body) = true ∧ name = upper (dropFinalNewline body)

/-- A form with a fixed name reads an identifier after its phrase. -/
theorem reads_of_readTarget {fixed : Text} (hkind : form.kind.fixedName? = some fixed)
    (hfixed : Verb.IsStored fixed) (hform : ∀ i, Identifier.IsWritten isLetter i →
      form.IsTarget defaultSchema (Identifier.canonical i)) (hsystem : form ≠ .system)
    (h : (readTarget phrase body).map (fun target => (fixed, target)) = some (name, target)) :
    form.Reads defaultSchema body name target := by
  obtain ⟨t, ht, hparts⟩ := Option.map_eq_some_iff.mp h
  cases hparts
  obtain ⟨hsub, i, hi, rfl⟩ := exists_of_readTarget ht
  refine ⟨hfixed, fun other hother => ?_, hform i hi, fun hline _ hmem => hline (hsub hmem),
    fun h => absurd h hsystem⟩
  rw [hkind] at hother
  exact Option.some.inj hother

/-- A form with a verb and one identifier after a phrase. -/
theorem reads_of_readVerb (hkind : form.kind.fixedName? = none)
    (hform : ∀ i, Identifier.IsWritten isLetter i →
      form.IsTarget defaultSchema (Identifier.canonical i)) (hsystem : form ≠ .system)
    (h : readVerb (readTarget phrase) body = some (name, target)) :
    form.Reads defaultSchema body name target := by
  obtain ⟨hname, rest, hrest, ht⟩ := exists_of_readVerb h
  obtain ⟨hsub, i, hi, rfl⟩ := exists_of_readTarget ht
  refine ⟨hname, fun other hother => ?_, hform i hi,
    fun hline _ hmem => hline (hrest (hsub hmem)), fun h => absurd h hsystem⟩
  rw [hkind] at hother
  cases hother

/-- What a form reads has its name and its target. -/
theorem reads_of_read (h : form.read defaultSchema body = some (name, target)) :
    form.Reads defaultSchema body name target := by
  cases form with
  | usergroup =>
      exact reads_of_readTarget rfl ⟨by decide, by decide⟩ (fun i hi => ⟨i, hi, rfl⟩) (by decide) h
  | columnKey =>
      exact reads_of_readTarget rfl ⟨by decide, by decide⟩ (fun i hi => ⟨i, hi, rfl⟩) (by decide) h
  | structured =>
      exact reads_of_readTarget rfl ⟨by decide, by decide⟩ (fun i hi => ⟨i, hi, rfl⟩) (by decide) h
  | source => exact reads_of_readVerb rfl (fun i hi => ⟨i, hi, rfl⟩) (by decide) h
  | schema => exact reads_of_readVerb rfl (fun i hi => ⟨i, hi, rfl⟩) (by decide) h
  | qualifiedObject =>
      obtain ⟨hname, rest, hrest, ht⟩ := exists_of_readVerb h
      obtain ⟨⟨i, j⟩, hread, rfl⟩ := Option.map_eq_some_iff.mp ht
      obtain ⟨hi, hj, -⟩ := Identifier.isWritten_of_qualified hread
      refine ⟨hname, fun _ h => absurd h.symm (Option.some_ne_none _), ⟨i, j, hi, hj, rfl⟩,
        fun hline _ hmem => ?_, fun h => absurd h (by decide)⟩
      exact hline (hrest (Identifier.mem_of_qualified hread hmem))
  | object =>
      obtain ⟨hname, rest, hrest, ht⟩ := exists_of_readVerb h
      obtain ⟨i, hread, rfl⟩ := Option.map_eq_some_iff.mp ht
      have hi := (Identifier.isWritten_of_whole hread).1
      refine ⟨hname, fun _ h => absurd h.symm (Option.some_ne_none _), ⟨i, hi, rfl⟩,
        fun hline hschema hmem => ?_, fun h => absurd h (by decide)⟩
      have hobject : '\n' ∉ Identifier.canonical i := fun hmem =>
        hline (hrest (Identifier.mem_of_whole hread hmem))
      unfold inSchema at hmem
      split at hmem
      · exact hobject hmem
      · rw [List.mem_append, List.mem_cons] at hmem
        rcases hmem with hmem | hmem | hmem
        · exact hschema hmem
        · exact absurd hmem (by decide)
        · exact hobject hmem
  | system =>
      rw [read] at h
      split at h
      · next hverb =>
        cases h
        exact ⟨Verb.isStored_upper hverb, fun _ h => absurd h.symm (Option.some_ne_none _), rfl,
          fun _ _ => List.not_mem_nil, fun _ => ⟨hverb, rfl⟩⟩
      · cases h

/-- A line feed at the end of a body does not keep the form for structured privileges from reading
it. -/
theorem read_structured_dropFinalNewline (hverb : Verb.isVerb (dropFinalNewline body) = true)
    (h : Form.structured.read defaultSchema body = none) :
    Form.structured.read defaultSchema (dropFinalNewline body) = none := by
  rcases eq_or_eq_append_of_dropFinalNewline body with heq | heq
  · rwa [← heq]
  · rw [Option.eq_none_iff_forall_ne_some]
    intro parts hread
    obtain ⟨target, htarget, -⟩ := Option.map_eq_some_iff.mp hread
    generalize dropFinalNewline body = v at hverb heq htarget
    obtain ⟨w, rest, i, rfl, hw, hwhole, -⟩ := exists_append_of_readTarget htarget
    -- a verb has no line feed, so the identifier is all that is left of it
    obtain ⟨hi, rfl | rfl⟩ := Identifier.isWritten_of_whole hwhole
    · have hdrop : dropPhrase "STRUCTURED PRIVILEGE ".toList body = some (rest ++ ['\n']) :=
        dropPhrase_eq_some_iff.mpr ⟨w, by rw [heq, List.append_assoc], hw⟩
      rw [read, readTarget, hdrop] at h
      dsimp only at h
      rw [readIdentifier, hi.whole_append_newline isLetter_letter] at h
      cases h
    · rcases Verb.isLetter_or_blank hverb (c := '\n') (by simp) with hletter | hblank
      · exact absurd hletter (by decide)
      · exact absurd hblank (by decide)

/-! ## What is stored of a target -/

/-- The target that a form reads is stored, or it is an object whose schema is torn from the dot. A
default schema is put before every object that has none. -/
theorem stored_or_torn_of_isTarget
    (hschema : defaultSchema = [] ∨ Identifier.IsUpperName defaultSchema)
    (h : form.IsTarget defaultSchema t) :
    (form.kind.IsStoredTarget (stripWhiteSpace t) ∧ (form.kind = .object →
      Identifier.IsStored isLetter (stripWhiteSpace t) → defaultSchema = [])) ∨
        form.kind = .object ∧ Identifier.IsTorn isLetter (stripWhiteSpace t) := by
  have hone : ∀ {i : Text}, Identifier.IsWritten isLetter i →
      Identifier.IsStored isLetter (stripWhiteSpace (Identifier.canonical i)) := fun hi =>
    Identifier.stripWhiteSpace_canonical isLetter_letter hi
  have htwo : ∀ {i j : Text}, Identifier.IsWritten isLetter i → Identifier.IsWritten isLetter j →
      t = Identifier.canonical i ++ '.' :: Identifier.canonical j →
      (Identifier.IsStoredPath isLetter (stripWhiteSpace t) ∧
        ¬ Identifier.IsStored isLetter (stripWhiteSpace t)) ∨
          Identifier.IsTorn isLetter (stripWhiteSpace t) := by
    rintro i j hi hj rfl
    exact Identifier.stripWhiteSpace_pair isLetter_letter hi hj
  cases form with
  | system =>
      obtain rfl : t = [] := h
      exact .inl ⟨rfl, fun h => absurd h (by decide)⟩
  | qualifiedObject =>
      obtain ⟨i, j, hi, hj, heq⟩ := h
      rcases htwo hi hj heq with ⟨hstored, hnot⟩ | htorn
      · exact .inl ⟨hstored, fun _ h => absurd h hnot⟩
      · exact .inr ⟨rfl, htorn⟩
  | object =>
      obtain ⟨i, hi, heq⟩ := h
      rcases hschema with rfl | hupper
      · rw [inSchema, if_pos rfl] at heq
        rw [heq]
        exact .inl ⟨.inl (hone hi), fun _ _ => rfl⟩
      · have hschema := hupper.isStored isLetter_letter
        have hne : defaultSchema ≠ [] := by
          rintro rfl
          exact hupper.isPlainName
        rw [inSchema, if_neg hne, ← hschema.canonical] at heq
        rcases htwo hschema.written hi heq with ⟨hstored, hnot⟩ | htorn
        · exact .inl ⟨hstored, fun _ h => absurd h hnot⟩
        · exact .inr ⟨rfl, htorn⟩
  | _ =>
      obtain ⟨i, hi, rfl⟩ := h
      exact .inl ⟨hone hi, fun h => absurd h (by decide)⟩

end Form

/-! ## What is stored of a privilege -/

namespace Privilege

variable {p : Privilege} {raw defaultSchema : Text}

/-- A grant string that is read is split into a body and the option of its kind or none, and one form
reads the body first. -/
theorem exists_read_of_parse (h : parse raw defaultSchema = .ok p) :
    ∃ (form : Form) (body name target : Text) (grantable : Bool),
      splitGrant raw = .ok (body, if grantable then some form.kind.grantOption else none) ∧
      Form.firstRead Form.all defaultSchema body = some (form, name, target) ∧
      p = trimmed form.kind name target grantable := by
  obtain ⟨⟨body, option⟩, hsplit, hbody⟩ := bind_eq_ok_iff.mp h
  dsimp only at hbody
  unfold ofBody at hbody
  split at hbody
  · cases hbody
  · split at hbody
    · cases hbody
    · next form name target hread =>
      split at hbody
      · cases hbody
        exact ⟨form, body, name, target, false, hsplit, hread, rfl⟩
      · split at hbody
        · next hoption =>
          cases hbody
          exact ⟨form, body, name, target, true, by rw [hsplit, hoption]; rfl, hread, rfl⟩
        · cases hbody

/-- A privilege on an object whose schema is torn from the dot by a line feed. -/
structure IsTorn (p : Privilege) : Prop where
  kind : p.kind = .object
  name : Verb.IsStored p.name
  target : Identifier.IsTorn isLetter p.target
  plain : p.grantable = false

/-- A privilege that is read is stored, or its target is torn. In a default schema it is no object
without a schema. -/
theorem stored_or_torn_of_parse
    (hschema : defaultSchema = [] ∨ Identifier.IsUpperName defaultSchema)
    (h : parse raw defaultSchema = .ok p) :
    (p.IsStored ∧ (p.kind = .object → Identifier.IsStored isLetter p.target →
      defaultSchema = [])) ∨ p.IsTorn := by
  obtain ⟨form, body, name, target, grantable, hsplit, hfirst, hp⟩ := exists_read_of_parse h
  obtain ⟨hread, hlast⟩ := Form.firstRead_eq_some_iff.mp hfirst
  have hreads := Form.reads_of_read hread
  have hname : stripWhiteSpace name = name := (Verb.solid hreads.verb.verb).stripWhiteSpace_eq
  obtain rfl : p = ⟨form.kind, name, stripWhiteSpace target, grantable⟩ := by
    rw [hp, trimmed, hname]
  -- a grantable privilege is read from one line
  have hline : grantable = true → '\n' ∉ stripWhiteSpace target := by
    rintro rfl hmem
    have hdefault : '\n' ∉ defaultSchema := by
      rcases hschema with rfl | hupper
      · exact List.not_mem_nil
      · exact hupper.2
    exact hreads.line (line_of_splitGrant hsplit) hdefault (mem_of_mem_trim hmem)
  rcases Form.stored_or_torn_of_isTarget hschema hreads.isTarget with
    ⟨hstored, hobject⟩ | ⟨hkind, htorn⟩
  · refine .inl ⟨⟨hreads.verb, hreads.fixedVerb, hstored, hline, ?_, ?_⟩, hobject⟩
    · intro hkind
      obtain rfl : form = .system := by
        cases form <;> first | rfl | cases hkind
      obtain ⟨hverb, hupper⟩ := hreads.wholeBody rfl
      have hstructured := Form.read_structured_dropFinalNewline hverb (hlast rfl)
      have hall := (Form.read_structured_eq_none_iff hverb).mp hstructured
      dsimp only
      rw [hupper, map_fold_upper]
      exact hall
    · rintro hkind rfl
      obtain rfl : form = .system := by
        cases form <;> first | rfl | cases hkind
      obtain ⟨hverb, hupper⟩ := hreads.wholeBody rfl
      have hfeed : '\n' ∉ dropFinalNewline body := fun hmem =>
        absurd (Verb.isLetter_or_blank hverb hmem) (by decide)
      dsimp only
      rw [hupper, map_fold_upper, splitBy_map_fold]
      exact no_option_of_splitGrant hsplit hfeed
  · refine .inr ⟨hkind, hreads.verb, htorn, ?_⟩
    rw [← Bool.not_eq_true]
    intro hgrantable
    exact hline hgrantable htorn.mem

end Privilege

end AccessGrants
