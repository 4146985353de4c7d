import AccessGrants.Pass
import Mathlib.Data.List.Forall2

/-!
# Reading lists of grant strings

A list is read entry by entry up to the first that is refused, so a list that is read has a
reading for each entry and nothing else.

* `mapM_eq_ok_iff` says so for any reader, entry beside entry; `mem_of_mapM_eq_ok` and
  `exists_mapM_eq_ok` are the two halves that later proofs use, `exists_mapM_append_iff` joins them
  for two lists. `mapM_eq_error_iff` says where and how a list is refused.
* `Privilege.mem_parseAll`, `Role.mem_parseAll`: the members of a list of privileges or roles.
* `Privilege.mem_canonicalStrings`, `Role.mem_canonicalStrings`: the members of a list in canonical
  form.
* `Spec.desiredGrants_eq_ok_iff`: when a specification has desired grants, and which.
-/

namespace AccessGrants

/-! ## Any reader -/

section mapM

variable {α β ε : Type} {f : α → Except ε β}

/-- A computation that goes on after a first one succeeds if both do. -/
theorem bind_eq_ok_iff {γ : Type} {x : Except ε α} {g : α → Except ε γ} {c : γ} :
    x >>= g = .ok c ↔ ∃ a, x = .ok a ∧ g a = .ok c := by
  cases x with
  | error e => simp [bind, Except.bind]
  | ok a => simp [bind, Except.bind]

/-- It fails if the first one does, or the one that goes on. -/
theorem bind_eq_error_iff {γ : Type} {x : Except ε α} {g : α → Except ε γ} {e : ε} :
    x >>= g = .error e ↔ x = .error e ∨ ∃ a, x = .ok a ∧ g a = .error e := by
  cases x with
  | error e => simp [bind, Except.bind]
  | ok a => simp [bind, Except.bind]

/-- What is made of a value in the end cannot fail. -/
theorem bind_pure_eq_error_iff {x : Except ε α} {g : α → β} {e : ε} :
    (x >>= fun a => pure (g a)) = .error e ↔ x = .error e := by
  cases x with
  | error e => simp [bind, Except.bind]
  | ok a => simp [bind, Except.bind, pure, Except.pure]

/-- Other words for its errors do not matter to a success. -/
theorem mapError_eq_ok_iff {δ : Type} {x : Except ε α} {g : ε → δ} {a : α} :
    x.mapError g = .ok a ↔ x = .ok a := by
  cases x with
  | error e => simp [Except.mapError]
  | ok b => simp [Except.mapError]

/-- Nor does a change of the value matter to whether there is one. -/
@[simp] theorem isOk_map {x : Except ε α} {g : α → β} : (x.map g).isOk = x.isOk := by
  cases x <;> rfl

@[simp] theorem isOk_mapError {δ : Type} {x : Except ε α} {g : ε → δ} :
    (x.mapError g).isOk = x.isOk := by
  cases x <;> rfl

/-- A list is read exactly if each entry is, and the readings stand in the order of the entries. -/
theorem mapM_eq_ok_iff {xs : List α} {ys : List β} :
    xs.mapM f = .ok ys ↔ List.Forall₂ (fun x y => f x = .ok y) xs ys := by
  induction xs generalizing ys with
  | nil =>
      rw [List.mapM_nil, List.forall₂_nil_left_iff]
      constructor
      · rintro ⟨⟩
        rfl
      · rintro rfl
        rfl
  | cons x xs ih =>
      rw [List.mapM_cons, bind_eq_ok_iff, List.forall₂_cons_left_iff]
      constructor
      · rintro ⟨y, hy, h⟩
        obtain ⟨rest, hrest, h⟩ := bind_eq_ok_iff.mp h
        cases h
        exact ⟨y, rest, hy, ih.mp hrest, rfl⟩
      · rintro ⟨y, rest, hy, hrest, rfl⟩
        exact ⟨y, hy, bind_eq_ok_iff.mpr ⟨rest, ih.mpr hrest, rfl⟩⟩

/-- The readings of a list are the readings of its entries. -/
theorem mem_of_mapM_eq_ok {xs : List α} {ys : List β} (h : xs.mapM f = .ok ys) {y : β} :
    y ∈ ys ↔ ∃ x ∈ xs, f x = .ok y := by
  have h₂ := mapM_eq_ok_iff.mp h
  induction h₂ with
  | nil => simp
  | @cons x z xs ys hz hrest ih =>
      have hx : f x = .ok y ↔ y = z := by
        rw [hz, Except.ok.injEq, eq_comm]
      simp [hx, ih (mapM_eq_ok_iff.mpr hrest)]

/-- Every entry of a list that is read has a reading. -/
theorem exists_of_mapM_eq_ok {xs : List α} {ys : List β} (h : xs.mapM f = .ok ys) {x : α}
    (hx : x ∈ xs) : ∃ y ∈ ys, f x = .ok y := by
  have h₂ := mapM_eq_ok_iff.mp h
  induction h₂ with
  | nil => simp at hx
  | @cons x' z xs ys hz hrest ih =>
      rcases List.mem_cons.mp hx with rfl | hx'
      · exact ⟨z, List.mem_cons_self, hz⟩
      · obtain ⟨y, hy, hfy⟩ := ih (mapM_eq_ok_iff.mpr hrest) hx'
        exact ⟨y, List.mem_cons_of_mem _ hy, hfy⟩

/-- A list of which each entry has a reading is read. -/
theorem exists_mapM_eq_ok {xs : List α} (h : ∀ x ∈ xs, ∃ y, f x = .ok y) :
    ∃ ys, xs.mapM f = .ok ys := by
  induction xs with
  | nil => exact ⟨[], rfl⟩
  | cons x xs ih =>
      obtain ⟨y, hy⟩ := h x List.mem_cons_self
      obtain ⟨ys, hys⟩ := ih fun a ha => h a (List.mem_cons_of_mem _ ha)
      exact ⟨y :: ys, mapM_eq_ok_iff.mpr (.cons hy (mapM_eq_ok_iff.mp hys))⟩

/-- Two lists are read exactly if each entry of either is. -/
theorem exists_mapM_append_iff {xs xs' : List α} :
    (∃ ys ys', xs.mapM f = .ok ys ∧ xs'.mapM f = .ok ys') ↔ ∀ x ∈ xs ++ xs', ∃ y, f x = .ok y := by
  constructor
  · rintro ⟨ys, ys', hys, hys'⟩ x hx
    rcases List.mem_append.mp hx with hx | hx
    · exact (exists_of_mapM_eq_ok hys hx).imp fun _ => And.right
    · exact (exists_of_mapM_eq_ok hys' hx).imp fun _ => And.right
  · intro hread
    obtain ⟨ys, hys⟩ := exists_mapM_eq_ok fun x hx => hread x (List.mem_append_left _ hx)
    obtain ⟨ys', hys'⟩ := exists_mapM_eq_ok fun x hx => hread x (List.mem_append_right _ hx)
    exact ⟨ys, ys', hys, hys'⟩

/-- A list with one more entry is read if the entry is. -/
theorem mapM_concat_eq_ok {xs : List α} {ys : List β} {x : α} {y : β} (h : xs.mapM f = .ok ys)
    (hx : f x = .ok y) : (xs ++ [x]).mapM f = .ok (ys ++ [y]) :=
  mapM_eq_ok_iff.mpr (List.rel_append (mapM_eq_ok_iff.mp h) (.cons hx .nil))

/-- A list is refused exactly if an entry is, and with the error of the first one. -/
theorem mapM_eq_error_iff {xs : List α} {e : ε} : xs.mapM f = .error e ↔
    ∃ before x after, xs = before ++ x :: after ∧ (∃ ys, before.mapM f = .ok ys) ∧
      f x = .error e := by
  induction xs with
  | nil =>
      rw [List.mapM_nil]
      constructor
      · nofun
      · rintro ⟨before, x, after, hxs, -⟩
        simp at hxs
  | cons x xs ih =>
      rw [List.mapM_cons, bind_eq_error_iff]
      constructor
      · rintro (hx | ⟨y, hy, h⟩)
        · exact ⟨[], x, xs, rfl, ⟨[], rfl⟩, hx⟩
        · rcases bind_eq_error_iff.mp h with hrest | ⟨ys, -, hlast⟩
          · obtain ⟨before, x', after, rfl, ⟨ys, hys⟩, hx'⟩ := ih.mp hrest
            have hbefore : (x :: before).mapM f = .ok (y :: ys) :=
              mapM_eq_ok_iff.mpr (.cons hy (mapM_eq_ok_iff.mp hys))
            exact ⟨x :: before, x', after, rfl, ⟨_, hbefore⟩, hx'⟩
          · cases hlast
      · rintro ⟨before, x', after, hxs, ⟨ys, hys⟩, hx'⟩
        cases before with
        | nil =>
            rw [List.nil_append, List.cons.injEq] at hxs
            rw [hxs.1]
            exact .inl hx'
        | cons z before =>
            rw [List.cons_append, List.cons.injEq] at hxs
            obtain ⟨rfl, rfl⟩ := hxs
            rw [mapM_eq_ok_iff, List.forall₂_cons_left_iff] at hys
            obtain ⟨y, rest, hy, hrest, rfl⟩ := hys
            refine .inr ⟨y, hy, bind_eq_error_iff.mpr (.inl ?_)⟩
            exact ih.mpr ⟨before, x', after, rfl, ⟨rest, mapM_eq_ok_iff.mpr hrest⟩, hx'⟩

/-- What does not fail succeeds. -/
theorem exists_error_iff {x : Except ε α} : (∃ e, x = .error e) ↔ ¬ ∃ a, x = .ok a := by
  cases x with
  | error e => simp
  | ok a => simp

end mapM

/-! ## Privileges and roles -/

/-- The privileges of a list that is read. -/
theorem Privilege.mem_parseAll {raws : List Text} {defaultSchema : Text}
    {privileges : List Privilege} (h : parseAll raws defaultSchema = .ok privileges)
    {p : Privilege} : p ∈ privileges ↔ ∃ raw ∈ raws, parse raw defaultSchema = .ok p :=
  mem_of_mapM_eq_ok h

/-- The roles of a list that is read. -/
theorem Role.mem_parseAll {raws : List Text} {roles : List Role} (h : parseAll raws = .ok roles)
    {r : Role} : r ∈ roles ↔ ∃ raw ∈ raws, parse raw = .ok r :=
  mem_of_mapM_eq_ok h

/-- The canonical forms of a list of privileges. -/
theorem Privilege.mem_canonicalStrings {raws canonical : List Text} {defaultSchema : Text}
    (h : canonicalStrings raws defaultSchema = .ok canonical) {t : Text} :
    t ∈ canonical ↔
      ∃ raw ∈ raws, ∃ p, parse raw defaultSchema = .ok p ∧ p.render defaultSchema = t := by
  obtain ⟨privileges, hall, hmap⟩ := bind_eq_ok_iff.mp h
  cases hmap
  rw [List.mem_map]
  constructor
  · rintro ⟨p, hp, rfl⟩
    obtain ⟨raw, hraw, hparse⟩ := (mem_parseAll hall).mp hp
    exact ⟨raw, hraw, p, hparse, rfl⟩
  · rintro ⟨raw, hraw, p, hparse, rfl⟩
    exact ⟨p, (mem_parseAll hall).mpr ⟨raw, hraw, hparse⟩, rfl⟩

/-- The canonical forms of a list of roles. -/
theorem Role.mem_canonicalStrings {raws canonical : List Text}
    (h : canonicalStrings raws = .ok canonical) {t : Text} :
    t ∈ canonical ↔ ∃ raw ∈ raws, ∃ r, parse raw = .ok r ∧ r.render = t := by
  obtain ⟨roles, hall, hmap⟩ := bind_eq_ok_iff.mp h
  cases hmap
  rw [List.mem_map]
  constructor
  · rintro ⟨r, hr, rfl⟩
    obtain ⟨raw, hraw, hparse⟩ := (mem_parseAll hall).mp hr
    exact ⟨raw, hraw, r, hparse, rfl⟩
  · rintro ⟨raw, hraw, r, hparse, rfl⟩
    exact ⟨r, (mem_parseAll hall).mpr ⟨raw, hraw, hparse⟩, rfl⟩

/-- A specification has desired grants if its privileges and its roles, with the implicit ones, are
read. -/
theorem Spec.desiredGrants_eq_ok_iff {spec : Spec} {privileges roles : List Text} :
    spec.desiredGrants = .ok (privileges, roles) ↔
      Privilege.canonicalStrings spec.grantsWithDefaults.1 spec.defaultSchema = .ok privileges ∧
        Role.canonicalStrings spec.grantsWithDefaults.2 = .ok roles := by
  unfold desiredGrants
  constructor
  · intro h
    obtain ⟨ps, hps, h⟩ := bind_eq_ok_iff.mp h
    obtain ⟨rs, hrs, h⟩ := bind_eq_ok_iff.mp h
    cases h
    exact ⟨hps, hrs⟩
  · rintro ⟨hps, hrs⟩
    exact bind_eq_ok_iff.mpr ⟨privileges, hps, bind_eq_ok_iff.mpr ⟨roles, hrs, rfl⟩⟩

end AccessGrants
