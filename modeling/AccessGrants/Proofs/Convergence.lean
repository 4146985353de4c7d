import AccessGrants.Proofs.Held

/-!
# Passes converge

A database that does what its statements say holds after one pass what is desired, and under the lax
policy also what the pass does not own. A second pass then finds nothing to do.

* `Legible`: desired and held grants are written so that they can be told apart: each is read back
  from its text, and no two differ in the option alone.
* `Legible.after_iff`: what an update leaves of a legible grantee, for privileges and roles alike.
* `Pass.exists_plan`: a pass over a legible grantee has a plan.
* `Pass.converges`: one pass converges, and the next one is without effect.
-/

namespace AccessGrants

/-! ## Legible grants -/

section legible

variable {α ε : Type}

/-- A grant that one of some texts says. -/
def NamedIn (read : Text → Except ε α) (desired : List Text) (a : α) : Prop :=
  ∃ x ∈ desired, read x = .ok a

/-- Desired and held grants can be told apart by their texts: a desired text is that of the grant
that it says, a held grant is read back from its text, and of desired and held grants no two differ
in the option alone. -/
structure Legible (read : Text → Except ε α) (text : α → Text) (same : α → α → Prop)
    (desired : List Text) (held : Finset α) : Prop where
  reads_desired : ∀ x ∈ desired, ∃ a, read x = .ok a ∧ text a = x
  reads_held : ∀ a ∈ held, read (text a) = .ok a
  eq_of_same : ∀ a b, a ∈ held ∨ NamedIn read desired a → b ∈ held ∨ NamedIn read desired b →
    same a b → a = b

namespace Legible

variable {read : Text → Except ε α} {text : α → Text} {same : α → α → Prop}
  {desired owned : List Text} {held : Finset α} {a : α} {x : Text}

/-- A desired text is the text of the grant that it says. -/
theorem text_eq (h : Legible read text same desired held) (hx : x ∈ desired)
    (hread : read x = .ok a) : text a = x := by
  obtain ⟨b, hb, hbx⟩ := h.reads_desired x hx
  rw [hread] at hb
  cases hb
  exact hbx

/-- The text of a desired grant is desired. -/
theorem text_mem (h : Legible read text same desired held) (ha : NamedIn read desired a) :
    text a ∈ desired := by
  obtain ⟨x, hx, hread⟩ := ha
  rwa [h.text_eq hx hread]

/-- A text is desired exactly if it is that of a desired grant. -/
theorem exists_named_iff (h : Legible read text same desired held) :
    (∃ a, NamedIn read desired a ∧ text a = x) ↔ x ∈ desired := by
  constructor
  · rintro ⟨a, ha, rfl⟩
    exact h.text_mem ha
  · intro hx
    obtain ⟨a, ha, hax⟩ := h.reads_desired x hx
    exact ⟨a, ⟨x, hx, ha⟩, hax⟩

/-- A desired grant is held if its text is that of something held. -/
theorem mem_held_of_text (h : Legible read text same desired held) (ha : NamedIn read desired a)
    (htext : ∃ b ∈ held, text b = text a) : a ∈ held := by
  obtain ⟨x, hx, hread⟩ := ha
  obtain ⟨b, hb, hba⟩ := htext
  have hb' := h.reads_held b hb
  rw [hba, h.text_eq hx hread, hread] at hb'
  cases hb'
  exact hb

/-- Desired texts and texts of what is held are read. -/
theorem exists_reading (h : Legible read text same desired held)
    (hx : x ∈ desired ∨ ∃ b ∈ held, text b = x) : ∃ a, read x = .ok a := by
  rcases hx with hx | ⟨b, hb, rfl⟩
  · obtain ⟨a, ha, -⟩ := h.reads_desired x hx
    exact ⟨a, ha⟩
  · exact ⟨b, h.reads_held b hb⟩

section update

variable {granted revoked : List α}

/-- What an update revokes is held, and neither the policy nor a desired text protects it. -/
theorem revoked_iff (h : Legible read text same desired held)
    (howned : ∀ x ∈ owned, ∃ b ∈ held, text b = x)
    (hrevoked : ∀ a, a ∈ revoked ↔ ∃ x, (x ∈ owned ∧ x ∉ desired) ∧ read x = .ok a) :
    a ∈ revoked ↔ a ∈ held ∧ text a ∈ owned ∧ text a ∉ desired := by
  rw [hrevoked]
  constructor
  · rintro ⟨x, ⟨hx, hnew⟩, hxa⟩
    obtain ⟨b, hb, rfl⟩ := howned x hx
    rw [h.reads_held b hb] at hxa
    cases hxa
    exact ⟨hb, hx, hnew⟩
  · rintro ⟨ha, hown, hnew⟩
    exact ⟨text a, ⟨hown, hnew⟩, h.reads_held a ha⟩

/-- What an update grants is desired, and nothing that is owned has its text. -/
theorem granted_iff (h : Legible read text same desired held)
    (hgranted : ∀ a, a ∈ granted ↔ ∃ x, (x ∈ desired ∧ x ∉ owned) ∧ read x = .ok a) :
    a ∈ granted ↔ NamedIn read desired a ∧ text a ∉ owned := by
  rw [hgranted]
  constructor
  · rintro ⟨x, ⟨hx, hnew⟩, hxa⟩
    exact ⟨⟨x, hx, hxa⟩, by rwa [h.text_eq hx hxa]⟩
  · rintro ⟨⟨x, hx, hxa⟩, hnew⟩
    rw [h.text_eq hx hxa] at hnew
    exact ⟨x, ⟨hx, hnew⟩, hxa⟩

/-- An update that grants what is desired and not owned, and revokes what is owned and not desired,
leaves what is desired and what is not owned. -/
theorem after_iff (h : Legible read text same desired held) (hrefl : ∀ a, same a a)
    (howned : ∀ x ∈ owned, ∃ b ∈ held, text b = x)
    (hgranted : ∀ a, a ∈ granted ↔ ∃ x, (x ∈ desired ∧ x ∉ owned) ∧ read x = .ok a)
    (hrevoked : ∀ a, a ∈ revoked ↔ ∃ x, (x ∈ owned ∧ x ∉ desired) ∧ read x = .ok a) :
    ((a ∈ held ∨ a ∈ granted) ∧ ¬ ∃ b ∈ revoked, same b a) ↔
      NamedIn read desired a ∨ a ∈ held ∧ text a ∉ owned := by
  rw [h.granted_iff hgranted]
  constructor
  · rintro ⟨ha | ⟨ha, -⟩, hkept⟩
    · by_cases hown : text a ∈ owned
      · left
        refine ⟨text a, ?_, h.reads_held a ha⟩
        by_contra hnew
        exact hkept ⟨a, (h.revoked_iff howned hrevoked).mpr ⟨ha, hown, hnew⟩, hrefl a⟩
      · exact .inr ⟨ha, hown⟩
    · exact .inl ha
  · intro ha
    refine ⟨?_, ?_⟩
    · rcases ha with ha | ⟨ha, -⟩
      · by_cases hown : text a ∈ owned
        · exact .inl (h.mem_held_of_text ha (howned _ hown))
        · exact .inr ⟨ha, hown⟩
      · exact .inl ha
    · rintro ⟨b, hb, hsame⟩
      obtain ⟨hb_held, hb_owned, hb_new⟩ := (h.revoked_iff howned hrevoked).mp hb
      -- only `a` itself could take `a` away
      have heq := h.eq_of_same b a (.inl hb_held) (ha.symm.imp_left And.left) hsame
      subst heq
      rcases ha with ha | ⟨-, hown⟩
      · exact hb_new (h.text_mem ha)
      · exact hown hb_owned

/-- The difference between desired and owned texts can be read, and as an update it leaves what is
desired and what is not owned. -/
theorem exists_update (h : Legible read text same desired held) (hrefl : ∀ a, same a a)
    (howned : ∀ x ∈ owned, ∃ b ∈ held, text b = x) :
    ∃ granted revoked, (Difference.between desired owned).toAdd.mapM read = .ok granted ∧
      (Difference.between desired owned).toRemove.mapM read = .ok revoked ∧
      ∀ a, ((a ∈ held ∨ a ∈ granted) ∧ ¬ ∃ b ∈ revoked, same b a) ↔
        NamedIn read desired a ∨ a ∈ held ∧ text a ∉ owned := by
  obtain ⟨granted, hgranted⟩ : ∃ granted,
      (Difference.between desired owned).toAdd.mapM read = .ok granted :=
    exists_mapM_eq_ok fun x hx => h.exists_reading (.inl (Difference.mem_toAdd_between.mp hx).1)
  obtain ⟨revoked, hrevoked⟩ : ∃ revoked,
      (Difference.between desired owned).toRemove.mapM read = .ok revoked :=
    exists_mapM_eq_ok fun x hx =>
      h.exists_reading (.inr (howned x (Difference.mem_toRemove_between.mp hx).1))
  refine ⟨granted, revoked, hgranted, hrevoked, fun a => h.after_iff hrefl howned ?_ ?_⟩
  · intro b
    rw [mem_of_mapM_eq_ok hgranted]
    simp only [Difference.mem_toAdd_between]
  · intro b
    rw [mem_of_mapM_eq_ok hrevoked]
    simp only [Difference.mem_toRemove_between]

end update

end Legible

end legible

/-! ## Legible grantees -/

/-- The desired and the held grants of a grantee are legible, and under the lax policy no desired
privilege is the baseline. -/
structure Spec.LegibleFor (spec : Spec) (desiredPrivileges desiredRoles : List Text) (h : Held) :
    Prop where
  privileges : Legible (Privilege.parse · spec.defaultSchema) Privilege.display
    Privilege.SameGrant desiredPrivileges h.privileges
  roles : Legible Role.parse Role.render Role.SameGrant desiredRoles h.roles
  baseline : spec.policy = .lax →
    ∀ x ∈ desiredPrivileges, Baseline.isSpelling spec.defaultSchema x = false

namespace Pass

section converge

variable {σ ε : Type} {connection : Connection σ ε} {held : σ → Held} {spec : Spec}
  {previouslyManaged desiredPrivileges desiredRoles : List Text} {s : σ}

/-- A pass over a database that shows what is held finds a comparison with the texts of what is
held. -/
theorem compare_of_shows (hshows : Shows connection held spec)
    (hdesired : spec.desiredGrants = .ok (desiredPrivileges, desiredRoles)) (s : σ) :
    ∃ observedPrivileges observedRoles s₁,
      compare connection spec previouslyManaged s = (.ok (Comparison.ofGrants spec
        previouslyManaged desiredPrivileges desiredRoles observedPrivileges observedRoles), s₁) ∧
      held s₁ = held s ∧
      (∀ t, t ∈ observedPrivileges ↔ ∃ p ∈ (held s).privileges, p.display = t) ∧
      ∀ t, t ∈ observedRoles ↔ ∃ r ∈ (held s).roles, r.render = t := by
  obtain ⟨O, s₁, hprivileges, hheld₁, hO⟩ := hshows.privileges s
  obtain ⟨OR, s₂, hroles, hheld₂, hOR⟩ := hshows.roles s₁
  rw [hheld₁] at hheld₂ hOR
  exact ⟨O, OR, s₂, compare_eq_ok_iff.mpr ⟨_, _, O, OR, s₁, hdesired, hprivileges, hroles, rfl⟩,
    hheld₂, hO, hOR⟩

/-- The observed privileges that a pass does not own are, under the strict policy, none and, under
the lax one, those that were not managed before, and the baseline. -/
theorem not_mem_owned_iff {observed : List Text} {x : Text} (hx : x ∈ observed) :
    x ∉ spec.policy.owned observed desiredPrivileges previouslyManaged spec.defaultSchema ↔
      spec.policy = .lax ∧ (Baseline.isSpelling spec.defaultSchema x = true ∨
        x ∉ desiredPrivileges ∧ x ∉ previouslyManaged) := by
  cases spec.policy with
  | strict => simp [hx]
  | lax => simp [hx, Classical.or_iff_not_imp_left]

/-- A pass over a legible grantee has a plan, and a database that performs it holds afterwards the
desired grants and those that the pass does not own. -/
theorem exists_plan (hshows : Shows connection held spec)
    (hdesired : spec.desiredGrants = .ok (desiredPrivileges, desiredRoles))
    (hlegible : spec.LegibleFor desiredPrivileges desiredRoles (held s)) :
    ∃ statements s₁, plan connection spec previouslyManaged s = (.ok statements, s₁) ∧
      ∀ s₂, Performs connection held statements s₁ s₂ →
        (∀ p, p ∈ (held s₂).privileges ↔
          NamedIn (Privilege.parse · spec.defaultSchema) desiredPrivileges p ∨
            spec.policy = .lax ∧ p ∈ (held s).privileges ∧
              (Baseline.isSpelling spec.defaultSchema p.display = true ∨
                p.display ∉ previouslyManaged)) ∧
        ∀ r, r ∈ (held s₂).roles ↔ NamedIn Role.parse desiredRoles r := by
  obtain ⟨O, OR, s₁, hcompare, hheld, hO, hOR⟩ := compare_of_shows hshows hdesired s
  have howned : ∀ x ∈ spec.policy.owned O desiredPrivileges previouslyManaged spec.defaultSchema,
      ∃ p ∈ (held s).privileges, p.display = x :=
    fun x hx => (hO x).mp (ManagementPolicy.mem_observed_of_mem_owned hx)
  obtain ⟨ps, qs, hps, hqs, hprivileges⟩ :=
    hlegible.privileges.exists_update (fun _ => ⟨rfl, rfl, rfl⟩) howned
  obtain ⟨rs, ts, hrs, hts, hroles⟩ :=
    hlegible.roles.exists_update (fun _ => rfl) fun x => (hOR x).mp
  refine ⟨Statement.ofUpdate spec.grantee ps qs rs ts, s₁,
    plan_eq_ok_iff.mpr ⟨_, hcompare, Statement.planUpdate_of_parseAll hps hqs hrs hts⟩,
    fun s₂ hrun => ⟨fun p => ?_, fun r => ?_⟩⟩
  · rw [hrun.held_eq, hheld, Held.mem_run_update_privileges, hprivileges]
    constructor
    · rintro (hp | ⟨hp, hnot⟩)
      · exact .inl hp
      · obtain ⟨hlax, hnot⟩ := (not_mem_owned_iff ((hO _).mpr ⟨p, hp, rfl⟩)).mp hnot
        exact .inr ⟨hlax, hp, hnot.imp_right And.right⟩
    · rintro (hp | ⟨hlax, hp, hnot⟩)
      · exact .inl hp
      · by_cases hmem : p.display ∈ desiredPrivileges
        · exact .inl ⟨_, hmem, hlegible.privileges.reads_held p hp⟩
        · refine .inr ⟨hp, (not_mem_owned_iff ((hO _).mpr ⟨p, hp, rfl⟩)).mpr ⟨hlax, ?_⟩⟩
          exact hnot.imp_right (And.intro hmem)
  · rw [hrun.held_eq, hheld, Held.mem_run_update_roles, hroles]
    -- roles are owned in full
    exact or_iff_left fun ⟨hr, hnot⟩ => hnot ((hOR _).mpr ⟨r, hr, rfl⟩)

/-- When the grantee holds what is desired, and nothing else unless the policy is lax, a pass that
remembers the desired privileges finds no difference. -/
theorem exists_compare_equal (hshows : Shows connection held spec)
    (hdesired : spec.desiredGrants = .ok (desiredPrivileges, desiredRoles)) {before : Held}
    (hlegible : spec.LegibleFor desiredPrivileges desiredRoles before)
    (hprivileges : ∀ p, NamedIn (Privilege.parse · spec.defaultSchema) desiredPrivileges p →
      p ∈ (held s).privileges)
    (honly : spec.policy = .strict → ∀ p ∈ (held s).privileges,
      NamedIn (Privilege.parse · spec.defaultSchema) desiredPrivileges p)
    (hroles : ∀ r, r ∈ (held s).roles ↔ NamedIn Role.parse desiredRoles r) :
    ∃ c s₁, compare connection spec (distinct desiredPrivileges) s = (.ok c, s₁) ∧
      c.privilegeDifference.equal = true ∧ c.roleDifference.equal = true := by
  obtain ⟨O, OR, s₁, hcompare, -, hO, hOR⟩ := compare_of_shows hshows hdesired s
  refine ⟨_, s₁, hcompare, Difference.equal_between_iff.mpr fun t => ?_,
    Difference.equal_between_iff.mpr fun t => ?_⟩
  · have hobserved : t ∈ desiredPrivileges → t ∈ O := by
      rw [hO, ← hlegible.privileges.exists_named_iff]
      rintro ⟨p, hp, rfl⟩
      exact ⟨p, hprivileges p hp, rfl⟩
    cases hpolicy : spec.policy with
    | strict =>
        rw [ManagementPolicy.mem_owned_strict]
        refine ⟨hobserved, fun ht => ?_⟩
        obtain ⟨p, hp, rfl⟩ := (hO t).mp ht
        exact hlegible.privileges.text_mem (honly hpolicy p hp)
    | lax =>
        rw [ManagementPolicy.mem_owned_lax, mem_distinct, or_self]
        exact ⟨fun ht => ⟨hobserved ht, hlegible.baseline hpolicy t ht, ht⟩, fun ht => ht.2.2⟩
  · rw [hOR, ← hlegible.roles.exists_named_iff]
    simp only [hroles]

/-- One pass converges, and the next one is without effect. Over a legible grantee a pass has a plan;
when the database performs it, the pass succeeds, the grantee holds exactly the desired roles and
the desired privileges, under the lax policy beside those that the pass does not own, and a pass that
starts from there with the managed privileges of the first runs no statement. -/
theorem converges (hshows : Shows connection held spec)
    (hdesired : spec.desiredGrants = .ok (desiredPrivileges, desiredRoles))
    (hlegible : spec.LegibleFor desiredPrivileges desiredRoles (held s))
    (previouslyManaged : List Text) :
    ∃ statements s₁, plan connection spec previouslyManaged s = (.ok statements, s₁) ∧
      ∀ s₂, Performs connection held statements s₁ s₂ → ∀ before,
        ∃ outcome, reconcile ⟨connection, false⟩ spec previouslyManaged ⟨s, before⟩ =
            (.ok outcome, ⟨s₂, before ++ outcome.records⟩) ∧
          outcome.records.map Record.command = statements.map Statement.command ∧
          (∀ r, r ∈ (held s₂).roles ↔ NamedIn Role.parse desiredRoles r) ∧
          (spec.policy = .strict → ∀ p, p ∈ (held s₂).privileges ↔
            NamedIn (Privilege.parse · spec.defaultSchema) desiredPrivileges p) ∧
          (spec.policy = .lax → ∀ p, p ∈ (held s₂).privileges ↔
            NamedIn (Privilege.parse · spec.defaultSchema) desiredPrivileges p ∨
              p ∈ (held s).privileges ∧
                (Baseline.isSpelling spec.defaultSchema p.display = true ∨
                  p.display ∉ previouslyManaged)) ∧
          ∃ c s₃, reconcile ⟨connection, false⟩ spec outcome.comparison.managedPrivileges
              ⟨s₂, before ++ outcome.records⟩ =
                (.ok ⟨c, []⟩, ⟨s₃, before ++ outcome.records⟩) ∧
            c.changed = false := by
  obtain ⟨statements, s₁, hplan, hafter⟩ := exists_plan hshows hdesired hlegible
  refine ⟨statements, s₁, hplan, fun s₂ hrun before => ?_⟩
  obtain ⟨hprivileges, hroles⟩ := hafter s₂ hrun
  obtain ⟨c, records, hcompare, hreconcile, hrecords⟩ := reconcile_performs hplan hrun before
  have hstrict : spec.policy = .strict → ∀ p, p ∈ (held s₂).privileges ↔
      NamedIn (Privilege.parse · spec.defaultSchema) desiredPrivileges p := by
    intro hpolicy p
    rw [hprivileges, hpolicy]
    exact or_iff_left fun ⟨hlax, _⟩ => nomatch hlax
  refine ⟨⟨c, records⟩, hreconcile, hrecords, hroles, hstrict, fun hpolicy p => ?_, ?_⟩
  · rw [hprivileges]
    simp only [hpolicy, true_and]
  · have hmanaged : c.managedPrivileges = distinct desiredPrivileges := by
      obtain ⟨_, _, _, _, _, hdesired', -, -, rfl⟩ := compare_eq_ok_iff.mp hcompare
      rw [hdesired] at hdesired'
      cases hdesired'
      rfl
    obtain ⟨c₂, s₃, hcompare₂, hequal, hequalRoles⟩ := exists_compare_equal hshows hdesired hlegible
      (fun p hp => (hprivileges p).mpr (.inl hp)) (fun hpolicy p => (hstrict hpolicy p).mp) hroles
    rw [hmanaged]
    obtain ⟨hsecond, hchanged⟩ :=
      reconcile_of_equal (x := ⟨connection, false⟩) hcompare₂ hequal hequalRoles (before ++ records)
    exact ⟨c₂, s₃, hsecond, hchanged⟩

end converge

/-! ### A pass over two states -/

/-- A role that should hold one privilege, and may hold others. -/
def analyst : Spec :=
  ⟨"ANALYST".toList, .role, "ANALYST".toList, .lax, ["SELECT ON SCHEMA X".toList], [], false⟩

/-- A privilege on the schema `X`. -/
def onX (name : Text) : Privilege := ⟨.schema, name, "X".toList, false⟩

/-- What `analyst` holds before its pass and after it. -/
def analystHolds (passed : Bool) : List Privilege :=
  if passed then [onX "INSERT".toList, onX "SELECT".toList] else [onX "INSERT".toList]

/-- The same as sets, without any role. -/
def heldByAnalyst (passed : Bool) : Held :=
  ⟨(analystHolds passed).toFinset, ([] : List Role).toFinset⟩

/-- The database of `analyst`, of which any statement makes the second state. -/
def analystTables : Connection Bool Empty :=
  .ofTables (fun passed => (analystHolds passed).map fun p =>
    [.text "SCHEMA".toList, .text p.name, .text p.target, .null, .text "FALSE".toList])
    (fun _ => []) (fun _ _ => true)

/-- The grants of `analyst` are legible. -/
theorem analyst_legible :
    analyst.LegibleFor ["SELECT ON SCHEMA X".toList] [] (heldByAnalyst false) where
  privileges := by
    have hnamed : ∀ p, NamedIn (Privilege.parse · analyst.defaultSchema)
        ["SELECT ON SCHEMA X".toList] p → p = onX "SELECT".toList := by
      rintro p ⟨x, hx, hread⟩
      rw [List.mem_singleton.mp hx] at hread
      exact Except.ok.inj (hread.symm.trans (by decide))
    refine ⟨fun x hx => ⟨onX "SELECT".toList, ?_⟩, by decide, ?_⟩
    · rw [List.mem_singleton.mp hx]
      decide
    · have hentry : ∀ p, p ∈ (analystHolds false).toFinset ∨
          NamedIn (Privilege.parse · analyst.defaultSchema) ["SELECT ON SCHEMA X".toList] p →
            p ∈ analystHolds true := by
        rintro p (hp | hp)
        · exact List.mem_cons.mpr (.inl (List.mem_singleton.mp (List.mem_toFinset.mp hp)))
        · rw [hnamed p hp]
          exact List.mem_cons_of_mem _ List.mem_cons_self
      have hsame : ∀ p ∈ analystHolds true, ∀ q ∈ analystHolds true, p.SameGrant q → p = q := by
        decide
      exact fun p q hp hq => hsame p (hentry p hp) q (hentry q hq)
  roles := ⟨nofun, nofun, by rintro r s (hr | ⟨x, hx, -⟩) <;> contradiction⟩
  baseline _ := by decide

/-- The pass of `analyst` grants what is missing and leaves alone what it does not own. -/
theorem converges_analyst :
    ∃ outcome c s₃,
      reconcile ⟨analystTables, false⟩ analyst [] ⟨false, []⟩ =
        (.ok outcome, ⟨true, outcome.records⟩) ∧
      outcome.records.map Record.command =
        [⟨.grant, "ANALYST".toList, "GRANT SELECT ON SCHEMA X TO ANALYST".toList⟩] ∧
      reconcile ⟨analystTables, false⟩ analyst outcome.comparison.managedPrivileges
        ⟨true, outcome.records⟩ = (.ok ⟨c, []⟩, ⟨s₃, outcome.records⟩) ∧ c.changed = false := by
  have hshows : Shows analystTables heldByAnalyst analyst :=
    Shows.ofTables (by decide) fun _ => rfl
  have hdesired : analyst.desiredGrants = .ok (["SELECT ON SCHEMA X".toList], []) := by
    decide
  have hplan : plan analystTables analyst [] false = (.ok [.grantPrivilegeBatch
      ⟨.schema, "X".toList, false, ["SELECT".toList]⟩ "ANALYST".toList], false) :=
    plan_eq_ok_iff.mpr ⟨Comparison.ofGrants analyst [] ["SELECT ON SCHEMA X".toList] []
      ["INSERT ON SCHEMA X".toList] [], compare_ofTables hdesired (by decide) rfl,
      by decide⟩
  obtain ⟨statements, s₁, hplan', hpass⟩ := converges hshows hdesired analyst_legible []
  rw [hplan] at hplan'
  cases hplan'
  -- the grant turns the first state into the second
  have hruns : Performs analystTables heldByAnalyst [.grantPrivilegeBatch
      ⟨.schema, "X".toList, false, ["SELECT".toList]⟩ "ANALYST".toList] false true :=
    .cons rfl rfl (.nil true)
  obtain ⟨outcome, hfirst, hrecords, -, -, -, c, s₃, hsecond, hchanged⟩ := hpass true hruns []
  exact ⟨outcome, c, s₃, hfirst, hrecords.trans (by decide), hsecond, hchanged⟩

end Pass

end AccessGrants
