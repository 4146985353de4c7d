/-!
# Lists without repetition

* `distinct` keeps the first occurrence of each element, in order. `distinct_concat` is one step
  of it, from the front to the end of a list.
-/

namespace AccessGrants

/-- The elements of a list in order of their first occurrence, each once. -/
def distinct {α : Type} [DecidableEq α] : List α → List α
  | [] => []
  | a :: rest => a :: (distinct rest).filter (· ≠ a)

section

variable {α : Type} [DecidableEq α]

@[simp] theorem distinct_nil : distinct ([] : List α) = [] := rfl

@[simp] theorem distinct_cons (a : α) (rest : List α) :
    distinct (a :: rest) = a :: (distinct rest).filter (· ≠ a) := rfl

@[simp] theorem mem_distinct {a : α} {xs : List α} : a ∈ distinct xs ↔ a ∈ xs := by
  induction xs with
  | nil => simp
  | cons b rest ih =>
    by_cases h : a = b
    · simp [h]
    · simp [h, ih]

/-- Each element is kept once. -/
theorem nodup_distinct (xs : List α) : (distinct xs).Nodup := by
  induction xs with
  | nil => simp
  | cons a rest ih =>
    rw [distinct_cons, List.nodup_cons]
    exact ⟨by simp, ih.filter _⟩

/-- An element at the end is kept if it is new. -/
theorem distinct_concat (xs : List α) (a : α) :
    distinct (xs ++ [a]) = if a ∈ xs then distinct xs else distinct xs ++ [a] := by
  induction xs with
  | nil => simp
  | cons b rest ih =>
    rw [List.cons_append, distinct_cons, ih]
    by_cases hrest : a ∈ rest
    · simp [hrest]
    · by_cases hhead : a = b
      · subst hhead
        simp [hrest]
      · simp [hrest, hhead]

/-- Names that can be turned back are as distinct as what they name. -/
theorem map_distinct_map {β : Type} [DecidableEq β] {f : α → β} {g : β → α} {xs : List α}
    (h : ∀ a ∈ xs, g (f a) = a) : (distinct (xs.map f)).map g = distinct xs := by
  induction xs with
  | nil => rfl
  | cons a rest ih =>
    rw [List.forall_mem_cons] at h
    rw [List.map_cons, distinct_cons, distinct_cons, List.map_cons, h.1, ← ih h.2, List.filter_map]
    congr 2
    apply List.filter_congr
    intro b hb
    obtain ⟨c, hc, rfl⟩ := List.mem_map.mp (mem_distinct.mp hb)
    have hback : f c = f a ↔ c = a := by
      constructor
      · intro hfc
        rw [← h.2 c hc, hfc, h.1]
      · rintro rfl
        rfl
    simp [hback, h.2 c hc]

end

end AccessGrants
