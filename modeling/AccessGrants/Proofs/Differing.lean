import AccessGrants.Proofs.Batching
import AccessGrants.Proofs.Comparing

/-!
# A difference is exact and minimal

What a difference adds and removes turns the observed elements into the desired ones, and every
other change that does so adds and removes these elements as well. Its two lists are what one side
has and the other lacks, each element once and in the order of its side, also where the sides have
the same elements and nothing is compared any further.

* `Difference.Lacking`: what one list has and another lacks, in order. `Difference.Lacking.unique`:
  there is one such list. `Difference.lacking_minus`: it is the one that `minus` finds.
* `Difference.change`: a list after elements are removed from it and others added.
* `Difference.IsMinimal`: a difference that is exact and minimal. `Difference.isMinimal_of_lacking`:
  two lists of what the sides lack make one.
* `Difference.isMinimal_between`: the difference of two lists is exact and minimal, and no other is.
-/

namespace AccessGrants

variable {α : Type} [DecidableEq α]

/-- What is kept of a list stands in it in the same order. -/
theorem distinct_sublist (xs : List α) : (distinct xs).Sublist xs := by
  induction xs with
  | nil => exact .slnil
  | cons a rest ih => exact (List.filter_sublist.trans ih).cons_cons a

namespace Difference

variable {desired observed left right ys zs : List α} {d : Difference α} {a : α}

/-! ## What a list lacks -/

/-- The elements of one list that another lacks: a part of the first list, each element once, in the
order in which they first occur in it. -/
structure Lacking (left right ys : List α) : Prop where
  mem_iff : ∀ a, a ∈ ys ↔ a ∈ left ∧ a ∉ right
  nodup : ys.Nodup
  sublist : ys.Sublist left
  ordered : ys.Pairwise fun a b => left.idxOf a < left.idxOf b

/-- Elements and order determine the list. -/
theorem Lacking.unique (h : Lacking left right ys) (h' : Lacking left right zs) : ys = zs := by
  have hperm : ys.Perm zs := by
    rw [List.perm_ext_iff_of_nodup h.nodup h'.nodup]
    intro a
    rw [h.mem_iff, h'.mem_iff]
  apply hperm.eq_of_pairwise _ h.ordered h'.ordered
  intro a b _ _ hab hba
  omega

/-- Taking the members of one list out of another leaves what the first one lacks. -/
theorem lacking_minus (left right : List α) : Lacking left right (minus left right) where
  mem_iff _ := mem_minus
  nodup := (nodup_distinct left).filter _
  sublist := List.filter_sublist.trans (distinct_sublist left)
  ordered := (firstOccurrences_distinct left).ordered.filter _

/-- A list that has all elements of another lacks none of them. -/
theorem lacking_nil (h : ∀ a, a ∈ left → a ∈ right) : Lacking left right [] where
  mem_iff a := by
    rw [iff_false_left List.not_mem_nil]
    exact fun ⟨hleft, hright⟩ => hright (h a hleft)
  nodup := .nil
  sublist := List.nil_sublist left
  ordered := .nil

/-- Both ways to a difference, with and without a comparison of elements, list what is lacking. -/
theorem lacking_between (desired observed : List α) :
    Lacking desired observed (between desired observed).toAdd ∧
      Lacking observed desired (between desired observed).toRemove := by
  unfold between
  split
  · next h =>
      have hsame := sameElements_iff.mp h
      exact ⟨lacking_nil fun a => (hsame a).mp, lacking_nil fun a => (hsame a).mpr⟩
  · exact ⟨lacking_minus desired observed, lacking_minus observed desired⟩

/-! ## What a change makes of a list -/

/-- A list after some elements are removed from it and others added. -/
def change (observed removed added : List α) : List α :=
  observed.filter (· ∉ removed) ++ added

@[simp] theorem mem_change {removed added : List α} :
    a ∈ change observed removed added ↔ (a ∈ observed ∧ a ∉ removed) ∨ a ∈ added := by
  simp [change]

/-- A difference that is exact and minimal. It is empty exactly between lists with the same
elements, and says so. Its lists are what either side lacks; they turn the observed elements into
the desired ones, and so does no change without them. -/
structure IsMinimal (desired observed : List α) (d : Difference α) : Prop where
  equal_iff : d.equal = true ↔ ∀ a, a ∈ desired ↔ a ∈ observed
  nil_iff : d.toAdd = [] ∧ d.toRemove = [] ↔ ∀ a, a ∈ desired ↔ a ∈ observed
  lacking_toAdd : Lacking desired observed d.toAdd
  lacking_toRemove : Lacking observed desired d.toRemove
  disjoint : d.toAdd.Disjoint d.toRemove
  mem_change_iff : ∀ a, a ∈ change observed d.toRemove d.toAdd ↔ a ∈ desired
  minimal : ∀ added removed, (∀ a, a ∈ change observed removed added ↔ a ∈ desired) →
    d.toAdd ⊆ added ∧ d.toRemove ⊆ removed

/-- Nothing is lacking on either side exactly if the sides have the same elements. -/
theorem nil_iff_of_lacking (hadd : Lacking desired observed ys)
    (hremove : Lacking observed desired zs) :
    ys = [] ∧ zs = [] ↔ ∀ a, a ∈ desired ↔ a ∈ observed := by
  simp only [List.eq_nil_iff_forall_not_mem, hadd.mem_iff, hremove.mem_iff, not_and, not_not]
  exact ⟨fun h a => ⟨h.1 a, h.2 a⟩, fun h => ⟨fun a => (h a).mp, fun a => (h a).mpr⟩⟩

/-- What either side lacks turns the observed elements into the desired ones. -/
theorem mem_change_of_lacking (hadd : Lacking desired observed ys)
    (hremove : Lacking observed desired zs) (a : α) :
    a ∈ change observed zs ys ↔ a ∈ desired := by
  rw [mem_change, hadd.mem_iff, hremove.mem_iff]
  by_cases hobserved : a ∈ observed <;> simp [hobserved]

/-- Whatever turns the observed elements into the desired ones adds and removes what is lacking. -/
theorem subset_of_lacking {added removed : List α} (hadd : Lacking desired observed ys)
    (hremove : Lacking observed desired zs)
    (hturns : ∀ a, a ∈ change observed removed added ↔ a ∈ desired) :
    ys ⊆ added ∧ zs ⊆ removed := by
  constructor
  · intro a ha
    obtain ⟨hdesired, hobserved⟩ := (hadd.mem_iff a).mp ha
    rcases mem_change.mp ((hturns a).mpr hdesired) with ⟨h, -⟩ | h
    · exact absurd h hobserved
    · exact h
  · intro a ha
    obtain ⟨hobserved, hdesired⟩ := (hremove.mem_iff a).mp ha
    by_contra hkept
    exact hdesired ((hturns a).mp (mem_change.mpr (.inl ⟨hobserved, hkept⟩)))

/-- A difference is minimal if it tells equality and has exactly what each side lacks. -/
theorem isMinimal_of_lacking (hequal : d.equal = true ↔ ∀ a, a ∈ desired ↔ a ∈ observed)
    (hadd : Lacking desired observed d.toAdd) (hremove : Lacking observed desired d.toRemove) :
    IsMinimal desired observed d where
  equal_iff := hequal
  nil_iff := nil_iff_of_lacking hadd hremove
  lacking_toAdd := hadd
  lacking_toRemove := hremove
  disjoint a ha hb := ((hremove.mem_iff a).mp hb).2 ((hadd.mem_iff a).mp ha).1
  mem_change_iff := mem_change_of_lacking hadd hremove
  minimal _ _ := subset_of_lacking hadd hremove

/-- There is one exact and minimal difference between two lists. -/
theorem IsMinimal.unique {d' : Difference α} (h : IsMinimal desired observed d)
    (h' : IsMinimal desired observed d') : d = d' := by
  have hequal : d.equal = d'.equal := by
    rw [Bool.eq_iff_iff, h.equal_iff, h'.equal_iff]
  have hadd := h.lacking_toAdd.unique h'.lacking_toAdd
  have hremove := h.lacking_toRemove.unique h'.lacking_toRemove
  cases d
  cases d'
  simp_all

/-- The difference between two lists is exact and minimal, and it is the only one that is. -/
theorem isMinimal_between (desired observed : List α) :
    IsMinimal desired observed (between desired observed) ∧
      ∀ d, IsMinimal desired observed d → d = between desired observed := by
  obtain ⟨hadd, hremove⟩ := lacking_between desired observed
  have hminimal : IsMinimal desired observed (between desired observed) :=
    isMinimal_of_lacking equal_between_iff hadd hremove
  exact ⟨hminimal, fun d hd => hd.unique hminimal⟩

/-- Only the first occurrences count, on both sides. -/
example : between [3, 1, 3, 2] [2, 4, 2, 4, 5] = ⟨false, [3, 1], [4, 5]⟩ := by decide

end Difference

end AccessGrants
