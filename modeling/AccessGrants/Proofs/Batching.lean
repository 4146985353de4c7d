import AccessGrants.Batch
import Mathlib.Data.List.Forall2
import Mathlib.Data.List.Induction
import Mathlib.Data.List.Nodup
import Mathlib.Data.List.Perm.Basic

/-!
# What batches have to do

Whatever is put into batches comes out of them once, in batches as few as its keys allow, and in the
order in which it first went in. All of this follows from one description of the batches of a list:
one for each of its keys, in which the elements with this key stand in order of first occurrence.

* `FirstOccurrences`: the elements of a list in order of first occurrence.
* `Batched`: the batches of a list. `Batched.nodup_flatMap`, `Batched.mem_flatMap`,
  `Batched.length_le` and `Batched.sameBatches` are what follows.
* `IsBatching`: a way to make batches that has all these properties. `PrivilegeBatch.isBatching_group`
  and `RoleBatch.isBatching_group`: so do both of ours.
* `PrivilegeBatch.add`, `PrivilegeBatch.group_eq_foldl`: the batches as they grow, one privilege after
  the other.
* `group_keeps_each_once`: the properties, and the orders of the batches.
-/

namespace AccessGrants

/-! ## Orders of first occurrence -/

section FirstOccurrences

variable {α : Type} [DecidableEq α] {xs ys : List α}

/-- The elements of a list, each once, in the order in which they first occur in it. -/
structure FirstOccurrences (xs ys : List α) : Prop where
  mem_iff : ∀ a, a ∈ ys ↔ a ∈ xs
  ordered : ys.Pairwise fun a b => xs.idxOf a < xs.idxOf b

/-- An element does not stand before itself. -/
theorem FirstOccurrences.nodup (h : FirstOccurrences xs ys) : ys.Nodup := by
  apply h.ordered.imp
  intro a b hlt heq
  rw [heq] at hlt
  omega

/-- They are what `distinct` keeps of a list. -/
theorem firstOccurrences_distinct (xs : List α) : FirstOccurrences xs (distinct xs) := by
  refine ⟨fun a => mem_distinct, ?_⟩
  induction xs with
  | nil => simp
  | cons a rest ih =>
      rw [distinct_cons, List.pairwise_cons]
      constructor
      · intro b hb
        have hne : b ≠ a := by simpa using (List.mem_filter.mp hb).2
        rw [List.idxOf_cons_self, List.idxOf_cons_ne rest hne.symm]
        omega
      · -- what is left of the rest stands one place further back
        apply (ih.filter _).imp_of_mem
        intro b c hb hc hlt
        have hb : b ≠ a := by simpa using (List.mem_filter.mp hb).2
        have hc : c ≠ a := by simpa using (List.mem_filter.mp hc).2
        rw [List.idxOf_cons_ne rest hb.symm, List.idxOf_cons_ne rest hc.symm]
        omega

end FirstOccurrences

/-! ## Batches of any kind -/

section Batched

variable {α β κ : Type} [DecidableEq α] [DecidableEq κ] {key : α → κ} {keyOf : β → κ}
  {expand : β → List α} {xs ys : List α} {bs cs : List β}

/-- The batches of a list: one for each key of its elements, and in it the elements with this key in
order of first occurrence. -/
structure Batched (key : α → κ) (keyOf : β → κ) (expand : β → List α) (xs : List α)
    (bs : List β) : Prop where
  mem_keys : ∀ k, k ∈ bs.map keyOf ↔ k ∈ xs.map key
  nodup_keys : (bs.map keyOf).Nodup
  parts : ∀ b ∈ bs, FirstOccurrences (xs.filter fun x => key x = keyOf b) (expand b)

/-- The same batches but for the order of the batches and the order in each batch. -/
def SameBatches (keyOf : β → κ) (expand : β → List α) (bs cs : List β) : Prop :=
  ∃ ds : List β, ds.Perm cs ∧
    List.Forall₂ (fun b d => keyOf b = keyOf d ∧ (expand b).Perm (expand d)) bs ds

namespace Batched

variable (h : Batched key keyOf expand xs bs)

include h

/-- A batch has the elements with its key. -/
theorem mem_expand {b : β} (hb : b ∈ bs) {x : α} : x ∈ expand b ↔ x ∈ xs ∧ key x = keyOf b := by
  rw [(h.parts b hb).mem_iff, List.mem_filter, decide_eq_true_eq]

/-- The batches have the elements of the list. -/
theorem mem_flatMap {x : α} : x ∈ bs.flatMap expand ↔ x ∈ xs := by
  rw [List.mem_flatMap]
  constructor
  · rintro ⟨b, hb, hx⟩
    exact ((h.mem_expand hb).mp hx).1
  · intro hx
    obtain ⟨b, hb, hkey⟩ := List.mem_map.mp ((h.mem_keys (key x)).mpr (List.mem_map_of_mem hx))
    exact ⟨b, hb, (h.mem_expand hb).mpr ⟨hx, hkey.symm⟩⟩

/-- The batches have each element once. -/
theorem nodup_flatMap : (bs.flatMap expand).Nodup := by
  rw [List.nodup_flatMap]
  refine ⟨fun b hb => (h.parts b hb).nodup, ?_⟩
  have hkeys : bs.Pairwise fun b c => keyOf b ≠ keyOf c := List.pairwise_map.mp h.nodup_keys
  apply hkeys.imp_of_mem
  intro b c hb hc hne x hx hx'
  apply hne
  rw [← ((h.mem_expand hb).mp hx).2, ← ((h.mem_expand hc).mp hx').2]

/-- No other lists of elements with one key each are fewer: each key needs a list of its own. -/
theorem length_le {gs : List (List α)} (hcover : ∀ x ∈ xs, ∃ g ∈ gs, x ∈ g)
    (huniform : ∀ g ∈ gs, ∀ x ∈ g, ∀ y ∈ g, key x = key y) : bs.length ≤ gs.length := by
  have hsubset : bs.map keyOf ⊆ gs.filterMap fun g => g.head?.map key := by
    intro k hk
    obtain ⟨x, hx, rfl⟩ := List.mem_map.mp ((h.mem_keys k).mp hk)
    obtain ⟨g, hg, hxg⟩ := hcover x hx
    obtain ⟨y, rest, rfl⟩ := List.exists_cons_of_ne_nil (List.ne_nil_of_mem hxg)
    rw [List.mem_filterMap]
    refine ⟨_, hg, ?_⟩
    rw [List.head?_cons, Option.map_some, huniform _ hg x hxg y List.mem_cons_self]
  calc bs.length = (bs.map keyOf).length := (List.length_map _).symm
    _ ≤ (gs.filterMap fun g => g.head?.map key).length :=
        (List.subperm_of_subset h.nodup_keys hsubset).length_le
    _ ≤ gs.length := List.length_filterMap_le _ _

/-- Two lists with the same elements have the same batches. -/
theorem sameBatches (h' : Batched key keyOf expand ys cs) (hmem : ∀ x, x ∈ xs ↔ x ∈ ys) :
    SameBatches keyOf expand bs cs := by
  have hkeys : (bs.map keyOf).Perm (cs.map keyOf) := by
    rw [List.perm_ext_iff_of_nodup h.nodup_keys h'.nodup_keys]
    intro k
    rw [h.mem_keys, h'.mem_keys]
    simp only [List.mem_map, hmem]
  -- the batches of the second list in the order of the keys of the first
  have hpaired : List.Forall₂ (fun k c => k = keyOf c ∧ c ∈ cs) (cs.map keyOf) cs := by
    rw [List.forall₂_map_left_iff, List.forall₂_same]
    exact fun c hc => ⟨rfl, hc⟩
  obtain ⟨ds, hds, hperm⟩ := List.perm_comp_forall₂ hkeys hpaired
  rw [List.forall₂_map_left_iff] at hds
  refine ⟨ds, hperm, ?_⟩
  have hboth := (List.forall₂_and_left bs ds).mpr ⟨fun b hb => hb, hds⟩
  apply hboth.imp
  rintro b d ⟨hb, hkey, hd⟩
  refine ⟨hkey, ?_⟩
  rw [List.perm_ext_iff_of_nodup (h.parts b hb).nodup (h'.parts d hd).nodup]
  intro x
  rw [h.mem_expand hb, h'.mem_expand hd, hkey, hmem]

end Batched

/-- A batch for each key of a list makes up its batches. -/
theorem batched_map {ks : List κ} {batch : κ → β} (hks : ∀ k, k ∈ ks ↔ k ∈ xs.map key)
    (hnodup : ks.Nodup) (hkey : ∀ k, keyOf (batch k) = k)
    (hexpand : ∀ k, expand (batch k) = distinct (xs.filter fun x => key x = k)) :
    Batched key keyOf expand xs (ks.map batch) := by
  have hkeys : (ks.map batch).map keyOf = ks := by
    rw [List.map_map]
    exact List.map_id'' hkey ks
  refine ⟨?_, ?_, ?_⟩
  · rw [hkeys]
    exact hks
  · rw [hkeys]
    exact hnodup
  · intro b hb
    obtain ⟨k, -, rfl⟩ := List.mem_map.mp hb
    rw [hkey, hexpand]
    exact firstOccurrences_distinct _

/-- A way to put lists into batches with one key each that loses nothing, adds nothing and repeats
nothing, with as few batches as there can be. In each batch the elements stand in order of first
occurrence, and the batches of a list depend on the order and the repetitions in it by their order
alone. -/
structure IsBatching (key : α → κ) (keyOf : β → κ) (expand : β → List α)
    (group : List α → List β) : Prop where
  nodup : ∀ xs, ((group xs).flatMap expand).Nodup
  mem_iff : ∀ xs x, x ∈ (group xs).flatMap expand ↔ x ∈ xs
  nodup_keys : ∀ xs, ((group xs).map keyOf).Nodup
  ordered : ∀ xs, ∀ b ∈ group xs,
    FirstOccurrences (xs.filter fun x => key x = keyOf b) (expand b)
  minimal : ∀ xs (gs : List (List α)), (∀ x ∈ xs, ∃ g ∈ gs, x ∈ g) →
    (∀ g ∈ gs, ∀ x ∈ g, ∀ y ∈ g, key x = key y) → (group xs).length ≤ gs.length
  same : ∀ xs ys, (∀ x, x ∈ xs ↔ x ∈ ys) → SameBatches keyOf expand (group xs) (group ys)

/-- All of this is so if the batches of a list are one for each of its keys. -/
theorem isBatching_of_batched {group : List α → List β}
    (h : ∀ xs, Batched key keyOf expand xs (group xs)) : IsBatching key keyOf expand group where
  nodup xs := (h xs).nodup_flatMap
  mem_iff xs _ := (h xs).mem_flatMap
  nodup_keys xs := (h xs).nodup_keys
  ordered xs := (h xs).parts
  minimal xs _ := (h xs).length_le
  same xs ys := (h xs).sameBatches (h ys)

end Batched

/-! ## Batches of privileges -/

namespace PrivilegeBatch

/-- A batch of the privileges `ps` expands into those of them that have its key, each once. -/
theorem expand_ofKey (ps : List Privilege) (k : Key) :
    (ofKey ps k).expand = distinct (ps.filter fun p => Key.of p = k) := by
  apply map_distinct_map
  intro p hp
  obtain rfl := of_decide_eq_true (List.mem_filter.mp hp).2
  rfl

/-- A batch of the privileges `ps` names those of them that have its key. -/
theorem mem_expand_ofKey {p : Privilege} {ps : List Privilege} {k : Key} :
    p ∈ (ofKey ps k).expand ↔ p ∈ ps ∧ Key.of p = k := by
  simp [expand_ofKey]

/-- The keys of the batches are those of the privileges, in order of first occurrence. -/
theorem map_key_group (ps : List Privilege) : (group ps).map key = distinct (ps.map Key.of) := by
  rw [group, List.map_map]
  exact List.map_id'' (key_ofKey ps) _

/-- Privileges are grouped into batches by kind, target and option. -/
theorem isBatching_group : IsBatching Key.of key expand group := by
  apply isBatching_of_batched
  intro ps
  exact batched_map (fun k => mem_distinct) (nodup_distinct _) (key_ofKey ps) (expand_ofKey ps)

/-- The batches of a list of privileges name these privileges. -/
theorem mem_expand_group {p : Privilege} {ps : List Privilege} :
    (∃ b ∈ group ps, p ∈ b.expand) ↔ p ∈ ps := by
  rw [← isBatching_group.mem_iff ps, List.mem_flatMap]

/-! ### One privilege after the other -/

/-- A batch with one more name, if it does not have it. -/
def withName (b : PrivilegeBatch) (name : Text) : PrivilegeBatch :=
  if name ∈ b.names then b else { b with names := b.names ++ [name] }

/-- Batches with one more privilege. Its name comes into the batch with its key, or begins a batch
after the others. -/
def add (bs : List PrivilegeBatch) (p : Privilege) : List PrivilegeBatch :=
  if Key.of p ∈ bs.map key then bs.map fun b => if b.key = Key.of p then b.withName p.name else b
  else bs ++ [⟨p.kind, p.target, p.grantable, [p.name]⟩]

/-- One more privilege changes the batch with its key, by its name. -/
theorem ofKey_concat (ps : List Privilege) (p : Privilege) (k : Key) :
    ofKey (ps ++ [p]) k = if k = Key.of p then (ofKey ps k).withName p.name else ofKey ps k := by
  by_cases hkey : Key.of p = k
  · rw [if_pos hkey.symm, withName]
    simp only [ofKey, List.filter_append, List.filter_singleton, hkey, decide_true, cond_true,
      List.map_append, List.map_singleton, distinct_concat, mem_distinct]
    split <;> rfl
  · rw [if_neg (Ne.symm hkey)]
    simp [ofKey, List.filter_append, hkey]

/-- A key that no privilege of a list has makes a batch without names. -/
theorem ofKey_of_not_mem {ps : List Privilege} {k : Key} (h : k ∉ ps.map Key.of) :
    ofKey ps k = ⟨k.kind, k.target, k.grantable, []⟩ := by
  have hnone : ps.filter (fun p => Key.of p = k) = [] := by
    simpa using h
  rw [ofKey, hnone]
  rfl

/-- The batches of a list with one more privilege at its end are those of the list, with the privilege
added. -/
theorem group_concat (ps : List Privilege) (p : Privilege) :
    group (ps ++ [p]) = add (group ps) p := by
  have hkeys : Key.of p ∈ (group ps).map key ↔ Key.of p ∈ ps.map Key.of := by
    rw [map_key_group, mem_distinct]
  by_cases hmem : Key.of p ∈ ps.map Key.of
  · rw [add, if_pos (hkeys.mpr hmem), group, group, List.map_append, List.map_singleton,
      distinct_concat, if_pos hmem, List.map_map]
    apply List.map_congr_left
    intro k _
    exact ofKey_concat ps p k
  · rw [add, if_neg (mt hkeys.mp hmem), group, group, List.map_append, List.map_singleton,
      distinct_concat, if_neg hmem, List.map_append, List.map_singleton]
    congr 1
    · apply List.map_congr_left
      intro k hk
      rw [ofKey_concat, if_neg]
      rintro rfl
      exact hmem (mem_distinct.mp hk)
    · rw [ofKey_concat, if_pos rfl, ofKey_of_not_mem hmem]
      simp [withName, Key.of]

/-- The batches of a list grow by its privileges, one after the other. -/
theorem group_eq_foldl (ps : List Privilege) : group ps = ps.foldl add [] := by
  induction ps using List.reverseRecOn with
  | nil => rfl
  | append_singleton ps p ih => rw [group_concat, ih, List.foldl_concat]

end PrivilegeBatch

/-! ## Batches of roles -/

namespace RoleBatch

/-- A batch of the roles `rs` expands into those of them that are grantable or not, each once. -/
theorem expand_ofGrantable (rs : List Role) (grantable : Bool) :
    (ofGrantable rs grantable).expand = distinct (rs.filter fun r => r.grantable = grantable) := by
  apply map_distinct_map
  intro r hr
  obtain rfl := of_decide_eq_true (List.mem_filter.mp hr).2
  rfl

/-- A batch has names if there are roles for it. -/
theorem names_ofGrantable_ne_nil {rs : List Role} {grantable : Bool} :
    (ofGrantable rs grantable).names ≠ [] ↔ grantable ∈ rs.map Role.grantable := by
  rw [ne_eq, List.eq_nil_iff_forall_not_mem]
  simp [ofGrantable]

/-- The batches of a list of roles are those for which there are roles. -/
theorem group_eq (rs : List Role) : group rs =
    ([false, true].filter fun grantable => grantable ∈ rs.map Role.grantable).map
      (ofGrantable rs) := by
  rw [group, List.filter_map]
  congr 1
  apply List.filter_congr
  intro grantable _
  exact decide_eq_decide.mpr names_ofGrantable_ne_nil

/-- The plain batch comes first. -/
theorem map_grantable_group (rs : List Role) : (group rs).map grantable =
    [false, true].filter fun g => g ∈ rs.map Role.grantable := by
  rw [group_eq, List.map_map]
  exact List.map_id'' (fun _ => rfl) _

/-- Roles are grouped into batches by their option. -/
theorem isBatching_group : IsBatching Role.grantable grantable expand group := by
  apply isBatching_of_batched
  intro rs
  rw [group_eq]
  refine batched_map (fun g => ?_) ?_ (fun _ => rfl) (expand_ofGrantable rs)
  · have hall : g ∈ [false, true] := by cases g <;> simp
    rw [List.mem_filter, decide_eq_true_eq]
    exact and_iff_right hall
  · have hall : [false, true].Nodup := by decide
    exact hall.filter _

/-- The batches of a list of roles name these roles. -/
theorem mem_expand_group {r : Role} {rs : List Role} :
    (∃ b ∈ group rs, r ∈ b.expand) ↔ r ∈ rs := by
  rw [← isBatching_group.mem_iff rs, List.mem_flatMap]

end RoleBatch

/-- Batches of privileges and of roles lose nothing, add nothing, repeat nothing and are as few as
there can be. Those of privileges come in the order in which their keys first occur, those of roles
the plain one first. -/
theorem group_keeps_each_once :
    (IsBatching PrivilegeBatch.Key.of PrivilegeBatch.key PrivilegeBatch.expand
        PrivilegeBatch.group ∧
      ∀ ps, FirstOccurrences (ps.map PrivilegeBatch.Key.of)
        ((PrivilegeBatch.group ps).map PrivilegeBatch.key)) ∧
    IsBatching Role.grantable RoleBatch.grantable RoleBatch.expand RoleBatch.group ∧
      ∀ rs, ((RoleBatch.group rs).map RoleBatch.grantable).Pairwise
        fun g g' => g = false ∧ g' = true := by
  refine ⟨⟨PrivilegeBatch.isBatching_group, fun ps => ?_⟩, RoleBatch.isBatching_group, fun rs => ?_⟩
  · rw [PrivilegeBatch.map_key_group]
    exact firstOccurrences_distinct _
  · rw [RoleBatch.map_grantable_group]
    have hordered : [false, true].Pairwise fun g g' => g = false ∧ g' = true := by decide
    exact hordered.filter _

end AccessGrants
