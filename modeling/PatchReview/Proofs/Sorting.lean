/-
Sorting that keeps equal items as they stand.

A sorted list is told apart from other arrangements of the same items by two things: keys
never fall, and the items of one key stand in it as they stood before.  Sorting in two
rounds, first into groups and then inside each group, comes to the same as sorting once by
both keys, the key of the group first.
-/
import Mathlib.Data.Prod.Lex
import Mathlib.Data.List.Nodup
import Mathlib.Data.List.Perm.Basic

namespace PatchReview

variable {α ι κ μ : Type}

/-- The items in the order of their keys, those of one key as they stand. -/
structure StablySorted [LinearOrder κ] (key : α → κ) (items sorted : List α) : Prop where
  perm : sorted.Perm items
  ordered : sorted.Pairwise fun a b => key a ≤ key b
  stable : ∀ k, sorted.filter (fun a => key a = k) = items.filter fun a => key a = k

/-- Items of one key are in order as they stand, so sorting keeps them as they stand. -/
theorem stablySorted_mergeSort [LinearOrder κ] (key : α → κ) (items : List α) :
    StablySorted key items (items.mergeSort fun a b => key a ≤ key b) := by
  have htrans : ∀ a b c : α, decide (key a ≤ key b) = true → decide (key b ≤ key c) = true →
      decide (key a ≤ key c) = true := by
    intro a b c hab hbc
    rw [decide_eq_true_eq] at hab hbc ⊢
    exact hab.trans hbc
  have htotal : ∀ a b : α, (decide (key a ≤ key b) || decide (key b ≤ key a)) = true := by
    intro a b
    simpa using le_total (key a) (key b)
  have hperm := List.mergeSort_perm items fun a b => key a ≤ key b
  refine ⟨hperm, ?_, fun k => ?_⟩
  · exact (List.pairwise_mergeSort htrans htotal items).imp of_decide_eq_true
  · have hordered : (items.filter fun a => key a = k).Pairwise
        fun a b => decide (key a ≤ key b) = true := by
      refine List.pairwise_of_forall_mem_list fun a ha b hb => ?_
      have ha : key a = k := by simpa using (List.mem_filter.mp ha).2
      have hb : key b = k := by simpa using (List.mem_filter.mp hb).2
      simp [ha, hb]
    have hsublist := (List.sublist_mergeSort htrans htotal hordered List.filter_sublist).filter
      fun a => key a = k
    rw [List.filter_filter] at hsublist
    simp only [Bool.and_self] at hsublist
    exact (hsublist.eq_of_length (hperm.filter _).length_eq.symm).symm

/-! ### Groups -/

section

variable [DecidableEq ι] {group : α → ι} {groups : List ι} {items : List α}

/-- Groups that are pairwise distinct and leave no item out have every item once. -/
theorem perm_flatMap_filter (hnodup : groups.Nodup) (hall : ∀ a ∈ items, group a ∈ groups) :
    (groups.flatMap fun i => items.filter fun a => group a = i).Perm items := by
  induction groups generalizing items with
  | nil =>
      obtain rfl := List.eq_nil_iff_forall_not_mem.mpr fun a ha => List.not_mem_nil (hall a ha)
      exact List.Perm.refl _
  | cons i groups ih =>
      rw [List.nodup_cons] at hnodup
      -- The other groups have the items that are not in the first one.
      have hothers : ∀ j ∈ groups, items.filter (fun a => group a = j)
          = (items.filter fun a => !decide (group a = i)).filter fun a => group a = j := by
        intro j hj
        have hne : j ≠ i := fun hji => hnodup.1 (hji ▸ hj)
        rw [List.filter_filter]
        refine List.filter_congr fun a _ => ?_
        by_cases ha : group a = j
        · simp [ha, hne]
        · simp [ha]
      have hleft : ∀ a ∈ items.filter fun a => !decide (group a = i), group a ∈ groups := by
        intro a ha
        have ha := List.mem_filter.mp ha
        exact (List.mem_cons.mp (hall a ha.1)).resolve_left (by simpa using ha.2)
      rw [List.flatMap_cons, List.flatMap_congr hothers]
      exact ((ih hnodup.2 hleft).append_left _).trans (List.filter_append_perm _ items)

/-- The items of a group come from the part of that group. -/
theorem filter_flatMap_group {parts : ι → List α} {i : ι} (hnodup : groups.Nodup)
    (hparts : ∀ j ∈ groups, ∀ a ∈ parts j, group a = j) (hi : i ∈ groups) :
    (groups.flatMap parts).filter (fun a => group a = i) = parts i := by
  induction groups with
  | nil => exact absurd hi List.not_mem_nil
  | cons j groups ih =>
      rw [List.nodup_cons] at hnodup
      rw [List.flatMap_cons, List.filter_append]
      have hfirst := hparts j (by simp)
      have hrest : ∀ k ∈ groups, ∀ a ∈ parts k, group a = k :=
        fun k hk => hparts k (List.mem_cons_of_mem j hk)
      rcases List.mem_cons.mp hi with rfl | hmem
      · have hnone : (groups.flatMap parts).filter (fun a => group a = i) = [] := by
          rw [List.filter_eq_nil_iff]
          intro a ha hgroup
          obtain ⟨k, hk, ha⟩ := List.mem_flatMap.mp ha
          rw [decide_eq_true_eq, hrest k hk a ha] at hgroup
          exact hnodup.1 (hgroup ▸ hk)
        rw [hnone, List.append_nil, List.filter_eq_self]
        simpa using hfirst
      · have hnone : (parts j).filter (fun a => group a = i) = [] := by
          rw [List.filter_eq_nil_iff]
          intro a ha hgroup
          rw [decide_eq_true_eq, hfirst a ha] at hgroup
          exact hnodup.1 (hgroup ▸ hmem)
        rw [hnone, List.nil_append, ih hnodup.2 hrest hmem]

/-- **Sorting inside groups is sorting by the group and by the key.** -/
theorem StablySorted.flatMap_groups [LinearOrder μ] [LinearOrder κ] {rank : ι → μ} {key : α → κ}
    {sorted : ι → List α} (hranks : groups.Pairwise fun i j => rank i < rank j)
    (hall : ∀ a ∈ items, group a ∈ groups)
    (h : ∀ i ∈ groups, StablySorted key (items.filter fun a => group a = i) (sorted i)) :
    StablySorted (fun a => toLex (rank (group a), key a)) items (groups.flatMap sorted) := by
  have hdistinct : (groups.map rank).Nodup :=
    List.pairwise_map.mpr (hranks.imp fun hlt => ne_of_lt hlt)
  have hnodup : groups.Nodup := hdistinct.of_map
  have hgroup : ∀ i ∈ groups, ∀ a ∈ sorted i, group a = i := by
    intro i hi a ha
    simpa using (List.mem_filter.mp ((h i hi).perm.mem_iff.mp ha)).2
  have hperm : (groups.flatMap sorted).Perm items :=
    (List.Perm.flatMap_left groups fun i hi => (h i hi).perm).trans
      (perm_flatMap_filter hnodup hall)
  refine ⟨hperm, List.pairwise_flatMap.mpr ⟨fun i hi => ?_, ?_⟩, fun k => ?_⟩
  · refine (h i hi).ordered.imp_of_mem fun ha hb hle => ?_
    rw [Prod.Lex.toLex_le_toLex, hgroup i hi _ ha, hgroup i hi _ hb]
    exact Or.inr ⟨rfl, hle⟩
  · refine hranks.imp_of_mem fun hi hj hlt a ha b hb => ?_
    rw [Prod.Lex.toLex_le_toLex, hgroup _ hi a ha, hgroup _ hj b hb]
    exact Or.inl hlt
  · by_cases hsome : ∃ a ∈ items, toLex (rank (group a), key a) = k
    · obtain ⟨a, ha, rfl⟩ := hsome
      have hkey : ∀ l : List α, (∀ b ∈ l, group b ∈ groups) →
          l.filter (fun b => toLex (rank (group b), key b) = toLex (rank (group a), key a))
            = (l.filter fun b => group b = group a).filter fun b => key b = key a := by
        intro l hl
        rw [List.filter_filter]
        refine List.filter_congr fun b hb => ?_
        have hsame : rank (group b) = rank (group a) ↔ group b = group a :=
          ⟨fun heq => List.inj_on_of_nodup_map hdistinct (hl b hb) (hall a ha) heq,
            fun heq => by rw [heq]⟩
        simp [hsame, Bool.and_comm]
      rw [hkey items hall, hkey _ fun b hb => hall b (hperm.mem_iff.mp hb),
        filter_flatMap_group hnodup hgroup (hall a ha), (h _ (hall a ha)).stable]
    · have hnone : ∀ l : List α, l ⊆ items →
          l.filter (fun b => toLex (rank (group b), key b) = k) = [] := by
        intro l hl
        rw [List.filter_eq_nil_iff]
        intro b hb hkey
        exact hsome ⟨b, hl hb, by simpa using hkey⟩
      rw [hnone items (List.Subset.refl _), hnone _ hperm.subset]

end

/-! ### Each item once -/

theorem nodup_eraseDups {α : Type} [BEq α] [LawfulBEq α] (l : List α) : l.eraseDups.Nodup := by
  -- The tail of the result comes from a filtered tail, hence the induction on the length.
  induction hn : l.length using Nat.strongRecOn generalizing l with
  | ind n ih =>
      cases l with
      | nil => simp
      | cons a l =>
          rw [List.eraseDups_cons, List.nodup_cons]
          refine ⟨by simp, ih _ ?_ _ rfl⟩
          have hle := List.length_filter_le (fun b => !b == a) l
          simp only [List.length_cons] at hn
          omega

end PatchReview
