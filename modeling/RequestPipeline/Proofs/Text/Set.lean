import Mathlib.Data.List.Sort
import Mathlib.Data.String.Basic
import RequestPipeline.Text.Set

/-!
# Sets and the lists that they are made of

Lists with the same members make sets that are alike (`TextSet.ofList_alike`), and so do lists whose
elements have the same texts (`TextSet.ofList_map_alike`). Of sets that are alike the members are
told alike once they are sorted (`TextSet.Alike.sorted_eq`): each of them once, in ascending order
(`TextSet.lists_sorted`).
-/

set_option autoImplicit false

namespace RequestPipeline.Text

/-! ## Sorted texts -/

theorem perm_sorted (ss : List String) : (sorted ss).Perm ss := List.mergeSort_perm _ _

theorem mem_sorted {s : String} {ss : List String} : s ∈ sorted ss ↔ s ∈ ss :=
  (perm_sorted ss).mem_iff

theorem pairwise_sorted (ss : List String) : (sorted ss).Pairwise (· ≤ ·) :=
  List.pairwise_mergeSort' (· ≤ ·) ss

/-- Texts are sorted to the one list of them that ascends. -/
theorem sorted_eq_of_perm {ss ts : List String} (h : ss.Perm ts) (hts : ts.Pairwise (· ≤ ·)) :
    sorted ss = ts := by
  have hperm : (sorted ss).Perm ts := (perm_sorted ss).trans h
  exact hperm.eq_of_pairwise' (pairwise_sorted ss) hts

/-- The order of the texts is lost. -/
theorem sorted_congr {ss ts : List String} (h : ss.Perm ts) : sorted ss = sorted ts :=
  sorted_eq_of_perm (h.trans (perm_sorted ts).symm) (pairwise_sorted ts)

namespace TextSet

variable {set set' set'' : TextSet} {s : String} {ss ts : List String}

/-! ## Sets that are alike -/

theorem Alike.refl (set : TextSet) : set.Alike set := List.Perm.refl _

theorem Alike.symm (h : set.Alike set') : set'.Alike set := List.Perm.symm h

theorem Alike.trans (h : set.Alike set') (h' : set'.Alike set'') : set.Alike set'' :=
  List.Perm.trans h h'

/-- Sets are alike exactly if they have the same members. -/
theorem alike_iff : set.Alike set' ↔ ∀ s, s ∈ set.members ↔ s ∈ set'.members :=
  List.perm_ext_iff_of_nodup set.nodup set'.nodup

theorem Alike.contains_eq (h : set.Alike set') (s : String) : set.contains s = set'.contains s :=
  List.Perm.contains_eq h

/-- Sets that are alike stay so when both get one more member. -/
theorem Alike.insert (h : set.Alike set') (s : String) : (set.insert s).Alike (set'.insert s) := by
  rw [alike_iff] at h ⊢
  intro t
  rw [mem_insert, mem_insert, h]

/-- The members of sets that are alike are told alike. -/
theorem Alike.sorted_eq (h : set.Alike set') : sorted set.members = sorted set'.members :=
  sorted_congr h

/-- A list has the members of a set, each of them once, in ascending order. -/
structure Lists (set : TextSet) (ss : List String) : Prop where
  ascending : ss.Pairwise (· < ·)
  mem_iff : ∀ s, s ∈ ss ↔ set.contains s = true

/-- Sorting the members lists them. -/
theorem lists_sorted (set : TextSet) : set.Lists (sorted set.members) where
  ascending := by
    have hnodup : (sorted set.members).Nodup := (perm_sorted set.members).nodup_iff.mpr set.nodup
    have hle : (sorted set.members).Pairwise (· ≤ ·) := pairwise_sorted set.members
    exact hle.imp₂ (fun _ _ hst hne => lt_of_le_of_ne hst hne) hnodup
  mem_iff s := by
    rw [mem_sorted, contains, List.contains_iff_mem]

/-! ## Sets of the texts in a list -/

theorem mem_members_ofList : s ∈ (ofList ss).members ↔ s ∈ ss := by
  have hcontains := contains_ofList ss s
  rw [contains] at hcontains
  rw [← List.contains_iff_mem, hcontains, List.contains_iff_mem]

/-- Lists with the same members make sets that are alike, whatever their order and their
repetitions. -/
theorem ofList_alike (h : ∀ s, s ∈ ss ↔ s ∈ ts) : (ofList ss).Alike (ofList ts) := by
  rw [alike_iff]
  intro s
  rw [mem_members_ofList, mem_members_ofList, h]

/-- Lists make sets of texts that are alike if each has, for every element of the other, one with
the same text. -/
theorem ofList_map_alike {α : Type} {f : α → String} {xs ys : List α}
    (hforth : ∀ x ∈ xs, ∃ y ∈ ys, f x = f y) (hback : ∀ y ∈ ys, ∃ x ∈ xs, f x = f y) :
    (ofList (xs.map f)).Alike (ofList (ys.map f)) := by
  apply ofList_alike
  intro s
  rw [List.mem_map, List.mem_map]
  constructor
  · rintro ⟨x, hx, rfl⟩
    obtain ⟨y, hy, htext⟩ := hforth x hx
    exact ⟨y, hy, htext.symm⟩
  · rintro ⟨y, hy, rfl⟩
    exact hback y hy

end TextSet

end RequestPipeline.Text
