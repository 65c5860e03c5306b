import Mathlib.Data.List.Nodup
import Mathlib.Data.Prod.Lex
import RequestPipeline.Filter.Plan

/-!
# The order of a plan

The registrations of a plan, each with the position at which it was declared, stand in the strict
order of their keys: by order, of equal order by scope, and otherwise by that position
(`pairwise_declared`). Nothing is lost or repeated on the way (`declared_perm`), so a plan is known
from the keys alone (`resolve_collect_sorted`).
-/

set_option autoImplicit false

namespace RequestPipeline

/-! ## Keys -/

/-- What a listing is sorted by: its order, then its scope. -/
def Listing.level (l : Listing) : Int ×ₗ Nat := toLex (l.order, l.scope.rank)

theorem Listing.precedes_iff {a b : Listing} : a.precedes b = true ↔ a.level ≤ b.level := by
  simp [precedes, level, Prod.Lex.toLex_le_toLex]

/-- What a registration that is declared at a position is sorted by. -/
def Registration.key (r : Registration) (i : Nat) : Int ×ₗ Nat ×ₗ Nat :=
  toLex (r.listing.order, toLex (r.listing.scope.rank, i))

/-- Of two registrations the one of the lower level has the lower key, and of equal level the one
declared earlier. -/
theorem Registration.key_lt_iff {a b : Registration} {i j : Nat} :
    a.key i < b.key j ↔
      a.listing.level < b.listing.level ∨ (a.listing.level = b.listing.level ∧ i < j) := by
  simp only [key, Listing.level, Prod.Lex.toLex_lt_toLex, EmbeddingLike.apply_eq_iff_eq,
    Prod.mk.injEq]
  tauto

theorem Registration.key_injective {a b : Registration} {i j : Nat} (h : a.key i = b.key j) :
    i = j := by
  simp only [key, EmbeddingLike.apply_eq_iff_eq, Prod.mk.injEq] at h
  exact h.2.2

namespace Plan

/-! ## Plans with the positions of declaration -/

/-- The registrations of a plan in its order, each with the position of its declaration. -/
def declared (rs : List Registration) : List (Registration × Nat) :=
  rs.zipIdx.mergeSort (List.zipIdxLE fun a b => a.listing.precedes b.listing)

theorem map_fst_declared (rs : List Registration) :
    (declared rs).map Prod.fst = (resolve rs).registrations :=
  List.mergeSort_zipIdx

theorem declared_perm (rs : List Registration) : (declared rs).Perm rs.zipIdx :=
  List.mergeSort_perm _ _

/-- A registration stands in a plan with the position at which it was declared. -/
theorem mem_declared {rs : List Registration} {r : Registration} {i : Nat} :
    (r, i) ∈ declared rs ↔ rs[i]? = some r := by
  rw [(declared_perm rs).mem_iff, List.mem_zipIdx_iff_getElem?]

/-- No position of a declaration occurs twice in a plan. -/
theorem nodup_map_snd_declared (rs : List Registration) :
    ((declared rs).map Prod.snd).Nodup := by
  rw [((declared_perm rs).map Prod.snd).nodup_iff, List.zipIdx_map_snd]
  exact List.nodup_range'

/-- Of two registrations that may stand in this order, the first has the lower key or they are the
same declaration. -/
theorem zipIdxLE_precedes_iff {x y : Registration × Nat} :
    List.zipIdxLE (fun a b => a.listing.precedes b.listing) x y = true ↔
      x.1.key x.2 ≤ y.1.key y.2 := by
  obtain ⟨a, i⟩ := x
  obtain ⟨b, j⟩ := y
  have hkey : a.key i ≤ b.key j ↔
      a.listing.level < b.listing.level ∨ (a.listing.level = b.listing.level ∧ i ≤ j) := by
    rw [← not_lt, Registration.key_lt_iff, not_or, not_and, not_lt, not_lt, le_iff_lt_or_eq]
    constructor
    · rintro ⟨hlt | heq, hle⟩
      · exact .inl hlt
      · exact .inr ⟨heq, hle heq.symm⟩
    · rintro (hlt | ⟨heq, hle⟩)
      · exact ⟨.inl hlt, fun h => absurd h hlt.ne'⟩
      · exact ⟨.inr heq, fun _ => hle⟩
  rw [hkey]
  -- the comparison looks at the positions only if each may stand in front of the other
  by_cases hab : a.listing.level ≤ b.listing.level
  · by_cases hba : b.listing.level ≤ a.listing.level
    · simp [List.zipIdxLE, Listing.precedes_iff, le_antisymm hab hba]
    · simp [List.zipIdxLE, Listing.precedes_iff, hab, hba, not_le.mp hba]
  · simp [List.zipIdxLE, Listing.precedes_iff, hab, not_lt.mpr (not_le.mp hab).le,
      (not_le.mp hab).ne']

/-- The keys of a plan increase from the first registration to the last. -/
theorem pairwise_declared (rs : List Registration) :
    (declared rs).Pairwise fun x y => x.1.key x.2 < y.1.key y.2 := by
  have hsorted : (declared rs).Pairwise fun x y => x.1.key x.2 ≤ y.1.key y.2 := by
    refine (List.pairwise_mergeSort ?_ ?_ _).imp zipIdxLE_precedes_iff.mp
    · intro x y z
      simpa only [zipIdxLE_precedes_iff] using le_trans
    · intro x y
      simpa only [Bool.or_eq_true, zipIdxLE_precedes_iff] using le_total _ _
  -- different places hold different positions of declaration, so keys are not equal
  have hdistinct : (declared rs).Pairwise fun x y => x.2 ≠ y.2 :=
    List.pairwise_map.mp (nodup_map_snd_declared rs)
  refine (hsorted.and hdistinct).imp ?_
  rintro x y ⟨hle, hne⟩
  exact lt_of_le_of_ne hle fun h => hne (Registration.key_injective h)

/-- Of two places in a plan the one in front is the one with the lower key. -/
theorem lt_iff_key_lt {rs : List Registration} {k l : Nat} {a b : Registration} {i j : Nat}
    (hk : (declared rs)[k]? = some (a, i)) (hl : (declared rs)[l]? = some (b, j)) :
    k < l ↔ a.key i < b.key j := by
  have hlt {k l : Nat} {x y : Registration × Nat} (hk : (declared rs)[k]? = some x)
      (hl : (declared rs)[l]? = some y) (h : k < l) : x.1.key x.2 < y.1.key y.2 := by
    obtain ⟨hk', rfl⟩ := List.getElem?_eq_some_iff.mp hk
    obtain ⟨hl', rfl⟩ := List.getElem?_eq_some_iff.mp hl
    exact List.pairwise_iff_getElem.mp (pairwise_declared rs) k l hk' hl' h
  refine ⟨hlt hk hl, fun h => ?_⟩
  rcases Nat.lt_trichotomy k l with hkl | rfl | hkl
  · exact hkl
  · obtain ⟨rfl, rfl⟩ : a = b ∧ i = j := by simpa [hk] using hl
    exact absurd h (lt_irrefl _)
  · exact absurd h (hlt hl hk hkl).asymm

/-! ## Plans without them -/

theorem pairwise_resolve (rs : List Registration) :
    (resolve rs).registrations.Pairwise fun a b => a.listing.precedes b.listing = true := by
  refine List.pairwise_mergeSort ?_ ?_ rs
  · intro a b c
    simpa only [Listing.precedes_iff] using le_trans
  · intro a b
    simpa only [Bool.or_eq_true, Listing.precedes_iff] using le_total _ _

/-- A plan of the registrations of a plan is that plan. -/
theorem resolve_registrations_resolve (rs : List Registration) :
    resolve (resolve rs).registrations = resolve rs :=
  congrArg Plan.mk (List.mergeSort_of_pairwise (pairwise_resolve rs))

/-- If no two registrations have the same level, it does not matter in which order they were
declared. -/
theorem resolve_eq_of_perm {rs rs' : List Registration} (h : rs'.Perm rs)
    (hlevels : (rs.map fun r => r.listing.level).Nodup) : resolve rs' = resolve rs := by
  have hperm : (resolve rs').registrations.Perm (resolve rs).registrations :=
    (List.mergeSort_perm _ _).trans (h.trans (List.mergeSort_perm _ _).symm)
  refine congrArg Plan.mk (List.Perm.eq_of_pairwise ?_ (pairwise_resolve rs') (pairwise_resolve rs)
    hperm)
  intro a b ha hb hab hba
  have ha' : a ∈ rs := h.subset ((List.mergeSort_perm _ _).subset ha)
  have hb' : b ∈ rs := (List.mergeSort_perm _ _).subset hb
  have hlevel : a.listing.level = b.listing.level :=
    le_antisymm (Listing.precedes_iff.mp hab) (Listing.precedes_iff.mp hba)
  exact List.inj_on_of_nodup_map hlevels ha' hb' hlevel

end Plan

/-! ## Plans of a catalog -/

/-- Every registration that concerns an action, with the scope of the place where it is declared. -/
def Catalog.declared (c : Catalog) (d : Declaration) : List (Scope × Registration) :=
  c.global.map (Prod.mk .global) ++ d.controller.map (Prod.mk .controller) ++
    d.action.map (Prod.mk .action)

/-- Of a registration nothing but its scope is changed, to that of the place of declaration. -/
theorem Catalog.collect_eq (c : Catalog) (d : Declaration) :
    c.collect d =
      (c.declared d).map fun x => ⟨{ x.2.listing with scope := x.1 }, x.2.source⟩ := by
  simp [collect, declared, Registration.withScope, Function.comp_def]

/-- The plan of an action holds every registration that concerns it exactly once, with nothing but
the scope changed. Of two registrations the one of the lower level stands in front, and of equal
level the one declared earlier. A plan of the registrations of a plan is that plan, and if all
levels differ, the order of declaration does not matter. -/
theorem resolve_collect_sorted (c : Catalog) (d : Declaration) :
    let rs := c.collect d
    rs = ((c.declared d).map fun x => ⟨{ x.2.listing with scope := x.1 }, x.2.source⟩) ∧
      (∃ ds : List (Registration × Nat), ds.Perm rs.zipIdx ∧
        (Plan.resolve rs).registrations = ds.map Prod.fst ∧
        ∀ (k l : Nat) (a b : Registration) (i j : Nat),
          ds[k]? = some (a, i) → ds[l]? = some (b, j) →
          (k < l ↔ a.listing.level < b.listing.level ∨
            (a.listing.level = b.listing.level ∧ i < j))) ∧
      (∀ ts, Plan.resolve (Plan.resolve ts).registrations = Plan.resolve ts) ∧
      ∀ ts us, us.Perm ts → (ts.map fun r => r.listing.level).Nodup →
        Plan.resolve us = Plan.resolve ts := by
  intro rs
  refine ⟨c.collect_eq d, ⟨Plan.declared rs, Plan.declared_perm rs,
    (Plan.map_fst_declared rs).symm, ?_⟩, Plan.resolve_registrations_resolve,
    fun _ _ => Plan.resolve_eq_of_perm⟩
  intro k l a b i j hk hl
  rw [Plan.lt_iff_key_lt hk hl, Registration.key_lt_iff]

/-- A filter that is declared globally and for the action stands twice in the plan, and it does not
matter which declaration came first. -/
theorem resolve_collect_sorted_shared :
    let r : Registration := .shared .action { name := "log" }
    let rs := Catalog.collect ⟨[r]⟩ ⟨[], [r]⟩
    (∃ a b, (Plan.resolve rs).registrations = [a, b] ∧ a.listing.level < b.listing.level) ∧
      (rs.map fun r => r.listing.level).Nodup ∧ Plan.resolve rs.reverse = Plan.resolve rs := by
  intro r rs
  obtain ⟨-, ⟨ds, hperm, hplan, hlt⟩, -, hany⟩ := resolve_collect_sorted ⟨[r]⟩ ⟨[], [r]⟩
  have hlevels : (rs.map fun r => r.listing.level).Nodup := by decide
  refine ⟨?_, hlevels, hany rs rs.reverse rs.reverse_perm hlevels⟩
  have hlength : ds.length = 2 := hperm.length_eq
  obtain ⟨⟨a, i⟩, ⟨b, j⟩, rfl⟩ := List.length_eq_two.mp hlength
  refine ⟨a, b, hplan, ?_⟩
  rcases (hlt 0 1 a b i j rfl rfl).mp Nat.zero_lt_one with h | ⟨heq, -⟩
  · exact h
  · -- the two stand in the plan, so their levels differ
    have hmap : [a.listing.level, b.listing.level].Perm (rs.map fun r => r.listing.level) :=
      hperm.map fun x : Registration × Nat => x.1.listing.level
    have hnodup := hmap.nodup_iff.mpr hlevels
    simp [heq] at hnodup

end RequestPipeline
