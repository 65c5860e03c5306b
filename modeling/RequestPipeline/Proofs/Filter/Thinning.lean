import RequestPipeline.Proofs.Filter.Authority

/-!
# Plans with registrations deleted

When some of the declared registrations are deleted, the others keep their order: the plan of what
remains is the plan of all, thinned out (`resolve_remaining`), and each remaining registration has
its rank as its new position (`Plan.seat`). If no registration that was in charge of a policy is
deleted, the same ones are in charge as before (`holder?_filter`).
-/

set_option autoImplicit false

namespace RequestPipeline

/-! ## Ranks -/

section Rank

variable {α : Type} {p : α → Bool} {xs : List α} {k k' l l' : Nat} {x : α}

/-- The position that a member has among those that pass a test, if it passes. -/
def rank (p : α → Bool) : List α → Nat → Option Nat
  | [], _ => none
  | x :: _, 0 => if p x then some 0 else none
  | x :: xs, k + 1 => (rank p xs k).map fun l => if p x then l + 1 else l

theorem getElem?_filter_of_rank (h : rank p xs k = some l) : (xs.filter p)[l]? = xs[k]? := by
  induction xs generalizing k l with
  | nil => cases h
  | cons x xs ih =>
    cases k with
    | zero =>
      obtain ⟨hx, rfl⟩ : p x = true ∧ 0 = l := by simpa [rank] using h
      simp [hx]
    | succ k =>
      obtain ⟨n, hn, rfl⟩ := Option.map_eq_some_iff.mp h
      by_cases hx : p x = true
      · simp [hx, ih hn]
      · simp [hx, ih hn]

/-- Exactly the members that pass the test have a rank. -/
theorem isSome_rank (h : xs[k]? = some x) : (rank p xs k).isSome = p x := by
  induction xs generalizing k with
  | nil => simp at h
  | cons y xs ih =>
    cases k with
    | zero =>
      obtain rfl : y = x := by simpa using h
      cases hy : p y <;> simp [rank, hy]
    | succ k => simp [rank, ih (k := k) (by simpa using h)]

/-- Ranks grow with positions. -/
theorem rank_lt (h : rank p xs k = some l) (h' : rank p xs k' = some l') (hlt : k < k') :
    l < l' := by
  induction xs generalizing k k' l l' with
  | nil => cases h
  | cons x xs ih =>
    obtain ⟨k', rfl⟩ : ∃ n, k' = n + 1 := ⟨k' - 1, by omega⟩
    obtain ⟨n', hn', rfl⟩ := Option.map_eq_some_iff.mp h'
    cases k with
    | zero =>
      obtain ⟨hx, rfl⟩ : p x = true ∧ 0 = l := by simpa [rank] using h
      simp [hx]
    | succ k =>
      obtain ⟨n, hn, rfl⟩ := Option.map_eq_some_iff.mp h
      have hrest := ih hn hn' (by omega)
      by_cases hx : p x = true <;> simp [hx, hrest]

theorem rank_lt_iff (h : rank p xs k = some l) (h' : rank p xs k' = some l') :
    k < k' ↔ l < l' := by
  refine ⟨rank_lt h h', fun hlt => ?_⟩
  rcases Nat.lt_trichotomy k k' with hkk | rfl | hkk
  · exact hkk
  · rw [h] at h'
    obtain rfl := Option.some.inj h'
    exact absurd hlt (lt_irrefl _)
  · exact absurd hlt (rank_lt h' h hkk).asymm

theorem rank_injective (h : rank p xs k = some l) (h' : rank p xs k' = some l) : k = k' := by
  rcases Nat.lt_trichotomy k k' with hkk | rfl | hkk
  · exact absurd (rank_lt h h' hkk) (lt_irrefl _)
  · rfl
  · exact absurd (rank_lt h' h hkk) (lt_irrefl _)

/-- Each of the members that pass the test has a rank. -/
theorem exists_rank (h : (xs.filter p)[l]? = some x) : ∃ k, rank p xs k = some l := by
  induction xs generalizing l with
  | nil => simp at h
  | cons y xs ih =>
    by_cases hy : p y = true
    · rw [List.filter_cons_of_pos hy] at h
      cases l with
      | zero => exact ⟨0, by simp [rank, hy]⟩
      | succ l =>
        obtain ⟨k, hk⟩ := ih (l := l) (by simpa using h)
        exact ⟨k + 1, by simp [rank, hk, hy]⟩
    · rw [List.filter_cons_of_neg hy] at h
      obtain ⟨k, hk⟩ := ih h
      exact ⟨k + 1, by simp [rank, hk, hy]⟩

end Rank

/-! ## Who is in charge -/

section Charge

variable {α : Type} {p : α → Bool} {xs : List α} {g : α → Listing} {m : Marker}

theorem Listing.IsLastCarrier.unique {ls : List Listing} {k l : Nat} (h : IsLastCarrier ls m k)
    (h' : IsLastCarrier ls m l) : k = l := by
  obtain ⟨⟨a, ha, hcarries⟩, hlast⟩ := h
  obtain ⟨⟨b, hb, hcarries'⟩, hlast'⟩ := h'
  rcases Nat.lt_trichotomy k l with hkl | rfl | hkl
  · simp [hlast l b hkl hb] at hcarries'
  · rfl
  · simp [hlast' k a hkl ha] at hcarries

/-- If the last carrier of a policy passes the test, it is the last among those that do. -/
theorem Listing.IsLastCarrier.filter {k l : Nat} (h : IsLastCarrier (xs.map g) m k)
    (hl : rank p xs k = some l) : IsLastCarrier ((xs.filter p).map g) m l := by
  obtain ⟨⟨a, ha, hcarries⟩, hlast⟩ := h
  refine ⟨⟨a, ?_, hcarries⟩, fun j b hj hb => ?_⟩
  · rw [List.getElem?_map, getElem?_filter_of_rank hl, ← List.getElem?_map, ha]
  · -- one further back among them is further back among all
    rw [List.getElem?_map, Option.map_eq_some_iff] at hb
    obtain ⟨x, hx, rfl⟩ := hb
    obtain ⟨n, hn⟩ := exists_rank hx
    rw [getElem?_filter_of_rank hn] at hx
    exact hlast n (g x) ((rank_lt_iff hl hn).mpr hj) (by simp [hx])

/-- If whoever is in charge of a policy passes the test, the same one is in charge among those that
do, by its rank. -/
theorem holder?_filter (h : ∀ k, (Listing.authority (xs.map g)).holder? m = some k →
      (rank p xs k).isSome) :
    (Listing.authority ((xs.filter p).map g)).holder? m =
      ((Listing.authority (xs.map g)).holder? m).bind (rank p xs) := by
  cases hk : (Listing.authority (xs.map g)).holder? m with
  | none =>
    rw [Listing.holder?_authority_eq_none_iff, List.forall_mem_map] at hk
    rw [Option.bind_none, Listing.holder?_authority_eq_none_iff, List.forall_mem_map]
    exact fun x hx => hk x (List.mem_of_mem_filter hx)
  | some k =>
    obtain ⟨l, hl⟩ := Option.isSome_iff_exists.mp (h k hk)
    have hlast := (Listing.isLastCarrier_of_holder? hk).filter hl
    rw [Option.bind_some, hl]
    -- the rank of the last carrier is a last carrier, and there is only one
    rcases Listing.authority_cases ((xs.filter p).map g) m with ⟨hnone, -⟩ | ⟨j, hj, hholder⟩
    · obtain ⟨⟨a, ha, hcarries⟩, -⟩ := hlast
      simp [hnone a (List.mem_of_getElem? ha)] at hcarries
    · rw [hholder, hlast.unique hj]

end Charge

/-! ## Plans -/

namespace Plan

variable {deleted : Nat → Bool} {rs : List Registration}

/-- The registrations that remain of a declaration when those in some positions are deleted. -/
def remaining (deleted : Nat → Bool) (rs : List Registration) : List Registration :=
  (rs.zipIdx.filter fun x => !deleted x.2).map Prod.fst

/-- The position at which a registration stands declared in what remains. -/
def shifted (deleted : Nat → Bool) (rs : List Registration) (i : Nat) : Nat :=
  (RequestPipeline.rank (fun x => !deleted x.2) rs.zipIdx i).getD 0

theorem zipIdx_remaining :
    (remaining deleted rs).zipIdx =
      (rs.zipIdx.filter fun x => !deleted x.2).map fun x => (x.1, shifted deleted rs x.2) := by
  refine List.ext_getElem? fun l => ?_
  rw [List.getElem?_zipIdx, remaining, List.getElem?_map, List.getElem?_map, Nat.zero_add,
    Option.map_map]
  cases hx : (rs.zipIdx.filter fun x => !deleted x.2)[l]? with
  | none => rfl
  | some x =>
    obtain ⟨k, hk⟩ := exists_rank hx
    rw [getElem?_filter_of_rank hk, List.getElem?_zipIdx, Nat.zero_add,
      Option.map_eq_some_iff] at hx
    obtain ⟨r, -, rfl⟩ := hx
    simp [shifted, hk]

/-- Registrations that remain are declared in the same order as before. -/
theorem shifted_lt {x y : Registration × Nat} (hx : x ∈ (declared rs).filter fun x => !deleted x.2)
    (hy : y ∈ (declared rs).filter fun x => !deleted x.2) (h : x.2 < y.2) :
    shifted deleted rs x.2 < shifted deleted rs y.2 := by
  have hrank {x : Registration × Nat} (hx : x ∈ (declared rs).filter fun x => !deleted x.2) :
      ∃ l, RequestPipeline.rank (fun x => !deleted x.2) rs.zipIdx x.2 = some l := by
    obtain ⟨hmem, hkept⟩ := List.mem_filter.mp hx
    have hdeclared : rs[x.2]? = some x.1 := mem_declared.mp hmem
    have hget : rs.zipIdx[x.2]? = some x := by simp [List.getElem?_zipIdx, hdeclared]
    exact Option.isSome_iff_exists.mp ((isSome_rank hget).trans hkept)
  obtain ⟨l, hl⟩ := hrank hx
  obtain ⟨l', hl'⟩ := hrank hy
  simpa [shifted, hl, hl'] using rank_lt hl hl' h

/-- In the plan of what remains the registrations stand in the order of the plan of all. -/
theorem declared_remaining :
    declared (remaining deleted rs) =
      ((declared rs).filter fun x => !deleted x.2).map fun x => (x.1, shifted deleted rs x.2) := by
  have hperm : (declared (remaining deleted rs)).Perm
      (((declared rs).filter fun x => !deleted x.2).map fun x =>
        (x.1, shifted deleted rs x.2)) := by
    refine (declared_perm _).trans ?_
    rw [zipIdx_remaining]
    exact (((declared_perm rs).filter _).map _).symm
  have hsorted : (((declared rs).filter fun x => !deleted x.2).map fun x =>
      (x.1, shifted deleted rs x.2)).Pairwise fun x y => x.1.key x.2 < y.1.key y.2 := by
    rw [List.pairwise_map]
    -- of equal level it is the position that decides, and shifting keeps its order
    refine ((pairwise_declared rs).filter _).imp_of_mem fun {x y} hx hy hlt => ?_
    rw [Registration.key_lt_iff] at hlt ⊢
    exact hlt.imp_right fun ⟨hlevel, hlt⟩ => ⟨hlevel, shifted_lt hx hy hlt⟩
  exact hperm.eq_of_pairwise (fun x y _ _ hxy hyx => absurd hyx hxy.asymm) (pairwise_declared _)
    hsorted

/-- The plan of what remains is the plan of all, thinned out. -/
theorem resolve_remaining :
    (resolve (remaining deleted rs)).registrations =
      ((declared rs).filter fun x => !deleted x.2).map Prod.fst := by
  rw [← map_fst_declared, declared_remaining, List.map_map]
  rfl

/-- The new place of a registration in the plan of what remains, by its place in the plan of all. -/
def seat (deleted : Nat → Bool) (rs : List Registration) : Nat → Option Nat :=
  RequestPipeline.rank (fun x => !deleted x.2) (declared rs)

end Plan

end RequestPipeline
