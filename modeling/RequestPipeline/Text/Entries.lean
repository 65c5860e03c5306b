/-!
# Entries by name

In a list of entries the first of a name counts. If each name has one entry at most, looking a name
up finds its entry wherever it stands, so the order of the entries is of no account.
-/

set_option autoImplicit false

namespace RequestPipeline.Text

section Entries

variable {α β : Type} [BEq α] [LawfulBEq α] {es es' : List (α × β)} {k n : α} {b : β}
  {p : α × β → Bool}

/-- An entry of another name does not matter to a name. -/
theorem lookup_cons_of_ne (h : k ≠ n) : ((n, b) :: es).lookup k = es.lookup k := by
  rw [List.lookup_cons, beq_eq_false_iff_ne.mpr h]

theorem lookup_eq_none_iff_not_mem : es.lookup k = none ↔ k ∉ es.map Prod.fst := by
  rw [List.lookup_eq_none_iff, List.mem_map, not_exists]
  refine forall_congr' fun e => ?_
  rw [not_and, bne_iff_ne]
  exact imp_congr_right fun _ => ne_comm

/-- Dropping entries of other names does not matter to a name. -/
theorem lookup_filter_of_kept (h : ∀ b, p (k, b) = true) :
    (es.filter p).lookup k = es.lookup k := by
  induction es with
  | nil => rfl
  | cons e es ih =>
    obtain ⟨n, c⟩ := e
    by_cases hn : k = n
    · subst hn
      rw [List.filter_cons_of_pos (h c), List.lookup_cons_self, List.lookup_cons_self]
    · rw [List.filter_cons, lookup_cons_of_ne hn, ← ih]
      split
      · exact lookup_cons_of_ne hn
      · rfl

/-- A name whose entries are dropped has none. -/
theorem lookup_filter_of_dropped (h : ∀ b, p (k, b) = false) : (es.filter p).lookup k = none := by
  rw [lookup_eq_none_iff_not_mem]
  intro hmem
  obtain ⟨⟨k, b⟩, he, rfl⟩ := List.mem_map.mp hmem
  have hkept : p (k, b) = true := (List.mem_filter.mp he).2
  exact absurd (h b) (by simp [hkept])

/-- If each name has one entry at most, looking a name up finds its entry. -/
theorem lookup_eq_some_iff_mem (h : (es.map Prod.fst).Nodup) :
    es.lookup k = some b ↔ (k, b) ∈ es := by
  induction es with
  | nil => simp
  | cons e es ih =>
    obtain ⟨n, c⟩ := e
    rw [List.map_cons, List.nodup_cons] at h
    by_cases hn : k = n
    · subst hn
      have hfresh : (k, b) ∉ es := fun he => h.1 (List.mem_map.mpr ⟨_, he, rfl⟩)
      simp [hfresh, eq_comm]
    · simp [lookup_cons_of_ne hn, hn, ih h.2]

/-- Then the order of the entries is of no account. -/
theorem lookup_of_perm (h : (es.map Prod.fst).Nodup) (hp : es.Perm es') :
    es.lookup k = es'.lookup k := by
  refine Option.ext fun b => ?_
  rw [lookup_eq_some_iff_mem h, lookup_eq_some_iff_mem ((hp.map Prod.fst).nodup_iff.mp h),
    hp.mem_iff]

end Entries

end RequestPipeline.Text
