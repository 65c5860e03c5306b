import Mathlib.Data.List.Nodup
import RequestPipeline.Proofs.Http.Header
import RequestPipeline.Proofs.Http.Sorted

/-!
# Header sections that are moved

A section that takes over the values of another one name by name has these values for each name that
is given, in their order, and its own values for every other name (`values_takeOver`). So a section
is moved into an empty one without a change (`values_moved`).
-/

set_option autoImplicit false

namespace RequestPipeline.Http.Headers

/-! ## Names of a section -/

section Names

variable {h : Headers} {n : HeaderName}

theorem nodup_names (h : Headers) : h.names.Nodup := by
  unfold names
  induction h.fields with
  | nil => exact List.nodup_nil
  | cons f fs ih =>
    rw [List.foldr_cons, List.nodup_cons]
    exact ⟨by simp, ih.filter _⟩

theorem mem_names_iff : n ∈ h.names ↔ h.values n ≠ [] := by
  obtain ⟨fs⟩ := h
  unfold names values
  induction fs with
  | nil => simp
  | cons f fs ih =>
    rw [List.foldr_cons, List.mem_cons, List.mem_filter, ih]
    by_cases hf : f.name = n
    · simp [hf]
    · simp [hf, Ne.symm hf]

theorem group?_eq_some_iff {g : NamedValues} :
    h.group? n = some g ↔ g.name = n ∧ g.first :: g.more = h.values n := by
  unfold group?
  obtain ⟨name, first, more⟩ := g
  cases h.values n with
  | nil => simp
  | cons v vs => simp [eq_comm]

/-- Each name has one group. -/
theorem nodup_map_name_grouped (h : Headers) : (h.grouped.map NamedValues.name).Nodup := by
  -- each name has a value, so none of them is without a group
  have hname : ∀ n ∈ h.names, (h.group? n).map NamedValues.name = some n := by
    intro n hn
    obtain ⟨v, vs, hvalues⟩ := List.exists_cons_of_ne_nil (mem_names_iff.mp hn)
    simp [group?, hvalues]
  have hnames : h.grouped.map NamedValues.name = h.names := by
    rw [grouped, List.map_filterMap, List.filterMap_congr hname]
    exact List.filterMap_some
  rw [hnames]
  exact h.nodup_names

theorem mem_grouped_iff {g : NamedValues} :
    g ∈ h.grouped ↔ g.first :: g.more = h.values g.name := by
  rw [grouped, List.mem_filterMap]
  constructor
  · rintro ⟨n, -, hg⟩
    obtain ⟨rfl, hvalues⟩ := group?_eq_some_iff.mp hg
    exact hvalues
  · intro hvalues
    refine ⟨g.name, mem_names_iff.mpr ?_, group?_eq_some_iff.mpr ⟨rfl, hvalues⟩⟩
    rw [← hvalues]
    exact List.cons_ne_nil _ _

end Names

/-! ## Taking over -/

section TakeOver

variable {h : Headers} {n : HeaderName} {g : NamedValues} {gs : List NamedValues}

theorem sorted_foldl_append (hs : h.Sorted) (n : HeaderName) (vs : List HeaderValue) :
    (vs.foldl (fun h v => h.append n v) h).Sorted := by
  induction vs generalizing h with
  | nil => exact hs
  | cons v vs ih => exact ih (hs.append n v)

theorem values_foldl_append (hs : h.Sorted) (n : HeaderName) (vs : List HeaderValue) :
    (vs.foldl (fun h v => h.append n v) h).values n = h.values n ++ vs := by
  induction vs generalizing h with
  | nil => simp
  | cons v vs ih =>
    rw [List.foldl_cons, ih (hs.append n v), values_append_self hs, List.append_assoc]
    rfl

theorem values_foldl_append_ne {m : HeaderName} (hmn : m ≠ n) (vs : List HeaderValue) :
    (vs.foldl (fun h v => h.append m v) h).values n = h.values n := by
  induction vs generalizing h with
  | nil => rfl
  | cons v vs ih => rw [List.foldl_cons, ih, values_append_ne h v hmn]

theorem Sorted.takeName (hs : h.Sorted) (g : NamedValues) : (h.takeName g).Sorted :=
  sorted_foldl_append (hs.insert g.name g.first) g.name g.more

/-- A name that is taken over has the values that are given, in their order. -/
theorem values_takeName_self (hs : h.Sorted) (g : NamedValues) :
    (h.takeName g).values g.name = g.first :: g.more := by
  rw [Headers.takeName, values_foldl_append (hs.insert g.name g.first), values_insert_self]
  rfl

theorem values_takeName_ne (h : Headers) (hgn : g.name ≠ n) :
    (h.takeName g).values n = h.values n := by
  rw [Headers.takeName, values_foldl_append_ne hgn, values_insert_ne h g.first hgn]

theorem values_takeOver_of_not_mem (h : Headers) (hn : n ∉ gs.map NamedValues.name) :
    (h.takeOver gs).values n = h.values n := by
  induction gs generalizing h with
  | nil => rfl
  | cons g gs ih =>
    rw [List.map_cons, List.mem_cons, not_or] at hn
    show ((h.takeName g).takeOver gs).values n = _
    rw [ih _ hn.2, values_takeName_ne h (Ne.symm hn.1)]

/-- If each name is given once, it has the values that are given. -/
theorem values_takeOver (hs : h.Sorted) (hnodup : (gs.map NamedValues.name).Nodup)
    (hg : g ∈ gs) : (h.takeOver gs).values g.name = g.first :: g.more := by
  induction gs generalizing h with
  | nil => cases hg
  | cons x gs ih =>
    rw [List.map_cons, List.nodup_cons] at hnodup
    show ((h.takeName x).takeOver gs).values g.name = _
    rcases List.mem_cons.mp hg with rfl | hg
    · -- the name is not given again
      rw [values_takeOver_of_not_mem _ hnodup.1, values_takeName_self hs]
    · exact ih (hs.takeName x) hnodup.2 hg

end TakeOver

/-! ## Moving -/

/-- A section that is moved into an empty one keeps the values of every name, in their order. -/
theorem values_moved (h : Headers) (n : HeaderName) :
    (empty.takeOver h.grouped).values n = h.values n := by
  cases hvalues : h.values n with
  | nil =>
    -- nothing is taken over for the name
    have hnone : n ∉ h.grouped.map NamedValues.name := by
      intro hmem
      obtain ⟨g, hg, rfl⟩ := List.mem_map.mp hmem
      rw [mem_grouped_iff, hvalues] at hg
      cases hg
    exact values_takeOver_of_not_mem empty hnone
  | cons v vs =>
    have hg : (⟨n, v, vs⟩ : NamedValues) ∈ h.grouped := mem_grouped_iff.mpr hvalues.symm
    exact values_takeOver sorted_empty h.nodup_map_name_grouped hg

end RequestPipeline.Http.Headers
