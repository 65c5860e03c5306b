import RequestPipeline.Http.Header

/-!
# Sorted header sections

The fields of a section stay sorted by name (`Headers.Sorted`), so a section is determined by the
values of its names (`Headers.eq_of_values`), and a value that is added is the last one of its name
(`Headers.values_append_self`).
-/

set_option autoImplicit false

namespace RequestPipeline.Http

/-- Fields are sorted by name; those of one name may stand in any order. -/
def SortedFields (fs : List Field) : Prop := fs.Pairwise fun f g => f.name.text ≤ g.name.text

/-- The fields of a section are sorted by name. -/
def Headers.Sorted (h : Headers) : Prop := SortedFields h.fields

theorem HeaderName.text_injective {m n : HeaderName} (h : m.text = n.text) : m = n := by
  obtain ⟨⟩ := m
  obtain ⟨⟩ := n
  simpa using h

section Fields

variable {f g : Field} {fs gs : List Field}

theorem mem_place : g ∈ f.place fs ↔ g = f ∨ g ∈ fs := by
  induction fs with
  | nil => simp [Field.place]
  | cons x xs ih =>
    unfold Field.place
    split
    · simp
    · simp [ih, or_left_comm]

/-- Fields stay sorted when one is put in its place. -/
theorem SortedFields.place (h : SortedFields fs) : SortedFields (f.place fs) := by
  induction fs with
  | nil => exact List.pairwise_singleton _ _
  | cons x xs ih =>
    obtain ⟨hx, hxs⟩ := List.pairwise_cons.mp h
    unfold Field.place
    split
    · next hlt =>
      have hle : f.name.text ≤ x.name.text := String.not_lt.mp (String.lt_asymm hlt)
      refine List.pairwise_cons.mpr ⟨fun y hy => ?_, h⟩
      rcases List.mem_cons.mp hy with rfl | hy
      · exact hle
      · exact String.le_trans hle (hx y hy)
    · next hlt =>
      refine List.pairwise_cons.mpr ⟨fun y hy => ?_, ih hxs⟩
      rcases mem_place.mp hy with rfl | hy
      · exact String.not_lt.mp hlt
      · exact hx y hy

/-- A field is put behind all others of its name. -/
theorem SortedFields.filter_place (h : SortedFields fs) :
    (f.place fs).filter (fun x => x.name = f.name) =
      fs.filter (fun x => x.name = f.name) ++ [f] := by
  induction fs with
  | nil => simp [Field.place]
  | cons x xs ih =>
    obtain ⟨hx, hxs⟩ := List.pairwise_cons.mp h
    unfold Field.place
    split
    · next hlt =>
      -- every name behind comes later
      have hlater : ∀ y ∈ x :: xs, y.name ≠ f.name := by
        rintro y hy heq
        rw [← heq] at hlt
        rcases List.mem_cons.mp hy with rfl | hy
        · exact String.lt_irrefl _ hlt
        · exact absurd hlt (String.not_lt.mpr (hx y hy))
      have hnone : (x :: xs).filter (fun y => decide (y.name = f.name)) = [] :=
        List.filter_eq_nil_iff.mpr fun y hy => by simpa using hlater y hy
      rw [List.filter_cons_of_pos (by simp), hnone]
      rfl
    · rw [List.filter_cons, List.filter_cons, ih hxs]
      split <;> rfl

theorem Headers.Sorted.append {h : Headers} (hs : h.Sorted) (n : HeaderName) (v : HeaderValue) :
    (h.append n v).Sorted :=
  SortedFields.place hs

theorem Headers.Sorted.insert {h : Headers} (hs : h.Sorted) (n : HeaderName) (v : HeaderValue) :
    (h.insert n v).Sorted :=
  SortedFields.place (hs.filter _)

/-- The first fields of sorted lists have the same name if the lists have fields of the same names.
-/
theorem name_eq_of_sorted (hf : SortedFields (f :: fs)) (hg : SortedFields (g :: gs))
    (hfg : ∃ x ∈ g :: gs, x.name = f.name) (hgf : ∃ x ∈ f :: fs, x.name = g.name) :
    f.name = g.name := by
  have hle {a b : Field} {bs : List Field} (hb : SortedFields (b :: bs))
      (h : ∃ x ∈ b :: bs, x.name = a.name) : b.name.text ≤ a.name.text := by
    obtain ⟨x, hx, hname⟩ := h
    rcases List.mem_cons.mp hx with rfl | hx
    · exact hname ▸ String.le_refl x.name.text
    · exact hname ▸ (List.pairwise_cons.mp hb).1 x hx
  exact HeaderName.text_injective (String.le_antisymm (hle hf hgf) (hle hg hfg))

/-- Sorted fields are determined by those of each name. -/
theorem SortedFields.eq_of_filter (hf : SortedFields fs) (hg : SortedFields gs)
    (h : ∀ n, fs.filter (fun x => x.name = n) = gs.filter fun x => x.name = n) : fs = gs := by
  induction fs generalizing gs with
  | nil =>
    cases gs with
    | nil => rfl
    | cons g gs => simpa using h g.name
  | cons f fs ih =>
    cases gs with
    | nil => simpa using h f.name
    | cons g gs =>
      have hfound {a b : Field} {as bs : List Field}
          (hab : (a :: as).filter (fun x => x.name = a.name) =
            (b :: bs).filter fun x => x.name = a.name) :
          ∃ x ∈ b :: bs, x.name = a.name := by
        have hmem : a ∈ (b :: bs).filter fun x => x.name = a.name := by
          rw [← hab]
          simp
        obtain ⟨hmem, hname⟩ := List.mem_filter.mp hmem
        exact ⟨a, hmem, rfl⟩
      have hname : f.name = g.name :=
        name_eq_of_sorted hf hg (hfound (h f.name)) (hfound (h g.name).symm)
      -- the first field of its name is the first field
      have hhead := h f.name
      rw [List.filter_cons_of_pos (by simp), List.filter_cons_of_pos (by simp [hname])] at hhead
      obtain ⟨rfl, -⟩ := List.cons.inj hhead
      refine congrArg _ (ih (List.pairwise_cons.mp hf).2 (List.pairwise_cons.mp hg).2 fun n => ?_)
      have htail := h n
      by_cases hn : f.name = n <;> simpa [hn] using htail

end Fields

namespace Headers

theorem sorted_empty : empty.Sorted := List.Pairwise.nil

/-- A value is added behind those that its name has. -/
theorem values_append_self {h : Headers} (hs : h.Sorted) (n : HeaderName) (v : HeaderValue) :
    (h.append n v).values n = h.values n ++ [v] := by
  have hplaced := SortedFields.filter_place (f := ⟨n, v⟩) hs
  rw [values, append, hplaced, List.map_append]
  rfl

theorem filter_eq_map_values (h : Headers) (n : HeaderName) :
    h.fields.filter (fun x => x.name = n) = (h.values n).map (Field.mk n) := by
  rw [values, List.map_map]
  refine (List.map_id _).symm.trans (List.map_congr_left fun x hx => ?_)
  obtain ⟨name, value⟩ := x
  obtain rfl : name = n := by simpa using (List.mem_filter.mp hx).2
  rfl

/-- A sorted section is determined by the values of its names. -/
theorem eq_of_values {h h' : Headers} (hs : h.Sorted) (hs' : h'.Sorted)
    (hvalues : ∀ n, h.values n = h'.values n) : h = h' := by
  obtain ⟨fs⟩ := h
  obtain ⟨gs⟩ := h'
  have hfields : fs = gs := SortedFields.eq_of_filter hs hs' fun n => by
    rw [filter_eq_map_values ⟨fs⟩, filter_eq_map_values ⟨gs⟩, hvalues]
  rw [hfields]

end Headers

end RequestPipeline.Http
