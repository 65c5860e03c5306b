import RequestPipeline.Text.Split

/-!
# Parts of a text

A text that is put together from parts without a separator is split into these parts again
(`split_intercalate`). A separator of two underscores leaves parts that put the text together
again (`intercalate_splitDoubleUnderscore`).
-/

set_option autoImplicit false

namespace RequestPipeline.Text

theorem splitChars_eq_splitOn (sep : Char) (cs : List Char) :
    splitChars sep cs = cs.splitOn sep := by
  induction cs with
  | nil => rfl
  | cons c cs ih =>
    rw [List.splitOn_eq_splitOnP] at ih
    rw [List.splitOn_eq_splitOnP, List.splitOnP_cons_eq_if_modifyHead, ← ih]
    obtain ⟨part, parts, hparts⟩ := List.exists_cons_of_ne_nil (splitChars_ne_nil sep cs)
    by_cases h : c = sep <;> simp [splitChars, hparts, h]

/-- Parts without a separator are what a text splits into that is put together from them. -/
theorem split_intercalate {sep : Char} {parts : List String} (hne : parts ≠ [])
    (hplain : ∀ part ∈ parts, sep ∉ part.toList) :
    split sep ((String.singleton sep).intercalate parts) = parts := by
  have hchars : splitChars sep ((String.singleton sep).intercalate parts).toList =
      parts.map String.toList := by
    rw [splitChars_eq_splitOn, String.toList_intercalate, String.toList_singleton]
    apply List.splitOn_intercalate
    · intro cs hcs
      obtain ⟨part, hpart, rfl⟩ := List.mem_map.mp hcs
      exact hplain part hpart
    · simpa using hne
  rw [split, hchars, List.map_map]
  simp [Function.comp_def]

theorem splitDoubleUnderscore_ne_nil (cs : List Char) : splitDoubleUnderscore cs ≠ [] := by
  fun_cases splitDoubleUnderscore cs <;> simp

/-- The parts between two underscores put the text together again. -/
theorem intercalate_splitDoubleUnderscore (cs : List Char) :
    ['_', '_'].intercalate (splitDoubleUnderscore cs) = cs := by
  fun_induction splitDoubleUnderscore cs with
  | case1 => rfl
  | case2 rest ih =>
    -- the part in front of the separator is empty, and there is one behind it
    obtain ⟨part, parts, hparts⟩ :=
      List.exists_cons_of_ne_nil (splitDoubleUnderscore_ne_nil rest)
    rw [hparts] at ih ⊢
    rw [List.intercalate_cons_cons, ih]
    rfl
  | case3 c rest _ hparts => exact absurd hparts (splitDoubleUnderscore_ne_nil rest)
  | case4 c rest _ part parts hparts ih =>
    rw [hparts] at ih
    cases parts with
    | nil => simpa using ih
    | cons next parts =>
      rw [List.intercalate_cons_cons] at ih ⊢
      rw [← ih]
      rfl

end RequestPipeline.Text
