import Mathlib.Data.List.TakeWhile
import RequestPipeline.Text.Blank

/-!
# Blanks around a text

Blanks at the ends of a text do not matter to what is left of it without them (`trim_padded`), and
nothing is left of it exactly if it holds nothing but blanks (`trim_eq_empty_iff`).
-/

set_option autoImplicit false

namespace RequestPipeline.Text

section Padding

variable {before after cs : List Char}

theorem trimLeft_of_blank (h : ∀ c ∈ cs, isBlank c = true) : trimLeft cs = [] :=
  List.dropWhile_eq_nil_iff.mpr h

theorem trimRight_append_blank (h : ∀ c ∈ after, isBlank c = true) :
    trimRight (cs ++ after) = trimRight cs := by
  have hreverse : ∀ c ∈ after.reverse, isBlank c = true := fun c hc => h c (List.mem_reverse.mp hc)
  rw [trimRight, List.reverse_append, List.dropWhile_append_of_pos hreverse, trimRight]

theorem trimChars_padded (hbefore : ∀ c ∈ before, isBlank c = true)
    (hafter : ∀ c ∈ after, isBlank c = true) :
    trimChars (before ++ cs ++ after) = trimChars cs := by
  have hfront : trimLeft (before ++ cs ++ after) = trimLeft (cs ++ after) := by
    rw [List.append_assoc]
    exact List.dropWhile_append_of_pos hbefore
  rw [trimChars, hfront, trimChars, trimLeft, List.dropWhile_append]
  split
  · next hempty =>
    -- nothing but blanks
    rw [trimLeft, List.isEmpty_iff.mp hempty]
    exact congrArg trimRight (trimLeft_of_blank hafter)
  · exact trimRight_append_blank hafter

end Padding

/-- Blanks at the ends of a text do not matter to what is left of it without them. -/
theorem trim_padded {before after : String} (s : String) (hbefore : allBlank before = true)
    (hafter : allBlank after = true) : trim (before ++ s ++ after) = trim s := by
  rw [trim, trim, String.toList_append, String.toList_append,
    trimChars_padded (List.all_eq_true.mp hbefore) (List.all_eq_true.mp hafter)]

theorem trimChars_eq_nil_iff {cs : List Char} :
    trimChars cs = [] ↔ ∀ c ∈ cs, isBlank c = true := by
  constructor
  · intro h
    rw [trimChars, trimRight, List.reverse_eq_nil_iff, List.dropWhile_eq_nil_iff] at h
    -- what is left behind the blanks in front is blank, too
    intro c hc
    rw [← List.takeWhile_append_dropWhile (p := isBlank) (l := cs), List.mem_append] at hc
    rcases hc with hfront | hrest
    · exact List.mem_takeWhile_imp hfront
    · exact h c (List.mem_reverse.mpr hrest)
  · intro h
    rw [trimChars, trimLeft_of_blank h]
    rfl

/-- Nothing is left of a text without its blanks exactly if it holds nothing else. -/
theorem trim_eq_empty_iff {s : String} : trim s = "" ↔ allBlank s = true := by
  rw [allBlank, List.all_eq_true, ← trimChars_eq_nil_iff, trim, String.ofList_eq_empty_iff]

end RequestPipeline.Text
