import RequestPipeline.Text.Blank
import RequestPipeline.Text.Casing
import RequestPipeline.Text.Split

/-!
# Letter case of ASCII

Two texts may differ in the letter case of ASCII only (`SameLetters`). Then they are the same in
lower case (`lower_congr`), though the lower case of a character may depend on the characters around
it, and so are their parts between separators, without the blanks at their ends
(`lower_parts_congr`).
-/

set_option autoImplicit false

namespace RequestPipeline.Text

/-- Two texts differ in the letter case of ASCII at most. -/
def SameLetters (s t : String) : Prop := s.toList.map Char.toLower = t.toList.map Char.toLower

instance (s t : String) : Decidable (SameLetters s t) := inferInstanceAs (Decidable (_ = _))

/-! ## Characters -/

/-- What is the same for the small and the capital letters of ASCII does not depend on the letter
case of a character. -/
theorem apply_toLower {β : Type} {g : Char → β}
    (h : ∀ n : Fin 26, g (Char.ofNat (n + 97)) = g (Char.ofNat (n + 65))) (c : Char) :
    g c.toLower = g c := by
  by_cases hc : c.val ≥ 'A'.val ∧ c.val ≤ 'Z'.val
  · -- a capital letter, by its place in the alphabet
    have hlow : 65 ≤ c.toNat := UInt32.le_iff_toNat_le.mp hc.1
    have hhigh : c.toNat ≤ 90 := UInt32.le_iff_toNat_le.mp hc.2
    have hletter := h ⟨c.toNat - 65, by omega⟩
    have hcapital : Char.ofNat (c.toNat - 65 + 65) = c := by
      rw [Nat.sub_add_cancel hlow, Char.ofNat_toNat]
    have hsmall : Char.ofNat (c.toNat - 65 + 97) = c.toLower := by
      have hall : ∀ n : Fin 26, Char.ofNat (n + 97) = (Char.ofNat (n + 65)).toLower := by
        decide +kernel
      rw [hall ⟨c.toNat - 65, by omega⟩, hcapital]
    rwa [hcapital, hsmall] at hletter
  · have hsame : c.toLower = c := dif_neg hc
    rw [hsame]

@[simp] theorem isBlank_toLower (c : Char) : isBlank c.toLower = isBlank c :=
  apply_toLower (by decide +kernel) c

@[simp] theorem isCased_toLower (c : Char) : isCased c.toLower = isCased c :=
  apply_toLower (by decide +kernel) c

@[simp] theorem isCaseIgnorable_toLower (c : Char) :
    isCaseIgnorable c.toLower = isCaseIgnorable c :=
  apply_toLower (by decide +kernel) c

@[simp] theorem lowerChar_toLower (c : Char) : lowerChar c.toLower = lowerChar c :=
  apply_toLower (by decide +kernel) c

theorem isSigma_toLower (c : Char) : (c.toLower.toNat == 0x3a3) = (c.toNat == 0x3a3) :=
  apply_toLower (g := fun c => c.toNat == 0x3a3) (by decide +kernel) c

theorem toLower_eq_comma_iff (c : Char) : c.toLower = ',' ↔ c = ',' := by
  have hcomma := apply_toLower (g := fun c => decide (c = ',')) (by decide +kernel) c
  simpa using hcomma

/-! ## Texts -/

/-- Whether the neighbour of a character has case does not depend on the letter case of ASCII. -/
theorem startsCased_map_toLower (cs : List Char) :
    startsCased (cs.map Char.toLower) = startsCased cs := by
  have hpassed : isCaseIgnorable ∘ Char.toLower = isCaseIgnorable :=
    funext isCaseIgnorable_toLower
  rw [startsCased, startsCased, List.dropWhile_map, hpassed]
  cases cs.dropWhile isCaseIgnorable with
  | nil => rfl
  | cons c _ => exact isCased_toLower c

theorem lowerFrom_map_toLower (before cs : List Char) :
    lowerFrom (before.map Char.toLower) (cs.map Char.toLower) = lowerFrom before cs := by
  induction cs generalizing before with
  | nil => rfl
  | cons c cs ih =>
    have hrest := ih (c :: before)
    rw [List.map_cons] at hrest
    rw [List.map_cons, lowerFrom, lowerFrom, hrest, startsCased_map_toLower,
      startsCased_map_toLower, lowerChar_toLower, isSigma_toLower]

/-- Texts that differ in letter case only are the same in lower case. -/
theorem lower_congr {s t : String} (h : SameLetters s t) : lower s = lower t := by
  have hchars := congrArg (lowerFrom []) h
  have hs := lowerFrom_map_toLower [] s.toList
  have ht := lowerFrom_map_toLower [] t.toList
  rw [List.map_nil] at hs ht
  rw [lower, lower, ← hs, ← ht, hchars]

theorem trimChars_map_toLower (cs : List Char) :
    trimChars (cs.map Char.toLower) = (trimChars cs).map Char.toLower := by
  have hblank : isBlank ∘ Char.toLower = isBlank := funext isBlank_toLower
  simp only [trimChars, trimLeft, trimRight, List.dropWhile_map, ← List.map_reverse, hblank]

theorem splitChars_map_toLower (cs : List Char) :
    splitChars ',' (cs.map Char.toLower) = (splitChars ',' cs).map (List.map Char.toLower) := by
  induction cs with
  | nil => rfl
  | cons c cs ih =>
    rw [List.map_cons, splitChars, splitChars, ih]
    cases splitChars ',' cs with
    | nil => rfl
    | cons part parts =>
      simp only [List.map_cons, toLower_eq_comma_iff]
      split <;> rfl

/-- The parts of texts that differ in letter case only are the same in lower case. -/
theorem lower_parts_congr {s t : String} (h : SameLetters s t) :
    (split ',' s).map (fun part => lower (trim part)) =
      (split ',' t).map fun part => lower (trim part) := by
  -- each side is one function of the characters, and it passes over their letter case
  let read (cs : List Char) : String := String.ofList (lowerFrom [] (trimChars cs))
  have hread (cs : List Char) : read (cs.map Char.toLower) = read cs := by
    have hlower := lowerFrom_map_toLower [] (trimChars cs)
    rw [List.map_nil, ← trimChars_map_toLower] at hlower
    simp only [read, hlower]
  have hparts (u : String) : (split ',' u).map (fun part => lower (trim part)) =
      (splitChars ',' (u.toList.map Char.toLower)).map read := by
    rw [splitChars_map_toLower, split, List.map_map, List.map_map]
    refine List.map_congr_left fun cs _ => ?_
    rw [Function.comp_apply, Function.comp_apply, hread]
    simp only [read, lower, trim, String.toList_ofList]
  rw [hparts, hparts, h]

end RequestPipeline.Text
