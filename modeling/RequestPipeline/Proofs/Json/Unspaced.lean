import RequestPipeline.Proofs.Json.Compact

/-!
# Compact texts without blanks

What a compact text has of blanks stands inside its strings: nothing stands between its parts
(`Unspaced`, `unspaced_compact`). This holds of every value, whatever its numbers are and however
deep its arrays and objects lie.
-/

set_option autoImplicit false

namespace RequestPipeline.Json

/-! ## Outside of strings -/

/-- The characters of a text that stand outside its strings; the text starts inside of one or not.
-/
def outside : Bool → List Char → List Char
  | _, [] => []
  | false, '"' :: cs => outside true cs
  | false, c :: cs => c :: outside false cs
  | true, '"' :: cs => outside false cs
  -- an escaped quote ends no string
  | true, '\\' :: _ :: cs => outside true cs
  | true, _ :: cs => outside true cs

/-- The blanks of the format. -/
def blanks : List Char := [' ', '\n', '\t', '\r']

/-- Blanks stand inside strings only. -/
def Unspaced (cs : List Char) : Prop := ∀ c ∈ outside false cs, c ∉ blanks

/-- Neither a quote nor a blank. -/
def isPlain (c : Char) : Bool := c ∉ '"' :: blanks

variable {c : Char} {rest : List Char}

theorem Unspaced.cons (h : Unspaced rest) (hc : isPlain c = true) : Unspaced (c :: rest) := by
  rw [isPlain, decide_eq_true_eq, List.mem_cons, not_or] at hc
  rw [Unspaced, outside, List.forall_mem_cons]
  · exact ⟨hc.2, h⟩
  · exact hc.1

/-- Characters that are no quotes and no blanks may stand in front. -/
theorem Unspaced.append (h : Unspaced rest) (cs : List Char) (hcs : cs.all isPlain = true) :
    Unspaced (cs ++ rest) := by
  induction cs with
  | nil => exact h
  | cons c cs ih =>
    rw [List.all_cons, Bool.and_eq_true] at hcs
    exact (ih hcs.2).cons hcs.1

theorem Unspaced.number (h : Unspaced rest) (n : Number) : Unspaced (writeNumber n ++ rest) := by
  have hplain : numberChars.all isPlain = true := by decide
  rw [List.all_eq_true] at hplain
  apply h.append
  rw [List.all_eq_true]
  intro c hc
  exact hplain c ((numberText_write n).chars c hc)

/-! ## Strings -/

/-- Inside a string a character that is no quote and no backslash is passed over. -/
theorem outside_true_cons (hquote : c ≠ '"') (hslash : c ≠ '\\') :
    outside true (c :: rest) = outside true rest := by
  rw [outside]
  · exact hquote
  · intros
    exact hslash ‹_›

theorem hexDigit_plain : ∀ n < 16, Text.hexDigit n ≠ '"' ∧ Text.hexDigit n ≠ '\\' := by
  decide

/-- What is written for a character of a string stays inside of it. -/
theorem outside_escapeChar (c : Char) (rest : List Char) :
    outside true (escapeChar c ++ rest) = outside true rest := by
  unfold escapeChar
  simp only [beq_iff_eq]
  split
  · rfl
  split
  · rfl
  split
  · rfl
  split
  · rfl
  split
  · rfl
  split
  · rfl
  split
  · rfl
  split
  · next hcontrol =>
    obtain ⟨hquote, hslash⟩ := hexDigit_plain (c.toNat / 16) (by omega)
    obtain ⟨hquote', hslash'⟩ := hexDigit_plain (c.toNat % 16) (by omega)
    show outside true ('0' :: '0' :: Text.hexDigit (c.toNat / 16) ::
      Text.hexDigit (c.toNat % 16) :: rest) = _
    rw [outside_true_cons (by decide) (by decide), outside_true_cons (by decide) (by decide),
      outside_true_cons hquote hslash, outside_true_cons hquote' hslash']
  · next hquote hslash _ _ _ _ _ _ => exact outside_true_cons hquote hslash

theorem outside_escaped (cs rest : List Char) :
    outside true (cs.flatMap escapeChar ++ '"' :: rest) = outside false rest := by
  induction cs with
  | nil => rfl
  | cons c cs ih => rw [List.flatMap_cons, List.append_assoc, outside_escapeChar, ih]

theorem Unspaced.string (h : Unspaced rest) (s : String) : Unspaced (writeString s ++ rest) := by
  rw [writeString_append, Unspaced, outside, outside_escaped]
  exact h

/-! ## Values -/

mutual

/-- No blank stands outside the strings of a value. -/
theorem unspaced_write : ∀ (j : Json) {rest : List Char}, Unspaced rest → Unspaced (j.write ++ rest)
  | .null, _, h => h.append ['n', 'u', 'l', 'l'] (by decide)
  | .bool true, _, h => h.append ['t', 'r', 'u', 'e'] (by decide)
  | .bool false, _, h => h.append ['f', 'a', 'l', 's', 'e'] (by decide)
  | .num n, _, h => h.number n
  | .str s, _, h => h.string s
  | .arr [], _, h => h.append ['[', ']'] (by decide)
  | .arr (item :: items), rest, h => by
    have hclose : Unspaced (']' :: rest) := h.cons (by decide)
    have hitems := unspaced_write item (unspaced_writeItems items hclose)
    simp only [write, List.cons_append, List.append_assoc, List.nil_append]
    exact hitems.cons (by decide)
  | .obj [], _, h => h.append ['\x7b', '\x7d'] (by decide)
  | .obj ((name, value) :: members), rest, h => by
    have hclose : Unspaced ('\x7d' :: rest) := h.cons (by decide)
    have hvalue := unspaced_write value (unspaced_writeMembers members hclose)
    have hcolon := hvalue.cons (c := ':') (by decide)
    simp only [write, List.cons_append, List.append_assoc, List.nil_append]
    exact (hcolon.string name).cons (by decide)

theorem unspaced_writeItems :
    ∀ (items : List Json) {rest : List Char}, Unspaced rest → Unspaced (writeItems items ++ rest)
  | [], _, h => h
  | item :: items, _, h => by
    have hitems := unspaced_write item (unspaced_writeItems items h)
    simp only [writeItems, List.cons_append, List.append_assoc]
    exact hitems.cons (by decide)

theorem unspaced_writeMembers :
    ∀ (members : List (String × Json)) {rest : List Char}, Unspaced rest →
      Unspaced (writeMembers members ++ rest)
  | [], _, h => h
  | (name, value) :: members, _, h => by
    have hvalue := unspaced_write value (unspaced_writeMembers members h)
    have hcolon := hvalue.cons (c := ':') (by decide)
    simp only [writeMembers, List.cons_append, List.append_assoc]
    exact (hcolon.string name).cons (by decide)

end

end RequestPipeline.Json
