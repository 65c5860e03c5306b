import RequestPipeline.Json.Reader
import RequestPipeline.Json.Writer

/-!
# Compact texts that are read back

The reader takes what the writer has written for a value from the front of a text and leaves what
stands behind it, unless that could continue a number (`Json.Ends`). This holds for strings of any
characters, for integers of 64 bits (`Exact.int`) and, as long as not too many of them lie within
each other, for arrays and objects of what is read back (`Json.Exact`). So the compact text of such
a value is that value again (`parseWithin?_compact`). Of a floating-point number it is shown only
that its text has the characters of a number (`numberText_real`); that the number is read back from
its shortest digits is a condition on it (`NumberReadsBack`).
-/

set_option autoImplicit false

namespace RequestPipeline.Json

/-! ## Strings -/

theorem hexDigit?_hexDigit : ∀ n < 16, hexDigit? (Text.hexDigit n) = some n := by
  decide

/-- A character of a string is read back from what is written for it. -/
theorem readString_escapeChar (c : Char) (tail : List Char) :
    readString (escapeChar c ++ tail) =
      (readString tail).map fun (cs, rest) => (c :: cs, rest) := by
  unfold escapeChar
  simp only [beq_iff_eq]
  split
  · next h => subst h; rfl
  split
  · next h => subst h; rfl
  split
  · next h => subst h; rfl
  split
  · next h => subst h; rfl
  split
  · next h => subst h; rfl
  split
  · next h =>
    obtain rfl : c = Char.ofNat 8 := Char.toNat_inj.mp h
    rfl
  split
  · next h =>
    obtain rfl : c = Char.ofNat 12 := Char.toNat_inj.mp h
    rfl
  split
  · next h =>
    have hquad : hexQuad? '0' '0' (Text.hexDigit (c.toNat / 16)) (Text.hexDigit (c.toNat % 16)) =
        some c.toNat := by
      have h0 : hexDigit? '0' = some 0 := by decide
      simp [hexQuad?, h0, hexDigit?_hexDigit _ (show c.toNat / 16 < 16 by omega),
        hexDigit?_hexDigit _ (show c.toNat % 16 < 16 by omega)]
      omega
    have h1 : ¬ 0xd800 ≤ c.toNat := by omega
    have h2 : ¬ 0xdc00 ≤ c.toNat := by omega
    simp [readString, hquad, h1, h2]
  · next hquote hslash _ _ _ _ _ hcontrol =>
    rw [List.singleton_append, readString]
    · simp [hslash, hcontrol]
    · exact hquote
    · intros; exact hslash ‹_›
    · intros; exact hslash ‹_›

/-- The inside of a string is read back up to the closing quote. -/
theorem readString_escaped (cs rest : List Char) :
    readString (cs.flatMap escapeChar ++ '"' :: rest) = some (cs, rest) := by
  induction cs with
  | nil => rfl
  | cons c cs ih =>
    rw [List.flatMap_cons, List.append_assoc, readString_escapeChar, ih]
    rfl

theorem writeString_append (s : String) (rest : List Char) :
    writeString s ++ rest = '"' :: (s.toList.flatMap escapeChar ++ '"' :: rest) := by
  simp [writeString]

/-! ## Integers -/

/-- What stands behind a value of an array or an object, or behind the whole text. -/
def Ends (rest : List Char) : Prop := ∀ c ∈ rest.head?, c = ',' ∨ c = ']' ∨ c = '\x7d'

section Integers

variable {n : Nat} {cs rest : List Char}

/-- The value of a decimal digit. -/
def digitValue (c : Char) : Nat := c.toNat - 0x30

theorem digit?_of_isDigit {c : Char} (h : c.isDigit = true) :
    digit? c = some (digitValue c) := by
  have hrange : '0' ≤ c ∧ c ≤ '9' := by
    simpa [Char.isDigit, Char.le_def] using h
  simp [digit?, hrange, digitValue]

theorem eq_zero_of_digitValue {c : Char} (h : c.isDigit = true) (hzero : digitValue c = 0) :
    c = '0' := by
  have hrange : 48 ≤ c.toNat ∧ c.toNat ≤ 57 := by
    simpa [Char.isDigit, UInt32.le_iff_toNat_le] using h
  have hvalue : c.toNat = '0'.toNat := by
    change c.toNat = 48
    unfold digitValue at hzero
    omega
  exact Char.toNat_inj.mp hvalue

theorem spanDigits_of_ends (h : Ends rest) : spanDigits rest = ([], rest) := by
  cases rest with
  | nil => rfl
  | cons c rest =>
    have hdigit : digit? c = none := by
      rcases h c rfl with rfl | rfl | rfl <;> decide
    simp [spanDigits, hdigit]

theorem spanDigits_append (hcs : ∀ c ∈ cs, c.isDigit = true) (h : Ends rest) :
    spanDigits (cs ++ rest) = (cs.map digitValue, rest) := by
  induction cs with
  | nil => exact spanDigits_of_ends h
  | cons c cs ih =>
    rw [List.forall_mem_cons] at hcs
    simp [spanDigits, digit?_of_isDigit hcs.1, ih hcs.2]

/-- Digits make a number no smaller. -/
theorem le_ofDigitChars : n ≤ Nat.ofDigitChars 10 cs n := by
  induction cs generalizing n with
  | nil => exact Nat.le_refl n
  | cons c cs ih =>
    rw [Nat.ofDigitChars_cons]
    calc n ≤ 10 * n + (c.toNat - '0'.toNat) := by omega
      _ ≤ _ := ih

/-- Digits whose number fits are collected into that number. -/
theorem collectWhole_map (h : Nat.ofDigitChars 10 cs n < Number.limit) :
    collectWhole n (cs.map digitValue) = (Nat.ofDigitChars 10 cs n, 0) := by
  induction cs generalizing n with
  | nil => rfl
  | cons c cs ih =>
    have hvalue : n * 10 + digitValue c = 10 * n + (c.toNat - '0'.toNat) := by
      rw [Nat.mul_comm]
      rfl
    rw [Nat.ofDigitChars_cons] at h ⊢
    rw [List.map_cons, collectWhole, hvalue, if_pos (Nat.lt_of_le_of_lt le_ofDigitChars h), ih h]

/-- No number is written with a zero in front of other digits. -/
theorem exists_toDigits_eq_cons (n : Nat) :
    ∃ c cs, Nat.toDigits 10 n = c :: cs ∧ (c = '0' → cs = []) := by
  induction n using Nat.strongRecOn with
  | ind n ih =>
    by_cases hn : n < 10
    · exact ⟨_, [], Nat.toDigits_of_lt_base hn, fun _ => rfl⟩
    · obtain ⟨c, cs, hcs, hzero⟩ := ih (n / 10) (by omega)
      refine ⟨c, cs ++ [(n % 10).digitChar], ?_, fun hc => ?_⟩
      · rw [Nat.toDigits_of_base_le (by decide) (by omega), hcs, List.cons_append]
      · -- the digits in front would be a single zero, and yet stand for a positive number
        obtain rfl := hzero hc
        subst hc
        have hvalue : Nat.ofDigitChars 10 (Nat.toDigits 10 (n / 10)) 0 = n / 10 :=
          Nat.ofDigitChars_ten_toDigits
        rw [hcs] at hvalue
        have : Nat.ofDigitChars 10 ['0'] 0 = 0 := by decide
        omega

theorem readExponent_of_ends (h : Ends rest) : readExponent rest = some (none, rest) := by
  cases rest with
  | nil => rfl
  | cons c rest =>
    rcases h c rfl with rfl | rfl | rfl <;> rfl

/-- The digits of a number that fits are collected into it. -/
theorem collectWhole_toDigits (hn : n < Number.limit) :
    collectWhole 0 ((Nat.toDigits 10 n).map digitValue) = (n, 0) := by
  have hvalue : Nat.ofDigitChars 10 (Nat.toDigits 10 n) 0 = n := Nat.ofDigitChars_ten_toDigits
  rw [collectWhole_map (by rwa [hvalue]), hvalue]

theorem wholeNumber?_toDigits (hn : n < Number.limit) :
    wholeNumber? false ((Nat.toDigits 10 n).map digitValue) = some (.int n) := by
  simp [wholeNumber?, collectWhole_toDigits hn]

theorem wholeNumber?_toDigits_negative (hpos : 0 < n) (hn : n ≤ Number.signedLimit) :
    wholeNumber? true ((Nat.toDigits 10 n).map digitValue) = some (.int (-n)) := by
  have hlimit : n < Number.limit := Nat.lt_of_le_of_lt hn (by decide)
  simp [wholeNumber?, collectWhole_toDigits hlimit, hpos, hn]

/-- The digits of a natural number are read up to their end. -/
theorem readUnsigned_toDigits {negative : Bool} (h : Ends rest) :
    readUnsigned negative (Nat.toDigits 10 n ++ rest) =
      (wholeNumber? negative ((Nat.toDigits 10 n).map digitValue)).map (·, rest) := by
  have hdigits : ∀ c ∈ Nat.toDigits 10 n, c.isDigit = true := fun c hc =>
    Nat.isDigit_of_mem_toDigits (by decide) (by decide) hc
  -- nothing that may stand behind the digits starts a fraction
  have hpoint : ∀ tail, rest ≠ '.' :: tail := by
    rintro tail rfl
    rcases h '.' rfl with h | h | h <;> cases h
  obtain ⟨c, cs, hcs, hzero⟩ := exists_toDigits_eq_cons n
  -- so the reader does not refuse the digits for a leading zero
  have hfront : (decide (digitValue c = 0) && decide (cs.map digitValue ≠ [])) = false := by
    by_cases hc : digitValue c = 0
    · have hnil : cs = [] := hzero (eq_zero_of_digitValue (hdigits c (by simp [hcs])) hc)
      simp [hnil]
    · simp [hc]
  rw [readUnsigned, spanDigits_append hdigits h, hcs]
  simp only [List.map_cons, hfront, Bool.false_eq_true, if_false]
  rw [readExponent_of_ends h]
  cases wholeNumber? negative (digitValue c :: cs.map digitValue) <;> rfl

theorem writeNumber_ofNat (n : Nat) : writeNumber (.int n) = Nat.toDigits 10 n := by
  change (toString n).toList = _
  rw [Nat.toString_eq_ofList_toDigits, String.toList_ofList]

theorem writeNumber_negSucc (n : Nat) :
    writeNumber (.int (Int.negSucc n)) = '-' :: Nat.toDigits 10 (n + 1) := by
  change ("-" ++ toString (n + 1)).toList = _
  simp

theorem readNumber_toDigits :
    readNumber (Nat.toDigits 10 n ++ rest) = readUnsigned false (Nat.toDigits 10 n ++ rest) := by
  obtain ⟨c, cs, hcs, -⟩ := exists_toDigits_eq_cons n
  have hdigit : c.isDigit = true :=
    Nat.isDigit_of_mem_toDigits (by decide) (by decide) (hcs ▸ List.mem_cons_self)
  rw [readNumber]
  rintro tail hminus
  rw [hcs, List.cons_append] at hminus
  obtain rfl : c = '-' := (List.cons.inj hminus).1
  exact absurd hdigit (by decide)

/-- An integer of 64 bits is read back. -/
theorem readNumber_writeNumber {n : Int} (low : -(Number.signedLimit : Int) ≤ n)
    (high : n < Number.limit) (h : Ends rest) :
    readNumber (writeNumber (.int n) ++ rest) = some (.int n, rest) := by
  cases n with
  | ofNat n =>
    rw [Int.ofNat_eq_natCast, writeNumber_ofNat, readNumber_toDigits, readUnsigned_toDigits h,
      wholeNumber?_toDigits (Int.ofNat_lt.mp high)]
    rfl
  | negSucc n =>
    rw [writeNumber_negSucc, List.cons_append, readNumber, readUnsigned_toDigits h,
      wholeNumber?_toDigits_negative (by omega) (by omega)]
    rfl

end Integers

/-! ## Numbers -/

/-- The characters that the text of a number starts with. -/
def numberOpeners : List Char := ['-', '0', '1', '2', '3', '4', '5', '6', '7', '8', '9']

/-- The characters of numbers. -/
def numberChars : List Char := numberOpeners ++ ['.', 'e', '+']

/-- A text starts like that of a number and has no other characters than numbers have. -/
structure NumberText (cs : List Char) : Prop where
  opens : ∃ c ∈ numberOpeners, ∃ tail, cs = c :: tail
  chars : ∀ c ∈ cs, c ∈ numberChars

section NumberTexts

variable {n : Nat} {cs ds : List Char}

theorem mem_numberOpeners_of_isDigit {c : Char} (h : c.isDigit = true) : c ∈ numberOpeners := by
  have hrange : 48 ≤ c.toNat ∧ c.toNat ≤ 57 := by
    simpa [Char.isDigit, UInt32.le_iff_toNat_le] using h
  have hall : ∀ n < 58, 48 ≤ n → Char.ofNat n ∈ numberOpeners := by decide
  rw [← Char.ofNat_toNat c]
  exact hall _ (by omega) hrange.1

theorem mem_numberOpeners_of_mem_toDigits {c : Char} (h : c ∈ Nat.toDigits 10 n) :
    c ∈ numberOpeners := by
  apply mem_numberOpeners_of_isDigit
  exact Nat.isDigit_of_mem_toDigits (by decide) (by decide) h

theorem numberText_toDigits (n : Nat) : NumberText (Nat.toDigits 10 n) where
  opens := by
    obtain ⟨c, tail, hcs, -⟩ := exists_toDigits_eq_cons n
    exact ⟨c, mem_numberOpeners_of_mem_toDigits (hcs ▸ List.mem_cons_self), tail, hcs⟩
  chars := by
    intro c hc
    exact List.mem_append_left _ (mem_numberOpeners_of_mem_toDigits hc)

theorem NumberText.append (h : NumberText cs) (hds : ∀ c ∈ ds, c ∈ numberChars) :
    NumberText (cs ++ ds) := by
  obtain ⟨⟨c, hc, tail, rfl⟩, hchars⟩ := h
  exact ⟨⟨c, hc, tail ++ ds, rfl⟩, List.forall_mem_append.mpr ⟨hchars, hds⟩⟩

theorem NumberText.take (h : NumberText cs) (hn : n ≠ 0) : NumberText (cs.take n) := by
  obtain ⟨⟨c, hc, tail, rfl⟩, hchars⟩ := h
  obtain ⟨n, rfl⟩ := Nat.exists_eq_add_one_of_ne_zero hn
  exact ⟨⟨c, hc, tail.take n, rfl⟩, fun d hd => hchars d (List.mem_of_mem_take hd)⟩

theorem NumberText.negate (h : NumberText cs) : NumberText ('-' :: cs) :=
  ⟨⟨'-', by decide, cs, rfl⟩, List.forall_mem_cons.mpr ⟨by decide, h.chars⟩⟩

/-- A floating-point number is written in digits, with a point or an exponent. -/
theorem numberText_real (x : Binary64) : NumberText x.text.toList := by
  have hdigits : ∀ m, ∀ c ∈ Nat.toDigits 10 m, c ∈ numberChars := fun m =>
    (numberText_toDigits m).chars
  have hzeros : ∀ k, ∀ c ∈ List.replicate k '0', c ∈ numberChars := by
    intro k c hc
    obtain ⟨-, rfl⟩ := List.mem_replicate.mp hc
    decide
  have hzero : NumberText ['0'] :=
    ⟨⟨'0', by decide, [], rfl⟩, List.forall_mem_singleton.mpr (by decide)⟩
  have hpoint : ∀ c ∈ ['.', '0'], c ∈ numberChars :=
    List.forall_mem_cons.mpr ⟨by decide, hzero.chars⟩
  have hbody : ∀ cs : List Char, NumberText cs →
      NumberText (String.ofList (if x.isNegative then '-' :: cs else cs)).toList := by
    intro cs hcs
    rw [String.toList_ofList]
    split
    · exact hcs.negate
    · exact hcs
  unfold Binary64.text
  apply hbody
  split
  · show NumberText (['0'] ++ ['.', '0'])
    exact hzero.append hpoint
  split
  · exact ((numberText_toDigits _).append (hzeros _)).append hpoint
  split
  · next hinside =>
    have hpositive : 0 < (Nat.toDigits 10 x.shortest.digits).length + x.shortest.exponent := by
      simp only [Bool.and_eq_true, decide_eq_true_eq] at hinside
      exact hinside.1
    apply ((numberText_toDigits _).take (by omega)).append
    rw [List.forall_mem_cons]
    exact ⟨by decide, fun c hc => hdigits _ c (List.mem_of_mem_drop hc)⟩
  split
  · show NumberText (['0'] ++ '.' :: _)
    apply hzero.append
    rw [List.forall_mem_cons, List.forall_mem_append]
    exact ⟨by decide, hzeros _, hdigits _⟩
  · have hfraction : ∀ c ∈ if (Nat.toDigits 10 x.shortest.digits).length = 1 then []
        else '.' :: (Nat.toDigits 10 x.shortest.digits).drop 1, c ∈ numberChars := by
      split
      · simp
      · rw [List.forall_mem_cons]
        exact ⟨by decide, fun c hc => hdigits _ c (List.mem_of_mem_drop hc)⟩
    apply (((numberText_toDigits _).take (by decide)).append hfraction).append
    rw [List.forall_mem_cons, List.forall_mem_cons]
    refine ⟨by decide, ?_, hdigits _⟩
    split <;> decide

theorem numberText_write (n : Number) : NumberText (writeNumber n) := by
  cases n with
  | real x => exact numberText_real x
  | int n =>
    cases n with
    | ofNat n =>
      rw [Int.ofNat_eq_natCast, writeNumber_ofNat]
      exact numberText_toDigits n
    | negSucc n =>
      rw [writeNumber_negSucc]
      exact (numberText_toDigits _).negate

end NumberTexts

/-- A number is read back from its text, whatever may stand behind it. -/
def NumberReadsBack (n : Number) : Prop :=
  ∀ rest, Ends rest → readNumber (writeNumber n ++ rest) = some (n, rest)

/-! ## Values -/

/-- A value whose compact text is exact: its numbers are read back, and at most so many arrays and
objects lie within each other. -/
inductive Exact : Nat → Json → Prop where
  | null {depth : Nat} : Exact depth .null
  | bool {depth : Nat} {b : Bool} : Exact depth (.bool b)
  | num {depth : Nat} {n : Number} (h : NumberReadsBack n) : Exact depth (.num n)
  | str {depth : Nat} {s : String} : Exact depth (.str s)
  | arr {depth : Nat} {items : List Json} (h : ∀ item ∈ items, Exact depth item) :
      Exact (depth + 1) (.arr items)
  | obj {depth : Nat} {members : List (String × Json)} (h : ∀ m ∈ members, Exact depth m.2) :
      Exact (depth + 1) (.obj members)

/-- The characters that the text of a value starts with. -/
def openers : List Char := ['n', 't', 'f', '"', '[', '\x7b'] ++ numberOpeners

/-- Integers of 64 bits are read back. -/
theorem Exact.int {depth : Nat} {n : Int} (low : -(Number.signedLimit : Int) ≤ n)
    (high : n < Number.limit) : Exact depth (.num (.int n)) :=
  .num fun _ hrest => readNumber_writeNumber low high hrest

theorem skipSpace_of_opener {c : Char} {cs : List Char} (h : c ∈ openers) :
    skipSpace (c :: cs) = c :: cs := by
  have hall : openers.all fun c => !(c == ' ' || c == '\n' || c == '\t' || c == '\r') := by decide
  have hc : (c == ' ' || c == '\n' || c == '\t' || c == '\r') = false := by
    simpa only [Bool.not_eq_true'] using List.all_eq_true.mp hall c h
  simp only [skipSpace, hc, Bool.false_eq_true, if_false]

/-- The text of a value starts with one of these characters. -/
theorem exists_opener (j : Json) : ∃ c ∈ openers, ∃ cs, j.write = c :: cs := by
  cases j with
  | null => exact ⟨'n', by decide, _, rfl⟩
  | bool b => cases b <;> exact ⟨_, by decide, _, rfl⟩
  | num n =>
    obtain ⟨c, hc, cs, hcs⟩ := (numberText_write n).opens
    exact ⟨c, List.mem_append_right _ hc, cs, hcs⟩
  | str s => exact ⟨'"', by decide, _, rfl⟩
  | arr items => cases items <;> exact ⟨'[', by decide, _, rfl⟩
  | obj members =>
    cases members with
    | nil => exact ⟨'\x7b', by decide, _, rfl⟩
    | cons m ms => exact ⟨'\x7b', by decide, _, rfl⟩

theorem skipSpace_write (j : Json) (rest : List Char) :
    skipSpace (j.write ++ rest) = j.write ++ rest := by
  obtain ⟨c, hc, cs, hcs⟩ := j.exists_opener
  rw [hcs, List.cons_append, skipSpace_of_opener hc]

theorem readValue_of_numberOpener {fuel depth : Nat} {c : Char} {cs : List Char}
    (h : c ∈ numberOpeners) :
    readValue (fuel + 1) depth (c :: cs) =
      (readNumber (c :: cs)).map fun (n, tail) => (.num n, tail) := by
  simp only [numberOpeners, List.mem_cons, List.not_mem_nil, or_false] at h
  rcases h with rfl | rfl | rfl | rfl | rfl | rfl | rfl | rfl | rfl | rfl | rfl <;> rfl

/-- The reader takes the text of a value from the front of any text, if it may enter so many arrays
and objects. The fuel suffices if it is twice the number of characters. -/
def ReadsBack (depth : Nat) (j : Json) : Prop :=
  ∀ fuel rest, 2 * j.write.length ≤ fuel → Ends rest →
    readValue fuel (depth + 1) (j.write ++ rest) = some (j, rest)

/-- There is fuel left, since no text is empty. -/
theorem ReadsBack.of_succ {depth : Nat} {j : Json}
    (reads : ∀ fuel rest, 2 * j.write.length ≤ fuel + 1 → Ends rest →
      readValue (fuel + 1) (depth + 1) (j.write ++ rest) = some (j, rest)) :
    ReadsBack depth j := by
  intro fuel rest hfuel hrest
  obtain ⟨c, -, cs, hcs⟩ := j.exists_opener
  have hlength : j.write.length = cs.length + 1 := by rw [hcs, List.length_cons]
  obtain ⟨fuel, rfl⟩ := Nat.exists_eq_add_one_of_ne_zero (show fuel ≠ 0 by omega)
  exact reads fuel rest hfuel hrest

section Containers

variable {depth fuel : Nat}

theorem ends_writeItems (items : List Json) (rest : List Char) :
    Ends (writeItems items ++ ']' :: rest) := by
  cases items <;> simp [writeItems, Ends]

theorem ends_writeMembers (members : List (String × Json)) (rest : List Char) :
    Ends (writeMembers members ++ '\x7d' :: rest) := by
  cases members <;> simp [writeMembers, Ends]

/-- The items of an array are read back one behind the other. -/
theorem readItems_write {item : Json} {items : List Json}
    (h : ∀ j ∈ item :: items, ReadsBack depth j)
    (hfuel : 2 * (item.write ++ writeItems items).length < fuel) (rest : List Char) :
    readItems fuel (depth + 1) (item.write ++ (writeItems items ++ ']' :: rest)) =
      some (item :: items, rest) := by
  induction items generalizing item fuel with
  | nil =>
    obtain ⟨fuel, rfl⟩ := Nat.exists_eq_add_one_of_ne_zero (show fuel ≠ 0 by omega)
    simp only [writeItems, List.append_nil] at hfuel
    have hitem := h item (by simp) fuel _ (by omega) (ends_writeItems [] rest)
    rw [readItems, hitem]
    rfl
  | cons next items ih =>
    obtain ⟨fuel, rfl⟩ := Nat.exists_eq_add_one_of_ne_zero (show fuel ≠ 0 by omega)
    simp only [writeItems, List.length_append, List.length_cons] at hfuel
    have hitem := h item (by simp) fuel _ (by omega) (ends_writeItems (next :: items) rest)
    have hfuel' : 2 * (next.write ++ writeItems items).length < fuel := by
      rw [List.length_append]
      omega
    have hitems := ih (fun j hj => h j (List.mem_cons_of_mem _ hj)) hfuel'
    have hspace := next.skipSpace_write (writeItems items ++ ']' :: rest)
    rw [readItems, hitem]
    simp only [writeItems, List.cons_append, List.append_assoc]
    change (readItems fuel (depth + 1) (skipSpace _)).map _ = _
    rw [hspace, hitems]
    rfl

/-- The last member of an object is read back. -/
theorem readMembers_last {name : String} {value : Json} (h : ReadsBack depth value)
    (hfuel : 2 * value.write.length ≤ fuel) (rest : List Char) :
    readMembers (fuel + 1) (depth + 1)
        (writeString name ++ ':' :: (value.write ++ '\x7d' :: rest)) =
      some ([(name, value)], rest) := by
  have hvalue := h fuel _ hfuel (ends_writeMembers [] rest)
  have hcolon : ∀ cs, skipSpace (':' :: cs) = ':' :: cs := fun _ => rfl
  rw [writeMembers, List.nil_append] at hvalue
  rw [writeString_append, readMembers]
  simp only [readString_escaped, hcolon, skipSpace_write, hvalue, String.ofList_toList]
  rfl

/-- A member with others behind it is read back. -/
theorem readMembers_more {name : String} {value : Json} (h : ReadsBack depth value)
    (hfuel : 2 * value.write.length ≤ fuel) {tail : List Char} (htail : Ends (',' :: tail)) :
    readMembers (fuel + 1) (depth + 1) (writeString name ++ ':' :: (value.write ++ ',' :: tail)) =
      (readMembers fuel (depth + 1) (skipSpace tail)).map fun (members, rest) =>
        ((name, value) :: members, rest) := by
  have hvalue := h fuel _ hfuel htail
  have hcolon : ∀ cs, skipSpace (':' :: cs) = ':' :: cs := fun _ => rfl
  rw [writeString_append, readMembers]
  simp only [readString_escaped, hcolon, skipSpace_write, hvalue, String.ofList_toList]
  rfl

/-- The members of an object are read back one behind the other. -/
theorem readMembers_write {name : String} {value : Json} {members : List (String × Json)}
    (h : ∀ m ∈ (name, value) :: members, ReadsBack depth m.2)
    (hfuel : 2 * (value.write ++ writeMembers members).length < fuel) (rest : List Char) :
    readMembers fuel (depth + 1)
        (writeString name ++ ':' :: (value.write ++ (writeMembers members ++ '\x7d' :: rest))) =
      some ((name, value) :: members, rest) := by
  induction members generalizing name value fuel with
  | nil =>
    obtain ⟨fuel, rfl⟩ := Nat.exists_eq_add_one_of_ne_zero (show fuel ≠ 0 by omega)
    have hvalue : ReadsBack depth value := h (name, value) (by simp)
    rw [writeMembers, List.append_nil] at hfuel
    exact readMembers_last hvalue (by omega) rest
  | cons next members ih =>
    obtain ⟨fuel, rfl⟩ := Nat.exists_eq_add_one_of_ne_zero (show fuel ≠ 0 by omega)
    obtain ⟨n, v⟩ := next
    have hvalue : ReadsBack depth value := h (name, value) (by simp)
    simp only [writeMembers, List.length_append, List.length_cons] at hfuel
    have hfuel' : 2 * (v.write ++ writeMembers members).length < fuel := by
      rw [List.length_append]
      omega
    have hmembers := ih (fun m hm => h m (List.mem_cons_of_mem _ hm)) hfuel'
    have hspace : ∀ cs, skipSpace (writeString n ++ cs) = writeString n ++ cs := by
      intro cs
      rw [writeString_append]
      rfl
    simp only [writeMembers, List.cons_append, List.append_assoc]
    rw [readMembers_more hvalue (by omega) (by simp [Ends]), hspace, hmembers]
    rfl

/-- Behind its bracket an array is read item by item. -/
theorem readValue_items (item : Json) (tail : List Char) :
    readValue (fuel + 1) (depth + 2) ('[' :: (item.write ++ tail)) =
      (readItems fuel (depth + 1) (item.write ++ tail)).map fun (items, rest) =>
        (.arr items, rest) := by
  obtain ⟨c, hc, cs, hcs⟩ := item.exists_opener
  have hne : c ≠ ']' := by
    rintro rfl
    exact absurd hc (by decide)
  have hdepth : ¬ depth + 2 ≤ 1 := by omega
  rw [readValue, if_neg hdepth, skipSpace_write, hcs, List.cons_append]
  split
  · next hclose => exact absurd (List.cons.inj hclose).1 hne
  · rfl

/-- Behind its brace an object is read member by member. -/
theorem readValue_members (name : String) (tail : List Char) :
    readValue (fuel + 1) (depth + 2) ('\x7b' :: (writeString name ++ tail)) =
      (readMembers fuel (depth + 1) (writeString name ++ tail)).map fun (members, rest) =>
        (.obj members, rest) := by
  have hdepth : ¬ depth + 2 ≤ 1 := by omega
  rw [writeString_append, readValue, if_neg hdepth]
  rfl

end Containers

/-- An exact value is read back from its text. -/
theorem Exact.readsBack {depth : Nat} {j : Json} (h : Exact depth j) : ReadsBack depth j := by
  induction h with
  | null => exact .of_succ fun fuel rest _ _ => rfl
  | @bool depth b =>
    refine .of_succ fun fuel rest _ _ => ?_
    cases b <;> rfl
  | @num depth n h =>
    refine .of_succ fun fuel rest _ hrest => ?_
    obtain ⟨c, hc, cs, hcs⟩ := (numberText_write n).opens
    have hread := h rest hrest
    rw [hcs, List.cons_append] at hread
    rw [write, hcs, List.cons_append, readValue_of_numberOpener hc, hread]
    rfl
  | @str depth s =>
    refine .of_succ fun fuel rest _ _ => ?_
    rw [write, writeString_append, readValue, readString_escaped]
    simp only [Option.map_some, String.ofList_toList]
  | @arr depth items hitems ih =>
    refine .of_succ fun fuel rest hfuel _ => ?_
    cases items with
    | nil => rfl
    | cons item items =>
      simp only [write, List.length_append, List.length_cons, List.length_nil] at hfuel
      have hfuel' : 2 * (item.write ++ writeItems items).length < fuel := by
        rw [List.length_append]
        omega
      have hread := readItems_write ih hfuel' rest
      simp only [write, List.cons_append, List.append_assoc, List.nil_append]
      rw [readValue_items, hread]
      rfl
  | @obj depth members hmembers ih =>
    refine .of_succ fun fuel rest hfuel _ => ?_
    cases members with
    | nil => rfl
    | cons m members =>
      obtain ⟨name, value⟩ := m
      simp only [write, List.length_append, List.length_cons, List.length_nil] at hfuel
      have hfuel' : 2 * (value.write ++ writeMembers members).length < fuel := by
        rw [List.length_append]
        omega
      have hread := readMembers_write ih hfuel' rest
      simp only [write, List.cons_append, List.append_assoc, List.nil_append]
      rw [readValue_members, hread]
      rfl

/-! ## Sorted members -/

theorem Exact.insertMember {depth : Nat} {name : String} {value : Json}
    {members : List (String × Json)} (hvalue : Exact depth value)
    (h : ∀ m ∈ members, Exact depth m.2) :
    ∀ m ∈ Json.insertMember name value members, Exact depth m.2 := by
  induction members with
  | nil => simpa [Json.insertMember] using hvalue
  | cons m members ih =>
    obtain ⟨n, v⟩ := m
    rw [List.forall_mem_cons] at h
    rw [Json.insertMember]
    split
    · simpa [hvalue, h.1] using h.2
    split
    · simpa [hvalue] using h.2
    · simpa [h.1] using ih h.2

theorem exact_canonicalItems {depth : Nat} {items : List Json}
    (h : ∀ item ∈ items, Exact depth item.canonical) :
    ∀ item ∈ canonicalItems items, Exact depth item := by
  induction items with
  | nil => simp [canonicalItems]
  | cons item items ih =>
    rw [List.forall_mem_cons] at h
    simpa [canonicalItems, h.1] using ih h.2

theorem exact_canonicalMembers {depth : Nat} {members sorted : List (String × Json)}
    (h : ∀ m ∈ members, Exact depth m.2.canonical) (hsorted : ∀ m ∈ sorted, Exact depth m.2) :
    ∀ m ∈ canonicalMembers members sorted, Exact depth m.2 := by
  induction members generalizing sorted with
  | nil => simpa [canonicalMembers] using hsorted
  | cons m members ih =>
    obtain ⟨n, v⟩ := m
    rw [List.forall_mem_cons] at h
    rw [canonicalMembers]
    exact ih h.2 (h.1.insertMember hsorted)

/-- A value stays exact when members are sorted by name. -/
theorem Exact.canonical {depth : Nat} {j : Json} (h : Exact depth j) :
    Exact depth j.canonical := by
  induction h with
  | null => exact .null
  | bool => exact .bool
  | num h => exact .num h
  | str => exact .str
  | arr _ ih => exact .arr (exact_canonicalItems ih)
  | obj _ ih => exact .obj (exact_canonicalMembers ih (by simp))

/-! ## Texts -/

/-- The compact text of an exact value is read as that value. -/
theorem parseWithin?_compact {depth : Nat} {j : Json} (h : Exact depth j) :
    parseWithin? (depth + 1) j.compact = some j := by
  have hread := h.readsBack (2 * j.write.length + 2) [] (by omega) (by simp [Ends])
  have hspace := j.skipSpace_write []
  rw [List.append_nil] at hread hspace
  rw [parseWithin?, compact, String.toList_ofList, hspace]
  simp only [hread]
  rfl

/-- So is that of a value in which no more arrays and objects lie within each other than the reader
enters by itself. -/
theorem parse?_compact {j : Json} (h : Exact 127 j) : parse? j.compact = some j :=
  parseWithin?_compact h

end RequestPipeline.Json
