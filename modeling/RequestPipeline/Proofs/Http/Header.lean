import RequestPipeline.Http.Header

/-!
# Values of header fields

A value that can be read as a text is the value that this text stands for
(`HeaderValue.ofText?_of_readable?`), and so is every text of visible characters a value. A name has
the value that was inserted for it, and no other (`Headers.values_insert_self`), unless it is to
keep those that it has (`Headers.values_insertIfMissing_self`).
-/

set_option autoImplicit false

namespace RequestPipeline.Http

/-! ## Bytes of a text -/

/-- Reading an array of bytes from a position on yields what stands behind it. -/
theorem toList_loop (bs : ByteArray) (i : Nat) (r : List UInt8) :
    ByteArray.toList.loop bs i r = r.reverse ++ bs.data.toList.drop i := by
  fun_induction ByteArray.toList.loop bs i r with
  | case1 i r hlt ih =>
    have hi : i < bs.data.toList.length := by simpa using hlt
    have hget : bs.get! i = bs.data.toList[i] := by
      rw [Array.getElem_toList]
      exact getElem!_pos bs.data i hlt
    rw [ih, List.drop_eq_getElem_cons hi, hget]
    simp
  | case2 i r hlt =>
    rw [List.drop_eq_nil_of_le (by simpa using Nat.le_of_not_lt hlt), List.append_nil]

/-- A text is encoded character by character. -/
theorem toUTF8_toList (s : String) : s.toUTF8.toList = s.toList.flatMap String.utf8EncodeChar := by
  have hbytes : s.toUTF8 = (s.toList.flatMap String.utf8EncodeChar).toByteArray :=
    String.utf8Encode_toList.symm
  rw [ByteArray.toList, toList_loop, hbytes, List.toList_data_toByteArray]
  rfl

/-- A character of ASCII takes one byte, its number. -/
theorem utf8EncodeChar_of_ascii {c : Char} (h : c.toNat ≤ 127) :
    String.utf8EncodeChar c = [UInt8.ofNat c.toNat] :=
  if_pos h

theorem toUTF8_of_ascii {cs : List Char} (h : ∀ c ∈ cs, c.toNat ≤ 127) :
    (String.ofList cs).toUTF8.toList = cs.map fun c => UInt8.ofNat c.toNat := by
  rw [toUTF8_toList, String.toList_ofList]
  induction cs with
  | nil => rfl
  | cons c cs ih =>
    rw [List.forall_mem_cons] at h
    rw [List.flatMap_cons, utf8EncodeChar_of_ascii h.1, ih h.2]
    rfl

namespace HeaderValue

/-! ## Texts that are values -/

/-- A text of ASCII is a value if none of its bytes is a control character. -/
theorem ofText?_of_ascii {cs : List Char} (h : ∀ c ∈ cs, c.toNat ≤ 127)
    (valid : (cs.map fun c => UInt8.ofNat c.toNat).all isValueByte = true) :
    ofText? (String.ofList cs) = some ⟨cs.map fun c => UInt8.ofNat c.toNat, valid⟩ := by
  rw [ofText?, ofBytes?, toUTF8_of_ascii h, dif_pos valid]

/-- A character of ASCII that is no control character. -/
def isVisible (c : Char) : Bool := 32 ≤ c.toNat && c.toNat < 127

/-- A text of visible characters is a value. -/
theorem exists_ofText?_of_visible {cs : List Char} (h : ∀ c ∈ cs, isVisible c = true) :
    ∃ v, ofText? (String.ofList cs) = some v := by
  simp only [isVisible, Bool.and_eq_true, decide_eq_true_eq] at h
  have hvalid : (cs.map fun c => UInt8.ofNat c.toNat).all isValueByte = true := by
    simp only [List.all_map, List.all_eq_true, Function.comp_apply]
    intro c hc
    obtain ⟨hlow, hhigh⟩ := h c hc
    have hbyte : (UInt8.ofNat c.toNat).toNat = c.toNat := by
      simp [UInt8.toNat_ofNat', Nat.mod_eq_of_lt (show c.toNat < 256 by omega)]
    simp [isValueByte, UInt8.le_iff_toNat_le, ← UInt8.toNat_inj, hbyte]
    omega
  exact ⟨_, ofText?_of_ascii (fun c hc => Nat.le_of_lt (h c hc).2) hvalid⟩

/-- A text is a value if no character of it is encoded with a control character. -/
theorem isSome_ofText?_iff {s : String} :
    (ofText? s).isSome = true ↔
      ∀ c ∈ s.toList, (String.utf8EncodeChar c).all isValueByte = true := by
  have hbytes : s.toUTF8.toList.all isValueByte = true ↔
      ∀ c ∈ s.toList, (String.utf8EncodeChar c).all isValueByte = true := by
    rw [toUTF8_toList, List.all_flatMap, List.all_eq_true]
  rw [← hbytes, ofText?, ofBytes?]
  split
  · next hvalid => exact ⟨fun _ => hvalid, fun _ => rfl⟩
  · next hvalid => exact ⟨nofun, fun h => absurd h hvalid⟩

/-- Values with a value between them are a value. -/
theorem isSome_ofText?_intercalate {sep : String} {ss : List String}
    (hsep : (ofText? sep).isSome = true) (h : ∀ s ∈ ss, (ofText? s).isSome = true) :
    (ofText? (sep.intercalate ss)).isSome = true := by
  simp only [isSome_ofText?_iff] at h hsep ⊢
  induction ss with
  | nil => simp
  | cons s ss ih =>
    obtain ⟨hs, hss⟩ := List.forall_mem_cons.mp h
    cases ss with
    | nil => simpa using hs
    | cons t ts =>
      rw [String.intercalate_cons_of_ne_nil (by simp)]
      intro c hc
      rw [String.toList_append, String.toList_append, List.mem_append, List.mem_append] at hc
      rcases hc with (hc | hc) | hc
      · exact hs c hc
      · exact hsep c hc
      · exact ih hss c hc

/-- A text of ASCII is the value of its characters. -/
theorem ofText?_ofAscii (s : String) (h : s.toList.all isVisible = true)
    (valid : (s.toList.map fun c => UInt8.ofNat c.toNat).all isValueByte = true) :
    ofText? s = some (ofAscii s valid) := by
  have hascii : ∀ c ∈ s.toList, c.toNat ≤ 127 := by
    intro c hc
    have hvisible := List.all_eq_true.mp h c hc
    simp only [isVisible, Bool.and_eq_true, decide_eq_true_eq] at hvisible
    exact Nat.le_of_lt hvisible.2
  have hvalue := ofText?_of_ascii hascii valid
  rwa [String.ofList_toList] at hvalue

theorem isSome_ofText?_of_visible {s : String} (h : s.toList.all isVisible = true) :
    (ofText? s).isSome = true := by
  obtain ⟨v, hv⟩ := exists_ofText?_of_visible (List.all_eq_true.mp h)
  rw [String.ofList_toList] at hv
  rw [hv]
  rfl

/-- A number is a value. -/
theorem isSome_ofText?_toString (n : Nat) : (ofText? (toString n)).isSome = true := by
  rw [Nat.toString_eq_ofList_toDigits]
  have hvisible : ∀ c ∈ Nat.toDigits 10 n, isVisible c = true := by
    intro c hc
    have hdigit := Nat.isDigit_of_mem_toDigits (by decide) (by decide) hc
    simp only [Char.isDigit, Bool.and_eq_true, decide_eq_true_eq, ge_iff_le, UInt32.le_iff_toNat_le]
      at hdigit
    simp only [isVisible, Bool.and_eq_true, decide_eq_true_eq]
    exact ⟨Nat.le_trans (by decide) hdigit.1, Nat.lt_of_le_of_lt hdigit.2 (by decide)⟩
  apply isSome_ofText?_of_visible
  rw [String.toList_ofList]
  exact List.all_eq_true.mpr hvisible

/-- A byte that can be read is that of its character. -/
theorem toNat_ofNat_of_readable {b : UInt8} (h : isReadableByte b = true) :
    (Char.ofNat b.toNat).toNat = b.toNat ∧ b.toNat ≤ 127 := by
  have hle : b.toNat ≤ 127 := by
    simp only [isReadableByte, Bool.or_eq_true, Bool.and_eq_true, decide_eq_true_eq, beq_iff_eq,
      UInt8.lt_iff_toNat_lt] at h
    rcases h with ⟨-, h⟩ | rfl
    · exact Nat.le_of_lt h
    · decide
  refine ⟨?_, hle⟩
  have hvalid : b.toNat.isValidChar := .inl (by omega)
  rw [Char.ofNat, dif_pos hvalid]
  rfl

/-- A value that can be read is the one that its text stands for. -/
theorem ofText?_of_readable? {v : HeaderValue} {s : String} (h : v.readable? = some s) :
    ofText? s = some v := by
  obtain ⟨bytes, valid⟩ := v
  simp only [readable?, Option.ite_none_right_eq_some, List.all_eq_true, Option.some.injEq] at h
  obtain ⟨hread, rfl⟩ := h
  have hbytes : ((bytes.map fun b => Char.ofNat b.toNat).map fun c => UInt8.ofNat c.toNat) =
      bytes := by
    rw [List.map_map]
    refine (List.map_congr_left fun b hb => ?_).trans (List.map_id _)
    rw [Function.comp_apply, (toNat_ofNat_of_readable (hread b hb)).1, UInt8.ofNat_toNat, id]
  have hascii : ∀ c ∈ bytes.map fun b => Char.ofNat b.toNat, c.toNat ≤ 127 := by
    intro c hc
    obtain ⟨b, hb, rfl⟩ := List.mem_map.mp hc
    obtain ⟨hchar, hle⟩ := toNat_ofNat_of_readable (hread b hb)
    omega
  rw [ofText?_of_ascii hascii (by rwa [hbytes])]
  simp only [hbytes]

end HeaderValue

namespace Headers

/-- The first value of a name that has at most one value, all of which can be read. -/
theorem readable?_of_once {h : Headers} {n : HeaderName} {o : Option String}
    (honce : (h.values n).map HeaderValue.readable? = o.toList.map some) : h.readable? n = o := by
  unfold readable? first?
  cases o with
  | none =>
    obtain hvalues : h.values n = [] := by simpa using honce
    rw [hvalues]
    rfl
  | some s =>
    obtain ⟨v, hvalues, hv⟩ : ∃ v, h.values n = [v] ∧ v.readable? = some s := by
      simpa [List.map_eq_singleton_iff] using honce
    rw [hvalues]
    exact hv

/-! ## Inserted values -/

theorem filter_place_of_none {p : Field → Bool} {f : Field} {fs : List Field} (hp : p f = true)
    (h : fs.filter p = []) : (f.place fs).filter p = [f] := by
  induction fs with
  | nil => simp [Field.place, hp]
  | cons g gs ih =>
    have hnone : ∀ x ∈ g :: gs, ¬p x = true := List.filter_eq_nil_iff.mp h
    have hg : ¬p g = true := hnone g (List.mem_cons_self ..)
    have hgs : gs.filter p = [] :=
      List.filter_eq_nil_iff.mpr fun x hx => hnone x (List.mem_cons_of_mem _ hx)
    unfold Field.place
    split
    · rw [List.filter_cons_of_pos hp, h]
    · rw [List.filter_cons_of_neg hg, ih hgs]

/-- A name has the value that was inserted for it, and no other. -/
@[simp] theorem values_insert_self (h : Headers) (n : HeaderName) (v : HeaderValue) :
    (h.insert n v).values n = [v] := by
  have hremoved : (h.remove n).fields.filter (fun f => decide (f.name = n)) = [] := by
    simpa [values] using h.values_remove_self n
  rw [values, insert, append, filter_place_of_none (by simp) hremoved]
  rfl

theorem has_eq_false_iff {h : Headers} {n : HeaderName} : h.has n = false ↔ h.values n = [] := by
  simp [has, values]

theorem values_insertIfMissing_ne (h : Headers) {m n : HeaderName} (v : HeaderValue)
    (hmn : m ≠ n) : (h.insertIfMissing m v).values n = h.values n := by
  unfold insertIfMissing
  split
  · rfl
  · exact values_append_ne h v hmn

/-- A name keeps the values that it has; without one it has the value that was inserted. -/
theorem values_insertIfMissing_self (h : Headers) (n : HeaderName) (v : HeaderValue) :
    (h.insertIfMissing n v).values n = if h.values n = [] then [v] else h.values n := by
  cases hn : h.has n with
  | true =>
    have hsome : h.values n ≠ [] := fun hnone => by simp [has_eq_false_iff.mpr hnone] at hn
    rw [insertIfMissing, if_pos hn, if_neg hsome]
  | false =>
    have hvalues : h.values n = [] := has_eq_false_iff.mp hn
    have hnone : h.fields.filter (fun f => decide (f.name = n)) = [] := by
      simpa [values] using hvalues
    rw [insertIfMissing, if_neg (by simp [hn]), if_pos hvalues, values, append,
      filter_place_of_none (by simp) hnone]
    rfl

end Headers

end RequestPipeline.Http
