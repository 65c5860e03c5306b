import Mathlib.Data.List.Pairwise
import RequestPipeline.Proofs.Settings.Sections

/-!
# Ways to write a section down

The same section can be written down in several ways. As fields do not interfere with each other
(`FieldReader.Separate`), the members of an object may stand in any order (`members_perm`), a member
that changes nothing may be left out (`members_cons_of_unchanged`), and what is left out is shown as
it was (`shown_of_absent`). A name that no field has is never passed over (`members_of_unknown`),
and the items of an array are read as members of the first fields in order (`items_eq_members`).
-/

set_option autoImplicit false

namespace RequestPipeline.FieldReader

open Text

variable {α β : Type} {fields : List (FieldReader α)} {seen seen' : List String}
  {ms ms' : List (String × Json)} {name : String} {j : Json} {a b : α}

/-! ## Single members -/

/-- Reads a member: the field of its name takes the value. -/
def readNamed (fields : List (FieldReader α)) (name : String) (j : Json) (a : α) : Option α :=
  (fields.find? fun f => f.name == name).bind fun f => f.read j a

theorem members_cons : members fields seen ((name, j) :: ms) a =
    if name ∈ seen then none
    else (readNamed fields name j a).bind (members fields (name :: seen) ms) := by
  rw [members, readNamed]
  simp only [List.contains_iff_mem]
  split
  · rfl
  · cases fields.find? fun f => f.name == name <;> rfl

theorem of_find? {f : FieldReader α} (h : (fields.find? fun f => f.name == name) = some f) :
    f ∈ fields ∧ f.name = name :=
  ⟨List.mem_of_find?_eq_some h, by simpa using List.find?_some h⟩

theorem readNamed_of_none (h : (fields.find? fun f => f.name == name) = none) :
    readNamed fields name = fun _ _ => none := by
  funext j a
  rw [readNamed, h, Option.bind_none]

theorem readNamed_of_some {f : FieldReader α}
    (h : (fields.find? fun f => f.name == name) = some f) :
    readNamed fields name = f.read := by
  funext j a
  rw [readNamed, h, Option.bind_some]

/-- Every member of an object that is read has its field, which takes the value. -/
theorem exists_field_of_mem (h : members fields seen ms a = some b) (hmem : (name, j) ∈ ms) :
    ∃ f ∈ fields, f.name = name ∧ ∃ c c', f.read j c = some c' := by
  induction ms generalizing seen a with
  | nil => cases hmem
  | cons m ms ih =>
    obtain ⟨n, i⟩ := m
    obtain ⟨-, f, hf, hfn, c, hc, hrest⟩ := members_cons_eq_some h
    rcases List.mem_cons.mp hmem with heq | hmem
    · obtain ⟨rfl, rfl⟩ := Prod.mk.inj heq
      exact ⟨f, hf, hfn, a, c, hc⟩
    · exact ih hrest hmem

/-- Of the names read before only those matter that come again. -/
theorem members_congr_seen (h : ∀ n ∈ ms.map Prod.fst, n ∈ seen ↔ n ∈ seen') :
    members fields seen ms a = members fields seen' ms a := by
  induction ms generalizing seen seen' a with
  | nil => rfl
  | cons m ms ih =>
    obtain ⟨n, j⟩ := m
    rw [List.map_cons, List.forall_mem_cons] at h
    have hrest : members fields (n :: seen) ms = members fields (n :: seen') ms := by
      funext b
      refine ih fun k hk => ?_
      rw [List.mem_cons, List.mem_cons, h.2 k hk]
    rw [members_cons, members_cons, hrest]
    simp only [h.1]

/-! ## Members that are refused -/

/-- An object with a name that no field has is refused. -/
theorem members_of_unknown (hname : name ∈ ms.map Prod.fst)
    (hunknown : name ∉ fields.map FieldReader.name) : members fields seen ms a = none := by
  refine Option.eq_none_iff_forall_ne_some.mpr fun b hb => ?_
  obtain ⟨m, hm, rfl⟩ := List.mem_map.mp hname
  obtain ⟨f, hf, hfn, -⟩ := exists_field_of_mem hb hm
  exact hunknown (List.mem_map.mpr ⟨f, hf, hfn⟩)

/-- An object with a value that its field does not take is refused. -/
theorem members_of_refused (hmem : (name, j) ∈ ms)
    (h : ∀ f ∈ fields, f.name = name → ∀ a, f.read j a = none) :
    members fields seen ms a = none := by
  refine Option.eq_none_iff_forall_ne_some.mpr fun b hb => ?_
  obtain ⟨f, hf, hfn, c, c', hc⟩ := exists_field_of_mem hb hmem
  rw [h f hf hfn c] at hc
  cases hc

/-! ## Order -/

/-- Two fields do not interfere: it does not matter which of them is read first. -/
def Commutes (f g : FieldReader α) : Prop :=
  ∀ j k a, (f.read j a).bind (g.read k) = (g.read k a).bind (f.read j)

theorem commutes_of {γ : Type} {n n' : String} {read? : Json → Option β} {read?' : Json → Option γ}
    {set : β → α → α} {set' : γ → α → α} (h : ∀ x y a, set' y (set x a) = set x (set' y a)) :
    (of n read? set).Commutes (of n' read?' set') := by
  intro j k a
  simp only [of]
  cases read? j <;> cases read?' k <;> simp [h]

/-- The fields of a section have names of their own and do not interfere. -/
structure Separate (fields : List (FieldReader α)) : Prop where
  nodup : (fields.map FieldReader.name).Nodup
  commutes : fields.Pairwise Commutes

theorem Separate.commute (h : Separate fields) {f g : FieldReader α} (hf : f ∈ fields)
    (hg : g ∈ fields) (hne : f.name ≠ g.name) : f.Commutes g := by
  have hsymm : Std.Symm (Commutes : FieldReader α → FieldReader α → Prop) :=
    ⟨fun f g hfg j k a => (hfg k j a).symm⟩
  exact h.commutes.forall hf hg fun hfg => hne (congrArg FieldReader.name hfg)

theorem readNamed_comm (h : Separate fields) {n n' : String} (hne : n ≠ n') (j k : Json) (a : α) :
    (readNamed fields n j a).bind (readNamed fields n' k) =
      (readNamed fields n' k a).bind (readNamed fields n j) := by
  cases hf : fields.find? fun f => f.name == n with
  | none => simp [readNamed_of_none hf]
  | some f =>
    cases hg : fields.find? fun f => f.name == n' with
    | none => simp [readNamed_of_none hg]
    | some g =>
      obtain ⟨hfmem, rfl⟩ := of_find? hf
      obtain ⟨hgmem, rfl⟩ := of_find? hg
      rw [readNamed_of_some hf, readNamed_of_some hg]
      exact h.commute hfmem hgmem hne j k a

/-- Two members are read if their names are new and differ. -/
theorem members_cons_cons {n n' : String} {k : Json} :
    members fields seen ((n, j) :: (n', k) :: ms) a =
      if n ∈ seen ∨ n' ∈ seen ∨ n = n' then none
      else ((readNamed fields n j a).bind (readNamed fields n' k)).bind
        (members fields (n' :: n :: seen) ms) := by
  have hsecond : members fields (n :: seen) ((n', k) :: ms) = fun b =>
      if n' ∈ n :: seen then none
      else (readNamed fields n' k b).bind (members fields (n' :: n :: seen) ms) :=
    funext fun b => members_cons
  rw [members_cons, hsecond]
  by_cases hn : n ∈ seen
  · simp [hn]
  · by_cases hn' : n' ∈ seen ∨ n = n'
    · have hagain : n' ∈ n :: seen := by
        rcases hn' with hn' | rfl <;> simp [*]
      simp [hn, hn', hagain]
    · have hfresh : n' ∉ n :: seen := by
        rw [not_or] at hn'
        simp [hn'.1, Ne.symm hn'.2]
      simp [hn, hn', hfresh, Option.bind_assoc]

/-- The order of an object's members is of no account. -/
theorem members_perm (h : Separate fields) (hp : ms.Perm ms') :
    members fields seen ms a = members fields seen ms' a := by
  induction hp generalizing seen a with
  | nil => rfl
  | cons m _ ih =>
    obtain ⟨n, j⟩ := m
    have hrest : members fields (n :: seen) _ = members fields (n :: seen) _ := funext fun b => ih
    rw [members_cons, members_cons, hrest]
  | swap m m' ms =>
    obtain ⟨n, j⟩ := m
    obtain ⟨n', k⟩ := m'
    rw [members_cons_cons, members_cons_cons]
    by_cases hsame : n' ∈ seen ∨ n ∈ seen ∨ n' = n
    · rw [if_pos hsame, if_pos]
      simpa [or_left_comm, eq_comm] using hsame
    · have hne : n' ≠ n := fun hn => hsame (.inr (.inr hn))
      have hseen : members fields (n :: n' :: seen) ms = members fields (n' :: n :: seen) ms :=
        funext fun b => members_congr_seen fun i _ => by simp [or_left_comm]
      rw [if_neg hsame, if_neg, readNamed_comm h hne, hseen]
      simpa [or_left_comm, eq_comm] using hsame
  | trans _ _ ih ih' => exact ih.trans ih'

/-! ## Defaults -/

/-- A member that changes nothing may be left out. -/
theorem members_cons_of_unchanged (hname : name ∉ ms.map Prod.fst) (hseen : name ∉ seen)
    (hread : readNamed fields name j a = some a) :
    members fields seen ((name, j) :: ms) a = members fields seen ms a := by
  rw [members_cons, if_neg hseen, hread, Option.bind_some]
  refine members_congr_seen fun n hn => ?_
  have hne : n ≠ name := by
    rintro rfl
    exact hname hn
  simp [hne]

/-- Reading the field changes its own member only, as far as members of the section are shown. -/
def Confined (f : FieldReader α) (shown : α → List (String × Json)) : Prop :=
  ∀ j a b, f.read j a = some b → ∀ m ∈ shown b, m.1 ≠ f.name → m ∈ shown a

theorem confined_of {read? : Json → Option β} {set : β → α → α} {shown : α → List (String × Json)} :
    (of name read? set).Confined shown ↔
      ∀ j a x, read? j = some x → ∀ m ∈ shown (set x a), m.1 ≠ name → m ∈ shown a :=
  forall_read_of

/-- What an object leaves out is shown as it was. -/
theorem shown_of_absent {shown : α → List (String × Json)} (h : ∀ f ∈ fields, f.Confined shown)
    (hread : members fields seen ms a = some b) {m : String × Json} (hm : m ∈ shown b)
    (habsent : m.1 ∉ ms.map Prod.fst) : m ∈ shown a := by
  induction ms generalizing seen a with
  | nil =>
    obtain rfl : a = b := by simpa [members] using hread
    exact hm
  | cons k ms ih =>
    obtain ⟨n, j⟩ := k
    rw [List.map_cons, List.mem_cons, not_or] at habsent
    obtain ⟨-, f, hf, rfl, c, hc, hrest⟩ := members_cons_eq_some hread
    exact h f hf j a c hc m (ih hrest habsent.2) habsent.1

/-! ## Arrays -/

/-- Behind fields that have been read, items go to the fields that are left. -/
theorem items_eq_members_behind (front : List (FieldReader α)) {rest : List (FieldReader α)}
    {surplus : Bool} {xs : List Json}
    (hnodup : ((front ++ rest).map FieldReader.name).Nodup) (hlength : xs.length ≤ rest.length) :
    items surplus rest xs a = members (front ++ rest) (front.map FieldReader.name)
      ((rest.map FieldReader.name).zip xs) a := by
  induction rest generalizing front xs a with
  | nil =>
    obtain rfl : xs = [] := List.length_eq_zero_iff.mp (Nat.le_zero.mp hlength)
    rfl
  | cons f rest ih =>
    cases xs with
    | nil => rfl
    | cons x xs =>
      have hfresh : f.name ∉ front.map FieldReader.name := by
        rw [List.map_append, List.map_cons, List.nodup_append] at hnodup
        exact fun hf => hnodup.2.2 _ hf _ List.mem_cons_self rfl
      have hfind : ((front ++ f :: rest).find? fun g => g.name == f.name) = some f := by
        refine List.find?_eq_some_iff_append.mpr ⟨by simp, front, rest, rfl, fun g hg => ?_⟩
        have hne : g.name ≠ f.name := fun hname => hfresh (hname ▸ List.mem_map_of_mem hg)
        simp [hne]
      have hlist : front ++ f :: rest = (front ++ [f]) ++ rest := by simp
      have hrest : items surplus rest xs = members (front ++ f :: rest)
          (f.name :: front.map FieldReader.name) ((rest.map FieldReader.name).zip xs) := by
        funext b
        rw [hlist] at hnodup ⊢
        rw [ih (front ++ [f]) hnodup (by simpa using hlength)]
        exact members_congr_seen fun n _ => by simp [or_comm]
      rw [items, List.map_cons, List.zip_cons_cons, members_cons, if_neg hfresh,
        readNamed_of_some hfind, hrest]

/-- Items are read as members of the first fields in order. -/
theorem items_eq_members {surplus : Bool} {xs : List Json}
    (hnodup : (fields.map FieldReader.name).Nodup) (hlength : xs.length ≤ fields.length) :
    items surplus fields xs a = members fields [] ((fields.map FieldReader.name).zip xs) a :=
  items_eq_members_behind [] hnodup hlength

/-! ## Sections within others -/

/-- The value of a member may be replaced by one that its field reads alike. -/
theorem members_congr_value {k : Json}
    (h : ∀ f ∈ fields, f.name = name → f.read j = f.read k) :
    members fields seen (ms ++ (name, j) :: ms') a =
      members fields seen (ms ++ (name, k) :: ms') a := by
  induction ms generalizing seen a with
  | nil =>
    have hread : readNamed fields name j = readNamed fields name k := by
      cases hf : fields.find? fun f => f.name == name with
      | none => rw [readNamed_of_none hf]
      | some f =>
        obtain ⟨hmem, hname⟩ := of_find? hf
        rw [readNamed_of_some hf, h f hmem hname]
    rw [List.nil_append, List.nil_append, members_cons, members_cons, hread]
  | cons m ms ih =>
    obtain ⟨n, i⟩ := m
    have hrest : members fields (n :: seen) (ms ++ (name, j) :: ms') =
        members fields (n :: seen) (ms ++ (name, k) :: ms') := funext fun b => ih
    rw [List.cons_append, List.cons_append, members_cons, members_cons, hrest]

end RequestPipeline.FieldReader
