import Mathlib.Data.List.Nodup
import RequestPipeline.Settings.Decode
import RequestPipeline.Text.Entries

/-!
# Sections read from data

A section is read field by field, in the order of an object's members or of an array's items. What a
field shows of the section is decided by that field alone (`FieldReader.Shows`): if the data give it
a value, the section shows this value, and otherwise it shows the default (`shown_decode`). Sections
lie in one another, and so do the values that they are given (`Shown.within`).
-/

set_option autoImplicit false

namespace RequestPipeline

open Text

/-! ## Given values -/

/-- The value that data give a field: the member of its name in an object, the item in its place
among all fields in an array. -/
def Json.given? (names : List String) (name : String) : Json → Option Json
  | .obj ms => ms.lookup name
  | .arr xs => xs[names.idxOf name]?
  | _ => none

/-- What is shown is the value that was given, or a default if none was. -/
structure Shown {β : Type} (entry : Option Json) (value? : Json → Option β) (shown default : β) :
    Prop where
  present : ∀ j, entry = some j → value? j = some shown
  absent : entry = none → shown = default

/-- What is shown of a section within another is the value that is given within the section. -/
theorem Shown.within {α β : Type} {entry : Option Json} {decode : Json → Option α}
    {a default : α} {inner : Json → Option Json} {value? : Json → Option β} {view : α → β}
    (h : Shown entry decode a default)
    (hview : ∀ j, decode j = some a → Shown (inner j) value? (view a) (view default)) :
    Shown (entry.bind inner) value? (view a) (view default) := by
  cases hentry : entry with
  | none => exact ⟨by simp, fun _ => congrArg view (h.absent hentry)⟩
  | some j => exact hview j (h.present j hentry)

namespace FieldReader

variable {α β : Type} {fields : List (FieldReader α)} {name : String} {view : α → β}
  {value? : Json → Option β} {a b : α}

/-- Reading the field decides a view of the section, whatever the section was. -/
def Decides (f : FieldReader α) (view : α → β) (value? : Json → Option β) : Prop :=
  ∀ j a b, f.read j a = some b → value? j = some (view b)

/-- Reading the field leaves a view of the section as it is. -/
def Keeps (f : FieldReader α) (view : α → β) : Prop :=
  ∀ j a b, f.read j a = some b → view b = view a

/-- A view of a section shows the field of a name: names belong to one field each, reading this
field decides the view, and reading any other leaves it as it is. -/
structure Shows (fields : List (FieldReader α)) (name : String) (view : α → β)
    (value? : Json → Option β) : Prop where
  nodup : (fields.map FieldReader.name).Nodup
  mem : name ∈ fields.map FieldReader.name
  own : ∀ f ∈ fields, f.name = name → f.Decides view value?
  others : ∀ f ∈ fields, f.name ≠ name → f.Keeps view

section Of

variable {γ : Type} {read? : Json → Option γ} {set : γ → α → α}

@[simp]
theorem name_of : (of name read? set).name = name := rfl

/-- What a field does is what its values do. -/
theorem forall_read_of {P : Json → α → α → Prop} :
    (∀ j a b, (of name read? set).read j a = some b → P j a b) ↔
      ∀ j a x, read? j = some x → P j a (set x a) := by
  constructor
  · intro h j a x hx
    exact h j a (set x a) (by simp [of, hx])
  · intro h j a b hread
    obtain ⟨x, hx, rfl⟩ := Option.map_eq_some_iff.mp hread
    exact h j a x hx

@[simp]
theorem decides_of : (of name read? set).Decides view value? ↔
    ∀ j a x, read? j = some x → value? j = some (view (set x a)) :=
  forall_read_of

@[simp]
theorem keeps_of : (of name read? set).Keeps view ↔
    ∀ j a x, read? j = some x → view (set x a) = view a :=
  forall_read_of

end Of

/-! ## Objects -/

section Objects

variable {seen : List String} {ms : List (String × Json)}

/-- A member that is read has the name of a field and comes for the first time. -/
theorem members_cons_eq_some {name : String} {j : Json}
    (h : members fields seen ((name, j) :: ms) a = some b) :
    name ∉ seen ∧ ∃ g ∈ fields, g.name = name ∧ ∃ c, g.read j a = some c ∧
      members fields (name :: seen) ms c = some b := by
  rw [members] at h
  split at h
  · cases h
  · next hseen =>
    split at h
    · cases h
    · next g hg =>
      obtain ⟨c, hc, hrest⟩ := Option.bind_eq_some_iff.mp h
      refine ⟨by simpa using hseen, g, List.mem_of_find?_eq_some hg, ?_, c, hc, hrest⟩
      simpa using List.find?_some hg

/-- A name that was read before is not given again. -/
theorem lookup_of_seen {name : String} (h : members fields seen ms a = some b)
    (hname : name ∈ seen) : ms.lookup name = none := by
  induction ms generalizing seen a with
  | nil => rfl
  | cons m ms ih =>
    obtain ⟨n, j⟩ := m
    obtain ⟨hfresh, g, -, -, c, -, hrest⟩ := members_cons_eq_some h
    have hne : name ≠ n := by
      rintro rfl
      exact hfresh hname
    rw [lookup_cons_of_ne hne]
    exact ih hrest (List.mem_cons_of_mem n hname)

theorem shown_members (hshows : Shows fields name view value?)
    (h : members fields seen ms a = some b) : Shown (ms.lookup name) value? (view b) (view a) := by
  induction ms generalizing seen a with
  | nil =>
    obtain rfl : a = b := by simpa [members] using h
    exact ⟨by simp, fun _ => rfl⟩
  | cons m ms ih =>
    obtain ⟨n, j⟩ := m
    obtain ⟨-, f, hf, rfl, c, hc, hrest⟩ := members_cons_eq_some h
    have hshown := ih hrest
    by_cases hname : f.name = name
    · -- this member decides, since the name does not come again
      subst hname
      have hview : view b = view c := hshown.absent (lookup_of_seen hrest (by simp))
      rw [List.lookup_cons_self]
      refine ⟨fun x hx => ?_, by simp⟩
      obtain rfl : j = x := by simpa using hx
      rw [hview]
      exact hshows.own f hf rfl j a c hc
    · rw [lookup_cons_of_ne (Ne.symm hname)]
      rw [hshows.others f hf hname j a c hc] at hshown
      exact hshown

end Objects

/-! ## Arrays -/

section Arrays

variable {surplus : Bool} {xs : List Json}

/-- Items of other fields leave a view as it is. -/
theorem view_items_of_keeps (h : ∀ f ∈ fields, f.Keeps view)
    (hitems : items surplus fields xs a = some b) : view b = view a := by
  induction fields generalizing xs a with
  | nil =>
    cases xs with
    | nil =>
      obtain rfl : a = b := by simpa [items] using hitems
      rfl
    | cons x xs =>
      obtain ⟨-, rfl⟩ : surplus = true ∧ a = b := by simpa [items] using hitems
      rfl
  | cons f fs ih =>
    cases xs with
    | nil =>
      obtain rfl : a = b := by simpa [items] using hitems
      rfl
    | cons x xs =>
      rw [items] at hitems
      obtain ⟨c, hc, hrest⟩ := Option.bind_eq_some_iff.mp hitems
      rw [ih (fun g hg => h g (List.mem_cons_of_mem _ hg)) hrest]
      exact h f (by simp) x a c hc

theorem shown_items (hshows : Shows fields name view value?)
    (h : items surplus fields xs a = some b) :
    Shown xs[(fields.map FieldReader.name).idxOf name]? value? (view b) (view a) := by
  obtain ⟨hnames, hmem, hown, hothers⟩ := hshows
  induction fields generalizing xs a with
  | nil => simp at hmem
  | cons f fs ih =>
    rw [List.map_cons, List.nodup_cons] at hnames
    cases xs with
    | nil =>
      obtain rfl : a = b := by simpa [items] using h
      exact ⟨by simp, fun _ => rfl⟩
    | cons x xs =>
      rw [items] at h
      obtain ⟨c, hc, hrest⟩ := Option.bind_eq_some_iff.mp h
      by_cases hname : f.name = name
      · -- the item in front decides, and those behind it go to other fields
        subst hname
        have hview : view b = view c := by
          refine view_items_of_keeps (fun g hg => hothers g (List.mem_cons_of_mem _ hg) ?_) hrest
          intro hgf
          exact hnames.1 (hgf ▸ List.mem_map_of_mem hg)
        rw [List.map_cons, List.idxOf_cons_self]
        refine ⟨fun y hy => ?_, by simp⟩
        obtain rfl : x = y := by simpa using hy
        rw [hview]
        exact hown f (by simp) rfl x a c hc
      · have hmem' : name ∈ fs.map FieldReader.name := by
          rcases List.mem_cons.mp hmem with rfl | hmem
          · exact absurd rfl hname
          · exact hmem
        have hshown := ih hrest hnames.2 hmem' (fun g hg => hown g (List.mem_cons_of_mem _ hg))
          fun g hg => hothers g (List.mem_cons_of_mem _ hg)
        rw [hothers f (by simp) hname x a c hc] at hshown
        rw [List.map_cons, List.idxOf_cons_ne _ hname]
        exact hshown

end Arrays

/-! ## Sections -/

/-- A section that is read shows of each field the value that it was given, or the default. -/
theorem shown_decode {d : Dialect} {default : α} {j : Json} (hshows : Shows fields name view value?)
    (h : decode d fields default j = some b) :
    Shown (j.given? (fields.map FieldReader.name) name) value? (view b) (view default) := by
  cases j with
  | obj ms => exact shown_members hshows h
  | arr xs => exact shown_items hshows h
  | _ => simp [decode] at h

/-- What a section shows of a field of another section within it. -/
theorem shown_decode_within {γ : Type} {d : Dialect} {inner : List (FieldReader β)}
    {innerName : String} {view : α → β} {innerView : β → γ} {value? : Json → Option γ} {default : α}
    {j : Json} (hshows : Shows fields name view (decode d inner (view default)))
    (hinner : Shows inner innerName innerView value?) (h : decode d fields default j = some b) :
    Shown ((j.given? (fields.map FieldReader.name) name).bind
        (Json.given? (inner.map FieldReader.name) innerName))
      value? (innerView (view b)) (innerView (view default)) :=
  (shown_decode hshows h).within fun _ hj => shown_decode hinner hj

end FieldReader

end RequestPipeline
