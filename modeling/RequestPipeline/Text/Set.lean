/-!
# Sets of texts

A set holds each of its members once. It may hold them in any order, which says nothing about the
set (`TextSet.Alike`); whoever lists the members sorts them first (`sorted`).
-/

namespace RequestPipeline.Text

/-- Texts in ascending order. -/
def sorted (ss : List String) : List String := ss.mergeSort fun s t => decide (s ≤ t)

/-- A set of texts, in the order in which it happens to hold them. -/
structure TextSet where
  members : List String := []
  nodup : members.Nodup := by exact List.nodup_nil
  deriving DecidableEq

namespace TextSet

/-- The set without members. -/
def empty : TextSet := {}

instance : Inhabited TextSet := ⟨empty⟩

/-- Two sets have the same members, in whatever order they hold them. -/
def Alike (set set' : TextSet) : Prop := set.members.Perm set'.members

/-- The set with one more member, unless it is there. -/
def insert (set : TextSet) (s : String) : TextSet :=
  if h : s ∈ set.members then set else ⟨s :: set.members, List.nodup_cons.mpr ⟨h, set.nodup⟩⟩

/-- The set with more members. -/
def insertAll (set : TextSet) (ss : List String) : TextSet := ss.foldl insert set

/-- The set of the texts in a list. -/
def ofList (ss : List String) : TextSet := empty.insertAll ss

/-- Whether a text is a member. -/
def contains (set : TextSet) (s : String) : Bool := set.members.contains s

theorem mem_insert {set : TextSet} {s t : String} :
    t ∈ (set.insert s).members ↔ t = s ∨ t ∈ set.members := by
  unfold insert
  split
  · next h =>
    constructor
    · exact Or.inr
    · rintro (rfl | ht)
      · exact h
      · exact ht
  · exact List.mem_cons

@[simp] theorem contains_insert (set : TextSet) (s t : String) :
    (set.insert s).contains t = (t == s || set.contains t) := by
  rw [Bool.eq_iff_iff]
  simp [contains, mem_insert]

@[simp] theorem contains_insertAll (set : TextSet) (ss : List String) (t : String) :
    (set.insertAll ss).contains t = (ss.contains t || set.contains t) := by
  induction ss generalizing set with
  | nil => simp [insertAll]
  | cons s ss ih =>
    show ((set.insert s).insertAll ss).contains t = _
    rw [ih, contains_insert, List.contains_cons]
    cases ss.contains t <;> cases (t == s) <;> simp

theorem contains_ofList (ss : List String) (t : String) :
    (ofList ss).contains t = ss.contains t := by
  rw [ofList, contains_insertAll]
  simp [empty, contains]

end TextSet

end RequestPipeline.Text
