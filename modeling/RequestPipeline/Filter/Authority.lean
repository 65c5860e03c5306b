import RequestPipeline.Filter.Listing
import RequestPipeline.Text.Entries

/-!
# Authority

Of several listings that carry a policy one is in charge of it. Who that is stands in a table that
is written while the listings are walked through in order: each puts itself in charge of the
policies that it carries, in place of whoever was in charge before. The table is read in both
directions: who is in charge of a policy (`Authority.holder?`), and what a listing is in charge of
(`Authority.policies`).
-/

set_option autoImplicit false

namespace RequestPipeline

open Text

/-- Policies, each with the position of the listing in charge of it. -/
structure Authority where
  entries : List (Marker × Nat)
  nodup : (entries.map Prod.fst).Nodup

namespace Authority

/-- Nobody is in charge of anything. -/
def empty : Authority := ⟨[], List.nodup_nil⟩

/-- Puts a position in charge of a policy, in place of whoever was. -/
def insert (t : Authority) (m : Marker) (i : Nat) : Authority where
  entries := (m, i) :: t.entries.filter fun e => e.1 != m
  nodup := by
    rw [List.map_cons, List.nodup_cons]
    constructor
    · -- the former entry of the policy is gone
      simp
    · exact t.nodup.sublist (List.filter_sublist.map Prod.fst)

/-- Puts a position in charge of all that a listing carries. -/
def grant (t : Authority) (i : Nat) (l : Listing) : Authority :=
  l.policies.foldl (fun t m => t.insert m i) t

/-- Puts listings in charge of what they carry, from a position on. -/
def extend : Authority → Nat → List Listing → Authority
  | t, _, [] => t
  | t, i, l :: ls => extend (t.grant i l) (i + 1) ls

/-- The position in charge of a policy. -/
def holder? (t : Authority) (m : Marker) : Option Nat := t.entries.lookup m

/-- What a position is in charge of. -/
def policies (t : Authority) (i : Nat) : List Marker :=
  (t.entries.filter fun e => e.2 == i).map Prod.fst

variable {t : Authority} {m n : Marker} {i : Nat}

@[simp] theorem holder?_empty : empty.holder? m = none := rfl

/-- A policy has one entry at most, so looking it up finds each of its entries. -/
theorem mem_entries_iff : (m, i) ∈ t.entries ↔ t.holder? m = some i :=
  (lookup_eq_some_iff_mem t.nodup).symm

theorem holder?_insert (t : Authority) (m n : Marker) (i : Nat) :
    (t.insert m i).holder? n = if n = m then some i else t.holder? n := by
  by_cases h : n = m
  · simp [holder?, insert, h]
  · -- the entries of another policy do not matter
    rw [if_neg h, holder?, insert, lookup_cons_of_ne h]
    exact lookup_filter_of_kept fun _ => by simpa using h

theorem holder?_grant (t : Authority) (i : Nat) (l : Listing) (m : Marker) :
    (t.grant i l).holder? m = if l.carries m then some i else t.holder? m := by
  rw [grant, Listing.carries]
  induction l.policies generalizing t with
  | nil => simp
  | cons n ns ih =>
    rw [List.foldl_cons, ih, holder?_insert]
    by_cases hm : m = n <;> simp [hm]

/-- The two readings of the table agree. -/
theorem mem_policies : m ∈ t.policies i ↔ t.holder? m = some i := by
  rw [← mem_entries_iff]
  simp [policies]

end Authority

/-- Who is in charge of what among listings. -/
def Listing.authority (ls : List Listing) : Authority := Authority.empty.extend 0 ls

end RequestPipeline
