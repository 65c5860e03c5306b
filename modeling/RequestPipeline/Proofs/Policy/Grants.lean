import Mathlib.Data.List.Induction
import Mathlib.Data.List.Nodup
import RequestPipeline.Policy.Access
import RequestPipeline.Text.Entries

/-!
# Access by grants

A table of roles is put together by one grant after the other (`RoleTable.build`). What it decides
can be told from the grants: a caller with roles may have what the last grant of one of the roles
covers (`permits_build`), and an anonymous caller what some grant opens to everybody
(`isOpen_build`). The two kinds of callers have nothing in common, so more roles give more access to
those who have a role already, but an action that is open to anonymous callers may be closed to a
caller with roles (`access_grows_with_roles`).

A grant takes the place of the former one of its role. So a further grant takes access away exactly
if it replaces the only one that gave it, and the order of grants matters only where a role is
granted actions twice (`grants_keep_access`).
-/

set_option autoImplicit false

namespace RequestPipeline

open Text

/-! ## Grants -/

/-- What can be granted while a table is put together. -/
inductive Grant where
  /-- A role may have these actions and no others. -/
  | role (name : String) (actions : List String)
  /-- Anonymous callers may have more actions. -/
  | anonymousActions (actions : List String)
  /-- Anonymous callers may have every action. -/
  | anonymous
  deriving DecidableEq

namespace Grant

/-- The role of a grant with the actions that it may have. -/
def entry? : Grant → Option (String × List String)
  | role name actions => some (name, actions)
  | _ => none

/-- Whether a grant opens an action to anonymous callers. -/
def opens (action : String) : Grant → Bool
  | role .. => false
  | anonymousActions actions => actions.contains action
  | anonymous => true

/-- Whether an action is among some, or all of them are meant. -/
def covers (actions : List String) (action : String) : Bool :=
  actions.contains "*" || actions.contains action

/-- The roles that grants name, each as often as it is named. -/
def roles (gs : List Grant) : List String := (gs.filterMap entry?).map Prod.fst

/-- The actions of a role behind grants: the last grant that names the role counts. -/
def latest? (gs : List Grant) (name : String) : Option (List String) :=
  (gs.filterMap entry?).reverse.lookup name

/-- Whether a role may have an action behind grants. -/
def admits (gs : List Grant) (action name : String) : Bool :=
  (latest? gs name).any fun actions => covers actions action

section Latest

variable {gs more : List Grant} {name : String}

/-- Further grants decide about a role if they name it. -/
theorem latest?_append (gs more : List Grant) (name : String) :
    latest? (gs ++ more) name = (latest? more name).or (latest? gs name) := by
  simp [latest?, List.lookup_append]

theorem latest?_eq_none_iff : latest? gs name = none ↔ name ∉ roles gs := by
  rw [latest?, lookup_eq_none_iff_not_mem, List.map_reverse, List.mem_reverse, roles]

theorem mem_roles_of_admits {action : String} (h : admits gs action name = true) :
    name ∈ roles gs := by
  by_contra hnone
  simp [admits, latest?_eq_none_iff.mpr hnone] at h

/-- If no role is named twice, the order of grants does not matter to a role. -/
theorem latest?_of_perm {gs' : List Grant} (h : (roles gs).Nodup) (hp : gs.Perm gs')
    (name : String) : latest? gs name = latest? gs' name := by
  have hkeys : ((gs.filterMap entry?).reverse.map Prod.fst).Nodup := by
    rw [List.map_reverse]
    exact List.nodup_reverse.mpr h
  refine lookup_of_perm hkeys ?_
  exact (List.reverse_perm _).trans ((hp.filterMap _).trans (List.reverse_perm _).symm)

/-- Further grants leave a role alone that they do not name. -/
theorem admits_append_of_not_mem (h : name ∉ roles more) (action : String) :
    admits (gs ++ more) action name = admits gs action name := by
  rw [admits, latest?_append, latest?_eq_none_iff.mpr h]
  rfl

/-- A further grant to a role leaves nothing of the former ones. -/
theorem admits_concat_role (gs : List Grant) (name : String) (actions : List String)
    (action : String) :
    admits (gs ++ [role name actions]) action name = covers actions action := by
  simp [admits, latest?, entry?]

/-- Where a further grant closes an action to a role, it names the role and covers the action no
more. -/
theorem eq_role_of_closed {g : Grant} {action : String} (hbefore : admits gs action name = true)
    (hbehind : admits (gs ++ [g]) action name = false) :
    ∃ actions, g = .role name actions ∧ covers actions action = false := by
  by_cases h : name ∈ roles [g]
  · obtain ⟨granted, actions, rfl, rfl⟩ : ∃ granted actions, g = role granted actions ∧
        granted = name := by
      cases g <;> simp_all [roles, entry?]
    rw [admits_concat_role] at hbehind
    exact ⟨actions, rfl, hbehind⟩
  · rw [admits_append_of_not_mem h, hbefore] at hbehind
    exact absurd hbehind (by decide)

end Latest

end Grant

/-! ## Tables -/

namespace RoleTable

/-- The table behind one more grant. -/
def grant (t : RoleTable) : Grant → RoleTable
  | .role name actions => t.allowRole name actions
  | .anonymousActions actions => t.allowAnonymousActions actions
  | .anonymous => t.allowAnonymous

/-- The table that grants put together. -/
def build (gs : List Grant) : RoleTable := gs.foldl grant {}

/-- Whether an action is open to anonymous callers. -/
def isOpen (t : RoleTable) (action : String) : Bool :=
  t.anonymous || t.anonymousActions.contains action

theorem build_concat (gs : List Grant) (g : Grant) : build (gs ++ [g]) = (build gs).grant g := by
  simp [build]

/-- Anonymous callers are allowed what is open, and nothing else. -/
theorem decide_of_no_roles {t : RoleTable} {c : Call} (h : c.roles = []) :
    t.decide c = .allow ↔ t.isOpen c.action.displayName = true := by
  rw [decide, if_pos (by simp [h]), isOpen]
  cases t.anonymous || t.anonymousActions.contains c.action.displayName <;> simp

/-- Callers with roles are allowed what one of the roles may have, and nothing else. -/
theorem decide_of_roles {t : RoleTable} {c : Call} (h : c.roles ≠ []) :
    t.decide c = .allow ↔ ∃ role ∈ c.roles, t.permits c.action.displayName role = true := by
  rw [decide, if_neg (by simpa using h), ← List.any_eq_true]
  cases c.roles.any (t.permits c.action.displayName) <;> simp

/-- Only a grant to a role changes what the role may have, and it leaves nothing of what the role
might have before. -/
theorem permits_grant (t : RoleTable) (g : Grant) (action name : String) :
    (t.grant g).permits action name =
      match (Grant.latest? [g] name) with
      | some actions => Grant.covers actions action
      | none => t.permits action name := by
  cases g with
  | anonymousActions actions => rfl
  | anonymous => rfl
  | role granted actions =>
    by_cases h : name = granted
    · subst h
      simp [grant, allowRole, permits, Grant.latest?, Grant.entry?, Grant.covers,
        TextSet.contains_ofList]
    · have hkept : (t.allowRole granted actions).grants.lookup name = t.grants.lookup name := by
        rw [allowRole, lookup_cons_of_ne h]
        exact lookup_filter_of_kept fun _ => by simpa using h
      have hsilent : Grant.latest? [.role granted actions] name = none :=
        Grant.latest?_eq_none_iff.mpr (by simpa [Grant.roles, Grant.entry?] using h)
      rw [hsilent, grant, permits, hkept, permits]

/-- A grant to anonymous callers adds to what is open. -/
theorem isOpen_grant (t : RoleTable) (g : Grant) (action : String) :
    (t.grant g).isOpen action = (g.opens action || t.isOpen action) := by
  cases g with
  | role name actions => rfl
  | anonymous => rfl
  | anonymousActions actions =>
    simp only [grant, allowAnonymousActions, isOpen, Grant.opens, TextSet.contains_insertAll]
    exact Bool.or_left_comm ..

/-- A role may have what the last grant to it covers. -/
theorem permits_build (gs : List Grant) (action name : String) :
    (build gs).permits action name = Grant.admits gs action name := by
  -- the last grant decides, unless it does not name the role
  induction gs using List.reverseRecOn with
  | nil => rfl
  | append_singleton gs g ih =>
    rw [build_concat, permits_grant, ih, Grant.admits, Grant.admits, Grant.latest?_append]
    cases Grant.latest? [g] name <;> rfl

/-- Everything is open that some grant opens. -/
theorem isOpen_build (gs : List Grant) (action : String) :
    (build gs).isOpen action = gs.any (Grant.opens action) := by
  induction gs using List.reverseRecOn with
  | nil => rfl
  | append_singleton gs g ih =>
    rw [build_concat, isOpen_grant, ih, List.any_append, List.any_cons, List.any_nil,
      Bool.or_false, Bool.or_comm]

/-- A decision depends on what is open and on what roles may have, and on nothing else of a table.
-/
theorem decide_congr {t t' : RoleTable} {c : Call}
    (hopen : t.isOpen c.action.displayName = t'.isOpen c.action.displayName)
    (hroles : ∀ role, t.permits c.action.displayName role = t'.permits c.action.displayName role) :
    t.decide c = t'.decide c := by
  simp only [isOpen] at hopen
  simp only [decide, hopen, funext hroles]

end RoleTable

/-! ## Access -/

section Access

variable {gs : List Grant} {c : Call}

theorem decide_build_of_no_roles (h : c.roles = []) :
    (Access.roles (.build gs)).decide c = .allow ↔
      ∃ g ∈ gs, g.opens c.action.displayName = true := by
  rw [Access.decide, RoleTable.decide_of_no_roles h, RoleTable.isOpen_build, List.any_eq_true]

theorem decide_build_of_roles (h : c.roles ≠ []) :
    (Access.roles (.build gs)).decide c = .allow ↔
      ∃ role ∈ c.roles, Grant.admits gs c.action.displayName role = true := by
  simp only [Access.decide, RoleTable.decide_of_roles h, RoleTable.permits_build]

/-- Grants to roles that were not named before take nothing away. -/
theorem allowed_append {more : List Grant} (hnew : (Grant.roles gs).Disjoint (Grant.roles more))
    (hallow : (Access.roles (.build gs)).decide c = .allow) :
    (Access.roles (.build (gs ++ more))).decide c = .allow := by
  by_cases hroles : c.roles = []
  · obtain ⟨g, hg, hopens⟩ := (decide_build_of_no_roles hroles).mp hallow
    exact (decide_build_of_no_roles hroles).mpr ⟨g, List.mem_append_left more hg, hopens⟩
  · obtain ⟨role, hrole, hadmits⟩ := (decide_build_of_roles hroles).mp hallow
    have hsilent : role ∉ Grant.roles more := hnew (Grant.mem_roles_of_admits hadmits)
    rw [← Grant.admits_append_of_not_mem hsilent] at hadmits
    exact (decide_build_of_roles hroles).mpr ⟨role, hrole, hadmits⟩

/-- A further grant refuses what was allowed exactly if it replaces all that allowed it. -/
theorem refused_concat_iff {g : Grant} (hallow : (Access.roles (.build gs)).decide c = .allow) :
    (Access.roles (.build (gs ++ [g]))).decide c ≠ .allow ↔
      ∃ role actions, g = .role role actions ∧ c.roles ≠ [] ∧
        Grant.covers actions c.action.displayName = false ∧
        ∀ r ∈ c.roles, Grant.admits gs c.action.displayName r = true → r = role := by
  constructor
  · intro hrefused
    -- an anonymous caller loses nothing
    have hroles : c.roles ≠ [] := by
      intro hroles
      obtain ⟨x, hx, hopens⟩ := (decide_build_of_no_roles hroles).mp hallow
      exact hrefused
        ((decide_build_of_no_roles hroles).mpr ⟨x, List.mem_append_left _ hx, hopens⟩)
    have hclosed : ∀ r ∈ c.roles,
        Grant.admits (gs ++ [g]) c.action.displayName r = false := by
      intro r hr
      rw [← Bool.not_eq_true]
      exact fun h => hrefused ((decide_build_of_roles hroles).mpr ⟨r, hr, h⟩)
    obtain ⟨role, hrole, hadmits⟩ := (decide_build_of_roles hroles).mp hallow
    obtain ⟨actions, rfl, hcovers⟩ := Grant.eq_role_of_closed hadmits (hclosed role hrole)
    refine ⟨role, actions, rfl, hroles, hcovers, fun r hr hr' => ?_⟩
    obtain ⟨_, heq, -⟩ := Grant.eq_role_of_closed hr' (hclosed r hr)
    exact (Grant.role.inj heq).1.symm
  · rintro ⟨role, actions, rfl, hroles, hcovers, honly⟩ hkept
    obtain ⟨r, hr, hadmits⟩ := (decide_build_of_roles hroles).mp hkept
    by_cases h : r = role
    · subst h
      rw [Grant.admits_concat_role, hcovers] at hadmits
      exact absurd hadmits (by decide)
    · have hsilent : r ∉ Grant.roles [.role role actions] := by
        simpa [Grant.roles, Grant.entry?] using h
      rw [Grant.admits_append_of_not_mem hsilent] at hadmits
      exact h (honly r hr hadmits)

/-- A call of an action by a caller with roles. -/
def Call.byRoles (action : Action) (roles : List String) : Call :=
  { Call.ofAction action with roles }

/-- Grants in another order decide alike if the roles may have the same behind both. -/
theorem decide_eq_iff_of_perm {gs' : List Grant} (hp : gs.Perm gs') :
    (∀ c, (Access.roles (.build gs)).decide c = (Access.roles (.build gs')).decide c) ↔
      ∀ (action : Action) (role : String), Grant.admits gs action.displayName role =
        Grant.admits gs' action.displayName role := by
  constructor
  · intro h action role
    -- a caller with no other role tells what the role may have
    have hone (gs : List Grant) :
        (Access.roles (.build gs)).decide (.byRoles action [role]) = .allow ↔
          Grant.admits gs action.displayName role = true := by
      rw [decide_build_of_roles (by simp [Call.byRoles])]
      simp [Call.byRoles, Call.ofAction]
    rw [Bool.eq_iff_iff, ← hone, ← hone, h]
  · intro h c
    apply RoleTable.decide_congr
    · rw [RoleTable.isOpen_build, RoleTable.isOpen_build]
      exact hp.any_eq
    · intro role
      rw [RoleTable.permits_build, RoleTable.permits_build, h]

end Access

/-- Who has a role and gets more of them keeps what they were allowed, and so does who stays
anonymous. What an anonymous caller is allowed is no matter of roles, and what a caller with roles
is allowed is a matter of roles alone: an action that is open to anonymous callers is allowed to a
caller with roles exactly if the last grant of one of the roles covers it. -/
theorem access_grows_with_roles (gs : List Grant) {c d : Call}
    (haction : c.action.displayName = d.action.displayName) (hroles : c.roles ⊆ d.roles) :
    let access := Access.roles (.build gs)
    (c.roles ≠ [] ∨ d.roles = [] → access.decide c = .allow → access.decide d = .allow) ∧
      (c.roles = [] → (access.decide c = .allow ↔
        ∃ g ∈ gs, g.opens d.action.displayName = true)) ∧
      (d.roles ≠ [] → (access.decide d = .allow ↔
        ∃ role ∈ d.roles, Grant.admits gs d.action.displayName role = true)) := by
  intro access
  refine ⟨?_, ?_, decide_build_of_roles⟩
  · rintro (hc | hd) hallow
    · obtain ⟨role, hrole, hadmits⟩ := (decide_build_of_roles hc).mp hallow
      have hd : d.roles ≠ [] := List.ne_nil_of_mem (hroles hrole)
      rw [haction] at hadmits
      exact (decide_build_of_roles hd).mpr ⟨role, hroles hrole, hadmits⟩
    · have hc : c.roles = [] := List.subset_nil.mp (hd ▸ hroles)
      have hopen := (decide_build_of_no_roles hc).mp hallow
      rw [haction] at hopen
      exact (decide_build_of_no_roles hd).mpr hopen
  · intro hc
    rw [← haction]
    exact decide_build_of_no_roles hc

/-- A reader who becomes an editor as well may still read, and may list nothing, though everybody
may who is anonymous. -/
theorem access_grows_for_reader :
    let gs : List Grant := [.role "reader" ["Users.Get"], .anonymousActions ["Users.List"]]
    let get : Action := ⟨"Users", "Get", .result⟩
    let list : Action := ⟨"Users", "List", .result⟩
    let access := Access.roles (.build gs)
    access.decide (.byRoles get ["reader"]) = .allow ∧
      access.decide (.byRoles get ["editor", "reader"]) = .allow ∧
      access.decide (.byRoles list []) = .allow ∧
      access.decide (.byRoles list ["reader"]) ≠ .allow := by
  intro gs get list access
  have hget : access.decide (.byRoles get ["reader"]) = .allow := by decide +kernel
  obtain ⟨hmore, -, -⟩ := access_grows_with_roles gs (c := .byRoles get ["reader"])
    (d := .byRoles get ["editor", "reader"]) rfl (by decide)
  obtain ⟨-, hopen, hclosed⟩ := access_grows_with_roles gs (c := .byRoles list [])
    (d := .byRoles list ["reader"]) rfl (by decide)
  refine ⟨hget, hmore (.inl (by decide)) hget, (hopen rfl).mpr (by decide +kernel), ?_⟩
  intro hallow
  exact absurd ((hclosed (by decide)).mp hallow) (by decide +kernel)

/-- Not everything that is open to anonymous callers is open to callers with roles. -/
theorem roles_lose_open_action :
    ¬ ∀ (gs : List Grant) (c d : Call), c.action.displayName = d.action.displayName →
      c.roles ⊆ d.roles → (Access.roles (.build gs)).decide c = .allow →
        (Access.roles (.build gs)).decide d = .allow := by
  intro h
  let list : Action := ⟨"Users", "List", .result⟩
  have hallow := h [.anonymousActions ["Users.List"]] (.byRoles list []) (.byRoles list ["reader"])
    rfl (by decide) (by decide +kernel)
  exact absurd hallow (by decide +kernel)

/-- A further grant takes an action away from a caller exactly if it replaces the actions of the
one role of the caller that might have it by others that do not cover it. So grants to roles that
were not named before take nothing away. The order of grants leaves no trace but in what the roles
may have, and if no role is named twice, it leaves none at all. -/
theorem grants_keep_access (gs : List Grant) :
    let access (gs : List Grant) := Access.roles (.build gs)
    (∀ (g : Grant) (c : Call), (access gs).decide c = .allow →
      ((access (gs ++ [g])).decide c ≠ .allow ↔
        ∃ role actions, g = .role role actions ∧ c.roles ≠ [] ∧
          Grant.covers actions c.action.displayName = false ∧
          ∀ r ∈ c.roles, Grant.admits gs c.action.displayName r = true → r = role)) ∧
      (∀ more, (Grant.roles gs).Disjoint (Grant.roles more) → ∀ c,
        (access gs).decide c = .allow → (access (gs ++ more)).decide c = .allow) ∧
      (∀ gs', gs.Perm gs' →
        ((∀ c, (access gs).decide c = (access gs').decide c) ↔
          ∀ (action : Action) (role : String), Grant.admits gs action.displayName role =
            Grant.admits gs' action.displayName role) ∧
        ((Grant.roles gs).Nodup → ∀ c, (access gs).decide c = (access gs').decide c)) := by
  intro access
  refine ⟨?_, ?_, ?_⟩
  · intro g c hallow
    exact refused_concat_iff hallow
  · intro more hnew c hallow
    exact allowed_append hnew hallow
  · intro gs' hp
    refine ⟨decide_eq_iff_of_perm hp, fun hnodup => ?_⟩
    rw [decide_eq_iff_of_perm hp]
    intro action role
    rw [Grant.admits, Grant.admits, Grant.latest?_of_perm hnodup hp]

/-- Readers may get users. That editors may do everything takes nothing from them, and it might as
well be said first; that readers may list users takes away what they had. -/
theorem grants_keep_readers :
    let reader : Grant := .role "reader" ["Users.Get"]
    let editor : Grant := .role "editor" ["*"]
    let listing : Grant := .role "reader" ["Users.List"]
    let call := Call.byRoles ⟨"Users", "Get", .result⟩ ["reader"]
    let access (gs : List Grant) := Access.roles (.build gs)
    (access [reader]).decide call = .allow ∧
      (access [reader, editor]).decide call = .allow ∧
      (access [editor, reader]).decide call = .allow ∧
      (access [reader, listing]).decide call ≠ .allow := by
  intro reader editor listing call access
  have hread : (access [reader]).decide call = .allow := by decide +kernel
  obtain ⟨hstep, hmore, -⟩ := grants_keep_access [reader]
  obtain ⟨-, -, horder⟩ := grants_keep_access [reader, editor]
  have hboth : (access [reader, editor]).decide call = .allow :=
    hmore [editor] (by simp [reader, editor, Grant.roles, Grant.entry?]) call hread
  have hsame := (horder [editor, reader] (List.Perm.swap ..)).2 (by decide) call
  refine ⟨hread, hboth, hsame ▸ hboth, (hstep listing call hread).mpr ?_⟩
  exact ⟨"reader", ["Users.List"], rfl, by decide, by decide +kernel, by decide +kernel⟩

/-- A further grant may take access away, and the order of grants matters. -/
theorem grants_replace_access :
    (¬ ∀ (gs : List Grant) (g : Grant) (c : Call),
      (Access.roles (.build gs)).decide c = .allow →
        (Access.roles (.build (gs ++ [g]))).decide c = .allow) ∧
      ¬ ∀ (gs gs' : List Grant) (c : Call), gs.Perm gs' →
        (Access.roles (.build gs)).decide c = (Access.roles (.build gs')).decide c := by
  let get : Grant := .role "reader" ["Users.Get"]
  let list : Grant := .role "reader" ["Users.List"]
  let call := Call.byRoles ⟨"Users", "Get", .result⟩ ["reader"]
  refine ⟨fun h => ?_, fun h => ?_⟩
  · exact absurd (h [get] list call (by decide +kernel)) (by decide +kernel)
  · exact absurd (h [get, list] [list, get] call (List.Perm.swap ..)) (by decide +kernel)

end RequestPipeline
