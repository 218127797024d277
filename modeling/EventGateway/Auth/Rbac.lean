import EventGateway.Lib.FiniteMap
import Mathlib.Data.Set.Insert

/-! Role-based access control. Roles and permissions are strings, since the roles in a token are; an
authorizer has a list of permissions for each role. What its methods compute is compared with sets of
permissions. -/

namespace EventGateway.Auth

abbrev Role := String

abbrev Permission := String

abbrev PermissionMap := Finmap (fun _ : Role => List Permission)

structure Claims where
  roles : List Role

structure MapOrder where
  keys : Finset Permission → List Permission
  nodup : ∀ set, (keys set).Nodup
  complete : ∀ set permission, permission ∈ keys set ↔ permission ∈ set

namespace PermissionMap

def getRolePermissions (ra : PermissionMap) (role : Role) : List Permission :=
  match ra.lookup role with
  | none => []
  | some permissions => permissions

def hasPermission (ra : PermissionMap) (claims : Option Claims) (permission : Permission) : Bool :=
  match claims with
  | none => false
  | some claims => claims.roles.any (fun role =>
      match ra.lookup role with
      | none => false
      | some permissions => permissions.any (fun p => p == permission))

def hasAnyPermission (ra : PermissionMap) (claims : Option Claims) (permissions : List Permission) : Bool :=
  permissions.any (fun permission => ra.hasPermission claims permission)

def hasAllPermissions (ra : PermissionMap) (claims : Option Claims) (permissions : List Permission) : Bool :=
  permissions.all (fun permission => ra.hasPermission claims permission)

def uniquePermissions (seen : Finset Permission) : List Permission → List Permission
  | [] => []
  | p :: rest => if p ∈ seen then uniquePermissions seen rest else p :: uniquePermissions (insert p seen) rest

def addRolePermissions (ra : PermissionMap) (role : Role) (permissions : List Permission) : PermissionMap :=
  ra.insert role (uniquePermissions ∅ ((ra.lookup role).getD [] ++ permissions))

def removeRolePermissions (ra : PermissionMap) (role : Role) (permissions : List Permission) : PermissionMap :=
  ra.insert role (((ra.lookup role).getD []).filter (fun p => p ∉ permissions))

def permissionSet (ra : PermissionMap) (claims : Claims) : Finset Permission :=
  claims.roles.foldl (fun set role => (ra.getRolePermissions role).foldl (fun set p => insert p set) set) ∅

def getUserPermissions (ra : PermissionMap) (order : MapOrder) (claims : Option Claims) : List Permission :=
  match claims with
  | none => []
  | some claims => order.keys (ra.permissionSet claims)

end PermissionMap

def rolePermissions : PermissionMap :=
  (((Finmap.insert "viewer" ["view_metrics"] ∅).insert
    "subscriber" ["subscribe_event", "replay_event", "view_metrics"]).insert
    "publisher" ["ingest_event", "view_metrics"]).insert
    "admin" ["ingest_event", "subscribe_event", "replay_event", "manage_consumer", "manage_schema", "view_metrics",
      "manage_auth"]

inductive Update where
  | add (role : Role) (permissions : List Permission)
  | remove (role : Role) (permissions : List Permission)

def PermissionMap.update (ra : PermissionMap) : Update → PermissionMap
  | .add role permissions => ra.addRolePermissions role permissions
  | .remove role permissions => ra.removeRolePermissions role permissions

/-! ### Sets of permissions -/

abbrev RoleSets := Role → Set Permission

def RoleSets.update (sets : RoleSets) : Update → RoleSets
  | .add role permissions => Function.update sets role (sets role ∪ {p | p ∈ permissions})
  | .remove role permissions => Function.update sets role (sets role \ {p | p ∈ permissions})

def RoleSets.granted (sets : RoleSets) (claims : Option Claims) : Set Permission :=
  {p | ∃ bearer ∈ claims, ∃ role ∈ bearer.roles, p ∈ sets role}

namespace PermissionMap
variable (ra : PermissionMap) {role : Role}

def sets : RoleSets := fun role => {p | p ∈ ra.getRolePermissions role}

theorem getRolePermissions_eq (role : Role) : ra.getRolePermissions role = (ra.lookup role).getD [] := by
  unfold getRolePermissions
  cases ra.lookup role with
  | none => rfl
  | some permissions => rfl

theorem getRolePermissions_insert (permissions : List Permission) (role other : Role) :
    getRolePermissions (ra.insert role permissions) other =
      if other = role then permissions else ra.getRolePermissions other := by
  rw [getRolePermissions_eq, getRolePermissions_eq, Lib.FiniteMap.lookup_insert]
  split
  next => rfl
  next => rfl

section Lists
variable {seen : Finset Permission} {list : List Permission} {p : Permission}

theorem mem_uniquePermissions : p ∈ uniquePermissions seen list ↔ p ∈ list ∧ p ∉ seen := by
  induction list generalizing seen with
  | nil => simp [uniquePermissions]
  | cons first rest ih =>
    unfold uniquePermissions
    split
    next known =>
      rw [ih, List.mem_cons]
      constructor
      · exact fun ⟨later, new⟩ => ⟨.inr later, new⟩
      · rintro ⟨rfl | later, new⟩
        · exact absurd known new
        · exact ⟨later, new⟩
    next unknown =>
      rw [List.mem_cons, ih, List.mem_cons, Finset.mem_insert]
      constructor
      · rintro (rfl | ⟨later, new⟩)
        · exact ⟨.inl rfl, unknown⟩
        · exact ⟨.inr later, fun known => new (.inr known)⟩
      · rintro ⟨rfl | later, new⟩
        · exact .inl rfl
        · by_cases same : p = first
          · exact .inl same
          · exact .inr ⟨later, fun known => known.elim same new⟩

theorem nodup_uniquePermissions : (uniquePermissions seen list).Nodup := by
  induction list generalizing seen with
  | nil => exact List.nodup_nil
  | cons first rest ih =>
    unfold uniquePermissions
    split
    next => exact ih
    next =>
      apply List.nodup_cons.mpr
      refine ⟨fun again => ?_, ih⟩
      exact (mem_uniquePermissions.mp again).2 (Finset.mem_insert_self first seen)

end Lists

theorem sets_update (change : Update) : (ra.update change).sets = ra.sets.update change := by
  cases change with
  | add role permissions =>
    funext other
    ext p
    simp only [sets, update, addRolePermissions, getRolePermissions_insert, RoleSets.update, Function.update_apply]
    split
    next same =>
      simp [mem_uniquePermissions, getRolePermissions_eq]
    next => rfl
  | remove role permissions =>
    funext other
    ext p
    simp only [sets, update, removeRolePermissions, getRolePermissions_insert, RoleSets.update,
      Function.update_apply]
    split
    next same => simp [getRolePermissions_eq]
    next => rfl

theorem nodup_update (nodup : ∀ role, (ra.getRolePermissions role).Nodup) (change : Update) (role : Role) :
    ((ra.update change).getRolePermissions role).Nodup := by
  cases change with
  | add changed permissions =>
    rw [update, addRolePermissions, getRolePermissions_insert]
    split
    next => exact nodup_uniquePermissions
    next => exact nodup role
  | remove changed permissions =>
    rw [update, removeRolePermissions, getRolePermissions_insert]
    split
    next =>
      rw [← getRolePermissions_eq]
      exact (nodup changed).filter _
    next => exact nodup role

theorem hasPermission_iff (claims : Option Claims) (p : Permission) :
    ra.hasPermission claims p = true ↔ p ∈ ra.sets.granted claims := by
  cases claims with
  | none => simp [hasPermission, RoleSets.granted]
  | some claims =>
    simp only [hasPermission, List.any_eq_true, RoleSets.granted, Option.mem_def, Option.some.injEq,
      Set.mem_ofPred_eq, exists_eq_left', sets, getRolePermissions]
    apply exists_congr
    intro role
    apply and_congr_right
    intro _
    cases ra.lookup role with
    | none => simp
    | some permissions => simp

theorem mem_permissionSet (claims : Claims) (p : Permission) :
    p ∈ ra.permissionSet claims ↔ p ∈ ra.sets.granted (some claims) := by
  have inner (list : List Permission) (set : Finset Permission) :
      p ∈ list.foldl (fun set p => insert p set) set ↔ p ∈ set ∨ p ∈ list := by
    induction list generalizing set with
    | nil => simp
    | cons first rest ih =>
      rw [List.foldl_cons, ih, Finset.mem_insert, List.mem_cons]
      tauto
  have outer (roles : List Role) (set : Finset Permission) :
      p ∈ roles.foldl (fun set role => (ra.getRolePermissions role).foldl (fun set p => insert p set) set) set ↔
        p ∈ set ∨ ∃ role ∈ roles, p ∈ ra.getRolePermissions role := by
    induction roles generalizing set with
    | nil => simp
    | cons first rest ih =>
      rw [List.foldl_cons, ih, inner, List.exists_mem_cons_iff, or_assoc]
  simp [permissionSet, outer, RoleSets.granted, sets]

end PermissionMap

structure Answers (ra : PermissionMap) (sets : RoleSets) : Prop where
  has : ∀ claims p, ra.hasPermission claims p = true ↔ p ∈ sets.granted claims
  listed : ∀ order claims, (ra.getUserPermissions order claims).Nodup ∧
    ∀ p, p ∈ ra.getUserPermissions order claims ↔ p ∈ sets.granted claims
  any : ∀ claims permissions, ra.hasAnyPermission claims permissions = true ↔
    ({p | p ∈ permissions} ∩ sets.granted claims).Nonempty
  all : ∀ claims permissions, ra.hasAllPermissions claims permissions = true ↔
    {p | p ∈ permissions} ⊆ sets.granted claims

theorem answers_sets (ra : PermissionMap) : Answers ra ra.sets where
  has := ra.hasPermission_iff
  listed := by
    intro order claims
    cases claims with
    | none => simp [PermissionMap.getUserPermissions, RoleSets.granted]
    | some claims =>
      refine ⟨order.nodup _, fun p => ?_⟩
      rw [PermissionMap.getUserPermissions, order.complete, ra.mem_permissionSet]
  any := by
    intro claims permissions
    simp only [PermissionMap.hasAnyPermission, List.any_eq_true, ra.hasPermission_iff]
    rfl
  all := by
    intro claims permissions
    simp only [PermissionMap.hasAllPermissions, List.all_eq_true, ra.hasPermission_iff]
    rfl

section Updates
variable (initial : PermissionMap) (updates : List Update)

theorem sets_updates : (updates.foldl PermissionMap.update initial).sets =
    updates.foldl RoleSets.update initial.sets := by
  induction updates generalizing initial with
  | nil => rfl
  | cons change rest ih => rw [List.foldl_cons, List.foldl_cons, ih, initial.sets_update]

theorem nodup_updates (nodup : ∀ role, (initial.getRolePermissions role).Nodup) :
    ∀ role, ((updates.foldl PermissionMap.update initial).getRolePermissions role).Nodup := by
  induction updates generalizing initial with
  | nil => exact nodup
  | cons change rest ih => exact ih (initial.update change) (initial.nodup_update nodup change)

/-- After any sequence of updates the lists have no duplicates, the role sets are the initial ones with the
updates made in order, and every query is the one of these sets. -/
theorem authorizer_refines_roleSets (nodup : ∀ role, (initial.getRolePermissions role).Nodup) :
    (∀ role, ((updates.foldl PermissionMap.update initial).getRolePermissions role).Nodup) ∧
    (updates.foldl PermissionMap.update initial).sets = updates.foldl RoleSets.update initial.sets ∧
    Answers (updates.foldl PermissionMap.update initial) (updates.foldl RoleSets.update initial.sets) := by
  refine ⟨nodup_updates initial updates nodup, sets_updates initial updates, ?_⟩
  rw [← sets_updates]
  exact answers_sets _

end Updates

theorem rolePermissions_nodup (role : Role) : (rolePermissions.getRolePermissions role).Nodup := by
  simp only [rolePermissions, PermissionMap.getRolePermissions_insert]
  split
  next => decide
  next =>
    split
    next => decide
    next =>
      split
      next => decide
      next =>
        split
        next => decide
        next => exact List.nodup_nil

theorem authorizer_refines_roleSets_defaults :
    let updates : List Update := [.add "publisher" ["audit", "audit"], .remove "publisher" ["view_metrics"]]
    let ra := updates.foldl PermissionMap.update rolePermissions
    ra.getRolePermissions "publisher" = ["ingest_event", "audit"] ∧
      Answers ra (updates.foldl RoleSets.update rolePermissions.sets) :=
  ⟨by decide, (authorizer_refines_roleSets rolePermissions _ rolePermissions_nodup).2.2⟩

end EventGateway.Auth
