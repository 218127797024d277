import EventGateway.Auth.Rbac
import EventGateway.Lib.Machine

/-! Authorizers and the maps they point to. `NewRBACAuthorizer` copies the reference in the package
variable `RolePermissions` and not the map behind it, so that all authorizers update one map. -/

namespace EventGateway.Auth
open Lib

abbrev Ref := Nat

structure Process where
  maps : Ref → PermissionMap
  rolePermissions : Ref

structure RBACAuthorizer where
  rolePermissions : Ref

def Process.initial : Process := ⟨Function.update (fun _ => ∅) 0 Auth.rolePermissions, 0⟩

def newRBACAuthorizer (process : Process) : RBACAuthorizer := ⟨process.rolePermissions⟩

namespace RBACAuthorizer

def map (ra : RBACAuthorizer) (process : Process) : PermissionMap := process.maps ra.rolePermissions

def hasPermission (ra : RBACAuthorizer) (process : Process) (claims : Option Claims) (p : Permission) : Bool :=
  (ra.map process).hasPermission claims p

/-- `AddRolePermissions` or `RemoveRolePermissions`: the entry of the role is replaced in the map itself. -/
def update (ra : RBACAuthorizer) (process : Process) (change : Update) : Process :=
  { process with maps := Function.update process.maps ra.rolePermissions ((ra.map process).update change) }

end RBACAuthorizer

structure State where
  process : Process
  authorizers : List RBACAuthorizer

inductive Action where
  | create
  | update (index : Nat) (change : Update)

def step (state : State) : Action → Option State
  | .create => some { state with authorizers := state.authorizers ++ [newRBACAuthorizer state.process] }
  | .update index change =>
    match state.authorizers[index]? with
    | some ra => some { state with process := ra.update state.process change }
    | none => none

def machine : Machine State Action where
  init := (· = ⟨.initial, []⟩)
  step := step

/-- Calls on `a` do not change what `b` answers, and an authorizer that is made after them starts with the
default permissions. -/
structure Isolated (process : Process) (a b : RBACAuthorizer) (updates : List Update) : Prop where
  unchanged : ∀ claims p,
    b.hasPermission (updates.foldl a.update process) claims p = b.hasPermission process claims p
  defaults : ((newRBACAuthorizer (updates.foldl a.update process)).map (updates.foldl a.update process)).sets =
    Auth.rolePermissions.sets

section Sharing
variable {state after : State} {a b : RBACAuthorizer} {process : Process}

theorem shared_step {action : Action}
    (shared : ∀ ra ∈ state.authorizers, ra.rolePermissions = state.process.rolePermissions)
    (stepped : step state action = some after) :
    ∀ ra ∈ after.authorizers, ra.rolePermissions = after.process.rolePermissions := by
  cases action with
  | create =>
    cases stepped
    intro ra member
    rcases List.mem_append.mp member with old | new
    · exact shared ra old
    · cases List.mem_singleton.mp new
      rfl
  | update index change =>
    simp only [step] at stepped
    split at stepped
    next =>
      cases stepped
      exact shared
    next => cases stepped

theorem shared_of_reachable (reached : machine.Reachable state) :
    ∀ ra ∈ state.authorizers, ra.rolePermissions = state.process.rolePermissions := by
  apply reached.invariant (fun state => ∀ ra ∈ state.authorizers, ra.rolePermissions = state.process.rolePermissions)
  · rintro _ rfl ra member
    cases member
  · exact fun _ _ _ _ shared _ stepped => shared_step shared stepped

theorem updates_shared (process : Process) (a : RBACAuthorizer) (updates : List Update) :
    (updates.foldl a.update process).rolePermissions = process.rolePermissions ∧
      a.map (updates.foldl a.update process) = updates.foldl PermissionMap.update (a.map process) := by
  induction updates generalizing process with
  | nil => exact ⟨rfl, rfl⟩
  | cons change rest ih =>
    obtain ⟨same, map⟩ := ih (a.update process change)
    have updated : a.map (a.update process change) = (a.map process).update change := Function.update_self ..
    rw [updated] at map
    exact ⟨same, map⟩

theorem sets_eq_of_answers {one other : PermissionMap}
    (same : ∀ claims p, one.hasPermission claims p = other.hasPermission claims p) : one.sets = other.sets := by
  funext role
  ext p
  have answers := Bool.eq_iff_iff.mp (same (some ⟨[role]⟩) p)
  rw [one.hasPermission_iff, other.hasPermission_iff] at answers
  simpa [RoleSets.granted] using answers

theorem answers_eq_of_sets {one other : PermissionMap} (same : one.sets = other.sets) (claims : Option Claims)
    (p : Permission) : one.hasPermission claims p = other.hasPermission claims p := by
  rw [Bool.eq_iff_iff, one.hasPermission_iff, other.hasPermission_iff, same]

end Sharing

/-- Calls on one authorizer stay with it exactly if they have no effect on any role in the end, and the map that
all authorizers share still has the default permissions. -/
theorem isolated_iff {state : State} (reached : machine.Reachable state) {a b : RBACAuthorizer}
    (first : a ∈ state.authorizers) (second : b ∈ state.authorizers) (updates : List Update) :
    Isolated state.process a b updates ↔
      updates.foldl RoleSets.update (a.map state.process).sets = (a.map state.process).sets ∧
        (a.map state.process).sets = rolePermissions.sets := by
  have shared := shared_of_reachable reached
  obtain ⟨package, map⟩ := updates_shared state.process a updates
  have twins : b = a := by
    cases a
    cases b
    exact congrArg RBACAuthorizer.mk ((shared _ second).trans (shared _ first).symm)
  subst twins
  have later : newRBACAuthorizer (updates.foldl b.update state.process) = b := by
    cases b
    exact congrArg RBACAuthorizer.mk (package.trans (shared _ first).symm)
  rw [← sets_updates]
  constructor
  · intro isolated
    have unchanged : (updates.foldl PermissionMap.update (b.map state.process)).sets = (b.map state.process).sets := by
      rw [← map]
      exact sets_eq_of_answers isolated.unchanged
    have defaults := isolated.defaults
    rw [later, map] at defaults
    exact ⟨unchanged, unchanged.symm.trans defaults⟩
  · intro ⟨unchanged, defaults⟩
    constructor
    · intro claims p
      unfold RBACAuthorizer.hasPermission
      rw [map]
      exact answers_eq_of_sets unchanged claims p
    · rw [later, map]
      exact unchanged.trans defaults

def twoAuthorizers : State := ⟨.initial, [⟨0⟩, ⟨0⟩]⟩

theorem twoAuthorizers_reachable : machine.Reachable twoAuthorizers := by
  have first : machine.step ⟨.initial, []⟩ .create = some ⟨.initial, [⟨0⟩]⟩ := rfl
  have second : machine.step ⟨.initial, [⟨0⟩]⟩ .create = some twoAuthorizers := rfl
  exact .next (.next (.start rfl) trivial first) trivial second

theorem isolated_known : Isolated .initial ⟨0⟩ ⟨0⟩ [.add "viewer" ["view_metrics"]] := by
  apply (isolated_iff twoAuthorizers_reachable List.mem_cons_self List.mem_cons_self _).mpr
  have map : RBACAuthorizer.map ⟨0⟩ twoAuthorizers.process = rolePermissions := rfl
  rw [map]
  refine ⟨Function.update_eq_self_iff.mpr (Set.union_eq_left.mpr ?_), rfl⟩
  intro p member
  cases List.mem_singleton.mp member
  change "view_metrics" ∈ rolePermissions.getRolePermissions "viewer"
  decide

/-- A permission that one authorizer gives to viewers is theirs at the other one too, and at every later one. -/
theorem permission_escapes :
    let a : RBACAuthorizer := newRBACAuthorizer .initial
    let b : RBACAuthorizer := newRBACAuthorizer .initial
    let after := a.update .initial (.add "viewer" ["ingest_event"])
    let viewer : Option Claims := some ⟨["viewer"]⟩
    b.hasPermission .initial viewer "ingest_event" = false ∧
      b.hasPermission after viewer "ingest_event" = true ∧
      ((newRBACAuthorizer after).map after).getRolePermissions "viewer" = ["view_metrics", "ingest_event"] ∧
      rolePermissions.getRolePermissions "viewer" = ["view_metrics"] := by
  decide

end EventGateway.Auth
