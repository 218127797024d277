import EventGateway.Domain.Event
import EventGateway.Lib.FiniteMap
import EventGateway.Lib.Outcome

/-! The two health endpoints. Both run the registered checks through `CheckAll`; the HTTP
handler compares the resulting status with the constant of its own package, the gRPC handler
reads it with a switch over other texts. -/

namespace EventGateway.Health
open Lib

def healthyStatus : String := "healthy"

def unhealthyStatus : String := "unhealthy"

structure Check (World : Type*) where
  name : String
  check : World → Option String

structure CheckStatus where
  name : String
  status : String
  error : String
  deriving DecidableEq

structure HealthStatus where
  status : String
  checks : List CheckStatus
  timestamp : Time
  deriving DecidableEq

abbrev HealthChecker (World : Type*) := Finmap (fun _ : String => Check World)

section Checker
variable {World : Type*}

def newHealthChecker : HealthChecker World := ∅

namespace HealthChecker

def registerCheck (hc : HealthChecker World) (check : Option (Check World)) : Except String (HealthChecker World) :=
  match check with
  | none => .error "check cannot be nil"
  | some check =>
    if check.name = "" then .error "check name cannot be empty"
    else if check.name ∈ hc then .error s!"check with name \"{check.name}\" already registered"
    else .ok (hc.insert check.name check)

def Visits (hc : HealthChecker World) (order : List String) : Prop :=
  order.Nodup ∧ ∀ name, name ∈ order ↔ name ∈ hc

/-- One turn of the loop of `CheckAll`, on the entries so far and the overall status. -/
def checkOne (world : World) (sofar : List CheckStatus × String) (check : Check World) : List CheckStatus × String :=
  match check.check world with
  | none => (sofar.1 ++ [⟨check.name, healthyStatus, ""⟩], sofar.2)
  | some err => (sofar.1 ++ [⟨check.name, unhealthyStatus, err⟩], unhealthyStatus)

def checkAll (hc : HealthChecker World) (order : List String) (world : World) (now : Time) : HealthStatus :=
  let (checks, status) := (order.filterMap hc.lookup).foldl (checkOne world) ([], healthyStatus)
  ⟨status, checks, now⟩

end HealthChecker

structure HTTPResponse where
  statusCode : Nat
  contentType : String
  body : HealthStatus
  deriving DecidableEq

def statusOK : Nat := 200

def statusServiceUnavailable : Nat := 503

def statusHTTPHandler (hc : HealthChecker World) (order : List String) (world : World) (now : Time) : HTTPResponse :=
  let healthStatus := hc.checkAll order world now
  let statusCode := if healthStatus.status ≠ healthyStatus then statusServiceUnavailable else statusOK
  ⟨statusCode, "application/json", healthStatus⟩

def healthHTTPHandler (hc : HealthChecker World) (order : List String) (world : World) (now : Time) : HTTPResponse :=
  statusHTTPHandler hc order world now

def readyHTTPHandler (hc : HealthChecker World) (order : List String) (world : World) (now : Time) : HTTPResponse :=
  statusHTTPHandler hc order world now

structure AdapterStatus where
  status : String
  message : String
  deriving DecidableEq

def getStatus (hc : HealthChecker World) (order : List String) (world : World) (now : Time) :
    Except String AdapterStatus :=
  let status := hc.checkAll order world now
  .ok ⟨status.status, s!"checks: {status.checks.length}"⟩

inductive ProtoStatus where
  | unspecified
  | healthy
  | degraded
  | unhealthy
  deriving DecidableEq

structure ProtoHealthStatus where
  status : ProtoStatus
  message : String
  components : StringMap

def statusEnum (status : String) : ProtoStatus :=
  if status = "HEALTHY" then .healthy
  else if status = "DEGRADED" then .degraded
  else if status = "UNHEALTHY" then .unhealthy
  else .unhealthy

def getHealth (answer : Except String AdapterStatus) : Except Status ProtoHealthStatus :=
  match answer with
  | .error _ => .error ⟨.internal, "failed to get health status"⟩
  | .ok status => .ok ⟨statusEnum status.status, status.message, ∅⟩

def gatewayHealth (hc : HealthChecker World) (order : List String) (world : World) (now : Time) :
    Except Status ProtoHealthStatus :=
  getHealth (getStatus hc order world now)

end Checker

section Verdict
variable {World : Type*} {hc : HealthChecker World} {order : List String} {world : World}

def AllPass (hc : HealthChecker World) (world : World) : Prop :=
  ∀ name check, hc.lookup name = some check → check.check world = none

/-- What the loop leaves: an entry for each check, and an unhealthy status once a check has failed. -/
theorem checkOne_foldl (checks : List (Check World)) (sofar : List CheckStatus × String) :
    (checks.foldl (HealthChecker.checkOne world) sofar).2 =
      if ∀ check ∈ checks, check.check world = none then sofar.2 else unhealthyStatus := by
  induction checks generalizing sofar with
  | nil => simp
  | cons check rest ih =>
    rw [List.foldl_cons, ih]
    cases outcome : check.check world with
    | none => simp [HealthChecker.checkOne, outcome]
    | some err => simp [HealthChecker.checkOne, outcome]

theorem allPass_iff_visited (visits : hc.Visits order) :
    AllPass hc world ↔ ∀ check ∈ order.filterMap hc.lookup, check.check world = none := by
  simp only [AllPass, List.mem_filterMap]
  constructor
  · rintro pass check ⟨name, -, found⟩
    exact pass name check found
  · intro pass name check found
    exact pass check ⟨name, (visits.2 name).mpr (Finmap.mem_of_lookup_eq_some found), found⟩

theorem checkAll_status (visits : hc.Visits order) (now : Time) [Decidable (AllPass hc world)] :
    (hc.checkAll order world now).status = if AllPass hc world then healthyStatus else unhealthyStatus := by
  have left := @checkOne_foldl _ world (order.filterMap hc.lookup) ([], healthyStatus)
  simp only [HealthChecker.checkAll, left, allPass_iff_visited visits]

theorem statusEnum_checkAll (visits : hc.Visits order) (now : Time) :
    statusEnum (hc.checkAll order world now).status = .unhealthy := by
  classical
  rw [checkAll_status visits]
  split
  next => rfl
  next => rfl

theorem gatewayHealth_unhealthy (visits : hc.Visits order) (now : Time) :
    ∃ reply, gatewayHealth hc order world now = .ok reply ∧ reply.status = .unhealthy :=
  ⟨_, rfl, statusEnum_checkAll visits now⟩

theorem statusHTTPHandler_code (visits : hc.Visits order) (now : Time) [Decidable (AllPass hc world)] :
    (statusHTTPHandler hc order world now).statusCode =
      if AllPass hc world then statusOK else statusServiceUnavailable := by
  simp only [statusHTTPHandler, checkAll_status visits]
  split
  next => simp
  next => simp [healthyStatus, unhealthyStatus]

end Verdict

/-- Whatever the order of the loops over the checks: gRPC reports healthy exactly if every check returns nil, which
is exactly if HTTP answers 200, and otherwise they report unhealthy and answer 503. -/
def EndpointsAgree {World : Type*} (hc : HealthChecker World) (world : World) : Prop :=
  ∀ order order' now now', hc.Visits order → hc.Visits order' →
    ∃ reply, gatewayHealth hc order world now = .ok reply ∧
      (reply.status = .healthy ↔ AllPass hc world) ∧
      ((healthHTTPHandler hc order' world now').statusCode = statusOK ↔ AllPass hc world) ∧
      (¬AllPass hc world → reply.status = .unhealthy ∧
        (healthHTTPHandler hc order' world now').statusCode = statusServiceUnavailable)

theorem visits_keys {World : Type*} (hc : HealthChecker World) : ∃ order, hc.Visits order :=
  ⟨hc.keys.toList, hc.keys.nodup_toList, fun name => by rw [Finset.mem_toList, Finmap.mem_keys]⟩

theorem not_endpointsAgree {World : Type*} {hc : HealthChecker World} {world : World} {order : List String}
    (visits : hc.Visits order) (pass : AllPass hc world) : ¬EndpointsAgree hc world := by
  intro agree
  obtain ⟨reply, answered, healthy, -⟩ := agree order order 0 0 visits visits
  obtain ⟨reply', answered', unhealthy⟩ := gatewayHealth_unhealthy visits 0
  cases answered.symm.trans answered'
  rw [healthy.mpr pass] at unhealthy
  cases unhealthy

/-- The two endpoints agree exactly when some check fails: gRPC never reports healthy. -/
theorem endpointsAgree_iff_failing {World : Type*} (hc : HealthChecker World) (world : World) :
    EndpointsAgree hc world ↔ ∃ name check err, hc.lookup name = some check ∧ check.check world = some err := by
  classical
  have failing : (∃ name check err, hc.lookup name = some check ∧ check.check world = some err) ↔
      ¬AllPass hc world := by
    simp only [AllPass, not_forall, ← ne_eq, Option.ne_none_iff_exists', exists_prop, exists_and_left]
  rw [failing]
  constructor
  · intro agree pass
    obtain ⟨order, visits⟩ := visits_keys hc
    exact not_endpointsAgree visits pass agree
  · intro failed order order' now now' visits visits'
    obtain ⟨reply, answered, unhealthy⟩ := gatewayHealth_unhealthy visits now
    have code : (healthHTTPHandler hc order' world now').statusCode = statusServiceUnavailable := by
      rw [healthHTTPHandler, statusHTTPHandler_code visits', if_neg failed]
    refine ⟨reply, answered, iff_of_false ?_ failed, iff_of_false ?_ failed, fun _ => ⟨unhealthy, code⟩⟩
    · simp [unhealthy]
    · rw [code]
      decide

/-- The checks that `run` registers, none of which can fail. -/
def registerHealthChecks (hc : HealthChecker Unit) : Except String (HealthChecker Unit) := do
  let hc ← hc.registerCheck (some ⟨"kafka", fun _ => none⟩)
  hc.registerCheck (some ⟨"readiness", fun _ => none⟩)

def runChecks : HealthChecker Unit :=
  (newHealthChecker.insert "kafka" ⟨"kafka", fun _ => none⟩).insert "readiness" ⟨"readiness", fun _ => none⟩

theorem runChecks_visits : runChecks.Visits ["kafka", "readiness"] := by
  refine ⟨by decide, fun name => ?_⟩
  simp only [runChecks, newHealthChecker, Finmap.mem_insert, Finmap.notMem_empty, List.mem_cons, List.not_mem_nil,
    or_false]
  exact Or.comm

theorem runChecks_pass : AllPass runChecks () := by
  intro name check found
  simp only [runChecks, newHealthChecker, Lib.FiniteMap.lookup_insert, Finmap.lookup_empty] at found
  split at found
  next =>
    cases found
    rfl
  next =>
    split at found
    next =>
      cases found
      rfl
    next => cases found

/-- The gateway as `run` starts it: all checks pass, HTTP answers 200 and gRPC reports unhealthy. -/
theorem grpc_unhealthy_http_ok : registerHealthChecks newHealthChecker = .ok runChecks ∧ AllPass runChecks () ∧
    (healthHTTPHandler runChecks ["kafka", "readiness"] () 0).statusCode = statusOK ∧
    (gatewayHealth runChecks ["kafka", "readiness"] () 0).map ProtoHealthStatus.status = .ok .unhealthy ∧
    ¬EndpointsAgree runChecks () :=
  ⟨rfl, runChecks_pass, rfl, rfl, not_endpointsAgree runChecks_visits runChecks_pass⟩

end EventGateway.Health
