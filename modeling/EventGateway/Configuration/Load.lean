import EventGateway.Configuration.Parse
import EventGateway.Lib.Outcome

/-! The configuration, read from environment variables. A number or a duration that does not parse counts as not
set, and a text is taken as it is, so that only `Validate` stands between the variables and the components. -/

namespace EventGateway.Configuration
open Lib.Outcome

abbrev Environment := String → Option String

namespace Environment
variable (fraction : List Char → Nat → Nat) (env : Environment) (key : String)

def int : Option Int64 := (env key).bind atoi

def duration : Option Duration := (env key).bind (parseDuration fraction)

def getStringEnv (defaultVal : String) : String :=
  match env key with
  | some val => val
  | none => defaultVal

def getIntEnv (defaultVal : Int64) : Int64 :=
  match env key with
  | some val =>
    match atoi val with
    | some intVal => intVal
    | none => defaultVal
  | none => defaultVal

def getBoolEnv (defaultVal : Bool) : Bool :=
  match env key with
  | some val => val = "true" || val = "1" || val = "yes"
  | none => defaultVal

def getDurationEnv (defaultVal : Duration) : Duration :=
  match env key with
  | some val =>
    match parseDuration fraction val with
    | some duration => duration
    | none => defaultVal
  | none => defaultVal

def getStringSliceEnv (defaultVal : List String) : List String :=
  match env key with
  | some val => (val.toList.splitOn ',').map trimSpace
  | none => defaultVal

theorem getIntEnv_eq (defaultVal : Int64) : env.getIntEnv key defaultVal = (env.int key).getD defaultVal := by
  unfold getIntEnv int
  cases env key with
  | none => rfl
  | some val => cases parsed : atoi val with
    | none => simp [parsed]
    | some n => simp [parsed]

theorem getDurationEnv_eq (defaultVal : Duration) :
    env.getDurationEnv fraction key defaultVal = (env.duration fraction key).getD defaultVal := by
  unfold getDurationEnv duration
  cases env key with
  | none => rfl
  | some val => cases parsed : parseDuration fraction val with
    | none => simp [parsed]
    | some n => simp [parsed]

end Environment

section Settings

structure ServerConfig where
  grpcPort : Int64
  httpPort : Int64

structure KafkaConfig where
  brokers : List String
  topic : String
  groupID : String
  numPartitions : Int32
  replicationFactor : Int16
  readTimeout : Duration
  writeTimeout : Duration
  dialTimeout : Duration
  commitInterval : Duration
  sessionTimeout : Duration

structure AuthConfig where
  enabled : Bool
  jwtSecret : String
  issuer : String
  tokenExpiry : Duration
  allowedIssuer : String

structure RateLimitConfig where
  enabled : Bool
  requestsPerSecond : Int64
  burstSize : Int64
  cleanupInterval : Duration
  staleThreshold : Duration

structure LogConfig where
  level : String
  format : String
  output : String

structure MetricsConfig where
  enabled : Bool
  port : Int64
  path : String

structure ReplayConfig where
  maxDuration : Duration
  batchSize : Int64
  rateLimit : Int64
  maxRetention : Duration

structure SchemaConfig where
  validationEnabled : Bool
  registryURL : String
  cacheTTL : Duration

structure Config where
  server : ServerConfig
  kafka : KafkaConfig
  auth : AuthConfig
  rateLimit : RateLimitConfig
  log : LogConfig
  metrics : MetricsConfig
  replay : ReplayConfig
  schema : SchemaConfig
  environment : String

end Settings

def second : Duration := 1000000000
def minute : Duration := 60 * second
def hour : Duration := 60 * minute

def defaultSecret : String := "default-secret-change-in-production"

open Environment in
def load (fraction : List Char → Nat → Nat) (env : Environment) : Config where
  server := {
    grpcPort := getIntEnv env "GRPC_PORT" 50051
    httpPort := getIntEnv env "HTTP_PORT" 8080 }
  kafka := {
    brokers := getStringSliceEnv env "KAFKA_BROKERS" ["localhost:9092"]
    topic := getStringEnv env "KAFKA_TOPIC" "events"
    groupID := getStringEnv env "KAFKA_GROUP_ID" "event-gateway"
    numPartitions := (getIntEnv env "KAFKA_NUM_PARTITIONS" 3).toInt32
    replicationFactor := (getIntEnv env "KAFKA_REPLICATION_FACTOR" 1).toInt16
    readTimeout := getDurationEnv fraction env "KAFKA_READ_TIMEOUT" (10 * second)
    writeTimeout := getDurationEnv fraction env "KAFKA_WRITE_TIMEOUT" (10 * second)
    dialTimeout := getDurationEnv fraction env "KAFKA_DIAL_TIMEOUT" (10 * second)
    commitInterval := getDurationEnv fraction env "KAFKA_COMMIT_INTERVAL" second
    sessionTimeout := getDurationEnv fraction env "KAFKA_SESSION_TIMEOUT" (10 * second) }
  auth := {
    enabled := getBoolEnv env "AUTH_ENABLED" false
    jwtSecret := getStringEnv env "JWT_SECRET" defaultSecret
    issuer := getStringEnv env "JWT_ISSUER" "event-gateway"
    tokenExpiry := getDurationEnv fraction env "JWT_TOKEN_EXPIRY" (24 * hour)
    allowedIssuer := getStringEnv env "JWT_ALLOWED_ISSUER" "event-gateway" }
  rateLimit := {
    enabled := getBoolEnv env "RATE_LIMIT_ENABLED" true
    requestsPerSecond := getIntEnv env "RATE_LIMIT_RPS" 1000
    burstSize := getIntEnv env "RATE_LIMIT_BURST" 100
    cleanupInterval := getDurationEnv fraction env "RATE_LIMIT_CLEANUP_INTERVAL" (5 * minute)
    staleThreshold := getDurationEnv fraction env "RATE_LIMIT_STALE_THRESHOLD" (10 * minute) }
  log := {
    level := getStringEnv env "LOG_LEVEL" "info"
    format := getStringEnv env "LOG_FORMAT" "json"
    output := getStringEnv env "LOG_OUTPUT" "stdout" }
  metrics := {
    enabled := getBoolEnv env "METRICS_ENABLED" true
    port := getIntEnv env "METRICS_PORT" 9090
    path := getStringEnv env "METRICS_PATH" "/metrics" }
  replay := {
    maxDuration := getDurationEnv fraction env "REPLAY_MAX_DURATION" (7 * 24 * hour)
    batchSize := getIntEnv env "REPLAY_BATCH_SIZE" 1000
    rateLimit := getIntEnv env "REPLAY_RATE_LIMIT" 1000
    maxRetention := getDurationEnv fraction env "REPLAY_MAX_RETENTION" (7 * 24 * hour) }
  schema := {
    validationEnabled := getBoolEnv env "SCHEMA_VALIDATION_ENABLED" false
    registryURL := getStringEnv env "SCHEMA_REGISTRY_URL" "http://localhost:8081"
    cacheTTL := getDurationEnv fraction env "SCHEMA_CACHE_TTL" hour }
  environment := getStringEnv env "ENVIRONMENT" "development"

namespace Config
variable (c : Config)

def validatePort (name : String) (port : Int64) : Except String Unit :=
  if port ≤ 0 ∨ port > 65535 then .error ("invalid " ++ name ++ ": " ++ toString port) else .ok ()

def validateServer : Except String Unit := do
  validatePort "GRPC_PORT" c.server.grpcPort
  validatePort "HTTP_PORT" c.server.httpPort

def validateKafka : Except String Unit :=
  if c.kafka.brokers.length = 0 then .error "at least one Kafka broker must be configured"
  else if c.kafka.topic = "" then .error "Kafka topic must be configured"
  else if c.kafka.groupID = "" then .error "Kafka group ID must be configured"
  else if c.kafka.numPartitions < 1 then .error "Kafka partitions must be at least 1"
  else .ok ()

def validateAuth : Except String Unit :=
  if c.auth.enabled ∧ c.auth.jwtSecret = defaultSecret then
    .error "JWT secret must be changed in production (JWT_SECRET env var)"
  else .ok ()

def validateRateLimit : Except String Unit :=
  if c.rateLimit.requestsPerSecond < 1 then .error "rate limit requests per second must be at least 1"
  else .ok ()

def validateLogging : Except String Unit :=
  if c.log.level ≠ "debug" ∧ c.log.level ≠ "info" ∧ c.log.level ≠ "warn" ∧ c.log.level ≠ "error" then
    .error ("invalid log level: " ++ c.log.level)
  else .ok ()

def validate : Except String Unit := do
  c.validateServer
  c.validateKafka
  c.validateAuth
  c.validateRateLimit
  c.validateLogging

structure Checked : Prop where
  grpcPort : 0 < c.server.grpcPort ∧ c.server.grpcPort ≤ 65535
  httpPort : 0 < c.server.httpPort ∧ c.server.httpPort ≤ 65535
  brokers : c.kafka.brokers ≠ []
  topic : c.kafka.topic ≠ ""
  groupID : c.kafka.groupID ≠ ""
  numPartitions : 1 ≤ c.kafka.numPartitions
  secret : c.auth.enabled = true → c.auth.jwtSecret ≠ defaultSecret
  requestsPerSecond : 1 ≤ c.rateLimit.requestsPerSecond
  level : c.log.level ∈ ["debug", "info", "warn", "error"]

theorem validatePort_ok {name : String} {port : Int64} :
    validatePort name port = .ok () ↔ 0 < port ∧ port ≤ 65535 := by
  unfold validatePort
  split
  next outside =>
    refine iff_of_false nofun (fun inside => ?_)
    rcases outside with low | high
    · exact absurd inside.1 (Int64.not_lt.mpr low)
    · exact absurd inside.2 (Int64.not_le.mpr high)
  next inside =>
    rw [not_or, Int64.not_le, gt_iff_lt, Int64.not_lt] at inside
    exact iff_of_true rfl inside

theorem validateLogging_ok : c.validateLogging = .ok () ↔ c.log.level ∈ ["debug", "info", "warn", "error"] := by
  have known : c.log.level ∉ ["debug", "info", "warn", "error"] ↔
      c.log.level ≠ "debug" ∧ c.log.level ≠ "info" ∧ c.log.level ≠ "warn" ∧ c.log.level ≠ "error" := by
    simp only [List.mem_cons, List.not_mem_nil, or_false, not_or, ne_eq]
  unfold validateLogging
  split
  next unknown => exact iff_of_false nofun (known.mpr unknown)
  next named => exact iff_of_true rfl (not_not.mp (mt known.mp named))

theorem validate_ok : c.validate = .ok () ↔ c.Checked := by
  have server : c.validateServer = .ok () ↔
      (0 < c.server.grpcPort ∧ c.server.grpcPort ≤ 65535) ∧ (0 < c.server.httpPort ∧ c.server.httpPort ≤ 65535) := by
    rw [validateServer, andThen_ok, validatePort_ok, validatePort_ok]
  have kafka : c.validateKafka = .ok () ↔
      c.kafka.brokers ≠ [] ∧ c.kafka.topic ≠ "" ∧ c.kafka.groupID ≠ "" ∧ 1 ≤ c.kafka.numPartitions := by
    unfold validateKafka
    split_ifs <;> simp_all [← Int32.not_lt]
  have auth : c.validateAuth = .ok () ↔ (c.auth.enabled = true → c.auth.jwtSecret ≠ defaultSecret) := by
    unfold validateAuth
    split_ifs <;> simp_all
  have rate : c.validateRateLimit = .ok () ↔ 1 ≤ c.rateLimit.requestsPerSecond := by
    unfold validateRateLimit
    split_ifs <;> simp_all [← Int64.not_lt]
  rw [validate, andThen_ok, andThen_ok, andThen_ok, andThen_ok, server, kafka, auth, rate, c.validateLogging_ok]
  constructor
  · rintro ⟨⟨grpc, http⟩, ⟨brokers, topic, group, partitions⟩, secret, rps, level⟩
    exact ⟨grpc, http, brokers, topic, group, partitions, secret, rps, level⟩
  · intro checked
    exact ⟨⟨checked.grpcPort, checked.httpPort⟩,
      ⟨checked.brokers, checked.topic, checked.groupID, checked.numPartitions⟩, checked.secret,
      checked.requestsPerSecond, checked.level⟩

end Config

theorem load_defaults (fraction : List Char → Nat → Nat) :
    (load fraction (fun _ => none)).validate = .ok () := by
  apply (Config.validate_ok _).mpr
  constructor <;> simp [load, Environment.getIntEnv, Environment.getStringEnv, Environment.getBoolEnv,
    Environment.getStringSliceEnv]

end EventGateway.Configuration
