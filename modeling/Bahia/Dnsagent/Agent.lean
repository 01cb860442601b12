import Bahia.Lifecycle.Model
import Bahia.Dnsagent.Isolation

/-! The agent that serves sync requests: which request it applies, and what it remembers of it. -/

namespace Bahia.Dnsagent
open Foundation Nostr Nostrutil

def schema : String := "bahia.dnsagent.v1"

structure SyncParams where
  schema : String
  zone : DNSZone
  records : List DNSRecord
  serial : SInt64
  deriving DecidableEq

inductive SyncStatus where
  | ok
  | stale
  deriving DecidableEq

structure SyncResult where
  status : SyncStatus
  changed : Bool
  serial : SInt64
  deriving DecidableEq

/-- A call with the event that carried it and the envelope around that; its params are JSON. -/
structure ContextVMRequest where
  outerEvent : Option Event
  event : Option Event
  params : String

structure Environment where
  unicode : Unicode
  decodeSync : String → Except String SyncParams

/-- What is kept of each zone: its serial, and the id of the request applied at it, if it had one. -/
structure PersistentState where
  zoneSerials : String → Option SInt64
  zoneRequestIDs : String → String
  lastApplySerial : SInt64
  lastApplyAt : String

structure Agent where
  engine : Engine
  includeDir : String
  filePrefix : String
  allowed : List String
  requireEncryption : Bool

structure Host where
  state : PersistentState
  files : Files

/-- One arrival of a request, with how the surroundings behave while it is served. -/
structure Delivery where
  request : ContextVMRequest
  now : Timestamp
  attempt : Attempt := {}
  readFailure : Option String := none
  stateFailure : Option String := none
  appliedAt : String := ""

def kindContextVMGiftWrap : Kind := 1059

def kindContextVMEphemeralWrap : Kind := 21059

def requestEventID (request : ContextVMRequest) : String :=
  let ids := [request.event, request.outerEvent].filterMap fun event =>
    event.bind fun event => if event.id = zeroID then none else some (ID.hex event.id)
  ids.headD ""

def validateSchema (text : String) : Except String Unit :=
  refuse (trimSpace text != schema)
    ("unsupported DNS agent schema " ++ quote text ++ "; expected " ++ quote schema)

def decodeParams (env : Environment) (request : ContextVMRequest) : Except String SyncParams :=
  context "invalid dns-agent/sync params"
    (env.decodeSync (if request.params = "" ∨ request.params = "null" then "\x7b\x7d" else request.params))

namespace Agent
variable (env : Environment) (agent : Agent)

def validateRequestEnvelope (request : ContextVMRequest) (now : Timestamp) : Except String Unit := do
  refuse ([request.outerEvent, request.event].any fun event => event.any (expired · now))
    "request event expired (NIP-40)"
  refuse (agent.requireEncryption && !request.outerEvent.any fun event =>
      event.kind == kindContextVMGiftWrap || event.kind == kindContextVMEphemeralWrap)
    "encrypted ContextVM envelope is required"

def requireAllowedZone (zone : String) : Except String String := do
  let normalized := normalizeDNSZoneName env.unicode zone
  refuse (!agent.allowed.contains normalized)
    ("zone " ++ quote zone ++ " not allowed by agent allowlist")
  return normalized

def admission (request : ContextVMRequest) (now : Timestamp) : Except String SyncParams := do
  agent.validateRequestEnvelope request now
  let params ← decodeParams env request
  validateSchema params.schema
  let zoneName ← agent.requireAllowedZone env params.zone.name
  return { params with zone := { params.zone with name := zoneName } }

def zoneIncludePath (zoneName : String) : String :=
  Engine.includePath env.unicode agent.includeDir agent.filePrefix zoneName

/-- The answer to a request that is not applied: an older one, or one of the applied serial that does
not supersede the one applied. -/
def settled (state : PersistentState) (params : SyncParams) (requestID : String) : Option SyncResult :=
  match state.zoneSerials params.zone.name with
  | none => none
  | some lastSerial =>
    if params.serial < lastSerial then some ⟨.stale, false, lastSerial⟩
    else if params.serial = lastSerial then
      let applied : Version := ⟨lastSerial, state.zoneRequestIDs params.zone.name⟩
      let candidate : Version := ⟨params.serial, requestID⟩
      if requestID = "" ∨ applied.id = "" ∨ candidate.supersedes applied = false then
        some ⟨.ok, false, lastSerial⟩
      else none
    else none

/-- Whether the file has to be written: always for a zone's first request, and else when its bytes
are not the wanted ones. -/
def changed (host : Host) (params : SyncParams) (readFailure : Option String) : Except String Bool :=
  match host.state.zoneSerials params.zone.name with
  | none => .ok true
  | some _ => do
    let desired ← renderZone env.unicode params.zone params.records
    match host.files (agent.zoneIncludePath env params.zone.name) with
    | none => return true
    | some file =>
      refuse readFailure.isSome
        ("read dnsmasq zone config for zone " ++ quote params.zone.name ++ ": " ++ readFailure.getD "")
      return file.data != desired

def applySync (host : Host) (params : SyncParams) (delivery : Delivery) :
    Except String Bool × Files :=
  match agent.changed env host params delivery.readFailure with
  | .error text => (.error text, host.files)
  | .ok false => (.ok false, host.files)
  | .ok true =>
    let applied :=
      agent.engine.applyZone env.unicode host.files params.zone params.records delivery.attempt
    (applied.1.map fun _ => true, applied.2)

def record (state : PersistentState) (params : SyncParams) (requestID appliedAt : String) :
    PersistentState where
  zoneSerials := Function.update state.zoneSerials params.zone.name (some params.serial)
  zoneRequestIDs := Function.update state.zoneRequestIDs params.zone.name requestID
  lastApplySerial := params.serial
  lastApplyAt := appliedAt

/-- `SyncHandler`. A state that cannot be written is still the state of the process. -/
def syncHandler (host : Host) (delivery : Delivery) : Except String SyncResult × Host :=
  match agent.admission env delivery.request delivery.now with
  | .error text => (.error text, host)
  | .ok params =>
    let requestID := requestEventID delivery.request
    match settled host.state params requestID with
    | some result => (.ok result, host)
    | none =>
      match agent.applySync env host params delivery with
      | (.error text, files) => (.error text, { host with files })
      | (.ok changed, files) =>
        let next : Host := ⟨record host.state params requestID delivery.appliedAt, files⟩
        match delivery.stateFailure with
        | some text => (.error text, next)
        | none => (.ok ⟨.ok, changed, params.serial⟩, next)

end Agent

end Bahia.Dnsagent
