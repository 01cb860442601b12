import Bahia.Foundation.Text
import Bahia.Nostr.Event

/-! Admission lanes, their budgets and the configuration of one outbound controller. What is
used at run time is the normalized form, whose budgets and bounds are positive. -/

namespace Bahia.Nostrout
open Foundation Nostr

/-- An instant in nanoseconds, counted from the zero `time.Time`. -/
abbrev Instant := Int

abbrev Duration := Int

def second : Duration := 10 ^ 9

def minute : Duration := 60 * second

inductive Purpose where
  | priority
  | state
  | general
  | bulk
  | signer
  deriving DecidableEq, Repr

def allPurposes : List Purpose := [.priority, .state, .general, .bulk, .signer]

def Purpose.text : Purpose → String
  | .priority => "priority"
  | .state => "state"
  | .general => "general"
  | .bulk => "bulk"
  | .signer => "signer"

def Purpose.ofText (text : String) : Option Purpose :=
  allPurposes.find? fun purpose => purpose.text == text

/-- Some tag named `name` has a first value that passes. -/
def tagged (tags : Tags) (name : String) (passes : String → Bool) : Bool :=
  tags.any fun tag =>
    match tag with
    | key :: value :: _ => key == name && passes value
    | _ => false

def eventHasTag (tags : Tags) (name value : String) : Bool := tagged tags name (· == value)

/-- The lane by kind class, for events no special rule claims. -/
def purposeForKind (kind : Kind) : Purpose :=
  if 10000 ≤ kind.val ∧ kind.val < 20000 ∨ 30000 ≤ kind.val ∧ kind.val < 40000 then .state
  else .general

def purposeForEvent (event : Event) : Purpose :=
  match event.kind.val with
  | 5 | 1059 | 25910 => .priority
  | 24133 => .signer
  | 30023 =>
    if eventHasTag event.tags "t" "bahia-docs" then .bulk else purposeForKind event.kind
  | 30315 =>
    if eventHasTag event.tags "t" "assistant-status" then .priority
    else purposeForKind event.kind
  | 4903 =>
    if tagged event.tags "t" (hasPrefix · "assistant-checkpoint:") then .priority
    else purposeForKind event.kind
  | 30900 =>
    if tagged event.tags "d" (hasPrefix · "bahia.assistant-session.v2:") then .priority
    else purposeForKind event.kind
  | _ => purposeForKind event.kind

/-- The event id that receipts are kept under; empty without one. -/
def eventKeyID (event : Event) : String := if event.id = zeroID then "" else ID.hex event.id

structure PurposeBudget where
  ratePerMinute : Int
  burst : Int
  deriving DecidableEq, Repr

structure Budget extends PurposeBudget where
  rate_pos : 0 < ratePerMinute
  burst_pos : 0 < burst
  deriving DecidableEq

namespace Budget

def add (first second : Budget) : Budget where
  ratePerMinute := first.ratePerMinute + second.ratePerMinute
  burst := first.burst + second.burst
  rate_pos := Int.add_pos first.rate_pos second.rate_pos
  burst_pos := Int.add_pos first.burst_pos second.burst_pos

def clamp (lane aggregate : Budget) : Budget where
  ratePerMinute := min lane.ratePerMinute aggregate.ratePerMinute
  burst := min lane.burst aggregate.burst
  rate_pos := lt_min lane.rate_pos aggregate.rate_pos
  burst_pos := lt_min lane.burst_pos aggregate.burst_pos

end Budget

/-- A missing or non-positive budget falls back. -/
def PurposeBudget.orElse (budget : PurposeBudget) (fallback : Budget) : Budget :=
  if positive : 0 < budget.ratePerMinute ∧ 0 < budget.burst then
    ⟨budget, positive.1, positive.2⟩
  else fallback

structure Config where
  aggregate : PurposeBudget
  purposeBudgets : Purpose → PurposeBudget
  relayWire : PurposeBudget
  relayWirePriority : PurposeBudget
  ratePerMinute : Int
  burst : Int
  breakerMin : Duration
  breakerMax : Duration
  duplicateTTL : Duration
  duplicateLimit : Int
  maxActivePublications : Int
  maxRelayIdentities : Int
  maxQueuedOperations : Int
  maxOperationEvents : Int
  maxQueueWait : Duration
  maxOpaqueWaiters : Int

def defaultPurposeBudget : Purpose → Budget
  | .priority => ⟨⟨30, 24⟩, by decide, by decide⟩
  | .state => ⟨⟨10, 3⟩, by decide, by decide⟩
  | .general => ⟨⟨10, 3⟩, by decide, by decide⟩
  | .bulk => ⟨⟨5, 1⟩, by decide, by decide⟩
  | .signer => ⟨⟨10, 4⟩, by decide, by decide⟩

def defaultRelayWire : Budget := ⟨⟨25, 7⟩, by decide, by decide⟩

def defaultRelayWirePriority : Budget := ⟨⟨30, 24⟩, by decide, by decide⟩

def defaultConfig : Config where
  aggregate := ⟨65, 35⟩
  purposeBudgets := fun purpose => (defaultPurposeBudget purpose).toPurposeBudget
  relayWire := defaultRelayWire.toPurposeBudget
  relayWirePriority := defaultRelayWirePriority.toPurposeBudget
  ratePerMinute := 0
  burst := 0
  breakerMin := 2 * second
  breakerMax := minute
  duplicateTTL := 10 * minute
  duplicateLimit := 4096
  maxActivePublications := 64
  maxRelayIdentities := 128
  maxQueuedOperations := 8
  maxOperationEvents := 2048
  maxQueueWait := 30 * second
  maxOpaqueWaiters := 32

structure Limits where
  aggregate : Budget
  purposeBudgets : Purpose → Budget
  relayWire : Budget
  relayWirePriority : Budget
  breakerMin : Duration
  breakerMax : Duration
  duplicateTTL : Duration
  duplicateLimit : Int
  maxActive : Int
  maxRelayIdentities : Int
  maxQueuedOperations : Int
  maxOperationEvents : Int
  maxQueueWait : Duration
  maxOpaqueWaiters : Int
  maxActive_pos : 0 < maxActive
  maxQueuedOperations_pos : 0 < maxQueuedOperations

def Limits.wire (limits : Limits) (priority : Bool) : Budget :=
  if priority then limits.relayWirePriority else limits.relayWire

def orElse (value fallback : Int) : Int := if 0 < value then value else fallback

theorem orElse_pos {value fallback : Int} (positive : 0 < fallback) : 0 < orElse value fallback := by
  unfold orElse
  split
  · assumption
  · exact positive

/-- A bound that may only be lowered. -/
def atMost (value bound : Int) : Int := if value ≤ 0 ∨ bound < value then bound else value

/-- The lanes before they are clamped; the compact form overrides the general one. -/
def Config.lanes (config : Config) (purpose : Purpose) : Budget :=
  let lane := (config.purposeBudgets purpose).orElse (defaultPurposeBudget purpose)
  if purpose = .general then PurposeBudget.orElse ⟨config.ratePerMinute, config.burst⟩ lane
  else lane

/-- An unset aggregate is the sum of the lanes. -/
def Config.total (config : Config) : Budget :=
  config.aggregate.orElse
    ((((config.lanes .priority).add (config.lanes .state)).add (config.lanes .general)).add
      (config.lanes .bulk) |>.add (config.lanes .signer))

def normalizeConfig (config : Config) : Limits where
  aggregate := config.total
  purposeBudgets := fun purpose => (config.lanes purpose).clamp config.total
  relayWire := config.relayWire.orElse defaultRelayWire
  relayWirePriority := config.relayWirePriority.orElse defaultRelayWirePriority
  breakerMin := orElse config.breakerMin defaultConfig.breakerMin
  breakerMax := max (orElse config.breakerMax defaultConfig.breakerMax)
    (orElse config.breakerMin defaultConfig.breakerMin)
  duplicateTTL := orElse config.duplicateTTL defaultConfig.duplicateTTL
  duplicateLimit := orElse config.duplicateLimit defaultConfig.duplicateLimit
  maxActive := orElse config.maxActivePublications 64
  maxRelayIdentities := orElse config.maxRelayIdentities 128
  maxQueuedOperations := orElse config.maxQueuedOperations 8
  maxOperationEvents := atMost config.maxOperationEvents 2048
  maxQueueWait := atMost config.maxQueueWait (30 * second)
  maxOpaqueWaiters := orElse config.maxOpaqueWaiters 32
  maxActive_pos := orElse_pos (by decide)
  maxQueuedOperations_pos := orElse_pos (by decide)

end Bahia.Nostrout
