import Bahia.Foundation.Bucket
import Bahia.Foundation.Outcome
import Bahia.Foundation.Text
import Bahia.Nostr.Event

/-! Intents as they are parsed from kind-30900 events, and the records that mark them as processed. -/

namespace Bahia.Controlplane
open Foundation Nostr

/-- JSON data in its canonical encoding. -/
abbrev Data := String

structure Content where
  data : Data
  expectedUpdatedAt : Option (Except String SInt64) := none
  deriving DecidableEq

/-- A parsed intent. The actor is the author of a relay event, or the caller of an in-process one. -/
structure Intent where
  event : Option Event
  domain : String
  op : String
  orgID : String
  intentID : String
  coordinate : String
  content : Content
  expectedUpdatedAt : Option SInt64 := none
  actor : String := ""
  deriving DecidableEq

def nilUUID : String := "00000000-0000-0000-0000-000000000000"

def virtualizationDomain : String := "virtualization"

def isLLMLifecycleIntent (intent : Intent) : Bool :=
  intent.domain == "llm" &&
    ["deploy", "rollback", "approve", "reject", "release-register"].contains intent.op

def isToolRequest (intent : Intent) : Bool :=
  intent.domain == "tool" && (intent.op == "approval-response" || intent.op == "request")

/-- Replays of these are compared with what was accepted before. -/
def requiresStrictIntentReplay (intent : Intent) : Bool :=
  match intent.domain with
  | "virtualization" | "hostname" | "hiveci-policy" => true
  | "backup" => intent.op == "run"
  | "org" => intent.op == "rekey"
  | "build" => intent.op == "request"
  | "tool" => intent.op == "approval-response" || intent.op == "request"
  | "llm" => isLLMLifecycleIntent intent
  | "adoption" => intent.op == "scan"
  | "ml" => ["model-import", "recipe-apply", "recipe-run", "inference-deploy", "inference-approval",
      "inference-rollback"].contains intent.op
  | _ => false

/-- The intents whose replay the processed cache decides; that of the others is decided by their
immutable admissions. -/
def usesProcessedCache (intent : Intent) : Bool :=
  !isLLMLifecycleIntent intent && (intent.domain != "backup" || intent.op != "run") &&
    !isToolRequest intent

def orglessDomains : List String :=
  ["dns", "ml", "worker", "adoption", "tool", "security", "sbom", "relay", "hiveci-policy"]

structure Decoders where
  uuid : String → Except String String
  content : String → Except String Content

def Intent.untagged (event : Event) : Intent where
  event := some event
  domain := ""
  op := ""
  orgID := nilUUID
  intentID := ""
  coordinate := ""
  content := { data := "" }

/-- One tag of an intent; a later tag of the same name replaces an earlier one. -/
def Intent.tagged (decoders : Decoders) (intent : Intent) (tag : Tag) : Except String Intent :=
  match tag with
  | "d" :: value :: _ => .ok { intent with coordinate := value }
  | "domain" :: value :: _ => .ok { intent with domain := value }
  | "op" :: value :: _ => .ok { intent with op := value }
  | "org" :: value :: _ =>
    (context "invalid org tag" (decoders.uuid value)).map fun orgID => { intent with orgID }
  | "intent_id" :: value :: _ => .ok { intent with intentID := value }
  | _ => .ok intent

def hasIntentTopic (tags : Tags) : Bool :=
  tags.any fun tag =>
    match tag with
    | "t" :: value :: _ => value == "bahia-intent"
    | _ => false

def requireOrg (intent : Intent) : Except String Unit :=
  refuse (intent.orgID == nilUUID && (intent.domain != "org" || intent.op != "rekey") &&
    !orglessDomains.contains intent.domain) "missing or invalid org tag"

/-- An event that is no intent, or an intent with the error it is rejected for, if there is one. -/
def parseIntent (decoders : Decoders) (event : Event) : Except String (Intent × Option String) := do
  refuse (event.kind != 30900) ("expected kind 30900, got " ++ toString event.kind.val)
  refuse (!hasIntentTopic event.tags) "missing t=bahia-intent tag"
  let intent ← event.tags.foldlM (Intent.tagged decoders) (Intent.untagged event)
  refuse (intent.coordinate == "") "missing d tag"
  refuse (intent.domain == "") "missing domain tag"
  refuse (intent.intentID == "") "missing intent_id tag"
  requireOrg intent
  let content ← if event.content = "" then .ok { data := "" }
    else context "invalid content JSON" (decoders.content event.content)
  let op := if intent.op = "" then "update" else intent.op
  match content.expectedUpdatedAt with
  | none => return ({ intent with content, op }, none)
  | some (.ok revision) => return ({ intent with content, op, expectedUpdatedAt := some revision }, none)
  | some (.error text) => return ({ intent with content }, some text)

structure ProcessedIntentRecord where
  actor : String
  orgID : String
  domain : String
  op : String
  coordinate : String
  eventID : String
  contentHash : String
  result : Option Data
  deriving DecidableEq

def Intent.eventID (intent : Intent) : String :=
  match intent.event with
  | some event => ID.hex event.id
  | none => ""

/-- The record of an intent that was processed with this result. The full answer to a preview may hold
secrets and is not kept. -/
def recordOf (contentHash : Data → String) (intent : Intent) (result : Option Data) :
    ProcessedIntentRecord where
  actor := intent.actor
  orgID := intent.orgID
  domain := intent.domain
  op := intent.op
  coordinate := intent.coordinate
  eventID := intent.eventID
  contentHash := if requiresStrictIntentReplay intent then contentHash intent.content.data else ""
  result := if intent.domain = "deployment" ∧ intent.op = "preview" then none else result

/-- Whether a strict replay differs from what was accepted. Only virtualization compares the
organisation and the event too. -/
def replayConflicts (contentHash : Data → String) (intent : Intent)
    (record : ProcessedIntentRecord) : Bool :=
  record.actor != intent.actor || record.domain != intent.domain || record.op != intent.op ||
    record.coordinate != intent.coordinate ||
    (record.contentHash != "" && record.contentHash != contentHash intent.content.data) ||
    (intent.domain == virtualizationDomain &&
      (record.contentHash == "" || record.orgID != intent.orgID || intent.event.isNone ||
        record.eventID != intent.eventID))

end Bahia.Controlplane
