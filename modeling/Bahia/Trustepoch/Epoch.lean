import Bahia.Foundation.Digits
import Bahia.Nostr.Event

/-! Operator-authorised changes of a service identity: the signed record of one transition,
how it is parsed, and how the inventory it names is checked. -/

namespace Bahia.Trustepoch
open Foundation Nostr

inductive Failure where
  | unverifiable (reason : String)
  | regression (reason : String)
  | inventory
  | other (text : String)
  deriving DecidableEq, Repr

def withReason (text reason : String) : String := if reason = "" then text else text ++ ": " ++ reason

def Failure.text : Failure → String
  | .unverifiable reason => withReason "trust epoch is present but unverifiable" reason
  | .regression reason => withReason "trust epoch regressed" reason
  | .inventory => "accepted inventory is absent or invalid"
  | .other text => text

/-- The content of an operator-root-signed trust transition. A missing JSON array is `none`. -/
structure Epoch where
  incidentID : String
  epoch : Nat
  oldPubkey : String
  newPubkey : String
  controlledRelays : Option (List String)
  activationBarrier : Int
  inventoryDigest : String
  inventoryCount : Int
  consumerRoster : Option (List String)
  activated : Bool
  deriving DecidableEq

inductive Decoded where
  | malformed
  | trailing
  | epoch (body : Epoch)

/-- What the verifier takes from outside: the checks of ids and signatures, the JSON decoder
and the hash. -/
structure Environment where
  checkID : Event → Bool
  verifySignature : Event → Bool
  decode : String → Decoded
  sha256 : Bytes → FixedBytes 32

def topic : String := "trust-epoch"

def schema : String := "bahia.trust-epoch.v1"

def domain : String := "identity"

def legacyKind : String := "32052"

def controlState : Kind := 30900

def consumerIDs : List String :=
  ["daemon", "sidecar", "web", "cli", "dns", "loom", "soulfactory", "hiveci", "pinned-runtimes"]

def registered (id : String) : Bool := consumerIDs.contains id

def validHex64 (value : String) : Bool :=
  value.utf8ByteSize == 64 && toLower value == value && (decodeHexDigits value.toList).isSome

/-- Exactly one tag of that name carries a value, and it is the wanted one. -/
def exactly (tags : Tags) (name want : String) : Bool :=
  tags.filterMap (fun tag =>
    match tag with
    | first :: value :: _ => if first = name then some value else none
    | _ => none) == [want]

def containsAny (text : String) (runes : List Char) : Bool := text.toList.any runes.contains

/-- The fields of a record that can be read without its event. -/
def Epoch.wellFormed (body : Epoch) (operatorRoot : String) : Bool :=
  body.incidentID != "" && body.epoch != 0 && validHex64 body.oldPubkey &&
    validHex64 body.newPubkey && body.oldPubkey != body.newPubkey &&
    body.oldPubkey != operatorRoot && body.newPubkey != operatorRoot &&
    decide (0 < body.activationBarrier) && validHex64 body.inventoryDigest &&
    decide (0 ≤ body.inventoryCount) && body.controlledRelays.isSome && body.consumerRoster.isSome

def rosterFault (roster : List String) : Option String :=
  if roster.any (fun id => !registered id) || !decide roster.Nodup then some "consumer roster"
  else if consumerIDs.any (fun id => !roster.contains id) then some "incomplete consumer roster"
  else none

/-- `Parse`: the complete signed envelope, not merely its payload. -/
def parse (env : Environment) (ev : Event) (serviceID operatorRoot : String) :
    Except Failure Epoch :=
  if serviceID = "" || containsAny serviceID [' ', '\t', '\r', '\n', ':'] ||
      !validHex64 operatorRoot || PubKey.hex ev.pubKey != operatorRoot then
    .error (.unverifiable "service id or independent operator root")
  else if ev.kind != controlState || !env.checkID ev || !env.verifySignature ev then
    .error (.unverifiable "kind, id, or signature")
  else if !exactly ev.tags "d" ("trust-epoch:" ++ serviceID) || !exactly ev.tags "t" topic ||
      !exactly ev.tags "domain" domain || !exactly ev.tags "schema" schema ||
      !exactly ev.tags "legacy_kind" legacyKind || !exactly ev.tags "deleted" "false" then
    .error (.unverifiable "contract tags")
  else
    match env.decode ev.content with
    | .malformed => .error (.unverifiable "content JSON")
    | .trailing => .error (.unverifiable "trailing content")
    | .epoch body =>
      if !body.wellFormed operatorRoot || !exactly ev.tags "epoch" (toString body.epoch) then
        .error (.unverifiable "content fields")
      else
        match rosterFault (body.consumerRoster.getD []) with
        | some reason => .error (.unverifiable reason)
        | none => .ok body

def adjacentDistinct : List String → Bool
  | first :: second :: rest => first != second && adjacentDistinct (second :: rest)
  | _ => true

def sortedIDs (ids : List String) : List String := ids.mergeSort fun first second => first ≤ second

/-- `CheckInventory`: the ids are known only after their exact count, uniqueness and digest
have been verified. -/
def checkInventory (env : Environment) (ids : Option (List String)) (digest : String) (count : Int) :
    Except Failure (List String) :=
  match ids with
  | none => .error .inventory
  | some ids =>
    if count < 0 ∨ (ids.length : Int) ≠ count ∨ validHex64 digest = false then .error .inventory
    else
      let sorted := sortedIDs ids
      if !sorted.all validHex64 || !adjacentDistinct sorted then .error .inventory
      else if hex (env.sha256 (utf8 (join "\n" sorted))).val != digest then .error .inventory
      else .ok sorted

theorem checkInventory_ok (checked : checkInventory env ids digest count = .ok verified) :
    ∃ listed, ids = some listed ∧ verified = sortedIDs listed ∧ (listed.length : Int) = count ∧
      hex (env.sha256 (utf8 (join "\n" (sortedIDs listed)))).val = digest := by
  unfold checkInventory at checked
  split at checked
  · cases checked
  rename_i listed
  split at checked
  · cases checked
  rename_i counted
  dsimp only at checked
  split at checked
  · cases checked
  split at checked
  · cases checked
  rename_i same
  refine ⟨listed, rfl, (Except.ok.inj checked).symm, ?_, ?_⟩
  · by_contra different
    exact counted (.inr (.inl different))
  · simpa using same

end Bahia.Trustepoch
