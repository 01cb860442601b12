import Bahia.Foundation.Bucket
import Bahia.Foundation.Outcome
import Bahia.Foundation.Text

/-! Organisation membership: the trust set, and the handler that feeds it from encrypted member events
and the derived repository. -/

namespace Bahia.Controlplane
open Foundation Bucket

abbrev Role := String

/-- The relay members of each organisation, and the owners from the configuration. -/
structure TrustSet where
  relay : Bucket String (Bucket String Role)
  bootstrapOwners : Bucket String String

namespace TrustSet

def roleOwner : Role := "owner"

/-- `RoleHasPermission` of the role that the relay members or the configuration give. -/
def hasPermission (roleHasPermission : Role → String → Bool) (trust : TrustSet)
    (orgID pubkey permission : String) : Bool :=
  match trust.relay.get orgID with
  | some members =>
    if members.keys.isEmpty then
      trust.bootstrapOwners.get orgID == some pubkey && roleHasPermission roleOwner permission
    else (members.get pubkey).any (roleHasPermission · permission)
  | none => trust.bootstrapOwners.get orgID == some pubkey && roleHasPermission roleOwner permission

def setRelayMembers (trust : TrustSet) (orgID : String) (members : Bucket String Role) : TrustSet :=
  if members.keys.isEmpty then { trust with relay := trust.relay.delete orgID }
  else { trust with relay := trust.relay.put orgID members }

def relayMembersFor (trust : TrustSet) (orgID : String) : Bucket String Role :=
  (trust.relay.get orgID).getD ∅

theorem relayMembersFor_setRelayMembers (trust : TrustSet) (orgID other : String)
    (members : Bucket String Role) :
    (trust.setRelayMembers orgID members).relayMembersFor other =
      if orgID = other then members else trust.relayMembersFor other := by
  unfold setRelayMembers relayMembersFor
  split
  · rename_i empty
    rw [get_delete]
    split
    · ext pubkey
      rw [get_of_keys_nil (List.isEmpty_iff.mp empty)]
      simp
    · rfl
  · rw [get_put]
    split <;> rfl

end TrustSet

structure MemberContent where
  orgID : String
  pubkey : String
  role : Role
  deleted : Bool

structure MemberEvent where
  content : String
  legacyKind : Int
  dTag : String
  topic : String

structure MemberDecoders where
  decrypt : MemberEvent → Except String MemberContent
  uuid : String → Except String String

inductive Repository where
  | unconfigured
  | unavailable (text : String)
  | listed (members : List (String × Role))

def readMemberEvent (decoders : MemberDecoders) (event : MemberEvent) : Except String MemberContent := do
  let member ← context "decrypt member event" (decoders.decrypt event)
  refuse (member.orgID == "" || member.pubkey == "") "encrypted member event missing org_id or pubkey"
  let _ ← context "invalid org_id in member event" (decoders.uuid member.orgID)
  return member

def listedMembers (rows : List (String × Role)) : Bucket String Role :=
  rows.foldl (fun members row => members.put row.1 row.2) ∅

/-- The map that the event is applied to: the rows if they can be read, else the relay members. -/
def existingMembers (trust : TrustSet) (orgID : String) : Repository → Bucket String Role
  | .listed rows => listedMembers rows
  | _ => trust.relayMembersFor orgID

def MemberContent.apply (member : MemberContent) (existing : Bucket String Role) : Bucket String Role :=
  if member.deleted then existing.delete member.pubkey else existing.put member.pubkey member.role

def handleEncryptedMemberEvent (decoders : MemberDecoders) (trust : TrustSet) (event : MemberEvent)
    (repository : Repository) : TrustSet × Except String Unit :=
  match readMemberEvent decoders event with
  | .error text => (trust, .error text)
  | .ok member =>
    (trust.setRelayMembers member.orgID (member.apply (existingMembers trust member.orgID repository)),
      .ok ())

/-- A record of the history; its tags may fail to decode. -/
structure MemberRecord where
  id : String
  createdAt : Int
  tags : Except String (List (List String))
  content : String

def orgMemberTopic : String := "org-member"

/-- `strconv.Atoi` without its error: out of range it is the nearest `int64`. -/
def atoi (text : String) : Int :=
  let signed (negative : Bool) (digits : List Char) : Int :=
    match if digits.isEmpty then none else decimalDigits digits with
    | some size => if negative then max (-2 ^ 63) (-size) else min (2 ^ 63 - 1) size
    | none => 0
  match text.toList with
  | '-' :: digits => signed true digits
  | '+' :: digits => signed false digits
  | digits => signed false digits

def MemberEvent.tagged (event : MemberEvent) (tag : List String) : MemberEvent :=
  match tag with
  | "d" :: value :: _ => { event with dTag := value }
  | "t" :: value :: _ => { event with topic := value }
  | "legacy_kind" :: value :: _ => { event with legacyKind := atoi value }
  | _ => event

/-- The event of a record, unless its tags are invalid or its topic is another. -/
def MemberRecord.event (record : MemberRecord) : Option MemberEvent :=
  match record.tags with
  | .error _ => none
  | .ok tags =>
    let event := tags.foldl MemberEvent.tagged ⟨record.content, 0, "", ""⟩
    if event.topic = orgMemberTopic then some event else none

/-- Oldest first; on a tie the higher id first, so that the lowest is applied last. -/
def MemberRecord.replayedBefore (first second : MemberRecord) : Bool :=
  first.createdAt < second.createdAt || (first.createdAt == second.createdAt && second.id ≤ first.id)

def memberHistoryLimit : Nat := 10000

/-- The startup path. The history is read newest first up to the limit; `repository` is what each
call finds, by record. -/
def hydrateTrustSetFromHistory (decoders : MemberDecoders) (repository : MemberRecord → Repository)
    (trust : TrustSet) (history : Except String (List MemberRecord)) : TrustSet :=
  match history with
  | .error _ => trust
  | .ok records =>
    ((records.take memberHistoryLimit).mergeSort MemberRecord.replayedBefore).foldl
      (fun trust record =>
        match record.event with
        | none => trust
        | some event => (handleEncryptedMemberEvent decoders trust event (repository record)).1) trust

end Bahia.Controlplane
