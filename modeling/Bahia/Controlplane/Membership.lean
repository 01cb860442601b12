import Bahia.Foundation.Versions
import Bahia.Controlplane.TrustSet

/-! Whether the relay members follow the member events alone, whatever the repository lists. -/

namespace Bahia.Controlplane
open Foundation List

def latestRole (changes : List MemberContent) (orgID pubkey : String) : Option Role :=
  match (changes.filter fun change => change.orgID = orgID ∧ change.pubkey = pubkey).getLast? with
  | some change => if change.deleted then none else some change.role
  | none => none

theorem latestRole_snoc (changes : List MemberContent) (change : MemberContent) (orgID pubkey : String) :
    latestRole (changes ++ [change]) orgID pubkey =
      if change.orgID = orgID ∧ change.pubkey = pubkey then
        if change.deleted then none else some change.role
      else latestRole changes orgID pubkey := by
  by_cases own : change.orgID = orgID ∧ change.pubkey = pubkey <;> simp [latestRole, own]

theorem get_apply (member : MemberContent) (existing : Bucket String Role) (pubkey : String) :
    (member.apply existing).get pubkey =
      if member.pubkey = pubkey then if member.deleted then none else some member.role
      else existing.get pubkey := by
  unfold MemberContent.apply
  split
  · rw [Bucket.get_delete]
  · rw [Bucket.get_put]

structure MemberCall where
  event : MemberEvent
  repository : Repository

/-- The trust set, with the changes that were handled so far. -/
structure Roster where
  trust : TrustSet
  changes : List MemberContent

namespace Roster
variable (decoders : MemberDecoders)

def initial (owners : Bucket String String) : Roster := ⟨⟨∅, owners⟩, []⟩

def handle (roster : Roster) (call : MemberCall) : Roster where
  trust := (handleEncryptedMemberEvent decoders roster.trust call.event call.repository).1
  changes := roster.changes ++ (readMemberEvent decoders call.event).toOption.toList

/-- The relay members are what the latest changes say. -/
def Faithful (roster : Roster) : Prop :=
  ∀ orgID pubkey, (roster.trust.relayMembersFor orgID).get pubkey = latestRole roster.changes orgID pubkey

/-- The repository is not read, or it lists what the latest changes say of the other members. -/
def Agrees (roster : Roster) (call : MemberCall) : Prop :=
  ∀ member, readMemberEvent decoders call.event = .ok member → ∀ rows, call.repository = .listed rows →
    ∀ pubkey, member.pubkey ≠ pubkey →
      (listedMembers rows).get pubkey = latestRole roster.changes member.orgID pubkey

variable {decoders}

/-- A call keeps the relay members faithful exactly if the repository agrees. -/
theorem faithful_handle_iff {roster : Roster} (faithful : roster.Faithful) (call : MemberCall) :
    (roster.handle decoders call).Faithful ↔ roster.Agrees decoders call := by
  unfold Faithful Agrees handle handleEncryptedMemberEvent
  cases read : readMemberEvent decoders call.event with
  | error =>
    refine iff_of_true ?_ nofun
    intro orgID pubkey
    rw [Except.toOption, Option.toList, append_nil]
    exact faithful orgID pubkey
  | ok member =>
    simp only [Except.toOption, Option.toList, latestRole_snoc, Except.ok.injEq,
      TrustSet.relayMembersFor_setRelayMembers, forall_eq']
    constructor
    · intro after rows listed pubkey other
      have here := after member.orgID pubkey
      rw [if_pos rfl, get_apply, if_neg other, if_neg fun own => other own.2, listed] at here
      exact here
    · intro agrees orgID pubkey
      by_cases own : member.orgID = orgID
      · subst own
        rw [if_pos rfl, get_apply]
        by_cases same : member.pubkey = pubkey
        · simp [same]
        rw [if_neg same, if_neg fun own => same own.2]
        cases found : call.repository with
        | listed rows => exact agrees rows found pubkey same
        | unconfigured | unavailable => exact faithful member.orgID pubkey
      · rw [if_neg own, if_neg fun both => own both.1]
        exact faithful orgID pubkey

theorem faithful_initial (owners : Bucket String String) : (initial owners).Faithful := by
  intro orgID pubkey
  simp [initial, TrustSet.relayMembersFor, latestRole]

theorem faithful_foldl
    (agrees : Throughout (handle decoders) (Agrees decoders) (initial owners) calls) :
    (calls.foldl (handle decoders) (initial owners)).Faithful := by
  have keeps : ∀ (roster : Roster) (call : MemberCall), roster.Faithful → roster.Agrees decoders call →
      (roster.handle decoders call).Faithful :=
    fun _ call faithful agrees => (faithful_handle_iff faithful call).mpr agrees
  exact foldl_guarded keeps (faithful_initial owners) agrees

end Roster

def replayCalls (repository : MemberRecord → Repository) (history : List MemberRecord) :
    List MemberCall :=
  (history.mergeSort MemberRecord.replayedBefore).filterMap fun record =>
    record.event.map fun event => ⟨event, repository record⟩

def changesOf (decoders : MemberDecoders) (calls : List MemberCall) : List MemberContent :=
  calls.filterMap fun call => (readMemberEvent decoders call.event).toOption

section
variable (decoders : MemberDecoders) (roster : Roster) (calls : List MemberCall)

theorem foldl_handle_changes :
    (calls.foldl (Roster.handle decoders) roster).changes = roster.changes ++ changesOf decoders calls := by
  induction calls generalizing roster with
  | nil => simp [changesOf]
  | cons call rest ih =>
    rw [foldl_cons, ih, changesOf, changesOf, filterMap_cons]
    cases read : (readMemberEvent decoders call.event).toOption <;> simp [Roster.handle, read]

theorem foldl_handle_trust :
    (calls.foldl (Roster.handle decoders) roster).trust = calls.foldl (fun trust call =>
      (handleEncryptedMemberEvent decoders trust call.event call.repository).1) roster.trust := by
  induction calls generalizing roster with
  | nil => rfl
  | cons call rest ih => exact ih _

end

theorem hydrate_eq (decoders : MemberDecoders) (repository : MemberRecord → Repository)
    (trust : TrustSet) (small : history.length ≤ memberHistoryLimit) :
    hydrateTrustSetFromHistory decoders repository trust (.ok history) =
      (replayCalls repository history).foldl (fun trust call =>
        (handleEncryptedMemberEvent decoders trust call.event call.repository).1) trust := by
  simp only [hydrateTrustSetFromHistory, take_of_length_le small, replayCalls, foldl_filterMap]
  congr 1
  funext trust record
  cases record.event <;> rfl

def trustAfter (decoders : MemberDecoders) (owners : Bucket String String)
    (repository : MemberRecord → Repository) (history : List MemberRecord) (live : List MemberCall) :
    TrustSet :=
  live.foldl (fun trust call => (handleEncryptedMemberEvent decoders trust call.event call.repository).1)
    (hydrateTrustSetFromHistory decoders repository ⟨∅, owners⟩ (.ok history))

section
variable {decoders : MemberDecoders} {owners : Bucket String String} {history : List MemberRecord}

theorem relayMembers_eq (small : history.length ≤ memberHistoryLimit)
    (agrees : Throughout (Roster.handle decoders) (Roster.Agrees decoders) (Roster.initial owners)
      (replayCalls repository history ++ live)) (orgID pubkey : String) :
    ((trustAfter decoders owners repository history live).relayMembersFor orgID).get pubkey =
      latestRole (changesOf decoders (replayCalls repository history ++ live)) orgID pubkey := by
  have faithful := Roster.faithful_foldl agrees orgID pubkey
  rw [foldl_handle_changes, foldl_handle_trust, foldl_append] at faithful
  rw [trustAfter, hydrate_eq decoders repository _ small]
  exact faithful

theorem changesOf_congr {live other : List MemberCall}
    (same : other.map MemberCall.event = live.map MemberCall.event) :
    changesOf decoders (replayCalls rows history ++ other) =
      changesOf decoders (replayCalls repository history ++ live) := by
  have events (calls : List MemberCall) : changesOf decoders calls =
      (calls.map MemberCall.event).filterMap fun event => (readMemberEvent decoders event).toOption := by
    rw [filterMap_map]
    rfl
  have replayed (repository : MemberRecord → Repository) : (replayCalls repository history).map
      MemberCall.event = (history.mergeSort MemberRecord.replayedBefore).filterMap MemberRecord.event := by
    rw [replayCalls, map_filterMap]
    congr 1
    funext record
    cases record.event <;> rfl
  rw [events, events, map_append, map_append, replayed, replayed, same]

end

/-- If the repository agrees at every call, or is not read, then after the startup path and any live
calls the relay members are exactly what the latest member events say, whatever rows were read. -/
theorem relay_members_follow_events (decoders : MemberDecoders) (owners : Bucket String String)
    (repository : MemberRecord → Repository) (history : List MemberRecord)
    (small : history.length ≤ memberHistoryLimit) (live : List MemberCall)
    (agrees : Throughout (Roster.handle decoders) (Roster.Agrees decoders) (Roster.initial owners)
      (replayCalls repository history ++ live)) (orgID pubkey : String) :
    ((trustAfter decoders owners repository history live).relayMembersFor orgID).get pubkey =
        latestRole (changesOf decoders (replayCalls repository history ++ live)) orgID pubkey ∧
      ∀ (rows : MemberRecord → Repository) (other : List MemberCall),
        other.map MemberCall.event = live.map MemberCall.event →
        Throughout (Roster.handle decoders) (Roster.Agrees decoders) (Roster.initial owners)
          (replayCalls rows history ++ other) →
        ((trustAfter decoders owners rows history other).relayMembersFor orgID).get pubkey =
          ((trustAfter decoders owners repository history live).relayMembersFor orgID).get pubkey := by
  refine ⟨relayMembers_eq small agrees orgID pubkey, fun rows other same listed => ?_⟩
  rw [relayMembers_eq small agrees, relayMembers_eq small listed, changesOf_congr same]

/-- Decoders for samples: the content is the role, or a removal if there is none. -/
def plainDecoders : MemberDecoders where
  decrypt := fun event => .ok ⟨event.legacyKind.repr, event.dTag, event.content, event.content == ""⟩
  uuid := .ok

/-- Alice is a member; bob joins and leaves, and the repository lists what the events before say. -/
theorem relay_members_follow_events_listed :
    let history : List MemberRecord :=
      [⟨"1", 10, .ok [["t", "org-member"], ["d", "alice"], ["legacy_kind", "7"]], "owner"⟩]
    let live : List MemberCall := [⟨⟨"admin", 7, "bob", "org-member"⟩, .listed [("alice", "owner")]⟩,
      ⟨⟨"", 7, "bob", "org-member"⟩, .listed [("alice", "owner"), ("bob", "admin")]⟩]
    ((trustAfter plainDecoders ∅ (fun _ => .listed []) history live).relayMembersFor "7").get "alice" =
      latestRole (changesOf plainDecoders (replayCalls (fun _ => .listed []) history ++ live))
        "7" "alice" := by
  intro history live
  have replayed : replayCalls (fun _ => .listed []) history =
      [⟨⟨"owner", 7, "alice", "org-member"⟩, .listed []⟩] := by
    rw [replayCalls, mergeSort_singleton]
    rfl
  refine (relay_members_follow_events plainDecoders ∅ _ history (by decide) live ?_ "7" "alice").1
  rw [replayed]
  refine throughout_cons.mpr ⟨?_, throughout_cons.mpr ⟨?_, throughout_cons.mpr ⟨?_, trivial⟩⟩⟩
  · rintro member ⟨⟩ rows ⟨⟩ pubkey _
    simp [listedMembers, Roster.initial, latestRole]
  · rintro member ⟨⟩ rows ⟨⟩ pubkey _
    show _ = latestRole [⟨"7", "alice", "owner", false⟩] "7" pubkey
    by_cases same : "alice" = pubkey <;> simp [listedMembers, latestRole, same, Bucket.get_put]
  · rintro member ⟨⟩ rows ⟨⟩ pubkey other
    change "bob" ≠ pubkey at other
    show _ = latestRole [⟨"7", "alice", "owner", false⟩, ⟨"7", "bob", "admin", false⟩] "7" pubkey
    by_cases same : "alice" = pubkey <;> simp [listedMembers, latestRole, same, other, Bucket.get_put]

/-- The only member event makes alice a member. The repository has a row of mallory that no event
backs, so that mallory is a member too, with the permission of an owner. -/
theorem unbacked_row_becomes_member :
    let event : MemberEvent := ⟨"viewer", 7, "alice", "org-member"⟩
    let trust := (handleEncryptedMemberEvent plainDecoders ⟨∅, ∅⟩ event (.listed [("mallory", "owner")])).1
    let changes := changesOf plainDecoders [⟨event, .unconfigured⟩]
    latestRole changes "7" "mallory" = none ∧
      (trust.relayMembersFor "7").get "mallory" = some "owner" ∧
      trust.hasPermission (fun role _ => role == "owner") "7" "mallory" "services:write" = true := by
  decide +kernel

end Bahia.Controlplane
