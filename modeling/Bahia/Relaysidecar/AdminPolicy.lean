import Bahia.Foundation.Bucket
import Bahia.Foundation.Runs
import Bahia.Foundation.Text
import Bahia.Nostr.Event

/-! The relay administrator policy: one persisted state that holds the spent NIP-98
authorisations next to the publishing lists, changed by concurrent calls. -/

namespace Bahia.Relaysidecar
open Foundation Nostr Bucket List

structure PubkeyPolicyEntry where
  pubkey : String
  reason : String

structure RelayMetadata where
  name : String
  description : String
  icon : String

structure AppliedCoordinate where
  author : String
  eventID : String
  version : Int

structure AdminPolicyState where
  version : Int
  administrators : List String
  allowedPubkeys : List PubkeyPolicyEntry
  bannedPubkeys : List PubkeyPolicyEntry
  metadata : RelayMetadata
  /-- The spent event ids, with the second until which each is remembered. -/
  usedAuthorizations : Bucket String Int
  appliedConfig : Bucket String AppliedCoordinate

structure ConfigProjection where
  serviceID : String
  policyName : String
  scope : String
  version : Int
  eventID : String
  author : String
  allowedPubkeys : List String
  bannedPubkeys : List String
  relayName : Option String
  relayDescription : Option String
  relayIcon : Option String

/-- The signed events by their ids, which hash the rest of the event, and the check that a
hexadecimal text is a point of the curve. -/
structure Sidecar where
  event : ID → Event
  named : ∀ id, (event id).id = id
  pubKeyFromHex : String → Bool

/-- The policy file, and the state behind the lock of the process. -/
structure AdminPolicy where
  file : AdminPolicyState
  state : AdminPolicyState

/-- How a write of the policy file ends. A failure after the rename leaves the new file. -/
inductive Persisted
  | written
  | failed (cause : String) (renamed : Bool)

def second : Int := 1000000000

def nip98Window : Int := 60 * second

def unix (reading : Int) : Int := reading / second

def AdminPolicyState.unexpired (state : AdminPolicyState) (now : Int) : Bucket String Int :=
  state.usedAuthorizations.filter fun expires => !decide (expires < unix (now - nip98Window))

namespace AdminPolicy

def persist (policy : AdminPolicy) (next : AdminPolicyState) (doing : String) :
    Persisted → AdminPolicy × Except String Unit
  | .written => ({ policy with file := next, state := next }, .ok ())
  | .failed cause renamed =>
    ({ policy with file := if renamed then next else policy.file },
      .error (doing ++ ": " ++ cause))

def inWindow (now : Int) (event : Event) : Bool :=
  !(decide (event.createdAt.val * second < now - nip98Window) ||
    decide (now + nip98Window < event.createdAt.val * second))

/-- The part of an authorisation under the lock; `now` was read before it. -/
def authorize (policy : AdminPolicy) (now : Int) (event : Event) (outcome : Persisted) :
    AdminPolicy × Except String Unit :=
  if !policy.state.administrators.contains (PubKey.hex event.pubKey) then
    (policy, .error "NIP-98 signer is not in the persisted administrator allowlist")
  else
    let used := policy.state.unexpired now
    if (used.get (ID.hex event.id)).isSome then
      (policy, .error "NIP-98 authorization event was already used")
    else
      policy.persist
        { policy.state with
          usedAuthorizations := used.put (ID.hex event.id) (unix (now + nip98Window)) }
        "persist NIP-98 replay state" outcome

def upsertPubkey (entries : List PubkeyPolicyEntry) (pubkey reason : String) :
    List PubkeyPolicyEntry :=
  match entries.findIdx? (·.pubkey == pubkey) with
  | some index => entries.modify index fun entry => { entry with reason := trimSpace reason }
  | none =>
    (entries ++ [PubkeyPolicyEntry.mk pubkey (trimSpace reason)]).mergeSort fun first second =>
      decide (first.pubkey ≤ second.pubkey)

def removePubkey (entries : List PubkeyPolicyEntry) (pubkey : String) : List PubkeyPolicyEntry :=
  entries.filter (·.pubkey != pubkey)

def mutatePubkey (policy : AdminPolicy) (pubkey : PubKey) (reason : String) (allow : Bool)
    (outcome : Persisted) : AdminPolicy × Except String Unit :=
  let value := PubKey.hex pubkey
  let next :=
    if allow then
      { policy.state with
        allowedPubkeys := upsertPubkey policy.state.allowedPubkeys value reason
        bannedPubkeys := removePubkey policy.state.bannedPubkeys value }
    else
      { policy.state with
        bannedPubkeys := upsertPubkey policy.state.bannedPubkeys value reason
        allowedPubkeys := removePubkey policy.state.allowedPubkeys value }
  policy.persist next "persist relay pubkey policy" outcome

def changeMetadata (policy : AdminPolicy) (update : RelayMetadata → RelayMetadata)
    (outcome : Persisted) : AdminPolicy × Except String Unit :=
  policy.persist { policy.state with metadata := update policy.state.metadata }
    "persist relay metadata" outcome

def projected (state : AdminPolicyState) (projection : ConfigProjection) : AdminPolicyState :=
  if projection.policyName = "membership" then
    { state with
      allowedPubkeys := projection.allowedPubkeys.map (⟨·, "config-fabric membership"⟩) }
  else
    { state with
      allowedPubkeys := projection.allowedPubkeys.map (⟨·, "config-fabric relay policy"⟩)
      bannedPubkeys := projection.bannedPubkeys.map (⟨·, "config-fabric relay policy"⟩)
      metadata :=
        { name := projection.relayName.getD state.metadata.name
          description := projection.relayDescription.getD state.metadata.description
          icon := projection.relayIcon.getD state.metadata.icon } }

def applyConfigProjection (policy : AdminPolicy) (projection : ConfigProjection)
    (outcome : Persisted) : AdminPolicy × Except String Unit :=
  let coordinate := projection.author ++ "\x00" ++ projection.serviceID ++ "\x00" ++
    projection.scope ++ "\x00" ++ projection.policyName
  let next := projected policy.state projection
  policy.persist
    { next with
      appliedConfig := next.appliedConfig.put coordinate
        ⟨projection.author, projection.eventID, projection.version⟩ }
    "persist config-fabric relay policy" outcome

end AdminPolicy

namespace Sidecar
variable (sidecar : Sidecar)

def normalizePubkeys (values : List String) : Except String (List String) := do
  let out ← values.foldlM (fun out value =>
    let value := toLower (trimSpace value)
    if value = "" || out.contains value then pure out
    else if sidecar.pubKeyFromHex value then pure (out ++ [value])
    else .error ("pubkey " ++ quote value ++ " must be 64 hex characters")) []
  pure (out.mergeSort fun first second => decide (first ≤ second))

def validateAdminPolicyState (state : AdminPolicyState) : Except String AdminPolicyState :=
  if state.version ≠ 1 then .error ("unsupported policy version " ++ toString state.version)
  else
    match sidecar.normalizePubkeys state.administrators with
    | .error cause => .error ("administrators: " ++ cause)
    | .ok admins =>
      match (state.allowedPubkeys ++ state.bannedPubkeys).find? fun entry =>
          !sidecar.pubKeyFromHex entry.pubkey with
      | some entry => .error ("invalid policy pubkey " ++ quote entry.pubkey)
      | none => .ok { state with administrators := admins }

/-- The part of a reload under the lock; `data` was read from the file before it. -/
def reload (policy : AdminPolicy) (data : AdminPolicyState) : AdminPolicy × Except String Unit :=
  match sidecar.validateAdminPolicyState data with
  | .error cause => (policy, .error cause)
  | .ok next => ({ policy with state := next }, .ok ())

def openAdminPolicy (file : AdminPolicyState) : Option AdminPolicy :=
  match sidecar.validateAdminPolicyState file with
  | .error _ => none
  | .ok state => some { file, state }

/-! ### Interleaved calls -/

/-- The process and its calls that wait for the lock. -/
structure System where
  policy : AdminPolicy
  clock : Int
  /-- Authorisations inside the window, with the reading of the clock each started from. -/
  calls : List (ID × Int)
  /-- What each waiting reload read from the file. -/
  reads : List AdminPolicyState
  /-- The readings with which authorisations have taken the lock. -/
  taken : List Int
  /-- The authorised ids, each with its reading. -/
  authorised : List (ID × Int)

inductive Step
  | tick (now : Int)
  | authorizeStart (id : ID)
  | authorize (call : Nat) (outcome : Persisted)
  | mutatePubkey (pubkey : PubKey) (reason : String) (allow : Bool) (outcome : Persisted)
  | changeMetadata (update : RelayMetadata → RelayMetadata) (outcome : Persisted)
  | applyConfigProjection (projection : ConfigProjection) (outcome : Persisted)
  | reloadStart
  | reload (read : Nat)
  | restart

def next (system : System) : Step → Option System
  | .tick now => if system.clock ≤ now then some { system with clock := now } else none
  | .authorizeStart id =>
    some (if AdminPolicy.inWindow system.clock (sidecar.event id) then
      { system with calls := (id, system.clock) :: system.calls } else system)
  | .authorize call outcome =>
    system.calls[call]?.map fun (id, now) =>
      let (policy, answer) := system.policy.authorize now (sidecar.event id) outcome
      { system with
        policy
        calls := system.calls.eraseIdx call
        taken := now :: system.taken
        authorised := if answer.isOk then (id, now) :: system.authorised else system.authorised }
  | .mutatePubkey pubkey reason allow outcome =>
    some { system with policy := (system.policy.mutatePubkey pubkey reason allow outcome).1 }
  | .changeMetadata update outcome =>
    some { system with policy := (system.policy.changeMetadata update outcome).1 }
  | .applyConfigProjection projection outcome =>
    some { system with policy := (system.policy.applyConfigProjection projection outcome).1 }
  | .reloadStart => some { system with reads := system.policy.file :: system.reads }
  | .reload read =>
    system.reads[read]?.map fun data =>
      { system with
        policy := (sidecar.reload system.policy data).1
        reads := system.reads.eraseIdx read }
  | .restart =>
    (sidecar.openAdminPolicy system.policy.file).map fun policy =>
      { system with policy, calls := [], reads := [] }

/-- A reload puts back what the file still holds, and an authorisation gets the lock with a
reading no older than those before it. -/
def Orderly (system : System) : Step → Prop
  | .authorize call _ =>
    ∀ id now, system.calls[call]? = some (id, now) → ∀ earlier ∈ system.taken, earlier ≤ now
  | .reload read => system.reads[read]? = some system.policy.file
  | _ => True

/-! ### Spent ids stay remembered -/

/-- A spent id is still in the map, or has been pruned by a later reading. -/
def Remembered (used : Bucket String Int) (taken : List Int) (spent : ID × Int) : Prop :=
  used.get (ID.hex spent.1) = some (unix (spent.2 + nip98Window)) ∨
    ∃ later ∈ taken, unix (spent.2 + nip98Window) < unix (later - nip98Window)

/-- The maps of spent ids that the process and its file hold. -/
def copies (policy : AdminPolicy) : List (Bucket String Int) :=
  [policy.state.usedAuthorizations, policy.file.usedAuthorizations]

structure Recorded (system : System) : Prop where
  copies : ∀ used ∈ copies system.policy, ∀ spent ∈ system.authorised,
    Remembered used system.taken spent
  calls : ∀ call ∈ system.calls, AdminPolicy.inWindow call.2 (sidecar.event call.1) = true
  early : ∀ spent ∈ system.authorised,
    (sidecar.event spent.1).createdAt.val * second ≤ spent.2 + nip98Window
  once : (system.authorised.map Prod.fst).Nodup

variable {sidecar} {system after : System} {taken : List Int} {id : ID}

theorem unix_mono (ordered : first ≤ later) : unix first ≤ unix later :=
  Int.ediv_le_ediv (by decide) ordered

theorem inWindow_iff {event : Event} :
    AdminPolicy.inWindow now event = true ↔
      now - nip98Window ≤ event.createdAt.val * second ∧
        event.createdAt.val * second ≤ now + nip98Window := by
  simp [AdminPolicy.inWindow]

theorem Remembered.held (kept : Remembered used taken (id, first))
    (ordered : ∀ earlier ∈ taken, earlier ≤ now)
    (early : (sidecar.event id).createdAt.val * second ≤ first + nip98Window)
    (inside : now - nip98Window ≤ (sidecar.event id).createdAt.val * second) :
    used.get (ID.hex id) = some (unix (first + nip98Window)) ∧
      unix (now - nip98Window) ≤ unix (first + nip98Window) := by
  have fresh := unix_mono (inside.trans early)
  rcases kept with found | ⟨later, member, pruned⟩
  · exact ⟨found, fresh⟩
  · have recent := unix_mono (Int.sub_le_sub_right (ordered later member) nip98Window)
    exact absurd (pruned.trans_le recent) (Int.not_lt.mpr fresh)

theorem Remembered.prune {state : AdminPolicyState}
    (kept : Remembered state.usedAuthorizations taken spent) (now expires : Int)
    (other : spent.1 ≠ id) :
    Remembered ((state.unexpired now).put (ID.hex id) expires) (now :: taken) spent := by
  rcases kept with found | ⟨later, member, pruned⟩
  · by_cases stale : unix (spent.2 + nip98Window) < unix (now - nip98Window)
    · exact .inr ⟨now, mem_cons_self, stale⟩
    left
    rw [get_put_of_ne _ fun same => other (ID.hex_injective same).symm,
      AdminPolicyState.unexpired, get_filter, found]
    simp [stale]
  · exact .inr ⟨later, mem_cons_of_mem _ member, pruned⟩

theorem Remembered.later (kept : Remembered used taken spent) (now : Int) :
    Remembered used (now :: taken) spent := by
  rcases kept with found | ⟨later, member, pruned⟩
  · exact .inl found
  · exact .inr ⟨later, mem_cons_of_mem _ member, pruned⟩

theorem copies_persist (policy : AdminPolicy) (state : AdminPolicyState) (doing : String)
    (outcome : Persisted) :
    copies (policy.persist state doing outcome).1 ⊆ state.usedAuthorizations :: copies policy := by
  cases outcome with
  | written => simp [AdminPolicy.persist, copies]
  | failed cause renamed => cases renamed <;> simp [AdminPolicy.persist, copies]

theorem Recorded.copied (recorded : Recorded sidecar system)
    (authorised : after.authorised = system.authorised) (taken : after.taken = system.taken)
    (calls : ∀ call ∈ after.calls, AdminPolicy.inWindow call.2 (sidecar.event call.1) = true)
    (copied : Sidecar.copies after.policy ⊆ Sidecar.copies system.policy) :
    Recorded sidecar after := by
  refine ⟨?_, calls, ?_, ?_⟩
  · rw [authorised, taken]
    exact fun used member => recorded.copies used (copied member)
  · rw [authorised]
    exact recorded.early
  · rw [authorised]
    exact recorded.once

theorem persist_copied (recorded : Recorded sidecar system)
    (same : state.usedAuthorizations = system.policy.state.usedAuthorizations) (doing : String)
    (outcome : Persisted) :
    Recorded sidecar { system with policy := (system.policy.persist state doing outcome).1 } := by
  refine recorded.copied rfl rfl recorded.calls fun used member => ?_
  have either := copies_persist _ _ _ _ member
  rw [same] at either
  simpa [copies] using either

theorem projected_used (state : AdminPolicyState) (projection : ConfigProjection) :
    (AdminPolicy.projected state projection).usedAuthorizations = state.usedAuthorizations := by
  unfold AdminPolicy.projected
  split <;> rfl

theorem validate_used (valid : sidecar.validateAdminPolicyState data = .ok state) :
    state.usedAuthorizations = data.usedAuthorizations := by
  unfold validateAdminPolicyState at valid
  split at valid
  · cases valid
  split at valid
  · cases valid
  split at valid
  · cases valid
  · cases Except.ok.inj valid
    rfl

theorem authorize_cases (policy : AdminPolicy) (now : Int) (event : Event) (outcome : Persisted) :
    (∃ text, policy.authorize now event outcome = (policy, .error text)) ∨
      ((policy.state.unexpired now).get (ID.hex event.id) = none ∧
        ∃ next, next.usedAuthorizations =
            (policy.state.unexpired now).put (ID.hex event.id) (unix (now + nip98Window)) ∧
          policy.authorize now event outcome =
            policy.persist next "persist NIP-98 replay state" outcome) := by
  unfold AdminPolicy.authorize
  split
  · exact .inl ⟨_, rfl⟩
  dsimp only
  split
  · exact .inl ⟨_, rfl⟩
  · rename_i unspent
    exact .inr ⟨by simpa using unspent, _, rfl, rfl⟩

/-- An orderly authorisation refuses a spent id and keeps every other one. -/
theorem authorize_recorded (recorded : Recorded sidecar system)
    (waiting : system.calls[call]? = some (id, now))
    (ordered : ∀ earlier ∈ system.taken, earlier ≤ now) (outcome : Persisted)
    (stepped : sidecar.next system (.authorize call outcome) = some after) :
    Recorded sidecar after := by
  obtain ⟨inside, early⟩ := inWindow_iff.mp (recorded.calls _ (mem_of_getElem? waiting))
  have rest : ∀ other ∈ system.calls.eraseIdx call,
      AdminPolicy.inWindow other.2 (sidecar.event other.1) = true :=
    fun other left => recorded.calls other (mem_of_mem_eraseIdx left)
  have older : ∀ used ∈ copies system.policy, ∀ spent ∈ system.authorised,
      Remembered used (now :: system.taken) spent :=
    fun used held spent member => (recorded.copies used held spent member).later now
  simp only [next, waiting, Option.map_some, Option.some.injEq] at stepped
  subst stepped
  rcases authorize_cases system.policy now (sidecar.event id) outcome with
    ⟨text, refused⟩ | ⟨unspent, state, used, authorised⟩
  · rw [refused]
    exact ⟨older, rest, recorded.early, recorded.once⟩
  · rw [sidecar.named] at unspent used
    have memory := recorded.copies _ mem_cons_self
    have new : ∀ spent ∈ system.authorised, spent.1 ≠ id := by
      rintro ⟨other, first⟩ spent rfl
      obtain ⟨found, fresh⟩ := (memory _ spent).held ordered (recorded.early _ spent) inside
      simp [AdminPolicyState.unexpired, get_filter, found, Int.not_lt.mpr fresh] at unspent
    have pruned : ∀ spent ∈ system.authorised,
        Remembered state.usedAuthorizations (now :: system.taken) spent := by
      intro spent member
      rw [used]
      exact (memory spent member).prune now _ (new spent member)
    rw [authorised]
    cases outcome with
    | failed =>
      refine ⟨fun copy held => ?_, rest, recorded.early, recorded.once⟩
      rcases mem_cons.mp (copies_persist _ _ _ _ held) with same | old
      · exact same ▸ pruned
      · exact older copy old
    | written =>
      have own : Remembered state.usedAuthorizations (now :: system.taken) (id, now) :=
        .inl (by rw [used, get_put_self])
      have all := forall_mem_cons.mpr ⟨own, pruned⟩
      have absent : id ∉ system.authorised.map Prod.fst := by
        intro listed
        obtain ⟨spent, member, same⟩ := mem_map.mp listed
        exact new spent member same
      refine ⟨?_, rest, forall_mem_cons.mpr ⟨early, recorded.early⟩,
        nodup_cons.mpr ⟨absent, recorded.once⟩⟩
      exact forall_mem_cons.mpr ⟨all, forall_mem_cons.mpr ⟨all, nofun⟩⟩

theorem next_recorded (recorded : Recorded sidecar system) (step : Step)
    (orderly : Orderly system step) (taken : sidecar.next system step = some after) :
    Recorded sidecar after := by
  cases step with
  | tick =>
    obtain ⟨_, same⟩ := Option.ite_none_right_eq_some.mp taken
    cases Option.some.inj same
    exact recorded.copied rfl rfl recorded.calls (List.Subset.refl _)
  | authorizeStart =>
    cases Option.some.inj taken
    split
    · rename_i inside
      exact recorded.copied rfl rfl (forall_mem_cons.mpr ⟨inside, recorded.calls⟩)
        (List.Subset.refl _)
    · exact recorded
  | authorize call outcome =>
    cases waiting : system.calls[call]? with
    | none => simp [next, waiting] at taken
    | some => exact authorize_recorded recorded waiting (orderly _ _ waiting) outcome taken
  | mutatePubkey pubkey reason allow outcome =>
    cases Option.some.inj taken
    refine persist_copied recorded ?_ _ outcome
    split <;> rfl
  | changeMetadata update outcome =>
    cases Option.some.inj taken
    refine persist_copied recorded ?_ _ outcome
    rfl
  | applyConfigProjection projection outcome =>
    cases Option.some.inj taken
    refine persist_copied recorded ?_ _ outcome
    exact projected_used _ projection
  | reloadStart =>
    cases Option.some.inj taken
    exact recorded.copied rfl rfl recorded.calls (List.Subset.refl _)
  | reload read =>
    have waiting : system.reads[read]? = some system.policy.file := orderly
    simp only [next, waiting, Option.map_some, Option.some.injEq] at taken
    subst taken
    unfold reload
    split
    · exact recorded.copied rfl rfl recorded.calls (List.Subset.refl _)
    · rename_i valid
      exact recorded.copied rfl rfl recorded.calls (by simp [copies, validate_used valid])
  | restart =>
    obtain ⟨policy, opened, rfl⟩ := Option.map_eq_some_iff.mp taken
    unfold openAdminPolicy at opened
    split at opened
    · cases opened
    rename_i valid
    cases Option.some.inj opened
    exact recorded.copied rfl rfl nofun (by simp [copies, validate_used valid])

def started (policy : AdminPolicy) (clock : Int) : System where
  policy
  clock
  calls := []
  reads := []
  taken := []
  authorised := []

/-- In an orderly run no event id is authorised twice. -/
theorem authorised_once {policy : AdminPolicy} {clock : Int} {steps : List Step}
    (orderly : Along sidecar.next Orderly (started policy clock) steps)
    (reached : run sidecar.next (started policy clock) steps = some after) :
    (after.authorised.map Prod.fst).Nodup := by
  have fresh : Recorded sidecar (started policy clock) := by
    refine ⟨?_, ?_, ?_, nodup_nil⟩ <;> simp [started]
  have keeps : ∀ system step after, Recorded sidecar system → Orderly system step →
      sidecar.next system step = some after → Recorded sidecar after :=
    fun _ step _ recorded orderly taken => next_recorded recorded step orderly taken
  exact (run_invariant keeps fresh orderly reached).once

/-- Every id names an event of one administrator, made at the epoch. -/
def epochEvents : Sidecar where
  event id := ⟨id, FixedBytes.zero 32, 0, 27235, [], "", FixedBytes.zero 64⟩
  named _ := rfl
  pubKeyFromHex _ := true

def seededPolicy : AdminPolicy :=
  let state : AdminPolicyState :=
    ⟨1, [PubKey.hex (FixedBytes.zero 32)], [], [], ⟨"Bahia Relay Sidecar", "", ""⟩, ∅, ∅⟩
  ⟨state, state⟩

/-- The event comes again after its authorisation was read back from the file, and is refused. -/
theorem authorised_once_after_reload :
    ∃ after, run epochEvents.next (started seededPolicy 0)
        [.authorizeStart zeroID, .authorize 0 .written, .reloadStart, .reload 0,
          .authorizeStart zeroID, .authorize 0 .written] = some after ∧
      after.authorised = [(zeroID, 0)] ∧ after.taken = [0, 0] ∧
      (after.authorised.map Prod.fst).Nodup := by
  have evaluated : (run epochEvents.next (started seededPolicy 0)
      [.authorizeStart zeroID, .authorize 0 .written, .reloadStart, .reload 0,
        .authorizeStart zeroID, .authorize 0 .written]).map
          (fun after => (after.authorised, after.taken)) = some ([(zeroID, 0)], [0, 0]) := by
    decide +kernel
  obtain ⟨after, reached, shown⟩ := Option.map_eq_some_iff.mp evaluated
  obtain ⟨authorised, taken⟩ := Prod.mk.inj shown
  refine ⟨after, reached, authorised, taken, authorised_once ?_ reached⟩
  refine ⟨trivial, fun _ taken => ?_⟩
  cases Option.some.inj taken
  refine ⟨fun _ _ _ _ none => (nomatch none), fun _ taken => ?_⟩
  cases Option.some.inj taken
  refine ⟨trivial, fun _ taken => ?_⟩
  cases Option.some.inj taken
  refine ⟨rfl, fun _ taken => ?_⟩
  cases Option.some.inj taken
  refine ⟨trivial, fun _ taken => ?_⟩
  cases Option.some.inj taken
  refine ⟨fun _ _ waiting earlier before => ?_, fun _ _ => trivial⟩
  cases Option.some.inj waiting
  exact (mem_singleton.mp before).le

/-- A reload that read the file before an authorisation puts back a state without it, and the
same event is authorised again. -/
theorem stale_reload_forgets : ¬ ∀ (sidecar : Sidecar) (policy : AdminPolicy) (clock : Int)
    (steps : List Step) (after : System),
    run sidecar.next (started policy clock) steps = some after →
      (after.authorised.map Prod.fst).Nodup := by
  intro claimed
  have twice : (run epochEvents.next (started seededPolicy 0)
      [.reloadStart, .authorizeStart zeroID, .authorize 0 .written, .reload 0,
        .authorizeStart zeroID, .authorize 0 .written]).map (·.authorised.map Prod.fst) =
      some [zeroID, zeroID] := by decide +kernel
  obtain ⟨after, reached, same⟩ := Option.map_eq_some_iff.mp twice
  have once := claimed _ _ _ _ after reached
  rw [same] at once
  exact absurd once (by decide)

end Sidecar

end Bahia.Relaysidecar
