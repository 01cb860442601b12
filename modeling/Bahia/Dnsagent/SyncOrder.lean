import Bahia.Foundation.Latest
import Bahia.Foundation.Versions
import Bahia.Dnsagent.Agent

/-! However the requests for a zone arrive, its file ends as the latest of them wants it. -/

namespace Bahia.Nostrutil
open Foundation

/-- Versions in the order in which they replace each other. -/
def Version.rank (version : Version) : Nostr.Timestamp ×ₗ Stringᵒᵈ :=
  toLex (version.createdAt, OrderDual.toDual version.id)

theorem Version.rank_lt_iff {older newer : Version} :
    older.rank < newer.rank ↔ newer.supersedes older = true := by
  rw [supersedes_iff, rank, rank, Prod.Lex.toLex_lt_toLex, OrderDual.toDual_lt_toDual, eq_comm]

end Bahia.Nostrutil

namespace Bahia.Dnsagent
open Foundation Nostr Nostrutil

/-- The delivery of a valid request for the zone, whose application succeeds. -/
structure Sync (env : Environment) (agent : Agent) (zone : String) extends Delivery where
  params : SyncParams
  admitted : agent.admission env request now = .ok params
  named : params.zone.name = zone
  identified : requestEventID request ≠ ""
  readable : readFailure = none
  applies : ∀ files,
    (agent.engine.applyZone env.unicode files params.zone params.records attempt).1 = .ok ()

/-- The agent looks for a zone's file where its engine puts it. -/
structure Agent.Mirrors (agent : Agent) : Prop where
  dir : agent.includeDir = agent.engine.includeDir
  start : agent.filePrefix = agent.engine.filePrefix

namespace Sync
variable {env : Environment} {agent : Agent} {zone : String}

def id (sync : Sync env agent zone) : String := requestEventID sync.request

def version (sync : Sync env agent zone) : Version := ⟨sync.params.serial, sync.id⟩

def Shown (sync : Sync env agent zone) (files : Files) : Prop :=
  ∃ data, renderZone env.unicode sync.params.zone sync.params.records = .ok data ∧
    (files (agent.engine.zoneFile env.unicode zone)).map (·.data) = some data

structure Applied (sync : Sync env agent zone) (host : Host) : Prop where
  serial : host.state.zoneSerials zone = some sync.params.serial
  id : host.state.zoneRequestIDs zone = sync.id
  shown : sync.Shown host.files

def serve (host : Host) (sync : Sync env agent zone) : Host :=
  (agent.syncHandler env host sync.toDelivery).2

variable (sync : Sync env agent zone) {host : Host}

theorem shown_applyZone (files : Files) : sync.Shown (agent.engine.applyZone env.unicode files
    sync.params.zone sync.params.records sync.attempt).2 := by
  obtain ⟨data, rendered, written⟩ :=
    Engine.applyZone_accepted files sync.params.zone sync.params.records sync.attempt (sync.applies files)
  refine ⟨data, rendered, ?_⟩
  rw [written, sync.named, Function.update_self]
  rfl

theorem applySync_shown (mirrors : agent.Mirrors) (host : Host) :
    ∃ changed files, agent.applySync env host sync.params sync.toDelivery = (.ok changed, files) ∧
      sync.Shown files := by
  obtain ⟨data, rendered, _⟩ := sync.shown_applyZone host.files
  have located : agent.zoneIncludePath env sync.params.zone.name =
      agent.engine.zoneFile env.unicode zone := by
    rw [Agent.zoneIncludePath, mirrors.dir, mirrors.start, sync.named]
    rfl
  have fate : agent.changed env host sync.params sync.readFailure = .ok true ∨
      agent.changed env host sync.params sync.readFailure = .ok false ∧ sync.Shown host.files := by
    unfold Agent.changed
    cases host.state.zoneSerials sync.params.zone.name with
    | none => exact .inl rfl
    | some =>
      rw [located, sync.readable]
      cases held : host.files (agent.engine.zoneFile env.unicode zone) with
      | none => simp [rendered, bind, Except.bind, pure, Except.pure]
      | some file =>
        by_cases same : file.data = data
        · right
          refine ⟨by simp [rendered, refuse, same, bind, Except.bind, pure, Except.pure], data, rendered, ?_⟩
          simp [held, same]
        · left
          simp [rendered, refuse, same, bind, Except.bind, pure, Except.pure]
  unfold Agent.applySync
  rcases fate with write | ⟨keep, shown⟩
  · rw [write]
    refine ⟨true, _, ?_, sync.shown_applyZone host.files⟩
    dsimp only
    rw [sync.applies]
    rfl
  · rw [keep]
    exact ⟨false, host.files, rfl, shown⟩

theorem serve_applied (mirrors : agent.Mirrors)
    (open_ : Agent.settled host.state sync.params sync.id = none) : sync.Applied (sync.serve host) := by
  obtain ⟨changed, files, applied, shown⟩ := sync.applySync_shown mirrors host
  have served : sync.serve host =
      ⟨Agent.record host.state sync.params sync.id sync.appliedAt, files⟩ := by
    unfold serve Agent.syncHandler
    rw [sync.admitted]
    change Agent.settled host.state sync.params (requestEventID sync.request) = none at open_
    simp only [open_, applied]
    cases sync.stateFailure <;> rfl
  rw [served]
  refine ⟨?_, ?_, shown⟩
  · simp [Agent.record, sync.named]
  · simp [Agent.record, sync.named]

theorem serve_settled (known : Agent.settled host.state sync.params sync.id = some result) :
    sync.serve host = host := by
  unfold serve Agent.syncHandler
  rw [sync.admitted]
  change Agent.settled host.state sync.params (requestEventID sync.request) = some result at known
  simp only [known]

theorem settled_iff {best : Sync env agent zone} (applied : best.Applied host) :
    Agent.settled host.state sync.params sync.id = none ↔ best.version.rank < sync.version.rank := by
  have named : (sync.id = "") = False := eq_false sync.identified
  have known : (best.id = "") = False := eq_false best.identified
  rw [Version.rank_lt_iff, Version.supersedes_iff]
  unfold Agent.settled
  simp only [sync.named, applied.serial, applied.id, version, named, known, false_or]
  rcases lt_trichotomy sync.params.serial best.params.serial with less | same | more
  · simp [less, less.le, less.ne']
  · simp [same, Version.supersedes]
  · simp [more, more.ne', not_lt.mpr more.le]

/-- What the deliveries so far leave: the latest of them is applied. -/
def Current (seen : List (Sync env agent zone)) (host : Host) : Prop :=
  ∃ best, Latest (fun sync => sync.version.rank) (· ∈ seen) best ∧ best.Applied host

theorem serve_current (mirrors : agent.Mirrors) (current : Current seen host) :
    Current (seen ++ [sync]) (sync.serve host) := by
  obtain ⟨best, latest, applied⟩ := current
  cases known : Agent.settled host.state sync.params sync.id with
  | none =>
    have above := (sync.settled_iff applied).mp known
    refine ⟨sync, ⟨by simp, ?_⟩, sync.serve_applied mirrors known⟩
    intro other member
    rcases List.mem_append.mp member with before | last
    · exact (latest.highest other before).trans above.le
    · rw [List.mem_singleton.mp last]
  | some =>
    have below : ¬ best.version.rank < sync.version.rank := by
      rw [← sync.settled_iff applied, known]
      exact nofun
    refine ⟨best, ⟨List.mem_append_left _ latest.qualified, ?_⟩, ?_⟩
    · intro other member
      rcases List.mem_append.mp member with before | last
      · exact latest.highest other before
      · rw [List.mem_singleton.mp last]
        exact not_lt.mp below
    · rw [sync.serve_settled known]
      exact applied

theorem first_current (mirrors : agent.Mirrors) (fresh : host.state.zoneSerials zone = none) :
    Current [sync] (sync.serve host) := by
  have known : Agent.settled host.state sync.params sync.id = none := by
    rw [Agent.settled, sync.named, fresh]
  refine ⟨sync, ⟨List.mem_singleton_self sync, ?_⟩, sync.serve_applied mirrors known⟩
  intro other member
  rw [List.mem_singleton.mp member]

theorem foldl_current (mirrors : agent.Mirrors) (current : Current seen host)
    (deliveries : List (Sync env agent zone)) :
    Current (seen ++ deliveries) (deliveries.foldl (fun host sync => sync.serve host) host) := by
  induction deliveries generalizing seen host with
  | nil => rwa [List.append_nil]
  | cons sync rest ih =>
    have longer := ih (sync.serve_current mirrors current)
    rwa [List.append_assoc] at longer

def Rises (host : Host) (sync : Sync env agent zone) : Prop :=
  ∀ before, host.state.zoneSerials zone = some before →
    ∃ after, (sync.serve host).state.zoneSerials zone = some after ∧ before ≤ after

theorem serve_rises (mirrors : agent.Mirrors) : Rises host sync := by
  intro before held
  cases known : Agent.settled host.state sync.params sync.id with
  | none =>
    refine ⟨_, (sync.serve_applied mirrors known).serial, ?_⟩
    by_contra below
    unfold Agent.settled at known
    simp [sync.named, held, not_le.mp below] at known
  | some =>
    rw [sync.serve_settled known]
    exact ⟨before, held, le_rfl⟩

end Sync

variable {env : Environment} {zone : String}

/-- The file of a zone ends as the delivered request with the greatest serial wants it, the one with
the lowest event id among equal serials, and the stored serial never falls on the way. -/
theorem sync_converges (agent : Agent) (mirrors : agent.Mirrors) (host : Host)
    (fresh : host.state.zoneSerials zone = none) (deliveries : List (Sync env agent zone))
    (distinct : ∀ first ∈ deliveries, ∀ second ∈ deliveries,
      first.id = second.id → first.params = second.params) :
    (∀ best, Latest (fun sync => sync.version.rank) (· ∈ deliveries) best →
      best.Shown (deliveries.foldl (fun host sync => sync.serve host) host).files) ∧
      Throughout (fun host sync => Sync.serve host sync) Sync.Rises host deliveries := by
  constructor
  · intro best latest
    cases deliveries with
    | nil => cases latest.qualified
    | cons first rest =>
      obtain ⟨applied, highest, shown⟩ := Sync.foldl_current mirrors
        (first.first_current mirrors fresh) rest
      have same : applied.version.rank = best.version.rank :=
        le_antisymm (latest.highest applied highest.qualified) (highest.highest best latest.qualified)
      have wanted : applied.params = best.params := by
        apply distinct applied highest.qualified best latest.qualified
        exact congrArg (fun rank => OrderDual.ofDual (ofLex rank).2) same
      obtain ⟨data, rendered, held⟩ := shown.shown
      exact ⟨data, by rw [← wanted]; exact rendered, held⟩
  · exact throughout_of_forall (fun _ sync => sync.serve_rises mirrors) host deliveries

/-- Two requests for one zone, named after what they are written as, that want another address. -/
def labParams (text : String) : SyncParams :=
  if text = "second" then ⟨schema, internalZone "lab", [addressOf "" "nas" "10.0.0.2"], 2⟩
  else ⟨schema, internalZone "lab", [addressOf "" "nas" "10.0.0.1"], 1⟩

def labEnvironment : Environment where
  unicode := .asciiOnly
  decodeSync text := .ok (labParams text)

def labAgent : Agent := ⟨plainEngine, plainEngine.includeDir, plainEngine.filePrefix, ["lab"], false⟩

def emptyHost : Host := ⟨⟨fun _ => none, fun _ => "", 0, ""⟩, fun _ => none⟩

def labDelivery (number : Byte) (params : String) : Delivery where
  request := ⟨none, some ⟨FixedBytes.ofByte 31 number, FixedBytes.zero 32, 0, 1059, [], "",
    FixedBytes.zero 64⟩, params⟩
  now := 0

def firstSync : Sync labEnvironment labAgent "lab" where
  toDelivery := labDelivery 1 "first"
  params := labParams "first"
  admitted := by decide +kernel
  named := rfl
  identified := by decide +kernel
  readable := rfl
  applies := Engine.applyZone_succeeds (by decide +kernel) rfl rfl rfl

def secondSync : Sync labEnvironment labAgent "lab" where
  toDelivery := labDelivery 2 "second"
  params := labParams "second"
  admitted := by decide +kernel
  named := rfl
  identified := by decide +kernel
  readable := rfl
  applies := Engine.applyZone_succeeds (by decide +kernel) rfl rfl rfl

theorem sync_converges_reordered :
    let files :=
      ([secondSync, firstSync, secondSync].foldl (fun host sync => sync.serve host) emptyHost).files
    secondSync.Shown files ∧ ¬ firstSync.Shown files := by
  intro files
  have shown : secondSync.Shown files := by
    refine (sync_converges labAgent ⟨rfl, rfl⟩ emptyHost rfl [secondSync, firstSync, secondSync] ?_).1
      secondSync ⟨by simp, ?_⟩
    · have apart : firstSync.id ≠ secondSync.id := by decide +kernel
      simp [apart, apart.symm]
    · have below : firstSync.version.rank ≤ secondSync.version.rank :=
        (Version.rank_lt_iff.mpr (by decide +kernel)).le
      simp [below]
  refine ⟨shown, ?_⟩
  rintro ⟨data, rendered, held⟩
  obtain ⟨other, rendered', held'⟩ := shown
  cases Option.some.inj (held.symm.trans held')
  have apart : (renderZone .asciiOnly firstSync.params.zone firstSync.params.records).toOption ≠
      (renderZone .asciiOnly secondSync.params.zone secondSync.params.records).toOption := by
    decide +kernel
  exact apart (congrArg Except.toOption (rendered.trans rendered'.symm))

end Bahia.Dnsagent
