import Bahia.Dnsagent.Engine

/-! Whose file an application of a zone can change. -/

namespace Bahia.Dnsagent
open Foundation
variable {unicode : Unicode}

def Engine.zoneFile (unicode : Unicode) (engine : Engine) (zoneName : String) : String :=
  Engine.includePath unicode engine.includeDir engine.filePrefix zoneName

namespace Engine
variable {engine : Engine}

variable {zone : DNSZone} {records : List DNSRecord} {attempt : Attempt}
  {after : Files}

theorem zonePath_eq (found : engine.zonePath unicode name = .ok path) :
    path = engine.zoneFile unicode name := by
  unfold zonePath requiredIncludeDir at found
  simp only [bind_ok_iff, refuse_ok_iff, pure_ok_iff] at found
  obtain ⟨_, ⟨_, _, rfl⟩, _, _, _, _, rfl⟩ := found
  rw [zoneFile, includePath, includePath, sanitizeFileName_trimSpace]

/-- Reading a zone looks at the file that applying it writes, though one of them puts the name in
normal form first. -/
theorem zoneFile_normalize (name : String) :
    engine.zoneFile unicode (normalizeDNSZoneName unicode name) = engine.zoneFile unicode name := by
  rw [zoneFile, includePath, sanitizeFileName_normalize]
  rfl

theorem zoneFile_eq_iff (first second : String) :
    engine.zoneFile unicode first = engine.zoneFile unicode second ↔
      sanitizeFileName unicode first = sanitizeFileName unicode second := by
  constructor
  · intro same
    have runes := congrArg String.toList same
    simp only [zoneFile, includePath, String.toList_append, List.append_assoc,
      List.append_cancel_left_eq, List.append_cancel_right_eq] at runes
    exact String.toList_inj.mp runes
  · intro same
    rw [zoneFile, includePath, same]
    rfl

theorem prepare_eq (prepared : engine.prepare unicode zone records attempt = .ok (path, data)) :
    path = engine.zoneFile unicode zone.name ∧ renderZone unicode zone records = .ok data := by
  unfold prepare at prepared
  simp only [bind_ok_iff, refuse_ok_iff, pure_ok_iff, Prod.mk.injEq] at prepared
  obtain ⟨_, _, _, rendered, _, _, _, _, _, found, _, _, _, _, rfl, rfl⟩ := prepared
  exact ⟨zonePath_eq found, rendered⟩

section Files
variable (before : Files) (path : String) (zone : DNSZone) (data : String) (attempt : Attempt)

theorem activate_cases (activated : engine.activate before path zone data attempt = result) :
    (result.2 = Function.update before path (some ⟨data, 0o644⟩) ∧
        (result.1 = .ok () ∨ attempt.restore ≠ none)) ∨ result.1 ≠ .ok () ∧ result.2 = before := by
  have undone : Function.update (Function.update before path (some ⟨data, 0o644⟩)) path (before path) =
      before := by rw [Function.update_idem, Function.update_eq_self]
  have back : ∀ text, restored (Function.update before path (some ⟨data, 0o644⟩)) before path zone
      attempt text = result → (result.2 = Function.update before path (some ⟨data, 0o644⟩) ∧
        (result.1 = .ok () ∨ attempt.restore ≠ none)) ∨ result.1 ≠ .ok () ∧ result.2 = before := by
    rintro text rfl
    unfold restored
    cases attempt.restore with
    | some => exact .inl ⟨rfl, .inr nofun⟩
    | none => exact .inr ⟨nofun, undone⟩
  unfold activate at activated
  split at activated
  · exact back _ activated
  split at activated
  · exact back _ activated
  split at activated
  · subst activated
    exact .inl ⟨rfl, .inl rfl⟩
  split at activated
  · subst activated
    exact .inr ⟨nofun, undone⟩
  · exact back _ activated

end Files

theorem applyZone_succeeds (ready : (engine.prepare unicode zone records attempt).isOk = true)
    (checked : attempt.check = none) (reloaded : attempt.reload = none)
    (able : engine.strategy.isEmpty = false) (files : Files) :
    (engine.applyZone unicode files zone records attempt).1 = .ok () := by
  cases prepared : engine.prepare unicode zone records attempt with
  | error =>
    rw [prepared] at ready
    cases ready
  | ok => simp [applyZone, prepared, activate, checked, reloaded, able]

variable (files : Files) (zone : DNSZone) (records : List DNSRecord) (attempt : Attempt)

theorem applyZone_accepted
    (accepted : (engine.applyZone unicode files zone records attempt).1 = .ok ()) :
    ∃ data, renderZone unicode zone records = .ok data ∧
      (engine.applyZone unicode files zone records attempt).2 =
        Function.update files (engine.zoneFile unicode zone.name) (some ⟨data, 0o644⟩) := by
  unfold applyZone at accepted ⊢
  cases prepared : engine.prepare unicode zone records attempt with
  | error =>
    rw [prepared] at accepted
    cases accepted
  | ok found =>
    obtain ⟨path, data⟩ := found
    obtain ⟨rfl, rendered⟩ := prepare_eq prepared
    rw [prepared] at accepted
    refine ⟨data, rendered, ?_⟩
    rcases activate_cases files _ zone data attempt rfl with ⟨kept, _⟩ | ⟨refused, _⟩
    · exact kept
    · exact absurd accepted refused

/-- `ApplyZone` is all or nothing: an error whose restore succeeds leaves every file as it was, and
success leaves the rendering in the zone's file. -/
theorem applyZone_all_or_nothing :
    let outcome := engine.applyZone unicode files zone records attempt
    (outcome.1 ≠ .ok () → attempt.restore = none → outcome.2 = files) ∧
      (outcome.1 = .ok () → ∃ data, renderZone unicode zone records = .ok data ∧
        outcome.2 (engine.zoneFile unicode zone.name) = some ⟨data, 0o644⟩) := by
  refine ⟨fun failed restores => ?_, fun accepted => ?_⟩
  · unfold applyZone at failed ⊢
    cases prepared : engine.prepare unicode zone records attempt with
    | error => rfl
    | ok found =>
      rw [prepared] at failed
      rcases activate_cases files found.1 zone found.2 attempt rfl with ⟨_, done | stuck⟩ | ⟨_, back⟩
      · exact absurd done failed
      · exact absurd restores stuck
      · exact back
  · obtain ⟨data, rendered, written⟩ := applyZone_accepted files zone records attempt accepted
    exact ⟨data, rendered, by rw [written, Function.update_self]⟩

theorem listZone_congr (same : after (engine.zoneFile unicode zone.name) =
    files (engine.zoneFile unicode zone.name)) (ctx : Nat → Option String)
    (openFailure : Option String) :
    engine.listZone unicode after zone ctx openFailure =
      engine.listZone unicode files zone ctx openFailure := by
  refine bind_congr_ok fun _ _ => bind_congr_ok fun normal checked => bind_congr_ok fun path found => ?_
  have named : normal.name = normalizeDNSZoneName unicode zone.name := by
    unfold validateDNSZone at checked
    simp only [bind_ok_iff, pure_ok_iff] at checked
    obtain ⟨_, _, _, _, _, _, _, _, rfl⟩ := checked
    rfl
  have read : path = engine.zoneFile unicode zone.name := by
    rw [zonePath_eq found, named, zoneFile_normalize]
  rw [read, same]

/-- The zone's file is as before, and so is whatever a listing reads from it. -/
def Undisturbed (unicode : Unicode) (engine : Engine) (before after : Files) (zone : DNSZone) : Prop :=
  after (engine.zoneFile unicode zone.name) = before (engine.zoneFile unicode zone.name) ∧
    ∀ ctx openFailure, engine.listZone unicode after zone ctx openFailure =
      engine.listZone unicode before zone ctx openFailure

theorem undisturbed_iff : Undisturbed unicode engine files after zone ↔
    after (engine.zoneFile unicode zone.name) = files (engine.zoneFile unicode zone.name) :=
  ⟨And.left, fun same => ⟨same, listZone_congr files zone same⟩⟩

end Engine

/-- A zone is isolated from another exactly when their file names differ, unless its file holds what
is applied to the other already. -/
theorem zone_isolated_iff (engine : Engine) (files : Files) (first second : DNSZone)
    (records : List DNSRecord) (attempt : Attempt)
    (accepted : (engine.applyZone unicode files first records attempt).1 = .ok ()) :
    engine.Undisturbed unicode files (engine.applyZone unicode files first records attempt).2 second ↔
      sanitizeFileName unicode first.name ≠ sanitizeFileName unicode second.name ∨
        ∃ data, renderZone unicode first records = .ok data ∧
          files (engine.zoneFile unicode second.name) = some ⟨data, 0o644⟩ := by
  obtain ⟨data, rendered, written⟩ :=
    Engine.applyZone_accepted files first records attempt accepted
  rw [Engine.undisturbed_iff, written]
  by_cases same : sanitizeFileName unicode first.name = sanitizeFileName unicode second.name
  · rw [(Engine.zoneFile_eq_iff first.name second.name).mpr same, Function.update_self]
    constructor
    · intro held
      exact .inr ⟨data, rendered, held.symm⟩
    · rintro (different | ⟨found, again, held⟩)
      · exact absurd same different
      · rw [rendered] at again
        cases again
        exact held.symm
  · have apart : engine.zoneFile unicode second.name ≠ engine.zoneFile unicode first.name := by
      rw [Ne, Engine.zoneFile_eq_iff]
      exact Ne.symm same
    rw [Function.update_of_ne apart]
    exact iff_of_true rfl (.inl same)

def plainEngine : Engine := ⟨"/etc/dnsmasq.d", "bahia-", [], ["systemctl", "reload", "dnsmasq"]⟩

def internalZone (name : String) : DNSZone := ⟨name, .internal, "lan", 60, false⟩

def addressOf (zone host value : String) : DNSRecord :=
  ⟨zone, host, "", .a, value, 60, none, none, none⟩

def appliedTo (engine : Engine) (zone : DNSZone) (records : List DNSRecord) : Files :=
  (engine.applyZone .asciiOnly (fun _ => none) zone records {}).2

theorem zone_isolated_iff_apart :
    let before := appliedTo plainEngine (internalZone "lan") [addressOf "" "printer" "10.0.0.2"]
    let after := plainEngine.applyZone .asciiOnly before (internalZone "lab.home")
      [addressOf "" "nas" "10.0.0.1"] {}
    after.1 = .ok () ∧
      (plainEngine.listZone .asciiOnly before (internalZone "lan") (fun _ => none) none).toOption.map
        (fun listed => listed.records.map (·.fqdn)) = some ["printer.lan"] ∧
      plainEngine.Undisturbed .asciiOnly before after.2 (internalZone "lan") := by
  intro before after
  have accepted : after.1 = .ok () := by decide +kernel
  refine ⟨accepted, by decide +kernel, ?_⟩
  exact (zone_isolated_iff plainEngine before _ _ _ _ accepted).mpr (.inl (by decide +kernel))

/-- Two zones of different names, one of whose file is overwritten when the other is applied. -/
theorem dotted_overwrites_dashed :
    let first := internalZone "lab.home"
    let second := internalZone "lab-home"
    let before : Files := Function.update (fun _ => none) (plainEngine.zoneFile .asciiOnly "lab-home")
      (some ⟨"address=/nas.lab-home/10.0.0.1\n", 0o644⟩)
    let after := plainEngine.applyZone .asciiOnly before first [] {}
    normalizeDNSZoneName .asciiOnly first.name ≠ normalizeDNSZoneName .asciiOnly second.name ∧
      after.1 = .ok () ∧
      (plainEngine.listZone .asciiOnly before second (fun _ => none) none).toOption.map
        (fun listed => listed.records.map (·.fqdn)) = some ["nas.lab-home"] ∧
      (plainEngine.listZone .asciiOnly after.2 second (fun _ => none) none).toOption.map
        (fun listed => listed.records.map (·.fqdn)) = some [] := by
  decide +kernel

end Bahia.Dnsagent
