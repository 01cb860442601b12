import Bahia.Outbox.IndexExactness

/-! The newest package entry of a coordinate, read off one seek in the coordinate index. -/

namespace Bahia.Localstore
open Foundation Nostr Bucket List

def lastID (key : Bytes) : Option ID :=
  if fits : (key.drop (key.length - 32)).length = 32 then some ⟨key.drop (key.length - 32), fits⟩ else none

variable (tx : Outbox) (target : String) (kind : Kind) (author : PubKey) (d : String)

def Outbox.latestByCoordinate : Except String (Option OutboxEntry) :=
  let start := outboxCoordinatePrefix target kind author d
  let failed (text : String) : Except String (Option OutboxEntry) :=
    .error ("read outbox coordinate " ++ toString kind.val ++ ":" ++ d ++ ": " ++ text)
  match tx.coordinates.seek start with
  | none => .ok none
  | some key =>
    if !start.isPrefixOf key then .ok none
    else
      match (lastID key).bind tx.entries.get with
      | none => failed "outbox coordinate index references a missing event"
      | some entry =>
        if outboxCoordinateKey entry.target entry.event = some key then .ok (some entry)
        else failed "outbox coordinate index does not match its event"

structure OnCoordinate (entry : OutboxEntry) : Prop where
  stored : tx.entries.get entry.event.id = some entry
  package : Kind.isAddressable kind = true ∧ hasPrefix d "artifact:sbom-package:" = true
  named : entry.target = target ∧ entry.event.kind = kind ∧ entry.event.pubKey = author ∧
    Tags.getD entry.event.tags = d

/-- The answer is the newest entry of the coordinate, of two in one second the one with the lower id,
or that there is none. -/
def LatestExact : Prop :=
  (tx.latestByCoordinate target kind author d = .ok none ∧
    ∀ entry, ¬ OnCoordinate tx target kind author d entry) ∨
  ∃ entry, tx.latestByCoordinate target kind author d = .ok (some entry) ∧
    OnCoordinate tx target kind author d entry ∧
    ∀ other, OnCoordinate tx target kind author d other →
      other.event.createdAt < entry.event.createdAt ∨
        other.event.createdAt = entry.event.createdAt ∧ entry.event.id ≤ other.event.id

/-- What orders the keys of one coordinate. -/
def versionKey (event : Event) : Bytes :=
  bigEndian 8 (2 ^ 64 - 1 - event.createdAt.toUint64) ++ event.id.val

variable {tx target kind author d} {event : Event} {key : Bytes}

theorem coordinateKey_some_iff : outboxCoordinateKey target event = some key ↔
    (Kind.isAddressable event.kind = true ∧
      hasPrefix (Tags.getD event.tags) "artifact:sbom-package:" = true) ∧
    outboxCoordinatePrefix target event.kind event.pubKey (Tags.getD event.tags) ++ versionKey event =
      key := by
  unfold outboxCoordinateKey versionKey
  cases Kind.isAddressable event.kind <;>
    cases hasPrefix (Tags.getD event.tags) "artifact:sbom-package:" <;> simp

/-- No coordinate starts the keys of another, as long as the lengths fit their four bytes. -/
theorem coordinatePrefix_injective (fits : target.utf8ByteSize < 2 ^ 32 ∧ d.utf8ByteSize < 2 ^ 32)
    (fits' : target'.utf8ByteSize < 2 ^ 32 ∧ d'.utf8ByteSize < 2 ^ 32)
    (same : outboxCoordinatePrefix target kind author d ++ rest =
      outboxCoordinatePrefix target' kind' author' d' ++ rest') :
    target' = target ∧ kind' = kind ∧ author' = author ∧ d' = d := by
  have sized {first second : String} {more more' : Bytes} (fits : first.utf8ByteSize < 2 ^ 32)
      (fits' : second.utf8ByteSize < 2 ^ 32)
      (same : bigEndian 4 (first.utf8ByteSize % 2 ^ 32) ++ (utf8 first ++ more) =
        bigEndian 4 (second.utf8ByteSize % 2 ^ 32) ++ (utf8 second ++ more')) :
      second = first ∧ more = more' := by
    obtain ⟨sizes, same⟩ := append_inj same (by simp)
    rw [Nat.mod_eq_of_lt fits, Nat.mod_eq_of_lt fits'] at sizes
    obtain ⟨texts, rest⟩ := append_inj same (by
      rw [utf8_length, utf8_length, bigEndian_injective fits fits' sizes])
    exact ⟨(utf8_injective texts).symm, rest⟩
  simp only [outboxCoordinatePrefix, append_assoc] at same
  obtain ⟨targets, same⟩ := sized fits.1 fits'.1 same
  obtain ⟨kinds, same⟩ := append_inj same (by simp)
  obtain ⟨authors, same⟩ := append_inj same (by rw [author.2, author'.2])
  have small (kind : Kind) : kind.val < 256 ^ 4 := kind.2.trans (by decide)
  exact ⟨targets, Fin.ext (bigEndian_injective (small _) (small _) kinds.symm),
    Subtype.ext authors.symm, (sized fits.2 fits'.2 same).1⟩

theorem not_versionKey_lt (dated : 0 ≤ first.createdAt.val) (dated' : 0 ≤ second.createdAt.val)
    (first' : ¬ versionKey second < versionKey first) :
    second.createdAt < first.createdAt ∨ second.createdAt = first.createdAt ∧ first.id ≤ second.id := by
  have bound := first.createdAt.toUint64_lt
  have bound' := second.createdAt.toUint64_lt
  have value := SInt64.toUint64_of_nonneg dated
  have value' := SInt64.toUint64_of_nonneg dated'
  rw [versionKey, versionKey, append_lt_append_iff (by simp),
    bigEndian_lt_iff (by omega) (by omega)] at first'
  rcases lt_trichotomy second.createdAt.val first.createdAt.val with older | same | newer
  · exact .inl older
  · have equal : second.createdAt = first.createdAt := SInt64.val_injective same
    exact .inr ⟨equal, not_lt.mp fun lower => first' (.inr ⟨by rw [equal], lower⟩)⟩
  · exact absurd (.inl (by omega)) first'

theorem lastID_append (head : Bytes) (id : ID) : lastID (head ++ id.val) = some id := by
  have tail : (head ++ id.val).drop ((head ++ id.val).length - 32) = id.val := by
    rw [length_append, id.2, Nat.add_sub_cancel, drop_left]
  simp only [lastID, tail, id.2, dif_pos]

/-- Where the index is exact, the seek finds the newest entry of the coordinate. -/
theorem Indexed.latest (indexed : Indexed tx) (short : ∀ key ∈ tx.coordinates, key.length ≤ 32768)
    (dated : ∀ entry, OnCoordinate tx target kind author d entry → 0 ≤ entry.event.createdAt.val) :
    LatestExact tx target kind author d := by
  obtain ⟨start, named⟩ : ∃ start, outboxCoordinatePrefix target kind author d = start := ⟨_, rfl⟩
  have listed : ∀ entry, OnCoordinate tx target kind author d entry →
      start ++ versionKey entry.event ∈ tx.coordinates := by
    rintro entry ⟨stored, package, rfl, rfl, rfl, rfl⟩
    exact (indexed.coordinates_iff _).mpr
      (.inr ⟨_, entry, stored, coordinateKey_some_iff.mpr ⟨package, by rw [named]⟩⟩)
  have later (rest : Bytes) : ¬ start ++ rest < start := by
    have compared : start ++ rest < start ++ [] ↔ _ := append_lt_append_iff rfl
    simpa using compared
  simp only [LatestExact, Outbox.latestByCoordinate, named]
  cases sought : tx.coordinates.seek start with
  | none => exact .inl ⟨rfl, fun entry on => later _ (seek_none sought _ (listed entry on))⟩
  | some key =>
    obtain ⟨held, reached, first⟩ := seek_some sought
    cases starts : start.isPrefixOf key with
    | false =>
      refine .inl ⟨by simp [starts], fun entry on => ?_⟩
      have between := prefix_of_between (prefix_refl _) (prefix_append _ _) reached
        (first _ (listed entry on) (later _))
      rw [← List.isPrefixOf_iff_prefix, starts] at between
      cases between
    | true =>
      obtain ⟨rest, rfl⟩ := List.isPrefixOf_iff_prefix.mp starts
      have size := short _ held
      rcases (indexed.coordinates_iff _).mp held with ready | ⟨id, entry, stored, made⟩
      · have length := congrArg List.length ready
        have marker : outboxCoordinatesReady.length = 11 := by decide
        simp [← named, outboxCoordinatePrefix, author.2] at length
        omega
      · obtain ⟨package, shape⟩ := coordinateKey_some_iff.mp made
        have sizes := congrArg List.length shape
        simp only [← named, outboxCoordinatePrefix, length_append, bigEndian_length, utf8_length]
          at size sizes
        obtain ⟨rfl, rfl, rfl, rfl⟩ := coordinatePrefix_injective
          ⟨by omega, by omega⟩ ⟨by omega, by omega⟩ (named ▸ shape.symm)
        cases append_cancel_left (named ▸ shape)
        have own := indexed.named id entry stored
        subst own
        have on : OnCoordinate tx entry.target entry.event.kind entry.event.pubKey
          (Tags.getD entry.event.tags) entry := ⟨stored, package, rfl, rfl, rfl, rfl⟩
        refine .inr ⟨entry, ?_, on, fun other also => ?_⟩
        · have found : (lastID (start ++ versionKey entry.event)).bind tx.entries.get = some entry := by
            rw [versionKey, ← append_assoc, lastID_append]
            exact stored
          simp [starts, found, made]
        · refine not_versionKey_lt (dated _ on) (dated _ also) fun less => ?_
          exact first _ (listed other also) (later _) ((append_lt_append_iff rfl).mpr (.inr ⟨rfl, less⟩))

/-- In a run that admits no backup run on a package coordinate, the newest entry is found, as long as
the index has no key that its store would refuse for its length. -/
theorem run_latest_exact (checks : Checks) (calls : List Call) {final : Outbox}
    (plain : ∀ call ∈ calls, call.admitsPackageRun = false)
    (executed : run checks.step Outbox.fresh calls = some final)
    (short : ∀ key ∈ final.coordinates, key.length ≤ 32768)
    (dated : ∀ entry, OnCoordinate final target kind author d entry → 0 ≤ entry.event.createdAt.val) :
    LatestExact final target kind author d := by
  have keeps : ∀ tx call next, Indexed tx → call.admitsPackageRun = false →
      checks.step tx call = some next → Indexed next := fun _ _ _ => step_indexed checks
  exact (run_invariant keeps indexed_fresh (along_of_forall plain) executed).latest short dated

def packageVersion (id : Byte) (createdAt : SInt64) : OutboxEntry :=
  { packageRunEntry with event := { packageRunEvent with id := FixedBytes.ofByte 31 id, createdAt } }

/-- An older version comes last, and of two versions in one second the lower id does not come first. -/
def packageVersions : List Call :=
  [packageVersion 6 1700000020, packageVersion 5 1700000020, packageVersion 4 1700000010].map
    fun entry => { packageRunCall with operation := .enqueue entry }

theorem run_latest_exact_enqueued :
    ∃ final, run Checks.trusting.step Outbox.fresh packageVersions = some final ∧
      final.entries.keys.length = 3 ∧
      (final.latestByCoordinate "control" casControlState packageRunEvent.pubKey
        "artifact:sbom-package:a").toOption.join.map (·.event.id) = some (FixedBytes.ofByte 31 5) ∧
      LatestExact final "control" casControlState packageRunEvent.pubKey "artifact:sbom-package:a" := by
  have executed : run Checks.trusting.step Outbox.fresh packageVersions =
      some (packageVersions.foldl Checks.trusting.after Outbox.fresh) := rfl
  have read : (packageVersions.foldl Checks.trusting.after Outbox.fresh).entries.keys.length = 3 ∧
      ((packageVersions.foldl Checks.trusting.after Outbox.fresh).latestByCoordinate "control"
        casControlState packageRunEvent.pubKey "artifact:sbom-package:a").toOption.join.map
          (·.event.id) = some (FixedBytes.ofByte 31 5) := by decide +kernel
  have short : ∀ key ∈ (packageVersions.foldl Checks.trusting.after Outbox.fresh).coordinates.keys,
      key.length ≤ 32768 := by decide +kernel
  have dated : ∀ entry ∈ (packageVersions.foldl Checks.trusting.after Outbox.fresh).entries.values,
      0 ≤ entry.event.createdAt.val := by decide +kernel
  generalize packageVersions.foldl Checks.trusting.after Outbox.fresh = final at executed read short dated
  refine ⟨final, executed, read.1, read.2, run_latest_exact .trusting packageVersions ?_ executed ?_ ?_⟩
  · decide +kernel
  · exact fun key held => short key (mem_keys.mpr held)
  · exact fun entry on => dated entry (mem_values.mpr ⟨_, on.stored⟩)

/-- The admission of a run on a package coordinate stores an entry that is not found. -/
theorem package_run_not_latest :
    ∃ final, run Checks.trusting.step Outbox.fresh [packageRunCall] = some final ∧
      OnCoordinate final "control" casControlState packageRunEvent.pubKey "artifact:sbom-package:a"
        packageRunEntry ∧
      final.latestByCoordinate "control" casControlState packageRunEvent.pubKey
        "artifact:sbom-package:a" = .ok none :=
  ⟨_, rfl, ⟨rfl, by decide, by decide⟩, by rfl⟩

end Bahia.Localstore
