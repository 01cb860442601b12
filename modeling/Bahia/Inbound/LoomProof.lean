import Bahia.Foundation.Bucket

/-! When the job statuses of a relay count as complete: the proof the consumer keeps for each relay,
over what the sync sessions send it. -/

namespace Bahia.Inbound
open Foundation Bucket

inductive IngestOutcome where
  | rejected
  | failed
  | duplicate
  | new
  deriving DecidableEq

inductive InboundOp where
  | event (hash : String) (outcome : IngestOutcome)
  | begin (hash : String)
  | commit (hash : String)
  | caughtUp (epoch : UInt64)
  | failed
  | gone
  | gaveUp
  deriving DecidableEq

/-- What the consumer's loop takes next: the relays that the pool has now, or an item. -/
inductive LoopStep where
  | startRelays (urls : List String)
  | consume (relay : String) (op : InboundOp)

structure RelayProgress where
  caughtUp : Bool := false
  failed : Bool := false
  epoch : UInt64 := 0
  live : Bucket String Bool := ∅
  liveReady : Bool := false
  dirty : Bool := false
  gaveUp : Bool := false

variable (loomFilters : Finset String)

/-- The progress that `consume` writes back, if it does; the cursors it moves are left out. -/
def RelayProgress.consume (state : RelayProgress) : InboundOp → Option RelayProgress
  | .event hash outcome =>
    if outcome = .failed ∧ hash ∈ loomFilters then
      some { state with dirty := true, liveReady := false }
    else none
  | .begin hash =>
    if hash ∈ loomFilters ∧ state.caughtUp = true then
      some { state with live := state.live.put hash false, liveReady := false }
    else none
  | .commit hash =>
    if hash ∈ state.live ∧ state.caughtUp = true then
      let live := state.live.put hash true
      some { state with
        live
        liveReady := !state.dirty && live.keys.length == loomFilters.card && live.values.all id }
    else none
  | .caughtUp epoch =>
    some { state with caughtUp := true, epoch, failed := false, live := ∅, liveReady := false }
  | .failed =>
    some { state with
      failed := true, caughtUp := false, live := ∅, liveReady := false, dirty := false }
  | .gone => some {}
  | .gaveUp =>
    some { state with failed := true, gaveUp := true, caughtUp := false, liveReady := false }

/-- What a start of the workers keeps of a relay that is not in the pool: one given up on is
forgotten. -/
def RelayProgress.absent (state : RelayProgress) : RelayProgress := if state.gaveUp then {} else state

/-- A relay without an entry has the zero progress. -/
structure LoomState where
  progress : String → RelayProgress := fun _ => {}
  loomProof : String → Option UInt64 := fun _ => none

namespace LoomState

/-- `updateLoomProof`, while the subscriber runs. -/
def updateLoomProof (s : LoomState) (relay : String) (state : RelayProgress) : LoomState :=
  { s with loomProof := Function.update s.loomProof relay <|
      if state.liveReady && !state.failed && !state.gaveUp && !state.dirty then some state.epoch
      else none }

def next (s : LoomState) : LoopStep → LoomState
  | .startRelays urls =>
    { s with progress := fun relay =>
        if relay ∈ urls then s.progress relay else (s.progress relay).absent }
  | .consume relay op =>
    match (s.progress relay).consume loomFilters op with
    | none => s
    | some state =>
      updateLoomProof { s with progress := Function.update s.progress relay state } relay state

def run (steps : List LoopStep) : LoomState := steps.foldl (next loomFilters) {}

end LoomState

open LoomState

/-- What one relay goes through: an item of its worker, or a start of the workers that finds it out of
the pool. -/
inductive Happening where
  | item (op : InboundOp)
  | absent
  deriving DecidableEq

def history (relay : String) (steps : List LoopStep) : List Happening :=
  (steps.filterMap fun
    | .startRelays urls => if relay ∈ urls then none else some .absent
    | .consume other op => if other = relay then some (.item op) else none).reverse

/-- The relay catches up anew, or is lost. -/
def Happening.ends : Happening → Bool
  | item (.caughtUp _) => true
  | item .failed => true
  | item .gone => true
  | item .gaveUp => true
  | _ => false

/-- The worker gave up, and the relay has been neither reported gone nor found out of the pool since. -/
def gaveUp : List Happening → Bool
  | [] => false
  | .item .gaveUp :: _ => true
  | .item .gone :: _ => false
  | .absent :: _ => false
  | _ :: earlier => gaveUp earlier

/-- The relay's session failed, it was reported gone, or it was found out of the pool after its worker
gave up. -/
def renews (earlier : List Happening) : Happening → Bool
  | .item .failed => true
  | .item .gone => true
  | .absent => gaveUp earlier
  | _ => false

def sinceRenewal (renews : List Happening → Happening → Bool) : List Happening → List Happening
  | [] => []
  | step :: earlier => if renews earlier step then [] else step :: sinceRenewal renews earlier

def since (past : List Happening) : List Happening := past.takeWhile fun step => !step.ends

/-- A REQ of the filter was begun and, if `answered`, the latest one has been committed. -/
def Requested (past : List Happening) (hash : String) (answered : Bool) : Prop :=
  .item (.begin hash) ∈ past ∧
    (answered = true → .item (.commit hash) ∈ past.takeWhile (· ≠ .item (.begin hash)))

/-- The status events were stored since the sync was renewed. -/
def StoredSince (renews : List Happening → Happening → Bool) (past : List Happening) : Prop :=
  ∀ hash ∈ loomFilters, .item (.event hash .failed) ∉ sinceRenewal renews past

/-- The relay caught up with this epoch and was not lost since, the live REQ of each status filter
was begun and committed since, and the status events were stored. -/
def Complete (renews : List Happening → Happening → Bool) (past : List Happening) (epoch : UInt64) :
    Prop :=
  (past.dropWhile fun step => !step.ends).head? = some (.item (.caughtUp epoch)) ∧
    (∀ hash ∈ loomFilters, Requested (since past) hash true) ∧ StoredSince loomFilters renews past

/-- What the progress of a relay says about its past. -/
structure Justified (past : List Happening) (state : RelayProgress) : Prop where
  caughtUp : state.caughtUp = true →
    (past.dropWhile fun step => !step.ends).head? = some (.item (.caughtUp state.epoch))
  live : state.caughtUp = true → ∀ hash answered, state.live.get hash = some answered →
    hash ∈ loomFilters ∧ Requested (since past) hash answered
  stored : state.dirty = false → StoredSince loomFilters renews past
  givenUp : state.gaveUp = true → gaveUp past = true
  ready : state.liveReady = true →
    state.caughtUp = true ∧ ∀ hash ∈ loomFilters, state.live.get hash = some true

variable {loomFilters : Finset String} {hash : String}

theorem answered_of_count {live : Bucket String Bool} (known : ∀ hash ∈ live, hash ∈ loomFilters)
    (count : live.keys.length = loomFilters.card) (all : live.values.all id = true) :
    ∀ hash ∈ loomFilters, live.get hash = some true := by
  have filters : live.keys.toFinset = loomFilters := by
    apply Finset.eq_of_subset_of_card_le
    · intro hash member
      exact known hash (Bucket.mem_keys.mp (List.mem_toFinset.mp member))
    · rw [List.toFinset_card_of_nodup live.keys_nodup, count]
  intro hash member
  rw [← filters, List.mem_toFinset, Bucket.mem_keys, Bucket.mem_iff_get] at member
  obtain ⟨answered, found⟩ := member
  have yes := List.all_eq_true.mp all answered (mem_values.mpr ⟨hash, found⟩)
  rw [found, show answered = true from yes]

theorem storedSince_cons (stored : StoredSince loomFilters renews past)
    (fine : ∀ hash ∈ loomFilters, step ≠ .item (.event hash .failed)) :
    StoredSince loomFilters renews (step :: past) := by
  intro hash known member
  rw [sinceRenewal] at member
  split at member
  · cases member
  · rcases List.mem_cons.mp member with same | early
    · exact fine hash known same.symm
    · exact stored hash known early

theorem requested_cons (requested : Requested past hash answered) (other : step ≠ .item (.begin hash)) :
    Requested (step :: past) hash answered := by
  refine ⟨List.mem_cons_of_mem _ requested.1, fun yes => ?_⟩
  rw [List.takeWhile_cons_of_pos (by simpa using other)]
  exact List.mem_cons_of_mem _ (requested.2 yes)

theorem since_cons (lasting : step.ends = false) : since (step :: past) = step :: since past := by
  simp [since, lasting]

namespace Justified

theorem cons (justified : Justified loomFilters past state) (lasting : step.ends = false)
    (begun : ∀ hash ∈ loomFilters, state.caughtUp = true → step ≠ .item (.begin hash))
    (fine : ∀ hash ∈ loomFilters, state.dirty = false → step ≠ .item (.event hash .failed))
    (givenUp : state.gaveUp = true → gaveUp (step :: past) = true) :
    Justified loomFilters (step :: past) state where
  caughtUp caught := by simpa [lasting] using justified.caughtUp caught
  live caught hash answered found := by
    obtain ⟨known, requested⟩ := justified.live caught hash answered found
    rw [since_cons lasting]
    exact ⟨known, requested_cons requested (begun hash known caught)⟩
  stored clean := storedSince_cons (justified.stored clean) fun hash known => fine hash known clean
  givenUp := givenUp
  ready := justified.ready

theorem lost (down : state.caughtUp = false) (unready : state.liveReady = false)
    (stored : state.dirty = false → StoredSince loomFilters renews past)
    (givenUp : state.gaveUp = true → gaveUp past = true) :
    Justified loomFilters past state where
  caughtUp caught := by simp [down] at caught
  live caught := by simp [down] at caught
  stored := stored
  givenUp := givenUp
  ready set := by simp [unready] at set

theorem begin (justified : Justified loomFilters past state) (known : hash ∈ loomFilters) :
    Justified loomFilters (.item (.begin hash) :: past)
      { state with live := state.live.put hash false, liveReady := false } where
  caughtUp := justified.caughtUp
  live caught other answered found := by
    rw [since_cons rfl]
    rcases get_put_cases found with ⟨rfl, rfl⟩ | ⟨different, found⟩
    · exact ⟨known, List.mem_cons_self, nofun⟩
    · obtain ⟨listed, requested⟩ := justified.live caught other answered found
      exact ⟨listed, requested_cons requested (by simp [Ne.symm different])⟩
  stored clean := storedSince_cons (justified.stored clean) (by simp)
  givenUp := justified.givenUp
  ready := nofun

theorem commit (justified : Justified loomFilters past state) (begun : hash ∈ state.live)
    (caught : state.caughtUp = true) :
    let live := state.live.put hash true
    Justified loomFilters (.item (.commit hash) :: past) { state with
      live
      liveReady := !state.dirty && live.keys.length == loomFilters.card && live.values.all id } := by
  have live : ∀ other answered, (state.live.put hash true).get other = some answered →
      other ∈ loomFilters ∧ Requested (since (.item (.commit hash) :: past)) other answered := by
    intro other answered found
    rw [since_cons rfl]
    rcases get_put_cases found with ⟨rfl, rfl⟩ | ⟨_, found⟩
    · obtain ⟨earlier, held⟩ := Bucket.mem_iff_get.mp begun
      obtain ⟨known, requested⟩ := justified.live caught other earlier held
      exact ⟨known, List.mem_cons_of_mem _ requested.1, fun _ => by simp⟩
    · obtain ⟨known, requested⟩ := justified.live caught other answered found
      exact ⟨known, requested_cons requested nofun⟩
  refine ⟨justified.caughtUp, fun _ => live, ?_, justified.givenUp, fun set => ?_⟩
  · exact fun clean => storedSince_cons (justified.stored clean) (by simp)
  · simp only [Bool.and_eq_true, beq_iff_eq] at set
    refine ⟨caught, answered_of_count ?_ set.1.2 set.2⟩
    intro other member
    obtain ⟨answered, found⟩ := Bucket.mem_iff_get.mp member
    exact (live other answered found).1

theorem consume (justified : Justified loomFilters past state) (op : InboundOp) :
    Justified loomFilters (.item op :: past) ((state.consume loomFilters op).getD state) := by
  cases op with
  | event hash outcome =>
    rw [RelayProgress.consume]
    split
    · have dirty : Justified loomFilters past { state with dirty := true, liveReady := false } :=
        ⟨justified.caughtUp, justified.live, nofun, justified.givenUp, nofun⟩
      exact dirty.cons rfl (by simp) nofun justified.givenUp
    · rename_i other
      refine justified.cons rfl (by simp) ?_ justified.givenUp
      rintro _ known _ ⟨⟩
      exact other ⟨rfl, known⟩
  | begin hash =>
    rw [RelayProgress.consume]
    split
    · rename_i live
      exact justified.begin live.1
    rename_i other
    refine justified.cons rfl ?_ (by simp) justified.givenUp
    rintro _ known caught ⟨⟩
    exact other ⟨known, caught⟩
  | commit hash =>
    rw [RelayProgress.consume]
    split
    · rename_i live
      exact justified.commit live.1 live.2
    · exact justified.cons rfl (by simp) (by simp) justified.givenUp
  | caughtUp epoch =>
    refine ⟨fun _ => rfl, fun _ hash answered found => ?_, fun clean => ?_, justified.givenUp, nofun⟩
    · simp [RelayProgress.consume] at found
    · exact storedSince_cons (justified.stored clean) (by simp)
  | failed => exact .lost rfl rfl (fun _ _ _ => nofun) justified.givenUp
  | gone => exact .lost rfl rfl (fun _ _ _ => nofun) nofun
  | gaveUp =>
    exact .lost rfl rfl (fun clean => storedSince_cons (justified.stored clean) (by simp)) fun _ => rfl

theorem absent (justified : Justified loomFilters past state) :
    Justified loomFilters (.absent :: past) state.absent := by
  rw [RelayProgress.absent]
  split
  · rename_i given
    refine .lost rfl rfl (fun _ _ _ member => ?_) nofun
    simp [sinceRenewal, renews, justified.givenUp given] at member
  · rename_i kept
    exact justified.cons rfl (by simp) (by simp) fun given => absurd given kept

end Justified

/-- The proof of a relay is the one its progress gives. -/
structure Sound (loomFilters : Finset String) (steps : List LoopStep) (s : LoomState)
    (relay : String) : Prop where
  justified : Justified loomFilters (history relay steps) (s.progress relay)
  proved : ∀ epoch, s.loomProof relay = some epoch →
    (s.progress relay).liveReady = true ∧ (s.progress relay).gaveUp = false ∧
      (s.progress relay).dirty = false ∧ (s.progress relay).epoch = epoch

theorem sound_next (sound : Sound loomFilters steps s relay) (step : LoopStep) :
    Sound loomFilters (steps ++ [step]) (s.next loomFilters step) relay := by
  cases step with
  | startRelays urls =>
    by_cases configured : relay ∈ urls
    · refine ⟨?_, ?_⟩
      · simpa [history, next, configured] using sound.justified
      · simpa [next, configured] using sound.proved
    · refine ⟨by simpa [history, next, configured] using sound.justified.absent, ?_⟩
      intro epoch found
      have proved := sound.proved epoch found
      simpa [next, configured, RelayProgress.absent, proved.2.1] using proved
  | consume other op =>
    rw [next]
    by_cases same : other = relay
    · subst same
      have justified := sound.justified.consume op
      split
      · rename_i unwritten
        exact ⟨by simpa [history, unwritten] using justified, sound.proved⟩
      · rename_i state written
        refine ⟨by simpa [history, updateLoomProof, written] using justified, ?_⟩
        simp +contextual [updateLoomProof]
    · have elsewhere := Ne.symm same
      split
      · exact ⟨by simpa [history, same] using sound.justified, sound.proved⟩
      refine ⟨?_, ?_⟩
      · simpa [history, same, updateLoomProof, elsewhere] using sound.justified
      · simpa [updateLoomProof, elsewhere] using sound.proved

theorem sound_run (loomFilters : Finset String) (steps : List LoopStep) (relay : String) :
    Sound loomFilters steps (run loomFilters steps) relay := by
  induction steps using List.reverseRecOn with
  | nil => exact ⟨.lost rfl rfl (fun _ _ _ => nofun) nofun, nofun⟩
  | append_singleton steps step ih =>
    rw [LoomState.run, List.foldl_append]
    exact sound_next ih step

/-- In every run of the consumer's loop, a relay's proof holds only an epoch for which its job
statuses are complete; the sync is renewed by a failed session, by the relay being reported gone and
by its absence after its worker gave up. -/
theorem loomProof_complete (loomFilters : Finset String) (steps : List LoopStep) (relay : String)
    (epoch : UInt64) (proved : (run loomFilters steps).loomProof relay = some epoch) :
    Complete loomFilters renews (history relay steps) epoch := by
  have sound := sound_run loomFilters steps relay
  obtain ⟨ready, _, clean, rfl⟩ := sound.proved epoch proved
  obtain ⟨caught, answered⟩ := sound.justified.ready ready
  refine ⟨sound.justified.caughtUp caught, fun hash known => ?_, sound.justified.stored clean⟩
  exact (sound.justified.live caught hash true (answered hash known)).2

/-- A session of one status filter, up to the EOSE of its live REQ. -/
def statusSession (relay : String) (epoch : UInt64) : List LoopStep :=
  .startRelays [relay] :: [.begin "status", .commit "status", .caughtUp epoch, .begin "status",
    .commit "status"].map (.consume relay)

theorem loomProof_complete_session :
    (run {"status"} (statusSession "relay" 7)).loomProof "relay" = some 7 ∧
      Complete {"status"} renews (history "relay" (statusSession "relay" 7)) 7 :=
  ⟨by decide +kernel, loomProof_complete _ _ _ _ (by decide +kernel)⟩

/-- A status event fails to store, and the relay leaves the pool before its session fails. Back in
the pool it is synced afresh, and has its proof with no failed session in between. -/
theorem loomProof_after_departure :
    let steps := .startRelays ["relay"] :: [.begin "status", .event "status" .failed, .gone].map
      (.consume "relay") ++ statusSession "relay" 8
    (run {"status"} steps).loomProof "relay" = some 8 ∧
      ¬Complete {"status"} (fun _ step => step = .item .failed) (history "relay" steps) 8 := by
  refine ⟨by decide +kernel, fun complete => ?_⟩
  exact complete.2.2 "status" (by simp) (by decide +kernel)

end Bahia.Inbound
