import Bahia.Saga.Run

/-! What a validated run is: complete lineage, one lineage for each resource key, and failures that
are public records. -/

namespace Bahia.Saga
open Foundation List

namespace Resource

/-- A resource that a run may carry, whatever its other resources are. -/
def Admissible (run : Run) (r : Resource) : Prop :=
  r.validate run.runID = none ∧
    (r.conflict = false → r.specHash = run.specHash ∧ r.correlationID = run.requestID)

theorem Agrees.symm {first second : Resource} (agrees : first.Agrees second) :
    second.Agrees first := by
  intro same
  obtain ⟨spec, ownership, owner⟩ := agrees same.symm
  exact ⟨spec.symm, ownership.symm, owner.symm⟩

theorem SameLineage.trans {first second third : Resource} (here : first.SameLineage second)
    (there : second.SameLineage third) : first.SameLineage third :=
  ⟨here.1.trans there.1, here.2.1.trans there.2.1, here.2.2.trans there.2.2⟩

end Resource

namespace Run

theorem agrees_of_find {seen : List Resource} (agree : seen.Pairwise Resource.Agrees)
    (latest : ∀ previous, seen.find? (·.key == resource.key) = some previous →
      previous.SameLineage resource) : ∀ previous ∈ seen, previous.Agrees resource := by
  induction seen with
  | nil => exact fun _ member => nomatch member
  | cons head rest ih =>
    obtain ⟨first, others⟩ := pairwise_cons.mp agree
    by_cases found : head.key = resource.key
    · have same : head.SameLineage resource := by
        apply latest
        rw [List.find?_cons_of_pos (by simpa using found)]
      intro previous member keyed
      rcases mem_cons.mp member with rfl | later
      · exact same
      · exact ((first previous later).symm (keyed.trans found.symm)).trans same
    · intro previous member
      rcases mem_cons.mp member with rfl | later
      · exact fun keyed => absurd keyed found
      apply ih others _ previous later
      intro known held
      apply latest
      rw [List.find?_cons_of_neg (by simpa using found)]
      exact held

theorem resourceFault_none_iff (run : Run) (agree : seen.Pairwise Resource.Agrees)
    (resource : Resource) :
    run.resourceFault seen resource = none ↔
      resource.Admissible run ∧ ∀ previous ∈ seen, previous.Agrees resource := by
  unfold resourceFault Resource.Admissible
  cases wrong : resource.validate run.runID with
  | some => simp
  | none =>
    by_cases spec : resource.conflict = false ∧ resource.specHash ≠ run.specHash
    · simp only [if_pos spec, reduceCtorEq, true_and, false_iff, not_and]
      exact fun matching => absurd (matching spec.1).1 spec.2
    by_cases correlation : resource.conflict = false ∧ resource.correlationID ≠ run.requestID
    · simp only [if_neg spec, if_pos correlation, reduceCtorEq, true_and, false_iff, not_and]
      exact fun matching => absurd (matching correlation.1).2 correlation.2
    simp only [if_neg spec, if_neg correlation, true_and]
    have matching : resource.conflict = false →
        resource.specHash = run.specHash ∧ resource.correlationID = run.requestID := by
      intro plain
      constructor
      · by_contra different
        exact spec ⟨plain, different⟩
      · by_contra different
        exact correlation ⟨plain, different⟩
    constructor
    · intro accepted
      refine ⟨matching, agrees_of_find agree ?_⟩
      intro previous found
      rw [found] at accepted
      by_contra different
      exact nomatch (if_pos different).symm.trans accepted
    · rintro ⟨_, agrees⟩
      cases found : seen.find? (·.key == resource.key) with
      | none => rfl
      | some previous =>
        have keyed : previous.key = resource.key := by simpa using List.find?_some found
        exact if_neg (not_not_intro (agrees previous (List.mem_of_find?_eq_some found) keyed))

theorem resourcesFault_none_iff (run : Run) (agree : seen.Pairwise Resource.Agrees)
    (resources : List Resource) :
    run.resourcesFault seen resources = none ↔
      (∀ resource ∈ resources, resource.Admissible run) ∧ resources.Pairwise Resource.Agrees ∧
        ∀ previous ∈ seen, ∀ resource ∈ resources, previous.Agrees resource := by
  induction resources generalizing seen with
  | nil => simp [resourcesFault]
  | cons resource rest ih =>
    have here := run.resourceFault_none_iff agree resource
    rw [resourcesFault]
    cases fault : run.resourceFault seen resource with
    | some =>
      rw [fault] at here
      constructor
      · exact nofun
      · rintro ⟨admissible, _, agrees⟩
        exact here.mpr ⟨admissible resource mem_cons_self,
          fun previous member => agrees previous member resource mem_cons_self⟩
    | none =>
      obtain ⟨admissible, agrees⟩ := here.mp fault
      have longer : (resource :: seen).Pairwise Resource.Agrees :=
        pairwise_cons.mpr ⟨fun previous member => (agrees previous member).symm, agree⟩
      simp only [ih longer, forall_mem_cons, pairwise_cons]
      constructor
      · rintro ⟨others, paired, first, known⟩
        exact ⟨⟨admissible, others⟩, ⟨first, paired⟩,
          fun previous member => ⟨agrees previous member, known previous member⟩⟩
      · rintro ⟨⟨_, others⟩, ⟨first, paired⟩, known⟩
        exact ⟨others, paired, first, fun previous member => (known previous member).2⟩

structure Sound (env : Environment) (run : Run) : Prop where
  identity : run.requestID ≠ "" ∧ run.runID ≠ "" ∧ run.rootKey ≠ "" ∧ run.agentID ≠ "" ∧
    run.specHash ≠ "" ∧ run.version ≠ 0
  root : run.rootKey = deriveKey env (run.requestID ++ "/" ++ run.runID) "root"
  admissible : ∀ resource ∈ run.resources, resource.Admissible run
  agree : run.resources.Pairwise Resource.Agrees
  failures : ∀ failure ∈ run.failures, validatePublicFailure failure = none
  current : ∀ failure, run.failure = some failure → validatePublicFailure failure = none

theorem validate_none_iff (env : Environment) (run : Run) :
    run.validate env = none ↔ run.Sound env := by
  unfold validate
  by_cases identity : run.requestID = "" ∨ run.runID = "" ∨ run.rootKey = "" ∨ run.agentID = "" ∨
      run.specHash = "" ∨ run.version = 0
  · rw [if_pos identity]
    constructor
    · exact nofun
    · intro sound
      obtain ⟨request, id, root, agent, spec, version⟩ := sound.identity
      simp [request, id, root, agent, spec, version] at identity
  · rw [if_neg identity]
    simp only [not_or] at identity
    by_cases root : run.rootKey = deriveKey env (run.requestID ++ "/" ++ run.runID) "root"
    · rw [if_neg (not_not_intro root)]
      have lineage := run.resourcesFault_none_iff List.Pairwise.nil run.resources
      cases fault : run.resourcesFault [] run.resources with
      | some =>
        rw [fault] at lineage
        constructor
        · exact nofun
        · intro sound
          exact lineage.mpr ⟨sound.admissible, sound.agree, fun _ member => nomatch member⟩
      | none =>
        obtain ⟨admissible, agree, _⟩ := lineage.mp fault
        have history : run.failures.findSome? validatePublicFailure = none ↔
            ∀ failure ∈ run.failures, validatePublicFailure failure = none :=
          List.findSome?_eq_none_iff
        cases past : run.failures.findSome? validatePublicFailure with
        | some =>
          rw [past] at history
          constructor
          · exact nofun
          · intro sound
            exact history.mpr sound.failures
        | none =>
          constructor
          · intro accepted
            refine ⟨identity, root, admissible, agree, history.mp past, ?_⟩
            intro failure held
            rw [held] at accepted
            exact accepted
          · intro sound
            cases held : run.failure with
            | none => rfl
            | some failure => exact sound.current failure held
    · rw [if_pos root]
      constructor
      · exact nofun
      · intro sound
        exact absurd sound.root root

end Run

theorem validatePublicFailure_public (forward : isForwardStage stage = true) (code : String)
    (retryable : Bool) (now : Moment) :
    validatePublicFailure ⟨stage, safePublicCode code, safePublicMessage (safePublicCode code),
      retryable, now.val⟩ = none := by
  have started : (now.val == 0) = false := by simpa using now.property
  simp [validatePublicFailure, forward, safePublicCode_idem, started]

end Bahia.Saga
