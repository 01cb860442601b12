import Bahia.Saga.Compensations
import Bahia.Saga.StageMachine

/-! The deadlines of runs that have ended. Run alone, every call leaves each ended run with one if it
finds them so, and the end of a rollback is without its deadline for one save only. -/

namespace Bahia.Saga
open Foundation

def Stage.ended (stage : Stage) : Prop := stage = .rolledBack ∨ stage = .failedTerminal

instance (stage : Stage) : Decidable stage.ended :=
  inferInstanceAs (Decidable (stage = .rolledBack ∨ stage = .failedTerminal))

def Run.Due (run : Run) : Prop := run.stage.ended → run.retainUntil.isSome = true

structure RetentionPolicy.Positive (policy : RetentionPolicy) : Prop where
  failedFor : 0 < policy.failedFor
  rolledBackFor : 0 < policy.rolledBackFor

def Marked {env : Environment} (store : FileStore env) : Prop :=
  ∀ requestID run, store.get requestID = some run → run.Due

variable {env : Environment} {policy : RetentionPolicy} {store : FileStore env} {trace : Trace}
variable {run updated : Run}

theorem forward_live (forward : isForwardStage stage = true) : ¬ stage.ended := by
  rintro (rfl | rfl) <;> cases forward

theorem previous_live (stage : Option Stage) : ¬ (previousStage stage).ended := by
  intro ended
  have live := previousStage_live stage
  rcases ended with same | same <;> rw [same] at live <;> cases live

theorem mark_due (positive : policy.Positive) (run : Run) (time : Time) :
    (policy.mark run time).Due := by
  intro ended
  rw [mark_stage] at ended
  have lasts : 0 < policy.duration run.stage := by
    rcases ended with stage | stage
    · rw [stage]
      exact positive.rolledBackFor
    · rw [stage]
      exact positive.failedFor
  rw [RetentionPolicy.mark, if_pos lasts]
  rfl

theorem marked_write (valid : run.validate env = none) (due : run.Due)
    (others : ∀ requestID other, store.get requestID = some other → requestID ≠ run.requestID →
      other.Due) : Marked (store.write run valid) := by
  intro requestID held found
  rw [FileStore.get_write] at found
  split at found
  · cases found
    exact due
  · rename_i different
    exact others requestID held found (Ne.symm different)

theorem sound_mark (policy : RetentionPolicy) (sound : run.Sound env) (time : Time) :
    (policy.mark run time).Sound env := by
  unfold RetentionPolicy.mark
  split
  · exact { sound with }
  · exact sound

section Positive
variable (positive : policy.Positive)
include positive

theorem Move.due (move : Move env policy trace run updated)
    (stays : updated.stage = .rolledBack → run.stage = .rolledBack) (due : run.Due) (time : Time) :
    (updated.stamped time).Due := by
  cases move with
  | recorded | compensated => exact due
  | entered stage time forward => exact fun ended => absurd ended (forward_live forward)
  | resumed => exact fun ended => absurd ended (previous_live run.resumeStage)
  | lost | retained => exact mark_due positive _ _
  | rolledBack time pending => exact nomatch pending.symm.trans (stays rfl)
  | _ => rintro (wrong | wrong) <;> cases wrong

/-- Every call sees to the deadlines. -/
def deadlines : Care policy (View.alone env) where
  fine := Marked
  good := Run.Due
  steady same marked := same ▸ marked
  saved valid marked due :=
    marked_write valid due fun requestID other found _ => marked requestID other found
  moved time move stays due := move.due positive stays due time

theorem markRetention_marks (ended : run.stage = .rolledBack)
    (held : store.get run.requestID = some run)
    (others : ∀ requestID other, store.get requestID = some other → requestID ≠ run.requestID →
      other.Due) :
    Brings (deadlines positive) inspects trace store (markRetention policy run)
      (deadlines positive).Knows := by
  apply now_alone.bind (View.alone env).reflexive
  rintro _ _ time _ rfl
  have due := mark_due positive run time.val
  have sound := (Run.validate_none_iff env run).mp (store.sound _ run held).2
  rw [if_pos (due (.inl ((mark_stage time.val).trans ended)))]
  apply (save_sound held (.retained time.val ended) (sound_mark policy sound time.val)).weaken
  rintro _ _ _ ⟨stamp, valid, rfl, rfl⟩
  have marked : Marked (store.write ((policy.mark run time.val).stamped stamp.val) valid) :=
    marked_write valid due fun requestID other found different =>
      others requestID other found (mark_requestID time.val ▸ different)
  refine ⟨marked, ?_⟩
  rintro _ ⟨⟩
  exact ⟨FileStore.get_written valid, marked, due⟩

theorem deadlines_whole : (deadlines positive : Care policy (View.alone env)).Whole := by
  refine ⟨fun marked => marked _ _, fun fresh ended => ?_, ?_⟩
  · rw [fresh] at ended
    exact absurd ended (by decide)
  intro inspects trace store run known pending cleared
  have moves : (transition run .rolledBack).Obeys (contract policy (View.alone env) inspects)
      (fun _ after result => (∃ halt, result = .error halt ∧ after = store) ∨
        ∃ next valid, next.stage = .rolledBack ∧ result = .ok next ∧ after = store.write next valid)
        trace store := by
    apply now_alone.bind (View.alone env).reflexive
    rintro _ _ time _ rfl
    apply (save_alone known.holds (.rolledBack time.val pending cleared)).weaken
    rintro _ _ _ ⟨stamp, ⟨valid, saved, written⟩ | ⟨_, ⟨halt, failed⟩, same⟩⟩
    · exact .inr ⟨_, valid, rfl, saved, written⟩
    · exact .inl ⟨halt, failed, same⟩
  apply moves.bind (View.alone env).reflexive
  rintro _ _ _ _ (⟨halt, rfl, rfl⟩ | ⟨next, valid, ended, rfl, rfl⟩)
  · exact finished _ known.fine
  · have others : ∀ requestID other, (store.write next valid).get requestID = some other →
        requestID ≠ next.requestID → other.Due := by
      intro requestID other found different
      rw [FileStore.get_write, if_neg (Ne.symm different)] at found
      exact known.fine requestID other found
    refine proceeds (markRetention_marks positive ended (FileStore.get_written valid) others)
      (fun _ _ _ => finished _) ?_
    intro _ _ last _ marked
    exact ensured_obeys marked

end Positive

end Bahia.Saga
