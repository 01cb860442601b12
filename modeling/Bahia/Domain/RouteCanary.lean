import Mathlib

/-! The verdict on a managed route: each perspective's observation is classified, and the worst
classification is judged by the target it was made for. -/

namespace Bahia.Domain
open List

inductive RouteCanaryPerspective
  | publicEdge | internalLAN
  deriving DecidableEq

inductive RouteCanaryClassification
  | routeOK | dnsUnresolved | connectFailed | tlsInvalid | tlsExpiring | upstreamError
  | statusMismatch | bodyMismatch | healthPathNotDiscriminating
  deriving DecidableEq

structure RouteCanaryTarget where
  perspective : RouteCanaryPerspective
  scheme : String
  expectedStatusMin : Int
  expectedStatusMax : Int
  expectedBodyContains : String
  expectedBodyRegex : String
  tlsMinDaysRemaining : Int
  requireDiscriminatingHealthPath : Bool

def RouteCanaryTarget.hasBodyAssertion (target : RouteCanaryTarget) : Bool :=
  target.expectedBodyContains != "" || target.expectedBodyRegex != ""

/-- Instants are nanoseconds; no `notAfter` is the zero time. -/
structure RouteCanaryTLSObservation where
  handshakeCompleted : Bool
  chainVerified : Bool
  notAfter : Option Int

/-- Whole days, rounded toward zero, of a difference that saturates as a `Duration`. -/
def RouteCanaryTLSObservation.daysRemaining (tls : RouteCanaryTLSObservation) (now : Int) : Int :=
  match tls.notAfter with
  | none => 0
  | some notAfter => (max (-2 ^ 63) (min (2 ^ 63 - 1) (notAfter - now))).tdiv (24 * 3600 * 10 ^ 9)

structure RouteControlObservation where
  performed : Bool
  connected : Bool
  statusCode : Int
  bodyFingerprint : String

structure RouteCanaryObservation where
  target : RouteCanaryTarget
  resolved : Bool
  connected : Bool
  tlsError : String
  tls : RouteCanaryTLSObservation
  statusCode : Int
  bodyMatched : Bool
  bodyFingerprint : String
  control : Option RouteControlObservation

def RouteCanaryObservation.indistinguishable (observation : RouteCanaryObservation) : Bool :=
  match observation.control with
  | none => false
  | some control => control.performed && control.connected && observation.connected &&
      control.statusCode == observation.statusCode && observation.bodyFingerprint != "" &&
      observation.bodyFingerprint == control.bodyFingerprint

namespace RouteCanaryClassification

def failing : RouteCanaryClassification → Bool
  | routeOK | tlsExpiring | healthPathNotDiscriminating => false
  | _ => true

def failingForTarget (classification : RouteCanaryClassification) (target : RouteCanaryTarget) : Bool :=
  if classification = healthPathNotDiscriminating then target.requireDiscriminatingHealthPath
  else classification.failing

def rank : RouteCanaryClassification → Int
  | routeOK => 0
  | tlsExpiring => 1
  | healthPathNotDiscriminating => 2
  | bodyMismatch => 3
  | statusMismatch => 4
  | upstreamError => 5
  | connectFailed => 6
  | tlsInvalid => 7
  | dnsUnresolved => 8

theorem failing_iff_rank (classification : RouteCanaryClassification) :
    classification.failing = true ↔ 2 < classification.rank := by
  cases classification <;> decide

theorem rank_notDiscriminating (classification : RouteCanaryClassification) :
    classification.rank = 2 ↔ classification = healthPathNotDiscriminating := by
  cases classification <;> decide

theorem rank_nonneg (classification : RouteCanaryClassification) : 0 ≤ classification.rank := by
  cases classification <;> decide

theorem failingForTarget_iff (classification : RouteCanaryClassification) (target : RouteCanaryTarget) :
    classification.failingForTarget target = true ↔ 2 < classification.rank ∨
      classification.rank = 2 ∧ target.requireDiscriminatingHealthPath = true := by
  rw [rank_notDiscriminating, ← failing_iff_rank]
  cases classification <;> simp [failingForTarget, failing]

end RouteCanaryClassification

open RouteCanaryClassification

def classifyRouteObservation (observation : RouteCanaryObservation) (now : Int) :
    RouteCanaryClassification :=
  let target := observation.target
  let tls := observation.tls
  if !observation.resolved then dnsUnresolved
  else if observation.tlsError != "" then tlsInvalid
  else if target.scheme == "https" && tls.handshakeCompleted && !tls.chainVerified then tlsInvalid
  else if !observation.connected then connectFailed
  else if observation.statusCode ∈ [502, 503, 504] then upstreamError
  else if observation.statusCode < target.expectedStatusMin ||
      target.expectedStatusMax < observation.statusCode then statusMismatch
  else if target.hasBodyAssertion && !observation.bodyMatched then bodyMismatch
  else if !target.hasBodyAssertion && observation.indistinguishable then healthPathNotDiscriminating
  else if 0 < target.tlsMinDaysRemaining && tls.handshakeCompleted && tls.notAfter.isSome &&
      tls.daysRemaining now < target.tlsMinDaysRemaining then tlsExpiring
  else routeOK

structure RouteCanaryReduction where
  classification : RouteCanaryClassification
  perspective : RouteCanaryPerspective
  failing : Bool
  observation : RouteCanaryObservation

/-- The loop's `worst`, `worstObservation` and `worstRank`. -/
structure Worst where
  classification : RouteCanaryClassification
  observation : RouteCanaryObservation
  rank : Int

def Worst.next (now : Int) (worst : Worst) (observation : RouteCanaryObservation) : Worst :=
  let classification := classifyRouteObservation observation now
  if worst.rank < classification.rank then ⟨classification, observation, classification.rank⟩
  else worst

def reduceRouteObservations : List RouteCanaryObservation → Int → Option RouteCanaryReduction
  | [], _ => none
  | first :: rest, now =>
    let worst := (first :: rest).foldl (Worst.next now) ⟨routeOK, first, -1⟩
    some ⟨worst.classification, worst.observation.target.perspective,
      worst.classification.failingForTarget worst.observation.target, worst.observation⟩

def severity (now : Int) (observation : RouteCanaryObservation) : Int :=
  (classifyRouteObservation observation now).rank

def verdictOf (now : Int) (observation : RouteCanaryObservation) : RouteCanaryReduction :=
  let classification := classifyRouteObservation observation now
  ⟨classification, observation.target.perspective, classification.failingForTarget observation.target,
    observation⟩

theorem foldl_worst (now : Int) (start : Worst) (lowest : start.rank < 0)
    (observations : List RouteCanaryObservation) :
    observations.foldl (Worst.next now) start = (observations.argmax (severity now)).elim start
      fun worst => ⟨classifyRouteObservation worst now, worst, severity now worst⟩ := by
  induction observations using List.reverseRecOn with
  | nil => rfl
  | append_singleton earlier last ih =>
    rw [foldl_append, ih, argmax_concat]
    cases earlier.argmax (severity now) with
    | none =>
      have above := lowest.trans_le (rank_nonneg (classifyRouteObservation last now))
      simp [Worst.next, above, severity]
    | some worst =>
      simp only [foldl_cons, foldl_nil, Worst.next, Option.elim_some, severity]
      grind

theorem reduce_eq_argmax (observations : List RouteCanaryObservation) (now : Int) :
    reduceRouteObservations observations now =
      (observations.argmax (severity now)).map (verdictOf now) := by
  cases observations with
  | nil => rfl
  | cons first rest =>
    rw [reduceRouteObservations, foldl_worst now ⟨routeOK, first, -1⟩ (by decide : (-1 : Int) < 0)]
    cases found : (first :: rest).argmax (severity now) with
    | none => simp at found
    | some worst => rfl

theorem reported_first (given : observation ∈ observations)
    (worst : ∀ other ∈ observations, severity now other ≤ severity now observation) :
    ∃ order, order.Perm observations ∧
      reduceRouteObservations order now = some (verdictOf now observation) := by
  obtain ⟨before, after, same⟩ := append_of_mem given
  subst same
  refine ⟨observation :: (before ++ after), perm_middle.symm, ?_⟩
  rw [reduce_eq_argmax, argmax_cons]
  cases found : (before ++ after).argmax (severity now) with
  | none => rfl
  | some other =>
    have bound := worst other (perm_middle.mem_iff.mpr
      (mem_cons_of_mem _ (argmax_mem found)))
    simp [bound.not_gt]

/-- The verdict is exact in every order of the observations exactly when one of them fails for
any target, or those with a health path that proves nothing agree on whether that matters. -/
theorem verdict_covers_iff (first : RouteCanaryObservation) (rest : List RouteCanaryObservation)
    (now : Int) :
    (∀ order, order.Perm (first :: rest) →
      ∃ verdict, reduceRouteObservations order now = some verdict ∧
        (verdict.failing = true ↔ ∃ observation ∈ first :: rest,
          (classifyRouteObservation observation now).failingForTarget observation.target = true)) ↔
      (∃ observation ∈ first :: rest, (classifyRouteObservation observation now).failing = true) ∨
        ∀ one ∈ first :: rest, ∀ other ∈ first :: rest,
          classifyRouteObservation one now = healthPathNotDiscriminating →
          classifyRouteObservation other now = healthPathNotDiscriminating →
            one.target.requireDiscriminatingHealthPath = true →
              other.target.requireDiscriminatingHealthPath = true := by
  simp only [failing_iff_rank, failingForTarget_iff, ← rank_notDiscriminating]
  constructor
  · intro exact
    by_contra! disagree
    obtain ⟨mild, strict, given, lenient, also, strictly, leniently, requires, waives⟩ := disagree
    have worst : ∀ other ∈ first :: rest, severity now other ≤ severity now lenient :=
      fun other member => (mild other member).trans leniently.ge
    obtain ⟨order, same, reported⟩ := reported_first also worst
    obtain ⟨verdict, reduced, covers⟩ := exact order same
    cases reported.symm.trans reduced
    have fails := covers.mpr ⟨strict, given, .inr ⟨strictly, requires⟩⟩
    rw [verdictOf, failingForTarget_iff] at fails
    simp [waives, leniently] at fails
  · intro settled order same
    have nonempty : order.argmax (severity now) ≠ none := by
      intro none
      rw [argmax_eq_none.mp none] at same
      exact cons_ne_nil first rest same.symm.eq_nil
    obtain ⟨worst, found⟩ := Option.ne_none_iff_exists'.mp nonempty
    have bound : ∀ other ∈ first :: rest, severity now other ≤ severity now worst :=
      fun other member => le_of_mem_argmax (same.mem_iff.mpr member) found
    have given := same.mem_iff.mp (argmax_mem found)
    refine ⟨verdictOf now worst, by rw [reduce_eq_argmax, found]; rfl, ?_⟩
    rw [verdictOf, failingForTarget_iff]
    constructor
    · intro fails
      exact ⟨worst, given, fails⟩
    · intro ⟨other, member, fails⟩
      have above := bound other member
      rcases settled with ⟨broken, present, hard⟩ | agree
      · exact .inl (hard.trans_le (bound broken present))
      rcases fails with hard | ⟨hides, requires⟩
      · exact .inl (hard.trans_le above)
      rcases (hides.ge.trans above).lt_or_eq with harder | equal
      · exact .inl harder
      · exact .inr ⟨equal.symm, agree other member worst given hides equal.symm requires⟩

def catchAll (perspective : RouteCanaryPerspective) (mandatory : Bool) : RouteCanaryObservation where
  target := ⟨perspective, "https", 200, 299, "", "", 0, mandatory⟩
  resolved := true
  connected := true
  tlsError := ""
  tls := ⟨true, true, none⟩
  statusCode := 200
  bodyMatched := false
  bodyFingerprint := "shell"
  control := some ⟨true, true, 200, "shell"⟩

/-- The perspective for which it is mandatory is hidden behind the one for which it is not. -/
theorem mandatory_perspective_hidden :
    let observations := [catchAll .internalLAN false, catchAll .publicEdge true]
    (reduceRouteObservations observations 0).map (·.failing) = some false ∧
      (reduceRouteObservations observations.reverse 0).map (·.failing) = some true ∧
      ∃ observation ∈ observations,
        (classifyRouteObservation observation 0).failingForTarget observation.target = true := by
  decide

end Bahia.Domain
