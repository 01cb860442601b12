import Bahia.Nostrout.Publication

/-! The operation slot: one active operation, a bounded queue of the ones that wait, and the
hand-over from one to the next. -/

namespace Bahia.Nostrout

/-- Where the `BeginOperation` call of an operation stands. A call whose wait ended while its
operation was being activated still has to close it. -/
inductive OperationStage where
  | queued (wakeAt : Instant)
  | abandoning (cause : Failure)
  | returned
  | refused
  deriving DecidableEq

/-- A multi-event operation together with its queue entry; `activated` says that
`activateLocked` ran, which for a queued operation also closes its `ready` channel. -/
structure Operation where
  maxEvents : Int
  used : Int
  deadline : Instant
  busy : Bool
  outstanding : Option Nat
  closed : Bool
  activated : Bool
  stage : OperationStage
  deriving DecidableEq

/-- `operation` and `operationQueue` of the controller, and the operations they point to. -/
structure Slots where
  operation : Option Nat
  operationQueue : List Nat
  operations : List Operation
  deriving DecidableEq

def Slots.fresh : Slots := ⟨none, [], []⟩

def Operation.new (maxEvents : Int) (stage : OperationStage) : Operation where
  maxEvents
  used := 0
  deadline := 0
  busy := false
  outstanding := none
  closed := false
  activated := false
  stage

def operationDeadlineSlack : Duration := minute

/-- The lifetime is what the bulk lane needs for the declared events, plus a fixed slack. -/
def Operation.activate (limits : Limits) (now : Instant) (operation : Operation) : Operation :=
  { operation with
    activated := true
    deadline := now + (⌈(operation.maxEvents : ℚ) /
      (((limits.purposeBudgets .bulk).ratePerMinute : ℚ) / 60)⌉ * second +
        operationDeadlineSlack) }

namespace Slots

def update (slots : Slots) (id : Nat) (change : Operation → Operation) : Slots :=
  { slots with operations := slots.operations.modify id change }

/-- The critical section of `BeginOperation`: take the free slot, or queue. -/
def enter (slots : Slots) (limits : Limits) (now : Instant) (maxEvents : Int) (maxWait : Duration) :
    Except Failure Slots :=
  let id := slots.operations.length
  if slots.operation = none ∧ slots.operationQueue = [] then
    .ok
      { operation := some id
        operationQueue := []
        operations :=
          slots.operations ++ [(Operation.new maxEvents .returned).activate limits now] }
  else if limits.maxQueuedOperations ≤ slots.operationQueue.length then
    .error (.queueFull (toString slots.operationQueue.length ++ " operations already queued"))
  else
    .ok
      { slots with
        operationQueue := slots.operationQueue ++ [id]
        operations :=
          slots.operations ++ [Operation.new maxEvents (.queued (now + atMost maxWait limits.maxQueueWait))] }

/-- `Operation.Close`: release the slot and activate the next queued operation. -/
def close (slots : Slots) (limits : Limits) (now : Instant) (id : Nat) : Slots :=
  match slots.operations[id]? with
  | none => slots
  | some operation =>
    if operation.closed then slots
    else
      let closed := slots.update id fun operation => { operation with closed := true }
      if slots.operation ≠ some id then closed
      else
        match slots.operationQueue with
        | [] => { closed with operation := none }
        | next :: rest =>
          Slots.update { closed with operation := some next, operationQueue := rest } next
            (Operation.activate limits now)

/-- `abandonOperationWaiter`: an activated operation is left for its `Close`. -/
def abandon (slots : Slots) (id : Nat) (operation : Operation) (cause : Failure) : Slots :=
  if operation.activated then
    slots.update id fun operation => { operation with stage := .abandoning cause }
  else
    { slots.update id fun operation => { operation with stage := .refused } with
      operationQueue := slots.operationQueue.erase id }

def claim (slots : Slots) (id : Nat) (operation : Operation) : Except Failure Slots :=
  if operation.closed then .error (.operation "operation already closed")
  else if slots.operation ≠ some id then .error (.operation "operation is not active")
  else if operation.busy || operation.outstanding.isSome then
    .error (.operation "previous operation publication is still outstanding")
  else if operation.maxEvents ≤ operation.used then
    .error (.operation ("operation exceeded its declared " ++ toString operation.maxEvents ++ " events"))
  else .ok (slots.update id fun operation => { operation with busy := true })

def unclaim (slots : Slots) (id : Nat) : Slots :=
  slots.update id fun operation => { operation with busy := false }

/-- `finishClaimLocked` after a success; a publication that is already closed is not
outstanding. -/
def finish (slots : Slots) (id : Nat) (outstanding : Option Nat) : Slots :=
  slots.update id fun operation =>
    { operation with
      busy := false
      used := operation.used + 1
      outstanding := match outstanding with
        | some permit => some permit
        | none => operation.outstanding }

def settle (slots : Slots) (id permit : Nat) : Slots :=
  slots.update id fun operation =>
    if operation.outstanding = some permit then { operation with outstanding := none } else operation

end Slots

end Bahia.Nostrout
