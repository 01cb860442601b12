import Bahia.Foundation.Calls

/-! Programs that run alike on states that are alike: a relational rule for each construct, and the
calls that share such states. -/

namespace Bahia.Foundation

/-- Which requests correspond, and which of their answers do. -/
structure Coupling (Request : Type) (Response : Request → Type) where
  requests : Request → Request → Prop
  responses : (first second : Request) → Response first → Response second → Prop

namespace Coupling
variable {Request : Type} {Response Outside : Request → Type} {State : Type}
variable (coupling : Coupling Request Response)

def Events (first second : Event Request Response) : Prop :=
  coupling.requests first.request second.request ∧
    coupling.responses first.request second.request first.response second.response

/-- What is answered from outside does not tell corresponding requests apart. -/
def Even (serve : State → (request : Request) → Outside request → State × Response request)
    (states : State → State → Prop) (outside : Answers Request Outside) : Prop :=
  ∀ left right first second, states left right → coupling.requests first second →
    (outside first = none ∧ outside second = none) ∨
      ∃ given other, outside first = some given ∧ outside second = some other ∧
        states (serve left first given).1 (serve right second other).1 ∧
        coupling.responses first second (serve left first given).2 (serve right second other).2

end Coupling

namespace Program
variable {Request : Type} {Response : Request → Type} {First Second Third Fourth : Type}
variable (coupling : Coupling Request Response)

/-- Programs that ask corresponding requests as long as the answers correspond, and then return
related results. -/
def Alike (related : First → Second → Prop) :
    Program Request Response First → Program Request Response Second → Prop
  | .done first, .done second => related first second
  | .ask request next, .ask other further => coupling.requests request other ∧
    ∀ answer reply, coupling.responses request other answer reply →
      (next answer).Alike related (further reply)
  | .done _, .ask _ _ => False
  | .ask _ _, .done _ => False

variable {coupling}

theorem Alike.bind {related : First → Second → Prop} {goal : Third → Fourth → Prop}
    {rest : First → Program Request Response Third}
    {further : Second → Program Request Response Fourth}
    (alike : program.Alike coupling related other)
    (continues : ∀ first second, related first second →
      (rest first).Alike coupling goal (further second)) :
    (program >>= rest).Alike coupling goal (other >>= further) := by
  induction program generalizing other with
  | done first =>
    cases other with
    | done second => exact continues first second alike
    | ask => exact alike.elim
  | ask request next ih =>
    cases other with
    | done => exact alike.elim
    | ask =>
      exact ⟨alike.1, fun answer reply same => ih answer (alike.2 answer reply same)⟩

theorem Alike.request (same : coupling.requests first second) :
    (Program.request first : Program Request Response _).Alike coupling
      (coupling.responses first second) (Program.request second) :=
  ⟨same, fun _ _ responded => responded⟩

end Program

def Ongoing.Alike {Request : Type} {Response : Request → Type} {Result : Type}
    (coupling : Coupling Request Response) (first second : Ongoing Request Response Result) : Prop :=
  List.Forall₂ coupling.Events first.trace second.trace ∧
    first.rest.Alike coupling Eq second.rest

namespace Pool
variable {Request : Type} {Response Outside : Request → Type}
variable {State Result Task First Second : Type}
variable (coupling : Coupling Request Response) (states : State → State → Prop)
variable (serve : State → (request : Request) → Outside request → State × Response request)
variable (body : Task → Program Request Response Result)

def Alike (first second : Pool Request Response Result State) : Prop :=
  states first.state second.state ∧ List.Forall₂ (Ongoing.Alike coupling) first.calls second.calls

/-- The answers of a happening do not tell corresponding requests apart. -/
def Fair : Happening Task Request Outside → Prop
  | .answer _ outside => coupling.Even serve states outside
  | _ => True

variable {coupling states serve body}

theorem advance_alike {first second : Ongoing Request Response Result} {left right : State}
    {outside : Answers Request Outside} (even : coupling.Even serve states outside)
    (same : states left right) (alike : first.Alike coupling second) :
    states (first.advance serve left outside).1 (second.advance serve right outside).1 ∧
      (first.advance serve left outside).2.Alike coupling (second.advance serve right outside).2 := by
  obtain ⟨trace, rest⟩ := first
  obtain ⟨log, further⟩ := second
  obtain ⟨asked, left'⟩ := alike
  cases rest with
  | done =>
    cases further with
    | done => exact ⟨same, asked, left'⟩
    | ask => exact left'.elim
  | ask request =>
    cases further with
    | done => exact left'.elim
    | ask other =>
      obtain ⟨requested, continues⟩ := left'
      simp only [Ongoing.advance]
      rcases even left right request other same requested with
        ⟨none, none'⟩ | ⟨given, gave, answered, answered', reached, responded⟩
      · rw [none, none']
        exact ⟨same, asked, requested, continues⟩
      · rw [answered, answered']
        refine ⟨reached, ?_, continues _ _ responded⟩
        exact List.rel_append asked (.cons ⟨requested, responded⟩ .nil)

/-- Lists that correspond do so at each index, and still do when both are changed there. -/
theorem forall₂_at (same : List.Forall₂ related firsts seconds) (index : Nat) :
    (firsts[index]? = none ∧ seconds[index]? = none) ∨
      ∃ first second, firsts[index]? = some first ∧ seconds[index]? = some second ∧
        related first second ∧ ∀ first' second', related first' second' →
          List.Forall₂ related (firsts.set index first') (seconds.set index second') := by
  induction same generalizing index with
  | nil => exact .inl ⟨rfl, rfl⟩
  | cons here rest ih =>
    cases index with
    | zero => exact .inr ⟨_, _, rfl, rfl, here, fun _ _ new => .cons new rest⟩
    | succ index =>
      rcases ih index with absent | ⟨first, second, found, found', there, replaced⟩
      · exact .inl absent
      · exact .inr ⟨first, second, found, found', there,
          fun first' second' new => .cons here (replaced first' second' new)⟩

section
variable (fits : ∀ task, (body task).Alike coupling Eq (body task))
include fits

theorem next_alike (fair : Fair coupling states serve happening)
    (alike : Alike coupling states first second) :
    Alike coupling states (next serve body first happening) (next serve body second happening) := by
  obtain ⟨same, calls⟩ := alike
  cases happening with
  | start task => exact ⟨same, List.rel_append calls (.cons ⟨.nil, fits task⟩ .nil)⟩
  | crash index =>
    refine ⟨same, ?_⟩
    simp only [next, List.eraseIdx_eq_take_drop_succ]
    exact List.rel_append (List.forall₂_take index calls) (List.forall₂_drop (index + 1) calls)
  | answer index =>
    simp only [next, answer]
    rcases forall₂_at calls index with ⟨absent, absent'⟩ | ⟨call, other, found, found', here, replaced⟩
    · rw [absent, absent']
      exact ⟨same, calls⟩
    · rw [found, found']
      obtain ⟨reached, advanced⟩ := advance_alike fair same here
      exact ⟨reached, replaced _ _ advanced⟩

theorem foldl_alike {happenings : List (Happening Task Request Outside)}
    (fair : ∀ happening ∈ happenings, Fair coupling states serve happening)
    (alike : Alike coupling states first second) :
    Alike coupling states (happenings.foldl (next serve body) first)
      (happenings.foldl (next serve body) second) := by
  induction happenings generalizing first second with
  | nil => exact alike
  | cons happening rest ih =>
    obtain ⟨here, later⟩ := List.forall_mem_cons.mp fair
    exact ih later (next_alike fits here alike)

end

end Pool

end Bahia.Foundation
