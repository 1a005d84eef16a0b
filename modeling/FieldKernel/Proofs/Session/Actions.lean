import FieldKernel.Proofs.Triples
import FieldKernel.Session.Kernel

/-!
# What actions ensure

The basic actions change one part of a session or none, and what they ensure is
said once: outcomes and questions that change nothing, code whose failure is
observed, and reports.
-/

namespace FieldKernel

namespace Action

variable {α : Type} {session : Session} {before : Session → Prop}
  {after : α → Session → Prop} {failed : Error → Session → Prop}

theorem run_ofExcept (outcome : Except Error α) (session : Session) :
    (ofExcept outcome).run.run session = (outcome, session) :=
  rfl

theorem run_report (record : LogRecord) (session : Session) :
    (report record).run.run session =
      (.ok (), { session with log := session.log.push record }) :=
  rfl

theorem ensures_ofExcept {outcome : Except Error α}
    (succeeds : ∀ result state, outcome = .ok result → before state → after result state)
    (fails : ∀ error state, outcome = .error error → before state → failed error state) :
    Ensures before (ofExcept outcome) after failed := by
  intro state starts
  cases outcome with
  | ok result => exact succeeds result state rfl starts
  | error error => exact fails error state rfl starts

theorem ensures_ask {question : Ask α}
    (succeeds : ∀ result state, question state.toObjects = .ok result → before state →
      after result state)
    (fails : ∀ error state, question state.toObjects = .error error → before state →
      failed error state) :
    Ensures before (liftM question : Action α) after failed := by
  intro state starts
  have run : (liftM question : Action α).run.run state = (question state.toObjects, state) := rfl
  rw [run]
  cases answered : question state.toObjects with
  | ok result => exact succeeds result state answered starts
  | error error => exact fails error state answered starts

theorem ensures_observe {inside : Action α} {broken : Error → Session → Prop}
    (ensures : Ensures before inside after broken) :
    Ensures before (HostT.observe inside)
      (fun outcome state => (∀ result, outcome = .ok result → after result state) ∧
        ∀ error, outcome = .error error → broken error state)
      failed := by
  intro state starts
  have ends := ensures state starts
  have run : (HostT.observe inside).run.run state =
      (.ok (inside.run.run state).1, (inside.run.run state).2) := rfl
  rw [run]
  revert ends
  rcases inside.run.run state with ⟨error | result, final⟩
  · intro holds
    refine ⟨fun _ equal => ?_, fun _ equal => ?_⟩
    · cases equal
    · cases equal
      exact holds
  · intro holds
    refine ⟨fun _ equal => ?_, fun _ equal => ?_⟩
    · cases equal
      exact holds
    · cases equal

/-- An action keeps up what is said of the session, also if it fails. -/
def Keeps {α : Type} (holds : Session → Prop) (action : Action α) : Prop :=
  Ensures holds action (fun _ => holds) (fun _ => holds)

theorem keeps_iff {α : Type} {holds : Session → Prop} {action : Action α} :
    Keeps holds action ↔ ∀ session, holds session → holds (action.run.run session).2 := by
  refine forall_congr' fun session => imp_congr_right fun _ => ?_
  rcases action.run.run session with ⟨error | result, final⟩ <;> exact Iff.rfl

namespace Keeps

variable {α β : Type} {holds : Session → Prop}

theorem pure (result : α) : Keeps holds (pure result : Action α) :=
  fun _ now => now

theorem throw (error : Error) : Keeps holds (throw error : Action α) :=
  fun _ now => now

theorem bind {action : Action α} {next : α → Action β} (first : Keeps holds action)
    (second : ∀ result, Keeps holds (next result)) : Keeps holds (action >>= next) :=
  Ensures.bind first second

theorem get {next : Session → Action α} (after : ∀ session, Keeps holds (next session)) :
    Keeps holds (get >>= next) :=
  Ensures.get fun session now =>
    (after session).weaken (fun _ same => same ▸ now) fun _ _ => id

theorem ofExcept (outcome : Except Error α) : Keeps holds (ofExcept outcome) :=
  ensures_ofExcept (fun _ _ _ => id) fun _ _ _ => id

theorem ask (question : Ask α) : Keeps holds (liftM question : Action α) :=
  ensures_ask (fun _ _ _ => id) fun _ _ _ => id

theorem observe {inside : Action α} (keeps : Keeps holds inside) :
    Keeps holds (HostT.observe inside) :=
  (ensures_observe keeps).weaken (fun _ => id) fun
    | .ok result, _, ended => ended.1 result rfl
    | .error error, _, ended => ended.2 error rfl

/-- From one state on, what is kept up holds of it. -/
theorem here {action : Action α} (keeps : Keeps holds action) {session : Session}
    (now : holds session) : Ensures (· = session) action (fun _ => holds) (fun _ => holds) :=
  keeps.weaken (fun _ same => same ▸ now) fun _ _ => id

end Keeps

end Action

end FieldKernel
