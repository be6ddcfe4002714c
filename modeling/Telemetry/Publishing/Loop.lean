import Telemetry.Publishing.Publisher
/-!
Publishing again and again. Time is counted in nanoseconds, and whoever waits goes on when the
timers next look. A publisher first publishes one step after its start. If a publication lasts
beyond the next tick, that tick comes as soon as it is over, and the one after it a step later. A
loop that is told to end publishes once more. The timers are those of `tokio`, whose late ticks delay
the ones after them.
-/
namespace Telemetry

/-- What a publishing loop is doing. -/
inductive Phase where
  /-- It waits for the next tick. -/
  | waiting (due : Nat)
  /-- It publishes; the next tick is due while it does or later. -/
  | publishing (finish due : Nat)
  /-- It publishes for the last time. -/
  | ending (finish : Nat)
deriving DecidableEq, Repr

/-- A publishing loop. -/
structure PublishingLoop where
  phase : Phase
  /-- Whether it was told to end. -/
  closing : Bool := false
deriving DecidableEq, Repr

/-- How exactly timers keep to their moments. -/
structure Timers where
  /-- Whoever waits goes on at a multiple of so many nanoseconds. -/
  resolution : Nat
  resolution_pos : 0 < resolution
  /-- By how much a tick may be late and still count as one that was not missed. -/
  tolerance : Nat

namespace Timers

/-- Timers in whole milliseconds, where a tick may be five of them late. -/
def milliseconds : Timers := ⟨1000000, by decide, 5000000⟩

/-- The moment at which someone who waits for a moment goes on. -/
def wake (timers : Timers) (moment : Nat) : Nat :=
  (moment + (timers.resolution - 1)) / timers.resolution * timers.resolution

/-- When the tick after one that was due comes, if that one came at `moment`. -/
def nextDue (timers : Timers) (step due moment : Nat) : Nat :=
  if due + timers.tolerance < moment then moment + step else due + step

theorem le_wake (timers : Timers) (moment : Nat) : moment ≤ timers.wake moment := by
  have := timers.resolution_pos
  have := Nat.div_add_mod (moment + (timers.resolution - 1)) timers.resolution
  have := Nat.mod_lt (moment + (timers.resolution - 1)) timers.resolution_pos
  rw [wake, Nat.mul_comm]
  omega

theorem lt_nextDue (timers : Timers) {step : Nat} (positive : 0 < step) {due moment : Nat}
    (late : due ≤ moment) : due < timers.nextDue step due moment := by
  unfold nextDue
  split <;> omega

end Timers

namespace PublishingLoop
variable (timers : Timers)

/-- Runs a waiting loop from one moment until just before another, when each publication lasts
`lasting`: how often it publishes, and what it does then. -/
def runTicks (publisher : Publisher) (lasting now due bound : Nat) : Nat × Phase :=
  let moment := max now (timers.wake due)
  if _early : moment < bound then
    let next := timers.nextDue publisher.step.nanoseconds due moment
    let finish := timers.wake (moment + lasting)
    if finish < bound then
      let (count, phase) := runTicks publisher lasting finish next bound
      (count + 1, phase)
    else (1, .publishing finish next)
  else (0, .waiting due)
termination_by bound - due
decreasing_by
  have late : due ≤ max now (timers.wake due) :=
    Nat.le_trans (timers.le_wake due) (Nat.le_max_right _ _)
  exact Nat.sub_lt_sub_left (Nat.lt_of_le_of_lt late _early)
    (timers.lt_nextDue publisher.step_pos late)

/-- Begins the last publication of a loop; gives what is left of the loop just before `bound`. -/
def lastPublication (lasting now bound : Nat) : Option Phase :=
  let finish := timers.wake (now + lasting)
  if finish < bound then none else some (.ending finish)

/-- Runs a loop from one moment until just before another (`PushRegistry::start`): how often it
publishes, and what is left of it. -/
def run (publisher : Publisher) (lasting now bound : Nat) (loop : PublishingLoop) :
    Nat × Option PublishingLoop :=
  let goOn (now due : Nat) : Nat × Option PublishingLoop :=
    if loop.closing then
      (1, (lastPublication timers lasting now bound).map fun phase => { loop with phase })
    else
      let (count, phase) := runTicks timers publisher lasting now due bound
      (count, some { loop with phase })
  match loop.phase with
  | .waiting due => goOn now due
  | .publishing finish due => if finish < bound then goOn finish due else (0, some loop)
  | .ending finish => if finish < bound then (0, none) else (0, some loop)

/-- The moment at which a loop that is told to end at `now` has ended, and how often it publishes
until then (`PushHandle::stop`). -/
def stop (lasting now : Nat) (loop : PublishingLoop) : Nat × Nat :=
  match loop.phase with
  | .waiting _ => (timers.wake (now + lasting), 1)
  | .publishing finish _ => (timers.wake (finish + lasting), 1)
  | .ending finish => (finish, 0)

/-- A loop that is started at a moment. -/
def start (publisher : Publisher) (now : Nat) : PublishingLoop :=
  ⟨.waiting (now + publisher.step.nanoseconds), false⟩

end PublishingLoop
end Telemetry
