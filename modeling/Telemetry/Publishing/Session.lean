import Telemetry.Publishing.Loop
import Telemetry.Session.Basic
/-!
A publisher in use, in virtual time: it publishes by hand or in a loop while registry steps go on.
Virtual time passes while someone sleeps or publishes; the registry's clock is another one.
-/
namespace Telemetry.Publishing

/-- One publication. -/
structure Publication where
  wallMillis : Int
  /-- Whether the target could not be reached. -/
  fails : Bool
  meters : List MeterId
deriving DecidableEq

/-- A publisher in use. -/
structure Running where
  publisher : Publisher
  session : Session
  timers : Timers := .milliseconds
  /-- Virtual time in nanoseconds. -/
  now : Nat := 0
  /-- How long each publication lasts. -/
  lasting : Nat := 0
  fails : Bool := false
  /-- The loop that can be stopped. -/
  loop : Option PublishingLoop := none
  /-- Loops that nobody can stop any more. -/
  abandoned : List PublishingLoop := []

/-- A step. -/
inductive Step where
  | start
  | publish
  | sleep (length : Duration)
  /-- Lets publications fail from now on, or succeed. -/
  | fail (fails : Bool)
  /-- Says how long publications last from now on. -/
  | takes (length : Duration)
  /-- Ends the loop and waits until it has ended. -/
  | stop
  /-- Lets the loop end when time passes. -/
  | abandon
  | registry (step : Session.Step)

/-- The answer to a step. -/
inductive Answer where
  | nothing
  | done
  | failed (error : Error)
  | noLoop
  | registry (answer : Session.Answer)

namespace Running

/-- What is published now. -/
def publication (running : Running) : Publication where
  wallMillis := running.session.registry.clock.wallMillis.toInt
  fails := running.fails
  meters := running.session.registry.meters.map fun (_, meter) => meter.id

/-- Lets the abandoned loops run until just before a moment. -/
def runAbandoned (running : Running) (bound : Nat) : Nat × Running :=
  let ran := running.abandoned.map (·.run running.timers running.publisher running.lasting running.now bound)
  ((ran.map (·.1)).sum, { running with abandoned := ran.filterMap (·.2) })

/-- Lets time pass up to a moment, from which whoever waited for it goes on first. -/
def passTo (running : Running) (moment : Nat) : Nat × Running :=
  if running.now < moment then
    let (before, running) := running.runAbandoned moment
    let (count, loop) := match running.loop with
      | none => (0, none)
      | some loop => loop.run running.timers running.publisher running.lasting running.now moment
    (before + count, { running with loop, now := moment })
  else (0, running)

/-- Gives the loop up; it ends when time passes. -/
def abandonLoop (running : Running) : Running :=
  { running with
    loop := none
    abandoned := running.abandoned ++
      running.loop.toList.map fun loop => { loop with closing := true } }

/-- Takes a step; says how many publications were begun. -/
def stepCounting (running : Running) : Step → (Nat × Running) × Answer
  | .start =>
    let running := running.abandonLoop
    ((0, { running with loop := some (.start running.publisher running.now) }), .nothing)
  | .publish =>
    let (count, after) :=
      running.passTo (running.timers.wake (running.now + running.lasting))
    ((count + 1, after),
      if running.fails then .failed (.publishing running.publisher.backend "unreachable") else .done)
  | .sleep length =>
    (running.passTo (running.timers.wake (running.now + length.nanoseconds)), .nothing)
  | .fail fails => ((0, { running with fails }), .nothing)
  | .takes length => ((0, { running with lasting := length.nanoseconds }), .nothing)
  | .stop =>
    match running.loop with
    | none => ((0, running), .noLoop)
    | some loop =>
      let (ended, count) := loop.stop running.timers running.lasting running.now
      let (others, running) := running.runAbandoned (ended + 1)
      ((others + count, { running with loop := none, now := ended }), .done)
  | .abandon => ((0, running.abandonLoop), .nothing)
  | .registry step =>
    let (session, answer) := running.session.step step
    ((0, { running with session }), .registry answer)

/-- Takes a step; gives its answer and the publications that were begun. Nothing that shows in a
publication changes while time passes. -/
def step (running : Running) (step : Step) : Running × Answer × List Publication :=
  let ((count, after), answer) := running.stepCounting step
  (after, answer, List.replicate count running.publication)

/-- Takes some steps, one after the other. -/
def run (running : Running) : List Step → List (Answer × List Publication)
  | [] => []
  | step :: steps =>
    let (running, answer) := running.step step
    answer :: running.run steps

end Running
end Telemetry.Publishing
