import Chip8.Controller.Basic

/-!
# Polling a controller

Model of the thread of `Chip8Controller` (`start`, `stop`, `_poll_loop`, `_process_input`). A host
looks at its controller over and over, on a thread of its own. Each round takes up or lets go of a
controller; a round that has one then hands on every event that waits, oldest first. Events that
arrive while no controller is in use wait.
-/

namespace Chip8

/-- What the polling of a controller does to threads. -/
inductive ThreadEvent where
  /-- A thread that polls was started. -/
  | pollStarted
  /-- A thread that runs the machine was started. -/
  | emulationStarted
  /-- The polling thread was waited for. -/
  | joined
  deriving DecidableEq, Repr

/-- A controller, the events that wait for it and whether it is being polled. -/
structure Poller where
  controller : Controller
  waiting : List PadEvent
  running : Bool
  /-- A thread was started to poll. -/
  threaded : Bool
  deriving DecidableEq, Repr

/-- What a round of polling finds: the controllers plugged in and the events that came up. -/
structure PollRound where
  names : List String
  events : List PadEvent
  deriving DecidableEq, Repr

/-- What came of polling. -/
structure Polled where
  poller : Poller
  calls : List PadCall
  notices : List Notice
  deriving DecidableEq, Repr

namespace Poller

/-- Not polling yet. -/
def initial : Poller :=
  ⟨.initial, [], false, false⟩

/-- The rounds of polling in a second. -/
def rate : Nat := 120

/-- Starts polling, on a new thread. -/
def start (p : Poller) : Poller × List ThreadEvent :=
  ({ p with running := true, threaded := true }, [.pollStarted])

/-- Stops polling and waits for the thread if there is one. -/
def stop (p : Poller) : Poller × List ThreadEvent :=
  ({ p with running := false }, if p.threaded then [.joined] else [])

/-- One round of polling, for a host that receives the actions in `bound`. -/
def round (p : Poller) (bound : List Action) (r : PollRound) : Polled :=
  let waiting := p.waiting ++ r.events
  let checked := p.controller.check r.names
  if checked.controller.connected then
    ⟨{ p with controller := checked.controller, waiting := [] },
      checked.calls ++ waiting.flatMap (eventCalls bound), checked.notices⟩
  else
    ⟨{ p with controller := checked.controller, waiting }, checked.calls, checked.notices⟩

/-- Round after round, if the controller is being polled at all. -/
def rounds (p : Poller) (bound : List Action) (rs : List PollRound) : Polled :=
  if p.running then
    rs.foldl (fun done r =>
      let next := done.poller.round bound r
      ⟨next.poller, done.calls ++ next.calls, done.notices ++ next.notices⟩) ⟨p, [], []⟩
  else ⟨p, [], []⟩

end Poller

end Chip8
