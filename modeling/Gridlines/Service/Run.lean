import Gridlines.Http.Server

/-!
# Runs of the service

While the service runs, datasets are offered to its slot and loaded into it, and questions,
intents, summaries and requests are answered from it, in any order.  `Service.step` is one such
event.  Files and time may be others at each event, so a run goes through **moments**, events
together with the service that they happen to.

* `Slot.run` : what happened at each moment.
* `Slot.final` : the slot after the last of them.
-/

namespace Gridlines

/-- Something that happens to a running service. -/
inductive Event where
  /-- A dataset is offered. -/
  | install (d : Dataset)
  /-- A file is loaded in the background. -/
  | load (path : String)
  /-- A question is answered. -/
  | answer (query : String)
  /-- An intent is answered. -/
  | execute (intent : Intent)
  /-- A summary is asked for, with so many samples. -/
  | summary (top : Nat)
  /-- A request is answered. -/
  | request (r : Http.Request)

/-- What comes back from an event. -/
inductive Effect where
  | installed
  /-- The dataset was not taken and is handed back. -/
  | handedBack (d : Dataset)
  /-- The load has ended, well or not. -/
  | finished
  | answered (r : Except Unavailable Response)
  | executed (r : Except Unavailable Result)
  | summarized (s : Option Summary)
  | replied (r : Http.Reply)

/-- A running service: what answers requests, and the world that files are loaded from. -/
structure Service where
  server : Http.Server
  files : Files
  /-- The time, as text. -/
  now : String

namespace Service

/-- One event: the slot then, and what comes back. -/
def step (service : Service) (slot : Slot) : Event → Slot × Effect
  | .install d =>
    match slot.install d with
    | (slot, none) => (slot, .installed)
    | (slot, some d) => (slot, .handedBack d)
  | .load path => (slot.load service.now service.files path, .finished)
  | .answer query => (slot, .answered (slot.answer query))
  | .execute intent => (slot, .executed (slot.execute intent))
  | .summary top => (slot, .summarized (slot.dataset.map (·.summary top)))
  | .request r => (slot, .replied (service.server.respond slot r))

end Service

/-- An event and the service that it happens to.  A load happens when its dataset is offered to
the slot; its files and its time are those of the reading before. -/
structure Moment where
  service : Service
  event : Event

/-- What happened at a moment. -/
structure Occurrence where
  moment : Moment
  /-- The slot before the event. -/
  before : Slot
  /-- What came back from it. -/
  effect : Effect
  /-- The slot after it. -/
  after : Slot

namespace Moment

/-- The event of a moment: the slot then, and what comes back. -/
def step (m : Moment) (slot : Slot) : Slot × Effect := m.service.step slot m.event

/-- What happens at a moment. -/
def occur (m : Moment) (slot : Slot) : Occurrence :=
  ⟨m, slot, (m.step slot).2, (m.step slot).1⟩

end Moment

namespace Slot

/-- A run through moments: what happened at each of them. -/
def run (slot : Slot) : List Moment → List Occurrence
  | [] => []
  | m :: ms => m.occur slot :: run (m.step slot).1 ms

/-- The slot after a run. -/
def final (slot : Slot) (ms : List Moment) : Slot :=
  ms.foldl (fun slot m => (m.step slot).1) slot

end Slot

end Gridlines
