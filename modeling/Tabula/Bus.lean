import Tabula.Event

/-!
# The event bus

A bus holds, for each kind of event, the handlers that listen to it, in the order in which they
subscribed. Publishing an event runs these handlers one after the other. A handler may publish
further events and subscribe further handlers while it runs.

While the handlers of a kind run, the kind has no handlers on the bus: an event of that kind
published meanwhile meets only handlers that subscribed meanwhile. Afterwards the list is what it
was, followed by the handlers that subscribed meanwhile.

What a handler does is a parameter, `Behaviour`, and may depend on everything that was delivered
before. Handlers can keep each other going without end, so publishing takes a bound on how deep
deliveries may run inside one another, and has no result where the bound is too small.
-/

namespace Tabula

/-- What a handler does with the bus. -/
inductive BusAction (H : Type) where
  /-- Publishes an event. -/
  | publish (event : Event)
  /-- Subscribes a handler to a kind of events. -/
  | subscribe (kind : EventKind) (handler : H)
deriving Repr

/-- A handler ran with an event. -/
structure Delivery (H : Type) where
  /-- The handler. -/
  handler : H
  /-- The event. -/
  event : Event
deriving DecidableEq, Repr

/-- What each handler does with an event, given what was delivered before, latest first. -/
abbrev Behaviour (H : Type) := List (Delivery H) → H → Event → List (BusAction H)

/-- A list of handlers for each kind of event, in the order in which they subscribed. -/
structure Listeners (H : Type) where
  /-- The handlers of `EventKind.displayed`. -/
  displayed : List H := []
  /-- The handlers of `EventKind.recorded`. -/
  recorded : List H := []
  /-- The handlers of `EventKind.removed`. -/
  removed : List H := []
  /-- The handlers of `EventKind.takenOver`. -/
  takenOver : List H := []
  /-- The handlers of `EventKind.pageShown`. -/
  pageShown : List H := []
  /-- The handlers of `EventKind.failed`. -/
  failed : List H := []
deriving DecidableEq, Repr

namespace Listeners

variable {H : Type}

/-- The handlers of a kind. -/
def get (l : Listeners H) : EventKind → List H
  | .displayed => l.displayed
  | .recorded => l.recorded
  | .removed => l.removed
  | .takenOver => l.takenOver
  | .pageShown => l.pageShown
  | .failed => l.failed

/-- The listeners with other handlers for one kind. -/
def set (l : Listeners H) (kind : EventKind) (handlers : List H) : Listeners H :=
  match kind with
  | .displayed => { l with displayed := handlers }
  | .recorded => { l with recorded := handlers }
  | .removed => { l with removed := handlers }
  | .takenOver => { l with takenOver := handlers }
  | .pageShown => { l with pageShown := handlers }
  | .failed => { l with failed := handlers }

@[simp] theorem get_set_self (l : Listeners H) (kind : EventKind) (handlers : List H) :
    (l.set kind handlers).get kind = handlers := by
  cases kind <;> rfl

theorem get_set_of_ne (l : Listeners H) {kind other : EventKind} (handlers : List H)
    (h : other ≠ kind) : (l.set kind handlers).get other = l.get other := by
  cases kind <;> cases other <;> simp_all [set, get]

end Listeners

/-- Handlers by kind of event, and what was delivered. -/
structure Bus (H : Type) where
  /-- The handlers. -/
  listeners : Listeners H := {}
  /-- What was delivered, latest first. -/
  delivered : List (Delivery H) := []
deriving DecidableEq, Repr

namespace Bus

variable {H : Type}

/-- The handlers of a kind, in the order in which they subscribed. -/
def handlers (b : Bus H) (kind : EventKind) : List H :=
  b.listeners.get kind

/-- The bus with other handlers for one kind. -/
def setHandlers (b : Bus H) (kind : EventKind) (handlers : List H) : Bus H :=
  { b with listeners := b.listeners.set kind handlers }

/-- The bus with one more handler for a kind. -/
def subscribe (b : Bus H) (kind : EventKind) (handler : H) : Bus H :=
  b.setHandlers kind (b.handlers kind ++ [handler])

/-- The bus with a delivery on record. -/
def record (b : Bus H) (handler : H) (event : Event) : Bus H :=
  { b with delivered := ⟨handler, event⟩ :: b.delivered }

/-- Publishes an event, with deliveries inside one another at most `depth` deep. -/
def publish? (behaviour : Behaviour H) : Nat → Bus H → Event → Option (Bus H)
  | 0, _, _ => none
  | depth + 1, b, event => do
    let running := b.handlers event.kind
    let after ← running.foldlM
      (fun b handler =>
        (behaviour b.delivered handler event).foldlM
          (fun b action =>
            match action with
            | .publish e => publish? behaviour depth b e
            | .subscribe kind h => some (b.subscribe kind h))
          (b.record handler event))
      (b.setHandlers event.kind [])
    return after.setHandlers event.kind (running ++ after.handlers event.kind)

/-! ### The handlers of a kind -/

@[simp] theorem handlers_setHandlers_self (b : Bus H) (kind : EventKind) (handlers : List H) :
    (b.setHandlers kind handlers).handlers kind = handlers :=
  b.listeners.get_set_self kind handlers

theorem handlers_setHandlers_of_ne (b : Bus H) {kind other : EventKind} (handlers : List H)
    (h : other ≠ kind) : (b.setHandlers kind handlers).handlers other = b.handlers other :=
  b.listeners.get_set_of_ne handlers h

@[simp] theorem handlers_record (b : Bus H) (handler : H) (event : Event) :
    (b.record handler event).handlers = b.handlers := rfl

end Bus

end Tabula
