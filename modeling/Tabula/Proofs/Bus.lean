import Tabula.Bus

/-!
# What happens on the bus

Publishing is told here as a big-step relation, `Does`, over the *trace* of what happened: which
handlers ran, how many other publications deep, and which handlers subscribed. One constructor
stands for each thing that the bus can be at: publishing an event, running handlers one after the
other, or following what one of them does.

The relation leaves open what handlers do (`Conduct`). Every law of a trace is an induction over it,
so it holds for whatever handlers do, however deep publications run inside one another. The
evaluator `publish?` finds exactly what the relation allows (`exists_publish?_iff`), for handlers
that follow a `Behaviour`; and that they do is no restriction (`Does.exists_behaviour`).
-/

namespace Tabula.Bus

variable {H : Type}

/-- Something that happened on a bus. -/
inductive Mark (H : Type) where
  /-- A handler ran, this many publications inside the one that is looked at. -/
  | ran (level : Nat) (delivery : Delivery H)
  /-- A handler subscribed. -/
  | subscribed (kind : EventKind) (handler : H)

namespace Mark

/-- What happened, seen from one publication further out. -/
def deepen : Mark H → Mark H
  | ran level delivery => ran (level + 1) delivery
  | subscribed kind handler => subscribed kind handler

/-- The delivery, of whichever publication it was. -/
def delivery? : Mark H → Option (Delivery H)
  | ran _ delivery => some delivery
  | subscribed .. => none

/-- The delivery, if it was one of the outermost publication. -/
def outermost? : Mark H → Option (Delivery H)
  | ran 0 delivery => some delivery
  | _ => none

/-- The handler, if one subscribed to this kind. -/
def subscriber? (kind : EventKind) : Mark H → Option H
  | ran .. => none
  | subscribed other handler => if other = kind then some handler else none

@[simp] theorem delivery?_comp_deepen : delivery? ∘ deepen = (delivery? : Mark H → _) := by
  ext mark : 1
  cases mark <;> rfl

@[simp] theorem outermost?_comp_deepen : outermost? ∘ deepen = fun _ : Mark H => none := by
  ext mark : 1
  cases mark <;> rfl

@[simp] theorem subscriber?_comp_deepen (kind : EventKind) :
    subscriber? kind ∘ deepen = (subscriber? kind : Mark H → _) := by
  ext mark : 1
  cases mark <;> rfl

end Mark

/-- What a bus can be at. -/
inductive Task (H : Type) where
  /-- Publishing an event. -/
  | publish (event : Event)
  /-- Running handlers, one after the other. -/
  | run (handlers : List H) (event : Event)
  /-- Following what a handler does. -/
  | act (actions : List (BusAction H))

/-- What handlers may do with an event, given what was delivered before, latest first. -/
abbrev Conduct (H : Type) := List (Delivery H) → H → Event → List (BusAction H) → Prop

/-- Handlers that do what a behaviour says. -/
def Conduct.of (behaviour : Behaviour H) : Conduct H :=
  fun delivered handler event actions => actions = behaviour delivered handler event

/-- The bus takes a task to its end, while this happens. -/
inductive Does (conduct : Conduct H) : Task H → Bus H → List (Mark H) → Bus H → Prop where
  | publish {event : Event} {b after : Bus H} {trace : List (Mark H)}
    (hrun : Does conduct (.run (b.handlers event.kind) event) (b.setHandlers event.kind [])
      trace after) :
    Does conduct (.publish event) b trace
      (after.setHandlers event.kind (b.handlers event.kind ++ after.handlers event.kind))
  | finished {event : Event} {b : Bus H} : Does conduct (.run [] event) b [] b
  | next {handler : H} {handlers : List H} {event : Event} {actions : List (BusAction H)}
    {b b₁ b₂ : Bus H} {trace trace' : List (Mark H)}
    (hactions : conduct b.delivered handler event actions)
    (hact : Does conduct (.act actions) (b.record handler event) trace b₁)
    (hrun : Does conduct (.run handlers event) b₁ trace' b₂) :
    Does conduct (.run (handler :: handlers) event) b
      (.ran 0 ⟨handler, event⟩ :: (trace ++ trace')) b₂
  | idle {b : Bus H} : Does conduct (.act []) b [] b
  | publishes {event : Event} {actions : List (BusAction H)} {b b₁ b₂ : Bus H}
    {trace trace' : List (Mark H)} (hpublish : Does conduct (.publish event) b trace b₁)
    (hact : Does conduct (.act actions) b₁ trace' b₂) :
    Does conduct (.act (.publish event :: actions)) b (trace.map Mark.deepen ++ trace') b₂
  | subscribes {kind : EventKind} {handler : H} {actions : List (BusAction H)} {b b' : Bus H}
    {trace : List (Mark H)} (hact : Does conduct (.act actions) (b.subscribe kind handler) trace b') :
    Does conduct (.act (.subscribe kind handler :: actions)) b
      (.subscribed kind handler :: trace) b'

variable {conduct conduct' : Conduct H} {behaviour : Behaviour H} {task : Task H}
  {event : Event} {b b' b'' : Bus H} {trace trace' : List (Mark H)} {depth depth' : Nat}

/-! ### Laws of a trace -/

/-- The deliveries that a task makes itself. -/
def Task.deliveries (b : Bus H) : Task H → List (Delivery H)
  | publish event => (b.handlers event.kind).map fun handler => ⟨handler, event⟩
  | run handlers event => handlers.map fun handler => ⟨handler, event⟩
  | act _ => []

/-- A publication runs the handlers that there are, each once and in their order, and no other. -/
theorem Does.outermost (h : Does conduct task b trace b') :
    trace.filterMap Mark.outermost? = task.deliveries b := by
  induction h with
  | publish hrun ih => exact ih
  | finished => rfl
  | next _ _ _ ihact ihrun =>
    rw [List.filterMap_cons, List.filterMap_append, ihact, ihrun]
    rfl
  | idle => rfl
  | publishes _ _ _ ihact =>
    -- what a handler publishes runs further inside
    rw [List.filterMap_append, List.filterMap_map, Mark.outermost?_comp_deepen, ihact]
    simp [Task.deliveries]
  | subscribes _ ih => exact ih

/-- The record of deliveries is what ran, latest first. -/
theorem Does.delivered (h : Does conduct task b trace b') :
    b'.delivered = (trace.filterMap Mark.delivery?).reverse ++ b.delivered := by
  induction h with
  | publish hrun ih => exact ih
  | finished => rfl
  | next _ _ _ ihact ihrun =>
    rw [ihrun, ihact]
    simp [Mark.delivery?, record]
  | idle => rfl
  | publishes _ _ ihpublish ihact =>
    -- how deep a handler ran makes no difference to the record
    rw [ihact, ihpublish, List.filterMap_append, List.filterMap_map, Mark.delivery?_comp_deepen,
      List.reverse_append, List.append_assoc]
  | subscribes _ ih => exact ih

theorem handlers_subscribe (b : Bus H) (kind other : EventKind) (handler : H) :
    (b.subscribe kind handler).handlers other =
      b.handlers other ++ if kind = other then [handler] else [] := by
  unfold subscribe
  split
  · next h =>
    subst h
    exact handlers_setHandlers_self ..
  · next h => rw [handlers_setHandlers_of_ne _ _ (Ne.symm h), List.append_nil]

/-- Behind the handlers that there were stand those that subscribed, in the order in which they
did. -/
theorem Does.handlers (h : Does conduct task b trace b') (kind : EventKind) :
    b'.handlers kind = b.handlers kind ++ trace.filterMap (Mark.subscriber? kind) := by
  induction h with
  | @publish event b after trace hrun ih =>
    by_cases hkind : kind = event.kind
    · -- the handlers of this kind were put aside, so only those are there that came since
      subst hkind
      rw [handlers_setHandlers_self, ih, handlers_setHandlers_self, List.nil_append]
    · rw [handlers_setHandlers_of_ne _ _ hkind, ih, handlers_setHandlers_of_ne _ _ hkind]
  | finished => exact (List.append_nil _).symm
  | next _ _ _ ihact ihrun =>
    rw [ihrun, ihact, handlers_record, List.append_assoc, ← List.filterMap_append]
    rfl
  | idle => exact (List.append_nil _).symm
  | publishes _ _ ihpublish ihact =>
    rw [ihact, ihpublish, List.filterMap_append, List.filterMap_map, Mark.subscriber?_comp_deepen,
      List.append_assoc]
  | @subscribes other handler actions b b' trace _ ih =>
    rw [ih, handlers_subscribe, List.filterMap_cons, Mark.subscriber?]
    split <;> simp

/-! ### The evaluator -/

/-- What one thing that a handler does makes of the bus. -/
def follow? (behaviour : Behaviour H) (depth : Nat) (b : Bus H) : BusAction H → Option (Bus H)
  | .publish event => publish? behaviour depth b event
  | .subscribe kind handler => some (b.subscribe kind handler)

/-- Takes a task to its end, with deliveries inside one another at most `depth` deep. -/
def perform? (behaviour : Behaviour H) (depth : Nat) : Task H → Bus H → Option (Bus H)
  | .publish event, b => publish? behaviour depth b event
  | .run handlers event, b =>
    handlers.foldlM (fun b handler =>
      (behaviour b.delivered handler event).foldlM (follow? behaviour depth)
        (b.record handler event)) b
  | .act actions, b => actions.foldlM (follow? behaviour depth) b

theorem perform?_publish_succ :
    perform? behaviour (depth + 1) (.publish event) b =
      (perform? behaviour depth (.run (b.handlers event.kind) event)
        (b.setHandlers event.kind [])).map fun after =>
          after.setHandlers event.kind (b.handlers event.kind ++ after.handlers event.kind) := by
  rw [Option.map_eq_bind]
  show publish? behaviour (depth + 1) b event = _
  rw [publish?]
  rfl

theorem perform?_run_cons {handler : H} {handlers : List H} :
    perform? behaviour depth (.run (handler :: handlers) event) b =
      (perform? behaviour depth (.act (behaviour b.delivered handler event))
        (b.record handler event)).bind (perform? behaviour depth (.run handlers event)) :=
  rfl

theorem perform?_act_cons {action : BusAction H} {actions : List (BusAction H)} :
    perform? behaviour depth (.act (action :: actions)) b =
      (follow? behaviour depth b action).bind (perform? behaviour depth (.act actions)) :=
  rfl

/-- What is found with enough depth for the publications inside is what the relation allows. -/
theorem exists_does_of_depth
    (hpublish : ∀ {b b' : Bus H} {event : Event},
      perform? behaviour depth (.publish event) b = some b' →
        ∃ trace, Does (.of behaviour) (.publish event) b trace b')
    (h : perform? behaviour depth task b = some b') :
    ∃ trace, Does (.of behaviour) task b trace b' := by
  have hact : ∀ (actions : List (BusAction H)) {b b' : Bus H},
      perform? behaviour depth (.act actions) b = some b' →
        ∃ trace, Does (.of behaviour) (.act actions) b trace b' := by
    -- on the actions, for any bus: each of them starts on the one that the last one left
    intro actions
    induction actions with
    | nil =>
      intro b b' h
      obtain rfl := Option.some.inj h
      exact ⟨_, .idle⟩
    | cons action actions ih =>
      intro b b' h
      rw [perform?_act_cons] at h
      obtain ⟨b₁, hfollow, hrest⟩ := Option.bind_eq_some_iff.1 h
      obtain ⟨trace', hdoes'⟩ := ih hrest
      cases action with
      | publish event =>
        obtain ⟨trace, hdoes⟩ := hpublish hfollow
        exact ⟨_, .publishes hdoes hdoes'⟩
      | subscribe kind handler =>
        obtain rfl := Option.some.inj hfollow
        exact ⟨_, .subscribes hdoes'⟩
  cases task with
  | publish event => exact hpublish h
  | act actions => exact hact actions h
  | run handlers event =>
    -- on the handlers: what one of them does is a list of actions, and the next starts where it
    -- ends
    induction handlers generalizing b with
    | nil =>
      obtain rfl := Option.some.inj h
      exact ⟨_, .finished⟩
    | cons handler handlers ih =>
      rw [perform?_run_cons] at h
      obtain ⟨b₁, hfollow, hrest⟩ := Option.bind_eq_some_iff.1 h
      obtain ⟨trace, hdoes⟩ := hact _ hfollow
      obtain ⟨trace', hdoes'⟩ := ih hrest
      exact ⟨_, .next rfl hdoes hdoes'⟩

/-- What the evaluator finds is what the relation allows. -/
theorem exists_does_of_perform? (h : perform? behaviour depth task b = some b') :
    ∃ trace, Does (.of behaviour) task b trace b' := by
  -- on the depth: a publication takes one level, and what it does inside has the rest
  induction depth generalizing task b b' with
  | zero => exact exists_does_of_depth (fun h => absurd h (by simp [perform?, publish?])) h
  | succ depth ih =>
    refine exists_does_of_depth (fun h => ?_) h
    rw [perform?_publish_succ] at h
    obtain ⟨after, hrun, rfl⟩ := Option.map_eq_some_iff.1 h
    obtain ⟨trace, hdoes⟩ := ih hrun
    exact ⟨_, .publish hdoes⟩

/-- What the relation allows is found, with any depth from some on. -/
theorem Does.exists_perform? (h : Does (.of behaviour) task b trace b') :
    ∃ depth, ∀ depth', depth ≤ depth' → perform? behaviour depth' task b = some b' := by
  -- a publication needs one level more than what is done inside, and of two parts that follow one
  -- another the deeper one decides
  induction h with
  | publish _ ih =>
    obtain ⟨depth, ih⟩ := ih
    refine ⟨depth + 1, fun depth' hle => ?_⟩
    obtain ⟨depth', rfl⟩ : ∃ n, depth' = n + 1 := ⟨depth' - 1, by omega⟩
    rw [perform?_publish_succ, ih depth' (Nat.le_of_succ_le_succ hle)]
    rfl
  | finished => exact ⟨0, fun _ _ => rfl⟩
  | next hactions _ _ ihact ihrun =>
    obtain ⟨depth₁, ihact⟩ := ihact
    obtain ⟨depth₂, ihrun⟩ := ihrun
    refine ⟨max depth₁ depth₂, fun depth' hle => ?_⟩
    rw [perform?_run_cons, ← hactions, ihact depth' (Nat.le_trans (Nat.le_max_left ..) hle)]
    exact ihrun depth' (Nat.le_trans (Nat.le_max_right ..) hle)
  | idle => exact ⟨0, fun _ _ => rfl⟩
  | publishes _ _ ihpublish ihact =>
    obtain ⟨depth₁, ihpublish⟩ := ihpublish
    obtain ⟨depth₂, ihact⟩ := ihact
    refine ⟨max depth₁ depth₂, fun depth' hle => ?_⟩
    have hfollow := ihpublish depth' (Nat.le_trans (Nat.le_max_left ..) hle)
    rw [perform?_act_cons, follow?, show publish? _ _ _ _ = _ from hfollow]
    exact ihact depth' (Nat.le_trans (Nat.le_max_right ..) hle)
  | subscribes _ ih =>
    obtain ⟨depth, ih⟩ := ih
    exact ⟨depth, fun depth' hle => ih depth' hle⟩

/-- **The evaluator.** A publication returns with some depth just if the relation takes it to its
end, and then with the same bus. -/
theorem exists_publish?_iff :
    (∃ depth, publish? behaviour depth b event = some b') ↔
      ∃ trace, Does (.of behaviour) (.publish event) b trace b' := by
  constructor
  · rintro ⟨depth, h⟩
    exact exists_does_of_perform? (show perform? behaviour depth (.publish event) b = _ from h)
  · rintro ⟨trace, h⟩
    obtain ⟨depth, hdepth⟩ := h.exists_perform?
    exact ⟨depth, hdepth depth (Nat.le_refl _)⟩

/-- What handlers do decides what happens. -/
theorem Does.unique (h : Does (.of behaviour) task b trace b')
    (h' : Does (.of behaviour) task b trace' b'') : trace = trace' ∧ b' = b'' := by
  -- on the one course of events: the other must take the same rule each time
  induction h generalizing trace' b'' with
  | publish _ ih =>
    cases h' with
    | publish hrun' =>
      obtain ⟨rfl, rfl⟩ := ih hrun'
      exact ⟨rfl, rfl⟩
  | finished =>
    cases h'
    exact ⟨rfl, rfl⟩
  -- the handler does the same both times, so the two runs meet again behind it
  | next hactions _ _ ihact ihrun =>
    cases h' with
    | next hactions' hact' hrun' =>
      obtain rfl := hactions.trans hactions'.symm
      obtain ⟨rfl, rfl⟩ := ihact hact'
      obtain ⟨rfl, rfl⟩ := ihrun hrun'
      exact ⟨rfl, rfl⟩
  | idle =>
    cases h'
    exact ⟨rfl, rfl⟩
  | publishes _ _ ihpublish ihact =>
    cases h' with
    | publishes hpublish' hact' =>
      obtain ⟨rfl, rfl⟩ := ihpublish hpublish'
      obtain ⟨rfl, rfl⟩ := ihact hact'
      exact ⟨rfl, rfl⟩
  | subscribes _ ih =>
    cases h' with
    | subscribes hact' =>
      obtain ⟨rfl, rfl⟩ := ih hact'
      exact ⟨rfl, rfl⟩

/-! ### Handlers that follow a behaviour -/

theorem Does.length_delivered_le (h : Does conduct task b trace b') :
    b.delivered.length ≤ b'.delivered.length := by
  rw [h.delivered, List.length_append]
  exact Nat.le_add_left ..

/-- Only what handlers do while the task is under way matters, and the number of deliveries tells
when that is. -/
theorem Does.imp (h : Does conduct task b trace b')
    (himp : ∀ delivered handler event actions, b.delivered.length ≤ delivered.length →
      delivered.length < b'.delivered.length → conduct delivered handler event actions →
        conduct' delivered handler event actions) :
    Does conduct' task b trace b' := by
  induction h with
  | publish _ ih => exact .publish (ih himp)
  | finished => exact .finished
  | @next handler handlers event actions b b₁ b₂ _ _ hactions hact hrun ihact ihrun =>
    -- the run of this handler comes first, then what it does, then the other handlers
    have hb₁ : b.delivered.length + 1 ≤ b₁.delivered.length := hact.length_delivered_le
    have hb₂ := hrun.length_delivered_le
    refine .next (himp _ _ _ _ (Nat.le_refl _) (Nat.lt_of_lt_of_le hb₁ hb₂) hactions)
      (ihact fun _ _ _ _ hle hlt => himp _ _ _ _ ?_ (Nat.lt_of_lt_of_le hlt hb₂))
      (ihrun fun _ _ _ _ hle => himp _ _ _ _ (Nat.le_trans (Nat.le_of_succ_le hb₁) hle))
    exact Nat.le_of_succ_le hle
  | idle => exact .idle
  | publishes hpublish hact ihpublish ihact =>
    have hb₁ := hpublish.length_delivered_le
    have hb₂ := hact.length_delivered_le
    exact .publishes
      (ihpublish fun _ _ _ _ hle hlt => himp _ _ _ _ hle (Nat.lt_of_lt_of_le hlt hb₂))
      (ihact fun _ _ _ _ hle => himp _ _ _ _ (Nat.le_trans hb₁ hle))
  | subscribes _ ih => exact .subscribes (ih himp)

/-- The behaviour that is one up to so many deliveries and another from there on. -/
def switchAt (count : Nat) (first second : Behaviour H) : Behaviour H :=
  fun delivered handler event =>
    if delivered.length < count then first delivered handler event
    else second delivered handler event

theorem Does.switchAt_left {first second : Behaviour H} {count : Nat}
    (h : Does (.of first) task b trace b') (hle : b'.delivered.length ≤ count) :
    Does (.of (switchAt count first second)) task b trace b' := by
  refine h.imp fun delivered _ _ _ _ hlt hactions => ?_
  have hcount := Nat.lt_of_lt_of_le hlt hle
  simpa [Conduct.of, switchAt, hcount] using hactions

theorem Does.switchAt_right {first second : Behaviour H} {count : Nat}
    (h : Does (.of second) task b trace b') (hle : count ≤ b.delivered.length) :
    Does (.of (switchAt count first second)) task b trace b' := by
  refine h.imp fun delivered _ _ _ hge _ hactions => ?_
  have hcount := Nat.not_lt_of_le (Nat.le_trans hle hge)
  simpa [Conduct.of, switchAt, hcount] using hactions

/-- **Behaviours.** Whatever handlers do, there is a behaviour that has them do it: each run of a
handler finds more deliveries on record than the one before. -/
theorem Does.exists_behaviour (h : Does conduct task b trace b') :
    ∃ behaviour : Behaviour H, Does (.of behaviour) task b trace b' := by
  induction h with
  | publish _ ih => exact ih.imp fun _ h => .publish h
  | finished => exact ⟨fun _ _ _ => [], .finished⟩
  | @next handler handlers event actions b b₁ _ _ _ _ hact _ ihact ihrun =>
    obtain ⟨first, hfirst⟩ := ihact
    obtain ⟨second, hsecond⟩ := ihrun
    -- the handler itself finds the record as it was, those that it calls find it longer, and the
    -- handlers behind it find it longer than any of these
    refine ⟨switchAt (b.delivered.length + 1) (fun _ _ _ => actions)
      (switchAt b₁.delivered.length first second),
      @Does.next _ _ _ _ _ actions _ b₁ _ _ _ ?_ ?_ ?_⟩
    · simp [Conduct.of, switchAt]
    · exact (hfirst.switchAt_left (Nat.le_refl _)).switchAt_right (Nat.le_refl _)
    · exact (hsecond.switchAt_right (Nat.le_refl _)).switchAt_right hact.length_delivered_le
  | idle => exact ⟨fun _ _ _ => [], .idle⟩
  | @publishes _ _ _ b₁ _ _ _ _ _ ihpublish ihact =>
    obtain ⟨first, hfirst⟩ := ihpublish
    obtain ⟨second, hsecond⟩ := ihact
    exact ⟨switchAt b₁.delivered.length first second,
      .publishes (hfirst.switchAt_left (Nat.le_refl _)) (hsecond.switchAt_right (Nat.le_refl _))⟩
  | subscribes _ ih => exact ih.imp fun _ h => .subscribes h

/-! ### Publications that return -/

/-- **Delivery.** When a publication returns, exactly one trace tells what happened. The outermost
runs in it are those of the handlers that the event had when it was published, each once, in the
order in which they had subscribed and with that event; a handler that subscribed since is not among
them. What was delivered on the way, at any level, is on record. And for every kind of event, behind
the handlers that there were stand those that subscribed on the way, in the order in which they
did. -/
theorem delivery_of_publish? (h : publish? behaviour depth b event = some b') :
    ∃ trace : List (Mark H),
      (∀ trace' b'', Does (.of behaviour) (.publish event) b trace' b'' ↔
        trace' = trace ∧ b'' = b') ∧
      trace.filterMap Mark.outermost? =
        (b.handlers event.kind).map (fun handler => ⟨handler, event⟩) ∧
      b'.delivered = (trace.filterMap Mark.delivery?).reverse ++ b.delivered ∧
      ∀ kind, b'.handlers kind = b.handlers kind ++ trace.filterMap (Mark.subscriber? kind) := by
  obtain ⟨trace, hdoes⟩ := exists_publish?_iff.1 ⟨depth, h⟩
  refine ⟨trace, fun trace' b'' => ⟨fun hdoes' => hdoes'.unique hdoes, ?_⟩, hdoes.outermost,
    hdoes.delivered, hdoes.handlers⟩
  rintro ⟨rfl, rfl⟩
  exact hdoes

/-- Handler 0 announces that what was recorded is gone, and subscribes handler 2. -/
def announceRemoval : Behaviour Nat
  | _, 0, .recorded number .. => [.publish (.removed number), .subscribe .recorded 2]
  | _, _, _ => []

/-- A bus with two handlers of what is recorded, and one of what is removed. -/
def announcing : Bus Nat where
  listeners := { recorded := [0, 1], removed := [3] }

/-- The handler that subscribes while an event is delivered does not run with it, and stands last
afterwards; the one of the event that is published meanwhile runs inside. -/
theorem delivery_of_announceRemoval :
    ∃ b' : Bus Nat, ∃ trace : List (Mark Nat),
      publish? announceRemoval 2 announcing (.recorded 2 "age > 30" 1) = some b' ∧
      trace.filterMap Mark.outermost? =
        [⟨0, .recorded 2 "age > 30" 1⟩, ⟨1, .recorded 2 "age > 30" 1⟩] ∧
      b'.delivered.map Delivery.handler = [1, 3, 0] ∧
      b'.handlers .recorded = [0, 1] ++ trace.filterMap (Mark.subscriber? .recorded) ∧
      b'.handlers .recorded = [0, 1, 2] := by
  have h : publish? announceRemoval 2 announcing (.recorded 2 "age > 30" 1) = some _ := rfl
  obtain ⟨trace, -, houtermost, -, hhandlers⟩ := delivery_of_publish? h
  exact ⟨_, trace, h, houtermost, rfl, hhandlers .recorded, rfl⟩

end Tabula.Bus
