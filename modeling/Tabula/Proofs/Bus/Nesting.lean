import Mathlib.Data.Finset.Card
import Mathlib.Data.Fintype.Defs
import Tabula.Proofs.Bus

/-!
# Publications inside one another

Handlers that publish may go round in circles: an event brings up a handler that publishes an event
whose handler publishes the first one again. Nothing about the events themselves ends this. What
ends it is that the handlers of a kind are off the bus while they run, so each publication inside
another finds fewer kinds that have handlers, the *audience* of the bus.

Where no handler subscribes, what was put aside comes back as it was (`Does.handlers_eq`). So the
audience bounds how deep deliveries run inside one another (`Does.level_lt`), and a depth just above
it is enough for a publication to return (`exists_publish?_of_card_le`).
-/

namespace Tabula

instance : Fintype EventKind where
  elems := {.displayed, .recorded, .removed, .takenOver, .pageShown, .failed}
  complete kind := by cases kind <;> decide

namespace Bus

variable {H : Type} {behaviour : Behaviour H} {task : Task H} {event : Event} {kind : EventKind}
  {b b' : Bus H} {trace : List (Mark H)} {depth : Nat}

/-! ### The audience -/

/-- The kinds of events that have handlers. -/
def audience (b : Bus H) : Finset EventKind :=
  Finset.univ.filter fun kind => b.handlers kind ≠ []

@[simp] theorem mem_audience : kind ∈ b.audience ↔ b.handlers kind ≠ [] := by
  simp [audience]

theorem audience_eq_of_handlers_eq (h : b'.handlers = b.handlers) : b'.audience = b.audience := by
  rw [audience, audience, h]

/-- A kind whose handlers are put aside is gone from the audience. -/
theorem audience_setHandlers_nil : (b.setHandlers kind []).audience = b.audience.erase kind := by
  ext other
  by_cases h : other = kind
  · subst h
    simp
  · simp [handlers_setHandlers_of_ne b [] h, h]

theorem card_audience_setHandlers_nil_lt (h : b.handlers kind ≠ []) :
    (b.setHandlers kind []).audience.card < b.audience.card := by
  rw [audience_setHandlers_nil]
  exact Finset.card_erase_lt_of_mem (mem_audience.2 h)

/-! ### Handlers that do not subscribe -/

/-- Handlers that publish and do nothing else with the bus. -/
def OnlyPublishes (behaviour : Behaviour H) : Prop :=
  ∀ delivered handler event, ∀ action ∈ behaviour delivered handler event,
    ∃ e, action = .publish e

/-- Nothing that is still to be done subscribes. -/
def Task.OnlyPublishes : Task H → Prop
  | act actions => ∀ action ∈ actions, ∃ e, action = .publish e
  | _ => True

section Silent

variable (hsilent : OnlyPublishes behaviour)
include hsilent

theorem Does.not_subscribed (h : Does (.of behaviour) task b trace b') (htask : task.OnlyPublishes)
    {handler : H} : Mark.subscribed kind handler ∉ trace := by
  induction h with
  | publish _ ih => exact ih trivial
  | finished => exact List.not_mem_nil
  | next hactions _ _ ihact ihrun =>
    have hactions := hactions ▸ hsilent _ _ _
    simp [ihact hactions, ihrun trivial]
  | idle => exact List.not_mem_nil
  | publishes _ _ ihpublish ihact =>
    have hrest := ihact fun action h => htask action (List.mem_cons_of_mem _ h)
    have hinside := ihpublish trivial
    -- what happens further inside is marked with its level, and a subscription has none
    simp only [List.mem_append, List.mem_map, not_or, not_exists, not_and]
    refine ⟨fun mark hmark => ?_, hrest⟩
    cases mark with
    | ran => simp [Mark.deepen]
    | subscribed =>
      rintro ⟨⟩
      exact hinside hmark
  | subscribes =>
    obtain ⟨_, h⟩ := htask _ List.mem_cons_self
    cases h

/-- Every kind has the handlers that it had, in their order. -/
theorem Does.handlers_eq (h : Does (.of behaviour) task b trace b')
    (htask : task.OnlyPublishes) : b'.handlers = b.handlers := by
  funext kind
  have hnone : trace.filterMap (Mark.subscriber? kind) = [] := by
    rw [List.filterMap_eq_nil_iff]
    intro mark hmark
    cases mark with
    | ran => rfl
    | subscribed => exact absurd hmark (h.not_subscribed hsilent htask)
  rw [h.handlers, hnone, List.append_nil]

/-- The number of levels on which a task may run handlers. The handlers that a task runs itself
take the first one, and their kind is put aside by then. -/
def Task.levels (b : Bus H) : Task H → Nat
  | publish _ => b.audience.card
  | run .. | act _ => b.audience.card + 1

/-- **Depth.** Deliveries run inside one another at most as deep as there are kinds of events that
have handlers. -/
theorem Does.level_lt (h : Does (.of behaviour) task b trace b') (htask : task.OnlyPublishes)
    {level : Nat} {delivery : Delivery H} (hran : .ran level delivery ∈ trace) :
    level < task.levels b := by
  induction h generalizing level with
  | @publish event b after trace hrun ih =>
    -- with its own handlers put aside, the kind no longer counts for what runs inside
    by_cases hnone : b.handlers event.kind = []
    · rw [hnone] at hrun
      cases hrun
      exact absurd hran List.not_mem_nil
    · exact Nat.lt_of_lt_of_le (ih trivial hran) (card_audience_setHandlers_nil_lt hnone)
  | finished => exact absurd hran List.not_mem_nil
  | next hactions hact _ ihact ihrun =>
    have hactions := hactions ▸ hsilent _ _ _
    -- the handlers behind this one find the bus with the handlers that it had
    have hsame := audience_eq_of_handlers_eq (hact.handlers_eq hsilent hactions)
    rcases List.mem_cons.1 hran with hfirst | hran
    · cases hfirst
      exact Nat.succ_pos _
    · rcases List.mem_append.1 hran with hran | hran
      · exact ihact hactions hran
      · have := ihrun trivial hran
        rwa [Task.levels, hsame] at this
  | idle => exact absurd hran List.not_mem_nil
  | @publishes event actions b b₁ _ _ _ hpublish _ ihpublish ihact =>
    have hsame := audience_eq_of_handlers_eq (hpublish.handlers_eq hsilent trivial)
    rcases List.mem_append.1 hran with hran | hran
    · -- a delivery inside this publication is one level below where it was counted
      obtain ⟨mark, hmark, hdeepened⟩ := List.mem_map.1 hran
      cases mark with
      | subscribed => cases hdeepened
      | ran =>
        cases hdeepened
        exact Nat.succ_lt_succ (ihpublish trivial hmark)
    · have := ihact (fun action h => htask action (List.mem_cons_of_mem _ h)) hran
      rwa [Task.levels, hsame] at this
  | subscribes =>
    obtain ⟨_, h⟩ := htask _ List.mem_cons_self
    cases h

/-! ### Publications return -/

/-- With enough depth for each publication inside, a task gets to its end. -/
theorem exists_perform?_of_publish
    (hpublish : ∀ (b' : Bus H) (event : Event), b'.handlers = b.handlers →
      ∃ b'', perform? behaviour depth (.publish event) b' = some b'')
    (htask : task.OnlyPublishes) : ∃ b', perform? behaviour depth task b = some b' := by
  have hact : ∀ (actions : List (BusAction H)) (b' : Bus H), b'.handlers = b.handlers →
      (∀ action ∈ actions, ∃ e, action = .publish e) →
        ∃ b'', perform? behaviour depth (.act actions) b' = some b'' := by
    -- on the actions: each of them leaves the bus with the handlers that it had
    intro actions
    induction actions with
    | nil => exact fun _ _ _ => ⟨_, rfl⟩
    | cons action actions ih =>
      intro b' hsame hactions
      obtain ⟨event, rfl⟩ := hactions action List.mem_cons_self
      obtain ⟨b₁, hfirst⟩ := hpublish b' event hsame
      obtain ⟨_, hdoes⟩ := exists_does_of_perform? hfirst
      rw [perform?_act_cons, follow?, show publish? _ _ _ _ = _ from hfirst]
      exact ih b₁ ((hdoes.handlers_eq hsilent trivial).trans hsame)
        fun action h => hactions action (List.mem_cons_of_mem _ h)
  cases task with
  | publish event => exact hpublish b event rfl
  | act actions => exact hact actions b rfl htask
  | run handlers event =>
    suffices hrun : ∀ b' : Bus H, b'.handlers = b.handlers →
        ∃ b'', perform? behaviour depth (.run handlers event) b' = some b'' from hrun b rfl
    -- on the handlers, for any bus that has the same ones
    induction handlers with
    | nil => exact fun _ _ => ⟨_, rfl⟩
    | cons handler handlers ih =>
      intro b' hsame
      have hactions := hsilent b'.delivered handler event
      obtain ⟨b₁, hfirst⟩ := hact _ (b'.record handler event) hsame hactions
      obtain ⟨_, hdoes⟩ := exists_does_of_perform? hfirst
      rw [perform?_run_cons, hfirst]
      exact ih trivial b₁ ((hdoes.handlers_eq hsilent hactions).trans hsame)

/-- A publication returns where the depth exceeds the number of kinds that have handlers. -/
theorem exists_publish?_of_card_le (event : Event) {count : Nat} (hcount : b.audience.card ≤ count) :
    ∃ b', publish? behaviour (count + 1) b event = some b' := by
  -- on the kinds that have handlers: the handlers of this one are put aside while they run
  induction count generalizing b event with
  | zero =>
    have hnone : b.handlers event.kind = [] := by
      by_contra h
      exact absurd (Finset.card_pos.2 ⟨_, mem_audience.2 h⟩) (by omega)
    exact ⟨_, by rw [publish?, hnone]; rfl⟩
  | succ count ih =>
    by_cases hnone : b.handlers event.kind = []
    · exact ⟨_, by rw [publish?, hnone]; rfl⟩
    · have hfewer := card_audience_setHandlers_nil_lt hnone
      have hrun : ∃ after, perform? behaviour (count + 1) (.run (b.handlers event.kind) event)
          (b.setHandlers event.kind []) = some after :=
        exists_perform?_of_publish hsilent
          (fun b' event hsame => ih event (by rw [audience_eq_of_handlers_eq hsame]; omega)) trivial
      obtain ⟨after, hafter⟩ := hrun
      refine ⟨after.setHandlers event.kind (b.handlers event.kind ++ after.handlers event.kind), ?_⟩
      show perform? behaviour (count + 1 + 1) (.publish event) b = _
      rw [perform?_publish_succ, hafter]
      rfl

end Silent

/-- **Publishing comes to an end.** Where handlers publish whatever they like but do not subscribe,
a publication returns, whatever depth above the number of kinds that have handlers it is given. What
happened until then is told by exactly one trace: deliveries ran inside one another at most as deep
as there are kinds that have handlers. And every kind has the handlers that it had, in their
order. -/
theorem settles_of_onlyPublishes (hsilent : OnlyPublishes behaviour) (b : Bus H) (event : Event) :
    ∃ b' : Bus H, ∃ trace : List (Mark H),
      (∀ depth, b.audience.card < depth → publish? behaviour depth b event = some b') ∧
      (∀ trace' b'', Does (.of behaviour) (.publish event) b trace' b'' ↔
        trace' = trace ∧ b'' = b') ∧
      (∀ level delivery, .ran level delivery ∈ trace → level + 1 ≤ b.audience.card) ∧
      ∀ kind, b'.handlers kind = b.handlers kind := by
  obtain ⟨b', hreturns⟩ :=
    exists_publish?_of_card_le hsilent event (Nat.le_refl b.audience.card)
  obtain ⟨trace, hdoes⟩ := exists_publish?_iff.1 ⟨_, hreturns⟩
  refine ⟨b', trace, fun depth hdepth => ?_, fun trace' b'' => ⟨fun h => h.unique hdoes, ?_⟩,
    fun level delivery hran => hdoes.level_lt hsilent trivial hran,
    fun kind => congrFun (hdoes.handlers_eq hsilent trivial) kind⟩
  · obtain ⟨count, rfl⟩ : ∃ count, depth = count + 1 := ⟨depth - 1, by omega⟩
    obtain ⟨b'', hreturns'⟩ :=
      exists_publish?_of_card_le hsilent event (Nat.le_of_lt_succ hdepth)
    obtain ⟨_, hdoes'⟩ := exists_publish?_iff.1 ⟨_, hreturns'⟩
    rw [hreturns', (hdoes'.unique hdoes).2]
  · rintro ⟨rfl, rfl⟩
    exact hdoes

/-- Handler 0 announces what is recorded as gone and as recorded again, and handler 1 what is gone
as recorded and as gone again. -/
def roundabout : Behaviour Nat
  | _, 0, .recorded number description rows =>
    [.publish (.removed number), .publish (.recorded number description rows)]
  | _, 1, .removed number => [.publish (.recorded number "" 0), .publish (.removed number)]
  | _, _, _ => []

/-- Handlers that call each other in a circle run inside one another once. -/
theorem settles_of_roundabout :
    let b : Bus Nat := { listeners := { recorded := [0, 2], removed := [1] } }
    OnlyPublishes roundabout ∧ b.audience.card = 2 ∧
      ∃ b' : Bus Nat, ∃ trace : List (Mark Nat),
        publish? roundabout 3 b (.recorded 2 "age > 30" 1) = some b' ∧
        Does (.of roundabout) (.publish (.recorded 2 "age > 30" 1)) b trace b' ∧
        (∀ level delivery, .ran level delivery ∈ trace → level + 1 ≤ 2) ∧
        b'.delivered.map Delivery.handler = [2, 1, 0] ∧
        b'.handlers .recorded = [0, 2] ∧ b'.handlers .removed = [1] := by
  intro b
  have hsilent : OnlyPublishes roundabout := by
    intro delivered handler event action h
    unfold roundabout at h
    split at h
    · rcases List.mem_pair.1 h with rfl | rfl <;> exact ⟨_, rfl⟩
    · rcases List.mem_pair.1 h with rfl | rfl <;> exact ⟨_, rfl⟩
    · exact absurd h List.not_mem_nil
  have hcard : b.audience.card = 2 := by decide
  obtain ⟨b', trace, hreturns, hdoes, hlevel, hhandlers⟩ :=
    settles_of_onlyPublishes hsilent b (.recorded 2 "age > 30" 1)
  have hresult := hreturns 3 (by rw [hcard]; decide)
  refine ⟨hsilent, hcard, b', trace, hresult, (hdoes _ _).2 ⟨rfl, rfl⟩, hcard ▸ hlevel, ?_,
    hhandlers .recorded, hhandlers .removed⟩
  -- that each handler ran once is seen by running it
  have hruns : (publish? roundabout 3 b (.recorded 2 "age > 30" 1)).map
      (·.delivered.map Delivery.handler) = some [2, 1, 0] := by decide
  rw [hresult] at hruns
  exact Option.some.inj hruns

end Bus

end Tabula
