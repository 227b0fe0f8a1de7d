import Mathlib.Data.List.Infix
import Roole.Core.Queues
import Roole.Lib.Runs
import Roole.Lib.SlotTable

/-!
# The event bus

For every event type a table of subscribers, and one queue between the publishers
and the dispatch thread. A call of the bus is one step, and so is one round of the
dispatch thread: it takes an event from the queue and calls the subscribers of the
event's type in slot order. What is proved is about the log of a run, which has
every step with its answer.
-/

namespace Roole.Queues

def maxSubscribersPerType : Nat := 16

structure Subscriber (η δ : Type) where
  handler : η
  userData : δ
  deriving DecidableEq, Repr

structure EventBus (η δ : Type) where
  subscribers : EventType → SlotTable (Subscriber η δ) maxSubscribersPerType
  queue : CircularArray Event
  eventsPublished : UInt64
  eventsDispatched : UInt64
  eventsDropped : UInt64

structure HandlerCall (η δ : Type) where
  handler : η
  event : Event
  userData : δ
  deriving DecidableEq, Repr

/-- The events the handlers are called with, and what the call or the round
returns; a round that is still waiting returns nothing yet. -/
structure BusReply (η δ : Type) where
  result : Option Int
  delivered : Option (Event × List (HandlerCall η δ)) := none
  deriving DecidableEq

inductive BusStep (η δ : Type)
  /-- `NULL` for the handler is `none`. -/
  | subscribe (type : EventType) (handler : Option η) (userData : δ)
  | unsubscribe (type : EventType) (handler : Option η)
  | publish (event : Event)
  | publishSync (event : Event)
  /-- `timedOut` says whether the timed wait of a round ends without an event. -/
  | dispatch (timedOut : Bool)
  deriving DecidableEq

namespace EventBus

variable {η δ : Type} [DecidableEq η]

def create : EventBus η δ where
  subscribers _ := SlotTable.empty maxSubscribersPerType
  queue := .init .zero eventQueueSize
  eventsPublished := 0
  eventsDispatched := 0
  eventsDropped := 0

def subscribe (bus : EventBus η δ) (type : EventType) (handler : Option η) (userData : δ) :
    Int × EventBus η δ :=
  match handler with
  | none => (-1, bus)
  | some handler =>
    if type = .max then (-1, bus)
    else
      match (bus.subscribers type).store ⟨handler, userData⟩ with
      | none => (-1, bus)
      | some table => (0, { bus with subscribers := Function.update bus.subscribers type table })

def unsubscribe (bus : EventBus η δ) (type : EventType) (handler : Option η) :
    Int × EventBus η δ :=
  match handler with
  | none => (-1, bus)
  | some handler =>
    if type = .max then (-1, bus)
    else
      match (bus.subscribers type).release fun sub => decide (sub.handler = handler) with
      | none => (-1, bus)
      | some table => (0, { bus with subscribers := Function.update bus.subscribers type table })

def publish (bus : EventBus η δ) (event : Event) : Int × EventBus η δ :=
  let bus := { bus with eventsPublished := bus.eventsPublished + 1 }
  match eventQueuePush bus.queue event false with
  | some (0, queue) => (0, { bus with queue := queue })
  | _ => (-1, { bus with eventsDropped := bus.eventsDropped + 1 })

def dispatchEventToSubscribers (bus : EventBus η δ) (event : Event) :
    List (HandlerCall η δ) × EventBus η δ :=
  if event.type = .max then ([], bus)
  else
    let calls := (bus.subscribers event.type).items.map fun sub =>
      ⟨sub.handler, event, sub.userData⟩
    (calls, { bus with eventsDispatched := bus.eventsDispatched + UInt64.ofNat calls.length })

def publishSync (bus : EventBus η δ) (event : Event) :
    Int × List (HandlerCall η δ) × EventBus η δ :=
  let bus := { bus with eventsPublished := bus.eventsPublished + 1 }
  (0, dispatchEventToSubscribers bus event)

/-- One round of the dispatch thread. -/
def dispatchRound (bus : EventBus η δ) (timedOut : Bool) : BusReply η δ × EventBus η δ :=
  match eventQueuePop bus.queue 100 timedOut with
  | none => ({ result := none }, bus)
  | some ((result, none), queue) => ({ result := some result }, { bus with queue := queue })
  | some ((result, some event), queue) =>
    let (calls, bus) := dispatchEventToSubscribers { bus with queue := queue } event
    ({ result := some result, delivered := some (event, calls) }, bus)

def step (bus : EventBus η δ) : BusStep η δ → BusReply η δ × EventBus η δ
  | .subscribe type handler userData =>
    let (result, bus) := bus.subscribe type handler userData
    ({ result := some result }, bus)
  | .unsubscribe type handler =>
    let (result, bus) := bus.unsubscribe type handler
    ({ result := some result }, bus)
  | .publish event =>
    let (result, bus) := bus.publish event
    ({ result := some result }, bus)
  | .publishSync event =>
    let (result, calls, bus) := bus.publishSync event
    ({ result := some result, delivered := some (event, calls) }, bus)
  | .dispatch timedOut => bus.dispatchRound timedOut

end EventBus

-- ----------------------------------------------------------------------------
-- The log of a run
-- ----------------------------------------------------------------------------

abbrev BusLog (η δ : Type) := List (BusStep η δ × BusReply η δ)

namespace BusLog

variable {η δ : Type} [DecidableEq η]

/-- The events that `event_bus_publish` took, in order. -/
def accepted (log : BusLog η δ) : List Event :=
  log.filterMap fun
    | (.publish event, reply) => if reply.result = some 0 then some event else none
    | _ => none

def dispatched (log : BusLog η δ) : List Event :=
  log.filterMap fun
    | (.dispatch _, reply) => reply.delivered.map Prod.fst
    | _ => none

def delivered (log : BusLog η δ) : List Event :=
  log.filterMap fun (_, reply) => reply.delivered.map Prod.fst

/-- How often a handler was subscribed to the type. -/
def subscribed (type : EventType) (handler : η) (log : BusLog η δ) : Nat :=
  log.countP fun
    | (.subscribe type' handler' _, reply) =>
      decide (type' = type ∧ handler' = some handler ∧ reply.result = some 0)
    | _ => false

def unsubscribed (type : EventType) (handler : η) (log : BusLog η δ) : Nat :=
  log.countP fun
    | (.unsubscribe type' handler', reply) =>
      decide (type' = type ∧ handler' = some handler ∧ reply.result = some 0)
    | _ => false

end BusLog

structure BusRun (η δ : Type) where
  bus : EventBus η δ
  log : BusLog η δ

namespace BusRun

variable {η δ : Type} [DecidableEq η]

def start : BusRun η δ := ⟨.create, []⟩

def step (r : BusRun η δ) (s : BusStep η δ) : BusRun η δ :=
  ⟨(r.bus.step s).2, r.log ++ [(s, (r.bus.step s).1)]⟩

end BusRun

-- ----------------------------------------------------------------------------
-- What each step does
-- ----------------------------------------------------------------------------

section
variable {η δ : Type}

theorem subscribe_cases (bus : EventBus η δ) (type : EventType) (handler : Option η)
    (userData : δ) :
    bus.subscribe type handler userData = (-1, bus) ∨
    ∃ subscriber table, type ≠ .max ∧ handler = some subscriber ∧
      (bus.subscribers type).store ⟨subscriber, userData⟩ = some table ∧
      bus.subscribe type handler userData =
        (0, { bus with subscribers := Function.update bus.subscribers type table }) := by
  unfold EventBus.subscribe
  cases handler with
  | none => exact .inl rfl
  | some subscriber =>
    dsimp only
    split_ifs with hmax
    · exact .inl rfl
    · cases hstore : (bus.subscribers type).store ⟨subscriber, userData⟩ with
      | none => exact .inl rfl
      | some table => exact .inr ⟨subscriber, table, hmax, rfl, hstore, rfl⟩

theorem publish_cases (bus : EventBus η δ) (event : Event) :
    (bus.queue.capacity ≤ bus.queue.count ∧
      bus.publish event =
        (-1, { bus with
          eventsPublished := bus.eventsPublished + 1
          eventsDropped := bus.eventsDropped + 1 })) ∨
    (bus.queue.count < bus.queue.capacity ∧
      bus.publish event =
        (0, { bus with
          eventsPublished := bus.eventsPublished + 1
          queue := bus.queue.enqueue event })) := by
  unfold EventBus.publish eventQueuePush
  by_cases hfull : bus.queue.count ≥ bus.queue.capacity
  · simp only [if_pos hfull]
    exact .inl ⟨hfull, rfl⟩
  · simp only [if_neg hfull]
    exact .inr ⟨Nat.not_le.mp hfull, trivial⟩

theorem dispatchEventToSubscribers_spec (bus : EventBus η δ) (event : Event) :
    ∃ count, (bus.dispatchEventToSubscribers event).2 = { bus with eventsDispatched := count } := by
  unfold EventBus.dispatchEventToSubscribers
  split_ifs
  · exact ⟨bus.eventsDispatched, rfl⟩
  · exact ⟨_, rfl⟩

theorem dispatchRound_cases (bus : EventBus η δ) (timedOut : Bool) :
    (bus.queue.count = 0 ∧ (bus.dispatchRound timedOut).1.delivered = none ∧
      (bus.dispatchRound timedOut).2 = bus) ∨
    (0 < bus.queue.count ∧
      (bus.dispatchRound timedOut).1.delivered = some (bus.queue.front,
        ({ bus with queue := bus.queue.advance }.dispatchEventToSubscribers
          bus.queue.front).1) ∧
      (bus.dispatchRound timedOut).2 =
        ({ bus with queue := bus.queue.advance }.dispatchEventToSubscribers
          bus.queue.front).2) := by
  unfold EventBus.dispatchRound eventQueuePop
  by_cases hempty : bus.queue.count = 0
  · left
    simp only [if_pos hempty]
    cases timedOut <;> exact ⟨hempty, rfl, rfl⟩
  · right
    simp only [if_neg hempty]
    exact ⟨Nat.pos_of_ne_zero hempty, trivial, trivial⟩

theorem accepted_append (log : BusLog η δ) (s : BusStep η δ) (reply : BusReply η δ) :
    BusLog.accepted (log ++ [(s, reply)]) =
      log.accepted ++ BusLog.accepted [(s, reply)] := List.filterMap_append

theorem dispatched_append (log : BusLog η δ) (s : BusStep η δ) (reply : BusReply η δ) :
    BusLog.dispatched (log ++ [(s, reply)]) =
      log.dispatched ++ BusLog.dispatched [(s, reply)] := List.filterMap_append

theorem delivered_append (log : BusLog η δ) (s : BusStep η δ) (reply : BusReply η δ) :
    BusLog.delivered (log ++ [(s, reply)]) =
      log.delivered ++ (reply.delivered.map Prod.fst).toList := by
  obtain ⟨result, delivered⟩ := reply
  unfold BusLog.delivered
  rw [List.filterMap_append]
  cases delivered <;> rfl

theorem dispatchEventToSubscribers_calls (bus : EventBus η δ) (event : Event)
    (hinvalid : (bus.subscribers .max).items = []) :
    (bus.dispatchEventToSubscribers event).1 =
      (bus.subscribers event.type).items.map fun sub => ⟨sub.handler, event, sub.userData⟩ := by
  unfold EventBus.dispatchEventToSubscribers
  split_ifs with hmax
  · rw [hmax, hinvalid]
    rfl
  · rfl

variable [DecidableEq η]

theorem unsubscribe_cases (bus : EventBus η δ) (type : EventType) (handler : Option η) :
    bus.unsubscribe type handler = (-1, bus) ∨
    ∃ subscriber table, type ≠ .max ∧ handler = some subscriber ∧
      (bus.subscribers type).release (fun sub => decide (sub.handler = subscriber)) =
        some table ∧
      bus.unsubscribe type handler =
        (0, { bus with subscribers := Function.update bus.subscribers type table }) := by
  unfold EventBus.unsubscribe
  cases handler with
  | none => exact .inl rfl
  | some subscriber =>
    dsimp only
    split_ifs with hmax
    · exact .inl rfl
    · cases hrelease : (bus.subscribers type).release
          fun sub => decide (sub.handler = subscriber) with
      | none => exact .inl rfl
      | some table => exact .inr ⟨subscriber, table, hmax, rfl, hrelease, rfl⟩

-- ----------------------------------------------------------------------------
-- What a log says of the bus
-- ----------------------------------------------------------------------------

def EventBus.subscriptions (bus : EventBus η δ) (type : EventType) (handler : η) : Nat :=
  (bus.subscribers type).items.countP fun sub => decide (sub.handler = handler)

structure BusRun.Accounts (r : BusRun η δ) : Prop where
  sound : r.bus.queue.Sound eventQueueSize
  order : r.log.accepted = r.log.dispatched ++ r.bus.queue.toList
  balance : r.bus.eventsPublished =
    r.bus.eventsDropped + UInt64.ofNat r.bus.queue.count + UInt64.ofNat r.log.delivered.length
  subscriptions : ∀ type handler,
    r.bus.subscriptions type handler + r.log.unsubscribed type handler =
      r.log.subscribed type handler
  invalid : (r.bus.subscribers .max).items = []

theorem BusRun.start_accounts : (BusRun.start : BusRun η δ).Accounts where
  sound := ⟨CircularArray.init_wellFormed Event.zero (by decide), rfl⟩
  order := rfl
  balance := rfl
  subscriptions type handler := by
    simp [BusRun.start, EventBus.create, EventBus.subscriptions, BusLog.subscribed,
      BusLog.unsubscribed]
  invalid := SlotTable.items_empty

theorem subscribed_append (log : BusLog η δ) (s : BusStep η δ) (reply : BusReply η δ) :
    BusLog.subscribed type handler (log ++ [(s, reply)]) =
      log.subscribed type handler + BusLog.subscribed type handler [(s, reply)] :=
  List.countP_append

theorem unsubscribed_append (log : BusLog η δ) (s : BusStep η δ) (reply : BusReply η δ) :
    BusLog.unsubscribed type handler (log ++ [(s, reply)]) =
      log.unsubscribed type handler + BusLog.unsubscribed type handler [(s, reply)] :=
  List.countP_append

variable {r : BusRun η δ}

theorem BusRun.Accounts.of_tables (h : r.Accounts) (s : BusStep η δ) (reply : BusReply η δ)
    (subscribers : EventType → SlotTable (Subscriber η δ) maxSubscribersPerType)
    (hbus : r.bus.step s = (reply, { r.bus with subscribers := subscribers }))
    (haccepted : BusLog.accepted [(s, reply)] = [])
    (hdispatched : BusLog.dispatched [(s, reply)] = []) (hdelivered : reply.delivered = none)
    (hsubscriptions : ∀ type handler,
      { r.bus with subscribers := subscribers }.subscriptions type handler +
          BusLog.unsubscribed type handler [(s, reply)] =
        r.bus.subscriptions type handler + BusLog.subscribed type handler [(s, reply)])
    (hinvalid : subscribers .max = r.bus.subscribers .max) : (r.step s).Accounts := by
  unfold BusRun.step
  rw [hbus]
  constructor
  case sound => exact h.sound
  case order =>
    rw [accepted_append, dispatched_append, haccepted, hdispatched, List.append_nil,
      List.append_nil]
    exact h.order
  case balance =>
    rw [delivered_append, hdelivered]
    simpa using h.balance
  case subscriptions =>
    intro type handler
    have hold := h.subscriptions type handler
    have hnew := hsubscriptions type handler
    rw [subscribed_append, unsubscribed_append]
    dsimp only at hnew ⊢
    omega
  case invalid =>
    dsimp only
    rw [hinvalid]
    exact h.invalid

theorem BusRun.Accounts.subscribe (h : r.Accounts) (type : EventType) (handler : Option η)
    (userData : δ) : (r.step (.subscribe type handler userData)).Accounts := by
  rcases subscribe_cases r.bus type handler userData with
    hbus | ⟨subscriber, table, hmax, rfl, hstore, hbus⟩
  · refine h.of_tables _ ⟨some (-1), none⟩ r.bus.subscribers ?_ rfl rfl rfl ?_ rfl
    · simp [EventBus.step, hbus]
    · intro type' handler'
      simp [BusLog.subscribed, BusLog.unsubscribed]
  · refine h.of_tables _ ⟨some 0, none⟩ (Function.update r.bus.subscribers type table) ?_ rfl rfl
      rfl ?_ (Function.update_of_ne hmax.symm _ _)
    · simp [EventBus.step, hbus]
    · intro type' handler'
      have hperm := SlotTable.items_store_perm hstore
      by_cases htype : type' = type
      · subst htype
        simp [EventBus.subscriptions, BusLog.subscribed, BusLog.unsubscribed,
          hperm.countP_eq, List.countP_cons]
      · simp [EventBus.subscriptions, BusLog.subscribed, BusLog.unsubscribed,
          Function.update_of_ne htype, Ne.symm htype]

theorem BusRun.Accounts.unsubscribe (h : r.Accounts) (type : EventType) (handler : Option η) :
    (r.step (.unsubscribe type handler)).Accounts := by
  rcases unsubscribe_cases r.bus type handler with
    hbus | ⟨subscriber, table, hmax, rfl, hrelease, hbus⟩
  · refine h.of_tables _ ⟨some (-1), none⟩ r.bus.subscribers ?_ rfl rfl rfl ?_ rfl
    · simp [EventBus.step, hbus]
    · intro type' handler'
      simp [BusLog.subscribed, BusLog.unsubscribed]
  · refine h.of_tables _ ⟨some 0, none⟩ (Function.update r.bus.subscribers type table) ?_ rfl rfl
      rfl ?_ (Function.update_of_ne hmax.symm _ _)
    · simp [EventBus.step, hbus]
    · intro type' handler'
      obtain ⟨sub, rfl, hperm⟩ := SlotTable.items_release_perm hrelease
      by_cases htype : type' = type
      · subst htype
        simp [EventBus.subscriptions, BusLog.subscribed, BusLog.unsubscribed,
          hperm.countP_eq, List.countP_cons]
      · simp [EventBus.subscriptions, BusLog.subscribed, BusLog.unsubscribed,
          Function.update_of_ne htype, Ne.symm htype]

theorem BusRun.Accounts.of_events (h : r.Accounts) (s : BusStep η δ) (reply : BusReply η δ)
    (bus : EventBus η δ) (hbus : r.bus.step s = (reply, bus))
    (htables : bus.subscribers = r.bus.subscribers)
    (hquiet : ∀ type handler, BusLog.subscribed type handler [(s, reply)] = 0 ∧
      BusLog.unsubscribed type handler [(s, reply)] = 0)
    (hsound : bus.queue.Sound eventQueueSize)
    (horder : r.bus.queue.toList ++ BusLog.accepted [(s, reply)] =
      BusLog.dispatched [(s, reply)] ++ bus.queue.toList)
    (hbalance : bus.eventsPublished = bus.eventsDropped + UInt64.ofNat bus.queue.count +
      UInt64.ofNat (r.log.delivered.length + reply.delivered.toList.length)) :
    (r.step s).Accounts := by
  unfold BusRun.step
  rw [hbus]
  constructor
  case sound => exact hsound
  case order =>
    dsimp only
    rw [accepted_append, dispatched_append, h.order, List.append_assoc, horder,
      List.append_assoc]
  case balance =>
    dsimp only
    rw [delivered_append, hbalance, List.length_append]
    cases reply.delivered <;> rfl
  case subscriptions =>
    intro type handler
    have hold := h.subscriptions type handler
    unfold EventBus.subscriptions at hold ⊢
    dsimp only
    rw [subscribed_append, unsubscribed_append, (hquiet type handler).1,
      (hquiet type handler).2, htables]
    exact hold
  case invalid =>
    dsimp only
    rw [htables]
    exact h.invalid

theorem BusRun.Accounts.publish (h : r.Accounts) (event : Event) :
    (r.step (.publish event)).Accounts := by
  have hbalance := h.balance
  have hstep : r.bus.step (.publish event) =
      (⟨some (r.bus.publish event).1, none⟩, (r.bus.publish event).2) := rfl
  rcases publish_cases r.bus event with ⟨hfull, hbus⟩ | ⟨hroom, hbus⟩
  · rw [hbus] at hstep
    refine h.of_events _ _ _ hstep rfl (fun _ _ => ⟨rfl, rfl⟩) h.sound ?_ ?_
    · simp [BusLog.accepted, BusLog.dispatched]
    · simp only [Option.toList_none, List.length_nil, Nat.add_zero]
      rw [hbalance]
      grind
  · rw [hbus] at hstep
    refine h.of_events _ _ _ hstep rfl (fun _ _ => ⟨rfl, rfl⟩)
      (CircularArray.served_push_room h.sound hroom event).1 ?_ ?_
    · dsimp only
      rw [CircularArray.toList_enqueue h.sound.1 hroom]
      rfl
    · simp only [Option.toList_none, List.length_nil, Nat.add_zero, CircularArray.enqueue,
        UInt64.ofNat_add]
      rw [hbalance]
      grind

theorem BusRun.Accounts.publishSync (h : r.Accounts) (event : Event) :
    (r.step (.publishSync event)).Accounts := by
  have hbalance := h.balance
  obtain ⟨count, hdispatch⟩ := dispatchEventToSubscribers_spec
    { r.bus with eventsPublished := r.bus.eventsPublished + 1 } event
  have hstep : r.bus.step (.publishSync event) =
      (⟨some 0, some (event, (r.bus.publishSync event).2.1)⟩, (r.bus.publishSync event).2.2) := rfl
  rw [show (r.bus.publishSync event).2.2 = _ from hdispatch] at hstep
  refine h.of_events _ _ _ hstep rfl (fun _ _ => ⟨rfl, rfl⟩) h.sound ?_ ?_
  · simp [BusLog.accepted, BusLog.dispatched]
  · simp only [Option.toList_some, List.length_singleton, UInt64.ofNat_add]
    rw [hbalance]
    grind

theorem BusRun.Accounts.dispatch (h : r.Accounts) (timedOut : Bool) :
    (r.step (.dispatch timedOut)).Accounts := by
  have hbalance := h.balance
  rcases dispatchRound_cases r.bus timedOut with
    ⟨-, hdelivered, hbus⟩ | ⟨hitem, hdelivered, hbus⟩
  · refine h.of_events _ (r.bus.dispatchRound timedOut).1 r.bus (Prod.ext rfl hbus) rfl
      (fun _ _ => ⟨rfl, rfl⟩) h.sound ?_ ?_
    · simp [BusLog.accepted, BusLog.dispatched, hdelivered]
    · rw [hdelivered]
      exact hbalance
  · obtain ⟨count, hdispatch⟩ := dispatchEventToSubscribers_spec
      { r.bus with queue := r.bus.queue.advance } r.bus.queue.front
    have hstep : r.bus.step (.dispatch timedOut) =
        ((r.bus.dispatchRound timedOut).1, (r.bus.dispatchRound timedOut).2) := rfl
    rw [show (r.bus.dispatchRound timedOut).2 = _ from hbus.trans hdispatch] at hstep
    refine h.of_events _ _ _ hstep rfl (fun _ _ => ⟨rfl, rfl⟩)
      (CircularArray.served_take_one h.sound hitem).1 ?_ ?_
    · rw [CircularArray.toList_advance h.sound.1 hitem]
      simp [BusLog.accepted, BusLog.dispatched, hdelivered]
    · have hcount : r.bus.queue.count = r.bus.queue.advance.count + 1 :=
        (Nat.sub_add_cancel hitem).symm
      rw [hcount, UInt64.ofNat_add] at hbalance
      simp only [hdelivered, Option.toList_some, List.length_singleton, UInt64.ofNat_add]
      rw [hbalance]
      grind

theorem BusRun.Accounts.step (h : r.Accounts) (s : BusStep η δ) : (r.step s).Accounts := by
  cases s with
  | subscribe type handler userData => exact h.subscribe type handler userData
  | unsubscribe type handler => exact h.unsubscribe type handler
  | publish event => exact h.publish event
  | publishSync event => exact h.publishSync event
  | dispatch timedOut => exact h.dispatch timedOut

-- ----------------------------------------------------------------------------
-- Delivery
-- ----------------------------------------------------------------------------

variable {bus : EventBus η δ} {event : Event} {calls : List (HandlerCall η δ)}

theorem delivered_calls (hinvalid : (bus.subscribers .max).items = []) {s : BusStep η δ}
    (h : (bus.step s).1.delivered = some (event, calls)) :
    calls = (bus.subscribers event.type).items.map
      fun sub => ⟨sub.handler, event, sub.userData⟩ := by
  cases s with
  | subscribe | unsubscribe | publish => cases h
  | publishSync other =>
    obtain ⟨rfl, rfl⟩ := Prod.mk.inj (Option.some.inj h)
    exact dispatchEventToSubscribers_calls
      { bus with eventsPublished := bus.eventsPublished + 1 } other hinvalid
  | dispatch timedOut =>
    rcases dispatchRound_cases bus timedOut with ⟨-, hdelivered, -⟩ | ⟨-, hdelivered, -⟩
    · cases h.symm.trans hdelivered
    · obtain ⟨rfl, rfl⟩ := Prod.mk.inj (Option.some.inj (h.symm.trans hdelivered))
      exact dispatchEventToSubscribers_calls { bus with queue := bus.queue.advance } _ hinvalid

def dispatchRounds (steps : List (BusStep η δ)) : Nat :=
  steps.countP fun
    | .dispatch _ => true
    | _ => false

theorem accepted_step (r : BusRun η δ) (s : BusStep η δ) :
    r.log.accepted <+: (r.step s).log.accepted := by
  rw [BusRun.step, accepted_append]
  exact List.prefix_append _ _

theorem dispatched_step (r : BusRun η δ) (s : BusStep η δ) :
    r.log.dispatched <+: (r.step s).log.dispatched := by
  rw [BusRun.step, dispatched_append]
  exact List.prefix_append _ _

theorem dispatched_round (h : r.Accounts) (s : BusStep η δ)
    (hwaiting : r.log.dispatched.length < r.log.accepted.length) :
    r.log.dispatched.length + dispatchRounds [s] ≤ (r.step s).log.dispatched.length := by
  have hitem : 0 < r.bus.queue.count := by
    rw [h.order, List.length_append, CircularArray.toList_length] at hwaiting
    omega
  cases s with
  | dispatch timedOut =>
    rcases dispatchRound_cases r.bus timedOut with ⟨hempty, -⟩ | ⟨-, hdelivered, -⟩
    · omega
    · rw [BusRun.step, dispatched_append, List.length_append]
      simp [BusLog.dispatched, EventBus.step, hdelivered, dispatchRounds]
  | subscribe | unsubscribe | publish | publishSync =>
    exact (dispatched_step r _).length_le

theorem BusRun.Accounts.run (h : r.Accounts) (steps : List (BusStep η δ)) :
    (Runs.run BusRun.step r steps).Accounts := by
  induction steps generalizing r with
  | nil => exact h
  | cons s rest ih => exact ih (h.step s)

theorem accepted_run (r : BusRun η δ) (steps : List (BusStep η δ)) :
    r.log.accepted <+: (Runs.run BusRun.step r steps).log.accepted := by
  induction steps generalizing r with
  | nil => exact List.prefix_refl _
  | cons s rest ih => exact (accepted_step r s).trans (ih (r.step s))

theorem dispatched_run (h : r.Accounts) (hn : n ≤ r.log.accepted.length)
    (steps : List (BusStep η δ)) :
    min n (r.log.dispatched.length + dispatchRounds steps) ≤
      (Runs.run BusRun.step r steps).log.dispatched.length := by
  induction steps generalizing r with
  | nil => exact Nat.min_le_right _ _
  | cons s rest ih =>
    have hnext := ih (h.step s) (Nat.le_trans hn (accepted_step r s).length_le)
    have hrounds : dispatchRounds (s :: rest) = dispatchRounds [s] + dispatchRounds rest := by
      unfold dispatchRounds
      rw [← List.countP_append]
      rfl
    have hkept := (dispatched_step r s).length_le
    refine Nat.le_trans ?_ hnext
    by_cases hwaiting : r.log.dispatched.length < r.log.accepted.length
    · have hround := dispatched_round h s hwaiting
      omega
    · omega

/-- Events are handed out once, in the order in which they were accepted, and at
the latest when the dispatch thread has made as many rounds as the queue then
holds events; every event handed out is given to each handler as often as it is
subscribed to the event's type. The counters add up. -/
theorem eventBus_delivers (steps : List (BusStep η δ)) :
    let r := Runs.run BusRun.step .start steps
    r.log.accepted = r.log.dispatched ++ r.bus.queue.toList ∧
    (∀ more, r.bus.queue.count ≤ dispatchRounds more →
      r.log.accepted <+: (Runs.run BusRun.step r more).log.dispatched) ∧
    (∀ s event calls, (r.bus.step s).1.delivered = some (event, calls) →
      (∀ call ∈ calls, call.event = event) ∧
      ∀ handler, calls.countP (fun call => decide (call.handler = handler)) +
        r.log.unsubscribed event.type handler = r.log.subscribed event.type handler) ∧
    r.bus.eventsPublished = r.bus.eventsDropped + UInt64.ofNat r.bus.queue.count +
      UInt64.ofNat r.log.delivered.length := by
  intro r
  have h : r.Accounts := BusRun.start_accounts.run steps
  refine ⟨h.order, fun more hrounds => ?_, fun s event calls hdelivered => ?_, h.balance⟩
  · have hlater := (h.run more).order
    have hlength := congrArg List.length h.order
    rw [List.length_append, CircularArray.toList_length] at hlength
    refine List.prefix_of_prefix_length_le (accepted_run r more) ⟨_, hlater.symm⟩ ?_
    have hrun := dispatched_run h (Nat.le_refl _) more
    omega
  · have hcalls := delivered_calls h.invalid hdelivered
    refine ⟨fun call hcall => ?_, fun handler => ?_⟩
    · rw [hcalls] at hcall
      obtain ⟨sub, -, rfl⟩ := List.mem_map.mp hcall
      rfl
    · rw [hcalls, List.countP_map, ← h.subscriptions event.type handler]
      rfl

end

end Roole.Queues
