import OmniSwitch.Lib.Embed
import OmniSwitch.Lib.Rely
import OmniSwitch.Services.Checkout

/-!
# The relay of the ledger outbox

`ledger-outbox-relay.service.ts`, `outbox-recovery.service.ts` and the part of the repository they
use.  A run of the relay reads the pending events, hands each to the listeners and marks it; an
operator resets an event that failed.  Runs on several replicas, and operators, act interleaved, and
any of their operations may fail.  What was handed to the listeners is kept beside the table.

Main results:

* `relay_final`: published events stay so, and failed ones were not delivered;
* `delivered_and_failed`: marks that are lost.
-/

namespace OmniSwitch

open Lib Prog

/-! ### The table -/

/-- Source: `OutboxStatus` -/
inductive OutboxStatus where
  | PENDING | PUBLISHED | FAILED
  deriving DecidableEq, Repr

/-- The columns that the relay reads and writes. -/
structure LedgerOutboxEntity where
  id : String
  status : OutboxStatus := .PENDING
  retryCount : Nat := 0
  lastError : Option String := none
  processedAt : Option Date := none
  createdAt : Date := 0
  deriving DecidableEq, Repr

namespace LedgerOutboxEntity

variable (event : LedgerOutboxEntity)

/-- The event, marked as published. -/
def published (now : Date) : LedgerOutboxEntity :=
  { event with status := .PUBLISHED, processedAt := some now }

/-- The event, marked as failed. -/
def failed (error : String) (retryCount : Nat) : LedgerOutboxEntity :=
  { event with status := .FAILED, lastError := some error, retryCount := retryCount }

/-- The row that `resetToPending` leaves: it writes only where the status is `FAILED`. -/
def reset : LedgerOutboxEntity :=
  if event.status = .FAILED then { event with status := .PENDING, lastError := none } else event

lemma id_reset : event.reset.id = event.id := by
  unfold reset
  split <;> rfl

end LedgerOutboxEntity

/-- The outbox, and what has been delivered to the listeners, in order.

Source: `LedgerOutboxEntity` -/
structure RelayDb where
  outbox : Table LedgerOutboxEntity.id
  delivered : List String := []

/-- An operation of the repository, or a delivery.

Source: `LedgerOutboxPort` -/
inductive RelayCmd where
  | findPending (limit : Nat)
  | deliver (eventId : String)
  | markPublished (eventId : String) (now : Date)
  | findOne (eventId : String)
  | updateFailed (eventId error : String) (retryCount : Nat)
  | resetToPending (eventId : String)

open RelayCmd

namespace RelayDb

/-- The status of an event. -/
def status (db : RelayDb) (id : String) : Option OutboxStatus := (db.outbox.get id).map (·.status)

/-- Source: `LedgerOutboxTypeOrmRepository.findPending` -/
def findPending (db : RelayDb) (limit : Nat) : List LedgerOutboxEntity :=
  ((db.outbox.rows.filter fun event => event.status = .PENDING).insertionSort
    fun a b => a.createdAt ≤ b.createdAt).take limit

/-- A row is changed. -/
def update (db : RelayDb) (id : String) (f : LedgerOutboxEntity → LedgerOutboxEntity)
    (hf : ∀ event, (f event).id = event.id) : RelayDb :=
  { db with outbox := db.outbox.modify id f fun event h => (hf event).trans h }

end RelayDb

/-- The effect of a command on the tables.

Source: `PaymentTypeOrmRepository.markPublished`, `PaymentTypeOrmRepository.markFailed`,
`PaymentTypeOrmRepository.resetToPending` -/
def RelayCmd.apply : RelayCmd → RelayDb → RelayDb
  | .deliver id, db => { db with delivered := db.delivered ++ [id] }
  | .markPublished id now, db => db.update id (·.published now) fun _ => rfl
  | .updateFailed id error retryCount, db => db.update id (·.failed error retryCount) fun _ => rfl
  | .resetToPending id, db => db.update id (·.reset) LedgerOutboxEntity.id_reset
  | _, db => db

instance : Commands RelayDb RelayCmd where
  apply := apply
  observes
    | .findPending _ => true
    | _ => false

/-- The programs of the relay. -/
abbrev Relay (α : Type) := Prog RelayDb RelayCmd AppError α

/-- What a run meets: the clock, and the operations that fail.  A delivery fails with an error of a
listener, and may have reached others before. -/
structure RelayEnv where
  now : Date
  fault : RelayCmd → Option (Fault AppError) := fun _ => none

/-- One operation; what it comes to is read off the tables it found. -/
def RelayEnv.issue (env : RelayEnv) (c : RelayCmd) : Relay RelayDb := tryAct (env.fault c) c ret

/-! ### The services -/

namespace LedgerOutboxRelay

/-- Source: `ledger-outbox-relay.service.ts` `RELAY_BATCH_SIZE` -/
def relayBatchSize : Nat := 50

/-- Source: `LedgerOutboxTypeOrmRepository.markFailed` -/
def markFailed (env : RelayEnv) (eventId error : String) : Relay Unit := do
  let db ← env.issue (.findOne eventId)
  match db.outbox.get eventId with
  | none => return ()
  | some entity =>
    let _ ← env.issue (.updateFailed eventId error (entity.retryCount + 1))
    return ()

/-- An error of a listener, and a failure to mark the event, are handled alike. -/
def relayOne (env : RelayEnv) (eventId : String) : Relay Unit :=
  tryCatch (do
    let _ ← env.issue (.deliver eventId)
    let _ ← env.issue (.markPublished eventId env.now)
    return ()) fun e => markFailed env eventId (PaymentCheckoutSaga.errorMessage e)

/-- The loop over the events. -/
def relayEach (env : RelayEnv) : List LedgerOutboxEntity → Relay Unit
  | [] => return ()
  | event :: events => do
      relayOne env event.id
      relayEach env events

/-- Source: `LedgerOutboxRelayService.relayPendingEvents` -/
def relayPendingEvents (env : RelayEnv) : Relay Unit := do
  let db ← env.issue (.findPending relayBatchSize)
  relayEach env (db.findPending relayBatchSize)

end LedgerOutboxRelay

/-- Source: `OutboxRecoveryService.retry` -/
def OutboxRecovery.retry (env : RelayEnv) (eventId : String) : Relay Unit := do
  let db ← env.issue (.findOne eventId)
  match db.outbox.get eventId with
  | none => throw (.http 404 s!"Ledger outbox event {eventId} not found" "OUTBOX_EVENT_NOT_FOUND")
  | some _ =>
    let db ← env.issue (.resetToPending eventId)
    if db.status eventId = some .FAILED then return ()
    else throw (.http 409 s!"Ledger outbox event {eventId} is not in FAILED status"
      "OUTBOX_EVENT_NOT_FAILED")

/-- A run of the relay on a replica, or an operator's retry. -/
inductive RelayRequest where
  | relayPendingEvents (env : RelayEnv)
  | retry (env : RelayEnv) (eventId : String)

/-- The program of a request. -/
def RelayRequest.program : RelayRequest → Relay Unit
  | relayPendingEvents env => LedgerOutboxRelay.relayPendingEvents env
  | retry env eventId => OutboxRecovery.retry env eventId

/-- The requests, none of which has started. -/
def relayPool (db : RelayDb) (requests : List RelayRequest) : Pool RelayDb RelayCmd AppError :=
  ⟨db, requests.map fun r => Proc.start r.program⟩

/-! ### One command -/

namespace RelayDb

variable {db : RelayDb} {id other : String}

/-- No event that failed was delivered. -/
def FailedUndelivered (db : RelayDb) : Prop :=
  ∀ id, db.status id = some .FAILED → id ∉ db.delivered

/-- Published events stay so. -/
def KeepsPublished (db db' : RelayDb) : Prop :=
  ∀ id, db.status id = some .PUBLISHED → db'.status id = some .PUBLISHED

lemma KeepsPublished.refl (db : RelayDb) : db.KeepsPublished db := fun _ h => h

section update

variable (db) (f : LedgerOutboxEntity → LedgerOutboxEntity) (hf : ∀ event, (f event).id = event.id)

lemma status_update_self :
    (db.update id f hf).status id = (db.outbox.get id).map fun event => (f event).status := by
  unfold status update
  rw [Table.get_modify_self, Option.map_map]
  rfl

lemma status_update_of_ne (h : other ≠ id) :
    (db.update id f hf).status other = db.status other := by
  unfold status update
  rw [Table.get_modify_of_ne _ _ h]

end update

/-- A command keeps what is claimed of the tables if it does so for the one event it writes. -/
lemma keeps_update (h : db.FailedUndelivered) (f : LedgerOutboxEntity → LedgerOutboxEntity)
    (hf : ∀ event, (f event).id = event.id)
    (hfailed : ∀ event, db.outbox.get id = some event → (f event).status = .FAILED →
      id ∉ db.delivered)
    (hpublished : ∀ event, db.outbox.get id = some event → event.status = .PUBLISHED →
      (f event).status = .PUBLISHED) :
    (db.update id f hf).FailedUndelivered ∧ db.KeepsPublished (db.update id f hf) := by
  constructor
  · intro other hother
    by_cases hid : other = id
    · subst hid
      rw [status_update_self] at hother
      obtain ⟨event, hevent, hstatus⟩ := Option.map_eq_some_iff.1 hother
      exact hfailed event hevent hstatus
    · rw [status_update_of_ne db f hf hid] at hother
      exact h other hother
  · intro other hother
    by_cases hid : other = id
    · subst hid
      obtain ⟨event, hevent, hstatus⟩ := Option.map_eq_some_iff.1 hother
      rw [status_update_self, hevent]
      exact congrArg some (hpublished event hevent hstatus)
    · rw [status_update_of_ne db f hf hid]
      exact hother

lemma keeps_resetToPending (h : db.FailedUndelivered) (id : String) :
    ((resetToPending id).apply db).FailedUndelivered ∧
      db.KeepsPublished ((resetToPending id).apply db) := by
  refine keeps_update h (·.reset) LedgerOutboxEntity.id_reset (fun event _ hstatus => ?_)
    fun event _ hstatus => ?_
  · unfold LedgerOutboxEntity.reset at hstatus
    by_cases hfailed : event.status = .FAILED
    · rw [if_pos hfailed] at hstatus
      exact (nomatch hstatus)
    · rw [if_neg hfailed] at hstatus
      exact absurd hstatus hfailed
  · unfold LedgerOutboxEntity.reset
    rw [if_neg (by rw [hstatus]; decide)]
    exact hstatus

lemma keeps_deliver (h : db.FailedUndelivered) (hpending : db.status id = some .PENDING) :
    ((deliver id).apply db).FailedUndelivered ∧
      db.KeepsPublished ((deliver id).apply db) := by
  refine ⟨fun other hother hmem => ?_, .refl db⟩
  change db.status other = some .FAILED at hother
  rcases List.mem_append.1 hmem with hmem | hmem
  · exact h other hother hmem
  · obtain rfl := List.mem_singleton.1 hmem
    exact (nomatch hpending.symm.trans hother)

lemma of_mem_findPending {limit : Nat} {event : LedgerOutboxEntity}
    (h : event ∈ db.findPending limit) : db.status event.id = some .PENDING := by
  have hsorted := (List.mem_insertionSort _).1 (List.mem_of_mem_take h)
  obtain ⟨hmem, hstatus⟩ := List.mem_filter.1 hsorted
  unfold status
  rw [Table.get_of_mem hmem]
  exact congrArg some (of_decide_eq_true hstatus)

/-- The event has been neither written nor delivered since `read`. -/
def AsIn (read db : RelayDb) (id : String) : Prop :=
  db.outbox.get id = read.outbox.get id ∧ (id ∈ db.delivered → id ∈ read.delivered)

end RelayDb

/-- **The condition on an operation**: a run of the relay does not begin while an event has been
delivered and is not marked yet; and when it hands an event to the listeners, or marks it as failed,
no other request has written or delivered it since the run read it. -/
def RelayCmd.Undisturbed (seen : Option RelayDb) : RelayCmd → RelayDb → Prop
  | .findPending _, db => ∀ id ∈ db.delivered, db.status id ≠ some .PENDING
  | .deliver id, db => ∀ read ∈ seen, read.AsIn db id
  | .updateFailed id _ _, db => ∀ read ∈ seen, read.AsIn db id
  | _, _ => True

/-- It can be decided. -/
instance RelayDb.decidableAsIn (read db : RelayDb) (id : String) : Decidable (read.AsIn db id) :=
  inferInstanceAs (Decidable (_ ∧ _))

/-- It can be decided. -/
instance RelayCmd.decidableUndisturbed (seen : Option RelayDb) :
    (c : RelayCmd) → (db : RelayDb) → Decidable (c.Undisturbed seen db)
  | .findPending _, db =>
    inferInstanceAs (Decidable (∀ id ∈ db.delivered, db.status id ≠ some .PENDING))
  | .deliver id, db => inferInstanceAs (Decidable (∀ read ∈ seen, read.AsIn db id))
  | .updateFailed id _ _, db => inferInstanceAs (Decidable (∀ read ∈ seen, read.AsIn db id))
  | .markPublished _ _, _ => inferInstanceAs (Decidable True)
  | .findOne _, _ => inferInstanceAs (Decidable True)
  | .resetToPending _, _ => inferInstanceAs (Decidable True)

/-- What fails in a request: marking an event as published does not, and a delivery that fails has
reached no listener. -/
structure RelayEnv.Reliable (env : RelayEnv) : Prop where
  published : ∀ id now, env.fault (.markPublished id now) = none
  undelivered : ∀ id failure, env.fault (.deliver id) = some failure → failure.applied = false

/-! ### The requests -/

section safe

open LedgerOutboxRelay RelayDb

/-- What is claimed of the tables, along a program. -/
abbrev RelaySafe (Q : RelayDb → Option RelayDb → Unit → Prop) (floor : RelayDb)
    (seen : Option RelayDb) (prog : Relay Unit) : Prop :=
  Prog.Safe FailedUndelivered KeepsPublished Undisturbed Q floor seen prog

variable {env : RelayEnv} {floor : RelayDb} {seen : Option RelayDb}
  {Q : RelayDb → Option RelayDb → Unit → Prop}
variable {f : RelayDb → Relay Unit}

lemma safe_issue_bind {c : RelayCmd}
    (h : ∀ db, db.FailedUndelivered → c.Undisturbed seen db → (c.apply db).FailedUndelivered ∧
      db.KeepsPublished (c.apply db))
    (hnext : ∀ db, db.FailedUndelivered → c.Undisturbed seen db →
      RelaySafe Q (c.apply db) (observe c db seen) (f db)) :
    RelaySafe Q floor seen (env.issue c >>= f) := by
  unfold RelayEnv.issue
  rw [tryAct_bind]
  unfold tryAct
  cases env.fault c with
  | none =>
    intro db hdb _ hcond
    obtain ⟨hkept, hpublished⟩ := h db hdb hcond
    exact ⟨hkept, hpublished, hnext db hdb hcond⟩
  | some failure =>
    dsimp only
    cases failure.applied with
    | false => exact trivial
    | true =>
      intro db hdb _ hcond
      obtain ⟨hkept, hpublished⟩ := h db hdb hcond
      exact ⟨hkept, hpublished, trivial⟩

lemma safe_read_bind {c : RelayCmd} (hread : ∀ db, c.apply db = db)
    (hnext : ∀ db, db.FailedUndelivered → c.Undisturbed seen db → RelaySafe Q db (observe c db
      seen) (f db)) :
    RelaySafe Q floor seen (env.issue c >>= f) := by
  refine safe_issue_bind (fun db hdb _ => ?_) fun db hdb hcond => ?_
  · rw [hread]
    exact ⟨hdb, .refl db⟩
  · rw [hread]
    exact hnext db hdb hcond

/-- The event is pending where it was read, and was not delivered by then. -/
structure Fresh (read : RelayDb) (id : String) : Prop where
  pending : read.status id = some .PENDING
  undelivered : id ∉ read.delivered

variable {read : RelayDb}
variable {id : String}

lemma Fresh.now {db : RelayDb} (h : Fresh read id) (hread : ∀ read' ∈ some read, read'.AsIn db id) :
    db.status id = some .PENDING ∧ id ∉ db.delivered := by
  obtain ⟨hrow, hdelivered⟩ := hread read rfl
  refine ⟨?_, fun hmem => h.undelivered (hdelivered hmem)⟩
  unfold status
  rw [hrow]
  exact h.pending

lemma safe_markFailed (hfresh : Fresh read id) (error : String) :
    RelaySafe (fun _ seen _ => seen = some read) floor (some read) (markFailed env id error) := by
  refine safe_read_bind (fun _ => rfl) fun db _ _ => ?_
  change RelaySafe _ db (some read) _
  cases db.outbox.get id with
  | none => exact rfl
  | some entity =>
    refine safe_issue_bind (fun db hdb hcond => ?_) fun _ _ _ => rfl
    obtain ⟨hpending, hnew⟩ := hfresh.now hcond
    refine keeps_update hdb (·.failed error (entity.retryCount + 1)) (fun _ => rfl)
      (fun _ _ _ => hnew) fun event hevent hstatus => ?_
    unfold status at hpending
    rw [hevent, Option.map_some, hstatus] at hpending
    exact (nomatch hpending)

/-- One event: either it is delivered and marked as published, or the delivery reaches nobody and it
is marked as failed. -/
lemma safe_relayOne (henv : env.Reliable) (hfresh : Fresh read id) :
    RelaySafe (fun _ seen _ => seen = some read) floor (some read) (relayOne env id) := by
  cases hfault : env.fault (.deliver id) with
  | none =>
    have hrelay : relayOne env id =
        act (.deliver id) fun _ => act (.markPublished id env.now) fun _ => pure () := by
      unfold relayOne RelayEnv.issue
      rw [hfault, henv.published]
      rfl
    rw [hrelay]
    intro db hdb _ hcond
    obtain ⟨hkept, hpublished⟩ := keeps_deliver hdb (hfresh.now hcond).1
    refine ⟨hkept, hpublished, fun db' hdb' _ _ => ?_⟩
    obtain ⟨hkept', hpublished'⟩ := keeps_update hdb' (·.published env.now) (fun _ => rfl)
      (fun _ _ hstatus => nomatch hstatus) fun _ _ _ => rfl
    exact ⟨hkept', hpublished', rfl⟩
  | some failure =>
    have hrelay : relayOne env id =
        markFailed env id (PaymentCheckoutSaga.errorMessage failure.error) := by
      unfold relayOne RelayEnv.issue
      rw [hfault]
      unfold tryAct
      simp only [henv.undelivered id failure hfault, Bool.false_eq_true, if_false]
      rfl
    rw [hrelay]
    exact safe_markFailed hfresh _

lemma safe_relayEach (henv : env.Reliable) (events : List LedgerOutboxEntity)
    (hfresh : ∀ event ∈ events, Fresh read event.id) :
    RelaySafe (fun _ _ _ => True) floor (some read) (relayEach env events) := by
  induction events generalizing floor with
  | nil => trivial
  | cons event events ih =>
    obtain ⟨hevent, hevents⟩ := List.forall_mem_cons.1 hfresh
    unfold relayEach
    refine (holds_bind _ _).2 ((safe_relayOne henv hevent).mono ?_)
    rintro floor _ _ rfl
    exact ih hevents

/-- A run of the relay is safe. -/
lemma safe_relayPendingEvents (henv : env.Reliable) :
    RelaySafe (fun _ _ _ => True) floor seen (relayPendingEvents env) := by
  refine safe_read_bind (fun _ => rfl) fun db _ hcond => ?_
  change RelaySafe _ db (some db) _
  refine safe_relayEach henv _ fun event hevent => ?_
  have hpending := of_mem_findPending hevent
  exact ⟨hpending, fun hmem => hcond event.id hmem hpending⟩

/-- So is a retry. -/
lemma safe_retry (id : String) :
    RelaySafe (fun _ _ _ => True) floor seen (OutboxRecovery.retry env id) := by
  refine safe_read_bind (fun _ => rfl) fun db _ _ => ?_
  cases db.outbox.get id with
  | none => exact trivial
  | some event =>
    refine safe_issue_bind (fun db hdb _ => keeps_resetToPending hdb id) fun db _ _ => ?_
    split_ifs <;> exact trivial

end safe

/-- The operations of a run of the relay fail only as `RelayEnv.Reliable` has it. -/
def RelayRequest.Reliable : RelayRequest → Prop
  | relayPendingEvents env => env.Reliable
  | retry _ _ => True

/-- **The relay**: in every interleaving of runs and retries whose operations meet the condition, an
event that is published stays published, and one that failed was never delivered. -/
theorem relay_final (db : RelayDb) (hstart : db.FailedUndelivered) (requests : List RelayRequest)
    (hreliable : ∀ r ∈ requests, r.Reliable) (schedule : List Nat)
    (hundisturbed : ∀ e ∈ ((relayPool db requests).exec schedule).1,
      e.cmd.Undisturbed e.seen e.pre) :
    (∀ e ∈ ((relayPool db requests).exec schedule).1, e.pre.FailedUndelivered ∧
      e.post.FailedUndelivered ∧ e.pre.KeepsPublished e.post) ∧
      ((relayPool db requests).exec schedule).2.state.FailedUndelivered := by
  have hpool : Pool.Safe RelayDb.FailedUndelivered RelayDb.KeepsPublished Undisturbed
      (relayPool db requests) := by
    have hmap : relayPool db requests =
        ⟨db, (requests.map RelayRequest.program).map Proc.start⟩ := by
      unfold relayPool
      rw [List.map_map]
      rfl
    rw [hmap]
    refine Pool.safe_start RelayDb.KeepsPublished.refl hstart fun prog hprog => ?_
    obtain ⟨r, hr, rfl⟩ := List.mem_map.1 hprog
    have hr := hreliable r hr
    cases r with
    | relayPendingEvents env => exact safe_relayPendingEvents hr
    | retry env id => exact safe_retry id
  exact Pool.exec_safe RelayDb.KeepsPublished.refl (fun _ _ _ h h' id hid => h' id (h id hid)) hpool
    schedule hundisturbed

namespace Sample

/-- One pending event. -/
def outbox : RelayDb where
  outbox := Table.empty.put { id := "event-1" }

/-- A run of the relay in which the operations of one kind fail. -/
def relayWithout (kind : RelayCmd → Bool) (applied : Bool) : RelayRequest :=
  .relayPendingEvents
    { now := 0, fault := fun c => if kind c then some ⟨applied, .plain "lost"⟩ else none }

/-- A run of the relay. -/
def relayAll : RelayRequest := .relayPendingEvents { now := 0 }

/-- The listener throws. -/
def listenerThrows : RelayCmd → Bool
  | .deliver _ => true
  | _ => false

/-- The mark fails. -/
def markThrows : RelayCmd → Bool
  | .markPublished _ _ => true
  | _ => false

/-- The event is retried. -/
def retryEvent : RelayRequest := .retry { now := 0 } "event-1"

/-- A listener throws; the event is retried, and relayed. -/
def retried : List RelayRequest := [relayWithout listenerThrows false, retryEvent, relayAll]

lemma reliable_retried : ∀ r ∈ retried, r.Reliable := by
  have hthrows : (relayWithout listenerThrows false).Reliable := by
    refine ⟨fun _ _ => rfl, fun id failure hfailure => ?_⟩
    obtain rfl := Option.some.inj hfailure
    rfl
  have hall : relayAll.Reliable := ⟨fun _ _ => rfl, fun _ _ h => nomatch h⟩
  simp only [retried, List.forall_mem_cons, List.not_mem_nil, false_imp_iff, implies_true, and_true]
  exact ⟨hthrows, trivial, hall⟩

/-- The status of the event after each operation. -/
def relayedStatuses (requests : List RelayRequest) (schedule : List Nat) :
    List (Option OutboxStatus) :=
  ((relayPool outbox requests).exec schedule).1.map fun e => e.post.status "event-1"

/-- What was delivered. -/
def deliveries (requests : List RelayRequest) (schedule : List Nat) : List String :=
  ((relayPool outbox requests).exec schedule).2.state.delivered

end Sample

open Sample

/-- An event whose listener threw is retried, and delivered once. -/
theorem relay_final_retried :
    relayedStatuses retried [0, 0, 0, 1, 1, 2, 2, 2] =
        [some .PENDING, some .PENDING, some .FAILED, some .FAILED, some .PENDING, some .PENDING,
          some .PENDING, some .PUBLISHED] ∧
      deliveries retried [0, 0, 0, 1, 1, 2, 2, 2] = ["event-1"] ∧
      (∀ e ∈ ((relayPool outbox retried).exec [0, 0, 0, 1, 1, 2, 2, 2]).1,
        e.pre.FailedUndelivered ∧ e.post.FailedUndelivered ∧ e.pre.KeepsPublished e.post) ∧
      ((relayPool outbox retried).exec [0, 0, 0, 1, 1, 2, 2, 2]).2.state.FailedUndelivered :=
  ⟨by decide +kernel, by decide +kernel,
    relay_final outbox (fun _ _ => List.not_mem_nil) retried reliable_retried
      [0, 0, 0, 1, 1, 2, 2, 2] (by decide +kernel)⟩

/-- The mark of a delivered event is lost: the event fails, and a retry delivers it again.  The mark
is made and only its acknowledgement lost: a published event fails.  Two runs have read the event;
one publishes it, and at the other one a listener throws: a published event fails as well. -/
theorem delivered_and_failed :
    relayedStatuses [relayWithout markThrows false] [0, 0, 0, 0] =
        [some .PENDING, some .PENDING, some .PENDING, some .FAILED] ∧
      deliveries [relayWithout markThrows false] [0, 0, 0, 0] = ["event-1"] ∧
      deliveries [relayWithout markThrows false, retryEvent, relayAll]
        [0, 0, 0, 0, 1, 1, 2, 2, 2] = ["event-1", "event-1"] ∧
      relayedStatuses [relayWithout markThrows true] [0, 0, 0, 0, 0] =
        [some .PENDING, some .PENDING, some .PUBLISHED, some .PUBLISHED, some .FAILED] ∧
      relayedStatuses [relayAll, relayWithout listenerThrows false] [0, 1, 0, 0, 1, 1] =
        [some .PENDING, some .PENDING, some .PENDING, some .PUBLISHED, some .PUBLISHED,
          some .FAILED] := by
  refine ⟨?_, ?_, ?_, ?_, ?_⟩ <;> decide +kernel

end OmniSwitch
