import OmniSwitch.Lib.Faulty
import OmniSwitch.Money

/-!
# The idempotency interceptor

`idempotency.interceptor.ts` over `redis-cache.adapter.ts`: the requests of one merchant that carry
one `Idempotency-Key`.  The cache has two entries for them, the record and the lock, each with the
time at which it expires.  Any cache operation may fail, before or after Redis has applied it, and
an operation that fails continues where its error is caught.

The response of a handler is of any type `R`.  The time a record was completed at, which nothing
reads, and the value of the lock are left out.
-/

namespace OmniSwitch

open Lib

namespace Idempotency

/-- Source: `idempotency.interceptor.ts` `IDEMPOTENCY_TTL_SECONDS` -/
def idempotencyTtlSeconds : Nat := 86400

/-- Source: `idempotency.interceptor.ts` `LOCK_TTL_SECONDS` -/
def lockTtlSeconds : Nat := 30

/-- Source: `IdempotencyRecord` -/
inductive RecordStatus where
  | PROCESSING | COMPLETED
  deriving DecidableEq, Repr

/-- Source: `IdempotencyRecord` -/
structure IdempotencyRecord (R : Type) where
  status : RecordStatus
  response : Option R := none
  statusCode : Option Nat := none
  deriving DecidableEq, Repr

/-- The response to a request: its status code, and its body unless that is undefined. -/
structure Reply (R : Type) where
  statusCode : Nat
  body : Option R
  deriving DecidableEq, Repr

/-- `statusCode || 200`.

Source: `IdempotencyInterceptor.processIdempotency` -/
def orOk (statusCode : Nat) : Nat :=
  if statusCode = 0 then 200 else statusCode

variable {R : Type}

/-- The response of the handler, as the interceptor reads it. -/
def Reply.received (reply : Reply R) : Reply R :=
  ⟨orOk reply.statusCode, reply.body⟩

/-! ### The cache -/

/-- The clock, the two entries of the key with the times they expire at, and, beside what the code
keeps, the requests that have acquired the lock and are not answered yet, each with the time it
did so.

Source: `RedisCacheAdapter` -/
structure Store (R : Type) where
  now : Nat
  record : Option (IdempotencyRecord R × Nat) := none
  lock : Option Nat := none
  working : List (Nat × Nat) := []

/-- Source: `RedisCacheAdapter.get` -/
def Store.readRecord (s : Store R) : Option (IdempotencyRecord R) :=
  (s.record.filter fun entry => s.now < entry.2).map Prod.fst

/-- Source: `RedisCacheAdapter.setNX` -/
def Store.lockFree (s : Store R) : Bool :=
  !s.lock.any (s.now < ·)

/-- The operations on the cache, the start and the end of a handler run, the response to a
request, and the passing of time.

Source: `RedisCacheAdapter` -/
inductive CacheCmd (R : Type) where
  | get
  | setNX (request : Nat)
  | set (record : IdempotencyRecord R)
  | delLock
  | delRecord
  | handle
  | handled (result : Except AppError (Reply R))
  | respond (request : Nat) (result : Except AppError (Reply R))
  | tick (seconds : Nat)

/-- Source: `RedisCacheAdapter.get`, `set`, `del`, `setNX` -/
def CacheCmd.apply : CacheCmd R → Store R → Store R
  | .setNX request, s =>
    if s.lockFree then
      { s with
        lock := some (s.now + lockTtlSeconds)
        working := (request, s.now) :: s.working }
    else s
  | .set record, s => { s with record := some (record, s.now + idempotencyTtlSeconds) }
  | .delLock, s => { s with lock := none }
  | .delRecord, s => { s with record := none }
  | .respond request _, s => { s with working := s.working.filter (·.1 ≠ request) }
  | .tick seconds, s => { s with now := s.now + seconds }
  | .get, s => s
  | .handle, s => s
  | .handled _, s => s

instance : Commands (Store R) (CacheCmd R) where
  apply := CacheCmd.apply
  observes := fun _ => false

/-! ### The interceptor -/

/-- The cache operations of a request that fail.

Source: `IdempotencyInterceptor.processIdempotency` -/
structure CacheFaults where
  get : Option (Fault AppError) := none
  setNX : Option (Fault AppError) := none
  setProcessing : Option (Fault AppError) := none
  setCompleted : Option (Fault AppError) := none
  delLock : Option (Fault AppError) := none
  /-- `del(lockKey)` and `del(cacheKey)` where an error is caught. -/
  releaseLock : Option (Fault AppError) := none
  releaseRecord : Option (Fault AppError) := none

/-- What a request meets: the cache operations that fail, and what its handler comes to. -/
structure Request (R : Type) extends CacheFaults where
  handler : Except AppError (Reply R)

/-- What is left of a request. -/
abbrev Rest (R : Type) := Prog (Store R) (CacheCmd R) AppError Unit

/-- A cache operation: `caught` if it fails, and `next` on the store it found otherwise. -/
def attempt (operation : CacheCmd R) (fault : Option (Fault AppError)) (caught : AppError → Rest R)
    (next : Store R → Rest R) : Rest R :=
  match fault with
  | none => .act operation next
  | some fault =>
    if fault.applied then .act operation fun _ => caught fault.error else caught fault.error

variable (request : Nat) (r : Request R)

/-- The client is answered. -/
def respond (result : Except AppError (Reply R)) : Rest R :=
  .act (.respond request result) fun _ => .ret ()

/-- The client is answered with an error. -/
def reject (e : AppError) : Rest R :=
  respond request (.error e)

/-- The `catchError` of the pipe: forget the key and hand the error on.

Source: `IdempotencyInterceptor.processIdempotency` -/
def release (e : AppError) : Rest R :=
  attempt .delLock r.releaseLock (reject request) fun _ =>
    attempt .delRecord r.releaseRecord (reject request) fun _ =>
      reject request e

/-- Source: `IdempotencyInterceptor.processIdempotency` -/
def completed (reply : Reply R) : IdempotencyRecord R :=
  { status := .COMPLETED, response := reply.body, statusCode := some reply.statusCode }

/-- The `switchMap` of the pipe: remember the response.

Source: `IdempotencyInterceptor.processIdempotency` -/
def complete (reply : Reply R) : Rest R :=
  attempt (.set (completed reply)) r.setCompleted (release request r) fun _ =>
    attempt .delLock r.delLock (release request r) fun _ =>
      respond request (.ok reply)

/-- The handler and the pipe behind it.

Source: `IdempotencyInterceptor.processIdempotency` -/
def execute : Rest R :=
  .act .handle fun _ => .act (.handled r.handler) fun _ =>
    match r.handler with
    | .ok reply => complete request r reply.received
    | .error e => release request r e

/-- Source: `IdempotencyInterceptor.processIdempotency` -/
def conflict (code : String) : AppError :=
  .http 409 "A request with this Idempotency-Key is currently being processed." code

/-- The lock, and what follows once it is acquired.

Source: `IdempotencyInterceptor.processIdempotency` -/
def acquire : Rest R :=
  attempt (.setNX request) r.setNX (reject request) fun s =>
    if s.lockFree then
      attempt (.set { status := .PROCESSING }) r.setProcessing (reject request) fun _ =>
        execute request r
    else reject request (conflict "IDEMPOTENCY_LOCK_CONFLICT")

/-- A record that is completed, but has no response, is passed over. -/
def processIdempotency : Rest R :=
  attempt .get r.get (reject request) fun s =>
    match s.readRecord with
    | some ⟨.COMPLETED, some body, statusCode⟩ =>
      respond request (.ok ⟨orOk (statusCode.getD 0), some body⟩)
    | some ⟨.PROCESSING, _, _⟩ => reject request (conflict "IDEMPOTENCY_CONFLICT")
    | _ => acquire request r

end Idempotency

end OmniSwitch
