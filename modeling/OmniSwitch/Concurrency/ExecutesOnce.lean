import OmniSwitch.Lib.Contract
import OmniSwitch.Services.Idempotency

/-!
# The handler of an idempotency key runs once

A request looks for a completed record before it acquires the lock and not again after; the lock
expires whether or not the request that acquired it is done; and when the record or the release of
the lock fails after the handler has succeeded, the record is deleted like after a handler that
failed.

Main results:

* `handler_executes_once`: the handler runs once, where locks do not expire too soon;
* `handler_executes_twice`: interleavings in which it runs again.
-/

namespace OmniSwitch

open Lib Prog Idempotency

namespace Idempotency

variable {R : Type}

/-! ### The journal -/

/-- What is recorded of handler runs and of successful responses, with the time. -/
inductive Entry (R : Type) where
  | started (request now : Nat)
  | succeeded (request now : Nat) (reply : Reply R)
  | failed (request : Nat)
  | answered (now : Nat) (reply : Reply R)
  deriving DecidableEq, Repr

variable (request : Nat)

/-- What a command puts in the journal. -/
def entry : CacheCmd R → Store R → Option (Entry R)
  | .handle, s => some (.started request s.now)
  | .handled (.ok reply), s => some (.succeeded request s.now reply.received)
  | .handled (.error _), _ => some (.failed request)
  | .respond _ (.ok reply), s => some (.answered s.now reply)
  | _, _ => none

/-- The journal of an execution, the latest entry first. -/
def journal (trace : List (Event (Store R) (CacheCmd R))) : List (Entry R) :=
  trace.foldl (fun entries e => (entry e.proc e.cmd e.pre).toList ++ entries) []

/-- The requests whose handler runs. -/
def running : List (Entry R) → List Nat
  | [] => []
  | .started request _ :: entries => request :: running entries
  | .succeeded request _ _ :: entries => (running entries).erase request
  | .failed request :: entries => (running entries).erase request
  | .answered _ _ :: entries => running entries

/-- The handler runs that succeeded, the latest first. -/
def successes : List (Entry R) → List (Nat × Reply R)
  | [] => []
  | .succeeded _ now reply :: entries => (now, reply) :: successes entries
  | _ :: entries => successes entries

/-- An entry that may follow: a handler starts when none is running and no success is within the
record's time to live; and within that of the first success its response is what is answered. -/
def Allowed : Entry R → List (Entry R) → Prop
  | .started _ now, earlier =>
    running earlier = [] ∧ ∀ x ∈ successes earlier, x.1 + idempotencyTtlSeconds ≤ now
  | .answered now reply, earlier =>
    ∀ x ∈ (successes earlier).getLast?, now < x.1 + idempotencyTtlSeconds → reply = x.2
  | _, _ => True

/-- Source: `IdempotencyInterceptor` -/
def ExecutesOnce : List (Entry R) → Prop
  | [] => True
  | entry :: earlier => Allowed entry earlier ∧ ExecutesOnce earlier

/-- It can be decided. -/
instance decidableAllowed [DecidableEq R] :
    (entry : Entry R) → (earlier : List (Entry R)) → Decidable (Allowed entry earlier)
  | .started _ now, earlier => inferInstanceAs (Decidable
      (running earlier = [] ∧ ∀ x ∈ successes earlier, x.1 + idempotencyTtlSeconds ≤ now))
  | .answered now reply, earlier => inferInstanceAs (Decidable
      (∀ x ∈ (successes earlier).getLast?, now < x.1 + idempotencyTtlSeconds → reply = x.2))
  | .succeeded _ _ _, _ => .isTrue trivial
  | .failed _, _ => .isTrue trivial

/-- So can it for a journal. -/
instance decidableExecutesOnce [DecidableEq R] :
    (entries : List (Entry R)) → Decidable (ExecutesOnce entries)
  | [] => .isTrue trivial
  | entry :: earlier =>
    have := decidableExecutesOnce earlier
    inferInstanceAs (Decidable (Allowed entry earlier ∧ ExecutesOnce earlier))

/-! ### The condition -/

/-- A request that acquires the lock finds no record, and no lock expires while the request that
acquired it is at work. -/
def Timely : CacheCmd R → Store R → Bool
  | .setNX _, s => !s.lockFree || s.readRecord.isNone
  | .tick seconds, s => s.working.all fun w => s.now + seconds < w.2 + lockTtlSeconds
  | _, _ => true

/-! ### The owner of the lock -/

/-- How far the request has come that acquired the lock last. -/
inductive Stage (R : Type) where
  | acquired | marked | running
  | succeeded (reply : Reply R)
  | failed | completed

/-- A request that holds the lock, since when, and how far it is. -/
structure Owner (R : Type) where
  request : Nat
  since : Nat
  stage : Stage R

/-- What is recorded beside the store: the journal, and the owner of the lock. -/
structure Ghost (R : Type) where
  journal : List (Entry R)
  owner : Option (Owner R)

/-- What a command makes of the owner. -/
def advance (c : CacheCmd R) (s : Store R) (owner : Option (Owner R)) : Option (Owner R) :=
  let move (stage : Stage R) := owner.map fun o => ⟨o.request, o.since, stage⟩
  match c with
  | .setNX _ => if s.lockFree then some ⟨request, s.now, .acquired⟩ else owner
  | .set record => if record.status = .PROCESSING then move .marked else move .completed
  | .handle => move .running
  | .handled (.ok reply) => move (.succeeded reply.received)
  | .handled (.error _) => move .failed
  | .delRecord => none
  | .respond _ _ => owner.filter (·.request ≠ request)
  | _ => owner

/-- What a command records. -/
def note (c : CacheCmd R) (t : Store R × Ghost R) : Ghost R :=
  ⟨(entry request c t.1).toList ++ t.2.journal, advance request c t.1 t.2.owner⟩

/-- What a request relies on: no one else makes it the owner or moves it on, and the journal only
grows. -/
def Keeps (t t' : Store R × Ghost R) : Prop :=
  t'.2.owner.filter (·.request = request) = t.2.owner.filter (·.request = request) ∧
    t.2.journal <:+ t'.2.journal

/-- What a request relies on and guarantees. -/
def contract : Contract (Store R) (CacheCmd R) (Ghost R) :=
  ⟨note request, Keeps request, fun t t' => ∀ other ≠ request, Keeps other t t'⟩

/-! ### The invariant -/

/-- A record keeps others from running the handler. -/
def Marked (s : Store R) (since : Nat) : Prop :=
  ∃ record expiresAt, s.record = some (record, expiresAt) ∧
    since + idempotencyTtlSeconds ≤ expiresAt

/-- All successes are beyond the record's time to live. -/
def Over (s : Store R) (entries : List (Entry R)) : Prop :=
  ∀ x ∈ successes entries, x.1 + idempotencyTtlSeconds ≤ s.now

/-- A success within the record's time to live is on record. -/
def Kept (s : Store R) (entries : List (Entry R)) : Prop :=
  ∀ x ∈ successes entries, s.now < x.1 + idempotencyTtlSeconds →
    ∃ expiresAt, s.record = some (completed x.2, expiresAt) ∧
      x.1 + idempotencyTtlSeconds ≤ expiresAt

/-- What the stage of an owner says of the store and the journal. -/
def Owner.Fits (o : Owner R) (s : Store R) (entries : List (Entry R)) : Prop :=
  match o.stage with
  | .acquired => s.lock = some (o.since + lockTtlSeconds) ∧ running entries = [] ∧
      Over s entries
  | .marked | .failed => Marked s o.since ∧ running entries = [] ∧ Over s entries
  | .running => Marked s o.since ∧ running entries = [o.request] ∧ Over s entries
  | .succeeded reply => Marked s o.since ∧ running entries = [] ∧
      ∃ now earlier, successes entries = (now, reply) :: earlier ∧
        ∀ x ∈ earlier, x.1 + idempotencyTtlSeconds ≤ s.now
  | .completed => Marked s o.since ∧ running entries = [] ∧ Kept s entries

/-- Without an owner nothing runs, and what succeeded is on record. -/
def Phase (s : Store R) (entries : List (Entry R)) : Option (Owner R) → Prop
  | none => running entries = [] ∧ Kept s entries
  | some o => (o.request, o.since) ∈ s.working ∧ o.Fits s entries

/-- The invariant of the runs. -/
structure Inv (t : Store R × Ghost R) : Prop where
  once : ExecutesOnce t.2.journal
  young : ∀ w ∈ t.1.working, w.2 ≤ t.1.now ∧ t.1.now < w.2 + lockTtlSeconds
  past : ∀ x ∈ successes t.2.journal, x.1 ≤ t.1.now
  apart : (successes t.2.journal).Pairwise fun later earlier =>
    earlier.1 + idempotencyTtlSeconds ≤ later.1
  backed : ∀ record expiresAt, t.1.record = some (record, expiresAt) →
    record.status = .COMPLETED → ∃ now reply,
      (now, Reply.received reply) ∈ successes t.2.journal ∧ record = completed reply.received
  phase : Phase t.1 t.2.journal t.2.owner

section steps

variable {request : Nat} {t : Store R × Ghost R} {o : Owner R}
variable {s : Store R} {entries : List (Entry R)}

lemma Over.kept (h : Over s entries) :
    Kept s entries :=
  fun x hx hlt => absurd hlt (Nat.not_lt.2 (h x hx))

variable {entries' : List (Entry R)}

lemma Kept.later {s' : Store R} (h : Kept s entries) (hrecord : s'.record = s.record)
    (hnow : s.now ≤ s'.now) (hsuccesses : successes entries' = successes entries) :
    Kept s' entries' := by
  intro x hx hlt
  obtain ⟨expiresAt, hrecord', hexpires⟩ := h x (hsuccesses ▸ hx) (Nat.lt_of_le_of_lt hnow hlt)
  exact ⟨expiresAt, hrecord.trans hrecord', hexpires⟩

lemma Owner.Fits.later {s' : Store R} (h : o.Fits s entries) (hrecord : s'.record = s.record)
    (hlock : s'.lock = s.lock) (hnow : s.now ≤ s'.now)
    (hrunning : running entries' = running entries)
    (hsuccesses : successes entries' = successes entries) : o.Fits s' entries' := by
  have hmarked : Marked s o.since → Marked s' o.since := by
    rintro ⟨record, expiresAt, hrecord', hexpires⟩
    exact ⟨record, expiresAt, hrecord.trans hrecord', hexpires⟩
  have hover : Over s entries → Over s' entries' :=
    fun hover x hx => (hover x (hsuccesses ▸ hx)).trans hnow
  unfold Owner.Fits at h ⊢
  split at h
  · exact ⟨hlock.trans h.1, hrunning.trans h.2.1, hover h.2.2⟩
  · exact ⟨hmarked h.1, hrunning.trans h.2.1, hover h.2.2⟩
  · exact ⟨hmarked h.1, hrunning.trans h.2.1, hover h.2.2⟩
  · exact ⟨hmarked h.1, hrunning.trans h.2.1, hover h.2.2⟩
  · obtain ⟨now, earlier, hlast, hearlier⟩ := h.2.2
    exact ⟨hmarked h.1, hrunning.trans h.2.1, now, earlier, hsuccesses.trans hlast,
      fun x hx => (hearlier x hx).trans hnow⟩
  · exact ⟨hmarked h.1, hrunning.trans h.2.1, h.2.2.later hrecord hnow hsuccesses⟩

/-- An owner whose handler is not running, and whose response, if it succeeded, is on record. -/
lemma Owner.Fits.idle (h : o.Fits s entries) (hrunning : o.stage ≠ .running)
    (hsucceeded : ∀ reply, o.stage ≠ .succeeded reply) :
    running entries = [] ∧ Kept s entries := by
  unfold Owner.Fits at h
  split at h
  · exact ⟨h.2.1, h.2.2.kept⟩
  · exact ⟨h.2.1, h.2.2.kept⟩
  · exact ⟨h.2.1, h.2.2.kept⟩
  · rename_i hstage
    exact absurd hstage hrunning
  · rename_i reply hstage
    exact absurd hstage (hsucceeded reply)
  · exact h.2

lemma Inv.owned (h : Inv t) (ho : t.2.owner = some o) (htimely : Timely (.setNX request) t.1) :
    t.1.lockFree = false := by
  have hphase := h.phase
  rw [ho] at hphase
  obtain ⟨hworking, hfits⟩ := hphase
  obtain ⟨-, hyoung⟩ := h.young _ hworking
  have hmarked : Marked t.1 o.since → t.1.lockFree = false := by
    rintro ⟨record, expiresAt, hrecord, hexpires⟩
    have halive : t.1.now < expiresAt := by
      simp only [lockTtlSeconds, idempotencyTtlSeconds] at hyoung hexpires
      omega
    simpa [Timely, Store.readRecord, hrecord, halive] using htimely
  unfold Owner.Fits at hfits
  split at hfits
  · simp [Store.lockFree, hfits.1, hyoung]
  all_goals exact hmarked hfits.1

lemma Inv.unowned (h : Inv t) (hfree : t.1.lockFree) (htimely : Timely (.setNX request) t.1) :
    t.2.owner = none := by
  cases ho : t.2.owner with
  | none => rfl
  | some o => exact absurd hfree (by simp [h.owned ho htimely])

lemma Inv.acquire (h : Inv t) (hfree : t.1.lockFree) (htimely : Timely (.setNX request) t.1) :
    Inv ((contract request).apply (.setNX request) t) := by
  have happly : (contract request).apply (.setNX request) t =
      (⟨t.1.now, t.1.record, some (t.1.now + lockTtlSeconds), (request, t.1.now) :: t.1.working⟩,
        ⟨t.2.journal, some ⟨request, t.1.now, .acquired⟩⟩) := by
    simp [Contract.apply, contract, note, Commands.apply, CacheCmd.apply, advance, entry, hfree]
  have hphase := h.phase
  rw [h.unowned hfree htimely] at hphase
  obtain ⟨hrunning, hkept⟩ := hphase
  have habsent : t.1.readRecord = none := by simpa [Timely, hfree] using htimely
  rw [happly]
  refine ⟨h.once, ?_, h.past, h.apart, h.backed, List.mem_cons_self, rfl, hrunning, ?_⟩
  · intro w hw
    rcases List.mem_cons.1 hw with rfl | hw
    · exact ⟨Nat.le_refl _, by simp [lockTtlSeconds]⟩
    · exact h.young w hw
  · intro x hx
    by_contra hlt
    obtain ⟨expiresAt, hrecord, hexpires⟩ := hkept x hx (Nat.not_le.1 hlt)
    have halive : t.1.now < expiresAt := Nat.lt_of_lt_of_le (Nat.not_le.1 hlt) hexpires
    have hread : t.1.readRecord = some (completed x.2) := by
      simp [Store.readRecord, hrecord, halive]
    exact (nomatch hread.symm.trans habsent)

section owner

variable {since : Nat} {reply : Reply R}

lemma Inv.mark (h : Inv t) (ho : t.2.owner = some ⟨request, since, .acquired⟩) :
    Inv ((contract request).apply (.set { status := .PROCESSING }) t) := by
  obtain ⟨s, J, owner⟩ := t
  obtain rfl : owner = _ := ho
  obtain ⟨hworking, -, hrunning, hover⟩ := h.phase
  have hsince := (h.young _ hworking).1
  refine ⟨h.once, h.young, h.past, h.apart, ?_, hworking, ⟨_, _, rfl, ?_⟩, hrunning, hover⟩
  · rintro record expiresAt ⟨⟩ hstatus
    exact (nomatch hstatus)
  · exact Nat.add_le_add_right hsince _

lemma Inv.start (h : Inv t) (ho : t.2.owner = some ⟨request, since, .marked⟩) :
    Inv ((contract request).apply .handle t) := by
  obtain ⟨s, J, owner⟩ := t
  obtain rfl : owner = _ := ho
  obtain ⟨hworking, hmarked, hrunning, hover⟩ := h.phase
  refine ⟨⟨⟨hrunning, hover⟩, h.once⟩, h.young, h.past, h.apart, h.backed, hworking, hmarked, ?_,
    hover⟩
  exact congrArg (request :: ·) hrunning

lemma Inv.succeed (h : Inv t) (ho : t.2.owner = some ⟨request, since, .running⟩) :
    Inv ((contract request).apply (.handled (.ok reply)) t) := by
  obtain ⟨s, J, owner⟩ := t
  obtain rfl : owner = _ := ho
  obtain ⟨hworking, hmarked, hrunning, hover⟩ := h.phase
  refine ⟨⟨trivial, h.once⟩, h.young, ?_, List.pairwise_cons.2 ⟨hover, h.apart⟩, ?_, hworking,
    hmarked, ?_, s.now, _, rfl, hover⟩
  · exact List.forall_mem_cons.2 ⟨Nat.le_refl _, h.past⟩
  · intro record expiresAt hrecord hstatus
    obtain ⟨now, reply', hmem, hrecord⟩ := h.backed record expiresAt hrecord hstatus
    exact ⟨now, reply', List.mem_cons_of_mem _ hmem, hrecord⟩
  · change (running J).erase request = []
    rw [hrunning, List.erase_cons_head]

lemma Inv.fail (h : Inv t) (ho : t.2.owner = some ⟨request, since, .running⟩) (e : AppError) :
    Inv ((contract request).apply (.handled (.error e)) t) := by
  obtain ⟨s, J, owner⟩ := t
  obtain rfl : owner = _ := ho
  obtain ⟨hworking, hmarked, hrunning, hover⟩ := h.phase
  refine ⟨⟨trivial, h.once⟩, h.young, h.past, h.apart, h.backed, hworking, hmarked, ?_, hover⟩
  change (running J).erase request = []
  rw [hrunning, List.erase_cons_head]

lemma Inv.complete (h : Inv t)
    (ho : t.2.owner = some ⟨request, since, .succeeded reply.received⟩) :
    Inv ((contract request).apply (.set (completed reply.received)) t) := by
  obtain ⟨s, J, owner⟩ := t
  obtain rfl : owner = _ := ho
  obtain ⟨hworking, -, hrunning, now, earlier, hsuccesses, hover⟩ := h.phase
  have hmem : (now, reply.received) ∈ successes J := hsuccesses ▸ List.mem_cons_self
  have hsince := (h.young _ hworking).1
  refine ⟨h.once, h.young, h.past, h.apart, ?_, hworking, ⟨_, _, rfl, ?_⟩, hrunning, ?_⟩
  · rintro record expiresAt ⟨⟩ -
    exact ⟨now, reply, hmem, rfl⟩
  · exact Nat.add_le_add_right hsince _
  · intro x hx hlt
    have hx' : x ∈ (now, reply.received) :: earlier := hsuccesses ▸ hx
    rcases List.mem_cons.1 hx' with rfl | hx'
    · exact ⟨_, rfl, Nat.add_le_add_right (h.past _ hmem) _⟩
    · exact absurd hlt (Nat.not_lt.2 (hover x hx'))

/-- The owner releases the lock, of a handler that failed or when the response is on record. -/
lemma Inv.unlock (h : Inv t) {stage : Stage R} (ho : t.2.owner = some ⟨request, since, stage⟩)
    (hstage : stage = .failed ∨ stage = .completed) :
    Inv ((contract request).apply .delLock t) := by
  obtain ⟨s, J, owner⟩ := t
  obtain rfl : owner = _ := ho
  refine ⟨h.once, h.young, h.past, h.apart, h.backed, ?_⟩
  rcases hstage with rfl | rfl <;> exact h.phase

lemma Inv.forget (h : Inv t) (ho : t.2.owner = some ⟨request, since, .failed⟩) :
    Inv ((contract request).apply .delRecord t) := by
  obtain ⟨s, J, owner⟩ := t
  obtain rfl : owner = _ := ho
  obtain ⟨-, -, hrunning, hover⟩ := h.phase
  refine ⟨h.once, h.young, h.past, h.apart, fun _ _ hrecord => (nomatch hrecord), hrunning, ?_⟩
  exact Over.kept hover

end owner

/-- What succeeded within the time to live of the first success is the first success. -/
lemma Inv.first (h : Inv t) {x first : Nat × Reply R} (hx : x ∈ successes t.2.journal)
    (hfirst : first ∈ (successes t.2.journal).getLast?)
    (hlt : t.1.now < first.1 + idempotencyTtlSeconds) : x = first := by
  obtain ⟨later, hsuccesses⟩ := List.getLast?_eq_some_iff.1 hfirst
  have happart := h.apart
  rw [hsuccesses] at hx happart
  rcases List.mem_append.1 hx with hlater | hlast
  · have hle := (List.pairwise_append.1 happart).2.2 x hlater first (List.mem_singleton.2 rfl)
    have hpast := h.past x (hsuccesses ▸ hx)
    omega
  · exact List.mem_singleton.1 hlast

/-- A request is answered: what it answers was the response of a handler, and its own handler, if
it owns the lock, is done. -/
lemma Inv.respond (h : Inv t) {result : Except AppError (Reply R)}
    (hresult : ∀ reply, result = .ok reply → ∃ now, (now, reply) ∈ successes t.2.journal)
    (hdone : ∀ o, t.2.owner = some o → o.request = request →
      o.stage ≠ .running ∧ ∀ reply, o.stage ≠ .succeeded reply) :
    Inv ((contract request).apply (.respond request result) t) := by
  obtain ⟨s, J, owner⟩ := t
  have hjournal : ExecutesOnce ((entry request (.respond request result) s).toList ++ J) ∧
      successes ((entry request (.respond request result) s).toList ++ J) = successes J ∧
      running ((entry request (.respond request result) s).toList ++ J) = running J := by
    cases result with
    | error e => exact ⟨h.once, rfl, rfl⟩
    | ok reply =>
      obtain ⟨now, hmem⟩ := hresult reply rfl
      refine ⟨⟨fun first hfirst hlt => ?_, h.once⟩, rfl, rfl⟩
      exact congrArg Prod.snd (h.first hmem hfirst hlt)
  obtain ⟨honce, hsuccesses, hrunning⟩ := hjournal
  refine ⟨honce, fun w hw => h.young w (List.mem_of_mem_filter hw), hsuccesses ▸ h.past,
    hsuccesses ▸ h.apart, hsuccesses ▸ h.backed, ?_⟩
  have hphase := h.phase
  change Phase _ _ (owner.filter (·.request ≠ request))
  cases owner with
  | none => exact ⟨hrunning.trans hphase.1, hphase.2.later rfl (Nat.le_refl _) hsuccesses⟩
  | some o =>
    by_cases hmine : o.request = request
    · rw [Option.filter_some_neg (by simpa using hmine)]
      obtain ⟨hnot, hnot'⟩ := hdone o rfl hmine
      obtain ⟨hidle, hkept⟩ := hphase.2.idle hnot hnot'
      exact ⟨hrunning.trans hidle, hkept.later rfl (Nat.le_refl _) hsuccesses⟩
    · rw [Option.filter_some_pos (by simpa using hmine)]
      exact ⟨List.mem_filter.2 ⟨hphase.1, by simpa using hmine⟩,
        hphase.2.later rfl rfl (Nat.le_refl _) hrunning hsuccesses⟩

lemma Inv.tick (h : Inv t) {seconds : Nat} (htimely : Timely (.tick seconds) t.1) :
    Inv ((contract request).apply (.tick seconds) t) := by
  obtain ⟨s, J, owner⟩ := t
  have hle : s.now ≤ s.now + seconds := Nat.le_add_right _ _
  refine ⟨h.once, fun w hw => ⟨(h.young w hw).1.trans hle, ?_⟩, fun x hx => (h.past x hx).trans hle,
    h.apart, h.backed, ?_⟩
  · exact of_decide_eq_true (List.all_eq_true.1 htimely w hw)
  · have hphase := h.phase
    change Phase _ J owner
    cases owner with
    | none => exact ⟨hphase.1, hphase.2.later rfl hle rfl⟩
    | some o => exact ⟨hphase.1, hphase.2.later rfl rfl hle rfl rfl⟩

end steps

/-! ### The guarantee -/

section keeps

variable {request : Nat} {t t' : Store R × Ghost R} {o : Owner R}

lemma Keeps.refl (request : Nat) (t : Store R × Ghost R) : Keeps request t t :=
  ⟨rfl, List.suffix_refl _⟩

lemma Keeps.owner_iff (h : Keeps request t t') (hmine : o.request = request) :
    t'.2.owner = some o ↔ t.2.owner = some o := by
  have hfilter : ∀ owner : Option (Owner R),
      owner.filter (·.request = request) = some o ↔ owner = some o := by
    intro owner
    rw [Option.filter_eq_some_iff]
    simp [hmine]
  rw [← hfilter, h.1, hfilter]

lemma successes_append (entries entries' : List (Entry R)) :
    successes (entries ++ entries') = successes entries ++ successes entries' := by
  induction entries with
  | nil => rfl
  | cons entry entries ih => cases entry <;> simp [successes, ih]

lemma Keeps.successes (h : Keeps request t t') {x : Nat × Reply R}
    (hx : x ∈ successes t.2.journal) : x ∈ successes t'.2.journal := by
  obtain ⟨entries, hentries⟩ := h.2
  rw [← hentries, successes_append]
  exact List.mem_append_right _ hx

lemma guarantee_of_mine (h : ∀ o, t.2.owner = some o → o.request = request) (c : CacheCmd R) :
    (contract request).guarantee t ((contract request).apply c t) := by
  intro other hne
  have hnone : ∀ owner : Option (Owner R), (∀ o, owner = some o → o.request = request) →
      owner.filter (·.request = other) = none := by
    intro owner howner
    rw [Option.filter_eq_none_iff]
    intro o ho
    simpa [howner o ho] using hne.symm
  have hmove : ∀ (stage : Stage R) o,
      (t.2.owner.map fun o => (⟨o.request, o.since, stage⟩ : Owner R)) = some o →
        o.request = request := by
    intro stage o ho
    obtain ⟨o', ho', rfl⟩ := Option.map_eq_some_iff.1 ho
    exact h o' ho'
  refine ⟨?_, List.suffix_append _ _⟩
  rw [hnone _ h]
  refine hnone (advance request c t.1 t.2.owner) fun o ho => ?_
  unfold advance at ho
  dsimp only at ho
  split at ho
  · split_ifs at ho
    · obtain rfl := Option.some.inj ho
      rfl
    · exact h o ho
  · split_ifs at ho <;> exact hmove _ o ho
  · exact hmove _ o ho
  · exact hmove _ o ho
  · exact hmove _ o ho
  · exact (nomatch ho)
  · exact h o (Option.filter_eq_some_iff.1 ho).1
  · exact h o ho

lemma guarantee_of_still {c : CacheCmd R} (h : advance request c t.1 t.2.owner = t.2.owner) :
    (contract request).guarantee t ((contract request).apply c t) :=
  fun _ _ => ⟨congrArg _ h, List.suffix_append _ _⟩

lemma guarantee_respond (result : Except AppError (Reply R)) :
    (contract request).guarantee t ((contract request).apply (.respond request result) t) := by
  intro other hne
  refine ⟨?_, List.suffix_append _ _⟩
  change (t.2.owner.filter (·.request ≠ request)).filter (·.request = other) = _
  cases t.2.owner with
  | none => rfl
  | some o => by_cases hmine : o.request = request <;> simp [Option.filter, hmine, hne.symm]

end keeps

/-! ### The interceptor under its contract -/

section interceptor

variable {request : Nat} {last : Store R × Ghost R} {seen : Option (Store R)}

/-- The rest of a request keeps the invariant from `last` on. -/
def Good (request : Nat) (last : Store R × Ghost R) (rest : Rest R) : Prop :=
  rest.Meets (contract request) Inv (fun _ c s => Timely c s) (fun _ _ _ => True) last none

/-- A cache operation: it keeps the invariant, and so does what follows, whether it fails or not. -/
lemma good_attempt {c : CacheCmd R} (fault : Option (Fault AppError)) {caught : AppError → Rest R}
    {next : Store R → Rest R} (hcaught : ∀ e, Good request last (caught e))
    (hstep : ∀ t, Inv t → Keeps request last t → Timely c t.1 →
      Inv ((contract request).apply c t) ∧
      (contract request).guarantee t ((contract request).apply c t) ∧
      Good request ((contract request).apply c t) (next t.1) ∧
      ∀ e, Good request ((contract request).apply c t) (caught e)) :
    Good request last (attempt c fault caught next) := by
  unfold attempt
  split
  · intro t ht hrely hcond
    obtain ⟨hinv, hguarantee, hnext, -⟩ := hstep t ht hrely hcond
    exact ⟨hinv, hguarantee, hnext⟩
  · split_ifs
    · intro t ht hrely hcond
      obtain ⟨hinv, hguarantee, -, hcaught'⟩ := hstep t ht hrely hcond
      exact ⟨hinv, hguarantee, hcaught' _⟩
    · exact hcaught _

/-- A request whose handler is not running is answered with the response of a handler. -/
lemma good_respond {result : Except AppError (Reply R)}
    (hresult : ∀ reply, result = .ok reply → ∃ now, (now, reply) ∈ successes last.2.journal)
    (hdone : ∀ o, last.2.owner = some o → o.request = request →
      o.stage ≠ .running ∧ ∀ reply, o.stage ≠ .succeeded reply) :
    Good request last (respond request result) := by
  intro t ht hrely _
  refine ⟨ht.respond (fun reply hreply => ?_) fun o ho hmine => ?_, guarantee_respond result,
    trivial⟩
  · obtain ⟨now, hmem⟩ := hresult reply hreply
    exact ⟨now, hrely.successes hmem⟩
  · exact hdone o ((hrely.owner_iff hmine).1 ho) hmine

lemma good_reject (e : AppError) (hdone : ∀ o, last.2.owner = some o → o.request = request →
      o.stage ≠ .running ∧ ∀ reply, o.stage ≠ .succeeded reply) :
    Good request last (reject request e) :=
  good_respond (fun _ h => (nomatch h)) hdone

lemma good_reject_of_free (hfree : ∀ o, last.2.owner = some o → o.request ≠ request)
    (e : AppError) : Good request last (reject request e) :=
  good_reject e fun o ho hmine => absurd hmine (hfree o ho)

section owner

variable {since : Nat} {reply : Reply R}
variable {stage : Stage R}

lemma done_of_owner (ho : last.2.owner = some ⟨request, since, stage⟩) (hrunning : stage ≠ .running)
    (hsucceeded : ∀ reply, stage ≠ .succeeded reply) :
    ∀ o, last.2.owner = some o → o.request = request →
      o.stage ≠ .running ∧ ∀ reply, o.stage ≠ .succeeded reply := by
  intro o ho' _
  obtain rfl := Option.some.inj (ho.symm.trans ho')
  exact ⟨hrunning, hsucceeded⟩

lemma mine_of_owner (ho : last.2.owner = some ⟨request, since, stage⟩) :
    ∀ o, last.2.owner = some o → o.request = request := by
  intro o ho'
  obtain rfl := Option.some.inj (ho.symm.trans ho')
  rfl

lemma owner_moved {t : Store R × Ghost R} {stage' : Stage R} {c : CacheCmd R}
    (ho : t.2.owner = some ⟨request, since, stage⟩)
    (h : advance request c t.1 t.2.owner = t.2.owner.map fun o => ⟨o.request, o.since, stage'⟩) :
    ((contract request).apply c t).2.owner = some ⟨request, since, stage'⟩ := by
  rw [ho, Option.map_some] at h
  rw [← h, ← ho]
  rfl

lemma good_release (r : Request R) (e : AppError)
    (ho : last.2.owner = some ⟨request, since, .failed⟩) :
    Good request last (release request r e) := by
  refine good_attempt _ (fun e => good_reject e (done_of_owner ho nofun nofun))
    fun t ht hrely _ => ?_
  have ho := (hrely.owner_iff rfl).2 ho
  refine ⟨ht.unlock ho (.inl rfl), guarantee_of_mine (mine_of_owner ho) _, ?_,
    fun e => good_reject e (done_of_owner ho nofun nofun)⟩
  refine good_attempt _ (fun e => good_reject e (done_of_owner ho nofun nofun))
    fun t ht hrely _ => ?_
  have ho := (hrely.owner_iff rfl).2 ho
  exact ⟨ht.forget ho, guarantee_of_mine (mine_of_owner ho) _,
    good_reject e fun _ h => (nomatch h), fun e => good_reject e fun _ h => (nomatch h)⟩

lemma good_complete {r : Request R} (hset : r.setCompleted = none) (hdel : r.delLock = none)
    (ho : last.2.owner = some ⟨request, since, .succeeded reply.received⟩) :
    Good request last (complete request r reply.received) := by
  unfold complete
  rw [hset, hdel]
  intro t ht hrely _
  have ho := (hrely.owner_iff rfl).2 ho
  have hphase := ht.phase
  rw [ho] at hphase
  obtain ⟨-, -, -, now, earlier, hsuccesses, -⟩ := hphase
  have hmem : (now, reply.received) ∈ successes t.2.journal := hsuccesses ▸ List.mem_cons_self
  refine ⟨ht.complete ho, guarantee_of_mine (mine_of_owner ho) _, ?_⟩
  have ho := owner_moved (c := .set (completed reply.received)) ho rfl
  intro t ht hrely _
  have ho := (hrely.owner_iff rfl).2 ho
  refine ⟨ht.unlock ho (.inr rfl), guarantee_of_mine (mine_of_owner ho) _, ?_⟩
  refine good_respond ?_ (done_of_owner ho nofun nofun)
  rintro _ ⟨rfl⟩
  exact ⟨now, hrely.successes hmem⟩

/-- So does its handler, under the lock. -/
lemma good_execute {r : Request R}
    (hfaults : ∀ reply, r.handler = .ok reply → r.setCompleted = none ∧ r.delLock = none)
    (ho : last.2.owner = some ⟨request, since, .marked⟩) :
    Good request last (execute request r) := by
  intro t ht hrely _
  have ho := (hrely.owner_iff rfl).2 ho
  refine ⟨ht.start ho, guarantee_of_mine (mine_of_owner ho) _, ?_⟩
  have ho := owner_moved (c := .handle) ho rfl
  intro t ht hrely _
  have ho := (hrely.owner_iff rfl).2 ho
  cases hhandler : r.handler with
  | ok reply =>
    obtain ⟨hset, hdel⟩ := hfaults reply hhandler
    exact ⟨ht.succeed ho, guarantee_of_mine (mine_of_owner ho) _,
      good_complete hset hdel (owner_moved (c := .handled (.ok reply)) ho rfl)⟩
  | error e =>
    exact ⟨ht.fail ho e, guarantee_of_mine (mine_of_owner ho) _,
      good_release r e (owner_moved (c := .handled (.error e)) ho rfl)⟩

end owner

lemma good_acquire {r : Request R}
    (hfaults : ∀ reply, r.handler = .ok reply → r.setCompleted = none ∧ r.delLock = none)
    (hfree : ∀ o, last.2.owner = some o → o.request ≠ request) :
    Good request last (acquire request r) := by
  refine good_attempt _ (good_reject_of_free hfree) fun t ht hrely hcond => ?_
  cases hlock : t.1.lockFree with
  | false =>
    have hstill : (contract request).apply (.setNX request) t = t := by
      simp [Contract.apply, contract, note, Commands.apply, CacheCmd.apply, advance, entry, hlock]
    have hfree' : ∀ o, t.2.owner = some o → o.request ≠ request :=
      fun o ho hmine => hfree o ((hrely.owner_iff hmine).1 ho) hmine
    rw [hstill]
    exact ⟨ht, fun other _ => Keeps.refl other t, good_reject_of_free hfree' _,
      good_reject_of_free hfree'⟩
  | true =>
    have howner : ((contract request).apply (.setNX request) t).2.owner =
        some ⟨request, t.1.now, .acquired⟩ := if_pos hlock
    have hnone := ht.unowned hlock hcond
    refine ⟨ht.acquire hlock hcond, guarantee_of_mine (fun o ho => ?_) _, ?_,
      fun e => good_reject e (done_of_owner howner nofun nofun)⟩
    · exact (nomatch hnone.symm.trans ho)
    · refine good_attempt _ (fun e => good_reject e (done_of_owner howner nofun nofun))
        fun t ht hrely _ => ?_
      have howner := (hrely.owner_iff rfl).2 howner
      have hmarked := owner_moved (c := .set { status := .PROCESSING }) howner rfl
      exact ⟨ht.mark howner, guarantee_of_mine (mine_of_owner howner) _,
        good_execute hfaults hmarked,
        fun e => good_reject e (done_of_owner hmarked nofun nofun)⟩

/-- A request meets its contract. -/
lemma good_processIdempotency {r : Request R}
    (hfaults : ∀ reply, r.handler = .ok reply → r.setCompleted = none ∧ r.delLock = none)
    (hfree : ∀ o, last.2.owner = some o → o.request ≠ request) :
    Good request last (processIdempotency request r) := by
  refine good_attempt _ (good_reject_of_free hfree) fun t ht hrely _ => ?_
  have hfree' : ∀ o, t.2.owner = some o → o.request ≠ request :=
    fun o ho hmine => hfree o ((hrely.owner_iff hmine).1 ho) hmine
  refine ⟨ht, guarantee_of_still rfl, ?_, good_reject_of_free hfree'⟩
  split
  · rename_i body statusCode hread
    refine good_respond ?_ fun o ho hmine => absurd hmine (hfree' o ho)
    rintro _ ⟨rfl⟩
    obtain ⟨⟨record, expiresAt⟩, hentry, rfl⟩ := Option.map_eq_some_iff.1 hread
    obtain ⟨hrecord, -⟩ := Option.filter_eq_some_iff.1 hentry
    obtain ⟨now, reply, hmem, hcompleted⟩ := ht.backed _ expiresAt hrecord rfl
    obtain ⟨-, hbody, hcode⟩ := IdempotencyRecord.mk.inj hcompleted
    refine ⟨now, ?_⟩
    rw [hbody, hcode, Option.getD_some]
    have hcodes : orOk reply.received.statusCode = reply.received.statusCode := by
      unfold Reply.received orOk
      split_ifs <;> simp_all
    rw [hcodes]
    exact hmem
  · exact good_reject_of_free hfree' _
  · exact good_acquire hfaults hfree'

end interceptor

/-! ### The pool -/

/-- Time passes. -/
def clock : List Nat → Rest R
  | [] => .ret ()
  | seconds :: ticks => .act (.tick seconds) fun _ => clock ticks

lemma good_clock (last : Store R × Ghost R) (ticks : List Nat) :
    Good request last (clock ticks) := by
  induction ticks generalizing last with
  | nil => trivial
  | cons seconds ticks ih =>
    intro t ht _ hcond
    exact ⟨ht.tick hcond, guarantee_of_still rfl, ih _⟩

/-- Requests with a key that the cache does not have, and the clock. -/
def requestPool (now : Nat) (requests : List (Request R)) (ticks : List Nat) :
    Pool (Store R) (CacheCmd R) AppError :=
  ⟨{ now := now }, (requests.mapIdx processIdempotency ++ [clock ticks]).map Proc.start⟩

lemma journal_recorded (trace : List (Event (Store R) (CacheCmd R))) (w : Ghost R) :
    (Pool.recorded contract w trace).journal =
      trace.foldl (fun entries e => (entry e.proc e.cmd e.pre).toList ++ entries) w.journal := by
  induction trace generalizing w with
  | nil => rfl
  | cons e trace ih => exact ih _

/-- **The handler of a key executes once**: in an interleaving of requests all of whose commands
are `Timely`, in which no cache operation fails that follows a successful handler run. -/
theorem handler_executes_once (now : Nat) (requests : List (Request R)) (ticks schedule : List Nat)
    (hfaults : ∀ r ∈ requests, ∀ reply, r.handler = .ok reply →
      r.setCompleted = none ∧ r.delLock = none)
    (htimely : ∀ e ∈ ((requestPool now requests ticks).exec schedule).1, Timely e.cmd e.pre) :
    ExecutesOnce (journal ((requestPool now requests ticks).exec schedule).1) := by
  have hstart : Inv (({ now := now }, ⟨[], none⟩) : Store R × Ghost R) :=
    ⟨trivial, fun _ h => (nomatch h), fun _ h => (nomatch h), .nil, fun _ _ h => (nomatch h), rfl,
      fun _ h => (nomatch h)⟩
  have hpool : Pool.Meets contract Inv (fun _ c s => Timely c s) (fun _ _ => True)
      (requestPool now requests ticks) ⟨[], none⟩ := by
    refine Pool.holding_start Keeps.refl hstart fun i prog hprog => ?_
    rw [List.getElem?_append] at hprog
    split_ifs at hprog
    · rw [List.getElem?_mapIdx] at hprog
      obtain ⟨r, hr, rfl⟩ := Option.map_eq_some_iff.1 hprog
      exact good_processIdempotency (hfaults r (List.mem_of_getElem? hr)) fun _ h => (nomatch h)
    · obtain rfl := List.mem_singleton.1 (List.mem_of_getElem? hprog)
      exact good_clock i _ ticks
  have hmeets := Pool.exec_meets (K := contract) Keeps.refl
    (fun _ _ _ _ h h' => ⟨h'.1.trans h.1, h.2.trans h'.2⟩)
    (fun _ j hij _ _ h => h j hij.symm) hpool schedule htimely
  have honce := hmeets.state.once
  rw [journal_recorded] at honce
  exact honce

/-- A request whose handler succeeds. -/
def creating (body : String) : Request String where
  handler := .ok ⟨201, some body⟩

/-- A request, one that comes while the first is being handled, and one that is answered from the
record. -/
theorem handler_executes_once_replayed :
    journal ((requestPool 0 [creating "a", creating "b", creating "c"] [10, 100]).exec
        [0, 0, 0, 0, 1, 1, 3, 0, 0, 0, 0, 3, 2, 2]).1 =
      [.answered 110 ⟨201, some "a"⟩, .answered 10 ⟨201, some "a"⟩,
        .succeeded 0 10 ⟨201, some "a"⟩, .started 0 0] ∧
    ExecutesOnce (journal ((requestPool 0 [creating "a", creating "b", creating "c"] [10, 100]).exec
        [0, 0, 0, 0, 1, 1, 3, 0, 0, 0, 0, 3, 2, 2]).1) := by
  refine ⟨by decide +kernel, handler_executes_once 0 [creating "a", creating "b", creating "c"]
    [10, 100] [0, 0, 0, 0, 1, 1, 3, 0, 0, 0, 0, 3, 2, 2] ?_ (by decide +kernel)⟩
  simp [creating]

/-- The first request looks for a record before the second has run, and acquires the lock after it.
The response of the first could not be put on record, and the second runs the handler again.  And
the lock of the first expires before its handler starts. -/
theorem handler_executes_twice :
    ¬ ExecutesOnce (journal ((requestPool 0 [creating "a", creating "b"] []).exec
        [0, 1, 1, 1, 1, 1, 1, 1, 1, 0, 0, 0, 0, 0, 0, 0]).1) ∧
    ¬ ExecutesOnce (journal ((requestPool 0
        [{ handler := .ok ⟨201, some "a"⟩, setCompleted := some ⟨false, .plain "Redis"⟩ },
          creating "b"] []).exec [0, 0, 0, 0, 0, 0, 0, 0, 1, 1, 1, 1, 1, 1, 1, 1]).1) ∧
    ¬ ExecutesOnce (journal ((requestPool 0 [creating "a", creating "b"] [31]).exec
        [0, 0, 2, 1, 1, 1, 1, 0, 0, 0, 1]).1) := by
  decide +kernel

end Idempotency

end OmniSwitch
