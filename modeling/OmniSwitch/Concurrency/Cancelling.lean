import OmniSwitch.Concurrency.Statuses
import OmniSwitch.PendingCharges
import OmniSwitch.Routing.Attribution

/-!
# Cancelling a payment while it is being charged

A payment may be cancelled before the checkout has sent its charge and while it waits for the
shopper or for a capture.  The checkout saves the payment it holds in memory, and cancellations and
success webhooks save the payment they read, whatever the row holds by then.  What the PSPs hold is
kept beside the database: each charge request opens a transaction or none, and a cancellation that
a PSP accepts closes one.

Main results:

* `cancelled_not_charged`: a cancelled payment has no open charge;
* `charged_after_cancellation`: interleavings in which it has one.
-/

namespace OmniSwitch

open Lib Prog PaymentLifecycle WebhookProcessing

open PaymentCheckoutSaga (persisted persisted_savePayment persisted_savePayment_of_ne
  persisted_of_holds)

/-- A cancellation of the payment, or a success webhook.

Source: `PaymentLifecycleService.cancel`; `WebhookProcessingService.markSucceeded` -/
inductive CancelPath where
  | cancel (env : CancelEnv) (key : String)
  | succeededWebhook (env : WebhookEnv) (pspTransactionId raw : String)

/-- The program of a path. -/
def CancelPath.program (id : String) : CancelPath → App Unit
  | cancel env key => cancelCall env id key
  | succeededWebhook env txId raw => markSucceeded env txId raw

/-! ### What the PSPs hold -/

/-- The charge requests made so far, and the transactions that are open at PSPs. -/
structure PspBook where
  requests : Nat
  held : List (PSPProvider × String)

namespace Cancelling

variable (env : PaymentCheckoutSaga.CheckoutEnv) (unreported : Nat → PSPProvider → Option String)

/-- The transaction that the `n`-th charge request opens.  What a request left behind that ended in
an error is not reported. -/
def opened (n : Nat) (provider : PSPProvider) : Option String :=
  match env.charge n provider with
  | .ok response => if response.status = .FAILED then none else some response.transactionId
  | .error _ => unreported n provider

/-- A PSP names the transactions it opens, and once it has opened one without saying so, its answers
name that one.

Source: `psp-adapter.port.ts` `PSPChargeResponse` -/
structure Replays (env : PaymentCheckoutSaga.CheckoutEnv)
    (unreported : Nat → PSPProvider → Option String) : Prop where
  named : ∀ n provider response, env.charge n provider = .ok response →
    response.status ≠ .FAILED → response.transactionId ≠ ""
  replayed : ∀ n provider txId, unreported n provider = some txId → txId ≠ "" ∧
    ∀ m response, env.charge m provider = .ok response → response.status ≠ .FAILED →
      response.transactionId = txId

/-- A charge request is recorded. -/
def recordCharge : Cmd → Db × PspBook → PspBook
  | .psp provider (.charge _), (_, book) =>
    ⟨book.requests + 1, book.held ++
      ((opened env unreported book.requests provider).map fun txId => (provider, txId)).toList⟩
  | _, (_, book) => book

/-- The PSP accepts the cancellation. -/
def accepted (env : CancelEnv) : Bool :=
  match env.answer with
  | .ok response => response.success
  | .error _ => false

/-- What is recorded of a cancellation's commands. -/
def recordCancel (env : CancelEnv) : Cmd → Db × PspBook → PspBook
  | .psp provider (.cancel txId _), (_, book) =>
    if accepted env then
      { book with held := book.held.filter (· ≠ (provider, txId)) }
    else book
  | _, (_, book) => book

lemma recordCancel_sub (env : CancelEnv) (c : Cmd) (t : Db × PspBook) :
    (recordCancel env c t).requests = t.2.requests ∧ (recordCancel env c t).held ⊆ t.2.held := by
  unfold recordCancel
  split
  · split_ifs
    · exact ⟨rfl, fun _ => List.mem_of_mem_filter⟩
    · exact ⟨rfl, fun _ h => h⟩
  · exact ⟨rfl, fun _ h => h⟩

variable {t : Db × PspBook}

/-- What a path records. -/
def recordPath : CancelPath → Cmd → Db × PspBook → PspBook
  | .cancel env _ => recordCancel env
  | .succeededWebhook _ _ _ => fun _ t => t.2

/-! ### The invariant -/

/-- What the row of the payment says of the PSPs. -/
def Fits : Option (PaymentStatus × Option PSPProvider × Option String) → PspBook → Prop
  | none, book => book.requests = 0 ∧ book.held = []
  | some (.PENDING, _, txId), book => book.requests = 0 ∧ book.held = [] ∧ txId = none
  | some (.PROCESSING, _, txId), _ => txId = none
  | some (.REQUIRES_ACTION, provider, txId), book
  | some (.REQUIRES_CAPTURE, provider, txId), book =>
    ∀ h ∈ book.held, provider = some h.1 ∧ txId = some h.2 ∧ h.2 ≠ ""
  | some (.CANCELLED, _, _), book => book.held = []
  | _, _ => True

/-- Nothing is booked unless the payment has succeeded, and the PSPs hold what the row says. -/
structure Sound (id : String) (t : Db × PspBook) : Prop where
  uncharged : t.1.status id ≠ some .SUCCEEDED → t.1.chargeEvents id = []
  fits : Fits (persisted t.1 id) t.2

/-- The charge has been answered, or the payment cancelled. -/
def decided : PaymentStatus → Bool
  | .PENDING | .PROCESSING => false
  | _ => true

/-- What the paths rely on: a decided payment stays decided, a cancelled one cancelled, and
nothing is opened for it. -/
def Later (id : String) (t t' : Db × PspBook) : Prop :=
  ∀ status, t.1.status id = some status → decided status →
    (∃ status', t'.1.status id = some status' ∧ decided status' ∧
      (status = .CANCELLED → status' = .CANCELLED)) ∧ t'.2.held ⊆ t.2.held

/-- What the checkout relies on: no one else creates the payment, sends charges or touches a
payment that is being processed; and a pending payment can at most be cancelled. -/
structure Undisturbed (id : String) (t t' : Db × PspBook) : Prop where
  requests : t'.2.requests = t.2.requests
  held : t'.2.held ⊆ t.2.held
  absent : persisted t.1 id = none → persisted t'.1 id = none
  pending : t.1.status id = some .PENDING ∨ t.1.status id = some .CANCELLED →
    t'.1.status id = some .PENDING ∨ t'.1.status id = some .CANCELLED
  processing : t.1.status id = some .PROCESSING → persisted t'.1 id = persisted t.1 id

variable {status : PaymentStatus}

section relations

variable {id : String} {t t' t'' : Db × PspBook}

lemma status_eq (db : Db) (id : String) : db.status id = (persisted db id).map Prod.fst := by
  unfold Db.status persisted
  rw [Option.map_map]
  rfl

lemma status_of_persisted {db : Db} {provider : Option PSPProvider} {txId : Option String}
    (h : persisted db id = some (status, provider, txId)) :
    db.status id = some status := by
  rw [status_eq, h]
  rfl

lemma persisted_of_status {db : Db} (h : db.status id = some status) :
    ∃ provider txId, persisted db id = some (status, provider, txId) := by
  rw [status_eq] at h
  obtain ⟨⟨status, provider, txId⟩, hrow, rfl⟩ := Option.map_eq_some_iff.1 h
  exact ⟨provider, txId, hrow⟩

lemma Later.refl (id : String) (t : Db × PspBook) : Later id t t :=
  fun status hstatus hdecided => ⟨⟨status, hstatus, hdecided, fun h => h⟩, fun _ h => h⟩

lemma Later.trans (h : Later id t t') (h' : Later id t' t'') : Later id t t'' := by
  intro status hstatus hdecided
  obtain ⟨⟨status', hstatus', hdecided', hkept⟩, hheld⟩ := h status hstatus hdecided
  obtain ⟨⟨status'', hstatus'', hdecided'', hkept'⟩, hheld'⟩ := h' status' hstatus' hdecided'
  exact ⟨⟨status'', hstatus'', hdecided'', fun hc => hkept' (hkept hc)⟩,
    fun _ hmem => hheld (hheld' hmem)⟩

lemma Later.of_undecided (hstatus : t.1.status id = some status) (h : decided status = false) :
    Later id t t' := by
  intro status' hstatus' hdecided
  obtain rfl := Option.some.inj (hstatus.symm.trans hstatus')
  exact absurd hdecided (by simp [h])

lemma Undisturbed.refl (id : String) (t : Db × PspBook) : Undisturbed id t t :=
  ⟨rfl, fun _ h => h, fun h => h, fun h => h, fun _ => rfl⟩

lemma Undisturbed.trans (h : Undisturbed id t t') (h' : Undisturbed id t' t'') :
    Undisturbed id t t'' where
  requests := h'.requests.trans h.requests
  held := fun _ hmem => h.held (h'.held hmem)
  absent := fun ht => h'.absent (h.absent ht)
  pending := fun ht => h'.pending (h.pending ht)
  processing := fun ht => by
    have hrow := h.processing ht
    exact (h'.processing (by rw [status_eq, hrow, ← status_eq]; exact ht)).trans hrow

lemma still_of_row (hrow : persisted t'.1 id = persisted t.1 id)
    (hrequests : t'.2.requests = t.2.requests) (hheld : t'.2.held ⊆ t.2.held) :
    Later id t t' ∧ Undisturbed id t t' := by
  have hstatus : t'.1.status id = t.1.status id := by rw [status_eq, hrow, ← status_eq]
  refine ⟨fun status h hdecided => ⟨⟨status, hstatus.trans h, hdecided, fun hc => hc⟩, hheld⟩,
    hrequests, hheld, fun h => hrow.trans h, fun h => by rwa [hstatus], fun _ => hrow⟩

lemma moved {db' : Db} {target : PaymentStatus} (hstatus : t.1.status id = some status)
    (hpending : status = .PENDING → target = .CANCELLED)
    (hfrom : status ≠ .PROCESSING ∧ status ≠ .CANCELLED) (htarget : db'.status id = some target)
    (hdecided : decided target) :
    Later id t (db', t.2) ∧ Undisturbed id t (db', t.2) := by
  refine ⟨fun status' h _ => ⟨⟨target, htarget, hdecided, fun hc => ?_⟩, fun _ h => h⟩, rfl,
    fun _ h => h, fun h => ?_, fun h => ?_, fun h => ?_⟩
  · obtain rfl := Option.some.inj (hstatus.symm.trans h)
    exact absurd hc hfrom.2
  · rw [status_eq, h] at hstatus
    exact (nomatch hstatus)
  · rw [hstatus] at h
    rcases h with h | h
    · exact .inr (htarget.trans (congrArg some (hpending (Option.some.inj h))))
    · exact absurd (Option.some.inj h) hfrom.2
  · exact absurd (Option.some.inj (hstatus.symm.trans h)) hfrom.1

end relations

section writes

variable {id : String} {t : Db × PspBook} {p : PaymentAggregate} {event : LedgerOutboxEvent}

lemma Sound.save (h : Sound id t) (hstatus : t.1.status id ≠ some .SUCCEEDED) (now : Date)
    {book : PspBook} (hfits : Fits (persisted (t.1.savePayment p.toPersistence now) id) book) :
    Sound id (t.1.savePayment p.toPersistence now, book) :=
  ⟨fun _ => h.uncharged hstatus, hfits⟩

lemma sound_commit (db : Db) (book : PspBook) (hid : p.id = id) (hstatus : p.status = .SUCCEEDED)
    (hold : Option ReserveHold) (now : Date) :
    Sound id (db.commit p.toPersistence event hold now, book) := by
  have hrow := persisted_savePayment db p now
  rw [hid, hstatus] at hrow
  have hrow' : persisted (db.commit p.toPersistence event hold now) id = _ := hrow
  refine ⟨fun hne => absurd (status_of_persisted hrow') hne, ?_⟩
  rw [hrow']
  trivial

lemma Sound.commit_of_ne (h : Sound id t) (hid : p.id ≠ id) (hevent : event.paymentId = p.id)
    (hold : Option ReserveHold) (now : Date) :
    Sound id (t.1.commit p.toPersistence event hold now, t.2) := by
  have hrow : persisted (t.1.commit p.toPersistence event hold now) id = persisted t.1 id :=
    persisted_savePayment_of_ne t.1 hid now
  have hevents : (t.1.commit p.toPersistence event hold now).chargeEvents id =
      t.1.chargeEvents id := by
    unfold Db.chargeEvents
    simp [Db.commit, List.filter_append, show event.paymentId ≠ id from hevent ▸ hid]
  refine ⟨fun hne => hevents.trans (h.uncharged ?_), hrow ▸ h.fits⟩
  rwa [status_eq, hrow, ← status_eq] at hne

end writes

/-! ### The condition -/

/-- A program that has read the payment saves it over the row it read; the checkout, which does
not read it, moves the row along the graph of statuses. -/
def savesKnown (id : String) (seen : Option Db) (entity : PaymentEntity) (db : Db) : Bool :=
  match seen with
  | some _ => Statuses.stillAsRead id seen db
  | none => (db.payments.get id).all fun row => row.status.isValidTransition entity.status

/-- A charge goes to the provider that the row names, and a save of the payment finds it as its
program knows it. -/
def AsKnown (id : String) (seen : Option Db) (c : Cmd) (db : Db) : Bool :=
  (match c with
    | .psp provider (.charge _) =>
      (db.payments.get id).any fun row => row.pspProvider = some provider
    | _ => true) &&
  c.saved.all fun entity => entity.id ≠ id || savesKnown id seen entity db

section condition

variable {id : String} {db db₀ : Db} {seen : Option Db} {c : Cmd} {entity : PaymentEntity}

lemma provider_of_asKnown {provider first : PSPProvider} {key : String} {txId : Option String}
    (h : AsKnown id seen (.psp provider (.charge key)) db)
    (hrow : persisted db id = some (status, some first, txId)) : provider = first := by
  obtain ⟨row, hget, hcolumns⟩ := Option.map_eq_some_iff.1 hrow
  have hprovider : row.pspProvider = some provider := by
    simpa [AsKnown, hget, Cmd.saved] using h
  have hfirst : row.pspProvider = some first := congrArg (·.2.1) hcolumns
  exact Option.some.inj (hprovider.symm.trans hfirst)

lemma savesKnown_of_asKnown (h : AsKnown id seen c db) (hc : c.saved = some entity)
    (hid : entity.id = id) : savesKnown id seen entity db := by
  unfold AsKnown at h
  rw [Bool.and_eq_true, hc] at h
  simpa [hid] using h.2

lemma status_of_asKnown (h : AsKnown id (some db₀) c db) (hc : c.saved = some entity)
    (hid : entity.id = id) : db.status id = db₀.status id := by
  have hread : Statuses.stillAsRead id (some db₀) db := savesKnown_of_asKnown h hc hid
  have hcolumns := congrArg (Option.map Prod.fst) (of_decide_eq_true hread)
  rw [Option.map_map, Option.map_map] at hcolumns
  exact hcolumns.symm

end condition

/-! ### The contracts -/

/-- What the checkout relies on and guarantees. -/
def checkoutContract (id : String) : Contract Db Cmd PspBook :=
  ⟨recordCharge env unreported, Undisturbed id, Later id⟩

/-- What the other paths rely on and guarantee. -/
def pathContract (id : String) (record : Cmd → Db × PspBook → PspBook) :
    Contract Db Cmd PspBook :=
  ⟨record, Later id, fun t t' => Later id t t' ∧ Undisturbed id t t'⟩

/-! ### Webhooks -/

variable {p : PaymentAggregate}

section paths

variable {id : String} {last : Db × PspBook} {seen : Option Db}

/-- A row that is found by its transaction is not that of a payment still being processed. -/
lemma Sound.status_of_found (h : Sound id t) {txId : String}
    (hfind : t.1.findByPspTransactionId txId = .ok (some p)) (hid : p.id = id)
    (hstatus : p.status = .PROCESSING ∨ p.status = .REQUIRES_ACTION) :
    p.status = .REQUIRES_ACTION := by
  refine hstatus.resolve_left fun hprocessing => ?_
  obtain ⟨row, hrow, hload⟩ := Db.load_ok hfind
  have hloads := PaymentRow.toDomain_ok hload
  have htx : row.pspTransactionId = some txId := by simpa using List.find?_some hrow
  have hget : t.1.payments.get id = some row := by
    rw [← hid, hloads.id]
    exact Table.get_of_find? hrow
  have hpersisted : persisted t.1 id = some (.PROCESSING, row.pspProvider, some txId) := by
    unfold persisted
    rw [hget, Option.map_some, ← htx, ← hprocessing, hloads.status]
  have hfits := h.fits
  rw [hpersisted] at hfits
  exact (nomatch hfits)

/-- So does a success webhook. -/
lemma meets_markSucceeded (env : WebhookEnv) (txId raw : String) :
    (markSucceeded env txId raw).Meets (pathContract id fun _ t => t.2) (Sound id)
      (fun seen c db => AsKnown id seen c db) (fun _ _ _ => True) last seen := by
  refine Transacts.meets (K := pathContract id fun _ t => t.2) (fun c t hc => Prod.ext (hc t.1) rfl)
    (fun t => ⟨Later.refl id t, Undisturbed.refl id t⟩) (fun _ _ _ => Later.trans) (Later.refl id)
    (markSucceeded_confirms env txId raw) ?_
  rintro c origin t ⟨p, hfind, hpending, p', event, hold, now, hstep, rfl⟩ horigin ht - hcond
  obtain ⟨hstatus', hbooks⟩ := hstep.charge_of_pending (hpending.imp_right .inl)
  have hsame := hstep.same_payment.1
  by_cases hid : p.id = id
  · have hread := status_of_asKnown hcond rfl (hsame.trans hid)
    have hholds := Db.holds_of_findByPspTransactionId hfind
    rw [← hid, Db.status_of_holds hholds, horigin.status_of_found hfind hid hpending, hid] at hread
    have htarget := t.1.status_savePayment p' now
    rw [hsame, hid, hstatus'] at htarget
    exact ⟨sound_commit t.1 t.2 (hsame.trans hid) hstatus' hold now,
      moved hread (fun h => (nomatch h)) ⟨nofun, nofun⟩ htarget rfl⟩
  · have hne : p'.id ≠ id := fun h => hid (hsame.symm.trans h)
    refine ⟨ht.commit_of_ne hne hbooks.paymentId hold now, ?_⟩
    exact still_of_row (persisted_savePayment_of_ne t.1 hne now) rfl fun _ h => h

/-! ### Cancellations -/

lemma Sound.shrink (h : Sound id t) {book : PspBook} (hrequests : book.requests = t.2.requests)
    (hheld : book.held ⊆ t.2.held) :
    Sound id (t.1, book) := by
  refine ⟨h.uncharged, ?_⟩
  have hnil : t.2.held = [] → book.held = [] := fun hnil =>
    List.eq_nil_iff_forall_not_mem.2 fun x hx => by simpa [hnil] using hheld hx
  have hfits := h.fits
  revert hfits
  cases persisted t.1 id with
  | none => exact fun hfits => ⟨hrequests.trans hfits.1, hnil hfits.2⟩
  | some row =>
    obtain ⟨status, provider, txId⟩ := row
    cases status with
    | PENDING => exact fun hfits => ⟨hrequests.trans hfits.1, hnil hfits.2.1, hfits.2.2⟩
    | PROCESSING => exact fun hfits => hfits
    | REQUIRES_ACTION | REQUIRES_CAPTURE => exact fun hfits x hx => hfits x (hheld hx)
    | CANCELLED => exact hnil
    | _ => exact fun _ => trivial

/-- What is held of a payment that waits for the shopper or for a capture is on record. -/
lemma Sound.held_of_holds (h : Sound id t) (hp : t.1.Holds p) (hid : p.id = id)
    (hvalid : p.status.isValidTransition .CANCELLED) (hne : p.status ≠ .PENDING) :
    decided p.status ∧ ∀ x ∈ t.2.held, p.pspProvider.toOption = some x.1 ∧
      truthy p.pspTransactionId.toOption = some x.2 := by
  have hfits := h.fits
  rw [← hid, persisted_of_holds hp] at hfits
  have hheld : decided p.status ∧ ∀ x ∈ t.2.held, p.pspProvider.toOption = some x.1 ∧
      p.pspTransactionId.toOption = some x.2 ∧ x.2 ≠ "" := by
    revert hfits hvalid hne
    cases p.status <;>
      simp [Fits, decided, PaymentStatus.isValidTransition, PaymentStatus.validTransitions]
  refine ⟨hheld.1, fun x hx => ?_⟩
  obtain ⟨hprovider, htxId, hnonempty⟩ := hheld.2 x hx
  refine ⟨hprovider, ?_⟩
  rw [htxId]
  simp [truthy, hnonempty]

/-- Calling the PSP with the transaction on record leaves nothing there, if the PSP accepts. -/
lemma meets_cancelAtPsp (env : CancelEnv) (key : String) {t₀ : Db × PspBook}
    (ht₀ : Sound id t₀) (hp : t₀.1.Holds p) (hid : p.id = id)
    (hvalid : p.status.isValidTransition .CANCELLED) :
    (cancelAtPsp env p key).Meets (pathContract id (recordCancel env)) (Sound id)
      (fun seen c db => AsKnown id seen c db)
      (fun t seen' _ => seen' = seen ∧ Later id t₀ t ∧ (p.status ≠ .PENDING → t.2.held = []))
      t₀ seen := by
  have hheld := ht₀.held_of_holds hp hid hvalid
  unfold cancelAtPsp
  split
  · rename_i provider txId hprovider htxId
    refine (holds_bind _ _).2 ((holds_liftM _).2 ?_)
    intro adapter hadapter
    obtain rfl := getAdapter_ok hadapter
    refine (holds_bind _ _).2 ?_
    intro t ht hrely _
    obtain ⟨hrequests, hsub⟩ := recordCancel_sub env (.psp adapter (.cancel txId key)) t
    have hstill : Later id t (t.1, recordCancel env (.psp adapter (.cancel txId key)) t) ∧
        Undisturbed id t (t.1, recordCancel env (.psp adapter (.cancel txId key)) t) :=
      still_of_row rfl hrequests hsub
    refine ⟨ht.shrink hrequests hsub, hstill, ?_⟩
    refine (holds_bind _ _).2 ((holds_liftM _).2 ?_)
    intro response hresponse
    refine (holds_liftM _).2 ?_
    intro _ hchecked
    have haccepted : accepted env := by
      unfold accepted
      rw [hresponse]
      unfold checkCancelAnswer at hchecked
      split_ifs at hchecked with hsuccess
      simpa using hsuccess
    refine ⟨rfl, hrely.trans hstill.1, fun hne => List.eq_nil_iff_forall_not_mem.2 ?_⟩
    obtain ⟨hdecided, hrecord⟩ := hheld hne
    intro x hx
    obtain ⟨hx, hother⟩ : x ∈ t.2.held ∧ x ≠ (adapter, txId) := by
      simpa [Contract.apply, pathContract, recordCancel, haccepted] using hx
    have hstatus := Db.status_of_holds hp
    rw [hid] at hstatus
    obtain ⟨h₁, h₂⟩ := hrecord x ((hrely p.status hstatus hdecided).2 hx)
    rw [hprovider] at h₁
    rw [htxId] at h₂
    exact hother (Prod.ext (Option.some.inj h₁).symm (Option.some.inj h₂).symm)
  · rename_i hnone
    refine ⟨rfl, Later.refl id t₀, fun hne => List.eq_nil_iff_forall_not_mem.2 fun x hx => ?_⟩
    obtain ⟨hprovider, htxId⟩ := (hheld hne).2 x hx
    exact hnone _ _ hprovider htxId

/-- So does a cancellation. -/
lemma meets_cancelCall (env : CancelEnv) (key : String) :
    (cancelCall env id key).Meets (pathContract id (recordCancel env)) (Sound id)
      (fun seen c db => AsKnown id seen c db) (fun t _ _ => t.1.status id = some .CANCELLED)
      last seen := by
  unfold cancelCall getOwnedPayment
  refine (holds_bind _ _).2 ((holds_bind _ _).2 ?_)
  refine meets_findByIdOnMaster (fun _ => rfl)
    (fun t => ⟨Later.refl id t, Undisturbed.refl id t⟩) fun t₀ p? ht₀ _ hfind => ?_
  cases p? with
  | none => trivial
  | some p =>
    obtain ⟨hid, hp⟩ := Db.holds_of_findById hfind
    have hstatus := Db.status_of_holds hp
    rw [hid] at hstatus
    refine (holds_bind _ _).2 ?_
    unfold cancel
    split_ifs with hdone hvalid
    · exact hstatus.trans (congrArg some hdone)
    · trivial
    · have hvalid : p.status.isValidTransition .CANCELLED := by simpa using hvalid
      refine (holds_bind _ _).2 ?_
      refine (meets_cancelAtPsp env key ht₀ hp hid hvalid).mono ?_
      rintro last' _ _ ⟨rfl, hlater, hheld⟩
      refine (holds_bind _ _).2 ((holds_liftM _).2 ?_)
      intro cancelled hcancelled
      obtain ⟨-, hcancelled', hsame⟩ := PaymentAggregate.transition_ok (.refl p) hcancelled
      refine (holds_bind _ _).2 ?_
      intro t ht hrely hcond
      have hid' : cancelled.id = id := hsame.id.trans hid
      have hread := (status_of_asKnown hcond rfl hid').trans hstatus
      have hnil : t.2.held = [] := by
        by_cases hpending : p.status = .PENDING
        · obtain ⟨provider, txId, hrow⟩ := persisted_of_status hread
          have hfits := ht.fits
          rw [hrow, hpending] at hfits
          exact hfits.2.1
        · have hdecided := (ht₀.held_of_holds hp hid hvalid hpending).1
          obtain ⟨⟨status, hstatus', hdecided', -⟩, -⟩ := hlater p.status hstatus hdecided
          refine List.eq_nil_iff_forall_not_mem.2 fun x hx => ?_
          have hmem := (hrely status hstatus' hdecided').2 hx
          rw [hheld hpending] at hmem
          exact (nomatch hmem)
      have htarget : (t.1.savePayment cancelled.toPersistence env.now).status id =
          some .CANCELLED := by
        rw [← hcancelled', ← hid']
        exact t.1.status_savePayment cancelled env.now
      refine ⟨?_, ?_, htarget⟩
      · refine ht.save (fun h => ?_) env.now ?_
        · rw [Option.some.inj (hread.symm.trans h)] at hvalid
          exact (nomatch hvalid)
        · obtain ⟨provider, txId, hrow⟩ := persisted_of_status htarget
          rw [hrow]
          exact hnil
      · refine moved hread (fun _ => rfl) ⟨fun h => ?_, fun h => ?_⟩ htarget rfl <;>
          rw [h] at hvalid <;> exact (nomatch hvalid)

end paths

/-! ### The checkout -/

section checkout

open PaymentCheckoutSaga

variable {env : CheckoutEnv} {unreported : Nat → PSPProvider → Option String} {id : String}
  {last : Db × PspBook} {first : PSPProvider} {Answer : String → Prop}

/-- A payment that is being processed at `first`: `k` charge requests have been made, and the
transactions that are held were opened there, by a request of which `Answer` is true. -/
structure Requested (id : String) (first : PSPProvider) (Answer : String → Prop) (k : Nat)
    (t : Db × PspBook) : Prop where
  row : persisted t.1 id = some (.PROCESSING, some first, none)
  requests : t.2.requests = k
  held : ∀ h ∈ t.2.held, h.1 = first ∧ Answer h.2

lemma Requested.undisturbed {k : Nat} {t' : Db × PspBook} (h : Requested id first Answer k t)
    (hrely : Undisturbed id t t') : Requested id first Answer k t' :=
  ⟨(hrely.processing (status_of_persisted h.row)).trans h.row, hrely.requests.trans h.requests,
    fun x hx => h.held x (hrely.held hx)⟩

lemma meets_charges (key : String) (log : List (Invocation PspChargeResponse)) {k : Nat}
    (hlast : Requested id first Answer k last)
    (hlog : ∀ n invocation, log[n]? = some invocation → invocation.provider = first → ∀ txId,
      opened env unreported (k + n) first = some txId → Answer txId) :
    (charges key log).Meets (checkoutContract env unreported id) (Sound id)
      (fun seen c db => AsKnown id seen c db)
      (fun t seen _ => seen = none ∧ (∃ k, Requested id first Answer k t) ∧
        ∀ invocation ∈ log, invocation.provider = first) last none := by
  induction log generalizing k last with
  | nil => exact ⟨rfl, ⟨k, hlast⟩, fun _ h => (nomatch h)⟩
  | cons invocation log ih =>
    unfold charges
    refine (holds_bind _ _).2 ?_
    intro t ht hrely hcond
    have hrequested := hlast.undisturbed hrely
    have hprovider := provider_of_asKnown hcond hrequested.row
    have hopened := hlog 0 invocation rfl hprovider
    rw [hprovider]
    have hnext : Requested id first Answer (k + 1)
        (t.1, recordCharge env unreported (.psp first (.charge key)) t) := by
      refine ⟨hrequested.row, congrArg (· + 1) hrequested.requests, fun x hx => ?_⟩
      rcases List.mem_append.1 hx with hx | hx
      · exact hrequested.held x hx
      · rw [hrequested.requests] at hx
        obtain ⟨txId, htxId, rfl⟩ := Option.map_eq_some_iff.1 (Option.mem_toList.1 hx)
        exact ⟨rfl, hopened txId htxId⟩
    refine ⟨⟨ht.uncharged, ?_⟩, Later.of_undecided (status_of_persisted hrequested.row) rfl,
      (ih hnext fun n invocation h => ?_).mono ?_⟩
    · exact hnext.row ▸ (rfl : Fits (some (.PROCESSING, some first, none)) _)
    · rw [Nat.add_right_comm]
      exact hlog (n + 1) invocation h
    · rintro _ _ _ ⟨hseen, hend, hproviders⟩
      exact ⟨hseen, hend, List.forall_mem_cons.2 ⟨hprovider, hproviders⟩⟩

/-- The last write of a checkout: the charge has failed or is not known to have succeeded, it was
authorised as the only transaction there may be, or it is booked. -/
lemma Requested.conclude {input : CheckoutSagaInput} {params : ChargeLedgerParams}
    {requested : Option ScaExemptionType} {route : Except AppError (RouteResult PspChargeResponse)}
    {r : Except AppError CheckoutSagaResult} {k : Nat} {c : Cmd}
    (h : Requested id first Answer k t) (ht : Sound id t)
    (hc : Conclusion env input params requested p route (some c) r) (hid : p.id = id)
    (hprovider : p.pspProvider = .value first)
    (honly : ∀ answer, route = .ok answer → answer.result.status ≠ .FAILED →
      answer.result.transactionId ≠ "" ∧
        ∀ txId, Answer txId → txId = answer.result.transactionId) :
    Sound id ((checkoutContract env unreported id).apply c t) ∧
      Later id t ((checkoutContract env unreported id).apply c t) := by
  refine ⟨?_, Later.of_undecided (status_of_persisted h.row) rfl⟩
  have hstatus : t.1.status id ≠ some .SUCCEEDED := by
    rw [status_of_persisted h.row]
    decide
  have hunpaid : ∀ {q : PaymentAggregate} {status : PaymentStatus}, Turned p q status .undefined →
      status = .FAILED ∨ status = .AMBIGUOUS →
      Sound id (t.1.savePayment q.toPersistence env.booking.now, t.2) := by
    intro q status hturned hunpaid
    have hrow := persisted_savePayment t.1 q env.booking.now
    rw [hturned.same.id.trans hid, hturned.status] at hrow
    refine ht.save hstatus env.booking.now ?_
    rw [hrow]
    rcases hunpaid with rfl | rfl <;> trivial
  cases hc with
  | booked _ _ _ turned =>
    exact sound_commit t.1 t.2 (turned.same.id.trans hid) turned.status _ env.booking.now
  | @authorised route q result answer _ turned pspProvider =>
    have hfailed : route.result.status ≠ .FAILED := by
      rcases answer with answer | answer <;> rw [answer] <;> decide
    obtain ⟨hnamed, honly⟩ := honly route rfl hfailed
    have hreference : route.result.reference = .value route.result.transactionId :=
      if_neg fun hand => hnamed hand.2
    have hrow := persisted_savePayment t.1 q env.booking.now
    rw [turned.same.id.trans hid, turned.status, pspProvider.trans hprovider,
      turned.pspTransactionId.trans hreference] at hrow
    have hheld : ∀ x ∈ t.2.held, some first = some x.1 ∧
        some route.result.transactionId = some x.2 ∧ x.2 ≠ "" := by
      intro x hx
      obtain ⟨hx₁, hx₂⟩ := h.held x hx
      rw [honly x.2 hx₂, hx₁]
      exact ⟨rfl, rfl, hnamed⟩
    refine ht.save hstatus env.booking.now ?_
    rw [hrow]
    rcases answer with answer | answer <;> rw [answer] <;> exact hheld
  | declined _ turned => exact hunpaid turned (.inl rfl)
  | ambiguous _ turned => exact hunpaid turned (.inr rfl)
  | failed _ turned => exact hunpaid turned (.inl rfl)

/-- The transaction of an answer of `first`, if the execution hands one on. -/
def Answered (env : CheckoutEnv) (context : RoutingContext) (first : PSPProvider)
    (txId : String) : Prop :=
  txId ≠ "" ∧ ∀ route, (executeWithSmartRouting env context).2 = .ok route →
    route.provider = first → route.result.status ≠ .FAILED → route.result.transactionId = txId

/-- What an execution opens at the PSPs is the transaction of the answer that it hands on. -/
lemma answered_of_logged (hpsp : Replays env unreported) {context : RoutingContext} {n : Nat}
    {invocation : Invocation PspChargeResponse}
    (hlog : (executeWithSmartRouting env context).1[n]? = some invocation) {txId : String}
    (hopened : opened env unreported n invocation.provider = some txId) :
    Answered env context invocation.provider txId := by
  unfold opened at hopened
  split at hopened
  · rename_i response hresponse
    split_ifs at hopened with hfailed
    obtain rfl := Option.some.inj hopened
    refine ⟨hpsp.named n invocation.provider response hresponse hfailed, fun route hroute _ _ => ?_⟩
    obtain ⟨usedFallback, hresult⟩ := executeWithSmartRouting_of_logged hlog hresponse
    rw [hresult] at hroute
    obtain ⟨-, -, hroute⟩ := bind_eq_ok.1 hroute
    obtain rfl := Except.ok.inj hroute
    rfl
  · obtain ⟨hnonempty, hreplayed⟩ := hpsp.replayed n invocation.provider txId hopened
    refine ⟨hnonempty, fun route hroute hprovider hstatus => ?_⟩
    obtain ⟨-, m, hanswer⟩ := executeWithSmartRouting_answered hroute
    rw [hprovider] at hanswer
    exact hreplayed m route.result hanswer hstatus

variable {input : CheckoutSagaInput} {params : ChargeLedgerParams}

/-- A payment that is still pending when the checkout saves it: nothing has been requested. -/
lemma pending_of_asKnown {now : Date} (hlast : last.1.status id = some .PENDING)
    (hrely : Undisturbed id last t)
    (hcond : AsKnown id none (.savePayment p.toPersistence now) t.1) (hid : p.id = id) :
    t.1.status id = some .PENDING := by
  refine (hrely.pending (.inl hlast)).resolve_right fun hcancelled => ?_
  have hvalid := savesKnown_of_asKnown hcond rfl hid
  obtain ⟨row, hget, hstatus⟩ := Option.map_eq_some_iff.1 hcancelled
  change (t.1.payments.get id).all _ = true at hvalid
  rw [hget, Option.all_some, hstatus] at hvalid
  exact absurd hvalid (by cases p.toPersistence.status <;> decide)

section sent

variable (hpsp : Replays env unreported)

include hpsp

lemma meets_requests {requested : Option ScaExemptionType} {c : Option Cmd}
    {r : Except AppError CheckoutSagaResult} {context : RoutingContext} (hid : p.id = id)
    (hprovider : p.pspProvider = .value first)
    (hc : Conclusion env input params requested p (executeWithSmartRouting env context).2 c r)
    (hlast : Requested id first (Answered env context first) 0 last) (key : String) :
    (charges key (executeWithSmartRouting env context).1 >>= fun _ => conclude c r).Meets
      (checkoutContract env unreported id) (Sound id) (fun seen c db => AsKnown id seen c db)
      (fun _ _ _ => True) last none := by
  refine (holds_bind _ _).2 ?_
  refine (meets_charges _ _ hlast fun n invocation hlog hfirst txId hopened => ?_).mono ?_
  · rw [Nat.zero_add, ← hfirst] at hopened
    exact hfirst ▸ answered_of_logged hpsp hlog hopened
  · rintro last _ _ ⟨rfl, ⟨k, hlast⟩, hproviders⟩
    cases c with
    | none => exact (holds_liftM _).2 fun _ _ => trivial
    | some c =>
      intro t ht hrely _
      obtain ⟨hsound, hlater⟩ := (hlast.undisturbed hrely).conclude ht hc hid hprovider
        fun route hroute hstatus => by
          obtain ⟨hmem, n, hanswer⟩ := executeWithSmartRouting_answered hroute
          exact ⟨hpsp.named n route.provider route.result hanswer hstatus, fun txId htxId =>
            (htxId.2 route hroute (hproviders _ hmem) hstatus).symm⟩
      exact ⟨hsound, hlater, (holds_liftM _).2 fun _ _ => trivial⟩

lemma meets_executeIntent (isFirst : Option Bool)
    (hlast : last.1.status input.paymentId = some .PENDING) :
    (executeIntent env input isFirst (intent env input)).Meets
      (checkoutContract env unreported input.paymentId) (Sound input.paymentId)
      (fun seen c db => AsKnown input.paymentId seen c db) (fun _ _ _ => True) last none := by
  have hcourse := executeIntent_course env input isFirst
  generalize executeIntent env input isFirst (intent env input) = prog at hcourse ⊢
  cases hcourse with
  | @refused c e _ writes =>
    cases c with
    | none => trivial
    | some c =>
      obtain ⟨failed, hturned, rfl⟩ := writes c rfl
      intro t ht hrely hcond
      have hpending := pending_of_asKnown hlast hrely hcond hturned.same.id
      have hrow := persisted_savePayment t.1 failed env.booking.now
      rw [show failed.id = input.paymentId from hturned.same.id, hturned.status] at hrow
      refine ⟨ht.save ?_ env.booking.now ?_, Later.of_undecided hpending rfl, trivial⟩
      · rw [hpending]
        decide
      · rw [hrow]
        trivial
  | @charged params requested first p c r _ turned pspProvider concluded =>
    refine (holds_bind _ _).2 ?_
    intro t ht hrely hcond
    have hid : p.id = input.paymentId := turned.same.id
    have hpending := pending_of_asKnown hlast hrely hcond hid
    obtain ⟨provider, txId, hrow⟩ := persisted_of_status hpending
    have hfits := ht.fits
    rw [hrow] at hfits
    obtain ⟨hrequests, hheld, rfl⟩ := hfits
    have hsaved := persisted_savePayment t.1 p env.booking.now
    rw [hid, hrow, turned.status, pspProvider, turned.pspTransactionId] at hsaved
    refine ⟨ht.save ?_ env.booking.now ?_, Later.of_undecided hpending rfl,
      meets_requests hpsp hid pspProvider concluded ?_ _⟩
    · rw [hpending]
      decide
    · rw [hsaved]
      rfl
    · refine ⟨hsaved, hrequests, fun x hx => ?_⟩
      have hmem : x ∈ t.2.held := hx
      rw [hheld] at hmem
      exact (nomatch hmem)

/-- The checkout meets its contract. -/
lemma meets_checkout {db : Db} {book : PspBook}
    (hfresh : db.payments.get input.paymentId = none) :
    (checkout env input).Meets (checkoutContract env unreported input.paymentId)
      (Sound input.paymentId) (fun seen c db => AsKnown input.paymentId seen c db)
      (fun _ _ _ => True) (db, book) none := by
  have hnone : persisted db input.paymentId = none := by
    unfold persisted
    rw [hfresh]
    rfl
  -- the rest, wherever the database has come to since the start
  have hcreate : ∀ isFirst t, Undisturbed input.paymentId (db, book) t →
      (updatePayment (intent env input) env.booking.now >>= fun _ =>
        executeIntent env input isFirst (intent env input)).Meets
        (checkoutContract env unreported input.paymentId) (Sound input.paymentId)
        (fun seen c db => AsKnown input.paymentId seen c db) (fun _ _ _ => True) t none := by
    intro isFirst t₀ hstart
    refine (holds_bind _ _).2 ?_
    intro t ht hrely _
    have hrow := (hstart.trans hrely).absent hnone
    have hfits := ht.fits
    rw [hrow] at hfits
    have hsaved := persisted_intent env (Option.map_eq_none_iff.1 hrow)
    refine ⟨ht.save ?_ env.booking.now ?_, ?_, meets_executeIntent hpsp isFirst
      (status_of_persisted hsaved)⟩
    · rw [status_eq, hrow]
      nofun
    · rw [hsaved]
      exact ⟨hfits.1, hfits.2, rfl⟩
    · intro status hstatus
      rw [status_eq, hrow] at hstatus
      exact (nomatch hstatus)
  unfold checkout execute isFirstChargeToMerchant
  refine (holds_bind _ _).2 ((holds_bind _ _).2 ?_)
  split
  · exact hcreate none _ (Undisturbed.refl _ _)
  · refine (holds_bind _ _).2 ?_
    refine meets_act_of_still (fun _ => rfl) (Later.refl _) fun t _ hrely => ?_
    exact hcreate _ t hrely

end sent

end checkout

/-! ### The pool -/

/-- What is recorded of the commands of each program: the checkout is the first. -/
def recordOf (paths : List CancelPath) : Nat → Cmd → Db × PspBook → PspBook
  | 0 => recordCharge env unreported
  | i + 1 => match paths[i]? with
    | some path => recordPath path
    | none => fun _ t => t.2

/-- The contract of each program in the pool. -/
def contractOf (paths : List CancelPath) (id : String) (i : Nat) : Contract Db Cmd PspBook where
  record := recordOf env unreported paths i
  rely := match i with
    | 0 => Undisturbed id
    | _ + 1 => Later id
  guarantee := match i with
    | 0 => Later id
    | _ + 1 => fun t t' => Later id t t' ∧ Undisturbed id t t'

/-- A cancellation returns with the payment cancelled. -/
def Concluded (paths : List CancelPath) (id : String) : Nat → Db × PspBook → Prop
  | 0, _ => True
  | i + 1, t => match paths[i]? with
    | some (.cancel _ _) => t.1.status id = some .CANCELLED
    | _ => True

section pool

variable {env : PaymentCheckoutSaga.CheckoutEnv} {unreported : Nat → PSPProvider → Option String}
  {paths : List CancelPath} {id : String}

lemma contractOf_refl (i : Nat) (t : Db × PspBook) :
    (contractOf env unreported paths id i).rely t t := by
  cases i with
  | zero => exact Undisturbed.refl id t
  | succ i => exact Later.refl id t

lemma contractOf_trans (i : Nat) (t t' t'' : Db × PspBook)
    (h : (contractOf env unreported paths id i).rely t t')
    (h' : (contractOf env unreported paths id i).rely t' t'') :
    (contractOf env unreported paths id i).rely t t'' := by
  cases i with
  | zero => exact Undisturbed.trans h h'
  | succ i => exact Later.trans h h'

/-- What each guarantees is what the others rely on. -/
lemma contractOf_compatible (i j : Nat) (hij : i ≠ j) (t t' : Db × PspBook)
    (h : (contractOf env unreported paths id i).guarantee t t') :
    (contractOf env unreported paths id j).rely t t' := by
  cases i with
  | zero =>
    cases j with
    | zero => exact absurd rfl hij
    | succ j => exact h
  | succ i =>
    cases j with
    | zero => exact h.2
    | succ j => exact h.1

lemma meets_path {i : Nat} {path : CancelPath} (hpath : paths[i]? = some path)
    (last : Db × PspBook) :
    (path.program id).Meets (contractOf env unreported paths id (i + 1)) (Sound id)
      (fun seen c db => AsKnown id seen c db) (fun t _ _ => Concluded paths id (i + 1) t)
      last none := by
  have hcontract : contractOf env unreported paths id (i + 1) =
      pathContract id (recordPath path) := by
    simp only [contractOf, recordOf, pathContract, hpath]
  rw [hcontract]
  cases path with
  | cancel env key =>
    refine (meets_cancelCall env key).mono fun t _ _ hcancelled => ?_
    simpa only [Concluded, hpath] using hcancelled
  | succeededWebhook env txId raw =>
    refine (meets_markSucceeded env txId raw).mono fun t _ _ _ => ?_
    simp only [Concluded, hpath]

end pool

end Cancelling

open Cancelling

/-- A checkout, with cancellations of its payment and success webhooks. -/
def cancelPool (db : Db) (env : PaymentCheckoutSaga.CheckoutEnv)
    (input : PaymentCheckoutSaga.CheckoutSagaInput) (paths : List CancelPath) :
    Pool Db Cmd AppError :=
  ⟨db, (PaymentCheckoutSaga.checkout env input ::
    paths.map (CancelPath.program input.paymentId)).map Proc.start⟩

/-- What the PSPs hold after the commands of an execution. -/
def pspBook (env : PaymentCheckoutSaga.CheckoutEnv)
    (unreported : Nat → PSPProvider → Option String) (paths : List CancelPath)
    (trace : List (Event Db Cmd)) : PspBook :=
  trace.foldl (fun book e => recordOf env unreported paths e.proc e.cmd (e.pre, book))
    ⟨0, []⟩

/-- **A cancelled payment is not charged**: in an interleaving of a checkout with cancellations and
success webhooks all of whose commands are `AsKnown`, once a cancellation has returned. -/
theorem cancelled_not_charged (db : Db) (env : PaymentCheckoutSaga.CheckoutEnv)
    (input : PaymentCheckoutSaga.CheckoutSagaInput) (paths : List CancelPath)
    (unreported : Nat → PSPProvider → Option String) (schedule : List Nat)
    (hfresh : db.Fresh input.paymentId) (hpsp : Replays env unreported)
    (hknown : ∀ e ∈ ((cancelPool db env input paths).exec schedule).1,
      AsKnown input.paymentId e.seen e.cmd e.pre)
    (i : Nat) (cancelEnv : CancelEnv) (key : String)
    (hi : paths[i]? = some (.cancel cancelEnv key))
    (hreturned : ((cancelPool db env input paths).exec schedule).2.returned (i + 1)) :
    ((cancelPool db env input paths).exec schedule).2.state.status input.paymentId =
        some .CANCELLED ∧
      ((cancelPool db env input paths).exec schedule).2.state.chargeEvents input.paymentId = [] ∧
      (pspBook env unreported paths ((cancelPool db env input paths).exec schedule).1).held =
        [] := by
  have hstart : Sound input.paymentId (db, ⟨0, []⟩) := by
    refine ⟨fun _ => List.filter_eq_nil_iff.2 fun event hevent => ?_, ?_⟩
    · simp [hfresh.ledger event hevent]
    · rw [show persisted db input.paymentId = none from Option.map_eq_none_iff.2 hfresh.payment]
      exact ⟨rfl, rfl⟩
  have hpool : Pool.Meets (contractOf env unreported paths input.paymentId)
      (Sound input.paymentId)
      (fun seen c db => AsKnown input.paymentId seen c db)
      (Concluded paths input.paymentId) (cancelPool db env input paths) ⟨0, []⟩ := by
    refine Pool.holding_start contractOf_refl hstart fun i prog hprog => ?_
    cases i with
    | zero =>
      obtain rfl := Option.some.inj hprog
      exact meets_checkout hpsp hfresh.payment
    | succ i =>
      rw [List.getElem?_cons_succ, List.getElem?_map] at hprog
      obtain ⟨path, hpath, rfl⟩ := Option.map_eq_some_iff.1 hprog
      exact meets_path hpath _
  have hmeets := Pool.exec_meets contractOf_refl contractOf_trans
    contractOf_compatible hpool schedule hknown
  obtain ⟨last, hrely, hconcluded⟩ := Pool.of_returned hmeets hreturned
  have hcancelled : last.1.status input.paymentId = some .CANCELLED := by
    simpa only [Concluded, hi] using hconcluded
  obtain ⟨⟨status, hstatus, -, hkept⟩, -⟩ := hrely .CANCELLED hcancelled rfl
  rw [hkept rfl] at hstatus
  obtain ⟨provider, txId, hrow⟩ := persisted_of_status hstatus
  have hfits := hmeets.state.fits
  rw [hrow] at hfits
  refine ⟨hstatus, hmeets.state.uncharged ?_, hfits⟩
  rw [hstatus]
  decide

namespace Sample

/-- A cancellation that the PSP accepts, and the success webhook of the transaction. -/
def cancelAndConfirm : List CancelPath :=
  [.cancel ⟨0, .ok { success := true }⟩ "key-2",
    .succeededWebhook (webhookEnv "event-2") "tx-1" "payment_intent.succeeded"]

/-- Whether the cancellation has returned, the payment's status, the charges booked and what the
PSPs hold. -/
def cancelOutcome (status : PaymentCheckoutSaga.PspChargeStatus) (schedule : List Nat) :
    Bool × Option PaymentStatus × Nat × List (PSPProvider × String) :=
  let (trace, pool) := (cancelPool Db.empty (answered status) input cancelAndConfirm).exec schedule
  (pool.returned 1, pool.state.status "payment-1", (pool.state.chargeEvents "payment-1").length,
    (pspBook (answered status) (fun _ _ => none) cancelAndConfirm trace).held)

lemma replays_answered (status : PaymentCheckoutSaga.PspChargeStatus) :
    Replays (answered status) fun _ _ => none where
  named := by
    rintro n provider response ⟨rfl⟩ -
    exact (by decide : "tx-1" ≠ "")
  replayed := fun _ _ _ h => (nomatch h)

end Sample

open Sample

/-- A challenged payment is cancelled at the PSP, and its success webhook comes late. -/
theorem cancelled_not_charged_challenged :
    cancelOutcome .REQUIRES_ACTION [0, 0, 0, 0] =
      (false, some .REQUIRES_ACTION, 0, [(.STRIPE, "tx-1")]) ∧
    ((cancelPool Db.empty (answered .REQUIRES_ACTION) input cancelAndConfirm).exec
        [0, 0, 0, 0, 1, 1, 1, 2, 2]).2.state.status input.paymentId = some .CANCELLED ∧
      ((cancelPool Db.empty (answered .REQUIRES_ACTION) input cancelAndConfirm).exec
        [0, 0, 0, 0, 1, 1, 1, 2, 2]).2.state.chargeEvents input.paymentId = [] ∧
      (pspBook (answered .REQUIRES_ACTION) (fun _ _ => none) cancelAndConfirm
        ((cancelPool Db.empty (answered .REQUIRES_ACTION) input cancelAndConfirm).exec
          [0, 0, 0, 0, 1, 1, 1, 2, 2]).1).held = [] :=
  ⟨by decide +kernel, cancelled_not_charged Db.empty (answered .REQUIRES_ACTION) input
    cancelAndConfirm (fun _ _ => none) [0, 0, 0, 0, 1, 1, 1, 2, 2] fresh_empty
    (replays_answered .REQUIRES_ACTION) (by decide +kernel) 0 _ _ rfl (by decide +kernel)⟩

/-- A cancellation that returned before the checkout saved the payment as being processed is
overwritten, and the payment charged.  One that read the payment before saves its cancellation over
the charge.  And a webhook that read the challenged payment books the charge over its cancellation.
-/
theorem charged_after_cancellation :
    cancelOutcome .SUCCEEDED [0, 1, 1] = (true, some .CANCELLED, 0, []) ∧
    cancelOutcome .SUCCEEDED [0, 1, 1, 0, 0, 0] =
      (true, some .SUCCEEDED, 1, [(.STRIPE, "tx-1")]) ∧
    cancelOutcome .SUCCEEDED [0, 1, 0, 0, 0, 1] =
      (true, some .CANCELLED, 1, [(.STRIPE, "tx-1")]) ∧
    cancelOutcome .REQUIRES_ACTION [0, 0, 0, 0, 2, 1, 1, 1, 2] =
      (true, some .SUCCEEDED, 1, []) := by
  refine ⟨?_, ?_, ?_, ?_⟩ <;> decide +kernel

end OmniSwitch
