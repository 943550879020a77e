import OmniSwitch.Settlement

/-!
# Booking a charge among concurrent paths

The paths on which a charge is booked at once (the checkout saga, success webhooks, the manual
and the automatic resolution of an ambiguous payment) read the payment's status first and save
payment and ledger event later, whatever the row holds by then.

Main results:

* `charged_at_most_once`: a charge is booked once, where its status is not out of date;
* `charged_twice`: two deliveries that book it twice.
-/

namespace OmniSwitch

open Lib Prog PaymentCheckoutSaga

/-- The saga, whose result is not used. -/
def PaymentCheckoutSaga.checkout (env : CheckoutEnv) (input : CheckoutSagaInput) : App Unit := do
  let _ ← execute env input

/-- A path other than the checkout on which a charge may be booked.

Source: `webhook-processing.service.ts`, `ambiguous-payment.service.ts` -/
inductive ChargePath where
  | succeededWebhook (env : WebhookProcessing.WebhookEnv) (pspTransactionId raw : String)
  | resolve (env : BookingEnv) (params : AmbiguousPayment.ResolveParams)
  | autoResolve (env : AmbiguousPayment.AutoResolveEnv) (paymentId : String)

/-- The program of a path. -/
def ChargePath.program : ChargePath → App Unit
  | succeededWebhook env txId raw => WebhookProcessing.markSucceeded env txId raw
  | resolve env params => AmbiguousPayment.resolve env params
  | autoResolve env id => AmbiguousPayment.autoResolveOne env id

lemma ChargePath.transacts (path : ChargePath) :
    path.program.Transacts (OfLoaded Settles) := by
  cases path with
  | succeededWebhook env txId raw => exact WebhookProcessing.markSucceeded_transacts env txId raw
  | resolve env params => exact AmbiguousPayment.resolve_transacts env params
  | autoResolve env id => exact AmbiguousPayment.autoResolveOne_transacts env id

/-- The payment a command saves, if it saves one. -/
def Cmd.saved : Cmd → Option PaymentEntity
  | .savePayment entity _ => some entity
  | .transaction _ entity _ _ _ => some entity
  | _ => none

namespace Charging

/-- What is booked as charged for a payment, in its currency. -/
def charged (db : Db) (id : String) (amount : Money) : Nat :=
  LedgerOutboxEvent.bookedBy db.ledgerOutbox id .PAYMENT_CHARGED .DEBIT amount.currency

section

variable (id : String) (amount : Money)

/-- The row is for the amount, and nothing is charged unless it has succeeded. -/
structure Inv (db : Db) : Prop where
  amount_eq : ∀ row, db.payments.get id = some row →
    Money.fromMinorUnits row.amountMinorUnits row.currencyCode = .ok amount
  charged_eq : charged db id amount = 0 ∨ charged db id amount = amount.amountMinorUnits ∧
    ∃ row, db.payments.get id = some row ∧ row.status = .SUCCEEDED

/-- The amount of `p` is known: from the row it was loaded from, or from the checkout's input. -/
def Known (seen : Option Db) (p : PaymentAggregate) : Prop :=
  (∃ db q, seen = some db ∧ db.Holds q ∧ q.id = p.id ∧ q.amount = p.amount) ∨
    p.id = id ∧ p.amount = amount

/-- What the paths may issue: no change, a payment saved without an event, or a payment that has
succeeded saved with the event of its charge. -/
inductive Allowed (seen : Option Db) : Cmd → Prop
  | silent {c : Cmd} (h : ∀ db, c.apply db = db) : Allowed seen c
  | save {p : PaymentAggregate} (now : Date) (known : Known id amount seen p) :
      Allowed seen (.savePayment p.toPersistence now)
  | book {p : PaymentAggregate} {event : LedgerOutboxEvent} (hold : Option ReserveHold)
      (now : Date) (known : Known id amount seen p) (status : p.status = .SUCCEEDED)
      (books : event.Charges p.id p.amount) :
      Allowed seen (.transaction none p.toPersistence event hold now)

/-- A payment is saved over a row that has not succeeded. -/
def OverUnsettled (c : Cmd) (db : Db) : Bool :=
  c.saved.all fun entity =>
    entity.id ≠ id || (db.payments.get id).all fun row => row.status ≠ .SUCCEEDED

end

variable {id : String} {amount : Money}
variable {db : Db}

lemma charged_le (h : Inv id amount db) :
    charged db id amount ≤ amount.amountMinorUnits := by
  rcases h.charged_eq with h | ⟨h, -⟩ <;> rw [h]
  exact Nat.zero_le _

variable {seen : Option Db} {p : PaymentAggregate}

lemma Known.amount_eq (h : Known id amount seen p) (hid : p.id = id)
    (hseen : ∀ db, seen = some db → Inv id amount db) : p.amount = amount := by
  rcases h with ⟨db, q, hdb, ⟨row, hrow, hq⟩, hqid, hqamount⟩ | ⟨-, h⟩
  · rw [← hqamount]
    have hload := (PaymentRow.toDomain_ok hq).amount
    have hrow' := (hseen db hdb).amount_eq row (by rw [← hid, ← hqid]; exact hrow)
    exact Except.ok.inj (hload.symm.trans hrow')
  · exact h

variable {c : Cmd}

lemma Inv.uncharged {entity : PaymentEntity} (h : Inv id amount db) (hcond : OverUnsettled id c db)
    (hc : c.saved = some entity) (hid : entity.id = id) :
    charged db id amount = 0 := by
  rcases h.charged_eq with h | ⟨-, row, hget, hstatus⟩
  · exact h
  · unfold OverUnsettled at hcond
    simp [hc, hid, hget, hstatus] at hcond

lemma amount_eq_of_saved (db : Db) (now : Date) (hid : p.id = id) (hamount : p.amount = amount) :
    ∀ row, (db.savePayment p.toPersistence now).payments.get id = some row →
      Money.fromMinorUnits row.amountMinorUnits row.currencyCode = .ok amount ∧
        row.status = p.status := by
  intro row hrow
  obtain ⟨row', hrow', -, hstatus, -, -, hminor, hcode⟩ := db.row_savePayment p now
  rw [hid, hrow] at hrow'
  obtain rfl := Option.some.inj hrow'
  rw [hminor, hcode, ← hamount]
  exact ⟨Money.fromMinorUnits_code _ _, hstatus⟩

/-- A command that is allowed keeps the invariant. -/
lemma Inv.step (h : Inv id amount db) (hseen : ∀ db, seen = some db → Inv id amount db)
    (hc : Allowed id amount seen c) (hcond : OverUnsettled id c db) :
    Inv id amount (c.apply db) := by
  cases hc with
  | silent hsilent =>
    rw [hsilent]
    exact h
  | @save p now known =>
    rw [Cmd.apply_savePayment]
    by_cases hid : p.id = id
    · have hrow := amount_eq_of_saved db now hid (known.amount_eq hid hseen)
      exact ⟨fun row hget => (hrow row hget).1, .inl (h.uncharged hcond rfl hid)⟩
    · have hget : (db.savePayment p.toPersistence now).payments.get id = db.payments.get id :=
        db.get_savePayment_of_ne _ _ (Ne.symm hid)
      refine ⟨fun row => ?_, ?_⟩
      · rw [hget]
        exact h.amount_eq row
      · rw [hget]
        exact h.charged_eq
  | @book p event hold now known status books =>
    rw [Cmd.apply_transaction_none]
    by_cases hid : p.id = id
    · have hamount := known.amount_eq hid hseen
      have hrow := amount_eq_of_saved db now hid hamount
      refine ⟨fun row hget => (hrow row hget).1, .inr ⟨?_, ?_⟩⟩
      · have hzero := h.uncharged hcond rfl hid
        rw [hid, hamount] at books
        change LedgerOutboxEvent.bookedBy (db.ledgerOutbox ++ [event]) id _ _ _ = _
        rw [LedgerOutboxEvent.bookedBy_append books]
        change charged db id amount + _ = _
        rw [hzero, zero_add]
      · obtain ⟨row, hget, -⟩ := db.row_savePayment p now
        rw [hid] at hget
        exact ⟨row, hget, (hrow row hget).2.trans status⟩
    · have hget : (db.commit p.toPersistence event hold now).payments.get id =
          db.payments.get id := db.get_savePayment_of_ne _ _ (Ne.symm hid)
      have hcharged : charged (db.commit p.toPersistence event hold now) id amount =
          charged db id amount :=
        LedgerOutboxEvent.bookedBy_append_of_ne (.inl (books.paymentId ▸ hid)) _ _ _
      refine ⟨fun row => ?_, ?_⟩
      · rw [hget]
        exact h.amount_eq row
      · rw [hget, hcharged]
        exact h.charged_eq

/-! ### The paths keep to what is allowed -/

lemma allowed_of_settles (h : OfLoaded Settles db c) :
    Allowed id amount (some db) c := by
  obtain ⟨p, hp, hpending, ⟨p', now, hstep, rfl⟩ | ⟨p', event, hold, now, hstep, rfl⟩⟩ := h
  · obtain ⟨hid, hamount⟩ := hstep.same_payment
    exact .save now (.inl ⟨db, p, rfl, hp, hid.symm, hamount.symm⟩)
  · obtain ⟨hid, hamount⟩ := hstep.same_payment
    obtain ⟨hstatus, hbooks⟩ := hstep.charge_of_pending hpending
    exact .book hold now (.inl ⟨db, p, rfl, hp, hid.symm, hamount.symm⟩) hstatus hbooks

/-- What the checkout writes. -/
lemma sat_checkout (env : CheckoutEnv)
    (input : CheckoutSagaInput) :
    Sat (Allowed input.paymentId input.amount) (fun _ _ => True) none
      (checkout env input) := by
  unfold checkout
  rw [sat_bind]
  -- along the saga's writes, the payment keeps the id and the amount of the input
  let P : Option PaymentAggregate → Prop := fun x =>
    ∀ p, x = some p → p.id = input.paymentId ∧ p.amount = input.amount
  refine (execute_advances env input).sat (P := P) (fun p hp => nomatch hp)
    (fun c hc => .silent hc.2) ?_
  intro x c y hx hc
  cases hc.1 with
  | create now =>
    refine ⟨?_, .save now (.inr ⟨rfl, rfl⟩)⟩
    rintro p ⟨rfl⟩
    exact ⟨rfl, rfl⟩
  | save now hstep =>
    obtain ⟨hid, hamount⟩ := hx _ rfl
    have hknown := And.intro (hstep.same_payment.1.trans hid) (hstep.same_payment.2.trans hamount)
    refine ⟨?_, .save now (.inr hknown)⟩
    rintro p ⟨rfl⟩
    exact hknown
  | book hold now hpending hstep =>
    obtain ⟨hid, hamount⟩ := hx _ rfl
    have hknown := And.intro (hstep.same_payment.1.trans hid) (hstep.same_payment.2.trans hamount)
    obtain ⟨hstatus, hbooks⟩ := hstep.charge_of_pending hpending
    refine ⟨?_, .book hold now (.inr hknown) hstatus hbooks⟩
    rintro p ⟨rfl⟩
    exact hknown

lemma inv_of_fresh (h : db.Fresh id) : Inv id amount db where
  amount_eq := fun row hrow => absurd (h.payment.symm.trans hrow) (by simp)
  charged_eq := by
    refine .inl ?_
    unfold charged LedgerOutboxEvent.bookedBy
    rw [List.filter_eq_nil_iff.2 fun event hevent => by simp [h.ledger event hevent]]
    rfl

end Charging

open Charging

/-! ### Every interleaving -/

/-- The pool of a checkout and of other paths that may book its charge. -/
def chargePool (db : Db) (env : CheckoutEnv)
    (input : CheckoutSagaInput) (paths : List ChargePath) :
    Pool Db Cmd AppError :=
  ⟨db, (checkout env input :: paths.map ChargePath.program).map Proc.start⟩

/-- **No double booking of a charge**, as long as every write of the payment's row finds a status
other than `SUCCEEDED` in it: in every state of every interleaving of a checkout and any number
of other paths, what is booked as charged is at most the amount. -/
theorem charged_at_most_once (db : Db) (env : CheckoutEnv)
    (input : CheckoutSagaInput) (paths : List ChargePath)
    (schedule : List Nat) (hfresh : db.Fresh input.paymentId)
    (hcond : ∀ e ∈ ((chargePool db env input paths).exec schedule).1,
      OverUnsettled input.paymentId e.cmd e.pre) :
    (∀ e ∈ ((chargePool db env input paths).exec schedule).1,
        charged e.post input.paymentId input.amount ≤ input.amount.amountMinorUnits) ∧
      charged ((chargePool db env input paths).exec schedule).2.state input.paymentId
        input.amount ≤ input.amount.amountMinorUnits := by
  have hsat : ∀ prog ∈ checkout env input :: paths.map ChargePath.program,
      Sat (Allowed input.paymentId input.amount) (fun _ _ => True) none prog := by
    rw [List.forall_mem_cons]
    refine ⟨sat_checkout env input, fun prog hprog => ?_⟩
    obtain ⟨path, -, rfl⟩ := List.mem_map.1 hprog
    exact path.transacts.sat (fun _ _ hc => .silent hc) fun _ _ hc => allowed_of_settles hc
  have hpool : Pool.Sound (Inv input.paymentId input.amount) (fun _ _ => True)
      (Allowed input.paymentId input.amount) (chargePool db env input paths) :=
    Pool.sound_start (inv_of_fresh hfresh) hsat
  obtain ⟨hevents, hend, -⟩ := Pool.exec_sound
    (fun _ c s => OverUnsettled input.paymentId c s)
    (fun _ => trivial) (fun _ _ _ _ _ => trivial)
    (fun seen c s hI hrem hG hc => ⟨hI.step (fun db hdb => (hrem db hdb).1) hG hc, trivial⟩)
    hpool schedule hcond
  exact ⟨fun e he => charged_le (hevents e he).1.post, charged_le hend.state⟩

open Sample in
/-- A challenge is completed and its webhook delivered twice, the second time after the first has
been handled. -/
theorem charged_at_most_once_redelivered :
    (∀ e ∈ ((chargePool Db.empty (answered .REQUIRES_ACTION) input
        [.succeededWebhook (webhookEnv "event-2") "tx-1" "",
          .succeededWebhook (webhookEnv "event-3") "tx-1" ""]).exec
            [0, 0, 0, 0, 1, 1, 2, 2]).1,
      charged e.post input.paymentId input.amount ≤ input.amount.amountMinorUnits) ∧
    charged ((chargePool Db.empty (answered .REQUIRES_ACTION) input
      [.succeededWebhook (webhookEnv "event-2") "tx-1" "",
        .succeededWebhook (webhookEnv "event-3") "tx-1" ""]).exec
          [0, 0, 0, 0, 1, 1, 2, 2]).2.state input.paymentId input.amount ≤
      input.amount.amountMinorUnits :=
  charged_at_most_once Db.empty (answered .REQUIRES_ACTION) input _ _ fresh_empty
    (by decide +kernel)

open Sample in
/-- A challenge is completed, and the PSP delivers its success webhook twice: both deliveries read
`REQUIRES_ACTION`, and both book ten dollars. -/
theorem charged_twice :
    input.amount.amountMinorUnits = 1000 ∧
    charged ((chargePool Db.empty (answered .REQUIRES_ACTION) input
      [.succeededWebhook (webhookEnv "event-2") "tx-1" "",
        .succeededWebhook (webhookEnv "event-3") "tx-1" ""]).exec
          [0, 0, 0, 0, 1, 2, 1, 2]).2.state input.paymentId input.amount = 2000 := by
  decide +kernel

end OmniSwitch
