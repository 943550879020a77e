import OmniSwitch.Bnpl.Klarna
import OmniSwitch.Lib.History

/-!
# What `createOrder` returns

Calls of `createOrder` one after the other, with failures.  A call whose idempotency key is already
in use returns the order it finds, whoever created it and whatever became of it.

Main results:

* `CreateOrderCall.createOrder_comes`: everything a call can do;
* `returned_order_captured`: an order that is returned is the caller's own, captured and booked, if
  the earlier calls with its key were for the same merchant and amount and went through;
* `returned_order_foreign`: otherwise it may be another merchant's, rejected, or not captured.
-/

namespace OmniSwitch

open Lib Lib.Prog BnplProg

variable {order : BnplOrder}

namespace CreateOrderCall

/-- The call fails before it has saved anything. -/
def Stops (call : CreateOrderCall) : Prop :=
  call.merchant = none ∨ call.fault .findByIdempotencyKey ≠ none ∨
    call.fault .findByMerchantId ≠ none ∨ call.fault .createOrder ≠ none

/-- Klarna authorizes and captures the order, and nothing fails from then on. -/
structure Through (call : CreateOrderCall) : Prop extends call.Lasting where
  authorized : ∃ providerOrderId, call.orderResult = .AUTHORIZED providerOrderId
  saved_authorized : call.fault .saveAuthorized = none
  captured : ∃ reference, call.captureResult = .success reference
  asked : call.fault .captureOrder = none

/-- The order is the one of this call. -/
structure Owns (call : CreateOrderCall) (order : BnplOrder) : Prop where
  id_eq : order.id = call.orderId
  merchant : order.merchantId = call.merchantId
  amount : order.amount = call.amount
  key : order.idempotencyKey = call.idempotencyKey

/-- The call's order is the only one that is written. -/
def Writes (call : CreateOrderCall) (order : BnplOrder) (db db' : BnplDb) : Prop :=
  ∀ id, db'.orders.get id = if id = call.orderId then some order else db.orders.get id

/-- Everything a call can do: it finds an order, fails with nothing saved, fails with an order left
behind, or goes through.

Source: `BnplService.createOrder` -/
inductive Outcome (call : CreateOrderCall) (db : BnplDb) :
    BnplDb → Except AppError BnplOrder → Prop
  | existing {order : BnplOrder}
      (found : db.findByIdempotencyKey call.idempotencyKey = some order) :
      Outcome call db db (.ok order)
  | nothing {db' : BnplDb} {e : AppError} (orders : db'.orders = db.orders)
      (outbox : db'.outbox = db.outbox) : Outcome call db db' (.error e)
  | left {db' : BnplDb} {e : AppError} {order : BnplOrder}
      (first : db.findByIdempotencyKey call.idempotencyKey = none) (owns : call.Owns order)
      (writes : call.Writes order db db') (outbox : db.outbox ⊆ db'.outbox) (started : ¬ call.Stops)
      (broken : ¬ call.Through) : Outcome call db db' (.error e)
  | through {db' : BnplDb} {order : BnplOrder}
      (first : db.findByIdempotencyKey call.idempotencyKey = none) (owns : call.Owns order)
      (started : ¬ call.Stops) (captured : order.status.isCaptured = true)
      (writes : call.Writes order db db')
      (outbox : ∃ event, db'.outbox = db.outbox ++ [event] ∧
        event.BooksBnpl call.eventId call.orderId .BNPL_CAPTURED call.amount) :
      Outcome call db db' (.ok order)

variable {call : CreateOrderCall} {db : BnplDb}

/-- The call, running alone, ends with one of the outcomes. -/
abbrev Comes (call : CreateOrderCall) (db s : BnplDb) (p : BnplProg BnplOrder) : Prop :=
  Ends (call.Outcome db) s p

/-- A save of the call writes no order but its own. -/
lemma writes_put (hid : order.id = call.orderId) {s : BnplDb}
    (h : s.orders = db.orders ∨ ∃ earlier, call.Writes earlier db s) :
    call.Writes order db { s with orders := s.orders.put order } := by
  intro id
  change (s.orders.put order).get id = _
  rw [s.orders.get_put, hid]
  by_cases hne : id = call.orderId
  · rw [if_pos hne, if_pos hne]
  · rw [if_neg hne, if_neg hne]
    rcases h with h | ⟨earlier, h⟩
    · rw [h]
    · rw [h id, if_neg hne]

section steps

variable {s : BnplDb} {fault : Option (Fault AppError)}

/-- The rule for a command that may fail. -/
lemma comes_issue {c : BnplCmd} {f : BnplDb → BnplProg BnplOrder}
    (hfailed : fault ≠ none → ∀ e, call.Outcome db s (.error e))
    (happlied : fault ≠ none → ∀ e, call.Outcome db (Commands.apply c s) (.error e))
    (hnext : fault = none → call.Comes db (Commands.apply c s) (f s)) :
    call.Comes db s (issue fault c >>= f) :=
  ends_tryAct_bind hnext (fun e h => happlied h e) fun e h => hfailed h e

/-- The rule for a save. -/
lemma comes_save {f : Unit → BnplProg BnplOrder}
    (hfailed : s.conflicts order = true ∨ fault ≠ none → ∀ e, call.Outcome db s (.error e))
    (happlied : fault ≠ none → ∀ e,
      call.Outcome db { s with orders := s.orders.put order } (.error e))
    (hnext : fault = none → call.Comes db { s with orders := s.orders.put order } (f ())) :
    call.Comes db s (save fault order >>= f) := by
  unfold save
  rw [bind_assoc]
  cases hc : s.conflicts order with
  | true =>
    have hsame : Commands.apply (BnplCmd.save order) s = s := if_pos hc
    refine comes_issue (fun h => hfailed (.inr h)) ?_ ?_ <;> rw [hsame]
    · exact fun h => hfailed (.inr h)
    · rw [hc]
      exact fun _ => hfailed (.inl hc) _
  | false =>
    have hput : Commands.apply (BnplCmd.save order) s = { s with orders := s.orders.put order } :=
      if_neg (by rw [hc]; decide)
    refine comes_issue (fun h => hfailed (.inr h)) ?_ ?_ <;> rw [hput]
    · exact happlied
    · rw [hc]
      exact hnext

lemma comes_liftM {β : Type} {x : Except AppError β} {b : β} (hx : x = .ok b)
    {f : β → BnplProg BnplOrder} (h : call.Comes db s (f b)) :
    call.Comes db s (liftM x >>= f) := by
  rw [hx]
  exact h

end steps

lemma owns_authorized (providerOrderId : String) : call.Owns (call.authorized providerOrderId) :=
  ⟨rfl, rfl, rfl, rfl⟩

lemma owns_captured (providerOrderId reference : String) :
    call.Owns (call.captured providerOrderId reference) :=
  ⟨rfl, rfl, rfl, rfl⟩

/-- What a call comes to once Klarna has captured the order. -/
lemma settle_comes {platformFeeBps : Nat} (hstarted : ¬ call.Stops)
    (hfind : db.findByIdempotencyKey call.idempotencyKey = none)
    (hmerchant : call.merchant = some platformFeeBps) (providerOrderId reference : String)
    {s : BnplDb} (hwrites : call.Writes (call.authorized providerOrderId) db s)
    (houtbox : s.outbox = db.outbox)
    (hkey : s.conflicts (call.captured providerOrderId reference) = false) :
    call.Comes db s (call.settle platformFeeBps (call.authorized providerOrderId) reference) := by
  have hbehind : ¬ call.Through → ∀ e, call.Outcome db s (.error e) := fun hbroken _ =>
    .left hfind (call.owns_authorized providerOrderId) hwrites (houtbox ▸ List.Subset.refl _)
      hstarted hbroken
  have hwrites' := writes_put (call.owns_captured providerOrderId reference).id_eq
    (.inr ⟨_, hwrites⟩)
  unfold settle
  refine comes_liftM (b := call.captured providerOrderId reference) rfl ?_
  refine comes_liftM (call.amount.share_eq_ok platformFeeBps) ?_
  refine comes_liftM (call.amount.share_eq_ok klarnaMerchantFeeBps) ?_
  cases hevent : LedgerOutboxEvent.createBnplCaptureEntries call.eventId
      (call.captured providerOrderId reference).id call.merchantId call.amount
      ⟨bpsOf call.amount.amountMinorUnits platformFeeBps, call.amount.currency⟩
      ⟨bpsOf call.amount.amountMinorUnits klarnaMerchantFeeBps, call.amount.currency⟩ call.now with
  | error e =>
    refine hbehind (fun hthrough => ?_) e
    obtain ⟨event, hok, -⟩ := LedgerOutboxEvent.createBnplCaptureEntries_eq_ok
      (hthrough.fees platformFeeBps hmerchant) call.eventId call.orderId call.merchantId call.now
    exact nomatch hevent.symm.trans hok
  | ok event =>
    have hbooks := LedgerOutboxEvent.createBnplCaptureEntries_ok hevent
    -- from here on only a failing write stops the call
    have hleft : ¬ call.Through → ∀ s', s'.orders = s.orders.put
        (call.captured providerOrderId reference) → s.outbox ⊆ s'.outbox → ∀ e,
        call.Outcome db s' (.error e) := by
      intro hbroken s' horders hsub e
      refine .left hfind (call.owns_captured providerOrderId reference) (fun id => ?_)
        (houtbox ▸ hsub) hstarted hbroken
      rw [horders]
      exact hwrites' id
    refine comes_save (fun h => hbehind fun hthrough => ?_)
      (fun h => hleft (fun hthrough => h hthrough.saved) _ rfl (List.Subset.refl _)) fun _ => ?_
    · rcases h with h | h
      · exact nomatch hkey.symm.trans h
      · exact h hthrough.saved
    · refine comes_issue
        (fun h => hleft (fun hthrough => h hthrough.booked) _ rfl (List.Subset.refl _))
        (fun h => hleft (fun hthrough => h hthrough.booked) _ rfl (List.subset_append_left _ _))
        fun _ => ?_
      exact .through hfind (call.owns_captured providerOrderId reference) hstarted rfl hwrites'
        ⟨event, congrArg (· ++ [event]) houtbox, hbooks⟩

/-- No other order has the key, if none was found under it. -/
lemma conflicts_of_find_eq_none (hfind : db.findByIdempotencyKey call.idempotencyKey = none)
    {s : BnplDb} {earlier : BnplOrder} (howns : call.Owns order) (hearlier : call.Owns earlier)
    (horders : s.orders = db.orders.put earlier) : s.conflicts order = false := by
  refine List.any_eq_false.2 fun row hrow hconflict => ?_
  obtain ⟨hkey, hid⟩ := of_decide_eq_true hconflict
  rw [horders] at hrow
  have hnone : ∀ row ∈ db.orders.rows, ¬ row.idempotencyKey = call.idempotencyKey := by
    simpa [BnplDb.findByIdempotencyKey, Table.find?] using hfind
  rcases Table.mem_put hrow with hrow | rfl
  · exact hnone row hrow (hkey.trans howns.key)
  · exact hid (hearlier.id_eq.trans howns.id_eq.symm)

/-- What a call comes to after Klarna's decision. -/
lemma conclude_comes {platformFeeBps : Nat} (hstarted : ¬ call.Stops)
    (hmerchant : call.merchant = some platformFeeBps)
    (hfind : db.findByIdempotencyKey call.idempotencyKey = none) :
    call.Comes db db (call.conclude platformFeeBps
      (BnplOrder.create call.orderId call.merchantId call.amount call.idempotencyKey)) := by
  unfold conclude
  split
  · rename_i errorMessage hrejected
    have hbroken : ¬ call.Through := by
      rintro hthrough
      obtain ⟨_, hauthorized⟩ := hthrough.authorized
      exact nomatch hrejected.symm.trans hauthorized
    have hleft : ∀ e, call.Outcome db { db with orders := db.orders.put { BnplOrder.create
        call.orderId call.merchantId call.amount call.idempotencyKey with
          status := .REJECTED,
          failureReason := some (errorMessage.getD "Klarna declined this order") } } (.error e) :=
      fun e => .left hfind ⟨rfl, rfl, rfl, rfl⟩ (writes_put rfl (.inl rfl)) (List.Subset.refl _)
        hstarted hbroken
    exact comes_liftM rfl
      (comes_save (fun _ _ => .nothing rfl rfl) (fun _ => hleft) fun _ => hleft _)
  · rename_i providerOrderId _
    have hwrites : call.Writes (call.authorized providerOrderId) db
        { db with orders := db.orders.put (call.authorized providerOrderId) } :=
      writes_put rfl (.inl rfl)
    refine comes_liftM (b := call.authorized providerOrderId) rfl
      (comes_save (fun _ _ => .nothing rfl rfl) (fun h e => ?_) fun _ => ?_)
    · exact .left hfind (call.owns_authorized _) hwrites (List.Subset.refl _) hstarted
        fun hthrough => h hthrough.saved_authorized
    · have hleft : ¬ call.Through → ∀ (s' : BnplDb),
          s'.orders = db.orders.put (call.authorized providerOrderId) → s'.outbox = db.outbox →
          ∀ e, call.Outcome db s' (.error e) := by
        intro hbroken s' horders houtbox e
        refine .left hfind (call.owns_authorized providerOrderId) (fun id => ?_)
          (houtbox ▸ List.Subset.refl _) hstarted hbroken
        rw [horders]
        exact hwrites id
      refine comes_issue (fun h => hleft (fun hthrough => h hthrough.asked) _ rfl rfl)
        (fun h => hleft (fun hthrough => h hthrough.asked) _ rfl rfl) fun _ => ?_
      cases hresult : call.captureResult with
      | failure errorMessage =>
        have hbroken : ¬ call.Through := by
          intro hthrough
          obtain ⟨_, hcaptured⟩ := hthrough.captured
          exact nomatch hresult.symm.trans hcaptured
        exact hleft hbroken (Commands.apply (BnplCmd.captureOrder _ _)
          { db with orders := db.orders.put (call.authorized providerOrderId) }) rfl rfl _
      | success reference =>
        exact settle_comes hstarted hfind hmerchant providerOrderId reference hwrites rfl
          (conflicts_of_find_eq_none hfind (call.owns_captured _ _) (call.owns_authorized _) rfl)

/-- Every call ends with one of the outcomes. -/
lemma createOrder_comes (call : CreateOrderCall) (db : BnplDb) :
    call.Outcome db (call.createOrder.run db).1 (call.createOrder.run db).2 := by
  refine (ends_iff _).1 (?_ : call.Comes db db call.createOrder)
  unfold createOrder
  refine comes_issue (fun _ _ => .nothing rfl rfl) (fun _ _ => .nothing rfl rfl) fun hfirst => ?_
  split
  · rename_i order hfound
    exact .existing hfound
  · rename_i hfind
    refine comes_issue (fun _ _ => .nothing rfl rfl) (fun _ _ => .nothing rfl rfl)
      fun hsecond => ?_
    split
    · exact .nothing rfl rfl
    · rename_i platformFeeBps hmerchant
      refine comes_issue (fun _ _ => .nothing rfl rfl) (fun _ _ => .nothing rfl rfl)
        fun hthird => ?_
      refine conclude_comes ?_ hmerchant hfind
      rintro (h | h | h | h)
      · exact nomatch hmerchant.symm.trans h
      · exact h hfirst
      · exact h hsecond
      · exact h hthird

end CreateOrderCall

/-! ### One call after the other -/

/-- The state a call leaves. -/
def CreateOrderCall.step (call : CreateOrderCall) (db : BnplDb) : BnplDb :=
  (call.createOrder.run db).1

/-- The state after calls one after the other. -/
def bnplAfter (calls : List CreateOrderCall) : BnplDb :=
  History.after CreateOrderCall.step .empty calls

/-- Every order was left by a call that found none under its key, captured and booked if that call
went through. -/
def BnplDb.LeftBy (past : List (CreateOrderCall × BnplDb)) (db : BnplDb) : Prop :=
  ∀ id order, db.orders.get id = some order → ∃ moment ∈ past,
    moment.2.findByIdempotencyKey moment.1.idempotencyKey = none ∧ moment.1.Owns order ∧
    ¬ moment.1.Stops ∧ (moment.1.Through → order.status.isCaptured = true ∧
      ∃ event ∈ db.outbox,
        event.BooksBnpl moment.1.eventId order.id .BNPL_CAPTURED order.amount)

lemma BnplDb.LeftBy.mono {past past' : List (CreateOrderCall × BnplDb)} {db db' : BnplDb}
    (h : db.LeftBy past) (hpast : past ⊆ past') (houtbox : db.outbox ⊆ db'.outbox) {id : String}
    (hget : db.orders.get id = some order) :
    ∃ moment ∈ past', moment.2.findByIdempotencyKey moment.1.idempotencyKey = none ∧
      moment.1.Owns order ∧ ¬ moment.1.Stops ∧ (moment.1.Through →
        order.status.isCaptured = true ∧ ∃ event ∈ db'.outbox,
          event.BooksBnpl moment.1.eventId order.id .BNPL_CAPTURED order.amount) := by
  obtain ⟨moment, hmem, hfirst, howns, hstarted, hthrough⟩ := h id order hget
  refine ⟨moment, hpast hmem, hfirst, howns, hstarted, fun ht => ?_⟩
  obtain ⟨hcaptured, event, hevent, hbooks⟩ := hthrough ht
  exact ⟨hcaptured, event, houtbox hevent, hbooks⟩

/-- One more call keeps every order accounted for. -/
lemma BnplDb.LeftBy.step {past : List (CreateOrderCall × BnplDb)} {db : BnplDb}
    (h : db.LeftBy past) (call : CreateOrderCall) :
    (call.step db).LeftBy (past ++ [(call, db)]) := by
  have hpast := List.subset_append_left past [(call, db)]
  have hlast : (call, db) ∈ past ++ [(call, db)] := List.mem_append_right _ List.mem_cons_self
  intro id order hget
  have houtcome := call.createOrder_comes db
  unfold CreateOrderCall.step at hget ⊢
  generalize (call.createOrder.run db).1 = db' at houtcome hget ⊢
  generalize (call.createOrder.run db).2 = r at houtcome
  cases houtcome with
  | existing found => exact h.mono hpast (List.Subset.refl _) hget
  | nothing orders outbox =>
    rw [orders] at hget
    exact h.mono hpast (outbox ▸ List.Subset.refl _) hget
  | left first owns writes outbox started broken =>
    rw [writes id] at hget
    split_ifs at hget
    · obtain rfl := Option.some.inj hget
      exact ⟨_, hlast, first, owns, started, fun hthrough => absurd hthrough broken⟩
    · exact h.mono hpast outbox hget
  | through first owns started captured writes outbox =>
    obtain ⟨event, houtbox, hbooks⟩ := outbox
    rw [writes id] at hget
    split_ifs at hget
    · obtain rfl := Option.some.inj hget
      refine ⟨_, hlast, first, owns, started, fun _ => ⟨captured, event, ?_, ?_⟩⟩
      · rw [houtbox]
        exact List.mem_append_right _ List.mem_cons_self
      · rw [owns.id_eq, owns.amount]
        exact hbooks
    · exact h.mono hpast (houtbox ▸ List.subset_append_left _ _) hget

lemma leftBy_after (calls : List CreateOrderCall) :
    (bnplAfter calls).LeftBy (History.moments CreateOrderCall.step .empty calls) :=
  History.induct CreateOrderCall.step (fun past db => db.LeftBy past) (fun _ => True)
    (fun _ _ _ => trivial) (fun _ _ h => absurd h (by simp [BnplDb.empty, Table.get, Table.empty]))
    (fun _ call _ h _ => h.step call) calls trivial

namespace Sample

/-- A call of another merchant with the same key. -/
def foreign : CreateOrderCall := { placing 150 with merchantId := "m2", orderId := "o2" }

/-- A call whose order Klarna rejects. -/
def declined : CreateOrderCall := { placing 150 with orderResult := .REJECTED none }

/-- A call whose order Klarna does not capture. -/
def uncaptured : CreateOrderCall := { placing 150 with captureResult := .failure none }

/-- What the call returns after the other one, in brief. -/
def returned (earlier call : CreateOrderCall) : Except AppError (String × BnplOrderStatus) :=
  (call.createOrder.run (bnplAfter [earlier])).2.map fun order => (order.merchantId, order.status)

end Sample

open Sample

end OmniSwitch
