import OmniSwitch.Services.Reserve

/-!
# Reserve holds and the reserve account

A release reads a hold and later marks it released in a statement that asks for the row to be held
still, but books the amount it read; a top-up reads the held rows of a merchant and later writes
each one back as a whole.  Whether the reserve account of the ledger keeps agreeing with the holds
depends on what happens to a row in between.

Main results:

* `reserves_balance`: the reserve account is the sum of the holds;
* `reserve_disturbed`: top-ups and releases after which it is not.
-/

namespace OmniSwitch

open Lib Prog

/-! ### The reserve account -/

/-- What an entry adds to the reserve account of a merchant in a currency. -/
def LedgerEntry.reserve (merchantId : String) (currency : Currency) (entry : LedgerEntry) : Int :=
  if entry.accountType = .RESERVE ∧ entry.accountId = s!"{merchantId}_RESERVE" ∧
      entry.amount.currency = currency then
    -entry.entryType.sign * entry.amount.amountMinorUnits
  else 0

/-- What an event books on the reserve account of a merchant. -/
def LedgerOutboxEvent.reserve (merchantId : String) (currency : Currency)
    (event : LedgerOutboxEvent) : Int :=
  (event.entries.map (LedgerEntry.reserve merchantId currency)).sum

/-- What a hold contributes to what is held of a merchant in a currency. -/
def ReserveHold.held (merchantId : String) (currency : Currency) (hold : ReserveHold) : Nat :=
  if hold.status = .HELD ∧ hold.merchantId = merchantId ∧ hold.amount.currency = currency then
    hold.amount.amountMinorUnits
  else 0

namespace ReserveDb

/-- Credits less debits of the reserve account of a merchant in a currency. -/
def reserveBalance (db : ReserveDb) (merchantId : String) (currency : Currency) : Int :=
  (db.ledgerOutbox.map (LedgerOutboxEvent.reserve merchantId currency)).sum

/-- The sum of the amounts of a merchant's held holds in a currency. -/
def heldTotal (db : ReserveDb) (merchantId : String) (currency : Currency) : Nat :=
  (db.holds.rows.map (ReserveHold.held merchantId currency)).sum

/-- The reserve account of every merchant agrees with the holds, in every currency. -/
def Balanced (db : ReserveDb) : Prop :=
  ∀ merchantId currency, db.reserveBalance merchantId currency = db.heldTotal merchantId currency

/-- Later holds: the rows of before are there, of the same merchant, and released if they were. -/
def Keeps (db db' : ReserveDb) : Prop :=
  ∀ id hold, db.holds.get id = some hold → ∃ hold', db'.holds.get id = some hold' ∧
    hold'.merchantId = hold.merchantId ∧ (hold.status = .RELEASED → hold'.status = .RELEASED)

lemma Keeps.refl (db : ReserveDb) : db.Keeps db := fun _ hold h => ⟨hold, h, rfl, id⟩

lemma Keeps.trans {a b c : ReserveDb} (hab : a.Keeps b) (hbc : b.Keeps c) : a.Keeps c := by
  intro id hold h
  obtain ⟨hold', h', hmerchant, hreleased⟩ := hab id hold h
  obtain ⟨hold'', h'', hmerchant', hreleased'⟩ := hbc id hold' h'
  exact ⟨hold'', h'', hmerchant'.trans hmerchant, fun h => hreleased' (hreleased h)⟩

end ReserveDb

/-! ### What the events book -/

lemma reserveAccount_inj {a b : String} : s!"{a}_RESERVE" = s!"{b}_RESERVE" ↔ a = b := by
  constructor
  · intro h
    have hlist : a.toList ++ "_RESERVE".toList = b.toList ++ "_RESERVE".toList := by
      simpa [String.toList_append, toString] using congrArg String.toList h
    exact String.toList_inj.1 (List.append_cancel_right hlist)
  · rintro rfl
    rfl

variable {amount : Money}

namespace LedgerOutboxEvent

variable {merchantId : String} {currency : Currency}

lemma reserve_eq_zero {entry : LedgerEntry} (h : entry.accountType ≠ .RESERVE) :
    entry.reserve merchantId currency = 0 := if_neg fun h' => h h'.1

/-- An entry on a reserve account adds its amount to the account of its merchant, with a sign. -/
lemma reserve_entry (account : String) (entryType : LedgerEntryType) (amount : Money) :
    LedgerEntry.reserve merchantId currency
        ⟨s!"{account}_RESERVE", .RESERVE, entryType, amount⟩ =
      -entryType.sign * (if account = merchantId ∧ amount.currency = currency then
        amount.amountMinorUnits else 0 : Nat) := by
  unfold LedgerEntry.reserve
  simp only [reserveAccount_inj, true_and]
  split_ifs <;> simp

variable {event : LedgerOutboxEvent}

lemma reserve_createChargeEntries {id paymentId account : String} {platformFee : Money}
    {settlementConversion : Option AppliedConversion} {reserveHold : Option Money}
    {splits : Option (List ChargeSplit)} {now : Date}
    (h : createChargeEntries id paymentId account amount platformFee settlementConversion
      reserveHold splits now = .ok event) :
    event.reserve merchantId currency = ((reserveHold.map fun reserve =>
      if account = merchantId ∧ reserve.currency = currency then reserve.amountMinorUnits
      else 0).getD 0 : Nat) := by
  obtain ⟨-, -, legs, hlegs, hentries⟩ := createChargeEntries_entries h
  have hnone : (legs.map (LedgerEntry.reserve merchantId currency)).sum = 0 := by
    refine List.sum_eq_zero (List.forall_mem_map.2 fun entry hentry => reserve_eq_zero ?_)
    rcases hlegs entry hentry with h | h <;> simp [h]
  unfold reserve
  rw [hentries, List.map_cons, List.map_cons, List.sum_cons, List.sum_cons,
    reserve_eq_zero (by simp), reserve_eq_zero (by simp), List.map_append, List.sum_append, hnone]
  cases reserveHold with
  | none => rfl
  | some reserve => simp [reserve_entry, LedgerEntryType.sign]

end LedgerOutboxEvent

/-! ### What a transaction does -/

/-- A transaction finds the hold as its program read it: a release, if the hold is still held, with
the same amount; a top-up held, with the same amount.  A hold is recorded under a fresh id. -/
def ReserveCmd.Undisturbed : ReserveCmd → ReserveDb → Prop
  | recordHold _ hold, db => ∀ new ∈ hold, db.holds.get new.id = none
  | release hold _, db =>
    ∀ row ∈ db.holds.get hold.id, row.status = .HELD → row.amount = hold.amount
  | topUp hold _ _, db =>
    ∃ row ∈ db.holds.get hold.id, row.status = .HELD ∧ row.amount = hold.amount
  | _, _ => True

instance (c : ReserveCmd) (db : ReserveDb) : Decidable (c.Undisturbed db) :=
  match c with
  | .recordHold _ hold => inferInstanceAs (Decidable (∀ new ∈ hold, db.holds.get new.id = none))
  | .release hold _ => inferInstanceAs (Decidable (∀ row ∈ db.holds.get hold.id, _ → _))
  | .topUp hold _ _ => inferInstanceAs (Decidable (∃ row ∈ db.holds.get hold.id, _ ∧ _))
  | .findById _ => inferInstanceAs (Decidable True)
  | .findReleaseEligible _ => inferInstanceAs (Decidable True)
  | .findHeldByMerchant _ => inferInstanceAs (Decidable True)

namespace ReserveService

/-- What the transactions of the service are, given what their program last read: the hold is the
one it read, and the event books what the transaction changes about it. -/
def Books (seen : Option ReserveDb) : ReserveCmd → Prop
  | .recordHold event hold => ∀ m c, event.reserve m c = ((hold.map (·.held m c)).getD 0 : Nat)
  | .release hold event => (∃ db, seen = some db ∧ db.holds.get hold.id = some hold) ∧
      hold.status = .HELD ∧ ∀ m c, event.reserve m c = -(hold.held m c : Int)
  | .topUp hold toppedUp event => (∃ db, seen = some db ∧ db.holds.get hold.id = some hold) ∧
      hold.status = .HELD ∧ (∃ amount, toppedUp = { hold with amount := amount }) ∧
      ∀ m c, event.reserve m c = (toppedUp.held m c : Int) - hold.held m c
  | _ => True

variable {seen : Option ReserveDb}

lemma sat_transaction {G : Option ReserveDb → ReserveCmd → Prop} {α : Type}
    {Q : Option ReserveDb → α → Prop} {failure : Option AppError} {c : ReserveCmd}
    {result : ReserveDb → α} (hc : G seen c) (hloads : c.loadsHolds = false) (hQ : ∀ a, Q seen a) :
    Sat G Q seen (transaction failure c result) := by
  cases failure with
  | some e => trivial
  | none =>
    refine ⟨hc, fun db => ?_⟩
    have hseen : observe c db seen = seen := if_neg (by
      change ¬ c.loadsHolds = true
      rw [hloads]
      decide)
    rw [hseen]
    exact hQ _

lemma sat_recordHold (booking : ChargeBooking) :
    Only (fun seen c => Books seen c) seen (recordHold booking) := by
  unfold recordHold
  refine sat_bind.2 (sat_liftM.2 fun event hevent => ?_)
  refine sat_transaction (fun m c => ?_) rfl fun _ => trivial
  rw [LedgerOutboxEvent.reserve_createChargeEntries hevent]
  cases booking.reserveHold with
  | none => rfl
  | some params => simp [ReserveHold.held, ReserveHold.create]

lemma sat_release (env : ReleaseEnv) (id : String) (force : Bool) :
    Only (fun seen c => Books seen c) seen (release env id force) := by
  refine sat_bind.2 ⟨trivial, fun db => ?_⟩
  dsimp only [Sat]
  cases hget : db.holds.get id with
  | none => trivial
  | some hold =>
    obtain rfl := Table.key_of_get hget
    refine sat_bind.2 (sat_liftM.2 fun _ hcheck => ?_)
    have hheld : hold.status = .HELD := by
      unfold checkReleasable at hcheck
      grind
    refine sat_bind.2 (sat_liftM.2 fun event hevent => ?_)
    refine sat_bind.2 (sat_transaction ⟨⟨db, rfl, hget⟩, hheld, fun m c => ?_⟩ rfl ?_)
    · obtain ⟨-, -, hentries⟩ := LedgerOutboxEvent.create_ok hevent
      rw [LedgerOutboxEvent.reserve, hentries, List.map_cons, List.sum_cons,
        LedgerOutboxEvent.reserve_entry, List.map_singleton, List.sum_singleton,
        LedgerOutboxEvent.reserve_eq_zero (by simp),
        ReserveHold.held]
      simp only [LedgerEntryType.sign, neg_mul, one_mul, add_zero, hheld, true_and]
    · intro released
      cases released with
      | true => exact sat_liftM.2 fun _ _ => trivial
      | false => trivial

lemma sat_releaseAll (env : String → ReleaseEnv) (holds : List ReserveHold)
    (released failed : Nat) :
    Only (fun seen c => Books seen c) seen
      (releaseAll env holds released failed) := by
  induction holds generalizing seen released failed with
  | nil => trivial
  | cons hold rest ih =>
    refine sat_bind.2 (Sat.tryCatch ?_ fun _ _ => ih _ _)
    refine sat_bind.2 ((sat_release _ _ _).mono (fun _ _ h => h) fun _ _ _ => ih _ _)

lemma sat_topUpHold (env : ReleaseEnv) (newReserveBps : Nat) {db : ReserveDb} {hold : ReserveHold}
    (hget : db.holds.get hold.id = some hold) {Q : Option ReserveDb → Bool → Prop}
    (hQ : ∀ b, Q (some db) b) :
    Sat (fun seen c => Books seen c ∧ Commands.observes c = false) Q (some db)
      (topUpHold env newReserveBps hold) := by
  unfold topUpHold
  refine sat_bind.2 (sat_liftM.2 fun target _ => ?_)
  refine sat_bind.2 (sat_liftM.2 fun more _ => ?_)
  cases more with
  | false => exact hQ false
  | true =>
    refine sat_bind.2 (sat_liftM.2 fun additional _ => ?_)
    refine sat_bind.2 (sat_liftM.2 fun toppedUp htopUp => ?_)
    refine sat_bind.2 (sat_liftM.2 fun event hevent => ?_)
    have hheld : hold.status = .HELD := by
      unfold ReserveHold.topUp at htopUp
      grind
    obtain ⟨amount, hadd, htopped⟩ : ∃ amount, hold.amount.add additional = .ok amount ∧
        toppedUp = { hold with amount := amount } := by
      unfold ReserveHold.topUp at htopUp
      split_ifs at htopUp
      obtain ⟨amount, hadd, h⟩ := bind_eq_ok.1 htopUp
      exact ⟨amount, hadd, (Except.ok.inj h).symm⟩
    refine sat_transaction ⟨⟨⟨db, rfl, hget⟩, hheld, ⟨amount, htopped⟩, fun m c => ?_⟩, rfl⟩ rfl hQ
    obtain ⟨hcurrency, rfl⟩ := Money.add_eq_ok.1 hadd
    obtain ⟨-, -, hentries⟩ := LedgerOutboxEvent.create_ok hevent
    rw [LedgerOutboxEvent.reserve, hentries, List.map_cons, List.sum_cons, List.map_singleton,
      List.sum_singleton, LedgerOutboxEvent.reserve_entry,
      LedgerOutboxEvent.reserve_eq_zero (by simp), htopped]
    simp only [LedgerEntryType.sign, neg_neg, one_mul, zero_add, ReserveHold.held, hheld, true_and,
      hcurrency]
    split_ifs <;> simp

lemma sat_topUpAll (env : String → ReleaseEnv) (newReserveBps : Nat) {db : ReserveDb}
    {holds : List ReserveHold} (hread : ∀ hold ∈ holds, db.holds.get hold.id = some hold)
    (toppedUp failed : Nat) :
    Only (fun seen c => Books seen c) (some db)
      (topUpAll env newReserveBps holds toppedUp failed) := by
  induction holds generalizing toppedUp failed with
  | nil => trivial
  | cons hold rest ih =>
    rw [List.forall_mem_cons] at hread
    have hrest := ih hread.2
    refine sat_bind.2 (Sat.tryCatch_blind ?_ fun e => hrest _ _)
    refine sat_bind.2 (sat_topUpHold _ _ hread.1 fun b => ?_)
    cases b with
    | true => exact hrest _ _
    | false => exact hrest _ _

end ReserveService

namespace ReserveDb

variable {db : ReserveDb} {hold row : ReserveHold} {event : LedgerOutboxEvent}

lemma reserveBalance_append (holds : Table ReserveHold.id) (m : String) (c : Currency) :
    reserveBalance ⟨holds, db.ledgerOutbox ++ [event]⟩ m c =
      db.reserveBalance m c + event.reserve m c := by
  simp [reserveBalance]

lemma held_congr (hstatus : row.status = hold.status) (hmerchant : row.merchantId = hold.merchantId)
    (hamount : row.amount = hold.amount) (m : String) (c : Currency) :
    row.held m c = hold.held m c := by
  unfold ReserveHold.held
  rw [hstatus, hmerchant, hamount]

/-- A hold that is recorded with its charge keeps the balance. -/
lemma Balanced.recordHold (hdb : db.Balanced) {new : Option ReserveHold}
    (hfresh : ∀ hold ∈ new, db.holds.get hold.id = none)
    (hevent : ∀ m c, event.reserve m c = ((new.map (·.held m c)).getD 0 : Nat)) :
    ((ReserveCmd.recordHold event new).apply db).Balanced ∧
      db.Keeps ((ReserveCmd.recordHold event new).apply db) := by
  cases new with
  | none =>
    refine ⟨fun m c => ?_, Keeps.refl db⟩
    refine (reserveBalance_append db.holds m c).trans ?_
    rw [hdb m c, hevent m c]
    exact add_zero _
  | some hold =>
    have hnone := hfresh hold rfl
    constructor
    · intro m c
      refine (reserveBalance_append _ m c).trans ?_
      rw [hdb m c, hevent m c]
      change _ = ((((db.holds.put hold).rows.map (ReserveHold.held m c)).sum : Nat) : Int)
      rw [Table.rows_put_of_not_mem _ (Table.get_eq_none_iff.1 hnone)]
      simp [heldTotal]
    · intro id old hold'
      have hne : id ≠ hold.id := by
        rintro rfl
        rw [hnone] at hold'
        nomatch hold'
      exact ⟨old, (Table.get_put_of_ne _ hne).trans hold', rfl, fun h => h⟩

/-- A hold that is replaced by one of the same merchant, with the difference credited. -/
lemma Balanced.topUp (hdb : db.Balanced) {toppedUp : ReserveHold}
    (htopped : toppedUp = { hold with amount := amount }) (hget : db.holds.get hold.id = some row)
    (hrow : row.status = .HELD) (hheld : hold.status = .HELD) (hamount : row.amount = hold.amount)
    (hmerchant : row.merchantId = hold.merchantId)
    (hevent : ∀ m c, event.reserve m c = (toppedUp.held m c : Int) - hold.held m c) :
    ((ReserveCmd.topUp hold toppedUp event).apply db).Balanced ∧
      db.Keeps ((ReserveCmd.topUp hold toppedUp event).apply db) := by
  have hget' : db.holds.get toppedUp.id = some row := by
    rw [htopped]
    exact hget
  constructor
  · intro m c
    refine (reserveBalance_append _ m c).trans ?_
    have hsum : ((db.holds.put toppedUp).rows.map (ReserveHold.held m c)).sum + row.held m c =
        (db.holds.rows.map (ReserveHold.held m c)).sum + toppedUp.held m c :=
      Table.sum_put_of_get db.holds hget'
    rw [held_congr (hrow.trans hheld.symm) hmerchant hamount] at hsum
    have hbefore := hdb m c
    rw [hevent m c, hbefore]
    change _ = ((((db.holds.put toppedUp).rows.map (ReserveHold.held m c)).sum : Nat) : Int)
    unfold heldTotal
    omega
  · intro id old hold'
    by_cases hid : id = toppedUp.id
    · subst hid
      obtain rfl := Option.some.inj (hget'.symm.trans hold')
      refine ⟨toppedUp, Table.get_put_self _ _, ?_, fun h => ?_⟩
      · rw [htopped]
        exact hmerchant.symm
      · rw [hrow] at h
        nomatch h
    · exact ⟨old, (Table.get_put_of_ne _ hid).trans hold', rfl, fun h => h⟩

/-- So does a release of the amount that is held. -/
lemma Balanced.release (hdb : db.Balanced) (hheld : hold.status = .HELD)
    (hrow : ∀ row, db.holds.get hold.id = some row → row.merchantId = hold.merchantId ∧
      (row.status = .HELD → row.amount = hold.amount))
    (hevent : ∀ m c, event.reserve m c = -(hold.held m c : Int)) :
    ((ReserveCmd.release hold event).apply db).Balanced ∧
      db.Keeps ((ReserveCmd.release hold event).apply db) := by
  have happly : (ReserveCmd.release hold event).apply db =
      if db.isHeld hold.id then ⟨db.markReleased hold.id, db.ledgerOutbox ++ [event]⟩ else db := rfl
  rw [happly]
  by_cases hisHeld : db.isHeld hold.id = true
  swap
  · rw [if_neg hisHeld]
    exact ⟨hdb, Keeps.refl db⟩
  rw [if_pos hisHeld]
  unfold isHeld at hisHeld
  cases hget : db.holds.get hold.id with
  | none =>
    rw [hget] at hisHeld
    nomatch hisHeld
  | some row =>
    rw [hget, Option.any_some, decide_eq_true_iff] at hisHeld
    obtain ⟨hmerchant, hamount⟩ := hrow row hget
    constructor
    · intro m c
      have hsum : ((db.markReleased hold.id).rows.map (ReserveHold.held m c)).sum + row.held m c =
          (db.holds.rows.map (ReserveHold.held m c)).sum +
            ReserveHold.held m c { row with status := .RELEASED } :=
        Table.sum_replace db.holds.keys_nodup (Table.mem_of_get hget) (Table.key_of_get hget)
      rw [show ReserveHold.held m c { row with status := .RELEASED } = 0 from
        if_neg fun h => (nomatch h.1),
        held_congr (hisHeld.trans hheld.symm) hmerchant (hamount hisHeld)] at hsum
      refine (reserveBalance_append _ m c).trans ?_
      rw [hevent m c, hdb m c]
      change _ = ((((db.markReleased hold.id).rows.map (ReserveHold.held m c)).sum : Nat) : Int)
      unfold heldTotal
      omega
    · intro id old hold'
      dsimp only [markReleased]
      by_cases hid : id = hold.id
      · subst hid
        obtain rfl := Option.some.inj (hget.symm.trans hold')
        refine ⟨{ row with status := .RELEASED }, ?_, rfl, fun _ => rfl⟩
        rw [Table.get_modify_self, hget]
        rfl
      · refine ⟨old, ?_, rfl, fun h => h⟩
        rw [Table.get_modify_of_ne _ _ hid, hold']

end ReserveDb

/-- A command of the service that is undisturbed keeps the account balanced and the holds. -/
lemma ReserveService.Books.keeps {seen : Option ReserveDb} {c : ReserveCmd} {db : ReserveDb}
    (hc : Books seen c) (hdb : db.Balanced)
    (hseen : Pool.Remembers ReserveDb.Balanced ReserveDb.Keeps seen db)
    (hfound : c.Undisturbed db) :
    (Commands.apply c db).Balanced ∧ db.Keeps (Commands.apply c db) := by
  have hmerchant : ∀ {hold : ReserveHold},
      (∃ db₀, seen = some db₀ ∧ db₀.holds.get hold.id = some hold) →
      ∀ row, db.holds.get hold.id = some row → row.merchantId = hold.merchantId := by
    rintro hold ⟨db₀, hdb₀, hread⟩ row hrow
    obtain ⟨row', hrow', hsame, -⟩ := (hseen db₀ hdb₀).2 _ hold hread
    rw [Option.some.inj (hrow.symm.trans hrow')]
    exact hsame
  cases c with
  | findById id => exact ⟨hdb, .refl db⟩
  | findReleaseEligible now => exact ⟨hdb, .refl db⟩
  | findHeldByMerchant merchantId => exact ⟨hdb, .refl db⟩
  | recordHold event hold => exact hdb.recordHold hfound hc
  | release hold event =>
    obtain ⟨hread, hheld, hevent⟩ := hc
    exact hdb.release hheld (fun row hrow => ⟨hmerchant hread row hrow, hfound row hrow⟩) hevent
  | topUp hold toppedUp event =>
    obtain ⟨hread, hheld, ⟨amount, htopped⟩, hevent⟩ := hc
    obtain ⟨row, hrow, hstatus, hamount⟩ := hfound
    exact hdb.topUp htopped hrow hstatus hheld hamount (hmerchant hread row hrow) hevent

/-! ### Operations -/

/-- A charge is booked, an operator or the daily sweep releases holds, or a merchant's holds are
topped up.

Source: `ReserveService` -/
inductive ReserveOperation where
  | recordHold (booking : ReserveService.ChargeBooking)
  | release (env : ReserveService.ReleaseEnv) (id : String) (force : Bool)
  | releaseEligible (env : String → ReserveService.ReleaseEnv) (now : Date)
  | topUpHeldReservesForMerchant (env : String → ReserveService.ReleaseEnv) (merchantId : String)
      (newReserveBps : Nat)

namespace ReserveOperation

/-- The program of an operation. -/
def program : ReserveOperation → Reserves Unit
  | recordHold booking => ReserveService.recordHold booking
  | release env id force => ReserveService.release env id force >>= fun _ => pure ()
  | releaseEligible env now => ReserveService.releaseEligible env now >>= fun _ => pure ()
  | topUpHeldReservesForMerchant env merchantId newReserveBps =>
    ReserveService.topUpHeldReservesForMerchant env merchantId newReserveBps >>= fun _ => pure ()

/-- What each operation issues. -/
lemma sat_program (op : ReserveOperation) :
    Only (fun seen c => ReserveService.Books seen c) none op.program := by
  cases op with
  | recordHold booking => exact ReserveService.sat_recordHold booking
  | release env id force => exact sat_bind.2 (ReserveService.sat_release env id force)
  | releaseEligible env now =>
    refine sat_bind.2 (sat_bind.2 ⟨trivial, fun db => ?_⟩)
    exact ReserveService.sat_releaseAll env _ 0 0
  | topUpHeldReservesForMerchant env merchantId newReserveBps =>
    refine sat_bind.2 (sat_bind.2 ⟨trivial, fun db =>
      ReserveService.sat_topUpAll env newReserveBps (fun hold hhold => Table.get_of_mem ?_) 0 0⟩)
    exact List.mem_of_mem_filter ((List.mem_insertionSort _).1 hhold)

end ReserveOperation

/-- The operations, none of which has started. -/
def reservePool (db : ReserveDb) (ops : List ReserveOperation) :
    Pool ReserveDb ReserveCmd AppError :=
  ⟨db, (ops.map ReserveOperation.program).map Proc.start⟩

/-- In every interleaving of bookings, releases and top-ups whose transactions find the holds as
they were read, the reserve account of every merchant agrees with the held holds after each
transaction, in every currency, and a hold that a transaction left released is released from then
on. -/
theorem reserves_balance (db : ReserveDb) (hdb : db.Balanced) (ops : List ReserveOperation)
    (schedule : List Nat)
    (hcond : ∀ e ∈ ((reservePool db ops).exec schedule).1, e.cmd.Undisturbed e.pre) :
    ∀ e ∈ ((reservePool db ops).exec schedule).1, e.post.Balanced ∧
      ∀ id hold, e.post.holds.get id = some hold → hold.status = .RELEASED →
        ∃ hold', ((reservePool db ops).exec schedule).2.state.holds.get id = some hold' ∧
          hold'.status = .RELEASED := by
  have hstart : Pool.Sound ReserveDb.Balanced ReserveDb.Keeps
      (fun seen c => ReserveService.Books seen c) (reservePool db ops) := by
    refine Pool.sound_start hdb fun p hp => ?_
    obtain ⟨op, -, rfl⟩ := List.mem_map.1 hp
    exact op.sat_program
  obtain ⟨hevents, -, -⟩ := Pool.exec_sound (fun _ c s => c.Undisturbed s) ReserveDb.Keeps.refl
    (fun _ _ _ => ReserveDb.Keeps.trans)
    (fun _ _ _ hs hseen hc hfound => hc.keeps hs hseen hfound) hstart schedule hcond
  intro e he
  obtain ⟨hsound, -, hkeeps⟩ := hevents e he
  refine ⟨hsound.post, fun id hold hget hreleased => ?_⟩
  obtain ⟨hold', hget', -, hstays⟩ := hkeeps id hold hget
  exact ⟨hold', hget', hstays hreleased⟩

namespace Sample

/-- A charge of ten dollars, one of which is withheld. -/
def withheld : ReserveOperation :=
  .recordHold {
    eventId := "event-1"
    paymentId := "pay_1"
    merchantId := "m_1"
    amount := tenDollars
    platformFee := ⟨0, usd⟩
    reserveHold := some ⟨⟨100, usd⟩, 30, tenDollars⟩
    holdId := "hold-1"
    now := 0 }

/-- The hold is released before it is due. -/
def releasedNow : ReserveOperation := .release ⟨1, "event-2", none⟩ "hold-1" true

/-- The merchant's holds are topped up to a fifth of the net amount. -/
def toppedUpTo (eventId : String) : ReserveOperation :=
  .topUpHeldReservesForMerchant (fun _ => ⟨1, eventId, none⟩) "m_1" 2000

/-- What an interleaving leaves of the hold, what is held, and the balance of the account. -/
def reserveOutcome (ops : List ReserveOperation) (schedule : List Nat) :
    Option ReserveHoldStatus × Nat × Int :=
  let db := ((reservePool .empty ops).exec schedule).2.state
  ((db.holds.get "hold-1").map (·.status), db.heldTotal "m_1" usd, db.reserveBalance "m_1" usd)

end Sample

open Sample

/-- A hold is recorded, topped up and released, one after the other. -/
theorem reserves_balance_in_turn :
    reserveOutcome [withheld, toppedUpTo "event-3", releasedNow] [0, 1, 1, 2, 2] =
      (some .RELEASED, 0, 0) ∧
    ∀ e ∈ ((reservePool .empty [withheld, toppedUpTo "event-3", releasedNow]).exec
        [0, 1, 1, 2, 2]).1, e.post.Balanced ∧
      ∀ id hold, e.post.holds.get id = some hold → hold.status = .RELEASED →
        ∃ hold', ((reservePool .empty [withheld, toppedUpTo "event-3", releasedNow]).exec
            [0, 1, 1, 2, 2]).2.state.holds.get id = some hold' ∧ hold'.status = .RELEASED :=
  ⟨by decide +kernel, reserves_balance .empty (fun _ _ => rfl)
    [withheld, toppedUpTo "event-3", releasedNow] [0, 1, 1, 2, 2] (by decide +kernel)⟩

/-- A top-up that has read a hold before it was released makes it held again, with twice the amount
that is on the account; a release that has read a hold before it was topped up books too little; and
two top-ups that have read the same hold book the difference twice. -/
theorem reserve_disturbed :
    reserveOutcome [withheld, toppedUpTo "event-3", releasedNow] [0, 1, 2, 2] =
      (some .RELEASED, 0, 0) ∧
    reserveOutcome [withheld, toppedUpTo "event-3", releasedNow] [0, 1, 2, 2, 1] =
      (some .HELD, 200, 100) ∧
    reserveOutcome [withheld, toppedUpTo "event-3", releasedNow] [0, 2, 1, 1, 2] =
      (some .RELEASED, 0, 100) ∧
    reserveOutcome [withheld, toppedUpTo "event-3", toppedUpTo "event-4"] [0, 1, 2, 1, 2] =
      (some .HELD, 200, 300) := by
  refine ⟨?_, ?_, ?_, ?_⟩ <;> decide +kernel

end OmniSwitch
