import OmniSwitch.Adapters
import OmniSwitch.Breaker.Admission
import OmniSwitch.Lib.History

/-!
# Probes, and what they decide

The operations of the adapters around the methods of the breaker: each asks first, makes its
request, and reports what became of it.  Captures and cancellations never report a success, nor does
a refund with Adyen.

A probe that reports decides the circuit.  A half-open circuit is closed by a probe of its own, as
long as every call ends within the time of recovery.

Main results:

* `Traffic.Sound.serve`: where the calls in flight stand;
* `probe_decides`: what a finished probe does to the circuit, and what closes it;
* `probe_undecided`: operations that leave it half-open, and a late call that closes it.
-/

namespace OmniSwitch

open Lib Prog RedisCircuitBreaker PspAdapter

/-- Source: `psp-adapter.port.ts` `PSPAdapterPort` -/
inductive PspOperation where
  | charge | refund | capture | cancel | verifyPaymentMethod | queryOutcome
  deriving DecidableEq, Repr

/-- The operations that report a success to the breaker; there are adapters for two providers.

Source: `StripePSPAdapter`; `AdyenPSPAdapter` -/
def PSPProvider.recordsSuccess : PSPProvider → PspOperation → Bool
  | STRIPE, .capture | STRIPE, .cancel => false
  | ADYEN, .refund | ADYEN, .capture | ADYEN, .cancel => false
  | _, _ => true

/-- The name of the PSP in the texts of the adapter's errors. -/
def PSPProvider.adapterName : PSPProvider → String
  | STRIPE => "Stripe"
  | ADYEN => "Adyen"
  | provider => provider.toString

variable {R : Type}

/-- The PSP answered, with a body that can be read; in every other case the request throws. -/
def Exchange.isAnswered : Exchange R → Bool
  | .answered _ (.ok _) => true
  | _ => false

lemma makeRequest_isOk (name : String) (exchange : Exchange R) :
    (makeRequest name exchange).isOk = exchange.isAnswered := by
  cases exchange with
  | noResponse reason => rfl
  | answered body json => cases json <;> rfl
  | rejected statusCode message json => cases json <;> rfl

/-- What an operation reports when its request has ended.

Source: `StripePSPAdapter.charge`, `StripePSPAdapter.capture` -/
def PspOperation.report (operation : PspOperation) (provider : PSPProvider) (latencyMs : Nat) :
    Except AppError R → Option Report
  | .ok _ => if provider.recordsSuccess operation then some (.success latencyMs) else none
  | .error _ => some .failure

/-- A call that has been admitted: when, in which episode of the circuit, and whether as a probe. -/
structure Call where
  operation : PspOperation
  admittedAt : Nat
  episode : Nat
  probe : Bool
  deriving DecidableEq, Repr

/-- The circuit of a provider, and the calls in flight. -/
structure Traffic where
  circuit : Circuit
  inFlight : List Call := []

/-- A call asks; the request of a call in flight ends; or time passes.  The reset of the
circuit, `PaymentController.resetCircuitBreaker`, is not among the turns. -/
inductive TrafficTurn (R : Type) where
  | start (operation : PspOperation) (waits : List Nat)
  | finish (i : Nat) (exchange : Exchange R) (waits : List Nat)
  | pass (milliseconds : Nat)

open TrafficTurn

/-- A call that has asked is in flight if it is admitted. -/
def Traffic.asked (s : Traffic) (operation : PspOperation) :
    Circuit × Except AppError Unit → Traffic
  | (circuit, .error _) => { s with circuit := circuit }
  | (circuit, .ok _) =>
    { circuit := circuit
      inFlight := s.inFlight ++ [⟨operation, circuit.now, circuit.episode,
        s.circuit.probes.length < circuit.probes.length⟩] }

/-- The request of a call ends, and the call with its report. -/
def Traffic.ended (s : Traffic) (i : Nat) (waits : List Nat) (report : Option Report) :
    Traffic where
  circuit :=
    match report with
    | none => s.circuit
    | some report => (report.program.runWaiting Circuit.pass waits s.circuit).1
  inFlight := s.inFlight.eraseIdx i

/-- Source: `StripePSPAdapter`; `AdyenPSPAdapter` -/
def TrafficTurn.serve (provider : PSPProvider) : TrafficTurn R → Traffic → Traffic
  | start operation waits, s =>
    s.asked operation
      ((assertAvailable provider.toString).runWaiting Circuit.pass waits s.circuit)
  | finish i exchange waits, s =>
    match s.inFlight[i]? with
    | none => s
    | some call =>
      s.ended i waits (call.operation.report provider (s.circuit.now - call.admittedAt)
        (makeRequest provider.adapterName exchange))
  | pass milliseconds, s => { s with circuit := s.circuit.pass milliseconds }

/-! ### Where the calls stand -/

/-- The call was admitted as a probe of the episode the circuit is in. -/
def Call.ProbeOf (call : Call) (s : Circuit) : Prop :=
  call.probe = true ∧ call.episode = s.episode

/-- The probes of the present episode are probes of a half-open circuit; every other call was
admitted before the last failure, unless the circuit is closed. -/
structure Traffic.Sound (s : Traffic) : Prop where
  orderly : Orderly s.circuit
  past : ∀ call ∈ s.inFlight, call.episode ≤ s.circuit.episode ∧ call.admittedAt ≤ s.circuit.now
  probing : ∀ call ∈ s.inFlight, call.ProbeOf s.circuit → s.circuit.stored = .HALF_OPEN
  before : s.circuit.stored ≠ .CLOSED → ∀ call ∈ s.inFlight, ¬ call.ProbeOf s.circuit →
    ∃ time, s.circuit.lastFailureTime = some time ∧ call.admittedAt ≤ time

section sound

variable {provider : PSPProvider} {s : Traffic}

/-- A report leaves them so. -/
lemma Traffic.Sound.report {report : Report} {circuit : Circuit} {inFlight : List Call}
    (h : s.Sound) (hreported : ReportedFrom s.circuit report circuit)
    (hsub : ∀ call ∈ inFlight, call ∈ s.inFlight) : Traffic.Sound ⟨circuit, inFlight⟩ := by
  have horderly : Orderly circuit := h.orderly.report hreported
  obtain ⟨hnow, hprobes, hreported⟩ := hreported
  have hpast : ∀ call ∈ inFlight, call.episode ≤ s.circuit.episode ∧
      call.admittedAt ≤ s.circuit.now := fun call hcall => h.past call (hsub call hcall)
  -- a report that opens or closes the circuit leaves no probe of the new episode
  have hrenewed : circuit.episode = s.circuit.episode + 1 → ∀ call ∈ inFlight,
      ¬ call.ProbeOf circuit := by
    rintro hepisode call hcall ⟨-, heq⟩
    have := (hpast call hcall).1
    omega
  -- any other one leaves what the calls are
  have hsame : circuit.episode = s.circuit.episode → ∀ call : Call,
      call.ProbeOf circuit ↔ call.ProbeOf s.circuit := by
    intro hepisode call
    unfold Call.ProbeOf
    rw [hepisode]
  have hpast' : s.circuit.episode ≤ circuit.episode → ∀ call ∈ inFlight,
      call.episode ≤ circuit.episode ∧ call.admittedAt ≤ circuit.now := fun hle call hcall =>
    ⟨(hpast call hcall).1.trans hle, (hpast call hcall).2.trans hnow⟩
  cases hreported with
  | closes hstored hclosed hepisode htrial =>
    refine ⟨horderly, hpast' (by omega), fun call hcall hprobe => ?_, fun hne => ?_⟩
    · exact absurd hprobe (hrenewed hepisode call hcall)
    · exact absurd hclosed hne
  | counted hstored hstate hepisode htrial hfailure =>
    refine ⟨horderly, hpast' hepisode.ge, fun call hcall hprobe => ?_,
      fun hne call hcall hprobe => ?_⟩
    · exact (stored_congr hstate).trans
        (h.probing call (hsub call hcall) ((hsame hepisode call).1 hprobe))
    · rw [stored_congr hstate] at hne
      rw [hfailure]
      exact h.before hne call (hsub call hcall) (hprobe ∘ (hsame hepisode call).2)
  | slow hstored hopen hepisode htrial hfailure | opens hopen hepisode htrial hfailure =>
    obtain ⟨time, htime, hle⟩ := hfailure
    refine ⟨horderly, hpast' (by omega), fun call hcall hprobe => ?_, fun _ call hcall _ => ?_⟩
    · exact absurd hprobe (hrenewed hepisode call hcall)
    · exact ⟨time, htime, (hpast call hcall).2.trans hle⟩
  | failed hstored hstate hepisode htrial hfailure =>
    obtain ⟨time, htime, hle⟩ := hfailure
    refine ⟨horderly, hpast' hepisode.ge, fun call hcall hprobe => ?_, fun _ call hcall _ => ?_⟩
    · exact (stored_congr hstate).trans
        (h.probing call (hsub call hcall) ((hsame hepisode call).1 hprobe))
    · exact ⟨time, htime, (hpast call hcall).2.trans hle⟩

lemma Traffic.Sound.asking {circuit : Circuit} {r : Except AppError Unit} (h : s.Sound)
    (horderly : Orderly circuit) (hasks : s.circuit.Asks circuit)
    (hasserted : Asserted s.circuit circuit r) : Traffic.Sound { s with circuit := circuit } := by
  have hsame : ∀ call : Call, call.ProbeOf circuit ↔ call.ProbeOf s.circuit := by
    intro call
    unfold Call.ProbeOf
    rw [hasks.episode]
  refine ⟨horderly, fun call hcall => ?_, fun call hcall hprobe => ?_,
    fun hne call hcall hprobe => ?_⟩
  · obtain ⟨hepisode, hadmitted⟩ := h.past call hcall
    exact ⟨hepisode.trans hasks.episode.ge, hadmitted.trans hasks.now⟩
  · exact hasserted.half_open (h.probing call hcall ((hsame call).1 hprobe))
  · change ∃ time, circuit.lastFailureTime = some time ∧ _
    rw [hasks.failure]
    exact h.before (hasserted.not_closed hne) call hcall (hprobe ∘ (hsame call).2)

lemma Traffic.Sound.admits {call : Call} (h : s.Sound) (hepisode : call.episode = s.circuit.episode)
    (hadmitted : call.admittedAt = s.circuit.now)
    (hprobe : call.probe = true ∧ s.circuit.stored = .HALF_OPEN ∨
      call.probe = false ∧ s.circuit.stored = .CLOSED) :
    Traffic.Sound { s with inFlight := s.inFlight ++ [call] } := by
  refine ⟨h.orderly, ?_, ?_, fun hne => ?_⟩
  · exact List.forall_mem_append.2 ⟨h.past, List.forall_mem_singleton.2 ⟨hepisode.le, hadmitted.le⟩⟩
  · refine List.forall_mem_append.2 ⟨h.probing, List.forall_mem_singleton.2 fun hof => ?_⟩
    rcases hprobe with ⟨-, hhalf⟩ | ⟨hfalse, -⟩
    · exact hhalf
    · exact nomatch hfalse.symm.trans hof.1
  · refine List.forall_mem_append.2 ⟨h.before hne, List.forall_mem_singleton.2 fun hnot => ?_⟩
    rcases hprobe with ⟨htrue, -⟩ | ⟨-, hclosed⟩
    · exact absurd ⟨htrue, hepisode⟩ hnot
    · exact absurd hclosed hne

/-- So does a call that asks. -/
lemma Traffic.Sound.asked {asked : Circuit × Except AppError Unit} (h : s.Sound)
    (operation : PspOperation) (horderly : Orderly asked.1) (hasks : s.circuit.Asks asked.1)
    (hasserted : Asserted s.circuit asked.1 asked.2) : (s.asked operation asked).Sound := by
  have hasking := h.asking horderly hasks hasserted
  obtain ⟨circuit, r⟩ := asked
  cases hasserted with
  | closed hclosed hstate hprobes =>
    refine hasking.admits rfl rfl (.inr ⟨?_, (stored_congr hstate).trans hclosed⟩)
    change decide (s.circuit.probes.length < circuit.probes.length) = false
    rw [hprobes]
    exact decide_eq_false (lt_irrefl _)
  | probe hne hhalf hopen hprobes =>
    obtain ⟨p, hprobes⟩ := hprobes
    refine hasking.admits rfl rfl (.inl ⟨?_, hhalf⟩)
    change decide (s.circuit.probes.length < circuit.probes.length) = true
    rw [hprobes, List.length_append]
    exact decide_eq_true (Nat.lt_succ_self _)
  | refused e hne hstate hprobes => exact hasking

/-- So does a call that ends. -/
lemma Traffic.Sound.ended (h : s.Sound) (i : Nat) (waits : List Nat) (report : Option Report) :
    (s.ended i waits report).Sound := by
  have hsub : ∀ call ∈ s.inFlight.eraseIdx i, call ∈ s.inFlight := fun _ =>
    List.mem_of_mem_eraseIdx
  cases report with
  | none =>
    exact ⟨h.orderly, fun call hcall => h.past call (hsub call hcall),
      fun call hcall => h.probing call (hsub call hcall),
      fun hne call hcall => h.before hne call (hsub call hcall)⟩
  | some report => exact h.report ((timely_report report).run waits) hsub

/-- **Every turn keeps where the calls stand.** -/
theorem Traffic.Sound.serve (h : s.Sound) (turn : TrafficTurn R) :
    (turn.serve provider s).Sound := by
  cases turn with
  | start operation waits =>
    obtain ⟨hasks, hasserted⟩ := (timely_assertAvailable s.circuit provider.toString).run waits
    exact h.asked operation ((h.orderly.assertAvailable provider.toString).run waits) hasks
      hasserted
  | finish i exchange waits =>
    change Traffic.Sound (match s.inFlight[i]? with
      | none => s
      | some call => _)
    split
    · exact h
    · exact h.ended i waits _
  | pass milliseconds =>
    refine ⟨h.orderly.of_eq rfl rfl (Nat.le_add_right _ _) rfl rfl rfl, fun call hcall => ?_,
      h.probing, h.before⟩
    obtain ⟨hepisode, hadmitted⟩ := h.past call hcall
    exact ⟨hepisode, hadmitted.trans (Nat.le_add_right _ _)⟩

end sound

/-! ### What probes decide -/

/-- The circuit is closed if the PSP answered and open if the request threw, and no trial is
claimed.
-/
def Circuit.DecidedBy (s : Circuit) (exchange : Exchange R) : Prop :=
  s.stored = (if exchange.isAnswered then .CLOSED else .OPEN) ∧
    s.counters .halfOpenTrialCount = none

/-- A call that ends does so within the time of recovery. -/
def TrafficTurn.Prompt : TrafficTurn R → Traffic → Prop
  | finish i _ _, s => ∀ call ∈ s.inFlight[i]?, s.circuit.now ≤ call.admittedAt + recoveryTimeMs
  | _, _ => True

/-- It can be decided. -/
instance TrafficTurn.decidablePrompt (turn : TrafficTurn R) (s : Traffic) :
    Decidable (turn.Prompt s) := by
  unfold Prompt
  split <;> infer_instance

/-- A call ends that was admitted as a probe of the episode. -/
def TrafficTurn.EndsProbe : TrafficTurn R → Traffic → Prop
  | finish i _ _, s => ∃ call, s.inFlight[i]? = some call ∧ call.ProbeOf s.circuit
  | _, _ => False

section decides

variable {provider : PSPProvider} {s : Traffic}

lemma asked_circuit (s : Traffic) (operation : PspOperation)
    (asked : Circuit × Except AppError Unit) : (s.asked operation asked).circuit = asked.1 := by
  obtain ⟨circuit, r⟩ := asked
  cases r <;> rfl

/-- A report to a half-open circuit closes or opens it, and frees the trial. -/
lemma ReportedFrom.decides {s s' : Circuit} {report : Report} (h : ReportedFrom s report s')
    (hhalf : s.stored = .HALF_OPEN) :
    s'.stored = (match report with | .success _ => .CLOSED | .failure => .OPEN) ∧
      s'.counters .halfOpenTrialCount = none := by
  obtain ⟨-, -, hreported⟩ := h
  cases hreported with
  | closes _ hclosed _ htrial => exact ⟨hclosed, htrial⟩
  | opens hopen _ htrial _ => exact ⟨hopen, htrial⟩
  | counted hne | slow hne | failed hne => exact absurd hhalf hne

lemma Traffic.Sound.decided (h : s.Sound) {i : Nat} {call : Call} (exchange : Exchange R)
    (waits : List Nat) (hcall : s.inFlight[i]? = some call) (hprobe : call.ProbeOf s.circuit)
    (hreports : provider.recordsSuccess call.operation = true ∨ exchange.isAnswered = false) :
    ((finish i exchange waits).serve provider s).circuit.DecidedBy exchange := by
  have hhalf := h.probing call (List.mem_of_getElem? hcall) hprobe
  have hanswered := makeRequest_isOk provider.adapterName exchange
  simp only [TrafficTurn.serve, hcall, Circuit.DecidedBy]
  cases hrequest : makeRequest provider.adapterName exchange with
  | ok body =>
    rw [hrequest] at hanswered
    have htrue : exchange.isAnswered = true := hanswered.symm
    have hrecords : provider.recordsSuccess call.operation = true :=
      hreports.resolve_right fun hfalse => nomatch htrue.symm.trans hfalse
    have hreport : call.operation.report provider (s.circuit.now - call.admittedAt)
        (.ok body : Except AppError R) =
          some (.success (s.circuit.now - call.admittedAt)) := if_pos hrecords
    rw [hreport, htrue]
    exact ((timely_report _).run waits).decides hhalf
  | error e =>
    rw [hrequest] at hanswered
    have hfalse : exchange.isAnswered = false := hanswered.symm
    rw [hfalse]
    exact ((timely_report .failure).run waits).decides hhalf

lemma Traffic.Sound.endsProbe (h : s.Sound) {turn : TrafficTurn R} (hprompt : turn.Prompt s)
    (hhalf : s.circuit.stored = .HALF_OPEN)
    (hclosed : (turn.serve provider s).circuit.stored = .CLOSED) : turn.EndsProbe s := by
  cases turn with
  | pass milliseconds => exact nomatch hhalf.symm.trans hclosed
  | start operation waits =>
    -- a caller leaves a half-open circuit half-open
    obtain ⟨-, hasserted⟩ := (timely_assertAvailable s.circuit provider.toString).run waits
    have hstays := hasserted.half_open hhalf
    rw [← asked_circuit s operation] at hstays
    exact nomatch hstays.symm.trans hclosed
  | finish i exchange waits =>
    cases hcall : s.inFlight[i]? with
    | none =>
      have hserve : (finish i exchange waits).serve provider s = s := by
        change (match s.inFlight[i]? with
          | none => s
          | some call => _) = _
        rw [hcall]
      rw [hserve] at hclosed
      exact nomatch hhalf.symm.trans hclosed
    | some call =>
      refine ⟨call, hcall, by_contra fun hnot => ?_⟩
      -- a call that is not a probe was admitted before the last failure
      have hopen : s.circuit.stored ≠ .CLOSED := fun hclosed => nomatch hhalf.symm.trans hclosed
      obtain ⟨time, htime, hadmitted⟩ := h.before hopen call (List.mem_of_getElem? hcall) hnot
      obtain ⟨time', htime', hlate⟩ := h.orderly.recovered hhalf
      obtain rfl : time = time' := Option.some.inj (htime.symm.trans htime')
      have := hprompt call hcall
      omega

end decides

lemma traffic_start (start : Nat) : Traffic.Sound { circuit := { now := start } } :=
  ⟨orderly_start start, fun _ hcall => absurd hcall List.not_mem_nil,
    fun _ hcall => absurd hcall List.not_mem_nil,
    fun _ _ hcall => absurd hcall List.not_mem_nil⟩

/-- What a sequence of turns leaves, from a cache in which nothing is stored. -/
def trafficAfter (provider : PSPProvider) (start : Nat) (turns : List (TrafficTurn R)) : Traffic :=
  History.after (serve provider) { circuit := { now := start } } turns

/-- The turns of such a sequence, each with what it found. -/
def trafficMoments (provider : PSPProvider) (start : Nat) (turns : List (TrafficTurn R)) :
    List (TrafficTurn R × Traffic) :=
  History.moments (serve provider) { circuit := { now := start } } turns

/-- **A finished probe decides the circuit.**  After any sequence of turns, the end of a call that
was admitted as a probe of the present episode closes the circuit if the PSP answered and opens it
if the request threw, provided that its operation reports a success or its request threw.  And
where every call ends within the time of recovery, a half-open circuit is closed by nothing but the
end of such a probe. -/
theorem probe_decides (provider : PSPProvider) (start : Nat) (turns : List (TrafficTurn R)) :
    (∀ (i : Nat) (call : Call) (exchange : Exchange R) (waits : List Nat),
        (trafficAfter provider start turns).inFlight[i]? = some call →
        call.ProbeOf (trafficAfter provider start turns).circuit →
        provider.recordsSuccess call.operation = true ∨ exchange.isAnswered = false →
        ((finish i exchange waits).serve provider
          (trafficAfter provider start turns)).circuit.DecidedBy exchange) ∧
      ((∀ moment ∈ trafficMoments provider start turns, moment.1.Prompt moment.2) →
        ∀ moment ∈ trafficMoments provider start turns, moment.2.circuit.stored = .HALF_OPEN →
          (moment.1.serve provider moment.2).circuit.stored = .CLOSED →
          moment.1.EndsProbe moment.2) := by
  have hsound : (trafficAfter provider start turns).Sound :=
    History.keeps (I := Traffic.Sound) _ (fun turn _ hs (_ : True) => hs.serve turn)
      (traffic_start start) turns fun _ _ => trivial
  refine ⟨fun i call exchange waits => hsound.decided exchange waits, fun hprompt => ?_⟩
  -- along the history, the calls stand where they should at every moment
  refine (History.induct (serve provider)
    (fun past s => (∀ moment ∈ past, moment.2.circuit.stored = .HALF_OPEN →
      (moment.1.serve provider moment.2).circuit.stored = .CLOSED →
      moment.1.EndsProbe moment.2) ∧ s.Sound)
    (fun past => ∀ moment ∈ past, moment.1.Prompt moment.2)
    (fun past moment h m hm => h m (List.mem_append_left _ hm))
    ⟨fun moment hmem => absurd hmem List.not_mem_nil, traffic_start start⟩ ?_ turns hprompt).1
  rintro past turn s ⟨hpast, hs⟩ hprompt
  refine ⟨List.forall_mem_append.2 ⟨hpast, List.forall_mem_singleton.2 ?_⟩, hs.serve turn⟩
  exact hs.endsProbe (hprompt _ (List.mem_append_right _ (List.mem_singleton.2 rfl)))

namespace Sample

/-- The PSP fails. -/
def serverFault : Exchange Unit := .rejected 500 none (.ok ())

/-- The PSP accepts. -/
def approval : Exchange Unit := .answered () (.ok ())

/-- Five charges that fail, with `i` calls in flight before them. -/
def failingCharges (i : Nat) : List (TrafficTurn Unit) :=
  (List.replicate 5 [.start .charge [], .finish i serverFault []]).flatten

/-- A probe, after the circuit has opened and the time of recovery has passed. -/
def probing (operation : PspOperation) : List (TrafficTurn Unit) :=
  failingCharges 0 ++ [.pass 30001, .start operation []]

end Sample

open Sample in
/-- A charge is the probe, and is accepted. -/
theorem probe_decides_charge :
    ((finish 0 approval []).serve .STRIPE
        (trafficAfter .STRIPE 1000 (probing .charge))).circuit.DecidedBy approval ∧
      ∀ moment ∈ trafficMoments .STRIPE 1000 (probing .charge ++ [.finish 0 approval []]),
        moment.2.circuit.stored = .HALF_OPEN →
        (moment.1.serve .STRIPE moment.2).circuit.stored = .CLOSED →
        moment.1.EndsProbe moment.2 := by
  refine ⟨(probe_decides .STRIPE 1000 (probing .charge)).1 0 ⟨.charge, 31001, 1, true⟩ approval []
    (by decide +kernel) ⟨rfl, by decide +kernel⟩ (.inl rfl), ?_⟩
  exact (probe_decides .STRIPE 1000 (probing .charge ++ [.finish 0 approval []])).2
    (by decide +kernel)

namespace Sample

/-- The circuit after a probe that was answered. -/
def answeredProbe (provider : PSPProvider) (operation : PspOperation) : Circuit :=
  (trafficAfter provider 1000 (probing operation ++ [.finish 0 approval []])).circuit

/-- A charge is in flight from before the opening; then a probe is. -/
def lateCharge : Traffic :=
  trafficAfter .STRIPE 1000
    ([.start .charge []] ++ failingCharges 1 ++ [.pass 30001, .start .queryOutcome []])

end Sample

open Sample in
/-- After an answered capture or cancellation, or a refund with Adyen, the circuit is left half-open
with the trial spent.  And a charge that was admitted before the circuit opened closes it, while the
probe is still in flight. -/
theorem probe_undecided :
    ([(.STRIPE, .capture), (.STRIPE, .cancel), (.ADYEN, .refund), (.ADYEN, .capture),
        (.ADYEN, .cancel)] : List (PSPProvider × PspOperation)).map
          (fun call => ((answeredProbe call.1 call.2).stored,
            (answeredProbe call.1 call.2).count .halfOpenTrialCount)) =
        List.replicate 5 (.HALF_OPEN, halfOpenTrialCalls) ∧
      lateCharge.circuit.stored = .HALF_OPEN ∧
      lateCharge.inFlight = [⟨.charge, 1000, 0, false⟩, ⟨.queryOutcome, 31001, 1, true⟩] ∧
      ((finish 0 approval []).serve .STRIPE lateCharge).circuit.stored = .CLOSED := by
  refine ⟨?_, ?_, ?_, ?_⟩ <;> decide +kernel

end OmniSwitch
