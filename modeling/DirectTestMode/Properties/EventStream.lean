import DirectTestMode.Machine.Records
import DirectTestMode.Properties.Completion

/-!
# The events of the HCI transport

An event whose length octet is the length of its parameters is an `Event`. A receiver that takes
packets apart by their headers, `evtReader`, finds the events of a stream again
(`Event.read_packets`). Everything that a command hands to the UART is such an event, a Command
Complete event with the opcode of the command: `dtmTrProcess_answers`.

A command that comes to its end hands over just one event, and the transmit queue is changed by this
one write: `dtmTrProcess_event`.

## Format, program, run

The three sections prove three kinds of things, and each uses the one before.

* **Format.** `Event` carries its well-formedness as a field, so that the round trip needs no
  hypothesis. `evtFraming` instantiates `Machine.Records` at the packets that a controller sends;
  the reader drops octets that begin no event, as a tester would that joins late.
* **Program.** What a handler can hand over is read off its text (`Prog.Issues`): whatever was
  received and whatever the library answers, a write is that of a Command Complete event. This says
  nothing of how many there are.
* **Run.** How many is `Properties.Completion`: a handler that came to its end was stopped by no
  assertion, and so completed with exactly one. `run_tx` adds that nothing but the writes changes
  the queue, which is what takes the one event from the program's text to the state of the host.

Both streams of the tester are read with the same machine, the commands in `Properties.H4Stream` and
the events here; `Properties.HciWire` puts them together.
-/

namespace DirectTestMode

open Fallible

namespace Hci

/-! ### The format -/

/-- An event of the controller: its code and its parameters. -/
structure Event where
  evt : UInt8
  pld : List UInt8
  length_pld : pld.length < 256

namespace Event

def header (e : Event) : List UInt8 := [e.evt, UInt8.ofNat e.pld.length]

/-- The event on the wire. -/
def packet (e : Event) : List UInt8 := h4TypeEvt :: (e.header ++ e.pld)

/-- The event as a receiver finds it. -/
def record (e : Event) : UInt8 × List UInt8 := (h4TypeEvt, e.header ++ e.pld)

end Event

/-- The packets that the controller sends. -/
def evtFraming : Framing where
  accepts type := type == h4TypeEvt
  hdrLen _ := 2
  pldLen _ hdr := (hdr 1).toNat
  congr h := congrArg UInt8.toNat (h 1 Nat.one_lt_two)

/-- The events of a stream. -/
def evtReader : RecordReader UInt8 (UInt8 × List UInt8) := evtFraming.reader

namespace Event

/-- What is on the wire is read as the event. -/
theorem next_packet (e : Event) :
    evtReader.next e.packet = some (some e.record, []) := by
  show evtFraming.next (h4TypeEvt :: (e.header ++ e.pld)) = _
  refine Framing.next_packet rfl ?_
  rw [List.length_append]
  show 2 + e.pld.length = 2 + (UInt8.ofNat e.pld.length).toNat
  rw [UInt8.toNat_ofNat_of_lt' e.length_pld]

/-- **The round trip of the events.** -/
theorem read_packets (es : List Event) :
    evtReader.read (es.flatMap packet) = (es.map record, []) := by
  induction es with
  | nil => exact RecordReader.read_none rfl
  | cons e es ih =>
    rw [List.flatMap_cons, RecordReader.read_encode e.next_packet, ih]
    rfl

end Event

/-- The opcode in a Command Complete event. -/
def eventOpcode (p : UInt8 × List UInt8) : Option UInt16 :=
  if p.2.getD 0 0 = 0x0E then
    some ((p.2.getD 3 0).toUInt16 ||| ((p.2.getD 4 0).toUInt16 <<< 8))
  else none

/-- The parameters of an LE Meta event. -/
def eventReport (p : UInt8 × List UInt8) : Option (List UInt8) :=
  if p.2.getD 0 0 = 0x3E then some (p.2.drop 2) else none

/-- A Command Complete event with its return parameters. -/
structure CcEvent where
  opcode : UInt16
  ret : List UInt8
  length_ret : ret.length ≤ 9

namespace CcEvent

def payload (e : CcEvent) : List UInt8 := 1 :: (le16 e.opcode ++ e.ret)

theorem length_payload (e : CcEvent) : e.payload.length = 3 + e.ret.length := by
  simp only [payload, le16, List.length_cons, List.length_append, List.length_nil]
  omega

def event (e : CcEvent) : Event where
  evt := 0x0E
  pld := e.payload
  length_pld := by
    have hret := e.length_ret
    rw [e.length_payload]
    omega

theorem eventOpcode_record (e : CcEvent) : eventOpcode e.event.record = some e.opcode :=
  congrArg some (UInt16.low_or_high e.opcode)

/-- It is no report. -/
theorem eventReport_record (e : CcEvent) : eventReport e.event.record = none := rfl

end CcEvent

/-! ### What is handed over -/

/-- What the operation hands to the UART, if anything, is a Command Complete event. -/
def AnswerOp (op : TransportOp) : Prop :=
  ∀ type hdr pld, op = .uartWrite type hdr pld →
    ∃ e : CcEvent, type = h4TypeEvt ∧ hdr = e.event.header ∧ pld = e.event.pld

/-- A call that hands nothing to the UART hands nothing wrong to it. -/
theorem AnswerOp.of_silent {op : TransportOp} (h : Silent op) : AnswerOp op :=
  fun type hdr pld heq ↦ (h type hdr pld heq).elim

/-- The event of a handler has its length in its header, since no handler returns more than nine
octets. -/
theorem ccEvt_answers {opcode : UInt16} {ret : List UInt8} (hret : ret.length ≤ 9) :
    (ccEvt opcode ret).Issues AnswerOp := by
  refine Prog.issues_perform.2 ?_
  intro type hdr pld heq
  cases heq
  exact ⟨⟨opcode, ret, hret⟩, rfl, rfl, rfl⟩

/-- A handler that finds its return parameters in silence. -/
theorem answers_bind {α : Type} {p : Prog transport α} (hp : p.Issues Silent) {opcode : UInt16}
    (ret : α → List UInt8) (hret : ∀ a, (ret a).length ≤ 9) :
    (p >>= fun a ↦ ccEvt opcode (ret a)).Issues AnswerOp :=
  (hp.mono fun _ h ↦ .of_silent h).bind fun a ↦ ccEvt_answers (hret a)

theorem hciRxTest_answers (op : HciOp) (data : ℕ → UInt8) :
    (hciRxTest op data).Issues AnswerOp := by
  rw [hciRxTest]
  rcases rxParams op data with - | p
  · trivial
  · exact answers_bind (rxTestStatus_silent p) (fun status ↦ [status]) fun _ ↦ by simp

theorem hciTxTest_answers (op : HciOp) (data : ℕ → UInt8) :
    (hciTxTest op data).Issues AnswerOp := by
  rw [hciTxTest]
  rcases txParams op data with - | p
  · trivial
  · exact answers_bind (txTestStatus_silent p) (fun status ↦ [status]) fun _ ↦ by simp

theorem hciReset_answers : hciReset.Issues AnswerOp := by
  have hevt (status : UInt8) : (baseCcEvt HciOp.reset.code status).Issues AnswerOp :=
    ccEvt_answers (by simp)
  refine Prog.Issues.bind (p := Transport.setupReset) ?_ fun err ↦ ?_
  · exact (silent_dtm .setupReset).mono fun _ h ↦ .of_silent h
  · exact Prog.issues_ite ((hevt _).bind fun _ ↦ hevt _) (hevt _)

/-- **Every packet for the UART is a Command Complete event**, whatever was received and whatever
the library answers. -/
theorem dtmTrProcess_answers (type : UInt8) (buf : ℕ → UInt8) :
    (dtmTrProcess type buf).Issues AnswerOp := by
  rw [dtmTrProcess]
  refine Prog.issues_ite ?_ trivial
  rw [hciCmd]
  rcases HciOp.ofCode _ with - | op
  · exact (ccEvt_answers (by simp)).bind fun _ ↦ trivial
  · cases op with
    | reset => exact hciReset_answers
    | readBdAddr => exact ccEvt_answers (by decide)
    | leReadLocalFeatures =>
      exact answers_bind (p := Transport.setupReadFeatures) (silent_dtm .setupReadFeatures)
        (fun features ↦ errSuccess :: hciFeatures features) fun _ ↦ by simp [hciFeatures]
    | leTestEnd =>
      exact answers_bind (p := Transport.testEnd) (silent_dtm (.testEnd true))
        (fun cnt ↦ (testEndAnswer cnt).1 :: le16 (testEndAnswer cnt).2) fun _ ↦ by simp [le16]
    | leRxTest | leEnhRxTest | leRxTestV3 => exact hciRxTest_answers _ _
    | leTxTest | leEnhTxTest | leTxTestV3 | leTxTestV4 => exact hciTxTest_answers _ _

end Hci

open Hci

variable {b : Build} {q : ℕ} {h : Host}

/-! ### One command -/

/-- A handler that came to its end was not stopped. -/
theorem Completes.of_run {opcode : UInt16} {α : Type} {p : Prog transport α} (hp : p.Issues Silent)
    (ret : α → List UInt8) {x : Ret × Host}
    (hx : (p >>= fun a ↦ Hci.ccEvt opcode (ret a)).run (hostHandler b q) h = .ok x) :
    Completes b q opcode (p >>= fun a ↦ Hci.ccEvt opcode (ret a)) h := by
  refine (Completes.status_iff hp ret).2 fun hstops ↦ ?_
  obtain ⟨e, he⟩ := hstops.bind (k := fun a ↦ Hci.ccEvt opcode (ret a))
  cases hx.symm.trans he

/-- **A command that came to its end has been answered once.** -/
theorem hciCmd_completes_of_run (hs : h.device.OnTable b) (opcode : UInt16) {data : ℕ → UInt8}
    {x : Ret × Host} (hx : (hciCmd opcode data).run (hostHandler b q) h = .ok x) :
    Completes b q opcode (hciCmd opcode data) h := by
  rw [hciCmd] at hx ⊢
  rcases hop : HciOp.ofCode opcode with - | op
  · exact ⟨⟨_, rfl⟩, [errUnknownCmd], rfl⟩
  · rw [hop] at hx
    rw [← HciOp.code_of_ofCode hop]
    cases op with
    | reset =>
      have hreset : hciReset.run (hostHandler b q) h = .ok x := hx
      rw [hciReset, Prog.run_bind] at hreset
      obtain ⟨y, hy, -⟩ := bind_eq_ok.1 hreset
      refine (hciReset_completes hs).2 fun hfault ↦ ?_
      obtain ⟨z, hz, -⟩ := perform_dtm_ok hy
      cases (dtmSetupReset_error.2 ⟨rfl, hfault⟩).symm.trans hz
    | readBdAddr => exact .ccEvt _ _
    | leReadLocalFeatures => exact hciReadLocalFeatures_completes
    | leTestEnd => exact hciTestEnd_completes
    | leRxTest | leEnhRxTest | leRxTestV3 =>
      exact Completes.of_run (rxTestStatus_silent _) (fun status ↦ [status]) hx
    | leTxTest | leEnhTxTest | leTxTestV3 | leTxTestV4 =>
      exact Completes.of_run (txTestStatus_silent _) (fun status ↦ [status]) hx

/-- What an operation does to the transmit queue. -/
def TxQueue.after (q : ℕ) (tx : TxQueue) (op : TransportOp) : TxQueue :=
  match op with
  | .uartWrite type hdr pld => (hciUartWrite q type hdr pld tx).2
  | .dtm _ | .patternStore _ _ => tx

/-- The transmit queue is changed by the writes and by nothing else. -/
theorem run_tx {α : Type} {p : Prog transport α} {x : α × Host}
    (hx : p.run (hostHandler b q) h = .ok x) :
    x.2.tx = (uartWrites b q p h).foldl (TxQueue.after q) h.tx := by
  let after (tx : TxQueue) (op : transport.Op) : TxQueue := TxQueue.after q tx op
  have hop (op : transport.Op) (h : Host) (x : transport.Res op × Host)
      (hx : hostHandler b q op h = .ok x) : x.2.tx = after h.tx op := by
    cases op with
    | dtm c | patternStore pattern src =>
      obtain ⟨z, -, hx⟩ := bind_eq_ok.1 hx
      cases hx
      rfl
    | uartWrite type hdr pld =>
      cases hx
      rfl
  have hfilter : (fun tx (op : transport.Op) ↦ if TransportOp.isWrite op then after tx op else tx) =
      after := by
    funext tx op
    cases op <;> rfl
  have hwrites : (uartWrites b q p h).foldl after h.tx =
      (p.calls (hostHandler b q) h).foldl
        (fun tx (op : transport.Op) ↦ if TransportOp.isWrite op then after tx op else tx) h.tx :=
    List.foldl_filter
  rw [hfilter] at hwrites
  exact (Prog.calls_foldl hop hx).trans hwrites.symm

/-- **The event of a command.** A command that comes to its end writes one event to the UART, with
its opcode, and nothing else. -/
theorem dtmTrProcess_event (hs : h.device.OnTable b) {buf : ℕ → UInt8} {x : Ret × Host}
    (hx : (dtmTrProcess h4TypeCmd buf).run (hostHandler b q) h = .ok x) :
    ∃ e : CcEvent, e.opcode = cmdOpcode buf ∧
      x.2.tx = (hciUartWrite q h4TypeEvt e.event.header e.event.pld h.tx).2 := by
  have hcompletes := hciCmd_completes_of_run hs (cmdOpcode buf) hx
  obtain ⟨ret, hevents⟩ := hcompletes.events
  have hmem : ccEvtOp (cmdOpcode buf) ret ∈
      uartWrites b q (hciCmd (cmdOpcode buf) fun i ↦ buf (3 + i)) h := by
    rw [hevents]
    exact List.mem_singleton_self _
  -- the event has the parameters of one of the handlers
  obtain ⟨e, -, -, hpld⟩ := (dtmTrProcess_answers h4TypeCmd buf).calls _
    (List.mem_of_mem_filter hmem) _ _ _ rfl
  have hpld : _ = e.payload := hpld
  have hlen := congrArg List.length hpld
  rw [e.length_payload] at hlen
  have hret : ret.length ≤ 9 := by
    have he := e.length_ret
    simp only [le16, List.length_cons, List.length_append, List.length_nil] at hlen
    omega
  refine ⟨⟨cmdOpcode buf, ret, hret⟩, rfl, ?_⟩
  have htx : x.2.tx = (uartWrites b q (hciCmd (cmdOpcode buf) fun i ↦ buf (3 + i)) h).foldl
      (TxQueue.after q) h.tx := run_tx hx
  rw [hevents] at htx
  exact htx

end DirectTestMode
