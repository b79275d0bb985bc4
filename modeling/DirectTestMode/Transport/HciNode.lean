import DirectTestMode.Transport.HciIqReport
import DirectTestMode.Transport.HciUartTx
import DirectTestMode.Transport.HciSystem

/-!
# The HCI transport from wire to wire

`HciNode` is the device on one core with both sides of its UART: the callback that fills receive
buffers, the main thread, the transmit thread and the callback for the end of a transfer, the
library and its interrupts. They run in any order. The interrupt of the radio has its own way to the
transmit queue: the library calls `iq_report_evt` from within it, and the event is written there.

## What a step is

A step is as much as can run without another party getting a word in. The main thread has two steps,
`dtm_tr_get` and `dtm_tr_process`, and so has the transmit thread, since a window of octets or an
interrupt may come between them. An interrupt of the radio is one step with everything the callback
does, because nothing else runs before it returns. `HciNode.Stepped` says what a step can do, input
by input, and the invariants of the node are proved by cases on it.

## The view of a writer

A writer sees of the transmit side how many buffers are free and what it has written, and with this
view a program of the main thread runs on the node as it does on the `Host`: `run_host`. This is
what makes the results about a program on a host results about the node. The view is exact
(`hciUartWrite_host`) and not an approximation: a refused write is refused on both sides for the
same reason.

## Memory that nobody has written

`iq_report_evt` may read behind the samples and starts from an uninitialised buffer. What it finds
there is part of the input (`IqMemory`), so a result about all runs is one whatever it finds.
-/

namespace DirectTestMode

open Fallible HciUart
open DirectTestMode.Hci (h4TypeEvt)

variable {n : ℕ}

/-- The receive side, the main thread, the device and the transmit side. -/
structure HciNode (n : ℕ) where
  rx : HciRx n
  /-- The buffer that `dtm_tr_get` has returned and `dtm_tr_process` is not done with. -/
  cmd : Option (Fin n)
  device : Device
  tx : HciTx n

/-- What `iq_report_evt` finds in memory that nobody has written: the words behind the samples, and
its own buffer. -/
structure IqMemory where
  stray : ℕ → UInt32
  buf : Hci.IqBuffer

/-- What can happen to the node. -/
inductive HciNodeInput
  /-- The UART hands over a window. -/
  | uartRx (w : RxWindow)
  /-- The main thread calls `dtm_tr_get`. -/
  | get
  /-- The main thread calls `dtm_tr_process`. -/
  | process
  /-- `net_buf_get` of `tx_thread`. -/
  | txGet
  /-- `uart_tx` of `tx_thread`. -/
  | txSend
  | txDone
  | txAborted
  | radio (ev : RadioEvent) (mem : IqMemory)
  | anomaly (ev : AnomalyEvent)

/-- The meaning of the operations on the device and the transmit side. -/
def nodeHandler (b : Build) (q : ℕ) : transport.Handler (Device × HciTx n) Fault
  | .dtm c, s => do
    let x ← api b c s.1
    pure (x.1, (x.2, s.2))
  | .patternStore pattern src, s => do
    let patterns ← patternStore pattern src s.1.patterns
    pure ((), ({ s.1 with patterns := patterns }, s.2))
  | .uartWrite type hdr pld, s =>
    let x := s.2.hciUartWrite q type hdr pld
    .ok (x.1, (s.1, x.2))

/-- `iq_report_evt`, up to its return, on a report that the library makes. -/
def iqReportEvt (q : ℕ) (mem : IqMemory) (tx : HciTx n) (report : CodePtr × DtmIqData) :
    Except Fault (HciTx n) := do
  let evt ← Hci.iqReport (.ofReport mem.stray report.2) mem.buf
  pure (evt.elim tx fun evt ↦ (tx.hciUartWrite q h4TypeEvt [evt.evt, evt.len] evt.pld).2)

namespace HciNode

/-- `dtm_tr_get`; with an empty queue the main thread goes on waiting. -/
def dtmTrGet (s : HciNode n) : HciNode n :=
  match s.cmd, s.rx.queue with
  | none, i :: queue => { s with cmd := some i, rx := { s.rx with queue := queue } }
  | _, _ => s

/-- `dtm_tr_process` on the buffer that the main thread has. -/
def dtmTrProcess (b : Build) (q : ℕ) (s : HciNode n) : Except Fault (HciNode n) :=
  match s.cmd with
  | none => .ok s
  | some i => do
    let buf := s.rx.pool.block i
    let x ← (Hci.dtmTrProcess buf.userData buf.mem).run (nodeHandler b q) (s.device, s.tx)
    pure
      { cmd := none
        device := x.2.1
        tx := x.2.2
        rx := { s.rx with pool := if buf.isCmd then s.rx.pool.release i else s.rx.pool } }

/-- An interrupt of the radio, and the events of the reports that the library makes in it. -/
def reportingIrq (b : Build) (q : ℕ) (s : HciNode n) (ev : RadioEvent) (mem : IqMemory) :
    Except Fault (HciNode n) := do
  let device ← s.device.step b (.radio ev)
  let tx ← (device.iqReports.drop s.device.iqReports.length).foldlM (iqReportEvt q mem) s.tx
  pure { s with device := device, tx := tx }

/-- An interrupt of the anomaly timer. -/
def anomalyIrq (b : Build) (s : HciNode n) (ev : AnomalyEvent) : Except Fault (HciNode n) := do
  let device ← s.device.step b (.anomaly ev)
  pure { s with device := device }

/-- The end of a transfer. -/
def uartCb (s : HciNode n) : Except Fault (HciNode n) := do
  let tx ← s.tx.uartCb
  pure { s with tx := tx }

/-- One input. The faults of the parser and those of the device are told apart. -/
def step (b : Build) (q : ℕ) (s : HciNode n) : HciNodeInput → Except HciFault (HciNode n)
  | .uartRx w =>
    match uartRxRdy q s.rx w with
    | .ok rx => .ok { s with rx := rx }
    | .error e => .error (.rx e)
  | .get => .ok s.dtmTrGet
  | .process => (s.dtmTrProcess b q).mapError .device
  | .txGet => .ok { s with tx := s.tx.txThreadGet }
  | .txSend => .ok { s with tx := s.tx.txThreadSend }
  | .txDone | .txAborted => s.uartCb.mapError .device
  | .radio ev mem => (s.reportingIrq b q ev mem).mapError .device
  | .anomaly ev => (s.anomalyIrq b ev).mapError .device

/-- The node in which the transport starts. -/
structure Initial (b : Build) (s : HciNode n) : Prop where
  rx : s.rx = .powerOn n
  cmd : s.cmd = none
  device : Initialised b s.device
  tx : s.tx.Initial

variable {b : Build} {q : ℕ}

/-! ### What a step can do -/

/-- The step of the transmit side that an input is. -/
def txInput : HciNodeInput → Option TxInput
  | .txGet => some .get
  | .txSend => some .send
  | .txDone => some .txDone
  | .txAborted => some .txAborted
  | _ => none

/-- **What a step does**, input by input. -/
inductive Stepped (b : Build) (q : ℕ) (s : HciNode n) : HciNodeInput → HciNode n → Prop
  | uartRx {w : RxWindow} {rx : HciRx n} (hrx : uartRxRdy q s.rx w = .ok rx) :
      Stepped b q s (.uartRx w) { s with rx := rx }
  | wait : Stepped b q s .get s
  | get {j : Fin n} {queue : List (Fin n)} (hcmd : s.cmd = none)
      (hqueue : s.rx.queue = j :: queue) :
      Stepped b q s .get { s with cmd := some j, rx := { s.rx with queue := queue } }
  | nothing (hcmd : s.cmd = none) : Stepped b q s .process s
  | process {j : Fin n} (hcmd : s.cmd = some j) {x : Ret × Device × HciTx n}
      (hx : (Hci.dtmTrProcess (s.rx.pool.block j).userData (s.rx.pool.block j).mem).run
        (nodeHandler b q) (s.device, s.tx) = .ok x) :
      Stepped b q s .process
        { cmd := none
          device := x.2.1
          tx := x.2.2
          rx := { s.rx with
            pool := if (s.rx.pool.block j).isCmd then s.rx.pool.release j else s.rx.pool } }
  | tx {i : HciNodeInput} {j : TxInput} (hj : txInput i = some j) {tx : HciTx n}
      (htx : s.tx.step q j = .ok tx) : Stepped b q s i { s with tx := tx }
  | radio {ev : RadioEvent} {mem : IqMemory} {device : Device} {tx : HciTx n}
      (hdevice : s.device.step b (.radio ev) = .ok device)
      (htx : (device.iqReports.drop s.device.iqReports.length).foldlM (iqReportEvt q mem) s.tx =
        .ok tx) :
      Stepped b q s (.radio ev mem) { s with device := device, tx := tx }
  | anomaly {ev : AnomalyEvent} {device : Device}
      (hdevice : s.device.step b (.anomaly ev) = .ok device) :
      Stepped b q s (.anomaly ev) { s with device := device }

/-- **A step is one of these.** The invariants of the node are proved by cases on it. -/
theorem stepped {s s' : HciNode n} {i : HciNodeInput} (h : s.step b q i = .ok s') :
    s.Stepped b q i s' := by
  cases i with
  | uartRx w =>
    rw [step] at h
    split at h
    · cases h
      exact .uartRx ‹_›
    · cases h
  | get =>
    cases h
    rw [dtmTrGet]
    split
    · exact .get ‹_› ‹_›
    · exact .wait
  | process =>
    have h := HciSystem.mapError_eq_ok.1 h
    rw [dtmTrProcess] at h
    split at h
    · cases h
      exact .nothing ‹_›
    · obtain ⟨x, hx, h⟩ := bind_eq_ok.1 h
      cases h
      exact .process ‹_› hx
  | txGet =>
    cases h
    exact .tx (j := .get) rfl rfl
  | txSend =>
    cases h
    exact .tx (j := .send) rfl rfl
  | txDone =>
    obtain ⟨tx, htx, h⟩ := bind_eq_ok.1 (HciSystem.mapError_eq_ok.1 h)
    cases h
    exact .tx (j := .txDone) rfl htx
  | txAborted =>
    obtain ⟨tx, htx, h⟩ := bind_eq_ok.1 (HciSystem.mapError_eq_ok.1 h)
    cases h
    exact .tx (j := .txAborted) rfl htx
  | radio ev mem =>
    obtain ⟨device, hdevice, h⟩ := bind_eq_ok.1 (HciSystem.mapError_eq_ok.1 h)
    obtain ⟨tx, htx, h⟩ := bind_eq_ok.1 h
    cases h
    exact .radio hdevice htx
  | anomaly ev =>
    have h : s.anomalyIrq b ev = .ok s' := HciSystem.mapError_eq_ok.1 h
    obtain ⟨device, hdevice, h⟩ := bind_eq_ok.1 h
    cases h
    exact .anomaly hdevice

/-! ### The view of a writer -/

/-- What a writer sees of the transmit side. -/
def host (s : Device × HciTx n) : Host := ⟨s.1, ⟨s.2.pool.free.length, s.2.written⟩⟩

/-- **The view of a writer is exact**: what a write returns, and what it leaves, can be told from
the free buffers and the packets written. -/
theorem hciUartWrite_host (s : Device × HciTx n) (type : UInt8) (hdr pld : List UInt8) :
    ((s.2.hciUartWrite q type hdr pld).1, (host (s.1, (s.2.hciUartWrite q type hdr pld).2)).tx) =
      hciUartWrite q type hdr pld (host s).tx := by
  rw [HciTx.hciUartWrite, hciUartWrite]
  rcases halloc : s.2.pool.alloc with - | ⟨i, pool⟩
  · have hfree : (host s).tx.free = 0 := List.length_eq_zero_iff.2 (Pool.alloc_eq_none.1 halloc)
    rw [if_pos hfree]
  · have hlen : (host s).tx.free = pool.free.length + 1 := by
      rw [host, (Pool.alloc_eq_some.1 halloc).1, List.length_cons]
    rw [if_neg (by omega)]
    simp only
    split_ifs
    · rw [host, Pool.release_free, List.length_cons, ← hlen]
      rfl
    · rw [hlen]
      simp [host]

/-- An operation on the node is the operation on the view. -/
theorem nodeHandler_host (op : transport.Op) (s : Device × HciTx n) :
    (nodeHandler b q op s).map (fun x ↦ (x.1, host x.2)) = hostHandler b q op (host s) := by
  cases op with
  | dtm c =>
    show (api b c s.1 >>= _).map _ = api b c s.1 >>= _
    rcases api b c s.1 with e | x <;> rfl
  | patternStore pattern src =>
    show (patternStore pattern src s.1.patterns >>= _).map _ =
      patternStore pattern src s.1.patterns >>= _
    rcases patternStore pattern src s.1.patterns with e | x <;> rfl
  | uartWrite type hdr pld =>
    have h := hciUartWrite_host (q := q) s type hdr pld
    show Except.ok _ = Except.ok _
    rw [← h]
    rfl

/-- **A program on the node is the program on the view.** It is the simulation rule of programs,
from one operation to all. -/
theorem run_host {α : Type} (p : Prog transport α) (s : Device × HciTx n) :
    (p.run (nodeHandler b q) s).map (fun x ↦ (x.1, host x.2)) = p.run (hostHandler b q) (host s) :=
  Prog.run_map nodeHandler_host p s

/-- An IQ report on the node is one on the view. -/
theorem iqReportEvt_host (mem : IqMemory) (s : Device × HciTx n) (report : CodePtr × DtmIqData) :
    (iqReportEvt q mem s.2 report).map (fun tx ↦ (host (s.1, tx)).tx) =
      Hci.iqReportEvt q (.ofReport mem.stray report.2) mem.buf (host s).tx := by
  rw [iqReportEvt, Hci.iqReportEvt]
  rcases Hci.iqReport (.ofReport mem.stray report.2) mem.buf with e | evt
  · rfl
  · cases evt with
    | none => rfl
    | some evt =>
      show Except.ok _ = Except.ok _
      rw [Option.elim_some, Option.elim_some, ← hciUartWrite_host]

end HciNode

end DirectTestMode
