import DirectTestMode.Properties.CommandStream
import DirectTestMode.Properties.Transmit

/-!
# Commands on one wire, events on the other

A tester sees two streams of octets. It sends packets on one of them and takes apart what comes on
the other. Between the two are a parser, two pools of buffers, two queues, three threads of control,
the library and its interrupts, in any interleaving.

In every run what the UART accepts is whole events. Those that reply to commands do so in the order
of the commands, and none of these is replied to twice (`replies_in_order`); those that report IQ
samples hold what the library has reported, in its order (`reports_in_order`). An event may be
missing: `hci_uart_write` finds no buffer, or `tx_thread` meets a busy UART. Where neither happens,
and nothing is left to do, every command has its reply and every report its event (`one_reply_each`,
`one_report_each`).

## What the results rest on

The node is two machines side by side, and a result about it is two results joined at the list of
packets **written**.

* Up to that list, `run_written`: the receive side delivers the packets of the stream in order
  (`Properties.CommandStream`), the handlers write one event for a command
  (`Properties.EventStream`), an interrupt at most one for a report. The list of events is the
  witness of the whole argument, and `replies_in_order` ends with it: `accepted` is `es` on the
  wire.
* From that list on, `run_tx`: whatever the node does, its transmit side takes a run of `HciTx`, so
  that the invariant `Keeping` and the results of `Properties.Transmit` apply. What was accepted is
  a sublist of what was written; it is all of it when the thread waits for the UART.

The reader of the second stream skips what is no event, as a tester may. That nothing had to be
skipped is not in its answer, and is stated of the packets themselves.

## Room and idleness

`HasRoom`, `HasReportRoom` and `SendsIdle` are conditions on the state before a step, and the two
exact results ask for them along the run. They are about the schedule and not about the data: with
enough buffers, and a thread that waits, they hold whatever the host sends.
-/

namespace DirectTestMode

open Fallible HciUart

variable {n q : ℕ} {b : Build}

/-! ### The transmit side in any run -/

namespace HciUart.HciTx

/-- A write that finds a buffer with room for it. -/
theorem hciUartWrite_alloc {size : ℕ} {type : UInt8} {hdr pld : List UInt8} {s : HciTx n}
    {i : Fin n} {pool : Pool (Fin n) (TxBuf n)} (halloc : s.pool.alloc = some (i, pool))
    (hsize : pld.length + hdr.length + 1 + 4 ≤ size) :
    (s.hciUartWrite size type hdr pld).2 = { s with
      pool := pool.write i ⟨some i, type :: (hdr ++ pld)⟩
      queue := s.queue ++ [i]
      written := s.written ++ [type :: (hdr ++ pld)] } := by
  rw [hciUartWrite, halloc]
  exact congrArg Prod.snd (if_neg (Nat.not_lt.2 hsize))

/-- What was accepted and what still waits was written, in this order; no buffer is in two places,
and one in use is found by its pointer. -/
structure Keeping (s : HciTx n) : Prop where
  sent : (s.accepted ++ s.waiting.map fun i ↦ (s.pool.block i).packet).Sublist s.written
  nodup : (s.pool.free ++ s.held).Nodup
  self : ∀ i ∈ s.held, (s.pool.block i).self = some i

variable {s s' : HciTx n}

theorem Initial.keeping (hs : s.Initial) : s.Keeping := by
  have h := hs.delivering
  refine ⟨?_, h.conserved.nodup, h.self⟩
  rw [h.inOrder]

/-- A write takes a free buffer, which is nowhere else. -/
theorem Keeping.write (hs : s.Keeping) (type : UInt8) (hdr pld : List UInt8) :
    (s.hciUartWrite q type hdr pld).2.Keeping := by
  rw [hciUartWrite]
  rcases halloc : s.pool.alloc with - | ⟨i, pool⟩
  · exact hs
  obtain ⟨hfree, hblock⟩ := Pool.alloc_eq_some.1 halloc
  simp only
  split_ifs
  -- too long: the buffer is back in the pool
  · refine ⟨?_, ?_, ?_⟩
    · simp only [Pool.release_block, hblock]
      exact hs.sent
    · show (i :: pool.free ++ s.held).Nodup
      rw [← hfree]
      exact hs.nodup
    · simp only [Pool.release_block, hblock]
      exact hs.self
  · let t : HciTx n := { s with
      pool := pool.write i ⟨some i, type :: (hdr ++ pld)⟩
      queue := s.queue ++ [i]
      written := s.written ++ [type :: (hdr ++ pld)] }
    have hwaiting : t.waiting = s.waiting ++ [i] := (List.append_assoc _ _ _).symm
    have hheld : t.held = s.held ++ [i] := by
      rw [held, hwaiting, ← List.append_assoc]
      rfl
    have hnodup : (i :: (pool.free ++ s.held)).Nodup := by
      rw [← List.cons_append, ← hfree]
      exact hs.nodup
    -- the new buffer was free, so the packets that wait are not touched
    have hfresh : i ∉ s.held := fun hi ↦
      (List.nodup_cons.1 hnodup).1 (List.mem_append_right _ hi)
    have hnew : i ∉ s.waiting := fun hi ↦ hfresh (List.mem_append_right _ hi)
    refine ⟨?_, ?_, ?_⟩
    · show (s.accepted ++ t.waiting.map _).Sublist (s.written ++ _)
      rw [hwaiting, List.map_append, map_packet_write halloc hnew, ← List.append_assoc]
      refine hs.sent.append ?_
      simp
    · show (pool.free ++ t.held).Nodup
      rw [hheld, ← List.append_assoc]
      exact (List.perm_append_singleton i (pool.free ++ s.held)).nodup_iff.2 hnodup
    · show ∀ j ∈ t.held, _
      rw [hheld]
      intro j hj
      rcases List.mem_append.1 hj with hj | hj
      · rw [Pool.write_block_of_ne _ _ (ne_of_mem_of_not_mem hj hfresh), hblock]
        exact hs.self j hj
      · rw [List.mem_singleton.1 hj, Pool.write_block_self]

/-- The thread takes the first packet of the queue in its hands. -/
theorem Keeping.get (hs : s.Keeping) : s.txThreadGet.Keeping := by
  rw [txThreadGet]
  split
  · rename_i i queue htaken hqueue
    have hwaiting : s.waiting = i :: queue := by
      rw [waiting, htaken, hqueue]
      rfl
    obtain ⟨hsent, hnodup, hself⟩ := hs
    rw [held, hwaiting] at hnodup hself
    rw [hwaiting] at hsent
    exact ⟨hsent, hnodup, hself⟩
  · exact hs

/-- A packet that the thread drops is missing from then on, and the others stay in order. -/
theorem Keeping.send (hs : s.Keeping) : s.txThreadSend.Keeping := by
  rw [txThreadSend]
  split
  · exact hs
  rename_i i htaken
  have hwaiting : s.waiting = i :: s.queue := by
    rw [waiting, htaken]
    rfl
  obtain ⟨hsent, hnodup, hself⟩ := hs
  rw [held, hwaiting] at hnodup hself
  rw [hwaiting] at hsent
  rw [uartTx]
  rcases htransfer : s.transfer with - | j
  -- the UART is idle and takes the packet
  · rw [htransfer] at hnodup hself
    refine ⟨?_, hnodup, hself⟩
    show (s.accepted ++ [(s.pool.block i).packet] ++ s.queue.map _).Sublist s.written
    rw [List.append_assoc]
    exact hsent
  -- the UART is busy: the packet leaves the thread's hands and goes nowhere
  · let t : HciTx n := { s with taken := none }
    show t.Keeping
    rw [htransfer] at hnodup hself
    have hsub : (j :: s.queue).Sublist (j :: i :: s.queue) :=
      (List.sublist_cons_self i s.queue).cons_cons j
    have hheld : t.held = j :: s.queue := by
      rw [held, show t.transfer = some j from htransfer]
      rfl
    refine ⟨?_, ?_, ?_⟩
    · exact ((List.sublist_cons_self _ _).append_left s.accepted).trans hsent
    · rw [hheld]
      exact (hsub.append_left s.pool.free).nodup hnodup
    · rw [hheld]
      exact fun k hk ↦ hself k (hsub.subset hk)

/-- The buffer that the UART is done with is the one that its pointer names, and goes back to the
pool. -/
theorem Keeping.uartCb (hs : s.Keeping) (h : s.uartCb = .ok s') : s'.Keeping := by
  rw [HciTx.uartCb] at h
  rcases htransfer : s.transfer with - | i
  · rw [htransfer] at h
    cases h
    exact hs
  have hheld : s.held = i :: s.waiting := by
    rw [held, htransfer]
    rfl
  obtain ⟨hsent, hnodup, hself⟩ := hs
  rw [hheld] at hnodup hself
  rw [htransfer] at h
  simp only [hself i List.mem_cons_self] at h
  cases h
  refine ⟨hsent, ?_, fun j hj ↦ hself j (List.mem_cons_of_mem i hj)⟩
  exact List.perm_middle.nodup_iff.1 hnodup

/-- **The invariant of the transmit side** is kept by each of its inputs. -/
theorem Keeping.step (hs : s.Keeping) {i : TxInput} (h : s.step q i = .ok s') : s'.Keeping := by
  cases i with
  | write type hdr pld =>
    cases h
    exact hs.write type hdr pld
  | get =>
    cases h
    exact hs.get
  | send =>
    cases h
    exact hs.send
  | txDone | txAborted => exact hs.uartCb h

end HciUart.HciTx

namespace HciNode

open Hci (Event evtReader eventOpcode eventReport)
open DirectTestMode.Hci (h4TypeEvt)

variable {s s' : HciNode n}

/-! ### The node as a run of its transmit side -/

/-- The thread hands a packet over only when the UART is idle. -/
def SendsIdle (s : HciNode n) (i : HciNodeInput) : Prop :=
  i = .txSend → s.tx.taken ≠ none → s.tx.transfer = none

/-- From one transmit side to the other in some writes. -/
def Writes (q : ℕ) (tx tx' : HciTx n) : Prop :=
  ∃ js : List TxInput, (∀ j ∈ js, j ≠ .send) ∧ Fallible.run (HciTx.step q) tx js = .ok tx'

theorem Writes.refl (tx : HciTx n) : Writes q tx tx :=
  ⟨[], fun _ hj ↦ absurd hj List.not_mem_nil, rfl⟩

/-- One write before some writes. -/
theorem Writes.cons {type : UInt8} {hdr pld : List UInt8} {tx tx' : HciTx n}
    (h : Writes q (tx.hciUartWrite q type hdr pld).2 tx') : Writes q tx tx' := by
  obtain ⟨js, hne, hrun⟩ := h
  exact ⟨.write type hdr pld :: js, List.forall_mem_cons.2 ⟨TxInput.noConfusion, hne⟩, hrun⟩

/-- A program is some writes. -/
theorem run_writes {α : Type} {p : Prog transport α} {x : Device × HciTx n}
    {y : α × Device × HciTx n} (h : p.run (nodeHandler b q) x = .ok y) :
    Writes q x.2 y.2.2 := by
  induction p generalizing x with
  | ret a =>
    cases h
    exact .refl _
  | call op k ih =>
    obtain ⟨z, hz, h⟩ := bind_eq_ok.1 h
    have hrest := ih z.1 h
    cases op with
    | dtm c | patternStore pattern src =>
      obtain ⟨w, -, hz⟩ := bind_eq_ok.1 hz
      cases hz
      exact hrest
    | uartWrite type hdr pld =>
      cases hz
      exact hrest.cons

/-- So are the reports of an interrupt. -/
theorem iqReportEvt_writes {mem : IqMemory} {reports : List (CodePtr × DtmIqData)}
    {tx tx' : HciTx n} (h : reports.foldlM (iqReportEvt q mem) tx = .ok tx') :
    Writes q tx tx' := by
  induction reports generalizing tx with
  | nil =>
    cases h
    exact .refl _
  | cons report reports ih =>
    obtain ⟨t, ht, h⟩ := bind_eq_ok.1 h
    obtain ⟨evt, -, ht⟩ := bind_eq_ok.1 ht
    cases ht
    cases evt with
    | none => exact ih h
    | some evt => exact (ih h).cons

/-- **What a step does to the transmit side.** -/
theorem step_tx {i : HciNodeInput} (h : s.step b q i = .ok s') :
    ∃ js : List TxInput, Fallible.run (HciTx.step q) s.tx js = .ok s'.tx ∧
      (s.SendsIdle i → Guarded (HciTx.step q) HciTx.SendsIdle s.tx js) := by
  have hwrites {tx : HciTx n} (h : Writes q s.tx tx) :
      ∃ js : List TxInput, Fallible.run (HciTx.step q) s.tx js = .ok tx ∧
        (s.SendsIdle i → Guarded (HciTx.step q) HciTx.SendsIdle s.tx js) := by
    obtain ⟨js, hne, hrun⟩ := h
    exact ⟨js, hrun, fun _ ↦ (Guarded.of_forall hne).mono fun _ _ hj hsend ↦ absurd hsend hj⟩
  cases stepped h with
  | uartRx | wait | get | nothing | anomaly => exact hwrites (.refl _)
  | process hcmd hx => exact hwrites (run_writes hx)
  | radio hdevice htx => exact hwrites (iqReportEvt_writes htx)
  | tx hj htx =>
    refine ⟨[_], bind_eq_ok.2 ⟨_, htx, rfl⟩, fun hidle ↦ ⟨fun hsend ↦ hidle ?_, fun _ _ ↦ trivial⟩⟩
    cases i with
    | uartRx | get | process | radio | anomaly => cases hj
    | txSend => rfl
    | txGet | txDone | txAborted =>
      cases hj
      cases hsend

/-- A run of the node, as one of its transmit side. -/
theorem run_tx {is : List HciNodeInput} (h : Fallible.run (step b q) s is = .ok s') :
    ∃ js, Fallible.run (HciTx.step q) s.tx js = .ok s'.tx ∧
      (Guarded (step b q) SendsIdle s is → Guarded (HciTx.step q) HciTx.SendsIdle s.tx js) := by
  obtain ⟨-, js, hjs, -, hguard⟩ := run_stutter (I := fun _ ↦ True) tx (HciTx.step q)
    (fun _ ↦ ([] : List Unit)) (fun _ ↦ []) SendsIdle HciTx.SendsIdle (fun s i s' _ ht ↦ by
      obtain ⟨js, hjs, hguard⟩ := step_tx ht
      exact ⟨trivial, js, hjs, List.flatMap_eq_nil_iff.2 fun _ _ ↦ rfl, hguard⟩) trivial h
  exact ⟨js, hjs, hguard⟩

/-- What the UART has accepted was written, in this order. -/
theorem accepted_sublist (hs : s.Initial b) {is : List HciNodeInput}
    (h : Fallible.run (step b q) s is = .ok s') : s'.tx.accepted.Sublist s'.tx.written := by
  obtain ⟨js, hjs, -⟩ := run_tx h
  have hkeeping : s'.tx.Keeping :=
    (Guarded.of_forall (P := fun _ ↦ True) fun _ _ ↦ trivial).invariant
      (fun _ _ _ ht _ hstep ↦ ht.step hstep) hs.tx.keeping hjs
  exact (List.sublist_append_left _ _).trans hkeeping.sent

/-- **All that was written has been accepted**, if the transmit thread waits for the UART and
nothing is left to send. -/
theorem accepted_eq (hs : s.Initial b) {is : List HciNodeInput}
    (h : Fallible.run (step b q) s is = .ok s') (hidle : Guarded (step b q) SendsIdle s is)
    (hsent : s'.tx.waiting = []) : s'.tx.accepted = s'.tx.written := by
  obtain ⟨js, hjs, hguard⟩ := run_tx h
  have hdelivering : s'.tx.Delivering := by
    refine (hguard hidle).invariant (fun t j t' ht hj hstep ↦ ?_) hs.tx.delivering hjs
    obtain ⟨u, hu, hdelivering⟩ := (HciTx.step_delivering_iff ht j).2 hj
    cases hu.symm.trans hstep
    exact hdelivering
  have hsame := hdelivering.inOrder
  rwa [hsent, List.map_nil, List.append_nil] at hsame

/-! ### The two wires -/

/-- The commands of a stream, by their opcodes. -/
def commands (stream : List UInt8) : List UInt16 :=
  (h4Reader.read stream).1.filterMap commandOpcode

/-- The replies in a stream, by the opcodes in them. -/
def replies (stream : List UInt8) : List UInt16 := (evtReader.read stream).1.filterMap eventOpcode

/-- The IQ reports in a stream, by the parameters of their events. -/
def reports (stream : List UInt8) : List (List UInt8) :=
  (evtReader.read stream).1.filterMap eventReport

/-- Packets that are events are read back as them. -/
theorem read_accepted {accepted : List (List UInt8)} {es : List Event}
    (h : accepted = es.map Event.packet) :
    evtReader.read accepted.flatten = (es.map Event.record, []) := by
  rw [h, ← List.flatMap_def, Event.read_packets]

/-- **A run of the node** up to its transmit side: what has been written answers the commands that
are done with, and holds the reports of the library. -/
theorem run_written (hb : b.PowerTable) (hs : s.Initial b) {is : List HciNodeInput}
    (h : Fallible.run (step b q) s is = .ok s') :
    ∃ (es : List Event) (log : List (UInt8 × List UInt8)),
      s'.tx.written = es.map Event.packet ∧
      (h4Reader.read (is.flatMap received)).1 = log ++ s'.side.waiting ∧
      Through (opcodes es) (log.filterMap commandOpcode) (Guarded (step b q) (HasRoom q) s is) ∧
      Numbered s'.device.iqReports ∧ Through (reportsOf es) (reportsMade s'.device.iqReports)
        (Guarded (step b q) (HasReportRoom q) s is) := by
  obtain ⟨log, hlog⟩ := run_note processed h []
  obtain ⟨es, ps, hps, hwrote⟩ := run_wrote hb (hs.replying hb) hlog
  obtain ⟨made, hmade, hreports⟩ := hwrote.reports
  rw [List.nil_append] at hps
  rw [hs.device.iqReports, List.nil_append] at hmade
  refine ⟨es, log, ?_, ?_, ?_, hmade ▸ hreports⟩
  · rw [hwrote.written, hs.tx.written, List.nil_append]
  · rw [run_packets hs hlog]
  · rw [hps]
    exact hwrote.replies

/-! ### Two runs -/

/-- A step of a run whose transmit side is still that of `s`, in which nothing is sent and nothing
reported. -/
def Before (s t : HciNode n) (i : HciNodeInput) : Prop :=
  t.tx = s.tx ∧ i ≠ .txSend ∧ ∀ ev mem, i ≠ .radio ev mem

/-- A packet comes in one window and is processed. -/
def packetInputs (p : H4Packet) : List HciNodeInput :=
  [.uartRx (.ofBytes p.serialise), .get, .process]

theorem received_packetInputs (p : H4Packet) : (packetInputs p).flatMap received = p.serialise := by
  rw [packetInputs, List.flatMap_cons, received, RxWindow.bytes_ofBytes]
  exact List.append_nil p.serialise

/-- **A packet from wire to handler**, on a node that has nothing else to do. -/
theorem run_packetInputs (hstate : s.rx.state = .type) (hcmd : s.cmd = none)
    (hqueue : s.rx.queue = []) {j : Fin n} {pool : Pool (Fin n) NetBuf}
    (halloc : s.rx.pool.alloc = some (j, pool)) (p : H4Packet) (hsize : p.content.length ≤ q)
    {P : Ret × Device × HciTx n → Prop}
    (hx : ∀ mem : ℕ → UInt8, (∀ k, k < p.content.length → mem k = p.content.getD k 0) →
      ∃ x, (Hci.dtmTrProcess p.type mem).run (nodeHandler b q) (s.device, s.tx) = .ok x ∧ P x) :
    ∃ x s', P x ∧ Fallible.run (step b q) s (packetInputs p) = .ok s' ∧ s'.device = x.2.1 ∧
      s'.tx = x.2.2 ∧ s'.side.waiting = [] ∧
      Guarded (step b q) (Before s) s (packetInputs p) := by
  -- the UART: the packet is in a buffer of the queue
  let rx := s.rx.receive j pool p
  have hrx : s.step b q (.uartRx (.ofBytes p.serialise)) = .ok { s with rx := rx } := by
    rw [step, uartRxRdy_eq, RxWindow.bytes_ofBytes,
      HciSystem.h4Loop_serialise hstate halloc p hsize]
  -- the thread: it takes the buffer
  let t : HciNode n := { s with cmd := some j, rx := { rx with queue := [] } }
  have hget : step b q { s with rx := rx } .get = .ok t := by
    have hq : rx.queue = [j] := by
      show s.rx.queue ++ [j] = [j]
      rw [hqueue, List.nil_append]
    simp only [step, dtmTrGet, hcmd, hq, t]
  have hblock : rx.pool.block j = ((pool.block j).reset p.type).addMem p.content :=
    Pool.write_block_self _ _ _
  -- the handler: the octets it reads are those of the packet
  obtain ⟨x, hrun, hP⟩ := hx (((pool.block j).reset p.type).addMem p.content).mem fun k hk ↦
    if_pos ⟨Nat.zero_le k, by
      rwa [show ((pool.block j).reset p.type).len = 0 from rfl, Nat.zero_add]⟩
  obtain ⟨pool', hprocess⟩ : ∃ pool', t.step b q .process =
      .ok ⟨{ rx with queue := [], pool := pool' }, none, x.2.1, x.2.2⟩ := by
    rw [step, dtmTrProcess, show t.cmd = some j from rfl]
    simp only [show t.rx.pool.block j = _ from hblock]
    exact ⟨_, HciSystem.mapError_eq_ok.2 (bind_eq_ok.2 ⟨x, hrun, rfl⟩)⟩
  refine ⟨x, ⟨{ rx with queue := [], pool := pool' }, none, x.2.1, x.2.2⟩, hP, ?_, rfl, rfl, rfl,
    ?_⟩
  · rw [packetInputs, run_cons, hrx, ok_bind, run_cons, hget, ok_bind, run_cons, hprocess]
    rfl
  · rw [packetInputs, Guarded.cons_ok hrx, Guarded.cons_ok hget, Guarded.cons_ok hprocess]
    have hbefore (u : HciNode n) (i : HciNodeInput) (hu : u.tx = s.tx) (hsend : i ≠ .txSend)
        (hradio : ∀ ev mem, i ≠ .radio ev mem) : Before s u i := ⟨hu, hsend, hradio⟩
    refine ⟨hbefore _ _ rfl ?_ ?_, hbefore _ _ rfl ?_ ?_, hbefore _ _ rfl ?_ ?_, trivial⟩
    all_goals intros; intro h; cases h

/-- The node with the nRF5340, `iq_report_evt` registered and its buffers free. -/
def nrf5340 : HciNode 16 where
  rx := .powerOn 16
  cmd := none
  device := { Device.nrf5340 with cteInfo := { Device.nrf5340.cteInfo with iqRepCb := some 7 } }
  tx := HciTx.powerOn

theorem nrf5340_initial : nrf5340.Initial (.nrf5340 true false) :=
  ⟨rfl, rfl, ⟨.ready, some 7, rfl⟩, HciTx.powerOn_initial⟩

/-- What the transmit side does with the answer to a Test End command after power-on. -/
theorem process_testEnd (mem : ℕ → UInt8)
    (h : ∀ k, k < 3 → mem k = testEndPacket.content.getD k 0) :
    ∃ x, (Hci.dtmTrProcess testEndPacket.type mem).run (nodeHandler (.nrf5340 true false) 1024)
        (nrf5340.device, HciTx.powerOn) = .ok x ∧
      x.2.2 = (HciTx.powerOn.hciUartWrite 1024 0x04 [0x0E, 0x06]
        [0x01, 0x1F, 0x20, 0x00, 0x00, 0x00]).2 := by
  rw [Hci.dtmTrProcess, show testEndPacket.type = Hci.h4TypeCmd from rfl, if_pos rfl,
    h 0 (by decide), h 1 (by decide)]
  exact ⟨_, rfl, rfl⟩

/-- A Test End command goes in, and the event for it goes out. -/
def testEndInputs : List HciNodeInput :=
  packetInputs testEndPacket ++ [.txGet, .txSend, .txDone]

/-- The host's stream holds one command. -/
theorem commands_testEnd : commands (testEndInputs.flatMap received) = [0x201F] := by
  rw [testEndInputs, List.flatMap_append, received_packetInputs, commands,
    RecordReader.read_encode testEndPacket.next_serialise, RecordReader.read_none rfl]
  rfl

/-- The command is received, answered and sent, with the UART idle and a buffer free. -/
theorem testEnd_run :
    ∃ s', Fallible.run (step (.nrf5340 true false) 1024) nrf5340 testEndInputs = .ok s' ∧
      s'.side.waiting = [] ∧ s'.tx.waiting = [] ∧
      Guarded (step (.nrf5340 true false) 1024) (HasRoom 1024) nrf5340 testEndInputs ∧
      Guarded (step (.nrf5340 true false) 1024) SendsIdle nrf5340 testEndInputs := by
  obtain ⟨j, pool, halloc⟩ : ∃ j pool, nrf5340.rx.pool.alloc = some (j, pool) := ⟨_, _, rfl⟩
  obtain ⟨x, ⟨rx, cmd, device, tx⟩, hx, hrun, -, htx, hwaiting, hguard⟩ :=
    run_packetInputs (b := .nrf5340 true false) (q := 1024) (s := nrf5340) rfl rfl rfl halloc
      testEndPacket (by decide) process_testEnd
  obtain rfl : tx = _ := htx.trans hx
  obtain ⟨s', hs', hside, hsent⟩ : ∃ s', Fallible.run (step (.nrf5340 true false) 1024)
      nrf5340 testEndInputs = .ok s' ∧ s'.side = ⟨rx, cmd⟩ ∧ s'.tx.waiting = [] := by
    rw [testEndInputs, run_append, hrun]
    exact ⟨_, rfl, rfl, rfl⟩
  refine ⟨s', hs', by rwa [hside], hsent, (hguard.mono ?_).append hrun ?_,
    (hguard.mono ?_).append hrun ?_⟩
  · intro t i hbefore _ _ _ _
    rw [hbefore.1]
    exact ⟨(by decide : List.finRange 16 ≠ []), by decide⟩
  · iterate 3 refine (Guarded.cons_ok rfl).2 ⟨by rintro ⟨⟩, ?_⟩
    trivial
  · intro t i hbefore hsend
    exact absurd hsend hbefore.2.1
  · iterate 3 refine (Guarded.cons_ok rfl).2 ⟨by first | exact fun _ _ ↦ rfl | rintro ⟨⟩, ?_⟩
    trivial

/-- A Receiver Test with CTE on the coded PHY. -/
def receptionPacket : H4Packet where
  type := testEndPacket.type
  header := [0x4F, 0x20, 0x09]
  payload := [0x05, 0x03, 0x00, 0x02, 0x00, 0x01, 0x02, 0x00, 0x01]
  rxType := testEndPacket.rxType
  length_header := rfl
  length_payload := rfl

/-- A test packet of one repeated octet passes the comparison in every radio mode. -/
theorem patternPdu_content (b : Build) (radioMode : RadioMode) :
    PatternPdu b radioMode RadioEvent.pattern0F.content := by
  refine ⟨?_, .pkt0F, 0x0F, [0x0F], rfl, rfl, rfl, rfl⟩
  have htype : RadioEvent.pattern0F.content 0 &&& 0x0F = 0x01 := rfl
  rw [pduTypeRefused, htype]
  simp [DtmPduType.code]

/-- The reception is on, and an interrupt with a test packet reports. -/
theorem process_reception (mem : ℕ → UInt8)
    (h : ∀ k, k < 12 → mem k = receptionPacket.content.getD k 0) :
    ∃ x, (Hci.dtmTrProcess receptionPacket.type mem).run (nodeHandler (.nrf5340 true false) 1024)
        (nrf5340.device, HciTx.powerOn) = .ok x ∧
      (x.2.1.iqReports = [] ∧
        ∃ s', radioIrq (.nrf5340 true false) .pattern0F x.2.1 = .ok s' ∧
          Reports .pattern0F 7 x.2.1 s') ∧
      x.2.2 = (HciTx.powerOn.hciUartWrite 1024 0x04 [0x0E, 0x04] [0x01, 0x4F, 0x20, 0x00]).2 := by
  have hparams : Hci.rxParams .leRxTestV3 (fun i ↦ mem (3 + i)) = some
      ⟨0x05, 0x03, 0x00, 0x02, 0x00, 0x01, 0x02, fun i ↦ mem (3 + (7 + i))⟩ := by
    rw [Hci.rxParams, h (3 + 0) (by decide), h (3 + 1) (by decide), h (3 + 2) (by decide),
      h (3 + 3) (by decide), h (3 + 4) (by decide), h (3 + 5) (by decide), h (3 + 6) (by decide)]
    rfl
  have hcmd : Hci.dtmTrProcess Hci.h4TypeCmd mem =
      Hci.hciRxTest .leRxTestV3 fun i ↦ mem (3 + i) := by
    rw [Hci.dtmTrProcess, if_pos rfl, h 0 (by decide), h 1 (by decide)]
    rfl
  rw [show receptionPacket.type = Hci.h4TypeCmd from rfl, hcmd, Hci.hciRxTest, hparams]
  refine ⟨_, rfl, ⟨rfl, ?_⟩, rfl⟩
  have hmode : DtmCteMode.aoa ≠ .off := by decide
  have hslot : DtmCteSlot.us2 ≠ .zero := by decide
  refine (PatternReceived.reports_iff rfl ?_ ⟨rfl, rfl, hmode, rfl, 0, rfl, ?_⟩).2 hslot
  · rfl
  · exact patternPdu_content _ _

/-- The command goes in, the test packet is received, and the reply and the report go out. -/
def reportInputs (mem : IqMemory) : List HciNodeInput :=
  packetInputs receptionPacket ++
    [.radio .pattern0F mem, .txGet, .txSend, .txDone, .txGet, .txSend, .txDone]

/-- The interrupt's event and the reply before it go out one after the other. -/
theorem report_run (mem : IqMemory) :
    ∃ s', Fallible.run (step (.nrf5340 true false) 1024) nrf5340 (reportInputs mem) = .ok s' ∧
      s'.tx.waiting = [] ∧
      Guarded (step (.nrf5340 true false) 1024) (HasReportRoom 1024) nrf5340 (reportInputs mem) ∧
      Guarded (step (.nrf5340 true false) 1024) SendsIdle nrf5340 (reportInputs mem) ∧
      s'.device.iqReports.map (fun report ↦ report.2.sampleCnt) = [16] := by
  obtain ⟨j, pool, halloc⟩ : ∃ j pool, nrf5340.rx.pool.alloc = some (j, pool) := ⟨_, _, rfl⟩
  obtain ⟨x, ⟨rx, cmd, device, tx⟩, ⟨⟨hnone, device', hirq, iqData, hreports, -, hcnt⟩, hx⟩, hrun,
      hdevice, htx, -, hguard⟩ :=
    run_packetInputs (b := .nrf5340 true false) (q := 1024) (s := nrf5340) rfl rfl rfl halloc
      receptionPacket (by decide) process_reception
  obtain rfl : device = x.2.1 := hdevice
  obtain rfl : tx = _ := htx.trans hx
  rw [hnone, List.nil_append] at hreports
  -- the callback writes the event of the report
  obtain ⟨r, hr, hknown⟩ := radioIrq_reports hirq
  obtain rfl : r = some (7, iqData) := by
    rw [hnone, List.nil_append, hreports] at hr
    cases r with
    | none => cases hr
    | some report => rw [(List.cons.inj hr).1]
  have hcnt : iqData.sampleCnt = 16 := hcnt
  have hfits : iqData.sampleCnt.toNat ≤ Hci.sampleCountMax := by
    rw [hcnt]
    decide
  obtain ⟨pld, hpld⟩ := Option.isSome_iff_exists.1
    ((Hci.reportOctets_isSome (hknown _ rfl)).2 hfits)
  have hlen : pld.length = 13 + 16 * 2 := by
    rw [(Hci.length_reportOctets hpld).1, hcnt]
    rfl
  have hevent : Hci.iqReport (.ofReport mem.stray iqData) mem.buf =
      .ok (some ⟨0x3E, UInt8.ofNat pld.length, pld⟩) := by
    have hwraps : ¬(Hci.IqData.ofReport mem.stray iqData).Wraps := by
      show ¬(122 ≤ iqData.sampleCnt.toNat ∧ iqData.sampleCnt.toNat ≤ 210 ∨
        250 ≤ iqData.sampleCnt.toNat)
      rw [hcnt]
      decide
    obtain ⟨evt, hevt, -⟩ := Hci.reportsInside (fun h ↦ hwraps h.2) mem.buf
    rw [hevt, Hci.iqReport_event hevt, hpld, Option.map_some]
  let t : HciNode 16 := ⟨rx, cmd, x.2.1,
    (HciTx.powerOn.hciUartWrite 1024 0x04 [0x0E, 0x04] [0x01, 0x4F, 0x20, 0x00]).2⟩
  obtain ⟨i, pool', halloc'⟩ : ∃ i pool', t.tx.pool.alloc = some (i, pool') := ⟨_, _, rfl⟩
  have hwrite : (t.tx.hciUartWrite 1024 Hci.h4TypeEvt [0x3E, UInt8.ofNat pld.length] pld).2 = _ :=
    HciTx.hciUartWrite_alloc halloc' (by simp [hlen])
  have hradio : t.step (.nrf5340 true false) 1024 (.radio .pattern0F mem) =
      .ok ⟨rx, cmd, device', (t.tx.hciUartWrite 1024 Hci.h4TypeEvt
        [0x3E, UInt8.ofNat pld.length] pld).2⟩ := by
    refine HciSystem.mapError_eq_ok.2 (bind_eq_ok.2 ⟨device', hirq, bind_eq_ok.2 ⟨_, ?_, rfl⟩⟩)
    rw [hreports, hnone, List.length_nil, List.drop_zero, List.foldlM_cons, iqReportEvt, hevent]
    rfl
  rw [hwrite] at hradio
  cases halloc'
  obtain ⟨s', hs', hsent, hmade⟩ : ∃ s', Fallible.run (step (.nrf5340 true false) 1024) nrf5340
      (reportInputs mem) = .ok s' ∧ s'.tx.waiting = [] ∧ s'.device = device' := by
    rw [reportInputs, run_append, hrun, ok_bind, run_cons]
    rw [show step (.nrf5340 true false) 1024 _ (.radio .pattern0F mem) = _ from hradio]
    exact ⟨_, rfl, rfl, rfl⟩
  refine ⟨s', hs', hsent, (hguard.mono ?_).append hrun ?_, (hguard.mono ?_).append hrun ?_, ?_⟩
  · intro u i hbefore ev mem hi
    exact absurd hi (hbefore.2.2 ev mem)
  · refine (Guarded.cons_ok hradio).2 ⟨fun _ _ _ ↦ ⟨?_, by decide⟩, ?_⟩
    · exact (by decide : (List.finRange 16).tail ≠ [])
    · iterate 6 refine (Guarded.cons_ok rfl).2 ⟨by rintro _ _ ⟨⟩, ?_⟩
      trivial
  · intro u i hbefore hsend
    exact absurd hsend hbefore.2.1
  · refine (Guarded.cons_ok hradio).2 ⟨by rintro ⟨⟩, ?_⟩
    iterate 6 refine (Guarded.cons_ok rfl).2 ⟨by first | exact fun _ _ ↦ rfl | rintro ⟨⟩, ?_⟩
    trivial
  · rw [hmade, hreports, List.map_singleton, hcnt]

/-! ### From wire to wire -/

/-- **The tester's commands are processed as they came.** In every run, the packets that
`dtm_tr_process` was called with, the one in the hands of the main thread and those in the queue
are, in this order, the packets of the stream that has been received, each of a known type and as
long as its header says. -/
theorem packets_in_order (hs : s.Initial b) {log : List (UInt8 × List UInt8)}
    {is : List HciNodeInput}
    (h : Fallible.run (noteStep (step b q) processed) (s, []) is = .ok (s', log)) :
    h4Reader.read (is.flatMap received) = (log ++ s'.side.waiting, s'.rx.pending) ∧
      ∀ p ∈ log ++ s'.side.waiting, h4Framing.accepts p.1 = true ∧
        p.2.length = h4Framing.len p.1 p.2 := by
  have hread := run_packets hs h
  refine ⟨hread, fun p hp ↦ ?_⟩
  refine Framing.reader_wellFormed (F := h4Framing) (is.flatMap received) p ?_
  rw [show h4Framing.reader.read (is.flatMap received) = _ from hread]
  exact hp

/-- The stream of one command, processed. -/
theorem packets_in_order_testEnd :
    ∃ s' log, Fallible.run (noteStep (step (.nrf5340 true false) 1024) processed) (nrf5340, [])
        testEndInputs = .ok (s', log) ∧
      h4Reader.read testEndPacket.serialise = (log ++ s'.side.waiting, s'.rx.pending) := by
  obtain ⟨s', hs', -⟩ := testEnd_run
  obtain ⟨log, hlog⟩ := run_note processed hs' []
  refine ⟨s', log, hlog, ?_⟩
  have h := (packets_in_order nrf5340_initial hlog).1
  rwa [testEndInputs, List.flatMap_append, received_packetInputs] at h

/-- **Replies come in the order of the commands.** In every run, whatever the interleaving, what the
UART has accepted is a sequence of whole events, which a reader of its octets finds again with
nothing left over. The commands they reply to are commands of the received stream, in their order,
and no command is replied to twice. -/
theorem replies_in_order (hb : b.PowerTable) (hs : s.Initial b) {is : List HciNodeInput}
    (h : Fallible.run (step b q) s is = .ok s') :
    (∃ es : List Event, s'.tx.accepted = es.map Event.packet ∧
      evtReader.read s'.tx.accepted.flatten = (es.map Event.record, [])) ∧
      (replies s'.tx.accepted.flatten).Sublist (commands (is.flatMap received)) := by
  obtain ⟨es, log, hwritten, hread, hreplies, -, -⟩ := run_written hb hs h
  have haccepted := accepted_sublist hs h
  rw [hwritten] at haccepted
  obtain ⟨es', hes', heq⟩ := List.sublist_map_iff.1 haccepted
  refine ⟨⟨es', heq, read_accepted heq⟩, ?_⟩
  rw [replies, read_accepted heq, commands, hread, List.filterMap_append]
  have hsub : (opcodes es').Sublist (opcodes es) := (hes'.map _).filterMap _
  exact (hsub.trans hreplies.sublist).trans (List.sublist_append_left _ _)

/-- One command goes in, and the events that come out reply to no other. -/
theorem replies_in_order_testEnd :
    ∃ s', Fallible.run (step (.nrf5340 true false) 1024) nrf5340 testEndInputs = .ok s' ∧
      (∃ es : List Event, s'.tx.accepted = es.map Event.packet ∧
        evtReader.read s'.tx.accepted.flatten = (es.map Event.record, [])) ∧
      (replies s'.tx.accepted.flatten).Sublist [0x201F] := by
  obtain ⟨s', hs', -⟩ := testEnd_run
  have h := replies_in_order (Build.nrf5340_powerTable true false) nrf5340_initial hs'
  rw [commands_testEnd] at h
  exact ⟨s', hs', h⟩

/-- **Every command has its reply**, in a run in which each command finds a transmit buffer for its
event and the transmit thread waits for the UART, once all that was received has been processed and
all that was written has been sent. That reports take buffers of the same pool does not matter. -/
theorem one_reply_each (hb : b.PowerTable) (hs : s.Initial b) {is : List HciNodeInput}
    (h : Fallible.run (step b q) s is = .ok s') (hroom : Guarded (step b q) (HasRoom q) s is)
    (hidle : Guarded (step b q) SendsIdle s is) (hdone : s'.side.waiting = [])
    (hsent : s'.tx.waiting = []) :
    replies s'.tx.accepted.flatten = commands (is.flatMap received) := by
  obtain ⟨es, log, hwritten, hread, hreplies, -, -⟩ := run_written hb hs h
  have haccepted := (accepted_eq hs h hidle hsent).trans hwritten
  rw [replies, read_accepted haccepted, commands, hread, hdone, List.append_nil]
  exact hreplies.all hroom

/-- One command goes in, and one reply comes out. -/
theorem one_reply_each_testEnd :
    ∃ s', Fallible.run (step (.nrf5340 true false) 1024) nrf5340 testEndInputs = .ok s' ∧
      replies s'.tx.accepted.flatten = [0x201F] := by
  obtain ⟨s', hs', hdone, hsent, hroom, hidle⟩ := testEnd_run
  refine ⟨s', hs', ?_⟩
  rw [one_reply_each (Build.nrf5340_powerTable true false) nrf5340_initial hs' hroom hidle hdone
    hsent, commands_testEnd]

/-- **IQ reports come in the order in which they were made.** In every run the LE Meta events that
the UART has accepted hold reports of the library, in their order, each with the parameters that the
report asks for, and no report is sent twice. -/
theorem reports_in_order (hb : b.PowerTable) (hs : s.Initial b) {is : List HciNodeInput}
    (h : Fallible.run (step b q) s is = .ok s') :
    (reports s'.tx.accepted.flatten).Sublist (reportsMade s'.device.iqReports) := by
  obtain ⟨es, log, hwritten, -, -, -, hreports⟩ := run_written hb hs h
  have haccepted := accepted_sublist hs h
  rw [hwritten] at haccepted
  obtain ⟨es', hes', heq⟩ := List.sublist_map_iff.1 haccepted
  rw [reports, read_accepted heq]
  have hsub : (reportsOf es').Sublist (reportsOf es) := (hes'.map _).filterMap _
  exact hsub.trans hreports.sublist

/-- One report is made, and the events that come out hold no other. -/
theorem reports_in_order_reception :
    ∃ s', Fallible.run (step (.nrf5340 true false) 1024) nrf5340
        (reportInputs ⟨fun _ ↦ 0, fun _ ↦ 0⟩) = .ok s' ∧
      (reports s'.tx.accepted.flatten).Sublist (reportsMade s'.device.iqReports) := by
  obtain ⟨s', hs', -⟩ := report_run ⟨fun _ ↦ 0, fun _ ↦ 0⟩
  exact ⟨s', hs', reports_in_order (Build.nrf5340_powerTable true false) nrf5340_initial hs'⟩

/-- **Every report of at most 82 samples has one event**, in a run in which each interrupt of the
radio finds a transmit buffer and the transmit thread waits for the UART, once all that was written
has been sent. The reports with more samples have none. -/
theorem one_report_each (hb : b.PowerTable) (hs : s.Initial b) {is : List HciNodeInput}
    (h : Fallible.run (step b q) s is = .ok s')
    (hroom : Guarded (step b q) (HasReportRoom q) s is)
    (hidle : Guarded (step b q) SendsIdle s is) (hsent : s'.tx.waiting = []) :
    reports s'.tx.accepted.flatten = reportsMade s'.device.iqReports ∧
      (reports s'.tx.accepted.flatten).length =
        s'.device.iqReports.countP fun report ↦ report.2.sampleCnt.toNat ≤ 82 := by
  obtain ⟨es, log, hwritten, -, -, hnumbered, hreports⟩ := run_written hb hs h
  have haccepted := (accepted_eq hs h hidle hsent).trans hwritten
  have hall : reports s'.tx.accepted.flatten = reportsMade s'.device.iqReports := by
    rw [reports, read_accepted haccepted]
    exact hreports.all hroom
  refine ⟨hall, ?_⟩
  rw [hall]
  exact hnumbered.length_reportsMade

/-- The interrupt of a reception with 16 samples makes one event. -/
theorem one_report_each_reception :
    ∃ s', Fallible.run (step (.nrf5340 true false) 1024) nrf5340
        (reportInputs ⟨fun _ ↦ 0, fun _ ↦ 0⟩) = .ok s' ∧
      reports s'.tx.accepted.flatten = reportsMade s'.device.iqReports ∧
      (reports s'.tx.accepted.flatten).length = 1 := by
  obtain ⟨s', hs', hsent, hroom, hidle, hcnt⟩ := report_run ⟨fun _ ↦ 0, fun _ ↦ 0⟩
  obtain ⟨hall, hone⟩ := one_report_each (Build.nrf5340_powerTable true false) nrf5340_initial hs'
    hroom hidle hsent
  refine ⟨s', hs', hall, hone.trans ?_⟩
  have hcount := List.countP_map (p := fun cnt : UInt8 ↦ decide (cnt.toNat ≤ 82))
    (f := fun report : CodePtr × DtmIqData ↦ report.2.sampleCnt) (l := s'.device.iqReports)
  rw [hcnt] at hcount
  exact hcount.symm

end HciNode

end DirectTestMode
