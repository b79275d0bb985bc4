import DirectTestMode.Properties.PacketOrder
import DirectTestMode.Properties.ReportStream
import DirectTestMode.Transport.HciNode

/-!
# From the stream to the commands and the events

The UART callback, the main thread, the transmit thread and the interrupts run in any order. What
the main thread processes is nevertheless the packets of the stream, each once, whole and in the
order in which they came (`packets_in_order`). That a data packet's buffer gets lost does no harm to
this.

Events are written by the main thread, which answers a command with one of them, and by the
interrupt of the radio, which makes one of a report of the library. The events of a run are an
interleaving of the two: `Wrote` keeps the books of both, with a buffer that is missing on either
side, and `run_wrote` is the induction on the run.

## The two halves

* The **receive half** is `RxHand.InOrder` of `Properties.PacketOrder`, instantiated at
  `HciNode.side`. Every input of the node moves it as one of that machine's own steps or not at all
  (`step_moves`), so nothing about queues is proved again here.
* The **transmit half** compares the events with the commands processed and with the reports made.
  `Through` is the relation between what was asked for and what came of it: always some of it, in
  order, and all of it under a condition on room. It composes (`Through.append`), which is what
  makes the induction short.

## Why the state is part of the books

An event can be matched with its command only if the command's opcode can be read from the packet,
that is, if the packet is whole; and the handler must come to an end, for which the power level must
be on the chip's table. Both are invariants of the node (`Replying`), kept by every step. The room
for an event is a condition on the state before each step (`HasRoom`, `HasReportRoom`), and so a
guard of the run.

The results that are read off these books are in `Properties.EventStream` and
`Properties.ReportStream`.
-/

namespace DirectTestMode.HciNode

open Fallible HciUart
open DirectTestMode.Hci (h4TypeCmd h4TypeEvt Event CcEvent eventOpcode eventReport reportOctets)

variable {n q : ℕ} {b : Build}

/-! ### The packets -/

/-- The octets that an input brings. -/
def received : HciNodeInput → List UInt8
  | .uartRx w => w.bytes
  | _ => []

/-- The receive side, with the buffer that the main thread has. -/
def side (s : HciNode n) : RxHand n := ⟨s.rx, s.cmd⟩

/-- The packet that a step is done with. -/
def done (s : HciNode n) (i : HciNodeInput) : List (UInt8 × List UInt8) :=
  match i, s.cmd with
  | .process, some j => [s.side.packet j]
  | _, _ => []

/-- The note of the packets that `dtm_tr_process` was called with. -/
def processed (s : HciNode n) (i : HciNodeInput) (log : List (UInt8 × List UInt8)) :
    List (UInt8 × List UInt8) := log ++ s.done i

variable {s s' : HciNode n}

/-- With a buffer in its hands the main thread processes the packet in it. -/
theorem done_process {j : Fin n} (hcmd : s.cmd = some j) :
    s.done .process = [s.side.packet j] := by
  simp only [done, hcmd]

theorem done_nothing (hcmd : s.cmd = none) : s.done .process = [] := by
  simp only [done, hcmd]

/-- A step of the transmit side brings nothing and is done with nothing. -/
theorem txInput_silent {i : HciNodeInput} {j : TxInput} (hj : txInput i = some j) :
    received i = [] ∧ s.done i = [] := by
  cases i with
  | uartRx | get | process | radio | anomaly => cases hj
  | txGet | txSend | txDone | txAborted => exact ⟨rfl, rfl⟩

theorem Initial.side (hs : s.Initial b) : s.side = .powerOn n := by
  rw [HciNode.side, hs.rx, hs.cmd]
  rfl

/-- **A step**, input by input: the UART callback brings octets, the main thread is done with a
packet, and nothing else touches the receive side. -/
theorem step_moves (hs : s.side.InOrder) {i : HciNodeInput} (h : s.step b q i = .ok s') :
    s.side.Moves (received i) (s.done i) s'.side := by
  cases stepped h with
  | uartRx hrx =>
    rw [uartRxRdy_eq] at hrx
    exact RxHand.moves_read hs hrx
  | wait => exact .refl hs
  | get hcmd hqueue => exact RxHand.moves_take hs hcmd hqueue
  | nothing hcmd =>
    rw [done_nothing hcmd]
    exact .refl hs
  | process hcmd hx =>
    rw [done_process hcmd]
    show s.side.Moves [] _ ⟨{ s.rx with pool := _ }, none⟩
    split_ifs with hrelease
    · exact RxHand.moves_release hs hcmd
    · exact RxHand.moves_lose hs hcmd
  | tx hj htx =>
    obtain ⟨hreceived, hdone⟩ := txInput_silent (s := s) hj
    rw [hreceived, hdone]
    exact .refl hs
  | radio | anomaly => exact .refl hs

/-- **The commands are processed as they came.** In every run, the packets that `dtm_tr_process` was
called with, the one in the hands of the main thread and those in the queue are, in this order, the
packets of the stream that has been received, each with its type and all its octets. -/
theorem run_packets (hs : s.Initial b) {log : List (UInt8 × List UInt8)} {is : List HciNodeInput}
    (h : Fallible.run (noteStep (step b q) processed) (s, []) is = .ok (s', log)) :
    h4Reader.read (is.flatMap received) = (log ++ s'.side.waiting, s'.rx.pending) := by
  refine RxHand.run_moves (I := fun s ↦ s.side.InOrder) side received done (fun _ ht ↦ ht)
    (fun s i s' ht hstep ↦ ?_) ?_ hs.side h
  · have hmoves := step_moves ht hstep
    exact ⟨hmoves.inOrder, hmoves⟩
  · rw [hs.side]
    exact RxHand.powerOn_inOrder

/-! ### What has to hold for an answer -/

/-- The opcode of a command. -/
def commandOpcode (p : UInt8 × List UInt8) : Option UInt16 :=
  if p.1 = h4TypeCmd then some (Hci.cmdOpcode (p.2.getD · 0)) else none

/-- The packets are in order and whole, and the device is in use. -/
structure Replying (b : Build) (s : HciNode n) : Prop where
  inOrder : s.side.InOrder
  onTable : s.device.OnTable b
  whole : ∀ p ∈ s.side.waiting, p.2.length = h4Framing.len p.1 p.2

theorem Initial.replying (hb : b.PowerTable) (hs : s.Initial b) : s.Replying b where
  inOrder := by
    rw [hs.side]
    exact RxHand.powerOn_inOrder
  onTable := hs.device.onTable hb
  whole := by
    rw [hs.side]
    exact fun p hp ↦ absurd hp List.not_mem_nil

theorem deviceInvariant_onTable (hb : b.PowerTable) : DeviceInvariant b (Device.OnTable b) :=
  ⟨fun _ _ _ hs h ↦ hs.step hb h, fun _ _ hs ↦ ⟨hs.timerInit, hs.txpower⟩⟩

/-- A program of the main thread, as one on the view of a writer. -/
theorem run_view {α : Type} {p : Prog transport α} {x : Device × HciTx n} {y : α × Device × HciTx n}
    (h : p.run (nodeHandler b q) x = .ok y) :
    p.run (hostHandler b q) (host x) = .ok (y.1, host y.2) := by
  rw [← run_host, h]
  rfl

/-- **The invariant of the main thread** is kept by every input. -/
theorem Replying.step (hb : b.PowerTable) (hs : s.Replying b) {i : HciNodeInput}
    (h : s.step b q i = .ok s') : s'.Replying b := by
  have hmoves := step_moves hs.inOrder h
  refine ⟨hmoves.inOrder, ?_, hmoves.whole hs.whole⟩
  have honTable := hs.onTable
  cases stepped h with
  | uartRx | wait | get | nothing | tx => exact honTable
  | process hcmd hx =>
    exact (deviceInvariant_onTable hb).run (h := host (s.device, s.tx)) _ honTable (run_view hx)
  | radio hdevice htx => exact honTable.step hb hdevice
  | anomaly hdevice => exact honTable.step hb hdevice

/-- The opcode of a command is in its header, which a whole packet has. -/
theorem Replying.commandOpcode (hs : s.Replying b) {j : Fin n} (hcmd : s.cmd = some j)
    (htype : (s.rx.pool.block j).userData = h4TypeCmd) :
    HciNode.commandOpcode (s.side.packet j) = some (Hci.cmdOpcode (s.rx.pool.block j).mem) := by
  have hwhole := hs.whole (s.side.packet j) (by
    rw [RxHand.waiting_hand (show s.side.hand = some j from hcmd)]
    exact List.mem_append_left _ (List.mem_singleton_self _))
  have hlen : 3 ≤ (s.rx.pool.block j).len := by
    rw [← NetBuf.length_bytes]
    show 3 ≤ (s.side.packet j).2.length
    rw [hwhole]
    show 3 ≤ hciHdrLen (s.rx.pool.block j).userData + _
    rw [htype]
    exact Nat.le_add_right 3 _
  rw [HciNode.commandOpcode, if_pos (show (s.side.packet j).1 = h4TypeCmd from htype),
    Hci.cmdOpcode, Hci.cmdOpcode]
  show some (((s.rx.pool.block j).bytes.getD 0 0).toUInt16 |||
    ((s.rx.pool.block j).bytes.getD 1 0).toUInt16 <<< 8) = _
  rw [NetBuf.getD_bytes _ (by omega), NetBuf.getD_bytes _ (by omega)]

/-! ### The books -/

/-- What came through of `xs`: some of it, in order, and all of it if `room` holds. -/
structure Through {α : Type} (ys xs : List α) (room : Prop) : Prop where
  sublist : ys.Sublist xs
  all : room → ys = xs

theorem Through.nil {α : Type} {room : Prop} : Through ([] : List α) [] room :=
  ⟨.slnil, fun _ ↦ rfl⟩

/-- What came through of two lists in a row came through of each of them. -/
theorem Through.append {α : Type} {ys ys' xs xs' : List α} {room room' : Prop}
    (h : Through ys xs room) (h' : Through ys' xs' room') :
    Through (ys ++ ys') (xs ++ xs') (room ∧ room') where
  sublist := h.sublist.append h'.sublist
  all := by
    intro hroom
    rw [h.all hroom.1, h'.all hroom.2]

/-- The opcodes in the Command Complete events. -/
def opcodes (es : List Event) : List UInt16 := (es.map Event.record).filterMap eventOpcode

/-- The parameters of the LE Meta events. -/
def reportsOf (es : List Event) : List (List UInt8) := (es.map Event.record).filterMap eventReport

/-- The parameters that the reports of the library ask for. -/
def reportsMade (made : List (CodePtr × DtmIqData)) : List (List UInt8) :=
  made.filterMap fun report ↦ reportOctets report.2

/-- The types of the reports have a number in an event. -/
def Numbered (made : List (CodePtr × DtmIqData)) : Prop :=
  ∀ report ∈ made, (Hci.cteTypeCode report.2.type).isSome

/-- Such reports are dropped only for the number of their samples. -/
theorem Numbered.length_reportsMade {made : List (CodePtr × DtmIqData)} (h : Numbered made) :
    (reportsMade made).length =
      made.countP fun report ↦ report.2.sampleCnt.toNat ≤ Hci.sampleCountMax := by
  rw [reportsMade, List.length_filterMap_eq_countP]
  refine List.countP_congr fun report hreport ↦ ?_
  rw [decide_eq_true_eq, Hci.reportOctets_isSome (h report hreport)]

/-- From `s` to `s'` the events `es` were written. They answer commands among the packets `ps`, in
order, and hold reports among those the library has made, in order; all of the one if `room` holds,
and all of the other if `reportRoom` does. -/
structure Wrote (s s' : HciNode n) (ps : List (UInt8 × List UInt8)) (room reportRoom : Prop)
    (es : List Event) : Prop where
  written : s'.tx.written = s.tx.written ++ es.map Event.packet
  replies : Through (opcodes es) (ps.filterMap commandOpcode) room
  reports : ∃ made, s'.device.iqReports = s.device.iqReports ++ made ∧ Numbered made ∧
    Through (reportsOf es) (reportsMade made) reportRoom

section

variable {ps ps' : List (UInt8 × List UInt8)} {room room' reportRoom reportRoom' : Prop}
  {es es' : List Event}

/-- Where there is no command and no report, there is nothing to write. -/
theorem Wrote.nothing (hps : ps.filterMap commandOpcode = [])
    (htx : s'.tx.written = s.tx.written) (hdevice : s'.device.iqReports = s.device.iqReports) :
    Wrote s s' ps room reportRoom [] where
  written := by rw [htx, List.map_nil, List.append_nil]
  replies := by
    rw [hps]
    exact .nil
  reports := ⟨[], by rw [hdevice, List.append_nil], nofun, .nil⟩

/-- The books of two stretches of a run add up. -/
theorem Wrote.trans {t : HciNode n} (h : Wrote s t ps room reportRoom es)
    (h' : Wrote t s' ps' room' reportRoom' es') :
    Wrote s s' (ps ++ ps') (room ∧ room') (reportRoom ∧ reportRoom') (es ++ es') where
  written := by rw [h'.written, h.written, List.map_append, List.append_assoc]
  replies := by
    rw [opcodes, List.map_append, List.filterMap_append, List.filterMap_append]
    exact h.replies.append h'.replies
  reports := by
    obtain ⟨made, hmade, hnumbered, hreports⟩ := h.reports
    obtain ⟨made', hmade', hnumbered', hreports'⟩ := h'.reports
    refine ⟨made ++ made', ?_, List.forall_mem_append.2 ⟨hnumbered, hnumbered'⟩, ?_⟩
    · rw [hmade', hmade, List.append_assoc]
    · rw [reportsOf, reportsMade, List.map_append, List.filterMap_append, List.filterMap_append]
      exact hreports.append hreports'

end

/-! ### One step -/

/-- What a write of an event does: it is written, if there is room for it. -/
theorem hciUartWrite_event (e : Event) (tx : HciTx n) :
    ((tx.hciUartWrite q h4TypeEvt e.header e.pld).2.written = tx.written ∧
        ¬(tx.pool.free ≠ [] ∧ e.pld.length + 7 ≤ q)) ∨
      (tx.hciUartWrite q h4TypeEvt e.header e.pld).2.written = tx.written ++ [e.packet] := by
  rw [HciTx.hciUartWrite]
  rcases halloc : tx.pool.alloc with - | ⟨i, pool⟩
  · exact .inl ⟨rfl, fun hroom ↦ hroom.1 (Pool.alloc_eq_none.1 halloc)⟩
  · simp only
    split_ifs with hsize
    · have hheader : e.header.length = 2 := rfl
      exact .inl ⟨rfl, by omega⟩
    · exact .inr rfl

/-- The step finds a transmit buffer for the event of its command. -/
def HasRoom (q : ℕ) (s : HciNode n) (i : HciNodeInput) : Prop :=
  i = .process → ∀ j, s.cmd = some j → (s.rx.pool.block j).isCmd = true →
    s.tx.pool.free ≠ [] ∧ 19 ≤ q

/-- The interrupt finds a transmit buffer for the event of its report. -/
def HasReportRoom (q : ℕ) (s : HciNode n) (i : HciNodeInput) : Prop :=
  ∀ ev mem, i = .radio ev mem → s.tx.pool.free ≠ [] ∧ 184 ≤ q

/-- A program of the main thread makes no report. -/
theorem run_iqReports {α : Type} {p : Prog transport α} {h : Host} {x : α × Host}
    (hinit : h.device.timerInit = true) (hx : p.run (hostHandler b q) h = .ok x) :
    x.2.device.iqReports = h.device.iqReports := by
  refine (Prog.run_invariant
    (J := fun t : Host ↦ t.device.timerInit = true ∧ t.device.iqReports = h.device.iqReports)
    ?_ p ⟨hinit, rfl⟩ hx).2
  intro op t y ht hy
  cases op with
  | dtm c =>
    obtain ⟨z, hz, hy⟩ := bind_eq_ok.1 hy
    cases hy
    exact ⟨api_timerInit ht.1 hz, (api_iqReports ht.1 hz).trans ht.2⟩
  | patternStore pattern src =>
    obtain ⟨z, -, hy⟩ := bind_eq_ok.1 hy
    cases hy
    exact ht
  | uartWrite type hdr pld =>
    cases hy
    exact ht

/-- **The reply to a packet**: at most one event, with the opcode of the command. -/
theorem process_wrote (hs : s.Replying b) {j : Fin n} (hcmd : s.cmd = some j)
    {x : Ret × Device × HciTx n}
    (hx : (Hci.dtmTrProcess (s.rx.pool.block j).userData (s.rx.pool.block j).mem).run
      (nodeHandler b q) (s.device, s.tx) = .ok x)
    (hdevice : s'.device = x.2.1) (htx : s'.tx = x.2.2) (reportRoom : Prop) :
    ∃ es, Wrote s s' [s.side.packet j] (s.HasRoom q .process) reportRoom es := by
  have hview := run_view hx
  have hreports : s'.device.iqReports = s.device.iqReports := by
    rw [hdevice]
    exact run_iqReports (h := host (s.device, s.tx)) hs.onTable.timerInit hview
  by_cases htype : (s.rx.pool.block j).userData = h4TypeCmd
  · rw [htype] at hview
    obtain ⟨e, hopcode, hevent⟩ := dtmTrProcess_event (h := host (s.device, s.tx)) hs.onTable hview
    have hwritten : s'.tx.written =
        (s.tx.hciUartWrite q h4TypeEvt e.event.header e.event.pld).2.written := by
      have hhost := hciUartWrite_host (q := q) (s.device, s.tx) h4TypeEvt e.event.header e.event.pld
      rw [htx]
      exact congrArg TxQueue.queue (hevent.trans (congrArg Prod.snd hhost).symm)
    have hcodes : [s.side.packet j].filterMap commandOpcode = [e.opcode] := by
      rw [List.filterMap_cons_some (hs.commandOpcode hcmd htype), List.filterMap_nil, hopcode]
    -- the write fails only without a buffer or room, which `HasRoom` excludes
    rcases hciUartWrite_event (q := q) e.event s.tx with ⟨hsame, hroom⟩ | hadded
    · refine ⟨[], ?_, ⟨List.nil_sublist _, fun hhas ↦ absurd ?_ hroom⟩, [], ?_, nofun, .nil⟩
      · rw [hwritten, hsame, List.map_nil, List.append_nil]
      · obtain ⟨hfree, hq⟩ := hhas rfl j hcmd (by simp [NetBuf.isCmd, htype])
        have hlen : e.event.pld.length = _ := e.length_payload
        have hret := e.length_ret
        exact ⟨hfree, by omega⟩
      · rw [hreports, List.append_nil]
    · refine ⟨[e.event], hwritten.trans hadded, ?_, [], ?_, nofun, ?_⟩
      · rw [hcodes, opcodes, List.map_singleton,
          List.filterMap_cons_some e.eventOpcode_record, List.filterMap_nil]
        exact ⟨.refl _, fun _ ↦ rfl⟩
      · rw [hreports, List.append_nil]
      · rw [reportsOf, List.map_singleton, List.filterMap_cons_none e.eventReport_record]
        exact .nil
  -- a data packet is not answered
  · have hsame : x = (.err .enotsup, s.device, s.tx) := by
      rw [Hci.dtmTrProcess, if_neg htype] at hx
      exact (Except.ok.inj hx).symm
    refine ⟨[], .nothing ?_ (by rw [htx, hsame]) hreports⟩
    rw [List.filterMap_cons_none, List.filterMap_nil]
    exact if_neg (show ¬(s.side.packet j).1 = h4TypeCmd from htype)

/-- **The report of an interrupt**: at most one event, with the parameters of the report. -/
theorem radio_wrote {ev : RadioEvent} {mem : IqMemory} {device : Device} {tx : HciTx n}
    (hdevice : s.device.step b (.radio ev) = .ok device)
    (htx : (device.iqReports.drop s.device.iqReports.length).foldlM (iqReportEvt q mem) s.tx =
      .ok tx) (room : Prop) :
    ∃ es, Wrote s { s with device := device, tx := tx } [] room
      (s.HasReportRoom q (.radio ev mem)) es := by
  obtain ⟨r, hr, hknown⟩ := radioIrq_reports hdevice
  rw [hr, List.drop_left] at htx
  cases r with
  | none =>
    cases htx
    exact ⟨[], .nothing rfl rfl (hr.trans (List.append_nil _))⟩
  | some report =>
    obtain ⟨tx', htx', htx⟩ := bind_eq_ok.1 htx
    cases htx
    obtain ⟨evt, hevt, htx'⟩ := bind_eq_ok.1 htx'
    cases htx'
    have hmade (ys : List (List UInt8)) (h : Through ys (reportOctets report.2).toList
        (s.HasReportRoom q (.radio ev mem))) :
        ∃ made, device.iqReports = s.device.iqReports ++ made ∧ Numbered made ∧
          Through ys (reportsMade made) (s.HasReportRoom q (.radio ev mem)) := by
      refine ⟨[report], hr, List.forall_mem_singleton.2 (hknown report rfl), ?_⟩
      rwa [reportsMade, List.filterMap_cons, List.filterMap_nil, ← Option.toList]
    rw [Hci.iqReport_event hevt]
    -- a report of a type without a code is not sent
    rcases hoctets : reportOctets report.2 with - | pld
    · refine ⟨[], ?_, .nil, hmade [] ?_⟩
      · exact (List.append_nil _).symm
      · rw [hoctets]
        exact .nil
    · obtain ⟨e, hheader, rfl, hlen, hcode, hreport⟩ := Hci.exists_reportEvent hoctets
      rw [Option.map_some, Option.elim_some]
      simp only [← hheader]
      rcases hciUartWrite_event (q := q) e s.tx with ⟨hsame, hroom⟩ | hadded
      · refine ⟨[], ?_, .nil, hmade [] ⟨List.nil_sublist _, fun hhas ↦ absurd ?_ hroom⟩⟩
        · rw [hsame, List.map_nil, List.append_nil]
        · obtain ⟨hfree, hq⟩ := hhas ev mem rfl
          refine ⟨hfree, hq.trans' ?_⟩
          exact Nat.add_le_add_right hlen 7
      · refine ⟨[e], hadded, ?_, hmade _ ?_⟩
        · rw [opcodes, List.map_singleton, List.filterMap_cons_none hcode]
          exact .nil
        · rw [reportsOf, List.map_singleton, List.filterMap_cons_some hreport,
            List.filterMap_nil, hoctets]
          exact ⟨.refl _, fun _ ↦ rfl⟩

/-- A step of the transmit side that is none of a writer writes nothing. -/
theorem txInput_written {i : HciNodeInput} {j : TxInput} (hj : txInput i = some j) {tx : HciTx n}
    (htx : s.tx.step q j = .ok tx) : tx.written = s.tx.written := by
  have hcb (htx : s.tx.uartCb = .ok tx) : tx.written = s.tx.written := by
    rw [HciTx.uartCb] at htx
    split at htx
    · cases htx
      rfl
    · split at htx <;> cases htx
      rfl
  cases i with
  | uartRx | get | process | radio | anomaly => cases hj
  | txGet =>
    cases hj
    cases htx
    rw [HciTx.txThreadGet]
    split <;> rfl
  | txSend =>
    cases hj
    cases htx
    rw [HciTx.txThreadSend]
    split
    · rfl
    · rw [HciTx.uartTx]
      split <;> rfl
  | txDone | txAborted =>
    cases hj
    exact hcb htx

/-- **What a step writes**: an answer, a report, or nothing, and never both. -/
theorem step_wrote (hs : s.Replying b) {i : HciNodeInput} (h : s.step b q i = .ok s') :
    ∃ es, Wrote s s' (s.done i) (s.HasRoom q i) (s.HasReportRoom q i) es := by
  cases stepped h with
  | uartRx | wait | get => exact ⟨[], .nothing rfl rfl rfl⟩
  | nothing hcmd =>
    rw [done_nothing hcmd]
    exact ⟨[], .nothing rfl rfl rfl⟩
  | process hcmd hx =>
    rw [done_process hcmd]
    exact process_wrote hs hcmd hx rfl rfl _
  | tx hj htx =>
    rw [(txInput_silent hj).2]
    exact ⟨[], .nothing rfl (txInput_written hj htx) rfl⟩
  | radio hdevice htx => exact radio_wrote hdevice htx _
  | anomaly hdevice =>
    exact ⟨[], .nothing rfl rfl (Device.step_anomaly_iqReports hdevice)⟩

/-! ### Runs -/

/-- **What a run writes**, by induction on its steps, from the books of one step and the fact
that they add up. -/
theorem run_wrote (hb : b.PowerTable) (hs : s.Replying b) {log log' : List (UInt8 × List UInt8)}
    {is : List HciNodeInput}
    (h : Fallible.run (noteStep (step b q) processed) (s, log) is = .ok (s', log')) :
    ∃ es ps, log' = log ++ ps ∧ Wrote s s' ps (Guarded (step b q) (HasRoom q) s is)
      (Guarded (step b q) (HasReportRoom q) s is) es := by
  induction is generalizing s log with
  | nil =>
    cases h
    exact ⟨[], [], (List.append_nil _).symm, .nothing rfl rfl rfl⟩
  | cons i is ih =>
    obtain ⟨t, ht, h⟩ := bind_eq_ok.1 h
    obtain ⟨u, hu, ht⟩ := bind_eq_ok.1 ht
    cases ht
    obtain ⟨es, hes⟩ := step_wrote hs hu
    obtain ⟨es', ps, hlog', hes'⟩ := ih (hs.step hb hu) h
    refine ⟨es ++ es', s.done i ++ ps, ?_, ?_⟩
    · rw [hlog', processed, List.append_assoc]
    · rw [Guarded.cons_ok hu, Guarded.cons_ok hu]
      exact hes.trans hes'

end DirectTestMode.HciNode
