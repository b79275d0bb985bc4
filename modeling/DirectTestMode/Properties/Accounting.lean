import DirectTestMode.Dtm.PacketCount
import DirectTestMode.Properties.Loopback

/-!
# The books of a reception

Every `END` event of a reception is entered once: as a **counted** packet, as a **CRC error**, or as
a **refused** packet, one that came in whole and that `check_pdu` does not take. The firmware keeps
two counters, `rx_pkt_count` and the number of CRC errors, and the third kind shows in neither. The
report of LE Test End is the first counter, so what a tester sees is one column of three.

* `packetEntry` says which entry a packet makes, from the packet and the settings of the start of
  the test alone;
* `Accounts` is the state of the books: the reception of `Dtm.PacketCount` with the counted entries
  as its counter, and the error counter beside it;
* `Accounts.step` is one interrupt of any kind, `Accounts.run` the whole sequence, and
  `reception_accounts` reads the counters and the report off the end of it.

## Why the entry needs no later state

`packetEntry` looks at `s₀`, the device as LE Receiver Test left it, and not at the device that the
packet finds. That is a theorem and not a choice: the interrupts keep the settings (`KeepsSetup`,
part of `Receiving`), so the check that the handler makes on the last packet is the one it would
have made on the first. Without it the count could not be a function of the sequence of events.

The two moduli are the counters' own widths, `uint16_t` and `uint32_t`; neither saturates. A run
that raises an assertion has no final state and is not counted here: `Accounts.irqs_ok` says that
none is raised without a constant tone extension.
-/

namespace DirectTestMode

open Fallible

variable {b : Build} {s₀ s s' : Device}

/-- What the handler makes of a received packet. -/
inductive PacketEntry
  | counted | crcError | refused
  deriving DecidableEq

/-- The entry of an `END` event, in a reception with the settings of `s₀`. -/
def packetEntry (b : Build) (s₀ : Device) (ev : RadioEvent) : PacketEntry :=
  if packetAccepted b s₀ ev then .counted else if ev.crcOk then .refused else .crcError

/-- An interrupt has an entry if it is an `END` event. -/
def Input.entry (b : Build) (s₀ : Device) : Input → Option PacketEntry
  | .radio ev => if ev.ended then some (packetEntry b s₀ ev) else none
  | .call _ | .anomaly _ => none

def Input.isIrq : Input → Bool
  | .call _ => false
  | .radio _ | .anomaly _ => true

def Input.isEnd : Input → Bool
  | .radio ev => ev.ended
  | .call _ | .anomaly _ => false

/-- A running reception that started in `s₀`, with its entries so far. -/
structure Accounts (s₀ : Device) (entries : List PacketEntry) (s : Device) : Prop
    extends Receiving s₀ (entries.count .counted) s where
  errors : s.crcErrorCount = UInt32.ofNat (entries.count .crcError)

/-! ### One interrupt -/

/-- An interrupt of the radio does nothing without a reception. -/
theorem radioIrq_idle (ev : RadioEvent) (hs : s.state ≠ .receiverTest) :
    radioIrq b ev s = .ok s := by
  have hbeq : (s.state == .receiverTest) = false := beq_eq_false_iff_ne.2 hs
  have htimer (enabled : Bool) : anomalyTimerSet b enabled s = s := by
    rw [anomalyTimerSet, hbeq, Bool.and_false, Bool.false_and, if_neg (by decide)]
  have hdma : radioDma b ev s = s := if_neg hs
  have hend : radioHandlerEnd b ev s = .ok s := by
    rw [radioHandlerEnd, onRadioEndEvent, if_pos hs, ite_self]
  rw [radioIrq, hdma, radioHandler, htimer, ite_self, hend, ok_bind, htimer, ite_self]
  rfl

/-- A packet with a bad CRC is an error, and no other is. -/
theorem receivedPdu_errors {ev : RadioEvent} {i : Fin 2} (h : receivedPdu b ev i s = .ok s') :
    s'.crcErrorCount = s.crcErrorCount + if ev.crcOk then 0 else 1 := by
  obtain ⟨⟨pduOk, t⟩, ht, h⟩ := bind_eq_ok.1 h
  cases h
  show (countPacket ev.crcOk pduOk t).crcErrorCount = _
  have hsame : t.crcErrorCount = s.crcErrorCount := by
    rw [checkReceived] at ht
    split at ht
    · rw [show t = _ from checkPdu_ok ht]
      rfl
    · cases ht
      rfl
  rw [countPacket, ← hsame]
  cases ev.crcOk <;> cases pduOk <;> simp

/-- The interrupt of an `END` event counts errors as its handler does: the restart of the
reception and the anomaly timer do not touch the counter. -/
theorem radioIrq_errors {ev : RadioEvent} {i : Fin 2} (hended : ev.ended = true)
    (hrx : s.state = .receiverTest) (hcur : s.currentPdu = some i)
    (h : radioIrq b ev s = .ok s') :
    s'.crcErrorCount = s.crcErrorCount + if ev.crcOk then 0 else 1 := by
  obtain ⟨timer, hirq⟩ := radioIrq_receiving (b := b) hended hrx hcur
  obtain ⟨u, hu, h⟩ := bind_eq_ok.1 (hirq.symm.trans h)
  have hready : s'.crcErrorCount = u.crcErrorCount := by
    cases h
    split
    · rw [anomalyTimerSet_eq]
    · rfl
  have hdma : (radioDma b ev s).crcErrorCount = s.crcErrorCount := by
    rw [radioDma]
    split <;> rfl
  rw [hready, receivedPdu_errors hu, ← hdma]

/-- The books do not show the anomaly timer and what it decides. -/
theorem Accounts.timer {entries : List PacketEntry} (h : Accounts s₀ entries s)
    (timer : AnomalyTimer) (strictMode : Bool) :
    Accounts s₀ entries { s with anomalyTimer := timer, strictMode := strictMode } :=
  ⟨⟨h.receiving, ⟨h.checks.radioMode, h.checks.cteInfo⟩, h.buffer, h.count⟩, h.errors⟩

/-- Nor do they show that the timer is switched on or off. -/
theorem Accounts.anomalyTimerSet {entries : List PacketEntry} (h : Accounts s₀ entries s)
    (enabled : Bool) : Accounts s₀ entries (anomalyTimerSet b enabled s) := by
  rw [anomalyTimerSet_eq]
  exact h.timer _ s.strictMode

/-- Before the end of a packet nothing is entered. -/
theorem Accounts.not_ended {entries : List PacketEntry} (h : Accounts s₀ entries s)
    {ev : RadioEvent} (hended : ev.ended = false) (hs' : radioIrq b ev s = .ok s') :
    Accounts s₀ entries s' := by
  have hdma : Accounts s₀ entries (radioDma b ev s) := by
    refine ⟨(h.dma b ev).1, ?_⟩
    rw [radioDma]
    split
    · exact h.errors
    · exact h.errors
  rw [radioIrq, radioHandler, radioHandlerEnd, hended, if_neg (by decide), ok_bind] at hs'
  cases hs'
  split_ifs
  · exact (hdma.anomalyTimerSet false).anomalyTimerSet true
  · exact hdma.anomalyTimerSet true
  · exact hdma.anomalyTimerSet false
  · exact hdma

/-- At the end of a packet its entry is made. -/
theorem Accounts.ended {entries : List PacketEntry} (h : Accounts s₀ entries s) {ev : RadioEvent}
    (hended : ev.ended = true) (hs' : radioIrq b ev s = .ok s') :
    Accounts s₀ (entries ++ [packetEntry b s₀ ev]) s' := by
  obtain ⟨i, hcur, -⟩ := h.buffer
  have hcount := h.step hended hs'
  have herrors := radioIrq_errors hended h.receiving hcur hs'
  have hcrc (haccepted : packetAccepted b s₀ ev = true) : ev.crcOk = true := by
    rw [packetAccepted, Bool.and_eq_true] at haccepted
    exact haccepted.1
  have hentry : (if packetAccepted b s₀ ev then 1 else 0) =
      [packetEntry b s₀ ev].count .counted ∧
      (if ev.crcOk then 0 else 1) = [packetEntry b s₀ ev].count .crcError := by
    rw [packetEntry]
    split_ifs with haccepted hok hok
    · exact ⟨rfl, rfl⟩
    · exact absurd (hcrc haccepted) hok
    · exact ⟨rfl, rfl⟩
    · exact ⟨rfl, rfl⟩
  refine ⟨?_, ?_⟩
  · rw [List.count_append, ← hentry.1]
    exact hcount
  · rw [herrors, h.errors, List.count_append, ← hentry.2, UInt32.ofNat_add]
    split <;> rfl

/-- **One interrupt** of any kind makes its entry, if it has one. -/
theorem Accounts.step {entries : List PacketEntry} (h : Accounts s₀ entries s) {i : Input}
    (hirq : i.isIrq = true) (hs' : s.step b i = .ok s') :
    Accounts s₀ (entries ++ (i.entry b s₀).toList) s' := by
  cases i with
  | call c => cases hirq
  | radio ev =>
    rw [Input.entry]
    cases hended : ev.ended with
    | true => exact h.ended hended hs'
    | false =>
      rw [if_neg (by decide), Option.toList_none, List.append_nil]
      exact h.not_ended hended hs'
  | anomaly ev =>
    rw [Input.entry, Option.toList_none, List.append_nil]
    cases hs'
    split
    · rw [anomalyTimerHandler]
      simp only
      split
      · exact h.timer _ _
      · exact h.timer _ _
    · exact h

/-! ### A run of interrupts -/

/-- **The whole sequence**: one entry for each interrupt that has one, in the order in which they
came. -/
theorem Accounts.run {is : List Input} (hirq : ∀ i ∈ is, i.isIrq = true)
    {entries : List PacketEntry} (h : Accounts s₀ entries s)
    (hs' : Fallible.run (Device.step b) s is = .ok s') :
    Accounts s₀ (entries ++ is.filterMap (Input.entry b s₀)) s' := by
  induction is generalizing entries s with
  | nil =>
    cases hs'
    rwa [List.filterMap_nil, List.append_nil]
  | cons i is ih =>
    obtain ⟨t, ht, hs'⟩ := bind_eq_ok.1 hs'
    have hrun := ih (fun j hj ↦ hirq j (List.mem_cons_of_mem i hj))
      (h.step (hirq i List.mem_cons_self) ht) hs'
    rw [List.append_assoc] at hrun
    rw [List.filterMap_cons]
    cases hentry : i.entry b s₀ with
    | none =>
      rw [hentry] at hrun
      exact hrun
    | some entry =>
      rw [hentry] at hrun
      exact hrun

/-- Without a constant tone extension no interrupt stops a reception. -/
theorem Accounts.step_ok (hoff : s₀.cteInfo.mode = .off) {entries : List PacketEntry}
    (h : Accounts s₀ entries s) {i : Input} (hirq : i.isIrq = true) :
    ∃ s', s.step b i = .ok s' := by
  cases i with
  | call c => cases hirq
  | anomaly ev => exact ⟨_, rfl⟩
  | radio ev =>
    cases hended : ev.ended with
    | true =>
      have hev : ∀ e ∈ [ev], e.ended = true := List.forall_mem_singleton.2 hended
      obtain ⟨s', hs'⟩ := h.run_ok (b := b) hoff [ev] hev
      obtain ⟨t, ht, -⟩ := bind_eq_ok.1 hs'
      exact ⟨t, ht⟩
    | false =>
      have hend (t : Device) : radioHandlerEnd b ev t = .ok t := by
        rw [radioHandlerEnd, hended, if_neg (by decide)]
      exact ⟨_, bind_eq_ok.2 ⟨_, hend _, rfl⟩⟩

/-- So every sequence of interrupts has a final state whose books can be read. -/
theorem Accounts.irqs_ok (hoff : s₀.cteInfo.mode = .off) {is : List Input}
    (hirq : ∀ i ∈ is, i.isIrq = true) {entries : List PacketEntry} (h : Accounts s₀ entries s) :
    ∃ s', Fallible.run (Device.step b) s is = .ok s' := by
  induction is generalizing entries s with
  | nil => exact ⟨s, rfl⟩
  | cons i is ih =>
    obtain ⟨t, ht⟩ := h.step_ok (b := b) hoff (hirq i List.mem_cons_self)
    obtain ⟨s', hs'⟩ := ih (fun j hj ↦ hirq j (List.mem_cons_of_mem i hj))
      (h.step (hirq i List.mem_cons_self) ht)
    exact ⟨s', bind_eq_ok.2 ⟨t, ht, hs'⟩⟩

/-- An accepted Receiver Test opens the books. -/
theorem Accounts.start {channel : UInt8} (h : dtmTestReceive b channel s = .ok (.ok, s₀)) :
    Accounts s₀ [] s₀ := by
  refine ⟨.start h, ?_⟩
  rcases Nat.lt_or_ge physChMax channel.toNat with hc | hc
  · cases (dtmTestReceive_illegal b s hc).symm.trans h
  · obtain ⟨radio, -, heq⟩ := dtmTestReceive_legal b s hc
    cases heq.symm.trans h
    rfl

/-- There are three kinds of entries and no fourth. -/
theorem PacketEntry.count_add (entries : List PacketEntry) :
    entries.count .counted + entries.count .crcError + entries.count .refused =
      entries.length := by
  induction entries with
  | nil => rfl
  | cons entry entries ih =>
    rw [List.count_cons, List.count_cons, List.count_cons, List.length_cons, ← ih]
    cases entry with
    | counted | crcError | refused =>
      simp only [beq_self_eq_true, if_true, reduceCtorEq, beq_iff_eq, if_false]
      omega

theorem length_entries (b : Build) (s₀ : Device) (is : List Input) :
    (is.filterMap (Input.entry b s₀)).length = is.countP Input.isEnd := by
  rw [List.length_filterMap_eq_countP]
  refine List.countP_congr fun i _ ↦ ?_
  cases i with
  | call c | anomaly ev => exact Iff.rfl
  | radio ev =>
    rw [Input.entry, Input.isEnd]
    cases ev.ended <;> rfl

/-- **The books balance.** After an accepted Receiver Test, in every run of interrupts: the
packet counter is the number of counted packets modulo `2 ^ 16`, the error counter that of the
bad CRCs modulo `2 ^ 32`, every `END` event has one of the three entries, and the report is the
packet counter. It is `Accounts.run` from the empty books that the start of the test opens. -/
theorem reception_accounts {channel : UInt8}
    (hrx : dtmTestReceive b channel s = .ok (.ok, s₀)) {is : List Input}
    (hirq : ∀ i ∈ is, i.isIrq = true) (hrun : Fallible.run (Device.step b) s₀ is = .ok s') :
    s'.rxPktCount.toNat = (is.filterMap (Input.entry b s₀)).count .counted % 2 ^ 16 ∧
      s'.crcErrorCount.toNat = (is.filterMap (Input.entry b s₀)).count .crcError % 2 ^ 32 ∧
      (is.filterMap (Input.entry b s₀)).count .counted +
          (is.filterMap (Input.entry b s₀)).count .crcError +
          (is.filterMap (Input.entry b s₀)).count .refused = is.countP Input.isEnd ∧
      (dtmTestEnd b true s').1 = .ok s'.rxPktCount := by
  have h := (Accounts.start hrx).run hirq hrun
  rw [List.nil_append] at h
  refine ⟨?_, ?_, ?_, rfl⟩
  · rw [h.count, UInt16.toNat_ofNat']
  · rw [h.errors, UInt32.toNat_ofNat']
  · rw [PacketEntry.count_add, length_entries]

/-- A packet with a bad CRC. -/
def badCrcPacket : RadioEvent where
  address := true
  ended := true
  ready := true
  content := DtmPdu.zero
  iqSamples := IqSamples.zero
  crcOk := false
  dfeAmount := 0
  rssiSample := 0

/-- One packet of each kind: PRBS9, which is counted, a bad CRC, PRBS15, which the 1 Mbit PHY
refuses, and the address of a fourth packet that never ends. -/
def threeEntries : List Input :=
  [.radio (.ofOctets (testPacket .prbs9 37)), .radio badCrcPacket,
    .radio (.ofOctets (testPacket .prbs15 20)), .radio { badCrcPacket with ended := false }]

/-- What a packet of the transmitter's own making is entered as: it is intact, so only the type
code decides, against the last code that the PHY admits. -/
theorem packetEntry_testPacket (phy : DtmPhy) (hphy : phy.supported b = true) (type : DtmPduType)
    (length : UInt8) (hmode : s₀.radioMode = phy.radioMode) (hoff : s₀.cteInfo.mode = .off) :
    packetEntry b s₀ (.ofOctets (testPacket type length)) =
      if type.code ≤ phy.lastPduType.code then .counted else .refused := by
  have hholds : PduHolds type length (headerLen s₀.cteInfo.mode)
      (RadioEvent.ofOctets (testPacket type length)).content := by
    rw [hoff]
    exact pduHolds_testPacket type length
  rw [packetEntry, packetAccepted, checkPdu_off phy hphy hmode hoff hholds]
  by_cases hle : type.code ≤ phy.lastPduType.code
  · rw [decide_eq_true hle, if_pos hle]
    rfl
  · rw [decide_eq_false hle, if_neg hle]
    rfl

/-- **Each kind of entry once.** One packet is reported, one error is counted, and the third `END`
event is in neither counter. -/
theorem reception_accounts_threeEntries :
    ∃ s₀ s', dtmTestReceive (.nrf5340 true false) 0 .nrf5340 = .ok (.ok, s₀) ∧
      Fallible.run (Device.step (.nrf5340 true false)) s₀ threeEntries = .ok s' ∧
      s'.rxPktCount.toNat = 1 ∧ s'.crcErrorCount.toNat = 1 ∧
      threeEntries.countP Input.isEnd = 3 ∧
      (dtmTestEnd (.nrf5340 true false) true s').1 = .ok 1 := by
  obtain ⟨radio, -, hrx⟩ := dtmTestReceive_legal (.nrf5340 true false) .nrf5340
    (show (0 : UInt8).toNat ≤ physChMax by decide)
  let s₀ := receiveState (.nrf5340 true false) 0 radio .nrf5340
  have hirq : ∀ i ∈ threeEntries, i.isIrq = true := by
    simp [threeEntries, Input.isIrq]
  obtain ⟨s', hs'⟩ := (Accounts.start hrx).irqs_ok (b := .nrf5340 true false) rfl hirq
  have hentry (type : DtmPduType) (length : UInt8) :
      packetEntry (.nrf5340 true false) s₀ (.ofOctets (testPacket type length)) =
        if type.code ≤ DtmPhy.phy1m.lastPduType.code then .counted else .refused :=
    packetEntry_testPacket .phy1m rfl type length rfl rfl
  have hentries : threeEntries.filterMap (Input.entry (.nrf5340 true false) s₀) =
      [.counted, .crcError, .refused] := by
    simp only [threeEntries, List.filterMap_cons, List.filterMap_nil, Input.entry, hentry]
    rfl
  obtain ⟨hcount, herrors, -, hreport⟩ := reception_accounts hrx hirq hs'
  rw [hentries] at hcount herrors
  have hone : s'.rxPktCount = 1 := UInt16.toNat_inj.1 hcount
  rw [hone] at hreport
  exact ⟨s₀, s', hrx, hs', hcount, herrors, rfl, hreport⟩

end DirectTestMode
