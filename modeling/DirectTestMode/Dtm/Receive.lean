import DirectTestMode.Dtm.Test

/-!
# Reception

The radio interrupt: the receive buffer is swapped, the received PDU checked and counted, and the IQ
samples of its constant tone extension reported.

## What an interrupt is

A `RadioEvent` is one interrupt with everything the handler reads from the radio, and what the radio
has written to memory before it. `radioIrq` is the memory write followed by the handler. The events
are not asked to come from a working radio: any combination of `ADDRESS`, `END` and `READY` may come
in any state, with any octets in the buffer. Where a statement needs the radio to behave, it says so
of the events.

## Two buffers

The radio is restarted on the other buffer before the received one is looked at, so a packet may
arrive while its predecessor is checked. The check is given the received buffer; the radio's writes
go to the one at its packet pointer, and they are made by the next event.

## Frames and the rule

An interrupt can fault in three ways only (`Fault.OfReception`), none of which is the assertion on
the channel. It changes no setting and no machine state (`KeepsSetup`). Facts of that kind are
proved by `radioIrq_rule`: a reflexive and transitive relation that the radio's writes, the anomaly
timer and the `END` event keep is kept by the whole interrupt, so a new frame takes three small
proofs and not another walk through the handler.
-/

namespace DirectTestMode

open Fallible

/-! ### What the radio delivers -/

/-- One radio interrupt. -/
structure RadioEvent where
  address : Bool
  ended : Bool
  ready : Bool
  /-- What the radio wrote to the buffer at its packet pointer. -/
  content : DtmPdu
  /-- What the radio wrote to the IQ sample memory. -/
  iqSamples : IqSamples
  crcOk : Bool
  /-- `DFEPACKET.AMOUNT`. -/
  dfeAmount : UInt8
  rssiSample : UInt8

/-- The memory the radio writes while it receives. -/
def radioDma (b : Build) (ev : RadioEvent) (s : Device) : Device :=
  if s.state = .receiverTest then
    { s with
      pdu := fun i ↦ if s.radio.packetPtr = some i then ev.content else s.pdu i
      cteInfo :=
        if b.directionFinding && s.cteInfo.mode != .off then
          { s.cteInfo with data := ev.iqSamples }
        else s.cteInfo }
  else s

/-! ### IQ reports -/

/-- The CTE type of a report, under the assertion that an extension is on and its slot is set. -/
def iqReportType (cte : DtmCteInfo) : Except Fault DtmCteType :=
  match cte.mode with
  | .aod =>
    match cte.slot with
    | .us1 => .ok .aod1us
    | .us2 => .ok .aod2us
    | .zero => .error .cteMode
  | .aoa => .ok .aoa
  | .off => .error .cteMode

/-- The slot of a report, under the assertion on the slot. It is checked for AoA too, where the
type does not depend on it. -/
def iqReportSlot (cte : DtmCteInfo) : Except Fault DtmCteSlotDuration :=
  match cte.slot with
  | .us1 => .ok .us1
  | .us2 => .ok .us2
  | .zero => .error .cteSlot

/-- The report is handed to the callback `iqRepCb`. -/
def reportIq (b : Build) (ev : RadioEvent) (iqRepCb : CodePtr) (s : Device) :
    Except Fault Device := do
  let type ← iqReportType s.cteInfo
  let slot ← iqReportSlot s.cteInfo
  let iqData : DtmIqData := {
    channel := s.physCh.toUInt8
    rssi := Int16.ofInt (-(ev.rssiSample.toNat : ℤ))
    rssiAnt := b.pduAntenna
    type := type
    slot := slot
    status := .crcOk
    sampleCnt := ev.dfeAmount
    samples := s.cteInfo.data }
  pure { s with iqReports := s.iqReports ++ [(iqRepCb, iqData)] }

/-- The report is made when a callback is set. -/
def reportIqTo (b : Build) (ev : RadioEvent) (s : Device) : Except Fault Device :=
  match s.cteInfo.iqRepCb with
  | some iqRepCb => reportIq b ev iqRepCb s
  | none => .ok s

/-! ### Checking a PDU -/

/-- What `check_pdu` compares the payload of a PDU type with. -/
inductive PduReference
  | content (reference : List UInt8)
  | pattern (pattern : UInt8)

/-- The reference of each PDU type: a table or a repeated octet. -/
def DtmPduType.reference : DtmPduType → PduReference
  | prbs9 => .content dtmPrbs9Content
  | pkt0F => .pattern rfphyTest0x0FRefPattern
  | pkt55 => .pattern rfphyTest0x55RefPattern
  | prbs15 => .content dtmPrbs15Content
  | ff => .pattern rfphyTest0xFFRefPattern
  | pkt00 => .pattern rfphyTest0x00RefPattern
  | pktF0 => .pattern rfphyTest0xF0RefPattern
  | pktAA => .pattern rfphyTest0xAARefPattern

/-- A reference table is as long as the longest payload. -/
theorem length_reference {type : DtmPduType} {src : List UInt8} (h : type.reference = .content src)
    (length : UInt8) : length.toNat ≤ src.length := by
  have hlength : length.toNat ≤ 255 := Nat.le_of_lt_succ length.toNat_lt
  cases type with
  | prbs9 =>
    cases h
    rwa [length_dtmPrbs9Content]
  | prbs15 =>
    cases h
    rwa [length_dtmPrbs15Content]
  | pkt0F | pkt55 | ff | pkt00 | pktF0 | pktAA => cases h

/-- The type is beyond what the radio mode allows: three types on the uncoded PHYs, five on the
coded ones. -/
def pduTypeRefused (b : Build) (radioMode : RadioMode) (pduPacketType : UInt8) : Bool :=
  ((radioMode == .ble1Mbit || radioMode == .ble2Mbit) &&
    decide (DtmPduType.pkt55.code < pduPacketType)) ||
  (dtmHwRadioLrCheck b radioMode && decide (DtmPduType.ff.code < pduPacketType))

/-- `expected_sample_cnt`. -/
def expectedSampleCnt (cte : DtmCteInfo) : UInt8 :=
  UInt8.ofNat (8 + cte.time.toNat * 8 / (if cte.slot = .us1 then 2 else 4))

/-- The last check of `check_pdu`: the CTEInfo octet and the number of IQ samples. The octet is
compared with the number of the CTE mode, not with the CTEInfo that a transmitter writes. -/
def checkCte (b : Build) (ev : RadioEvent) (pdu : DtmPdu) (s : Device) :
    Except Fault (Bool × Device) :=
  if b.directionFinding && s.cteInfo.mode != .off then do
    let s ← reportIqTo b ev s
    let s := { s with cteInfo := { s.cteInfo with data := IqSamples.zero } }
    pure (decide (pdu 2 = s.cteInfo.mode.code) &&
      decide (expectedSampleCnt s.cteInfo = ev.dfeAmount), s)
  else .ok (true, s)

/-- The payload check of `check_pdu`. A reference table is compared at the payload; a repeated
octet is looked for from offset 2 on, with CTE as without. -/
def checkPayload (b : Build) (ev : RadioEvent) (reference : PduReference) (length : ℕ)
    (pdu : DtmPdu) (s : Device) : Except Fault (Bool × Device) :=
  match reference with
  | .content reference => do
    let payload ← inBounds (pdu.slice (headerLen s.cteInfo.mode) length)
    let expected ← inBounds (Buffer.firstOf reference length)
    pure (payload == expected, s)
  | .pattern pattern => do
    let octets ← inBounds (pdu.slice 2 length)
    if octets.all (· == pattern) then checkCte b ev pdu s else pure (false, s)

/-- `check_pdu`: the length, the type against the radio mode, and then the payload. The CTE is
checked after a repeated octet only. -/
def checkPdu (b : Build) (ev : RadioEvent) (pdu : DtmPdu) (s : Device) :
    Except Fault (Bool × Device) :=
  let pduPacketType := pdu 0 &&& 0x0F
  let length := (pdu 1).toNat
  if dtmPayloadMaxSize < length then .ok (false, s)
  else if pduTypeRefused b s.radioMode pduPacketType then .ok (false, s)
  else match DtmPduType.ofCode pduPacketType with
    | none => .ok (false, s)
    | some type => checkPayload b ev type.reference length pdu s

/-! ### The interrupt handlers -/

/-- `current_pdu` becomes the other buffer, and the radio gets it. -/
def radioBufferSwap (currentPdu : Fin 2) (s : Device) : Device :=
  let next : Fin 2 := if currentPdu = 0 then 1 else 0
  { s with currentPdu := some next, radio := { s.radio with packetPtr := some next } }

/-- The reception goes on with the other buffer. -/
def radioRestart (b : Build) (received : Fin 2) (s : Device) : Device :=
  let s := radioBufferSwap received s
  { s with
    radio := radioStart b true false s.radio
    anomalyTimer :=
      if b.errata172Present && s.anomaly172WaEnabled then ⟨true, true⟩ else s.anomalyTimer }

/-- `crc_ok && check_pdu`, as the result of the check. -/
def checkReceived (b : Build) (ev : RadioEvent) (pdu : DtmPdu) (s : Device) :
    Except Fault (Bool × Device) :=
  if ev.crcOk then checkPdu b ev pdu s else .ok (false, s)

/-- The two counters of `on_radio_end_event`. -/
def countPacket (crcOk pduOk : Bool) (s : Device) : Device :=
  if crcOk && pduOk then { s with rxPktCount := s.rxPktCount + 1 }
  else if !crcOk then { s with crcErrorCount := s.crcErrorCount + 1 }
  else s

/-- `on_radio_end_event` on the buffer `received`. -/
def receivedPdu (b : Build) (ev : RadioEvent) (received : Fin 2) (s : Device) :
    Except Fault Device := do
  -- the radio is restarted on the other buffer before this one is looked at
  let s := radioRestart b received s
  let (pduOk, s) ← checkReceived b ev (s.pdu received) s
  let s := countPacket ev.crcOk pduOk s
  pure { s with pdu := Function.update s.pdu received DtmPdu.zero }

/-- A packet is looked at in a receiver test only. The null pointer cannot be reached from a
started one. -/
def onRadioEndEvent (b : Build) (ev : RadioEvent) (s : Device) : Except Fault Device :=
  if s.state ≠ .receiverTest then .ok s
  else match s.currentPdu with
    | none => .error .bounds
    | some received => receivedPdu b ev received s

/-- The anomaly 172 timer follows the events of a running reception. -/
def anomalyTimerSet (b : Build) (enabled : Bool) (s : Device) : Device :=
  if b.errata172Present && s.state == .receiverTest && s.anomaly172WaEnabled then
    { s with anomalyTimer := { s.anomalyTimer with enabled := enabled } }
  else s

/-- The `END` part of `radio_handler`. -/
def radioHandlerEnd (b : Build) (ev : RadioEvent) (s : Device) : Except Fault Device :=
  if ev.ended then onRadioEndEvent b ev s else .ok s

/-- `radio_handler`: the three events, in the source's order. -/
def radioHandler (b : Build) (ev : RadioEvent) (s : Device) : Except Fault Device := do
  let s ← radioHandlerEnd b ev (if ev.address then anomalyTimerSet b false s else s)
  pure (if ev.ready then anomalyTimerSet b true s else s)

/-- One radio interrupt: the radio's writes to memory, then the handler. -/
def radioIrq (b : Build) (ev : RadioEvent) (s : Device) : Except Fault Device :=
  radioHandler b ev (radioDma b ev s)

/-! ### The faults of a reception -/

/-- The faults that an interrupt of the radio can raise. -/
def Fault.OfReception (e : Fault) : Prop := e = .cteMode ∨ e = .cteSlot ∨ e = .bounds

theorem inBounds_ofReception {α : Type} {o : Option α} {e : Fault} (h : inBounds o = .error e) :
    e.OfReception := by
  cases o with
  | none =>
    cases h
    exact .inr (.inr rfl)
  | some a => cases h

theorem iqReportType_ofReception {cte : DtmCteInfo} {e : Fault} (h : iqReportType cte = .error e) :
    e.OfReception := by
  rw [iqReportType] at h
  split at h
  · split at h <;> cases h
    exact .inl rfl
  · cases h
  · cases h
    exact .inl rfl

theorem iqReportSlot_ofReception {cte : DtmCteInfo} {e : Fault} (h : iqReportSlot cte = .error e) :
    e.OfReception := by
  rw [iqReportSlot] at h
  split at h <;> cases h
  exact .inr (.inl rfl)

/-- A report meets its two assertions only. -/
theorem reportIqTo_ofReception {b : Build} {ev : RadioEvent} {s : Device} {e : Fault}
    (h : reportIqTo b ev s = .error e) : e.OfReception := by
  rw [reportIqTo] at h
  split at h
  · rcases bind_eq_error.1 h with h | ⟨type, -, h⟩
    · exact iqReportType_ofReception h
    · rcases bind_eq_error.1 h with h | ⟨slot, -, h⟩
      · exact iqReportSlot_ofReception h
      · cases h
  · cases h

theorem checkCte_ofReception {b : Build} {ev : RadioEvent} {pdu : DtmPdu} {s : Device} {e : Fault}
    (h : checkCte b ev pdu s = .error e) : e.OfReception := by
  rw [checkCte] at h
  split at h
  · rcases bind_eq_error.1 h with h | ⟨t, -, h⟩
    · exact reportIqTo_ofReception h
    · cases h
  · cases h

/-- The check fails on its accesses and on the assertions of the report, and in no other way. -/
theorem checkPdu_ofReception {b : Build} {ev : RadioEvent} {pdu : DtmPdu} {s : Device} {e : Fault}
    (h : checkPdu b ev pdu s = .error e) : e.OfReception := by
  unfold checkPdu at h
  simp only at h
  split_ifs at h
  split at h
  · cases h
  · unfold checkPayload at h
    split at h
    · rcases bind_eq_error.1 h with h | ⟨payload, -, h⟩
      · exact inBounds_ofReception h
      · rcases bind_eq_error.1 h with h | ⟨expected, -, h⟩
        · exact inBounds_ofReception h
        · cases h
    · rcases bind_eq_error.1 h with h | ⟨octets, -, h⟩
      · exact inBounds_ofReception h
      · split at h
        · exact checkCte_ofReception h
        · cases h

theorem receivedPdu_ofReception {b : Build} {ev : RadioEvent} {received : Fin 2} {s : Device}
    {e : Fault} (h : receivedPdu b ev received s = .error e) : e.OfReception := by
  rcases bind_eq_error.1 h with h | ⟨x, -, h⟩
  · rw [checkReceived] at h
    split at h
    · exact checkPdu_ofReception h
    · cases h
  · cases h

theorem radioHandlerEnd_ofReception {b : Build} {ev : RadioEvent} {s : Device} {e : Fault}
    (h : radioHandlerEnd b ev s = .error e) : e.OfReception := by
  rw [radioHandlerEnd, onRadioEndEvent] at h
  split_ifs at h
  split at h
  · cases h
    exact .inr (.inr rfl)
  · exact receivedPdu_ofReception h

/-- **An interrupt asks for no frequency.** -/
theorem radioIrq_ofReception {b : Build} {ev : RadioEvent} {s : Device} {e : Fault}
    (h : radioIrq b ev s = .error e) : e.OfReception := by
  rcases bind_eq_error.1 h with h | ⟨t, -, h⟩
  · exact radioHandlerEnd_ofReception h
  · cases h

/-! ### The timer of the anomaly 172 workaround -/

/-- One interrupt of the anomaly timer, with what its handler reads from the radio. -/
structure AnomalyEvent where
  /-- The event is `COMPARE1`, else `COMPARE0`. -/
  compare1 : Bool
  rssi : UInt8
  detectCnt : UInt16
  addrCnt : UInt16

/-- The strict mode that the handler decides on. -/
def anomalyStrictMode (ev : AnomalyEvent) (strictMode : Bool) : Bool :=
  if ev.compare1 then decide (ev.rssi.toNat < 95)
  else if strictMode then decide (ev.rssi.toNat ≤ 95)
  else decide (ev.rssi.toNat < 95) ||
    (decide (15 < ev.detectCnt.toNat) && decide (ev.addrCnt.toNat < 2))

/-- `anomaly_timer_handler`: the strict mode follows the signal strength. `COMPARE0` starts the
timer anew, and `COMPARE1` switches itself off. -/
def anomalyTimerHandler (ev : AnomalyEvent) (s : Device) : Device :=
  let s := { s with strictMode := anomalyStrictMode ev s.strictMode }
  if ev.compare1 then { s with anomalyTimer := { s.anomalyTimer with compare1 := false } }
  else { s with anomalyTimer := { s.anomalyTimer with enabled := true } }

/-! ### The frame of an interrupt -/

/-- The fields that no interrupt of the radio writes: the machine state and the settings. -/
structure KeepsSetup (s s' : Device) : Prop where
  state : s'.state = s.state
  packetLen : s'.packetLen = s.packetLen
  packetType : s'.packetType = s.packetType
  physCh : s'.physCh = s.physCh
  packetHdrPlen : s'.packetHdrPlen = s.packetHdrPlen
  anomaly172WaEnabled : s'.anomaly172WaEnabled = s.anomaly172WaEnabled
  radioMode : s'.radioMode = s.radioMode
  txpower : s'.txpower = s.txpower
  cteInfo : s'.cteInfo = { s.cteInfo with data := s'.cteInfo.data }
  fem : s'.fem = s.fem
  ppiRadioStart : s'.ppiRadioStart = s.ppiRadioStart
  timer : s'.timer = s.timer
  timerInit : s'.timerInit = s.timerInit
  patterns : s'.patterns = s.patterns

namespace KeepsSetup

theorem refl (s : Device) : KeepsSetup s s := by
  constructor <;> rfl

theorem trans {s s' s'' : Device} (h : KeepsSetup s s') (h' : KeepsSetup s' s'') :
    KeepsSetup s s'' where
  state := h'.state.trans h.state
  packetLen := h'.packetLen.trans h.packetLen
  packetType := h'.packetType.trans h.packetType
  physCh := h'.physCh.trans h.physCh
  packetHdrPlen := h'.packetHdrPlen.trans h.packetHdrPlen
  anomaly172WaEnabled := h'.anomaly172WaEnabled.trans h.anomaly172WaEnabled
  radioMode := h'.radioMode.trans h.radioMode
  txpower := h'.txpower.trans h.txpower
  cteInfo := by
    rw [h'.cteInfo, h.cteInfo]
  fem := h'.fem.trans h.fem
  ppiRadioStart := h'.ppiRadioStart.trans h.ppiRadioStart
  timer := h'.timer.trans h.timer
  timerInit := h'.timerInit.trans h.timerInit
  patterns := h'.patterns.trans h.patterns

end KeepsSetup

/-- The radio writes to its buffer and to the sample memory. -/
theorem radioDma_keepsSetup (b : Build) (ev : RadioEvent) (s : Device) :
    KeepsSetup s (radioDma b ev s) := by
  rw [radioDma]
  split
  · constructor <;> try rfl
    split <;> rfl
  · exact .refl s

/-- A report is added to the reports, and nothing else is written. -/
theorem reportIqTo_ok {b : Build} {ev : RadioEvent} {s t : Device}
    (h : reportIqTo b ev s = .ok t) : t = { s with iqReports := t.iqReports } := by
  rw [reportIqTo] at h
  split at h
  · obtain ⟨type, -, h⟩ := bind_eq_ok.1 h
    obtain ⟨slot, -, h⟩ := bind_eq_ok.1 h
    cases h
    rfl
  · cases h
    rfl

/-- `check_pdu` writes the sample memory and the reports only. -/
theorem checkPdu_ok {b : Build} {ev : RadioEvent} {pdu : DtmPdu} {s : Device} {x : Bool × Device}
    (h : checkPdu b ev pdu s = .ok x) :
    x.2 = { s with
      cteInfo := { s.cteInfo with data := x.2.cteInfo.data }
      iqReports := x.2.iqReports } := by
  -- only the last check writes anything
  have hcte {x : Bool × Device} (h : checkCte b ev pdu s = .ok x) :
      x.2 = { s with
        cteInfo := { s.cteInfo with data := x.2.cteInfo.data }
        iqReports := x.2.iqReports } := by
    rw [checkCte] at h
    split at h
    · obtain ⟨t, ht, h⟩ := bind_eq_ok.1 h
      cases h
      rw [reportIqTo_ok ht]
    · cases h
      rfl
  unfold checkPdu at h
  simp only at h
  split_ifs at h
  · cases h
    rfl
  · cases h
    rfl
  · split at h
    · cases h
      rfl
    · unfold checkPayload at h
      split at h
      · obtain ⟨payload, -, h⟩ := bind_eq_ok.1 h
        obtain ⟨expected, -, h⟩ := bind_eq_ok.1 h
        cases h
        rfl
      · obtain ⟨octets, -, h⟩ := bind_eq_ok.1 h
        split at h
        · exact hcte h
        · cases h
          rfl

/-- **What a received packet leaves behind**: the radio goes on with the other buffer, the sample
memory and the reports are those of the check, a counter may have moved, and the buffer is
cleared. -/
theorem receivedPdu_ok {b : Build} {ev : RadioEvent} {received : Fin 2} {s s' : Device}
    (h : receivedPdu b ev received s = .ok s') :
    s' = { radioRestart b received s with
      pdu := Function.update s.pdu received DtmPdu.zero
      rxPktCount := s'.rxPktCount
      crcErrorCount := s'.crcErrorCount
      cteInfo := { s.cteInfo with data := s'.cteInfo.data }
      iqReports := s'.iqReports } := by
  obtain ⟨⟨pduOk, t⟩, ht, h⟩ := bind_eq_ok.1 h
  have hcheck : t = { radioRestart b received s with
      cteInfo := { s.cteInfo with data := t.cteInfo.data }
      iqReports := t.iqReports } := by
    rw [checkReceived] at ht
    split at ht
    · exact checkPdu_ok ht
    · cases ht
      rfl
  cases h
  simp only [countPacket]
  rw [hcheck]
  split_ifs <;> rfl

theorem receivedPdu_keepsSetup {b : Build} {ev : RadioEvent} {received : Fin 2} {s s' : Device}
    (h : receivedPdu b ev received s = .ok s') : KeepsSetup s s' := by
  rw [receivedPdu_ok h]
  constructor <;> rfl

/-- Following an event writes the anomaly timer only. -/
theorem anomalyTimerSet_eq (b : Build) (enabled : Bool) (s : Device) :
    anomalyTimerSet b enabled s =
      { s with anomalyTimer := (anomalyTimerSet b enabled s).anomalyTimer } := by
  rw [anomalyTimerSet]
  split <;> rfl

theorem anomalyTimerSet_keepsSetup (b : Build) (enabled : Bool) (s : Device) :
    KeepsSetup s (anomalyTimerSet b enabled s) := by
  rw [anomalyTimerSet_eq]
  constructor <;> rfl

/-- The `END` event changes no setting, in whatever state it arrives. Outside of a receiver test
it does nothing at all. -/
theorem onRadioEndEvent_keepsSetup {b : Build} {ev : RadioEvent} {s s' : Device}
    (h : onRadioEndEvent b ev s = .ok s') : KeepsSetup s s' := by
  rw [onRadioEndEvent] at h
  split at h
  · cases h
    exact .refl s
  · split at h
    · cases h
    · exact receivedPdu_keepsSetup h

/-- **The rule of an interrupt.** What the radio's writes, the anomaly timer and the `END` event
keep, the interrupt keeps. -/
theorem radioIrq_rule {b : Build} {ev : RadioEvent} {R : Device → Device → Prop}
    (hrefl : ∀ s, R s s) (htrans : ∀ {s t u}, R s t → R t u → R s u)
    (hdma : ∀ s, R s (radioDma b ev s))
    (htimer : ∀ enabled s, R s (anomalyTimerSet b enabled s))
    (hend : ∀ {s t}, onRadioEndEvent b ev s = .ok t → R s t) {s s' : Device}
    (h : radioIrq b ev s = .ok s') : R s s' := by
  refine htrans (hdma s) ?_
  obtain ⟨t, ht, h⟩ := bind_eq_ok.1 h
  -- `ADDRESS`, `END` and `READY`, in the order of the handler
  have hbefore : R (radioDma b ev s)
      (if ev.address then anomalyTimerSet b false (radioDma b ev s) else radioDma b ev s) := by
    split
    · exact htimer false _
    · exact hrefl _
  have hevent : R (radioDma b ev s) t := by
    rw [radioHandlerEnd] at ht
    split at ht
    · exact htrans hbefore (hend ht)
    · cases ht
      exact hbefore
  cases h
  refine htrans hevent ?_
  split
  · exact htimer true t
  · exact hrefl t

/-- **An interrupt changes no setting and no machine state.** -/
theorem radioIrq_keepsSetup {b : Build} {ev : RadioEvent} {s s' : Device}
    (h : radioIrq b ev s = .ok s') : KeepsSetup s s' :=
  radioIrq_rule .refl .trans (radioDma_keepsSetup b ev) (anomalyTimerSet_keepsSetup b)
    onRadioEndEvent_keepsSetup h

/-- **The anomaly timer changes no setting.** The strict mode is not one of them. -/
theorem anomalyTimerHandler_keepsSetup (ev : AnomalyEvent) (s : Device) :
    KeepsSetup s (anomalyTimerHandler ev s) := by
  rw [anomalyTimerHandler]
  simp only
  split_ifs <;> constructor <;> rfl

end DirectTestMode
