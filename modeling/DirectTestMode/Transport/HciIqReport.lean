import DirectTestMode.Dtm.Receive
import DirectTestMode.Transport.Hci

/-!
# IQ reports over HCI (`dtm_hci.c`)

`iq_report_evt` is the callback that the HCI transport registers. It lays an event out in a local
buffer, a packed structure of 13 octets and the samples behind it, and hands the event to the UART.
The length octet of the event is accumulated in eight bits and checked against the size of the
buffer afterwards; the samples are written by the count of the report.

So there are two lengths, and they part company when the sum wraps: the event then says one and the
loop writes by the other. The model keeps both. The buffer is a real buffer, of a fixed size with a
fault outside of it, and the loop writes into it sample by sample; `samplesWrite_ok` and
`samplesWrite_error` say exactly when it stays inside, by the number of samples and by nothing else.

What the callback is given is a structure in memory. An enumeration field may hold a number that is
no enumerator's, in which case the event is dropped, and the samples are what the memory behind the
pointer holds. `IqData.ofReport` is the structure of a report that the library makes. Its
enumerations are always good; its count comes from the radio and is not bounded by the sample
memory, so what is read behind the samples is a parameter.
-/

namespace DirectTestMode.Hci

open Fallible

/-! ### The report -/

/-- `struct dtm_iq_sample`. -/
structure IqSample where
  i : Int16
  q : Int16

/-- `struct dtm_iq_data`. An enumeration is `none` if the field holds no enumerator's number, and
the samples are what the memory behind the pointer holds. -/
structure IqData where
  channel : UInt8
  rssi : Int16
  rssiAnt : UInt8
  type : Option DtmCteType
  slot : Option DtmCteSlotDuration
  status : Option DtmPacketStatus
  sampleCnt : UInt8
  samples : ℕ → IqSample

/-- The octet of a CTE type. A report without an extension has none. -/
def cteTypeCode : DtmCteType → Option UInt8
  | .aoa => some 0x00
  | .aod1us => some 0x01
  | .aod2us => some 0x02
  | .none => none

/-- The octet of a slot. -/
def slotDurationsCode : DtmCteSlotDuration → UInt8
  | .us1 => 0x01
  | .us2 => 0x02

/-- The octet of a packet status. -/
def packetStatusCode : DtmPacketStatus → UInt8
  | .crcOk => 0x00
  | .crcErrTime => 0x01
  | .crcErrOther => 0x02
  | .crcErrInsufficient => 0xFF

/-- One half of a sample: `NRF_IQ_SAMPLE_INVALID` has an octet of its own. -/
def sampleOctet (v : Int16) : UInt8 := if v = -32768 then 0x80 else (v >>> 4).toInt8.toUInt8

/-- The two octets of a sample. -/
def sampleOctets (sample : IqSample) : List UInt8 := [sampleOctet sample.i, sampleOctet sample.q]

/-! ### The event -/

/-- `sizeof(struct hci_connectionless_iq_report_evt)`. -/
def iqReportSize : ℕ := 13

/-- `B_HCI_LE_CTE_REPORT_SAMPLE_COUNT_MAX`. -/
def sampleCountMax : ℕ := 0x52

/-- `CONNECTIONLESS_IQ_REPORT_MAX_SIZE`. -/
def connectionlessIqReportMaxSize : ℕ := iqReportSize + sampleCountMax * 2

/-- The local buffer of the event. -/
abbrev IqBuffer : Type := Buffer connectionlessIqReportMaxSize UInt8

/-- What is handed to `hci_uart_write`: the header of the event and what follows it. -/
structure HciEvent where
  evt : UInt8
  len : UInt8
  pld : List UInt8

/-- The packed structure before the samples: `SYNC_HANDLE_RECEIVER_TEST`, the fields of the report,
`per_evt_counter` and `sample_count`. -/
def iqReportFixed (iqData : IqData) (cteType slotDurations packetStatus : UInt8) : List UInt8 :=
  0x15 :: (le16 0x0FFF ++ [iqData.channel] ++ le16 iqData.rssi.toUInt16 ++
    [iqData.rssiAnt, cteType, slotDurations, packetStatus] ++ le16 0 ++ [iqData.sampleCnt])

/-- The loop over the samples, of which `left` are left from index `i` on. The count is read from
the buffer before each pass, and no pass writes there. -/
def samplesWrite (samples : ℕ → IqSample) : ℕ → ℕ → IqBuffer → Except Fault IqBuffer
  | 0, _, buf => .ok buf
  | left + 1, i, buf => do
    let buf ← inBounds (buf.memcpy (iqReportSize + i * 2) (sampleOctets (samples i)) 2)
    samplesWrite samples left (i + 1) buf

/-- `iq_report_evt` up to its `hci_uart_write`: the event, or none if it returns before. -/
def iqReport (iqData : IqData) (buf : IqBuffer) : Except Fault (Option HciEvent) :=
  -- the sum is one of octets
  let len : UInt8 := 13 + 2 * iqData.sampleCnt
  if connectionlessIqReportMaxSize < len.toNat then .ok none
  else match iqData.type.bind cteTypeCode, iqData.slot, iqData.status with
    | some cteType, some slot, some status => do
      let fixed := iqReportFixed iqData cteType (slotDurationsCode slot) (packetStatusCode status)
      let buf ← inBounds (buf.memcpy 0 fixed fixed.length)
      let buf ← samplesWrite iqData.samples iqData.sampleCnt.toNat 0 buf
      let pld ← inBounds (buf.slice 0 len.toNat)
      pure (some ⟨0x3E, len, pld⟩)
    | _, _, _ => .ok none

/-- `iq_report_evt`, with what its buffer holds when it is entered. -/
def iqReportEvt (queueSize : ℕ) (iqData : IqData) (buf : IqBuffer) (tx : TxQueue) :
    Except Fault TxQueue := do
  let evt ← iqReport iqData buf
  pure (evt.elim tx fun evt ↦ (hciUartWrite queueSize h4TypeEvt [evt.evt, evt.len] evt.pld tx).2)

/-! ### What the library reports -/

/-- A register word of the radio as a sample. -/
def IqSample.ofWord (word : UInt32) : IqSample :=
  ⟨word.toUInt16.toInt16, (word >>> 16).toUInt16.toInt16⟩

/-- The report of `report_iq`. Behind the sample memory lies what `stray` says. -/
def IqData.ofReport (stray : ℕ → UInt32) (iqData : DtmIqData) : IqData where
  channel := iqData.channel
  rssi := iqData.rssi
  rssiAnt := iqData.rssiAnt
  type := some iqData.type
  slot := some iqData.slot
  status := some iqData.status
  sampleCnt := iqData.sampleCnt
  samples := fun i ↦ .ofWord (if h : i < 0x52 then iqData.samples ⟨i, h⟩ else stray i)

/-! ### The loop -/

variable {samples : ℕ → IqSample}

/-- The octets of `left` samples from index `i` on. -/
def samplesOctets (samples : ℕ → IqSample) (i left : ℕ) : List UInt8 :=
  (List.range' i left).flatMap fun k ↦ sampleOctets (samples k)

theorem length_iqReportFixed (iqData : IqData) (cteType slotDurations packetStatus : UInt8) :
    (iqReportFixed iqData cteType slotDurations packetStatus).length = iqReportSize := rfl

/-- A sample takes two octets. -/
theorem length_samplesOctets (samples : ℕ → IqSample) (i left : ℕ) :
    (samplesOctets samples i left).length = left * 2 := by
  simp [samplesOctets, sampleOctets]

/-- **Samples that fit** are written one behind the other, and what stood in front of them stays.
The induction is on the samples left. -/
theorem samplesWrite_ok {left i : ℕ}
    (hfits : iqReportSize + (i + left) * 2 ≤ connectionlessIqReportMaxSize) {buf : IqBuffer}
    {front : List UInt8} (hfront : buf.slice 0 (iqReportSize + i * 2) = some front) :
    ∃ buf', samplesWrite samples left i buf = .ok buf' ∧
      buf'.slice 0 (iqReportSize + (i + left) * 2) =
        some (front ++ samplesOctets samples i left) := by
  induction left generalizing i buf front with
  | zero =>
    exact ⟨buf, rfl, hfront.trans (congrArg some (List.append_nil front).symm)⟩
  | succ left ih =>
    have hcopy : buf.memcpy (iqReportSize + i * 2) (sampleOctets (samples i)) 2 = some _ :=
      buf.memcpy_eq (by omega) le_rfl
    have hnext := Buffer.slice_memcpy_append hfront hcopy
    rw [show iqReportSize + i * 2 + (sampleOctets (samples i)).length =
      iqReportSize + (i + 1) * 2 by simp [sampleOctets]; omega] at hnext
    obtain ⟨buf', hbuf', hslice⟩ := ih (by omega) hnext
    refine ⟨buf', ?_, ?_⟩
    · rw [samplesWrite, hcopy]
      exact hbuf'
    · rw [show i + (left + 1) = i + 1 + left by omega, hslice, List.append_assoc]
      rfl

/-- **More samples than fit** are written behind the buffer. Where the last one that fits has
been written, the next one is the fault. -/
theorem samplesWrite_error {left i : ℕ} (hleft : 0 < left)
    (hlong : connectionlessIqReportMaxSize < iqReportSize + (i + left) * 2) (buf : IqBuffer) :
    samplesWrite samples left i buf = .error .bounds := by
  induction left generalizing i buf with
  | zero => omega
  | succ left ih =>
    rw [samplesWrite]
    by_cases hfits : iqReportSize + i * 2 + 2 ≤ connectionlessIqReportMaxSize
    · rw [buf.memcpy_eq hfits le_rfl]
      exact ih (by omega) (by omega) _
    · rw [Buffer.memcpy, if_neg fun h ↦ hfits h.1]
      rfl

end DirectTestMode.Hci
