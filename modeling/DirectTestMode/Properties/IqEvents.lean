import DirectTestMode.Transport.HciIqReport

/-!
# The events of the IQ reports

`iq_report_evt` compares the size of the event with that of its buffer, but only what is left of the
size in the length octet. From 122 samples on the sum wraps: the octet is small again, the check
lets the report through, and the samples are written behind the buffer (`iqReport_overrun`). For
some of the larger counts the wrapped octet is above the limit all the same, and the report is
dropped. `iq_report_evt_iff` draws the line.

## The arithmetic

An event of `n` samples has `13 + 2 * n` octets behind its header, and the buffer takes 177, which
are 82 samples. The octet holds the sum modulo 256 (`toNat_iqReportLen`):

* up to 82 samples it is the size, and the report fits;
* from 83 to 121 it is the size, and too large: the report is dropped, as it should be;
* from 122 to 210 it is the size less 256, at most 177, and the report goes through;
* from 211 to 249 it is above 177 again, and the report is dropped, by luck;
* from 250 on the size less 512 is small once more.

`IqData.Wraps` is the third and the fifth of these, and `iqReportLen_le_iff` the whole table.

## What is asked of a report

`ReportsInside` has no clause on memory of its own: a write behind the buffer is the fault `bounds`
of the model, so that a report with a result has stayed inside. An invalid report is dropped before
anything is written, which is why the condition is a conjunction. The last section asks which of
this the library can bring about: what it reports is always valid, and its counts are those of the
radio (`reportIq_overruns_iff`).
-/

namespace DirectTestMode.Hci

open Fallible

variable {iqData : IqData} {buf : IqBuffer}

/-! ### What a report is to do -/

/-- The type, the slot and the status are ones that an event has a number for. -/
def IqData.Valid (iqData : IqData) : Prop :=
  (iqData.type.bind cteTypeCode).isSome ∧ iqData.slot.isSome ∧ iqData.status.isSome

/-- The size of the event in octets, behind its header. -/
def IqData.size (iqData : IqData) : ℕ := iqReportSize + iqData.sampleCnt.toNat * 2

/-- The report stays inside the buffer, and an event that is sent announces its size and has it; a
valid report of no more samples than there may be is sent. -/
def ReportsInside (iqData : IqData) (buf : IqBuffer) : Prop :=
  ∃ r, iqReport iqData buf = .ok r ∧
    (∀ evt, r = some evt → evt.len.toNat = iqData.size ∧ evt.pld.length = iqData.size) ∧
    (iqData.sampleCnt.toNat ≤ sampleCountMax → iqData.Valid → r ≠ none)

/-- The counts whose size wraps to one that the check lets through. -/
def IqData.Wraps (iqData : IqData) : Prop :=
  122 ≤ iqData.sampleCnt.toNat ∧ iqData.sampleCnt.toNat ≤ 210 ∨ 250 ≤ iqData.sampleCnt.toNat

/-! ### What it does -/

/-- The length octet is the size modulo 256. -/
theorem toNat_iqReportLen (iqData : IqData) :
    (13 + 2 * iqData.sampleCnt : UInt8).toNat = iqData.size % 256 := by
  simp only [IqData.size, iqReportSize, UInt8.toNat_add, UInt8.toNat_mul, UInt8.toNat_ofNat]
  omega

/-- The check lets a report through if the size fits the buffer, or wraps. -/
theorem iqReportLen_le_iff (iqData : IqData) :
    (13 + 2 * iqData.sampleCnt : UInt8).toNat ≤ connectionlessIqReportMaxSize ↔
      iqData.sampleCnt.toNat ≤ sampleCountMax ∨ iqData.Wraps := by
  have hlt := iqData.sampleCnt.toNat_lt
  rw [toNat_iqReportLen]
  simp only [IqData.size, IqData.Wraps, iqReportSize, connectionlessIqReportMaxSize, sampleCountMax]
  omega

/-- An invalid report is dropped. -/
theorem iqReport_invalid (h : ¬ iqData.Valid) (buf : IqBuffer) :
    iqReport iqData buf = .ok none := by
  rw [IqData.Valid] at h
  rw [iqReport]
  simp only
  split_ifs
  · rfl
  · split
    · rename_i htype hslot hstatus
      exact absurd ⟨by rw [htype]; rfl, by rw [hslot]; rfl, by rw [hstatus]; rfl⟩ h
    · rfl

/-- A count whose octet is above the limit is dropped. -/
theorem iqReport_dropped (h : ¬ (iqData.sampleCnt.toNat ≤ sampleCountMax ∨ iqData.Wraps))
    (buf : IqBuffer) : iqReport iqData buf = .ok none := by
  rw [← iqReportLen_le_iff] at h
  rw [iqReport]
  exact if_pos (Nat.not_le.1 h)

/-- **A valid report that fits** is sent, the fixed part first and every sample behind it. -/
theorem iqReport_sent {cteType : UInt8} {slot : DtmCteSlotDuration} {status : DtmPacketStatus}
    (htype : iqData.type.bind cteTypeCode = some cteType) (hslot : iqData.slot = some slot)
    (hstatus : iqData.status = some status) (hcnt : iqData.sampleCnt.toNat ≤ sampleCountMax)
    (buf : IqBuffer) :
    iqReport iqData buf = .ok (some ⟨0x3E, UInt8.ofNat iqData.size,
      iqReportFixed iqData cteType (slotDurationsCode slot) (packetStatusCode status) ++
        samplesOctets iqData.samples 0 iqData.sampleCnt.toNat⟩) := by
  let fixed := iqReportFixed iqData cteType (slotDurationsCode slot) (packetStatusCode status)
  have hsize : iqData.size ≤ connectionlessIqReportMaxSize := by
    simp only [IqData.size, connectionlessIqReportMaxSize]
    omega
  have hsize' : connectionlessIqReportMaxSize < 256 := by decide
  have hlen : (13 + 2 * iqData.sampleCnt : UInt8).toNat = iqData.size := by
    rw [toNat_iqReportLen]
    omega
  obtain ⟨buf₁, hcopy, hfront⟩ : ∃ buf₁, buf.memcpy 0 fixed fixed.length = some buf₁ ∧
      buf₁.slice 0 iqReportSize = some fixed := by
    have hcopy : buf.memcpy 0 fixed fixed.length = some _ :=
      buf.memcpy_eq (by rw [length_iqReportFixed]; decide) le_rfl
    refine ⟨_, hcopy, ?_⟩
    rw [← length_iqReportFixed iqData, Buffer.slice_memcpy hcopy, List.take_length]
  obtain ⟨buf', hbuf', hslice⟩ := @samplesWrite_ok iqData.samples iqData.sampleCnt.toNat 0
    (by rw [Nat.zero_add]; exact hsize) _ _ hfront
  rw [Nat.zero_add] at hslice
  rw [iqReport]
  simp only
  rw [if_neg (Nat.not_lt.2 (hlen.trans_le hsize)), htype, hslot, hstatus]
  simp only
  rw [hcopy, inBounds_some, ok_bind, hbuf', ok_bind, hlen]
  rw [show buf'.slice 0 iqData.size = _ from hslice, inBounds_some, ok_bind]
  exact congrArg (fun len ↦ Except.ok (some (HciEvent.mk 0x3E len _)))
    (UInt8.toNat_inj.1 (by rw [hlen, UInt8.toNat_ofNat_of_lt' (by simp [UInt8.size]; omega)]))

/-- With a buffer of the UART free, the event is queued. -/
theorem iqReportEvt_sent {cteType : UInt8} {slot : DtmCteSlotDuration} {status : DtmPacketStatus}
    (htype : iqData.type.bind cteTypeCode = some cteType) (hslot : iqData.slot = some slot)
    (hstatus : iqData.status = some status) (hcnt : iqData.sampleCnt.toNat ≤ sampleCountMax)
    (buf : IqBuffer) {queueSize : ℕ} {tx : TxQueue} (hfree : tx.free ≠ 0)
    (hroom : iqData.size + 2 + 1 + 4 ≤ queueSize) :
    iqReportEvt queueSize iqData buf tx = .ok ⟨tx.free - 1, tx.queue ++
      [h4TypeEvt :: 0x3E :: UInt8.ofNat iqData.size ::
        (iqReportFixed iqData cteType (slotDurationsCode slot) (packetStatusCode status) ++
          samplesOctets iqData.samples 0 iqData.sampleCnt.toNat)]⟩ := by
  rw [iqReportEvt, iqReport_sent htype hslot hstatus hcnt]
  refine congrArg Except.ok ?_
  simp only [Option.elim_some, hciUartWrite]
  rw [if_neg hfree, if_neg]
  · rfl
  · rw [List.length_append, length_iqReportFixed, length_samplesOctets]
    exact Nat.not_lt.2 hroom

/-- **A valid report whose size wraps overruns the buffer.** The check has let it through, so the
loop over the samples runs to the end of the buffer and on. -/
theorem iqReport_overrun (hvalid : iqData.Valid) (hwraps : iqData.Wraps) (buf : IqBuffer) :
    iqReport iqData buf = .error .bounds := by
  obtain ⟨htype, hslot, hstatus⟩ := hvalid
  obtain ⟨cteType, htype⟩ := Option.isSome_iff_exists.1 htype
  obtain ⟨slot, hslot⟩ := Option.isSome_iff_exists.1 hslot
  obtain ⟨status, hstatus⟩ := Option.isSome_iff_exists.1 hstatus
  have hlen := (iqReportLen_le_iff iqData).2 (.inr hwraps)
  have hlong : connectionlessIqReportMaxSize < iqReportSize + (0 + iqData.sampleCnt.toNat) * 2 := by
    rw [IqData.Wraps] at hwraps
    simp only [connectionlessIqReportMaxSize, sampleCountMax, iqReportSize]
    omega
  have hpos : 0 < iqData.sampleCnt.toNat := by
    rw [IqData.Wraps] at hwraps
    omega
  rw [iqReport]
  simp only
  rw [if_neg (Nat.not_lt.2 hlen), htype, hslot, hstatus]
  simp only
  rw [buf.memcpy_eq (by rw [length_iqReportFixed]; decide) le_rfl, inBounds_some, ok_bind,
    samplesWrite_error hpos hlong]
  rfl

/-- A report that does not wrap does what it is to do. -/
theorem reportsInside (h : ¬ (iqData.Valid ∧ iqData.Wraps)) (buf : IqBuffer) :
    ReportsInside iqData buf := by
  have hnone (hdropped : iqReport iqData buf = .ok none)
      (hmust : ¬ (iqData.sampleCnt.toNat ≤ sampleCountMax ∧ iqData.Valid)) :
      ReportsInside iqData buf :=
    ⟨none, hdropped, nofun, fun hcnt hvalid ↦ absurd ⟨hcnt, hvalid⟩ hmust⟩
  by_cases hvalid : iqData.Valid
  · have hwraps : ¬ iqData.Wraps := fun hwraps ↦ h ⟨hvalid, hwraps⟩
    by_cases hcnt : iqData.sampleCnt.toNat ≤ sampleCountMax
    · obtain ⟨htype, hslot, hstatus⟩ := hvalid
      obtain ⟨cteType, htype⟩ := Option.isSome_iff_exists.1 htype
      obtain ⟨slot, hslot⟩ := Option.isSome_iff_exists.1 hslot
      obtain ⟨status, hstatus⟩ := Option.isSome_iff_exists.1 hstatus
      refine ⟨_, iqReport_sent htype hslot hstatus hcnt buf, fun evt hevt ↦ ?_,
        fun _ _ ↦ Option.some_ne_none _⟩
      cases hevt
      refine ⟨UInt8.toNat_ofNat_of_lt' ?_, ?_⟩
      · simp only [IqData.size, iqReportSize, UInt8.size, sampleCountMax] at hcnt ⊢
        omega
      · rw [List.length_append, length_iqReportFixed, length_samplesOctets, IqData.size]
    · exact hnone (iqReport_dropped (not_or.2 ⟨hcnt, hwraps⟩) buf) fun h ↦ hcnt h.1
  · exact hnone (iqReport_invalid hvalid buf) fun h ↦ hvalid h.2

/-- **IQ reports stay inside their buffer and announce their true length exactly when they are
invalid or their size does not wrap below the limit.** -/
theorem iq_report_evt_iff (iqData : IqData) (buf : IqBuffer) :
    ReportsInside iqData buf ↔ ¬ (iqData.Valid ∧ iqData.Wraps) := by
  refine ⟨?_, fun h ↦ reportsInside h buf⟩
  rintro ⟨r, hr, -⟩ ⟨hvalid, hwraps⟩
  cases (iqReport_overrun hvalid hwraps buf).symm.trans hr

/-- A report of `n` zero samples. -/
def zeroSamples (n : UInt8) : IqData where
  channel := 0
  rssi := -40
  rssiAnt := 0
  type := some .aoa
  slot := some .us1
  status := some .crcOk
  sampleCnt := n
  samples := fun _ ↦ ⟨0, 0⟩

/-- 122 samples announce an event of one octet, and are written up to 80 octets behind the
buffer. -/
theorem iqReport_122 :
    (13 + 2 * (zeroSamples 122).sampleCnt : UInt8) = 1 ∧
      ¬ ReportsInside (zeroSamples 122) (fun _ ↦ 0) := by
  refine ⟨rfl, fun h ↦ (iq_report_evt_iff _ _).1 h ⟨⟨rfl, rfl, rfl⟩, .inl ?_⟩⟩
  exact ⟨by decide, by decide⟩

/-! ### The reports of the library -/

/-- A valid report overruns the buffer exactly when its size wraps. -/
theorem iqReport_error_iff (hvalid : iqData.Valid) (buf : IqBuffer) :
    iqReport iqData buf = .error .bounds ↔ iqData.Wraps := by
  refine ⟨fun herror ↦ ?_, fun hwraps ↦ iqReport_overrun hvalid hwraps buf⟩
  by_contra hwraps
  obtain ⟨r, hr, -⟩ := reportsInside (fun h ↦ hwraps h.2) buf
  cases herror.symm.trans hr

/-- **What the library reports is valid**, so it overruns the buffer exactly for the counts of the
radio that wrap. -/
theorem reportIq_overruns_iff {b : Build} {ev : RadioEvent} {cb : CodePtr} {s t : Device}
    (h : reportIq b ev cb s = .ok t) :
    ∃ iqData, t.iqReports = s.iqReports ++ [(cb, iqData)] ∧ ∀ stray buf,
      iqReport (.ofReport stray iqData) buf = .error .bounds ↔
        122 ≤ ev.dfeAmount.toNat ∧ ev.dfeAmount.toNat ≤ 210 ∨ 250 ≤ ev.dfeAmount.toNat := by
  obtain ⟨type, htype, h⟩ := bind_eq_ok.1 h
  obtain ⟨slot, hslot, h⟩ := bind_eq_ok.1 h
  cases h
  refine ⟨_, rfl, fun stray buf ↦ ?_⟩
  have hknown : (cteTypeCode type).isSome := by
    rw [iqReportType] at htype
    split at htype
    · split at htype <;> cases htype <;> rfl
    · cases htype
      rfl
    · cases htype
  refine iqReport_error_iff ?_ buf
  exact ⟨hknown, rfl, rfl⟩

end DirectTestMode.Hci
