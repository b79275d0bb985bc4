import DirectTestMode.Properties.EventStream
import DirectTestMode.Properties.IqEvents
import DirectTestMode.Properties.IqReports

/-!
# The IQ reports of the library as events

The callback of the HCI transport makes an event of a report, or none (`iqReport_event`): it drops a
report of more samples than an event has place for. `reportOctets` says which of the two, and with
which parameters. It depends on the report alone, not on what `iq_report_evt` finds in its buffer or
behind the samples.

The library makes at most one report in an interrupt of the radio (`radioIrq_reports`), and none in
a call (`api_iqReports`).

## Two facts about one list

`Device.iqReports` is the list of the reports that the library has made, each with the callback it
was made to. It is what a run of the node compares its events with, and the two halves of this
module are about the two ends of it.

* **What is made of a report.** A report is a structure with a pointer to samples, and a callback
  that read too far would find stray memory there; `reportOctets` fixes that memory to zero, and
  `reportOctets_eq` says that any other gives the same, up to the samples that an event can hold.
  The event is well formed, and its code is not that of a reply (`exists_reportEvent`), so that the
  tester can tell the two apart.
* **Where reports come from.** The handler of an `END` event makes one from within `check_pdu` at
  most, and `OneReport` goes through the layers of the handler, from the check to the interrupt.
  Everything else leaves the list as it is.

With a wrapped size the callback overruns its buffer, which is a fault and has no event; that part
is in `Properties.IqEvents`.
-/

namespace DirectTestMode

open Fallible

namespace Hci

/-! ### Reports and events -/

/-- The parameters of the event of a report, if there is one. -/
def reportOctets (report : DtmIqData) : Option (List UInt8) :=
  let iqData := IqData.ofReport (fun _ ↦ 0) report
  if iqData.sampleCnt.toNat ≤ sampleCountMax then
    (cteTypeCode report.type).map fun cteType ↦
      iqReportFixed iqData cteType (slotDurationsCode report.slot)
        (packetStatusCode report.status) ++ samplesOctets iqData.samples 0 iqData.sampleCnt.toNat
  else none

/-- Samples that there are do not depend on what lies behind them. -/
theorem samplesOctets_ofReport (stray stray' : ℕ → UInt32) (report : DtmIqData) {left : ℕ}
    (hleft : left ≤ sampleCountMax) :
    samplesOctets (IqData.ofReport stray report).samples 0 left =
      samplesOctets (IqData.ofReport stray' report).samples 0 left := by
  refine List.flatMap_congr fun k hk ↦ ?_
  have hk : k < 0x52 := by
    rw [List.mem_range'_1] at hk
    exact lt_of_lt_of_le (by omega) hleft
  show sampleOctets (.ofWord (dite _ _ _)) = sampleOctets (.ofWord (dite _ _ _))
  rw [dif_pos hk, dif_pos hk]

/-- The octets of a report, whatever lies behind its samples. -/
theorem reportOctets_eq (stray : ℕ → UInt32) {report : DtmIqData} {cteType : UInt8}
    (htype : cteTypeCode report.type = some cteType)
    (hcnt : report.sampleCnt.toNat ≤ sampleCountMax) :
    reportOctets report = some (iqReportFixed (.ofReport stray report) cteType
      (slotDurationsCode report.slot) (packetStatusCode report.status) ++
        samplesOctets (IqData.ofReport stray report).samples 0 report.sampleCnt.toNat) := by
  rw [samplesOctets_ofReport stray (fun _ ↦ 0) report hcnt]
  exact (if_pos hcnt).trans (congrArg (Option.map _) htype)

/-- The fixed part and two octets for each sample. -/
theorem length_reportOctets {report : DtmIqData} {pld : List UInt8}
    (h : reportOctets report = some pld) :
    pld.length = iqReportSize + report.sampleCnt.toNat * 2 ∧
      report.sampleCnt.toNat ≤ sampleCountMax := by
  rw [reportOctets] at h
  split_ifs at h with hcnt
  · obtain ⟨cteType, -, rfl⟩ := Option.map_eq_some_iff.1 h
    refine ⟨?_, hcnt⟩
    rw [List.length_append, length_iqReportFixed, length_samplesOctets]
    rfl

/-- A report of a type with a number has an event, unless it has too many samples. -/
theorem reportOctets_isSome {report : DtmIqData} (h : (cteTypeCode report.type).isSome) :
    (reportOctets report).isSome ↔ report.sampleCnt.toNat ≤ sampleCountMax := by
  obtain ⟨cteType, htype⟩ := Option.isSome_iff_exists.1 h
  constructor
  · intro hsome
    obtain ⟨pld, hpld⟩ := Option.isSome_iff_exists.1 hsome
    exact (length_reportOctets hpld).2
  · intro hcnt
    rw [reportOctets_eq (fun _ ↦ 0) htype hcnt]
    rfl

/-- The parameters of a report are those of an event, in which a receiver finds them. -/
theorem exists_reportEvent {report : DtmIqData} {pld : List UInt8}
    (h : reportOctets report = some pld) :
    ∃ e : Event, e.header = [0x3E, UInt8.ofNat pld.length] ∧ e.pld = pld ∧
      e.pld.length ≤ connectionlessIqReportMaxSize ∧
      eventOpcode e.record = none ∧ eventReport e.record = some pld := by
  obtain ⟨hlen, hcnt⟩ := length_reportOctets h
  rw [sampleCountMax] at hcnt
  rw [iqReportSize] at hlen
  refine ⟨⟨0x3E, pld, by omega⟩, rfl, rfl, ?_, rfl, rfl⟩
  show pld.length ≤ 13 + 0x52 * 2
  omega

/-- **What the callback makes of a report**: the event with the parameters of the report, or
nothing. -/
theorem iqReport_event {stray : ℕ → UInt32} {report : DtmIqData} {buf : IqBuffer}
    {r : Option HciEvent} (h : iqReport (.ofReport stray report) buf = .ok r) :
    r = (reportOctets report).map fun pld ↦ ⟨0x3E, UInt8.ofNat pld.length, pld⟩ := by
  have hnone (hvalid : ¬(IqData.ofReport stray report).Valid)
      (hoctets : reportOctets report = none) :
      r = (reportOctets report).map fun pld ↦ ⟨0x3E, UInt8.ofNat pld.length, pld⟩ := by
    rw [hoctets]
    exact (Except.ok.inj ((iqReport_invalid hvalid buf).symm.trans h)).symm
  rcases htype : cteTypeCode report.type with - | cteType
  · -- the type has no number in an event
    refine hnone (fun hvalid ↦ ?_) ?_
    · have hcode : (cteTypeCode report.type).isSome := hvalid.1
      rw [htype] at hcode
      cases hcode
    · rw [reportOctets, htype, Option.map_none]
      exact ite_self none
  · have hvalid : (IqData.ofReport stray report).Valid := by
      refine ⟨?_, rfl, rfl⟩
      show (cteTypeCode report.type).isSome
      rw [htype]
      rfl
    by_cases hcnt : report.sampleCnt.toNat ≤ sampleCountMax
    · have hoctets := reportOctets_eq stray htype hcnt
      have hsent := @iqReport_sent (.ofReport stray report) _ _ _ htype rfl rfl hcnt buf
      rw [← Except.ok.inj (hsent.symm.trans h), hoctets, Option.map_some,
        (length_reportOctets hoctets).1]
      rfl
    · -- more samples than there may be are dropped, or overrun the buffer
      have hoctets : reportOctets report = none := if_neg hcnt
      rw [hoctets, Option.map_none]
      by_cases hwraps : (IqData.ofReport stray report).Wraps
      · cases (iqReport_overrun hvalid hwraps buf).symm.trans h
      · have hdropped : iqReport (.ofReport stray report) buf = .ok none :=
          iqReport_dropped (not_or.2 ⟨hcnt, hwraps⟩) buf
        exact (Except.ok.inj (hdropped.symm.trans h)).symm

end Hci

/-! ### The reports of the library -/

variable {b : Build} {ev : RadioEvent} {s s' : Device}

/-- From `s` to `s'` at most one report was made, of a type that has a number in an event. -/
def OneReport (s s' : Device) : Prop :=
  ∃ r : Option (CodePtr × DtmIqData), s'.iqReports = s.iqReports ++ r.toList ∧
    ∀ report ∈ r, (Hci.cteTypeCode report.2.type).isSome

theorem OneReport.of_eq (h : s'.iqReports = s.iqReports) : OneReport s s' :=
  ⟨none, by rw [h, Option.toList_none, List.append_nil], nofun⟩

theorem reportIqTo_reports (h : reportIqTo b ev s = .ok s') : OneReport s s' := by
  rw [reportIqTo] at h
  split at h
  · obtain ⟨type, htype, h⟩ := bind_eq_ok.1 h
    obtain ⟨slot, -, h⟩ := bind_eq_ok.1 h
    cases h
    refine ⟨some _, rfl, fun report hreport ↦ ?_⟩
    cases hreport
    show (Hci.cteTypeCode type).isSome
    rw [iqReportType] at htype
    split at htype
    · split at htype <;> cases htype <;> rfl
    · cases htype
      rfl
    · cases htype
  · cases h
    exact .of_eq rfl

/-- The check of a packet reports once at most. -/
theorem checkPdu_reports {pdu : DtmPdu} {x : Bool × Device} (h : checkPdu b ev pdu s = .ok x) :
    OneReport s x.2 := by
  have hsame {r : Bool} (h : (.ok (r, s) : Except Fault (Bool × Device)) = .ok x) :
      OneReport s x.2 := by
    cases h
    exact .of_eq rfl
  unfold checkPdu at h
  simp only at h
  split_ifs at h
  · exact hsame h
  · exact hsame h
  · split at h
    · exact hsame h
    unfold checkPayload at h
    split at h
    · obtain ⟨payload, -, h⟩ := bind_eq_ok.1 h
      obtain ⟨expected, -, h⟩ := bind_eq_ok.1 h
      exact hsame h
    · obtain ⟨octets, -, h⟩ := bind_eq_ok.1 h
      split at h
      · rw [checkCte] at h
        split at h
        · obtain ⟨t, ht, h⟩ := bind_eq_ok.1 h
          cases h
          have hreports := reportIqTo_reports ht
          exact hreports
        · exact hsame h
      · exact hsame h

/-- The counters and the cleared buffer add no report. -/
theorem receivedPdu_reports {received : Fin 2} (h : receivedPdu b ev received s = .ok s') :
    OneReport s s' := by
  obtain ⟨x, hx, h⟩ := bind_eq_ok.1 h
  cases h
  have hchecked : OneReport s x.2 := by
    rw [checkReceived] at hx
    split at hx
    · have hreports := checkPdu_reports hx
      exact hreports
    · cases hx
      exact .of_eq rfl
  rw [OneReport, ← countPacket_iqReports ev.crcOk x.1] at hchecked
  exact hchecked

theorem radioHandlerEnd_reports (h : radioHandlerEnd b ev s = .ok s') : OneReport s s' := by
  have hsame (h : Except.ok s = (Except.ok s' : Except Fault Device)) : OneReport s s' := by
    cases h
    exact .of_eq rfl
  rw [radioHandlerEnd] at h
  split at h
  · rw [onRadioEndEvent] at h
    split at h
    · exact hsame h
    · split at h
      · cases h
      · exact receivedPdu_reports h
  · exact hsame h

theorem anomalyTimerSet_iqReports (b : Build) (enabled : Bool) (s : Device) :
    (anomalyTimerSet b enabled s).iqReports = s.iqReports := by
  rw [anomalyTimerSet_eq]

/-- **An interrupt of the radio makes at most one report.** -/
theorem radioIrq_reports (h : radioIrq b ev s = .ok s') : OneReport s s' := by
  obtain ⟨t, ht, h⟩ := bind_eq_ok.1 h
  cases h
  -- the events `ADDRESS` and `READY` report nothing
  have hset (c enabled : Bool) (u : Device) :
      (if c then anomalyTimerSet b enabled u else u : Device).iqReports = u.iqReports := by
    split
    · exact anomalyTimerSet_iqReports b enabled u
    · rfl
  have hreports := radioHandlerEnd_reports ht
  rwa [OneReport, hset, radioDma_iqReports, ← hset ev.ready true t] at hreports

/-- **A call makes no report**, once the library is initialised. -/
theorem api_iqReports {c : Call} {x : dtm.Res c × Device} (hinit : s.timerInit = true)
    (h : api b c s = .ok x) : x.2.iqReports = s.iqReports := by
  cases hc : c.isSetup with
  | true => exact (api_keepsTest (fun _ _ _ ↦ hinit) hc h).iqReports
  | false => exact (api_keepsSettings hc h).iqReports

theorem Device.step_anomaly_iqReports {ev : AnomalyEvent} (h : s.step b (.anomaly ev) = .ok s') :
    s'.iqReports = s.iqReports := by
  cases h
  split
  · rw [anomalyTimerHandler]
    simp only
    split_ifs <;> rfl
  · rfl

/-- The initialisation reports nothing. -/
theorem Initialised.iqReports (h : Initialised b s) : s.iqReports = [] := by
  obtain ⟨env, callback, h⟩ := h
  obtain ⟨radio, rfl⟩ := dtmInit_ok h
  rfl

end DirectTestMode
