import DirectTestMode.Dtm.PacketCount
import DirectTestMode.Properties.Loopback
import DirectTestMode.Properties.Response

/-!
# The packet report

A Receiver Test, any run of `END` events, and a Test End on the shared core: the response carries
the number of accepted packets modulo `2 ^ 15`, since the counter wraps at sixteen bits and the
report has room for fifteen.

* The counter is that of `Dtm.PacketCount`: after any run of `END` events it is the number of
  accepted packets modulo `2 ^ 16`, where `packetAccepted` looks at the packet and at the device as
  the Receiver Test left it.
* The response to an accepted Test End is the counter or-ed with the bit that marks a packet report
  (`Properties.Response`). That bit is the counter's sixteenth, so it is set in any case and lost as
  a bit of the number.

Fifteen bits of a number modulo `2 ^ 16` are the number modulo `2 ^ 15`, which is `report_low`, and
this is the number itself exactly below `2 ^ 15`.

That the bound is reached is not a matter of arithmetic alone: there must be runs with that many
packets. `exists_run_goodPacket` has one for every number, by induction, and without running it, so
that `packet_report_wraps` is a case of it and no computation over 32768 interrupts.
-/

namespace DirectTestMode

open Fallible

variable {b : Build} {q : ℕ}

/-- A run of interrupts is one of the device. -/
theorem Firmware.run_radio (f : Firmware) (evs : List RadioEvent) :
    Fallible.run (Firmware.step b q) f (evs.map .radio) =
      Fallible.run (fun s ev ↦ radioIrq b ev s) f.device evs >>= fun s ↦ .ok (f.withDevice s) := by
  induction evs generalizing f with
  | nil => rfl
  | cons ev evs ih =>
    have hstep : f.step b q (.radio ev) =
        radioIrq b ev f.device >>= fun s ↦ .ok (f.withDevice s) := rfl
    rw [List.map_cons, run_cons, run_cons, hstep]
    rcases radioIrq b ev f.device with e | s
    · rfl
    · exact ih (f.withDevice s)

/-- The low bits of the report are the number of accepted packets modulo `2 ^ 15`. -/
theorem report_low {channel : UInt8} {s : Device} {f f₁ f₂ : Firmware}
    (hrx : dtmTestReceive b channel s = .ok (.ok, f.device)) {evs : List RadioEvent}
    (hended : ∀ ev ∈ evs, ev.ended = true)
    (hrun : Fallible.run (Firmware.step b q) f (evs.map .radio) = .ok f₁) {cmd : UInt16}
    (hend : acceptedTestEnd cmd) {response : UInt16}
    (hput : f₁.put b q cmd = .ok (response, f₂)) :
    (response &&& 0x7FFF).toNat = evs.countP (packetAccepted b f.device) % 2 ^ 15 := by
  rw [f.run_radio] at hrun
  obtain ⟨t, ht, hrun⟩ := bind_eq_ok.1 hrun
  have hcount : t.rxPktCount = UInt16.ofNat (evs.countP (packetAccepted b f.device)) := by
    have h := ((Receiving.start hrx).run hended ht).count
    rwa [Nat.zero_add] at h
  rw [Firmware.put_eq, Firmware.putOutcome_testEnd hend] at hput
  cases hrun
  cases hput
  show ((Decoder.packetReportingEvent ||| t.rxPktCount) &&& 0x7FFF).toNat = _
  rw [packetReport_low, hcount, UInt16.toNat_ofNat']
  exact Nat.mod_mod_of_dvd _ (by decide)

/-- **The report is the number of accepted packets exactly when that is below `2 ^ 15`.** -/
theorem packet_report_iff {channel : UInt8} {s : Device} {f f₁ f₂ : Firmware}
    (hrx : dtmTestReceive b channel s = .ok (.ok, f.device)) {evs : List RadioEvent}
    (hended : ∀ ev ∈ evs, ev.ended = true)
    (hrun : Fallible.run (Firmware.step b q) f (evs.map .radio) = .ok f₁) {cmd : UInt16}
    (hend : acceptedTestEnd cmd) {response : UInt16}
    (hput : f₁.put b q cmd = .ok (response, f₂)) :
    (response &&& 0x7FFF).toNat = evs.countP (packetAccepted b f.device) ↔
      evs.countP (packetAccepted b f.device) < 2 ^ 15 := by
  rw [report_low hrx hended hrun hend hput]
  constructor
  · intro h
    rw [← h]
    exact Nat.mod_lt _ (by decide)
  · exact Nat.mod_eq_of_lt

/-! ### Runs of good packets -/

/-- An empty PRBS9 packet with a good CRC. -/
def goodPacket : RadioEvent where
  address := true
  ended := true
  ready := true
  content := DtmPdu.zero
  iqSamples := IqSamples.zero
  crcOk := true
  dfeAmount := 0
  rssiSample := 0

theorem goodPacket_holds : PduHolds .prbs9 0 2 goodPacket.content where
  typeOctet := by decide
  lengthOctet := rfl
  payload := Buffer.slice_eq _ (by decide)

/-- Each of them is an `END` event. -/
theorem ended_of_mem_replicate {n : ℕ} {ev : RadioEvent}
    (h : ev ∈ List.replicate n goodPacket) : ev.ended = true := by
  rw [List.eq_of_mem_replicate h]
  rfl

/-- Any number of good packets after a Receiver Test, all of them accepted. -/
theorem exists_run_goodPacket (n : ℕ) :
    ∃ f f₁ : Firmware, dtmTestReceive (.nrf5340 true false) 0 .nrf5340 = .ok (.ok, f.device) ∧
      Fallible.run (Firmware.step (.nrf5340 true false) 1024) f
        ((List.replicate n goodPacket).map .radio) = .ok f₁ ∧
      (List.replicate n goodPacket).countP (packetAccepted (.nrf5340 true false) f.device) = n := by
  obtain ⟨radio, -, hrx⟩ := dtmTestReceive_legal (.nrf5340 true false) .nrf5340
    (show (0 : UInt8).toNat ≤ physChMax by decide)
  let s := receiveState (.nrf5340 true false) 0 radio .nrf5340
  obtain ⟨t, ht⟩ := (Receiving.start hrx).run_ok (b := .nrf5340 true false) rfl
    (List.replicate n goodPacket) fun _ ↦ ended_of_mem_replicate
  refine ⟨.ofDevice s, (Firmware.ofDevice s).withDevice t, hrx, ?_, ?_⟩
  · rw [Firmware.run_radio]
    exact bind_eq_ok.2 ⟨t, ht, rfl⟩
  -- each of them is the PDU of an empty PRBS9 packet
  · have haccepted : packetAccepted (.nrf5340 true false) s goodPacket = true := by
      rw [packetAccepted, checkPdu_off .phy1m rfl rfl rfl goodPacket_holds]
      rfl
    rw [List.countP_replicate]
    exact if_pos haccepted

/-- The Test End after a run is answered with the counter. -/
theorem Firmware.put_testEnd (f : Firmware) {cmd : UInt16} (h : acceptedTestEnd cmd) :
    f.put b q cmd = .ok (Decoder.packetReportingEvent ||| f.device.rxPktCount,
      f.withDevice (dtmTestDone b f.device)) := by
  rw [put_eq, putOutcome_testEnd h]
  rfl

/-- One good packet is reported as one. -/
theorem packet_report_iff_one :
    ∃ f f₁ f₂ response, dtmTestReceive (.nrf5340 true false) 0 .nrf5340 = .ok (.ok, f.device) ∧
      Fallible.run (Firmware.step (.nrf5340 true false) 1024) f
        ((List.replicate 1 goodPacket).map .radio) = .ok f₁ ∧
      f₁.put (.nrf5340 true false) 1024 0xC000 = .ok (response, f₂) ∧
      (response &&& 0x7FFF).toNat = 1 := by
  obtain ⟨f, f₁, hrx, hrun, hcount⟩ := exists_run_goodPacket 1
  have hend : acceptedTestEnd 0xC000 := by decide
  have hput := f₁.put_testEnd (b := .nrf5340 true false) (q := 1024) hend
  have hreport := packet_report_iff hrx (fun _ ↦ ended_of_mem_replicate) hrun hend hput
  rw [hcount] at hreport
  exact ⟨f, f₁, _, _, hrx, hrun, hput, hreport.2 (by decide)⟩

/-- After `n` accepted packets the report is `n` modulo `2 ^ 15`. -/
theorem report_goodPacket (n : ℕ) :
    ∃ f f₁ f₂ response, dtmTestReceive (.nrf5340 true false) 0 .nrf5340 = .ok (.ok, f.device) ∧
      Fallible.run (Firmware.step (.nrf5340 true false) 1024) f
        ((List.replicate n goodPacket).map .radio) = .ok f₁ ∧
      (List.replicate n goodPacket).countP (packetAccepted (.nrf5340 true false) f.device) = n ∧
      f₁.put (.nrf5340 true false) 1024 0xC000 = .ok (response, f₂) ∧
      (response &&& 0x7FFF).toNat = n % 2 ^ 15 := by
  obtain ⟨f, f₁, hrx, hrun, hcount⟩ := exists_run_goodPacket n
  have hend : acceptedTestEnd 0xC000 := by decide
  have hput := f₁.put_testEnd (b := .nrf5340 true false) (q := 1024) hend
  have hreport := report_low hrx (fun _ ↦ ended_of_mem_replicate) hrun hend hput
  rw [hcount] at hreport
  exact ⟨f, f₁, _, _, hrx, hrun, hcount, hput, hreport⟩

/-- After 32768 accepted packets the report is zero. -/
theorem packet_report_wraps :
    ∃ f f₁ f₂ response, dtmTestReceive (.nrf5340 true false) 0 .nrf5340 = .ok (.ok, f.device) ∧
      Fallible.run (Firmware.step (.nrf5340 true false) 1024) f
        ((List.replicate 32768 goodPacket).map .radio) = .ok f₁ ∧
      (List.replicate 32768 goodPacket).countP (packetAccepted (.nrf5340 true false) f.device) =
        32768 ∧
      f₁.put (.nrf5340 true false) 1024 0xC000 = .ok (response, f₂) ∧
      (response &&& 0x7FFF).toNat = 0 :=
  report_goodPacket 32768

end DirectTestMode
