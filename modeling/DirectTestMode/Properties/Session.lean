import DirectTestMode.Transport.Firmware
import DirectTestMode.Dtm.Invariant

/-!
# Sessions

A session is one test, from the command that starts it to the one that ends it. Two commands of the
repository do not keep to their part of it: a Reset does not end the running test, since neither the
shared core nor the HCI transport calls `dtm_setup_prepare` before it, and a Receiver Test does not
look at the machine state before it starts.

`reset_ends_test_iff` and `start_exclusive_iff` say on which inputs the two do.

## Reset

`Device.ResetDone` is what a Reset is to leave behind: no test, the transmission loop disconnected,
the default settings, and a device that takes a Transmitter Test. The library's function sets the
defaults and does nothing else, so a device that was in a test is still in it, and
`dtmSetupReset_done_iff` is an equivalence about one call. Both transports come down to that call, a
word with its response (`Firmware.put_reset`) and an HCI command with one event or two
(`Firmware.process_reset`). The other half of the condition is the assertion of the automatic power
control, which stops the device before there is anything to say.

## One test at a time

`Exclusive` asks of an input that both start functions are refused away from idle, **with the
running test left as it is**, and that a test is entered from idle only. The transmitter keeps to
it, by a guard at its top; the receiver has none. Every step is looked at on its own, so the run
adds nothing but the guard: what one input does wrong does not depend on how the state came about.

What a Reset and a reception over a Transmitter Test do to the radio's channel is in
`Properties.Endpoints`.
-/

namespace DirectTestMode

open Fallible

variable {b : Build} {q : ℕ}

/-! ### The invariant of the firmware -/

/-- `Device.Inv` does not look at the antenna pattern buffers. -/
theorem Device.Inv.deviceInvariant (b : Build) : DeviceInvariant b (Device.Inv b) where
  step _ _ _ hs h := hs.step h
  patterns _ _ hs := ⟨hs.timerInit, hs.booted, hs.quiet, hs.cteOff⟩

/-- The invariant of the device holds in every reachable state of the firmware. -/
theorem Firmware.Reachable.inv {f : Firmware} (hf : f.Reachable b q) :
    f.device.Inv b :=
  (Device.Inv.deviceInvariant b).reachable (fun _ hs ↦ hs.inv) hf

/-! ### Reset -/

/-- The timer-driven transmission loop is connected. -/
def PpiChannel.TxLoopArmed (c : PpiChannel) : Prop :=
  .timerCompare0 ∈ c.events ∧ .radioTxen ∈ c.tasks

/-- What a Reset is to leave behind: no test, the default settings, and a device that takes a
Transmitter Test. -/
structure Device.ResetDone (b : Build) (s : Device) : Prop where
  idle : s.state = .idle
  txLoop : ¬ s.ppiRadioStart.TxLoopArmed
  radioMode : s.radioMode = .ble1Mbit
  cteOff : s.cteInfo.mode = .off
  notBusy : ∀ channel length pkt s',
    dtmTestTransmit b channel length pkt s ≠ .ok (.err .ebusy, s')

/-- **A Reset leaves the device as it should exactly when no test is running**, apart from the
assertion of the automatic power control, which stops the device. -/
theorem dtmSetupReset_done_iff {s : Device} (hs : s.Inv b) :
    (∃ x, dtmSetupReset b s = .ok x ∧ x.2.ResetDone b) ↔
      s.state = .idle ∧
        ¬ (b.powerControlAutomatic = true ∧ physChMax < s.physCh.toUInt8.toNat) := by
  constructor
  · rintro ⟨x, hx, hdone⟩
    refine ⟨(dtmSetupReset_keepsTest hx).state.symm.trans hdone.idle, fun hfault ↦ ?_⟩
    cases (dtmSetupReset_error.2 ⟨rfl, hfault⟩).symm.trans hx
  · rintro ⟨hidle, hfault⟩
    rcases hx : dtmSetupReset b s with e | x
    · exact absurd (dtmSetupReset_error.1 hx).2 hfault
    have hkeeps := dtmSetupReset_keepsTest hx
    have hstate : x.2.state = .idle := hkeeps.state.trans hidle
    refine ⟨x, rfl, hstate, ?_, dtmSetupReset_radioMode hx, ?_, fun channel length pkt s' h ↦ ?_⟩
    · have hquiet : s.ppiRadioStart.events = ∅ := (hs.quiet hidle).2
      rintro ⟨hevent, -⟩
      rw [hkeeps.ppiRadioStart, hquiet] at hevent
      cases hevent
    · rw [dtmSetupReset_cteInfo hx]
      split
      · rfl
      · exact hs.cteOff (Bool.eq_false_iff.2 ‹_›)
    · rcases dtmTestTransmit_ret hstate h with h | h <;> cases h

/-- A Reset word is a `dtm_setup_reset`. -/
theorem Firmware.put_reset (f : Firmware) {cmd : UInt16} (hcode : cmdCode cmd = 0)
    (hcontrol : cmdControl cmd = 0) :
    f.put b q cmd = dtmSetupReset b f.device >>= fun x ↦
      .ok (CmdCore.decoder.statusEvent x.1 0, { f.withDevice x.2 with upperLen := 0 }) := by
  rw [put, CmdCore.dtmCmdPut, Decoder.dtmCmdPut_testSetup _ _ hcode, hcontrol]
  show ((hostHandler b q (.dtm .setupReset) f.host) >>= _) >>= _ = _
  show ((dtmSetupReset b f.device >>= _) >>= _) >>= _ = _
  cases dtmSetupReset b f.device <;> rfl

/-- `HCI_Reset` is a `dtm_setup_reset` with one event, or with two. -/
theorem Firmware.process_reset (f : Firmware) {buf : ℕ → UInt8}
    (hop : (buf 0).toUInt16 ||| ((buf 1).toUInt16 <<< 8) = Hci.HciOp.reset.code) :
    (∃ e, dtmSetupReset b f.device = .error e ∧
      f.process b q Hci.h4TypeCmd buf = .error e) ∨
    ∃ x r f', dtmSetupReset b f.device = .ok x ∧
      f.process b q Hci.h4TypeCmd buf = .ok (r, f') ∧ f'.device = x.2 := by
  have hprocess : f.process b q Hci.h4TypeCmd buf =
      (Hci.hciReset.run (hostHandler b q) f.host) >>= fun x ↦
        .ok (x.1, { f with host := x.2 }) := by
    rw [process, Hci.dtmTrProcess, if_pos rfl, Hci.hciCmd, hop]
    rfl
  -- the events that follow write to the UART only
  have hrun : Hci.hciReset.run (hostHandler b q) f.host =
      dtmSetupReset b f.device >>= fun x ↦
        (if x.1 ≠ .ok then do
          let _ ← Hci.baseCcEvt Hci.HciOp.reset.code Hci.errHwFailure
          Hci.baseCcEvt Hci.HciOp.reset.code Hci.errSuccess
        else Hci.baseCcEvt Hci.HciOp.reset.code Hci.errSuccess : Prog transport Ret).run
          (hostHandler b q) { f.host with device := x.2 } := by
    show (hostHandler b q (.dtm .setupReset) f.host) >>= _ = _
    show (dtmSetupReset b f.device >>= _) >>= _ = _
    cases dtmSetupReset b f.device <;> rfl
  rw [hprocess, hrun]
  rcases dtmSetupReset b f.device with e | x
  · exact .inl ⟨e, rfl, rfl⟩
  · refine .inr ?_
    rw [ok_bind]
    split
    · exact ⟨x, _, _, rfl, rfl, rfl⟩
    · exact ⟨x, _, _, rfl, rfl, rfl⟩

/-- **A Reset ends the running test exactly when there is none to end.** -/
theorem reset_ends_test_iff {f : Firmware} (hf : f.Reachable b q) (cmd : UInt16)
    (hcode : cmdCode cmd = 0) (hcontrol : cmdControl cmd = 0) (buf : ℕ → UInt8)
    (hop : (buf 0).toUInt16 ||| ((buf 1).toUInt16 <<< 8) = Hci.HciOp.reset.code) :
    ((∃ response f', f.put b q cmd = .ok (response, f') ∧ f'.device.ResetDone b ∧
        f'.upperLen = 0) ↔
      f.device.state = .idle ∧
        ¬ (b.powerControlAutomatic = true ∧ physChMax < f.device.physCh.toUInt8.toNat)) ∧
    ((∃ ret f', f.process b q Hci.h4TypeCmd buf = .ok (ret, f') ∧
        f'.device.ResetDone b) ↔
      f.device.state = .idle ∧
        ¬ (b.powerControlAutomatic = true ∧ physChMax < f.device.physCh.toUInt8.toNat)) := by
  rw [← dtmSetupReset_done_iff hf.inv]
  constructor
  · rw [f.put_reset hcode hcontrol]
    constructor
    · rintro ⟨response, f', h, hdone, -⟩
      obtain ⟨x, hx, h⟩ := bind_eq_ok.1 h
      cases h
      exact ⟨x, hx, hdone⟩
    · rintro ⟨x, hx, hdone⟩
      exact ⟨_, _, bind_eq_ok.2 ⟨x, hx, rfl⟩, hdone, rfl⟩
  -- over HCI a Reset that comes back may still fail to send its event
  · rcases f.process_reset (b := b) (q := q) hop with
      ⟨e, hx, h⟩ | ⟨x, r, f', hx, h, hf'⟩
    · rw [hx, h]
      simp
    · rw [hx, h]
      constructor
      · rintro ⟨ret, f'', h, hdone⟩
        cases h
        exact ⟨x, rfl, hf' ▸ hdone⟩
      · rintro ⟨y, hy, hdone⟩
        cases hy
        exact ⟨r, f', rfl, hf' ▸ hdone⟩

/-- After the initialisation no test is running, and a Reset does all of it. -/
theorem reset_ends_test_iff_nrf5340 :
    (∃ response f', Firmware.put (.nrf5340 true false) 1024 (.ofDevice .nrf5340) 0x0000 =
        .ok (response, f') ∧ f'.device.ResetDone (.nrf5340 true false) ∧ f'.upperLen = 0) ∧
    (∃ ret f', Firmware.process (.nrf5340 true false) 1024 (.ofDevice .nrf5340) Hci.h4TypeCmd
        (fun i ↦ if i = 0 then 0x03 else 0x0C) = .ok (ret, f') ∧
      f'.device.ResetDone (.nrf5340 true false)) := by
  have h := reset_ends_test_iff (q := 1024)
    (Firmware.ofDevice_reachable (Device.nrf5340_initialised true false)) 0x0000
    (by decide) (by decide) (fun i ↦ if i = 0 then 0x03 else 0x0C) (by decide)
  exact ⟨h.1.2 ⟨rfl, by rintro ⟨⟨⟩, -⟩⟩, h.2.2 ⟨rfl, by rintro ⟨⟨⟩, -⟩⟩⟩

/-- A Receiver Test runs on through a Reset, and the Transmitter Test after it is refused. -/
theorem reset_receiver_test_runs_on :
    ∃ f f' f'' : Firmware, f.Reachable (.nrf5340 true false) 1024 ∧
      f.put (.nrf5340 true false) 1024 0x4000 = .ok (0x0001, f') ∧
      f'.put (.nrf5340 true false) 1024 0x0000 = .ok (0x0001, f'') ∧
      f''.device.state = .receiverTest ∧
      dtmTestTransmit (.nrf5340 true false) 0 37 .prbs9 f''.device =
        .ok (.err .ebusy, f''.device) :=
  ⟨.ofDevice .nrf5340, _, _, Firmware.ofDevice_reachable (Device.nrf5340_initialised true false),
    rfl, rfl, rfl, rfl⟩

/-! ### One test at a time -/

/-- The running test is the same. -/
structure SameTest (s s' : Device) : Prop where
  state : s'.state = s.state
  physCh : s'.physCh = s.physCh
  currentPdu : s'.currentPdu = s.currentPdu
  pdu : s'.pdu = s.pdu
  packetLen : s'.packetLen = s.packetLen
  rxPktCount : s'.rxPktCount = s.rxPktCount
  crcErrorCount : s'.crcErrorCount = s.crcErrorCount

theorem SameTest.refl (s : Device) : SameTest s s := by
  constructor <;> rfl

/-- An input leaves at most one test running: away from idle both start functions are refused and
leave the running test as it is, and a test is entered from idle only. -/
structure Exclusive (b : Build) (s : Device) (i : Input) : Prop where
  receive : ∀ channel, i = .call (.testReceive channel) → s.state ≠ .idle →
    ∃ e s', dtmTestReceive b channel s = .ok (.err e, s') ∧ SameTest s s'
  transmit : ∀ channel length pkt, i = .call (.testTransmit channel length pkt) →
    s.state ≠ .idle →
      ∃ e s', dtmTestTransmit b channel length pkt s = .ok (.err e, s') ∧ SameTest s s'
  entry : ∀ s', s.step b i = .ok s' → s'.state.testing = true → s'.state ≠ s.state →
    s.state = .idle

/-- The input is no reception on a legal channel, or the device is idle. -/
def NoRestart (s : Device) (i : Input) : Prop :=
  ∀ channel, i = .call (.testReceive channel) → s.state = .idle ∨ physChMax < channel.toNat

/-- **One input**: only a reception can be started over a running test. -/
theorem exclusive_iff (b : Build) (s : Device) (i : Input) :
    Exclusive b s i ↔ NoRestart s i := by
  constructor
  · rintro hi channel rfl
    refine or_iff_not_imp_left.2 fun hs ↦ Nat.lt_of_not_le fun hc ↦ ?_
    obtain ⟨e, s', h, -⟩ := hi.receive channel rfl hs
    obtain ⟨radio, -, hok⟩ := dtmTestReceive_legal b s hc
    cases hok.symm.trans h
  · intro hi
    refine ⟨?_, ?_, fun s' h htesting hne ↦ ?_⟩
    · rintro channel rfl hs
      exact ⟨_, _, dtmTestReceive_illegal b s ((hi channel rfl).resolve_left hs), .refl s⟩
    · rintro channel length pkt rfl hs
      exact ⟨.ebusy, s, if_pos hs, .refl s⟩
    -- a test is entered by an action that starts one
    · have hstate := (Device.step_state h).resolve_right fun hidle ↦ by
        rw [hidle] at htesting
        cases htesting
      cases hstarts : (i.action b s).starts with
      | true =>
        rcases Input.action_starts hstarts with hidle | ⟨channel, rfl, hc⟩
        · exact hidle
        · exact (hi channel rfl).resolve_right (Nat.not_lt.2 hc)
      | false =>
        rcases Control.act_state_not_starts b.fem s.control hstarts with hk | hk
        · exact absurd (hstate.trans hk) hne
        · rw [hstate, hk] at htesting
          cases htesting

/-- **At most one test at a time, exactly when no reception is started over a running test.** -/
theorem start_exclusive_iff (b : Build) (s : Device) (is : List Input) :
    Guarded (Device.step b) (Exclusive b) s is ↔ Guarded (Device.step b) NoRestart s is :=
  ⟨Guarded.mono fun s i ↦ (exclusive_iff b s i).1, Guarded.mono fun s i ↦ (exclusive_iff b s i).2⟩

/-- A Receiver Test on channel 5 starts over a running Transmitter Test, and takes its channel
away. -/
theorem receive_over_transmit :
    ∃ s s', Reachable (Device.step (.nrf5340 true false)) (Initialised (.nrf5340 true false)) s ∧
      s.state = .transmitterTest ∧
      dtmTestReceive (.nrf5340 true false) 5 s = .ok (.ok, s') ∧
      s'.state = .receiverTest ∧ s'.physCh ≠ s.physCh := by
  obtain ⟨s, s', htx, hstate, hch, hrx, hstate', hch', -⟩ := dtmTestReceive_over_transmit
    (b := .nrf5340 true false) (s := .nrf5340) 0 37 5 rfl
    (show resolvePacket .ble1Mbit .prbs9 ≠ .vendor by decide) (by decide) rfl (by decide)
  refine ⟨s, s', .next (i := .call (.testTransmit 0 37 .prbs9))
    (.start (Device.nrf5340_initialised true false)) (bind_eq_ok.2 ⟨_, htx, rfl⟩), hstate, hrx,
    hstate', ?_⟩
  rw [hch, hch']
  decide

end DirectTestMode
