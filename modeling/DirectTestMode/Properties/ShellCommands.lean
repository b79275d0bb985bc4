import DirectTestMode.Properties.Decoding

/-!
# The carrier and power commands of the shell

`dtm tx_carrier` and `dtm tx_power` build a word each, and neither word says what the command is
for. The first one is a Transmitter Test of packet type PRBS9 on channel zero, with the channel for
its length; a carrier is a vendor packet. The second one is a Test Setup word with the control of
the PHY, which the shared core does not know.

So no carrier ever starts, and the power stays what it was: `shell_carrier_power_iff`.

* The words are read field by field, `tx_carrier` by evaluation over its 40 channels and `tx_power`
  over the 256 octets of a level. The power octet of the second is never looked at, since the
  control is rejected first (`CmdCore.dtmCmdPut_txPowerWord`).
* That no carrier starts is a fact about the library: a packet type that is not the vendor's leads
  to a modulated test or to a refusal (`dtmTestTransmit_not_carrier`). The device is idle by
  hypothesis, because a carrier that is on already would stay on.
* That the power stays has one exception that is none: where the stored level is the nearest one,
  the command has done nothing and the outcome is right. The equivalence says exactly this, for
  every `int` on the command line, inside the range of an octet or not.

`NearestLevel` asks for a level that no other is nearer than, and does not say which of two. It is
the weaker notion on purpose: the command misses even that.
-/

namespace DirectTestMode

open Fallible

variable {b : Build} {q : ℕ}

/-! ### The words -/

/-- A carrier word of the shell has its channel in the length field. -/
theorem txCarrierWord_fields : ∀ c < 40,
    cmdCode (Shell.txCarrierWord (UInt8.ofNat c)) = 2 ∧
    cmdChan (Shell.txCarrierWord (UInt8.ofNat c)) = 0 ∧
    cmdLength (Shell.txCarrierWord (UInt8.ofNat c)) = UInt8.ofNat c ∧
    cmdType (Shell.txCarrierWord (UInt8.ofNat c)) = 0 := by
  decide

/-- A power word of the shell has the control of the PHY. -/
theorem txPowerWord_fields (power : Int8) :
    cmdCode (Shell.txPowerWord power) = 0 ∧ cmdControl (Shell.txPowerWord power) = 2 := by
  have hall : ∀ n < 256, cmdCode (Shell.txPowerWord (UInt8.ofNat n).toInt8) = 0 ∧
      cmdControl (Shell.txPowerWord (UInt8.ofNat n).toInt8) = 2 := by decide +kernel
  have h := hall power.toUInt8.toNat power.toUInt8.toNat_lt
  rwa [UInt8.ofNat_toNat, Int8.toInt8_toUInt8] at h

/-- The shared core rejects the word without an operation. -/
theorem CmdCore.dtmCmdPut_txPowerWord (power : Int8) (upperLen : UInt8) :
    dtmCmdPut (Shell.txPowerWord power) upperLen = pure (decoder.error, upperLen) := by
  obtain ⟨hcode, hcontrol⟩ := txPowerWord_fields power
  rw [dtmCmdPut, decoder.dtmCmdPut_testSetup _ hcode, hcontrol]
  rfl

/-! ### What the commands are to do -/

/-- After `dtm tx_carrier c` the device sends a carrier on channel `c`. -/
def CarrierOn (b : Build) (q : ℕ) (f : Firmware) (c : ℕ) : Prop :=
  ∃ x, (Shell.cmdDtmTxCarrier [Int32.ofNat c] f.upperLen).run (hostHandler b q) f.host = .ok x ∧
    x.2.device.state = .carrierTest ∧ x.2.device.physCh.toNat = c

/-- A level of the chip that no other is nearer to the power than. -/
structure NearestLevel (b : Build) (power : ℤ) (txpower : UInt8) : Prop where
  mem : txpower.toUInt32 ∈ b.nrfPowerValue
  nearest : ∀ p ∈ b.nrfPowerValue,
    (txpower.toInt8.toInt - power).natAbs ≤ ((int8OfUInt32 p).toInt - power).natAbs

/-- After `dtm tx_power p` the power is the level nearest to `p`. -/
def PowerLevelSet (b : Build) (q : ℕ) (f : Firmware) (power : Int32) : Prop :=
  ∃ x, (Shell.cmdDtmTxPower [power] f.upperLen).run (hostHandler b q) f.host = .ok x ∧
    NearestLevel b power.toInt x.2.device.txpower

/-! ### What they do -/

/-- A packet of a packet type is no carrier. -/
theorem dtmTestTransmit_not_carrier {channel length : UInt8} {pkt : DtmPacket} {s : Device}
    {x : Ret × Device} (hs : s.state = .idle) (hv : resolvePacket s.radioMode pkt ≠ .vendor)
    (h : dtmTestTransmit b channel length pkt s = .ok x) : x.2.state ≠ .carrierTest := by
  cases dtmTestTransmit_ok h with
  | busy hbusy => exact absurd hs hbusy
  | setting hidle hvendor | carrier hidle hvendor => exact absurd hvendor hv
  | channel | refused =>
    show s.state ≠ .carrierTest
    rw [hs]
    decide
  | modulated =>
    show DtmState.transmitterTest ≠ .carrierTest
    decide

/-- A sent word leaves the state that the decoder leaves. -/
theorem Firmware.run_send {f : Firmware} {cmd : UInt16} {x : (Ret × UInt8) × Host}
    (h : (Shell.send cmd f.upperLen).run (hostHandler b q) f.host = .ok x) :
    ∃ response f', f.put b q cmd = .ok (response, f') ∧ x.2 = f'.host := by
  rw [Shell.send, Prog.run_bind] at h
  obtain ⟨y, hy, h⟩ := bind_eq_ok.1 h
  cases h
  exact ⟨_, _, bind_eq_ok.2 ⟨y, hy, rfl⟩, rfl⟩

/-- **No carrier starts**, on any channel. -/
theorem not_carrierOn {f : Firmware} (hidle : f.device.state = .idle) {c : ℕ} (hc : c < 40) :
    ¬ CarrierOn b q f c := by
  rintro ⟨x, hrun, hstate, -⟩
  have hle : ¬ 39 < (UInt8.ofNat c).toNat := by
    rw [UInt8.toNat_ofNat_of_lt' (hc.trans (by decide))]
    omega
  rw [Shell.cmdDtmTxCarrier, octetOf_ofNat c hc, if_neg hle] at hrun
  obtain ⟨response, f', hput, hhost⟩ := Firmware.run_send hrun
  obtain ⟨hcode, -, -, htype⟩ := txCarrierWord_fields c hc
  have htype : DtmPktType.ofCode (cmdType (Shell.txCarrierWord (UInt8.ofNat c))) =
      some .prbs9 := by
    rw [htype]
    rfl
  rw [f.put_transmit hcode htype] at hput
  obtain ⟨y, hy, hput⟩ := bind_eq_ok.1 hput
  cases hput
  rw [hhost] at hstate
  have hprbs9 : resolvePacket f.device.radioMode DtmPktType.prbs9.packet ≠ .vendor :=
    fun h ↦ by cases h
  exact dtmTestTransmit_not_carrier hidle hprbs9 hy hstate

/-- **The power stays**, so it is right afterwards exactly when it was before. -/
theorem powerLevelSet_iff (f : Firmware) (power : Int32) :
    PowerLevelSet b q f power ↔ NearestLevel b power.toInt f.device.txpower := by
  have hrun : (Shell.cmdDtmTxPower [power] f.upperLen).run (hostHandler b q) f.host =
      .ok ((.ok, f.upperLen), f.host) := by
    rw [Shell.cmdDtmTxPower, Shell.send, CmdCore.dtmCmdPut_txPowerWord]
    rfl
  rw [PowerLevelSet, hrun]
  constructor
  · rintro ⟨x, hx, hnearest⟩
    cases hx
    exact hnearest
  · exact fun hnearest ↦ ⟨_, rfl, hnearest⟩

/-- **The carrier and power commands of the shell** from an idle device: the carrier starts on no
channel, and a power is set exactly when the nearest level was stored already. -/
theorem shell_carrier_power_iff {f : Firmware} (hidle : f.device.state = .idle) :
    (∀ c ≤ 39, ¬ CarrierOn b q f c) ∧
      ∀ power : Int32, PowerLevelSet b q f power ↔ NearestLevel b power.toInt f.device.txpower :=
  ⟨fun _ hc ↦ not_carrierOn hidle (Nat.lt_succ_of_le hc), powerLevelSet_iff f⟩

/-- 0 dBm is a level of the nRF5340. -/
theorem nearestLevel_zero : NearestLevel (.nrf5340 true false) 0 0 :=
  ⟨by decide, fun _ _ ↦ Nat.zero_le _⟩

/-- After the initialisation the level is 0 dBm, and `dtm tx_power 0` is as good as set. -/
theorem shell_carrier_power_iff_nrf5340 :
    ¬ CarrierOn (.nrf5340 true false) 1024 (.ofDevice .nrf5340) 5 ∧
      PowerLevelSet (.nrf5340 true false) 1024 (.ofDevice .nrf5340) 0 := by
  have h := shell_carrier_power_iff (b := .nrf5340 true false) (q := 1024)
    (f := .ofDevice .nrf5340) rfl
  exact ⟨h.1 5 (by decide), (h.2 0).2 nearestLevel_zero⟩

/-- `dtm tx_carrier 5` and `dtm tx_power -8` after the initialisation: there is no carrier, and the
level stays 0 dBm. -/
theorem shell_carrier_power_refused :
    (Firmware.ofDevice .nrf5340).Reachable (.nrf5340 true false) 1024 ∧
    (Firmware.ofDevice .nrf5340).device.state = .idle ∧
    (Firmware.ofDevice .nrf5340).device.radioMode = .ble1Mbit ∧
    ¬ CarrierOn (.nrf5340 true false) 1024 (.ofDevice .nrf5340) 5 ∧
    ¬ PowerLevelSet (.nrf5340 true false) 1024 (.ofDevice .nrf5340) (-8) := by
  refine ⟨Firmware.ofDevice_reachable (Device.nrf5340_initialised true false), rfl, rfl,
    not_carrierOn rfl (by decide), fun h ↦ ?_⟩
  have hnearest := ((powerLevelSet_iff _ _).1 h).nearest 0xF8 (by decide)
  revert hnearest
  decide

end DirectTestMode
