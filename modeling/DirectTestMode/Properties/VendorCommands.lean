import DirectTestMode.Properties.PacketLength

/-!
# The vendor commands

On an uncoded PHY a Transmitter Test word of packet type binary 11 is a vendor command, and its
Length field names the sub-command. But `on_test_tx_cmd` merges `upper_len` into the length before
anyone looks at the packet type. A sub-command is a number up to six, so any upper bit left over
from an earlier Set Upper Bits word turns it into one that `dtm_vendor_specific_pkt` does not know:
`vendor_command_named_iff`.

* The switch of the library depends on the build, since most of its cases are compiled in or out.
  `DtmVsSubcmd.available` says which there are, and a number of a case that is not there is a number
  without a case. `dtmVendorSpecificPkt_eq` is the switch in these terms.
* `Firmware.Executes` says two things about a word, that it is handed to the library as one vendor
  packet and that the firmware then does what the given case of the switch does. The second is an
  equation of the whole outcome, so it covers the errors of a sub-command, and a carrier that meets
  an assertion.
* That one case runs and no other is a matter of the length octet (`Firmware.executes_iff`), on an
  idle device; a busy one refuses the packet before its type is looked at.

The history comes in at the end. `Properties.PacketLength` says what `upper_len` is after any run,
and `vendorSubcmd_withUpperLen` when it does not matter. A number above six has no case whatever its
upper bits are, which is the second half of the condition.
-/

namespace DirectTestMode

open Fallible

variable {b : Build} {q : ℕ}

/-! ### Sub-commands -/

/-- The switch of `dtm_vendor_specific_pkt` has a case for the sub-command. -/
def DtmVsSubcmd.available (b : Build) : DtmVsSubcmd → Bool
  | carrierTest | carrierTestStudio => true
  | setTxPower => !b.powerControlAutomatic
  | femAntennaSelect | femRampUpSet | femDefaultParamsSet => b.fem
  | femGainSet => b.fem && !b.powerControlAutomatic

/-- The sub-command that a number stands for in the build. -/
def vendorSubcmd (b : Build) (vendorCmd : UInt32) : Option DtmVsSubcmd :=
  (DtmVsSubcmd.ofCode vendorCmd).filter (DtmVsSubcmd.available b)

/-- What a case of the switch does; `none` is the default. -/
def vendorRun (b : Build) (subcmd : Option DtmVsSubcmd) (vendorOption : UInt32) (s : Device) :
    Except Fault (Ret × Device) :=
  match subcmd with
  | none => .ok (.err .einval, s)
  | some .carrierTest => carrierTest b s
  | some .carrierTestStudio => carrierTest b s
  | some subcmd => .ok (vendorSetting b subcmd vendorOption s)

/-- **The switch runs the sub-command of its number.** -/
theorem dtmVendorSpecificPkt_eq (b : Build) (vendorCmd vendorOption : UInt32) (s : Device) :
    dtmVendorSpecificPkt b vendorCmd vendorOption s =
      vendorRun b (vendorSubcmd b vendorCmd) vendorOption s := by
  rw [dtmVendorSpecificPkt, vendorSubcmd]
  rcases DtmVsSubcmd.ofCode vendorCmd with - | subcmd
  · rfl
  -- a case that the build does not have is the default
  · rw [Option.filter_some]
    cases subcmd with
    | carrierTest | carrierTestStudio => rfl
    | setTxPower =>
      cases hauto : b.powerControlAutomatic <;>
        simp [DtmVsSubcmd.available, vendorRun, vendorSetting, hauto]
    | femAntennaSelect | femRampUpSet | femDefaultParamsSet =>
      cases hfem : b.fem <;> simp [DtmVsSubcmd.available, vendorRun, vendorSetting, hfem]
    | femGainSet =>
      cases hfem : b.fem <;> cases hauto : b.powerControlAutomatic <;>
        simp [DtmVsSubcmd.available, vendorRun, vendorSetting, hfem, hauto]

/-- No sub-command has a number above six. -/
theorem vendorSubcmd_eq_none {vendorCmd : UInt32} (h : 6 < vendorCmd.toNat) :
    vendorSubcmd b vendorCmd = none := by
  have hcode : DtmVsSubcmd.ofCode vendorCmd = none := by
    rw [DtmVsSubcmd.ofCode]
    simp only [← UInt32.toNat_inj, UInt32.toNat_ofNat]
    split_ifs <;> first | rfl | omega
  rw [vendorSubcmd, hcode]
  rfl

/-! ### The sub-command of a word -/

/-- The word is handed to the library as one vendor packet, and `subcmd` is the case of the switch
that runs. -/
def Firmware.Executes (b : Build) (q : ℕ) (f : Firmware) (cmd : UInt16)
    (subcmd : Option DtmVsSubcmd) : Prop :=
  ∃ length, f.issues b q (CmdCore.dtmCmdPut cmd f.upperLen) =
      [.dtm (.testTransmit (cmdChan cmd) length .ffOrVendor)] ∧
    vendorSubcmd b length.toUInt32 = subcmd ∧
    f.put b q cmd = vendorRun b subcmd (cmdChan cmd).toUInt32
        (transmitState (cmdChan cmd) length .ffOrVendor f.device) >>= fun x ↦
      .ok (CmdCore.decoder.statusEvent x.1 0, f.withDevice x.2)

/-- The sub-command that the Length field names. -/
def namedSubcmd (b : Build) (cmd : UInt16) : Option DtmVsSubcmd :=
  vendorSubcmd b (cmdLength cmd).toUInt32

/-- A vendor packet goes to the switch with its length for the number. -/
theorem dtmTestTransmit_vendor {channel length : UInt8} {pkt : DtmPacket} {s : Device}
    (hidle : s.state = .idle) (hv : resolvePacket s.radioMode pkt = .vendor) :
    dtmTestTransmit b channel length pkt s =
      vendorRun b (vendorSubcmd b length.toUInt32) channel.toUInt32
        (transmitState channel length pkt s) := by
  have hresult := dtmTestTransmit_result b channel length pkt s
  rw [← dtmVendorSpecificPkt_eq]
  generalize dtmTestTransmit b channel length pkt s = r at hresult ⊢
  cases hresult with
  | busy hbusy => exact absurd hidle hbusy
  | channel _ hv' | modulated _ hv' => exact absurd hv hv'
  | vendor => rfl

/-- **A vendor word executes the sub-command of its length octet**, upper bits included. -/
theorem Firmware.executes_iff {f : Firmware} (hidle : f.device.state = .idle)
    (huncoded : f.device.radioMode = .ble1Mbit ∨ f.device.radioMode = .ble2Mbit) {cmd : UInt16}
    (hcode : cmdCode cmd = 2) (htype : cmdType cmd = 3) (subcmd : Option DtmVsSubcmd) :
    f.Executes b q cmd subcmd ↔
      vendorSubcmd b (withUpperLen (cmdLength cmd) f.upperLen).toUInt32 = subcmd := by
  have htype : DtmPktType.ofCode (cmdType cmd) = some .pkt0xFFOrVs := by
    rw [htype]
    rfl
  have hissues : f.issues b q (CmdCore.dtmCmdPut cmd f.upperLen) =
      [.dtm (.testTransmit (cmdChan cmd) (withUpperLen (cmdLength cmd) f.upperLen)
        .ffOrVendor)] := by
    rw [CmdCore.dtmCmdPut, Decoder.dtmCmdPut_transmitterTest _ _ hcode htype]
    exact (Prog.calls_bind_pure _ _ _ _).trans (Prog.calls_perform _ _ _)
  have hv : resolvePacket f.device.radioMode .ffOrVendor = .vendor := if_pos huncoded
  constructor
  · rintro ⟨length, hlength, hsubcmd, -⟩
    rw [hissues] at hlength
    simp only [List.cons.injEq, TransportOp.dtm.injEq, Call.testTransmit.injEq] at hlength
    rw [hlength.1.2.1]
    exact hsubcmd
  · rintro rfl
    refine ⟨_, hissues, rfl, ?_⟩
    rw [f.put_transmit hcode htype]
    exact congrArg (· >>= _) (dtmTestTransmit_vendor hidle hv)

/-! ### After a history -/

/-- The last Set Upper Bits word since the last Reset, if there is one, has no upper bits. -/
def UpperClear (last : Option UInt8) : Prop :=
  ∀ parameter, last = some parameter → parameter.toNat / 4 % 4 = 0

/-- A length octet names what the six bits of the word name if it has no upper bits, or if they name
nothing. -/
theorem vendorSubcmd_withUpperLen (cmd : UInt16) (last : Option UInt8) :
    vendorSubcmd b (withUpperLen (cmdLength cmd) (historyUpperLen last)).toUInt32 =
        namedSubcmd b cmd ↔
      UpperClear last ∨ namedSubcmd b cmd = none := by
  have hlength := withUpperLen_toNat cmd last
  rw [wordLength] at hlength
  by_cases hclear : UpperClear last
  · refine iff_of_true ?_ (.inl hclear)
    have hzero : (last.elim 0 fun parameter ↦ parameter.toNat / 4 % 4) = 0 := by
      cases last with
      | none => rfl
      | some parameter => exact hclear parameter rfl
    rw [hzero] at hlength
    rw [UInt8.toNat_inj.1 hlength]
    rfl
  · have hpos : 0 < last.elim 0 fun parameter ↦ parameter.toNat / 4 % 4 := by
      rw [UpperClear] at hclear
      push Not at hclear
      obtain ⟨parameter, rfl, hne⟩ := hclear
      exact Nat.pos_of_ne_zero hne
    have hnone : vendorSubcmd b
        (withUpperLen (cmdLength cmd) (historyUpperLen last)).toUInt32 = none := by
      refine vendorSubcmd_eq_none ?_
      rw [UInt8.toNat_toUInt32]
      omega
    rw [hnone, or_iff_right hclear, eq_comm]

/-- **A vendor word executes the sub-command that its Length field names exactly when no upper bits
are set**, after any run that leaves the device idle on an uncoded PHY; a field that names no
sub-command of the build is refused with any upper bits. -/
theorem vendor_command_named_iff {f f' : Firmware} (hf : f.Initial b) {is : List FirmwareInput}
    (hrun : run (Firmware.step b q) f is = .ok f') (hidle : f'.device.state = .idle)
    (huncoded : f'.device.radioMode = .ble1Mbit ∨ f'.device.radioMode = .ble2Mbit) {cmd : UInt16}
    (hcode : cmdCode cmd = 2) (htype : cmdType cmd = 3) :
    f'.Executes b q cmd (namedSubcmd b cmd) ↔
      UpperClear (is.foldl upperParameter none) ∨ namedSubcmd b cmd = none := by
  have hupper : f'.upperLen = historyUpperLen (is.foldl upperParameter none) :=
    Firmware.run_upperLen hf.2.1 hrun
  rw [Firmware.executes_iff hidle huncoded hcode htype, hupper]
  exact vendorSubcmd_withUpperLen cmd _

/-- A Reset word and a Set Upper Bits word with the upper bits `01`. -/
def upperBitsLeft : List FirmwareInput := [.word 0x0000, .word 0x0104]

/-- Without the Set Upper Bits word a carrier starts. -/
theorem vendor_command_named_iff_reset :
    ∃ f', run (Firmware.step (.nrf5340 true false) 1024) (.ofDevice .nrf5340) [.word 0x0000] =
        .ok f' ∧
      namedSubcmd (.nrf5340 true false) 0x8003 = some .carrierTest ∧
      f'.Executes (.nrf5340 true false) 1024 0x8003 (some .carrierTest) := by
  have hinitial : (Firmware.ofDevice .nrf5340).Initial (.nrf5340 true false) :=
    ⟨Device.nrf5340_initialised true false, rfl, rfl⟩
  have hrun : run (Firmware.step (.nrf5340 true false) 1024) (.ofDevice .nrf5340) [.word 0x0000] =
    .ok _ := rfl
  refine ⟨_, hrun, rfl, (vendor_command_named_iff hinitial hrun rfl (.inl rfl) rfl rfl).2 (.inl ?_)⟩
  exact fun parameter h ↦ by cases h

/-- With it the word that names a carrier is refused. -/
theorem carrier_refused :
    ∃ f', run (Firmware.step (.nrf5340 true false) 1024) (.ofDevice .nrf5340) upperBitsLeft =
        .ok f' ∧
      f'.device.state = .idle ∧ f'.device.radioMode = .ble1Mbit ∧
      namedSubcmd (.nrf5340 true false) 0x8003 = some .carrierTest ∧
      f'.Executes (.nrf5340 true false) 1024 0x8003 none ∧
      ¬ f'.Executes (.nrf5340 true false) 1024 0x8003
        (namedSubcmd (.nrf5340 true false) 0x8003) := by
  refine ⟨_, rfl, rfl, rfl, rfl, ?_, ?_⟩
  · rw [Firmware.executes_iff rfl (.inl rfl) rfl rfl]
    rfl
  · rw [Firmware.executes_iff rfl (.inl rfl) rfl rfl]
    decide

end DirectTestMode
