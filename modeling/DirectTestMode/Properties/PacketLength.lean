import DirectTestMode.Transport.Effect
import DirectTestMode.Properties.Loopback

/-!
# The length of a packet

A Transmitter Test word has six bits for its length. The two above them come from an earlier Set
Upper Bits word, through `upper_len`, and only a Reset takes them back. `upperParameter` follows the
words of a history and keeps the parameter of the last Set Upper Bits word since the last Reset;
`Firmware.run_upperLen` says that `upper_len` of the shared core is what it selects after every run.

## From the history to the air

The result goes through three variables, and each step is a lemma of its own.

* **The history and `upper_len`.** One word takes the variable along (`CmdCore.effect_upperLen`), no
  other input writes it, and the induction is on the inputs with the history so far as the
  generalised accumulator. HCI packets, words of the UART decoder and interrupts may come between;
  the UART decoder has an `upper_len` of its own.
* **`upper_len` and the length of the command.** `withUpperLen` is an or, and a sum because the two
  parts do not overlap (`withUpperLen_toNat`). Bits 2 and 3 of the parameter are the ones that
  `upperBits` moves to the top.
* **The length of the command and the PDU.** An accepted test stores the length and writes it to
  octet 1 of the buffer that the radio is given (`dtmTestTransmit_length`).

The vendor type is left out by hypothesis. Its length names a command and is no length; what the
upper bits do there is in `Properties.VendorCommands`. The channel plays no part: a word that is not
accepted promises nothing.
-/

namespace DirectTestMode

open Fallible

variable {b : Build} {q : ℕ}

/-! ### The history -/

/-- The parameter of the last Set Upper Bits word of the shared core since its last Reset word. -/
def upperParameter (last : Option UInt8) : FirmwareInput → Option UInt8
  | .word cmd =>
    if cmdCode cmd ≠ 0 then last
    else if cmdControl cmd = 0 then none
    else if cmdControl cmd = 1 then some (cmdParameter cmd)
    else last
  | _ => last

/-- The `upper_len` of a history. -/
def historyUpperLen (last : Option UInt8) : UInt8 := last.elim 0 upperBits

/-- A control that is known is the one with its code. -/
theorem DtmCtrlCode.code_of_ofCode {control : UInt8} {c : DtmCtrlCode}
    (h : DtmCtrlCode.ofCode control = some c) : c.code = control := by
  rw [DtmCtrlCode.ofCode] at h
  have hcode := List.find?_some h
  exact beq_iff_eq.1 hcode

/-- A control other than Reset and Set Upper Bits leaves `upper_len`. -/
theorem CmdCore.setupEffect_upperLen {control : UInt8} (h0 : control ≠ 0) (h1 : control ≠ 1)
    (parameter upperLen : UInt8) :
    (setupEffect control parameter upperLen).upperLen = upperLen := by
  rw [setupEffect]
  rcases hcode : DtmCtrlCode.ofCode control with - | c
  · rfl
  · have hcontrol := DtmCtrlCode.code_of_ofCode hcode
    cases c with
    | reset => exact absurd hcontrol.symm h0
    | setUpper => exact absurd hcontrol.symm h1
    | setPhy | selectModulation | readSupported | readMax | constantToneExtension
    | constantToneExtensionSlot | antennaArray | transmitPower => rfl

/-- **One word** takes `upper_len` along the history. -/
theorem CmdCore.effect_upperLen (cmd : UInt16) (last : Option UInt8) :
    (effect cmd (historyUpperLen last)).upperLen =
      historyUpperLen (upperParameter last (.word cmd)) := by
  have hlast (h : cmdCode cmd ≠ 0) : upperParameter last (.word cmd) = last := if_pos h
  rw [effect]
  rcases Decoder.cmdCode_cases cmd with h | h | h | h
  · rw [decoder.effect_testSetup _ h, upperParameter, if_neg (not_not.2 h)]
    split_ifs with h0 h1
    · rw [h0]
      rfl
    · rw [h1]
      rfl
    · exact setupEffect_upperLen h0 h1 _ _
  · rw [decoder.effect_receiverTest _ h, hlast (by rw [h]; decide)]
  · obtain ⟨type, htype⟩ := Decoder.cmdType_cases cmd
    rw [decoder.effect_transmitterTest _ h htype, hlast (by rw [h]; decide)]
  · rw [decoder.effect_testEnd _ h, hlast (by rw [h]; decide)]
    split <;> rfl

/-- **One input** takes `upper_len` along the history. -/
theorem Firmware.step_upperLen {f f' : Firmware} {i : FirmwareInput} {last : Option UInt8}
    (hf : f.upperLen = historyUpperLen last) (h : f.step b q i = .ok f') :
    f'.upperLen = historyUpperLen (upperParameter last i) := by
  cases i with
  | word cmd =>
    rw [f.step_word] at h
    obtain ⟨x, hx, h⟩ := bind_eq_ok.1 h
    cases h
    rcases Prog.Straight.run_eq (h := hostHandler b q)
      (CmdCore.dtmCmdPut_straight cmd f.upperLen) f.host with ⟨e, hrun, -⟩ | ⟨y, hrun, -, hupper⟩
    · cases hrun.symm.trans hx
    · cases hrun.symm.trans hx
      rw [← CmdCore.effect_upperLen, ← hf]
      exact hupper
  -- no other input writes `upper_len` of the core
  | uartWord cmd =>
    rw [f.step_uartWord] at h
    obtain ⟨x, -, h⟩ := bind_eq_ok.1 h
    cases h
    exact hf
  | hci type buf =>
    rw [f.step_hci] at h
    obtain ⟨x, -, h⟩ := bind_eq_ok.1 h
    cases h
    exact hf
  | radio ev | anomaly ev =>
    obtain ⟨s, -, h⟩ := bind_eq_ok.1 h
    cases h
    exact hf
  | txDone =>
    cases h
    exact hf

/-- **`upper_len` is that of the history.** The induction is on the inputs, with the history so far
generalised. -/
theorem Firmware.run_upperLen {f f' : Firmware} {is : List FirmwareInput} {last : Option UInt8}
    (hf : f.upperLen = historyUpperLen last) (hrun : run (Firmware.step b q) f is = .ok f') :
    f'.upperLen = historyUpperLen (is.foldl upperParameter last) := by
  induction is generalizing f last with
  | nil =>
    cases hrun
    exact hf
  | cons i is ih =>
    obtain ⟨t, ht, hrun⟩ := bind_eq_ok.1 hrun
    exact ih (step_upperLen hf ht) hrun

/-! ### The length octet -/

/-- The length that a Transmitter Test word asks for after a history: its six bits, and 64 times
bits 2 and 3 of the parameter. -/
def wordLength (cmd : UInt16) (last : Option UInt8) : ℕ :=
  (cmdLength cmd).toNat + 64 * last.elim 0 fun parameter ↦ parameter.toNat / 4 % 4

/-- Bits 2 and 3 of a parameter, at the top of an octet. -/
theorem upperBits_toNat (parameter : UInt8) :
    (upperBits parameter).toNat = 64 * (parameter.toNat / 4 % 4) := by
  have hall : ∀ n < 256, (upperBits (UInt8.ofNat n)).toNat = 64 * (n / 4 % 4) := by decide +kernel
  have h := hall parameter.toNat parameter.toNat_lt
  rwa [UInt8.ofNat_toNat] at h

theorem historyUpperLen_toNat (last : Option UInt8) :
    (historyUpperLen last).toNat = 64 * last.elim 0 fun parameter ↦ parameter.toNat / 4 % 4 := by
  cases last with
  | none => rfl
  | some parameter => exact upperBits_toNat parameter

/-- The six bits and the upper bits do not overlap. -/
theorem withUpperLen_toNat (cmd : UInt16) (last : Option UInt8) :
    (withUpperLen (cmdLength cmd) (historyUpperLen last)).toNat = wordLength cmd last := by
  have hlt : (cmdLength cmd).toNat < 2 ^ 6 := by
    rw [cmdLength, UInt16.toNat_toUInt8, UInt16.toNat_and]
    exact (Nat.mod_le _ _).trans_lt (Nat.and_lt_two_pow _ (by decide))
  have hlow : (cmdLength cmd &&& ~~~leUpperBitsMask).toNat = (cmdLength cmd).toNat := by
    rw [UInt8.toNat_and]
    exact (Nat.and_two_pow_sub_one_eq_mod _ 6).trans (Nat.mod_eq_of_lt hlt)
  rw [withUpperLen, UInt8.toNat_or, hlow, historyUpperLen_toNat, Nat.or_comm, wordLength, add_comm]
  exact (Nat.two_pow_add_eq_or_of_lt hlt _).symm

/-! ### The packet -/

/-- A packet type other than the vendor one names its packet in every radio mode. -/
theorem resolvePacket_of_type {type : DtmPktType} (htype : type ≠ .pkt0xFFOrVs)
    (radioMode : RadioMode) :
    resolvePacket radioMode type.packet = type.packet ∧ type.packet ≠ .vendor := by
  cases type with
  | prbs9 | pkt0x0F | pkt0x55 => exact ⟨rfl, by decide⟩
  | pkt0xFFOrVs => exact absurd rfl htype

/-- What an accepted packet leaves behind. -/
theorem dtmTestTransmit_length {channel length : UInt8} {pkt : DtmPacket} {s s' : Device}
    (hv : resolvePacket s.radioMode pkt ≠ .vendor)
    (h : dtmTestTransmit b channel length pkt s = .ok (.ok, s')) :
    s'.packetLen = length.toUInt32 ∧ s'.radio.packetPtr = some 0 ∧ s'.pdu 0 1 = length := by
  have hptr := dtmTestTransmit_packetPtr hv h
  have hstarted : s'.packetLen = length.toUInt32 ∧ s'.state = .transmitterTest := by
    generalize hx : (Ret.ok, s') = x at h
    cases dtmTestTransmit_ok h with
    | busy | channel | refused => cases hx
    | setting hs hv' | carrier hs hv' => exact absurd hv' hv
    | modulated =>
      cases hx
      exact ⟨rfl, rfl⟩
  obtain ⟨type, -, hholds, -⟩ := dtmTestTransmit_holds h hstarted.2
  exact ⟨hstarted.1, hptr, hholds.lengthOctet⟩

/-- **The packet length sent is the length set.** After any run of the firmware, an accepted
Transmitter Test word of a packet type stores its own six bits under the upper bits of the history,
and sends a PDU of that length. -/
theorem packet_length_set {f f' f'' : Firmware} (hf : f.Initial b) {is : List FirmwareInput}
    (hrun : run (Firmware.step b q) f is = .ok f') {cmd : UInt16} (hcode : cmdCode cmd = 2)
    (htype : cmdType cmd ≠ 3) (hput : f'.put b q cmd = .ok (CmdCore.decoder.success, f'')) :
    f''.device.packetLen.toNat = wordLength cmd (is.foldl upperParameter none) ∧
      ∃ pdu, f''.device.radio.packetPtr.map f''.device.pdu = some pdu ∧
        (pdu 1).toNat = wordLength cmd (is.foldl upperParameter none) := by
  have hupper : f'.upperLen = historyUpperLen (is.foldl upperParameter none) :=
    Firmware.run_upperLen hf.2.1 hrun
  obtain ⟨type, hofCode⟩ := Decoder.cmdType_cases cmd
  have hne : type ≠ .pkt0xFFOrVs := by
    rintro rfl
    rw [DtmPktType.ofCode] at hofCode
    split_ifs at hofCode with h0 h1 h2
    · cases hofCode
    · cases hofCode
    · cases hofCode
  let length : UInt8 :=
    withUpperLen (cmdLength cmd) (historyUpperLen (is.foldl upperParameter none))
  have htransmit : dtmTestTransmit b (cmdChan cmd) length type.packet f'.device =
      .ok (.ok, f''.device) := by
    rw [f'.put_transmit hcode hofCode, hupper] at hput
    obtain ⟨⟨r, s⟩, hs, hput⟩ := bind_eq_ok.1 hput
    cases r with
    | ok =>
      cases hput
      exact hs
    -- the event of an error is not that of success
    | err e => cases hput
  obtain ⟨hresolve, hv⟩ := resolvePacket_of_type hne f'.device.radioMode
  obtain ⟨hlen, hptr, hoctet⟩ := dtmTestTransmit_length (by rwa [hresolve]) htransmit
  refine ⟨?_, f''.device.pdu 0, by rw [hptr, Option.map_some], ?_⟩
  · rw [hlen, UInt8.toNat_toUInt32]
    exact withUpperLen_toNat cmd _
  · rw [hoctet]
    exact withUpperLen_toNat cmd _

/-- 165 octets: 37 in the word, and the upper bits `10` of a Set Upper Bits word with a Read
Features word in between. -/
def longPacket : List FirmwareInput := [.word 0x0000, .word 0x0108, .word 0x0400]

theorem packet_length_set_long :
    ∃ f' f'', run (Firmware.step (.nrf5340 true false) 1024) (.ofDevice .nrf5340) longPacket =
        .ok f' ∧
      f'.put (.nrf5340 true false) 1024 0x8594 = .ok (CmdCore.decoder.success, f'') ∧
      f''.device.packetLen.toNat = 165 := by
  have hinitial : (Firmware.ofDevice .nrf5340).Initial (.nrf5340 true false) :=
    ⟨Device.nrf5340_initialised true false, rfl, rfl⟩
  let f : Firmware := { Firmware.ofDevice .nrf5340 with upperLen := 0x80 }
  obtain ⟨pdu, radio, anomalyTimer, timer, -, htx⟩ := dtmTestTransmit_modulated
    (b := .nrf5340 true false) (s := f.device) 5 165 rfl
    (show resolvePacket .ble1Mbit .prbs9 ≠ .vendor by decide) (by decide) rfl
  obtain ⟨f'', hput⟩ : ∃ f'', f.put (.nrf5340 true false) 1024 0x8594 =
      .ok (CmdCore.decoder.success, f'') := by
    rw [f.put_transmit (show cmdCode 0x8594 = 2 by decide)
        (show DtmPktType.ofCode (cmdType 0x8594) = some .prbs9 by decide),
      show cmdChan 0x8594 = 5 by decide,
      show withUpperLen (cmdLength 0x8594) f.upperLen = 165 by decide,
      show DtmPktType.prbs9.packet = .prbs9 from rfl, htx]
    exact ⟨_, rfl⟩
  have hrun : run (Firmware.step (.nrf5340 true false) 1024) (.ofDevice .nrf5340) longPacket =
      .ok f := rfl
  exact ⟨f, f'', hrun, hput, (packet_length_set hinitial hrun rfl (by decide) hput).1⟩

end DirectTestMode
