import DirectTestMode.Transport.Interface

/-!
# The two-wire command word

What the two decoders of the repository share: the fields of a 16-bit command word, the dispatch on
the command code, and the controls that both of them handle alike. A `Decoder` collects what they do
not share: the two status events, the range of Test End, and the switch over the controls of a Test
Setup word.

`upper_len` is a static variable of the decoder. A handler takes its value and returns the new one.

## Why one decoder with parameters

The two files are near copies, and most of what can be said of one can be said of the other. The
dispatch is written once, with each decoder's own constants and its own switch as arguments, so that
a reader can check either against its file; what differs is then visible as a difference of two
records, and a comparison of the decoders is one of their fields.

## What the proofs use

The command code has two bits, so a word is in exactly one of four classes (`cmdCode_cases`), and
each class has an equation that says what the decoder does with it (`dtmCmdPut_testSetup` and the
three others). No later proof unfolds the dispatch. The packet type has two bits as well, which
makes one error branch of the source unreachable (`cmdType_cases`); it stays in the model.
-/

namespace DirectTestMode

open Fallible

/-! ### Fields of a command word -/

/-- `enum dtm_cmd_code`. -/
inductive DtmCmdCode
  | testSetup | receiverTest | transmitterTest | testEnd
  deriving DecidableEq, Repr

/-- The class of a command code. -/
def DtmCmdCode.ofCode (code : UInt16) : Option DtmCmdCode :=
  if code = 0 then some testSetup
  else if code = 1 then some receiverTest
  else if code = 2 then some transmitterTest
  else if code = 3 then some testEnd
  else none

/-- `enum dtm_ctrl_code`. -/
inductive DtmCtrlCode
  | reset | setUpper | setPhy | selectModulation | readSupported | readMax
  | constantToneExtension | constantToneExtensionSlot | antennaArray | transmitPower
  deriving DecidableEq, Repr

/-- The number of an enumerator of `enum dtm_ctrl_code`. -/
def DtmCtrlCode.code : DtmCtrlCode → UInt8
  | reset => 0x00 | setUpper => 0x01 | setPhy => 0x02 | selectModulation => 0x03
  | readSupported => 0x04 | readMax => 0x05 | constantToneExtension => 0x06
  | constantToneExtensionSlot => 0x07 | antennaArray => 0x08 | transmitPower => 0x09

/-- The control with a given number; there are ten. -/
def DtmCtrlCode.ofCode (code : UInt8) : Option DtmCtrlCode :=
  [reset, setUpper, setPhy, selectModulation, readSupported, readMax, constantToneExtension,
    constantToneExtensionSlot, antennaArray, transmitPower].find? (DtmCtrlCode.code · == code)

/-- `enum dtm_pkt_type`. -/
inductive DtmPktType
  | prbs9 | pkt0x0F | pkt0x55 | pkt0xFFOrVs
  deriving DecidableEq, Repr

/-- The packet type with a given number. -/
def DtmPktType.ofCode (code : UInt8) : Option DtmPktType :=
  if code = 0 then some prbs9
  else if code = 1 then some pkt0x0F
  else if code = 2 then some pkt0x55
  else if code = 3 then some pkt0xFFOrVs
  else none

/-- The packet that a packet type of the two-wire interface selects. -/
def DtmPktType.packet : DtmPktType → DtmPacket
  | prbs9 => .prbs9 | pkt0x0F => .pkt0F | pkt0x55 => .pkt55 | pkt0xFFOrVs => .ffOrVendor

/-- Bits 15 and 14 of a word: its class. -/
def cmdCode (cmd : UInt16) : UInt16 := (cmd >>> 14) &&& 0x03

/-- Bits 13 to 8: the channel of a test. -/
def cmdChan (cmd : UInt16) : UInt8 := ((cmd >>> 8) &&& 0x3F).toUInt8

/-- Bits 7 to 2: the lower bits of the length of a test packet. -/
def cmdLength (cmd : UInt16) : UInt8 := ((cmd >>> 2) &&& 0x3F).toUInt8

/-- Bits 1 and 0: the packet type of a test. -/
def cmdType (cmd : UInt16) : UInt8 := (cmd &&& 0x03).toUInt8

/-- Bits 13 to 8 again: the control of a Test Setup word. -/
def cmdControl (cmd : UInt16) : UInt8 := ((cmd >>> 8) &&& 0x3F).toUInt8

/-- The low octet: the parameter of a control. -/
def cmdParameter (cmd : UInt16) : UInt8 := cmd.toUInt8

/-! ### Controls handled alike -/

/-- `LE_UPPER_BITS_MASK`. -/
def leUpperBitsMask : UInt8 := 0xC0

/-- The value `upper_set` stores. -/
def upperBits (parameter : UInt8) : UInt8 := (parameter <<< 4) &&& leUpperBitsMask

/-- The length octet of a Transmitter Test: the field of the word under the upper bits. -/
def withUpperLen (length upperLen : UInt8) : UInt8 := (length &&& ~~~leUpperBitsMask) ||| upperLen

/-- A value of `upper_len` holds nothing but upper bits. -/
def UpperOnly (upperLen : UInt8) : Prop := upperLen &&& 0x3F = 0

/-- What `upper_set` stores holds nothing but upper bits, whatever the parameter. -/
theorem upperBits_upperOnly (parameter : UInt8) : UpperOnly (upperBits parameter) := by
  rw [UpperOnly, upperBits, UInt8.and_assoc]
  exact UInt8.and_zero

/-- The upper bits leave the six bits of the length field alone. -/
theorem withUpperLen_low (length : UInt8) {upperLen : UInt8} (h : UpperOnly upperLen) :
    withUpperLen length upperLen &&& 0x3F = length &&& 0x3F := by
  have hdistrib : withUpperLen length upperLen &&& 0x3F =
      ((length &&& ~~~leUpperBitsMask) &&& 0x3F) ||| (upperLen &&& 0x3F) :=
    UInt8.toBitVec_inj.1 BitVec.and_or_distrib_right
  rw [hdistrib, h, UInt8.or_zero, UInt8.and_assoc]
  rfl

/-- The response bits of the supported features. -/
def featureBits (features : DtmSuppFeatures) : UInt16 :=
  (if features.dataLenExt then 0x0002 else 0) |||
  (if features.phy2m then 0x0004 else 0) |||
  (if features.stableMod then 0x0008 else 0) |||
  (if features.codedPhy then 0x0010 else 0) |||
  (if features.cte then 0x0020 else 0) |||
  (if features.antSwitching then 0x0040 else 0) |||
  (if features.aod1usTx then 0x0080 else 0) |||
  (if features.aod1usRx then 0x0100 else 0) |||
  (if features.aoa1usRx then 0x0200 else 0)

/-- An error of a library function as an `int`. -/
def Ret.ofExcept {α : Type} : Except Errno α → Ret
  | .ok _ => .ok
  | .error e => .err e

/-- `features_read`: the error and the response data. -/
def featuresRead (parameter : UInt8) : Prog transport (Ret × UInt16) :=
  if 0x03 < parameter.toNat then pure (.err .einval, 0)
  else do
    let features ← Transport.setupReadFeatures
    pure (.ok, featureBits features)

/-- The parameter of `read_max` that a range of the command's parameter selects. -/
def maxSupportedOf (parameter : UInt8) : Option DtmMaxSupported :=
  if parameter.toNat ≤ 0x03 then some .txOctets
  else if parameter.toNat ≤ 0x07 then some .txTime
  else if parameter.toNat ≤ 0x0B then some .rxOctets
  else if parameter.toNat ≤ 0x0F then some .rxTime
  else if parameter.toNat = 0x10 then some .cteLength
  else none

/-- `read_max`: the error and the response data, which stay zero when the value is not read. -/
def readMax (parameter : UInt8) : Prog transport (Ret × UInt16) :=
  match maxSupportedOf parameter with
  | none => pure (.err .einval, 0)
  | some param => do
    let maxVal ← Transport.setupReadMaxSupportedValue param
    pure (.ofExcept maxVal, (maxVal.toOption.getD 0) <<< 1)

/-! ### The decoder -/

/-- What distinguishes the two decoders. -/
structure Decoder where
  /-- `LE_TEST_STATUS_EVENT_SUCCESS`. -/
  success : UInt16
  /-- `LE_TEST_STATUS_EVENT_ERROR`. -/
  error : UInt16
  /-- `LE_TEST_END_MAX_RANGE`. -/
  testEndMaxRange : ℕ
  /-- The switch of `on_test_setup_cmd` on the control and the parameter: the error, the response
  data and the new `upper_len`. -/
  setupCmd : UInt8 → UInt8 → UInt8 → Prog transport (Ret × UInt16 × UInt8)

namespace Decoder

variable (d : Decoder)

/-- `LE_PACKET_REPORTING_EVENT`. -/
def packetReportingEvent : UInt16 := 0x8000

/-- The status event of an error and its response data. -/
def statusEvent (err : Ret) (ret : UInt16) : UInt16 :=
  if err ≠ .ok then d.error else d.success ||| ret

/-- `on_test_setup_cmd`: the event of what the switch comes to. -/
def onTestSetupCmd (control parameter upperLen : UInt8) : Prog transport (UInt16 × UInt8) := do
  let x ← d.setupCmd control parameter upperLen
  pure (d.statusEvent x.1 x.2.1, x.2.2)

/-- The response to a Test End. -/
def testEndEvent : Except Errno UInt16 → UInt16
  | .ok cnt => packetReportingEvent ||| cnt
  | .error _ => d.error

/-- `on_test_end_cmd`. A control other than zero is an error, and so is a parameter out of range. -/
def onTestEndCmd (control parameter : UInt8) : Prog transport UInt16 :=
  if control ≠ 0 ∨ d.testEndMaxRange < parameter.toNat then pure d.error
  else do
    let cnt ← Transport.testEnd
    pure (d.testEndEvent cnt)

/-- `on_test_rx_cmd`: no check of its own. -/
def onTestRxCmd (chan : UInt8) : Prog transport UInt16 := do
  let err ← Transport.testReceive chan
  pure (d.statusEvent err 0)

/-- `on_test_tx_cmd`. The length is completed with `upper_len` before the type is looked at, so a
vendor packet is given the completed length too. -/
def onTestTxCmd (chan length type upperLen : UInt8) : Prog transport UInt16 :=
  match DtmPktType.ofCode type with
  | none => pure d.error
  | some type => do
    let err ← Transport.testTransmit chan (withUpperLen length upperLen) type.packet
    pure (d.statusEvent err 0)

/-- `dtm_cmd_put`: the response word and the new `upper_len`. -/
def dtmCmdPut (cmd : UInt16) (upperLen : UInt8) : Prog transport (UInt16 × UInt8) :=
  match DtmCmdCode.ofCode (cmdCode cmd) with
  | some .testSetup => d.onTestSetupCmd (cmdControl cmd) (cmdParameter cmd) upperLen
  | some .testEnd => do
    let response ← d.onTestEndCmd (cmdControl cmd) (cmdParameter cmd)
    pure (response, upperLen)
  | some .receiverTest => do
    let response ← d.onTestRxCmd (cmdChan cmd)
    pure (response, upperLen)
  | some .transmitterTest => do
    let response ← d.onTestTxCmd (cmdChan cmd) (cmdLength cmd) (cmdType cmd) upperLen
    pure (response, upperLen)
  | none => pure (d.error, upperLen)

/-! ### The class of a word -/

section

variable {cmd : UInt16} (upperLen : UInt8)

/-- A Test Setup word goes to the switch. -/
theorem dtmCmdPut_testSetup (h : cmdCode cmd = 0) :
    d.dtmCmdPut cmd upperLen =
      d.onTestSetupCmd (cmdControl cmd) (cmdParameter cmd) upperLen := by
  rw [dtmCmdPut, h]
  rfl

/-- A Receiver Test word is one call, whatever its low octet. -/
theorem dtmCmdPut_receiverTest (h : cmdCode cmd = 1) :
    d.dtmCmdPut cmd upperLen =
      (Transport.testReceive (cmdChan cmd) >>= fun err ↦
        pure (d.statusEvent err 0, upperLen)) := by
  rw [dtmCmdPut, h]
  rfl

/-- A Transmitter Test word is one call, with the packet of its type. -/
theorem dtmCmdPut_transmitterTest (h : cmdCode cmd = 2) {type : DtmPktType}
    (htype : DtmPktType.ofCode (cmdType cmd) = some type) :
    d.dtmCmdPut cmd upperLen =
      (Transport.testTransmit (cmdChan cmd) (withUpperLen (cmdLength cmd) upperLen) type.packet >>=
        fun err ↦ pure (d.statusEvent err 0, upperLen)) := by
  rw [dtmCmdPut, h]
  show (d.onTestTxCmd (cmdChan cmd) (cmdLength cmd) (cmdType cmd) upperLen >>= _) = _
  rw [onTestTxCmd, htype]
  rfl

/-- A Test End word ends the test exactly when its control is zero and its parameter in range. -/
theorem dtmCmdPut_testEnd (h : cmdCode cmd = 3) :
    d.dtmCmdPut cmd upperLen =
      if cmdControl cmd ≠ 0 ∨ d.testEndMaxRange < (cmdParameter cmd).toNat then
        pure (d.error, upperLen)
      else
        Transport.testEnd >>= fun cnt ↦ pure (d.testEndEvent cnt, upperLen) := by
  rw [dtmCmdPut, h]
  show (d.onTestEndCmd (cmdControl cmd) (cmdParameter cmd) >>= _) = _
  rw [onTestEndCmd]
  split <;> rfl

end

/-- A decoder whose controls keep to the upper bits keeps `upper_len` to them. -/
theorem dtmCmdPut_returns {upperLen : UInt8} (hupper : UpperOnly upperLen)
    (hsetup : ∀ control parameter,
      (d.setupCmd control parameter upperLen).Returns fun x ↦ UpperOnly x.2.2) (cmd : UInt16) :
    (d.dtmCmdPut cmd upperLen).Returns fun x ↦ UpperOnly x.2 := by
  rw [dtmCmdPut]
  split
  · exact (hsetup _ _).bind fun x hx ↦ hx
  · exact (Prog.returns_true _).bind fun _ _ ↦ hupper
  · exact (Prog.returns_true _).bind fun _ _ ↦ hupper
  · exact (Prog.returns_true _).bind fun _ _ ↦ hupper
  · exact hupper

/-- The two bits of a command code name one of the four classes. -/
theorem cmdCode_cases (cmd : UInt16) :
    cmdCode cmd = 0 ∨ cmdCode cmd = 1 ∨ cmdCode cmd = 2 ∨ cmdCode cmd = 3 := by
  have h : (cmdCode cmd).toNat < 4 := by
    rw [cmdCode, UInt16.toNat_and]
    exact Nat.and_lt_two_pow _ (by decide : (3 : UInt16).toNat < 2 ^ 2)
  simp only [← UInt16.toNat_inj, UInt16.toNat_ofNat]
  omega

/-- The two bits of a packet type name one of the four packet types. -/
theorem cmdType_cases (cmd : UInt16) : ∃ type, DtmPktType.ofCode (cmdType cmd) = some type := by
  have h : (cmdType cmd).toNat < 4 := by
    rw [cmdType, UInt16.toNat_toUInt8, UInt16.toNat_and]
    exact (Nat.mod_le _ _).trans_lt
      (Nat.and_lt_two_pow _ (by decide : (3 : UInt16).toNat < 2 ^ 2))
  have hcases : cmdType cmd = 0 ∨ cmdType cmd = 1 ∨ cmdType cmd = 2 ∨ cmdType cmd = 3 := by
    simp only [← UInt8.toNat_inj, UInt8.toNat_ofNat]
    omega
  rcases hcases with h | h | h | h <;> rw [h] <;> exact ⟨_, rfl⟩

/-- **What a word issues, class by class**: a property of the operations follows from that of the
switch and of the three test calls. -/
theorem dtmCmdPut_issues {G : TransportOp → Prop} {cmd : UInt16} {upperLen : UInt8}
    (hsetup : cmdCode cmd = 0 →
      (d.setupCmd (cmdControl cmd) (cmdParameter cmd) upperLen).Issues G)
    (hreceive : G (.dtm (.testReceive (cmdChan cmd))))
    (htransmit : cmdCode cmd = 2 → ∀ length pkt, G (.dtm (.testTransmit (cmdChan cmd) length pkt)))
    (hend : G (.dtm (.testEnd true))) : (d.dtmCmdPut cmd upperLen).Issues G := by
  rcases cmdCode_cases cmd with h | h | h | h
  · rw [dtmCmdPut_testSetup d upperLen h]
    exact (hsetup h).bind fun _ ↦ trivial
  · rw [dtmCmdPut_receiverTest d upperLen h]
    exact ⟨hreceive, fun _ ↦ trivial⟩
  · obtain ⟨type, htype⟩ := cmdType_cases cmd
    rw [dtmCmdPut_transmitterTest d upperLen h htype]
    exact ⟨htransmit h _ _, fun _ ↦ trivial⟩
  · rw [dtmCmdPut_testEnd d upperLen h]
    exact Prog.issues_ite trivial ⟨hend, fun _ ↦ trivial⟩

end Decoder

end DirectTestMode
