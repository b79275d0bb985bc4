import DirectTestMode.Transport.Effect

/-!
# The two-wire format, in both directions

A tester speaks in commands, `TesterCommand`, and `TesterCommand.encode` puts one into a word, with
the masks and positions of `dtm_uart_twowire.c`. `TesterCommand.effect` says what the command asks
the device to do. Decoding undoes encoding when the operations that the decoder issues for the word
are those of the command.

The fields of a word are read back one by one (`setupWord_fields`, `testWord_fields`), and the
parameter of a Test Setup word by the switch of its control. One field has a mask and a shift that
do not go together: the CTE type is always read as AoA, and no parameter names a slot.

## A round trip on effects

A decoder of C does not return a command; it calls the library. So the round trip is stated of the
calls: `TesterCommand.effect` is the list of operations that a command asks for, with the upper bits
after it, and `WordEffect.Straight` says that a program issues just these, whatever they answer.
That is a statement about the program's text, and needs no device.

* Commands carry their ranges as fields, so that each of them has a word. The bits of a word that
  the decoder does not look at are a parameter of the encoder, `low`, and the result is for each of
  their values.
* The words are disjunctions of shifted fields, and a field of a disjunction is the disjunction of
  the fields (`shiftMask_or`). With it the fields are computed one at a time, over 64 values each
  and not over their product.
* `effect_encode` holds of **all** commands, with `readBack` in the place of the identity: the
  decoder finds the AoA command in the word of an AoD one. The equivalence of `twowire_codec_iff` is
  then a comparison of two commands, and of their effects.

No parameter of the slot control selects a slot, so no command of a tester stands for it; it is in
the second half of the result, for every parameter.
-/

namespace DirectTestMode

open Fallible

/-! ### The commands of a tester -/

/-- The types of a constant tone extension. -/
inductive CteKind
  | aoa | aod1us | aod2us
  deriving DecidableEq, Repr

namespace CteKind

/-- The number in the type field. -/
def code : CteKind → UInt8
  | aoa => 0 | aod1us => 1 | aod2us => 2

def type : CteKind → DtmCteType
  | aoa => .aoa | aod1us => .aod1us | aod2us => .aod2us

end CteKind

/-- A transmit power: a level in dBm, or the lowest or the highest one. -/
inductive PowerCommand
  | level (power : Int8) (hpower : -127 ≤ power.toInt ∧ power.toInt ≤ 20)
  | min
  | max

namespace PowerCommand

def octet : PowerCommand → UInt8
  | level power _ => power.toUInt8 | min => 0x7E | max => 0x7F

/-- The request that is made of the library. -/
def request : PowerCommand → DtmTxPowerRequest × Int8
  | level power _ => (.val, power) | min => (.min, 0) | max => (.max, 0)

end PowerCommand

/-- A command of a tester. -/
inductive TesterCommand
  | reset
  | setUpper (bits : Fin 4)
  | setPhy (phy : DtmPhy)
  | setModulation (modulation : DtmModulation)
  | readFeatures
  | readMax (parameter : DtmMaxSupported)
  | cteOff
  | cte (kind : CteKind) (time : UInt8) (htime : 2 ≤ time.toNat ∧ time.toNat ≤ 20)
  /-- The antennas are switched in turn, or forth and back. -/
  | antennaArray (count : UInt8) (hcount : 1 ≤ count.toNat ∧ count.toNat ≤ 75) (back : Bool)
  | txPower (power : PowerCommand)
  | receiverTest (channel : Fin 64)
  | transmitterTest (channel length : Fin 64) (type : DtmPktType)
  | testEnd

/-! ### Encoding -/

/-- The number of a packet type. -/
def DtmPktType.code : DtmPktType → UInt16
  | prbs9 => 0 | pkt0x0F => 1 | pkt0x55 => 2 | pkt0xFFOrVs => 3

/-- A Test Setup word. -/
def setupWord (control : DtmCtrlCode) (parameter : UInt8) : UInt16 :=
  (control.code.toUInt16 <<< 8) ||| parameter.toUInt16

/-- A Receiver Test or Transmitter Test word. -/
def testWord (code : UInt16) (channel length : Fin 64) (type : DtmPktType) : UInt16 :=
  (code <<< 14) ||| (UInt16.ofNat channel <<< 8) ||| (UInt16.ofNat length <<< 2) ||| type.code

/-- A parameter with its value from bit 2 on; the two low bits are free. -/
def rangeParameter (value : UInt8) (low : Fin 4) : UInt8 := (value <<< 2) ||| UInt8.ofNat low

namespace TesterCommand

def phyValue : DtmPhy → UInt8
  | .phy1m => 1 | .phy2m => 2 | .codedS8 => 3 | .codedS2 => 4

def modulationValue : DtmModulation → UInt8
  | .standard => 0 | .stable => 1

/-- The CTE length has one parameter, the other values a range each. -/
def readMaxParameter (low : Fin 4) : DtmMaxSupported → UInt8
  | .txOctets => rangeParameter 0 low
  | .txTime => rangeParameter 1 low
  | .rxOctets => rangeParameter 2 low
  | .rxTime => rangeParameter 3 low
  | .cteLength => 0x10

/-- The word of a command, for each value of the free bits. -/
def encode (low : Fin 4) : TesterCommand → UInt16
  | reset => setupWord .reset (rangeParameter 0 low)
  | setUpper bits => setupWord .setUpper (rangeParameter (UInt8.ofNat bits) low)
  | setPhy phy => setupWord .setPhy (rangeParameter (phyValue phy) low)
  | setModulation modulation =>
    setupWord .selectModulation (rangeParameter (modulationValue modulation) low)
  | readFeatures => setupWord .readSupported (rangeParameter 0 low)
  | readMax parameter => setupWord .readMax (readMaxParameter low parameter)
  | cteOff => setupWord .constantToneExtension 0
  | cte kind time _ => setupWord .constantToneExtension (time ||| (kind.code <<< 6))
  | antennaArray count _ back => setupWord .antennaArray (count ||| (back.toUInt8 <<< 7))
  | txPower power => setupWord .transmitPower power.octet
  | receiverTest channel => testWord 1 channel 0 .prbs9
  | transmitterTest channel length type => testWord 2 channel length type
  | testEnd => ((3 : UInt16) <<< 14) ||| UInt16.ofNat low

/-! ### What a command asks for -/

/-- The order in which the antennas are switched: `1 .. N`, or `1 .. N .. 1`. -/
def antennaOrder (count : UInt8) (back : Bool) : List UInt8 :=
  let forth := (List.range count.toNat).map fun i ↦ UInt8.ofNat (i + 1)
  if back then forth ++ forth.dropLast.reverse else forth

/-- The effect of a Test Setup command: each one first ends the running test. -/
def setup (ops : List TransportOp) (upperLen : UInt8) : WordEffect :=
  ⟨.dtm .setupPrepare :: ops, upperLen⟩

/-- The operations of a command and the upper bits after it, from those before it. -/
def effect (upperLen : UInt8) : TesterCommand → WordEffect
  | reset => setup [.dtm .setupReset] 0
  | setUpper bits => setup [] (UInt8.ofNat bits <<< 6)
  | setPhy phy => setup [.dtm (.setupSetPhy phy)] upperLen
  | setModulation modulation => setup [.dtm (.setupSetModulation modulation)] upperLen
  | readFeatures => setup [.dtm .setupReadFeatures] upperLen
  | readMax parameter => setup [.dtm (.setupReadMaxSupportedValue parameter true)] upperLen
  | cteOff => setup [.dtm (.setupSetCteMode .none 0)] upperLen
  | cte kind time _ => setup [.dtm (.setupSetCteMode kind.type time)] upperLen
  | antennaArray count _ back =>
    setup [.patternStore .uart (antennaOrder count back),
      .dtm (.setupSetAntennaParams count .uart (UInt8.ofNat (antennaOrder count back).length))]
      upperLen
  | txPower power =>
    setup [.dtm (.setupSetTransmitPower power.request.1 power.request.2 0)] upperLen
  | receiverTest channel => ⟨[.dtm (.testReceive (UInt8.ofNat channel))], upperLen⟩
  | transmitterTest channel length type =>
    ⟨[.dtm (.testTransmit (UInt8.ofNat channel) (UInt8.ofNat length ||| upperLen) type.packet)],
      upperLen⟩
  | testEnd => ⟨[.dtm (.testEnd true)], upperLen⟩

/-- The command that the decoder finds: every extension is an AoA one. -/
def readBack : TesterCommand → TesterCommand
  | cte _ time htime => cte .aoa time htime
  | c => c

/-- The command sets an extension of one of the AoD types. -/
def IsAod : TesterCommand → Prop
  | cte kind _ _ => kind ≠ .aoa
  | _ => False

end TesterCommand

/-! ### The fields of a word -/

theorem setupWord_fields (control : DtmCtrlCode) (parameter : UInt8) :
    cmdCode (setupWord control parameter) = 0 ∧
      cmdControl (setupWord control parameter) = control.code ∧
      cmdParameter (setupWord control parameter) = parameter := by
  have hall : ∀ n < 256, cmdCode (setupWord control (UInt8.ofNat n)) = 0 ∧
      cmdControl (setupWord control (UInt8.ofNat n)) = control.code ∧
      cmdParameter (setupWord control (UInt8.ofNat n)) = UInt8.ofNat n := by
    cases control <;> decide +kernel
  have h := hall parameter.toNat parameter.toNat_lt
  rwa [UInt8.ofNat_toNat] at h

/-- A field of a disjunction is the disjunction of the fields. -/
theorem shiftMask_or (v w n m : UInt16) :
    ((v ||| w) >>> n) &&& m = ((v >>> n) &&& m) ||| ((w >>> n) &&& m) := by
  have hshift : (v ||| w) >>> n = (v >>> n) ||| (w >>> n) :=
    UInt16.toBitVec_inj.1 (BitVec.ushiftRight_or_distrib ..)
  rw [hshift]
  exact UInt16.toBitVec_inj.1 BitVec.and_or_distrib_right

theorem cmdCode_or (v w : UInt16) : cmdCode (v ||| w) = cmdCode v ||| cmdCode w :=
  shiftMask_or v w 14 0x03

theorem cmdChan_or (v w : UInt16) : cmdChan (v ||| w) = cmdChan v ||| cmdChan w := by
  rw [cmdChan, shiftMask_or, UInt16.toUInt8_or]
  rfl

theorem cmdLength_or (v w : UInt16) : cmdLength (v ||| w) = cmdLength v ||| cmdLength w := by
  rw [cmdLength, shiftMask_or, UInt16.toUInt8_or]
  rfl

/-- The type of a disjunction; the channel and the length above are read in the same way. -/
theorem cmdType_or (v w : UInt16) : cmdType (v ||| w) = cmdType v ||| cmdType w := by
  rw [cmdType, show (v ||| w) &&& 0x03 = (v &&& 0x03) ||| (w &&& 0x03) from
    UInt16.toBitVec_inj.1 BitVec.and_or_distrib_right, UInt16.toUInt8_or]
  rfl

/-- A code in place, and what it leaves in the other fields. -/
theorem fields_code {code : UInt16} (hcode : code ∈ [(1 : UInt16), 2]) :
    cmdCode (code <<< 14) = code ∧ cmdChan (code <<< 14) = 0 ∧ cmdLength (code <<< 14) = 0 ∧
      cmdType (code <<< 14) = 0 := by
  simp only [List.mem_cons, List.not_mem_nil, or_false] at hcode
  rcases hcode with rfl | rfl <;> decide

/-- A channel in place, and nothing in the other fields. -/
theorem fields_channel : ∀ channel : Fin 64,
    cmdCode (UInt16.ofNat channel <<< 8) = 0 ∧
      cmdChan (UInt16.ofNat channel <<< 8) = UInt8.ofNat channel ∧
      cmdLength (UInt16.ofNat channel <<< 8) = 0 ∧ cmdType (UInt16.ofNat channel <<< 8) = 0 := by
  decide

/-- A length in place. -/
theorem fields_length : ∀ length : Fin 64,
    cmdCode (UInt16.ofNat length <<< 2) = 0 ∧ cmdChan (UInt16.ofNat length <<< 2) = 0 ∧
      cmdLength (UInt16.ofNat length <<< 2) = UInt8.ofNat length ∧
      cmdType (UInt16.ofNat length <<< 2) = 0 := by
  decide

theorem fields_type (type : DtmPktType) :
    cmdCode type.code = 0 ∧ cmdChan type.code = 0 ∧ cmdLength type.code = 0 ∧
      DtmPktType.ofCode (cmdType type.code) = some type := by
  cases type <;> decide

/-- **A test word** has its fields back. -/
theorem testWord_fields {code : UInt16} (channel length : Fin 64) (type : DtmPktType)
    (hcode : code ∈ [(1 : UInt16), 2]) :
    cmdCode (testWord code channel length type) = code ∧
      cmdChan (testWord code channel length type) = UInt8.ofNat channel ∧
      cmdLength (testWord code channel length type) = UInt8.ofNat length ∧
      DtmPktType.ofCode (cmdType (testWord code channel length type)) = some type := by
  have hc := fields_code hcode
  have hchan := fields_channel channel
  have hlen := fields_length length
  have htype := fields_type type
  refine ⟨?_, ?_, ?_, ?_⟩
  · rw [testWord, cmdCode_or, cmdCode_or, cmdCode_or, hc.1, hchan.1, hlen.1, htype.1]
    simp
  · rw [testWord, cmdChan_or, cmdChan_or, cmdChan_or, hc.2.1, hchan.2.1, hlen.2.1, htype.2.1]
    simp
  · rw [testWord, cmdLength_or, cmdLength_or, cmdLength_or, hc.2.2.1, hchan.2.2.1, hlen.2.2.1,
      htype.2.2.1]
    simp
  · rw [testWord, cmdType_or, cmdType_or, cmdType_or, hc.2.2.2, hchan.2.2.2, hlen.2.2.2,
      UInt8.zero_or, UInt8.zero_or, UInt8.zero_or]
    exact htype.2.2.2

/-! ### Decoding what was encoded -/

@[simp] theorem DtmCtrlCode.ofCode_code (control : DtmCtrlCode) :
    DtmCtrlCode.ofCode control.code = some control := by
  cases control <;> rfl

namespace TesterCommand

theorem ranges_parameter : ∀ low : Fin 4, ¬0x03 < (rangeParameter 0 low).toNat := by
  decide

theorem upperBits_parameter : ∀ bits low : Fin 4,
    ¬0x0F < (rangeParameter (UInt8.ofNat bits) low).toNat ∧
      upperBits (rangeParameter (UInt8.ofNat bits) low) = UInt8.ofNat bits <<< 6 := by
  decide

theorem phyOf_parameter (phy : DtmPhy) : ∀ low : Fin 4,
    UartTwowire.phyOf (rangeParameter (phyValue phy) low) = some phy := by
  cases phy <;> decide

theorem modSetOps_parameter (modulation : DtmModulation) (low : Fin 4) :
    UartTwowire.modSetOps (rangeParameter (modulationValue modulation) low) =
      [.dtm (.setupSetModulation modulation)] := by
  have hrange : ∀ low : Fin 4, (rangeParameter 0 low).toNat ≤ 0x03 ∧
      ¬(rangeParameter 1 low).toNat ≤ 0x03 ∧ (rangeParameter 1 low).toNat ≤ 0x07 := by
    decide
  rw [UartTwowire.modSetOps]
  cases modulation with
  | standard => exact if_pos (hrange low).1
  | stable => exact (if_neg (hrange low).2.1).trans (if_pos (hrange low).2.2)

theorem maxSupportedOf_parameter (parameter : DtmMaxSupported) : ∀ low : Fin 4,
    maxSupportedOf (readMaxParameter low parameter) = some parameter := by
  cases parameter <;> decide

/-- Time and type share the octet. The decoder finds the time again, and never the type. -/
theorem cteSetOps_parameter (kind : CteKind) {time : UInt8}
    (htime : 2 ≤ time.toNat ∧ time.toNat ≤ 20) :
    UartTwowire.cteSetOps (time ||| (kind.code <<< 6)) = [.dtm (.setupSetCteMode .aoa time)] := by
  have hall : ∀ n < 21, 2 ≤ n → UInt8.ofNat n ||| (kind.code <<< 6) ≠ 0 ∧
      UartTwowire.cteTime (UInt8.ofNat n ||| (kind.code <<< 6)) = UInt8.ofNat n := by
    cases kind <;> decide
  have h := hall time.toNat (by omega) htime.1
  rw [UInt8.ofNat_toNat] at h
  rw [UartTwowire.cteSetOps, if_neg h.1, h.2]

/-- The second half of the pattern that goes back is the first one without `N`, reversed. -/
theorem antennaPattern_eq (count : UInt8) (back : Bool) :
    UartTwowire.antennaPattern back.toUInt8 count = antennaOrder count back := by
  cases back with
  | false => rfl
  | true =>
    refine congrArg (_ ++ ·) (List.ext_getElem (by simp) fun i hi hi' ↦ ?_)
    simp only [List.length_map, List.length_range] at hi
    simp only [List.getElem_map, List.getElem_range, List.getElem_reverse, List.getElem_dropLast,
      List.length_dropLast, List.length_map, List.length_range]
    congr 1
    omega

theorem length_antennaOrder (count : UInt8) (back : Bool) :
    (antennaOrder count back).length = if back then count.toNat + (count.toNat - 1) else
      count.toNat := by
  cases back <;> simp [antennaOrder]

/-- **An antenna command** has its pattern and its count back. -/
theorem antennaSetOps_parameter {count : UInt8} (hcount : 1 ≤ count.toNat ∧ count.toNat ≤ 75)
    (back : Bool) :
    UartTwowire.antennaSetOps (count ||| (back.toUInt8 <<< 7)) =
      [.patternStore .uart (antennaOrder count back),
        .dtm (.setupSetAntennaParams count .uart
          (UInt8.ofNat (antennaOrder count back).length))] := by
  have hall : ∀ n < 128, ∀ back : Bool,
      (((UInt8.ofNat n ||| (back.toUInt8 <<< 7)) &&& 0x80) >>> 7 = back.toUInt8) ∧
        UartTwowire.antCount (UInt8.ofNat n ||| (back.toUInt8 <<< 7)) = UInt8.ofNat n := by
    decide
  have hlen : ∀ n < 76, 1 ≤ n → ∀ back : Bool,
      (if back.toUInt8 = 0 then UInt8.ofNat n else UInt8.ofNat n * 2 - 1) =
        UInt8.ofNat (if back then n + (n - 1) else n) := by
    decide
  have h := hall count.toNat (by omega) back
  have hlen := hlen count.toNat (by omega) hcount.1 back
  rw [UInt8.ofNat_toNat] at h hlen
  rw [UartTwowire.antennaSetOps, h.1, h.2, if_neg (by omega), antennaPattern_eq,
    length_antennaOrder, hlen]

theorem txPowerSetOps_parameter (power : PowerCommand) :
    UartTwowire.txPowerSetOps power.octet.toInt8 =
      [.dtm (.setupSetTransmitPower power.request.1 power.request.2 0)] := by
  cases power with
  | level power hpower =>
    have hreq : UartTwowire.txPowerRequest power = some (.val, power) := by
      rw [UartTwowire.txPowerRequest, if_neg (by omega), if_neg (by omega), if_pos hpower]
    rw [UartTwowire.txPowerSetOps, PowerCommand.octet, Int8.toInt8_toUInt8, hreq]
    rfl
  | min => rfl
  | max => rfl

end TesterCommand

namespace UartTwowire

/-- The effect of an encoded Test Setup word is that of the switch, after the running test. -/
theorem effect_setupWord (control : DtmCtrlCode) (parameter upperLen : UInt8) :
    effect (setupWord control parameter) upperLen =
      TesterCommand.setup (switchEffect control.code parameter upperLen).ops
        (switchEffect control.code parameter upperLen).upperLen := by
  have h := setupWord_fields control parameter
  rw [effect, decoder.effect_testSetup upperLen h.1, h.2.1, h.2.2]
  rfl

/-- A Test End has no fields, and two free bits. -/
theorem effect_testEnd (low : Fin 4) (upperLen : UInt8) :
    effect (((3 : UInt16) <<< 14) ||| UInt16.ofNat low) upperLen =
      ⟨[.dtm (.testEnd true)], upperLen⟩ := by
  have hfields : ∀ low : Fin 4,
      cmdCode (((3 : UInt16) <<< 14) ||| UInt16.ofNat low) = 3 ∧
        ¬(cmdControl (((3 : UInt16) <<< 14) ||| UInt16.ofNat low) ≠ 0 ∨
          0x03 < (cmdParameter (((3 : UInt16) <<< 14) ||| UInt16.ofNat low)).toNat) := by
    decide
  rw [effect, decoder.effect_testEnd upperLen (hfields low).1]
  exact if_neg (hfields low).2

/-- The six bits of a length field leave room for the upper bits. -/
theorem withUpperLen_field (length : Fin 64) (upperLen : UInt8) :
    withUpperLen (UInt8.ofNat length) upperLen = UInt8.ofNat length ||| upperLen := by
  have hfield : ∀ length : Fin 64,
      UInt8.ofNat length &&& ~~~leUpperBitsMask = UInt8.ofNat length := by
    decide
  rw [withUpperLen, hfield]

/-- **Decoding undoes encoding**, up to the type of an extension: AoD is read back as AoA. -/
theorem effect_encode (low : Fin 4) (upperLen : UInt8) (c : TesterCommand) :
    effect (c.encode low) upperLen = c.readBack.effect upperLen := by
  cases c with
  -- a Test Setup word: the control selects the case, and the parameter is read back
  | reset =>
    rw [TesterCommand.encode, effect_setupWord, switchEffect, DtmCtrlCode.ofCode_code]
    simp only [if_neg (TesterCommand.ranges_parameter low)]
    rfl
  | setUpper bits =>
    have h := TesterCommand.upperBits_parameter bits low
    rw [TesterCommand.encode, effect_setupWord, switchEffect, DtmCtrlCode.ofCode_code]
    simp only [if_neg h.1, h.2]
    rfl
  | setPhy phy =>
    rw [TesterCommand.encode, effect_setupWord, switchEffect, DtmCtrlCode.ofCode_code]
    simp only [phySetOps, TesterCommand.phyOf_parameter phy low]
    rfl
  | setModulation modulation =>
    rw [TesterCommand.encode, effect_setupWord, switchEffect, DtmCtrlCode.ofCode_code]
    simp only [TesterCommand.modSetOps_parameter modulation low]
    rfl
  | readFeatures =>
    rw [TesterCommand.encode, effect_setupWord, switchEffect, DtmCtrlCode.ofCode_code]
    simp only [featuresReadOps, if_neg (TesterCommand.ranges_parameter low)]
    rfl
  | readMax parameter =>
    rw [TesterCommand.encode, effect_setupWord, switchEffect, DtmCtrlCode.ofCode_code]
    simp only [readMaxOps, TesterCommand.maxSupportedOf_parameter parameter low]
    rfl
  | cteOff =>
    rw [TesterCommand.encode, effect_setupWord, switchEffect, DtmCtrlCode.ofCode_code]
    rfl
  | cte kind time htime =>
    rw [TesterCommand.encode, effect_setupWord, switchEffect, DtmCtrlCode.ofCode_code]
    simp only [TesterCommand.cteSetOps_parameter kind htime]
    rfl
  | antennaArray count hcount back =>
    rw [TesterCommand.encode, effect_setupWord, switchEffect, DtmCtrlCode.ofCode_code]
    simp only [TesterCommand.antennaSetOps_parameter hcount back]
    rfl
  | txPower power =>
    rw [TesterCommand.encode, effect_setupWord, switchEffect, DtmCtrlCode.ofCode_code]
    simp only [TesterCommand.txPowerSetOps_parameter power]
    rfl
  -- a test word: its four fields are read back
  | receiverTest channel =>
    have h := testWord_fields channel 0 .prbs9 (show (1 : UInt16) ∈ _ by decide)
    rw [TesterCommand.encode, effect, decoder.effect_receiverTest upperLen h.1, h.2.1]
    rfl
  | transmitterTest channel length type =>
    have h := testWord_fields channel length type (show (2 : UInt16) ∈ _ by decide)
    rw [TesterCommand.encode, effect, decoder.effect_transmitterTest upperLen h.1 h.2.2.2, h.2.1,
      h.2.2.1, withUpperLen_field]
    rfl
  | testEnd => exact effect_testEnd low upperLen

/-- No parameter selects a slot. -/
theorem effect_cteSlot (parameter upperLen : UInt8) :
    effect (setupWord .constantToneExtensionSlot parameter) upperLen =
      TesterCommand.setup [] upperLen := by
  rw [effect_setupWord, switchEffect, DtmCtrlCode.ofCode_code]

end UartTwowire

namespace TesterCommand

/-- A command is read back as itself, up to its effect, exactly when it is not an AoD one. -/
theorem effect_readBack_iff (c : TesterCommand) (upperLen : UInt8) :
    c.readBack.effect upperLen = c.effect upperLen ↔ ¬c.IsAod := by
  cases c with
  | cte kind time htime => cases kind <;> simp [readBack, effect, setup, IsAod, CteKind.type]
  | _ => exact iff_of_true rfl not_false

theorem readBack_upperLen (c : TesterCommand) (upperLen : UInt8) :
    (c.readBack.effect upperLen).upperLen = (c.effect upperLen).upperLen := by
  cases c <;> rfl

end TesterCommand

/-- Every operation has an answer. -/
theorem transport_res (op : TransportOp) : Nonempty (transport.Res op) := by
  cases op with
  | dtm c =>
    cases c with
    | setupPrepare => exact ⟨()⟩
    | setupReadFeatures => exact ⟨dtmSetupReadFeatures (.nrf5340 true false)⟩
    | setupReadMaxSupportedValue parameter maxVal => exact ⟨(.ok 0 : Except Errno UInt16)⟩
    | setupSetTransmitPower power val channel => exact ⟨⟨val, false, false⟩⟩
    | testEnd packCnt => exact ⟨(.ok 0 : Except Errno UInt16)⟩
    | _ => exact ⟨Ret.ok⟩
  | patternStore pattern src => exact ⟨()⟩
  | uartWrite type hdr pld => exact ⟨Ret.ok⟩

/-- **The two-wire codec.** The decoder issues the operations of a tester's command for its word
exactly when the command is not a constant tone extension of an AoD type, and no parameter of the
slot control selects a slot. -/
theorem twowire_codec_iff (c : TesterCommand) (low : Fin 4) (upperLen : UInt8) :
    ((c.effect upperLen).Straight Prod.snd (UartTwowire.dtmCmdPut (c.encode low) upperLen) ↔
      ¬c.IsAod) ∧
    ∀ slot ∈ [(0 : UInt8), 1], ∀ parameter,
      ¬(TesterCommand.setup [.dtm (.setupSetCteSlot slot)] upperLen).Straight Prod.snd
        (UartTwowire.dtmCmdPut (setupWord .constantToneExtensionSlot parameter) upperLen) := by
  refine ⟨?_, fun slot _ parameter h ↦ ?_⟩
  · have hput := UartTwowire.dtmCmdPut_straight (c.encode low) upperLen
    rw [UartTwowire.effect_encode] at hput
    rw [← c.effect_readBack_iff upperLen]
    refine ⟨fun h ↦ ?_, fun h ↦ h ▸ hput⟩
    have hops := hput.ops_eq transport_res h
    exact congrArg₂ WordEffect.mk hops (c.readBack_upperLen upperLen)
  · have hput := UartTwowire.dtmCmdPut_straight (setupWord .constantToneExtensionSlot parameter)
      upperLen
    rw [UartTwowire.effect_cteSlot] at hput
    cases hput.ops_eq transport_res h

/-- An AoD extension of 16 µs with 1 µs slots is decoded as an AoA one. -/
theorem twowire_codec_aod :
    (TesterCommand.cte .aod1us 2 (by decide)).encode 0 = 0x0642 ∧
      (TesterCommand.setup [.dtm (.setupSetCteMode .aoa 2)] 0).Straight Prod.snd
        (UartTwowire.dtmCmdPut 0x0642 0) ∧
      ¬((TesterCommand.cte .aod1us 2 (by decide)).effect 0).Straight Prod.snd
        (UartTwowire.dtmCmdPut ((TesterCommand.cte .aod1us 2 (by decide)).encode 0) 0) := by
  have hput := UartTwowire.dtmCmdPut_straight 0x0642 0
  refine ⟨by decide, hput, fun h ↦ ?_⟩
  cases hput.ops_eq transport_res h

end DirectTestMode
