import DirectTestMode.Dtm.Settings
import DirectTestMode.Transport.Firmware

/-!
# What a command word does

Both two-wire decoders are straight-line: the operations a word issues, and the `upper_len` it
leaves, are fixed by the word and the `upper_len` before it. `CmdCore.effect` and
`UartTwowire.effect` write them down, and `dtmCmdPut_straight` says that the decoders do just that.

With the effects run on the settings machine, a decoder becomes a machine on `DecoderState`: the
settings of the library and `upper_len`. `Firmware.step_word_settings` and
`Firmware.step_uartWord_settings` connect the firmware to it.

## What it rests on

Three layers meet here. A straight-line program is the run of its operations (`Prog.Straight`, of
the program library); an operation on the host is one on the settings (`hostHandler_settings`, which
rests on the refinement of the library by the settings machine); and a decoder is straight-line,
control by control, by the lemmas named after the source's functions. The three together say that a
word on the firmware and a word on the abstract decoder commute with forgetting everything but the
settings, in the faults too.

The refinement asks for an initialised device and for nothing else. A stored antenna pattern is no
setting, but a copy that does not fit is a fault on both sides, so `Settings.actOp` has a case for
it.

## What it is for

The two decoders are compared word by word by comparing their effects, which are lists. Without this
layer the comparison would be of two programs of a dozen branches over a device of thirty fields.
-/

namespace DirectTestMode

open Fallible

/-- The operations a word issues and the `upper_len` it leaves. -/
structure WordEffect where
  ops : List TransportOp
  upperLen : UInt8

/-- The program does what the effect says. -/
def WordEffect.Straight {α : Type} (e : WordEffect) (upper : α → UInt8) (p : Prog transport α) :
    Prop :=
  p.Straight (fun x ↦ upper x = e.upperLen) e.ops

/-! ### The two classes of words that both decoders share -/

namespace Decoder

/-- The effect of a word, from that of a Test Setup word. -/
def effect (d : Decoder) (setup : UInt8 → UInt8 → UInt8 → WordEffect) (cmd : UInt16)
    (upperLen : UInt8) : WordEffect :=
  match DtmCmdCode.ofCode (cmdCode cmd) with
  | some .testSetup => setup (cmdControl cmd) (cmdParameter cmd) upperLen
  | some .testEnd =>
    if cmdControl cmd ≠ 0 ∨ d.testEndMaxRange < (cmdParameter cmd).toNat then ⟨[], upperLen⟩
    else ⟨[.dtm (.testEnd true)], upperLen⟩
  | some .receiverTest => ⟨[.dtm (.testReceive (cmdChan cmd))], upperLen⟩
  | some .transmitterTest =>
    match DtmPktType.ofCode (cmdType cmd) with
    | some type =>
      ⟨[.dtm (.testTransmit (cmdChan cmd) (withUpperLen (cmdLength cmd) upperLen) type.packet)],
        upperLen⟩
    | none => ⟨[], upperLen⟩
  | none => ⟨[], upperLen⟩

section

variable (d : Decoder) {setup : UInt8 → UInt8 → UInt8 → WordEffect} {cmd : UInt16}
  (upperLen : UInt8)

/-- The four classes of words, again: a Test Setup word has the effect of its control. -/
theorem effect_testSetup (h : cmdCode cmd = 0) :
    d.effect setup cmd upperLen = setup (cmdControl cmd) (cmdParameter cmd) upperLen := by
  rw [effect, h]
  rfl

theorem effect_receiverTest (h : cmdCode cmd = 1) :
    d.effect setup cmd upperLen = ⟨[.dtm (.testReceive (cmdChan cmd))], upperLen⟩ := by
  rw [effect, h]
  rfl

theorem effect_transmitterTest (h : cmdCode cmd = 2) {type : DtmPktType}
    (htype : DtmPktType.ofCode (cmdType cmd) = some type) :
    d.effect setup cmd upperLen =
      ⟨[.dtm (.testTransmit (cmdChan cmd) (withUpperLen (cmdLength cmd) upperLen) type.packet)],
        upperLen⟩ := by
  rw [effect, h, htype]
  rfl

/-- A Test End word has an effect only when the decoder takes its control and its parameter. -/
theorem effect_testEnd (h : cmdCode cmd = 3) :
    d.effect setup cmd upperLen =
      if cmdControl cmd ≠ 0 ∨ d.testEndMaxRange < (cmdParameter cmd).toNat then ⟨[], upperLen⟩
      else ⟨[.dtm (.testEnd true)], upperLen⟩ := by
  rw [effect, h]
  rfl

/-- **A decoder does what its effect says**, if its switch does. The four classes of words are
the four cases. -/
theorem dtmCmdPut_straight (hsetup : ∀ control parameter upperLen,
    (setup control parameter upperLen).Straight (fun x ↦ x.2.2)
      (d.setupCmd control parameter upperLen)) (cmd : UInt16) :
    (d.effect setup cmd upperLen).Straight Prod.snd (d.dtmCmdPut cmd upperLen) := by
  rcases cmdCode_cases cmd with h | h | h | h
  · rw [d.effect_testSetup upperLen h, d.dtmCmdPut_testSetup upperLen h]
    exact Prog.Straight.map (hsetup _ _ upperLen) fun _ hx ↦ hx
  · rw [d.effect_receiverTest upperLen h, d.dtmCmdPut_receiverTest upperLen h]
    exact (Prog.straight_perform _).map fun _ _ ↦ rfl
  · obtain ⟨type, htype⟩ := cmdType_cases cmd
    rw [d.effect_transmitterTest upperLen h htype, d.dtmCmdPut_transmitterTest upperLen h htype]
    exact (Prog.straight_perform _).map fun _ _ ↦ rfl
  · rw [d.effect_testEnd upperLen h, d.dtmCmdPut_testEnd upperLen h]
    split
    · exact Prog.straight_pure.2 rfl
    · exact (Prog.straight_perform _).map fun _ _ ↦ rfl

end

end Decoder

/-! ### The shared core -/

/-- The operations of `features_read`. -/
def featuresReadOps (parameter : UInt8) : List TransportOp :=
  if 0x03 < parameter.toNat then [] else [.dtm .setupReadFeatures]

/-- The operations of `read_max`. -/
def readMaxOps (parameter : UInt8) : List TransportOp :=
  match maxSupportedOf parameter with
  | some param => [.dtm (.setupReadMaxSupportedValue param true)]
  | none => []

theorem featuresRead_straight (parameter : UInt8) :
    (featuresRead parameter).Straight (fun _ ↦ True) (featuresReadOps parameter) := by
  rw [featuresRead, featuresReadOps]
  split
  · exact Prog.straight_pure.2 trivial
  · exact (Prog.straight_perform _).map fun _ _ ↦ trivial

theorem readMax_straight (parameter : UInt8) :
    (readMax parameter).Straight (fun _ ↦ True) (readMaxOps parameter) := by
  rw [readMax, readMaxOps]
  cases maxSupportedOf parameter with
  | none => exact Prog.straight_pure.2 trivial
  | some param => exact (Prog.straight_perform _).map fun _ _ ↦ trivial

namespace CmdCore

/-- The effect of a Test Setup word on the shared core. -/
def setupEffect (control parameter upperLen : UInt8) : WordEffect :=
  match DtmCtrlCode.ofCode control with
  | some .reset => ⟨[.dtm .setupReset], 0⟩
  | some .setUpper => ⟨[], upperBits parameter⟩
  | some .readSupported => ⟨featuresReadOps parameter, upperLen⟩
  | some .readMax => ⟨readMaxOps parameter, upperLen⟩
  | _ => ⟨[], upperLen⟩

/-- The effect of a word on the shared core. -/
def effect (cmd : UInt16) (upperLen : UInt8) : WordEffect := decoder.effect setupEffect cmd upperLen

theorem setupCmd_straight (control parameter upperLen : UInt8) :
    (setupEffect control parameter upperLen).Straight (fun x ↦ x.2.2)
      (setupCmd control parameter upperLen) := by
  rw [setupEffect, setupCmd]
  cases DtmCtrlCode.ofCode control with
  | none => exact Prog.straight_pure.2 rfl
  | some code =>
    cases code with
    | reset =>
      exact Prog.Straight.bind (Prog.straight_perform _) fun _ _ ↦ Prog.straight_pure.2 rfl
    | setUpper => exact Prog.straight_pure.2 rfl
    | readSupported => exact (featuresRead_straight parameter).map fun _ _ ↦ rfl
    | readMax => exact (readMax_straight parameter).map fun _ _ ↦ rfl
    | setPhy | selectModulation | constantToneExtension | constantToneExtensionSlot
    | antennaArray | transmitPower => exact Prog.straight_pure.2 rfl

end CmdCore

/-- **The shared core is straight-line.** -/
theorem CmdCore.dtmCmdPut_straight (cmd : UInt16) (upperLen : UInt8) :
    (effect cmd upperLen).Straight Prod.snd (dtmCmdPut cmd upperLen) :=
  decoder.dtmCmdPut_straight upperLen setupCmd_straight cmd

/-! ### The UART decoder -/

namespace UartTwowire

/-- **The CTE type field is always zero**, so every type but none is AoA, and no slot is set. -/
theorem cteTypeField_eq (parameter : UInt8) : cteTypeField parameter = 0 := by
  have hlt : (parameter &&& 0x03).toNat < 2 ^ 2 := by
    rw [UInt8.toNat_and]
    exact Nat.and_lt_two_pow _ (by decide)
  refine UInt8.toNat_inj.1 ?_
  rw [cteTypeField, UInt8.toNat_shiftRight, Nat.shiftRight_eq_div_pow]
  exact Nat.div_eq_of_lt (hlt.trans (by decide))

/-- The operations of `phy_set`. -/
def phySetOps (parameter : UInt8) : List TransportOp :=
  match phyOf parameter with
  | some phy => [.dtm (.setupSetPhy phy)]
  | none => []

/-- The operations of `mod_set`. -/
def modSetOps (parameter : UInt8) : List TransportOp :=
  if parameter.toNat ≤ 0x03 then [.dtm (.setupSetModulation .standard)]
  else if parameter.toNat ≤ 0x07 then [.dtm (.setupSetModulation .stable)]
  else []

/-- The operations of `cte_set`. -/
def cteSetOps (parameter : UInt8) : List TransportOp :=
  if parameter = 0 then [.dtm (.setupSetCteMode .none 0)]
  else [.dtm (.setupSetCteMode .aoa (cteTime parameter))]

/-- The operations of `antenna_set`. -/
def antennaSetOps (parameter : UInt8) : List TransportOp :=
  let type := (parameter &&& 0x80) >>> 7
  let antCount := antCount parameter
  if antCount.toNat < 0x01 ∨ 0x4B < antCount.toNat then []
  else [.patternStore .uart (antennaPattern type antCount),
    .dtm (.setupSetAntennaParams antCount .uart (if type = 0 then antCount else antCount * 2 - 1))]

/-- The power request that a parameter of `tx_power_set` makes. -/
def txPowerRequest (parameter : Int8) : Option (DtmTxPowerRequest × Int8) :=
  if parameter.toInt = 0x7E then some (.min, 0)
  else if parameter.toInt = 0x7F then some (.max, 0)
  else if -127 ≤ parameter.toInt ∧ parameter.toInt ≤ 20 then some (.val, parameter)
  else none

/-- The operations of `tx_power_set`. -/
def txPowerSetOps (parameter : Int8) : List TransportOp :=
  match txPowerRequest parameter with
  | some (power, val) => [.dtm (.setupSetTransmitPower power val 0)]
  | none => []

/-- The effect of a Test Setup word after the running test is ended. -/
def switchEffect (control parameter upperLen : UInt8) : WordEffect :=
  match DtmCtrlCode.ofCode control with
  | some .reset => if 0x03 < parameter.toNat then ⟨[], upperLen⟩ else ⟨[.dtm .setupReset], 0⟩
  | some .setUpper =>
    if 0x0F < parameter.toNat then ⟨[], upperLen⟩ else ⟨[], upperBits parameter⟩
  | some .setPhy => ⟨phySetOps parameter, upperLen⟩
  | some .selectModulation => ⟨modSetOps parameter, upperLen⟩
  | some .readSupported => ⟨featuresReadOps parameter, upperLen⟩
  | some .readMax => ⟨readMaxOps parameter, upperLen⟩
  | some .constantToneExtension => ⟨cteSetOps parameter, upperLen⟩
  | some .constantToneExtensionSlot => ⟨[], upperLen⟩
  | some .antennaArray => ⟨antennaSetOps parameter, upperLen⟩
  | some .transmitPower => ⟨txPowerSetOps parameter.toInt8, upperLen⟩
  | none => ⟨[], upperLen⟩

/-- The effect of a Test Setup word on the UART decoder. -/
def setupEffect (control parameter upperLen : UInt8) : WordEffect :=
  ⟨.dtm .setupPrepare :: (switchEffect control parameter upperLen).ops,
    (switchEffect control parameter upperLen).upperLen⟩

/-- The effect of a word on the UART decoder. -/
def effect (cmd : UInt16) (upperLen : UInt8) : WordEffect := decoder.effect setupEffect cmd upperLen

theorem phySet_straight (parameter : UInt8) :
    (phySet parameter).Straight (fun _ ↦ True) (phySetOps parameter) := by
  rw [phySet, phySetOps]
  cases phyOf parameter with
  | none => exact Prog.straight_pure.2 trivial
  | some phy => exact Prog.straight_perform _

theorem modSet_straight (parameter : UInt8) :
    (modSet parameter).Straight (fun _ ↦ True) (modSetOps parameter) := by
  rw [modSet, modSetOps]
  split_ifs
  · exact Prog.straight_perform _
  · exact Prog.straight_perform _
  · exact Prog.straight_pure.2 trivial

theorem cteSet_straight (parameter : UInt8) :
    (cteSet parameter).Straight (fun _ ↦ True) (cteSetOps parameter) := by
  rw [cteSet, cteSetOps, if_pos (cteTypeField_eq parameter)]
  split
  · exact Prog.straight_perform _
  · exact Prog.straight_perform _

theorem cteSlotSet_straight (parameter : UInt8) :
    (cteSlotSet parameter).Straight (fun _ ↦ True) [] := by
  rw [cteSlotSet, cteTypeField_eq]
  exact Prog.straight_pure.2 trivial

/-- The pattern is stored and then handed over, whatever the library says to it. -/
theorem antennaSet_straight (parameter : UInt8) :
    (antennaSet parameter).Straight (fun _ ↦ True) (antennaSetOps parameter) := by
  rw [antennaSet, antennaSetOps]
  simp only
  split
  · exact Prog.straight_pure.2 trivial
  · exact (Prog.straight_perform _).bind fun _ _ ↦ Prog.straight_perform _

theorem txPowerSet_straight (parameter : Int8) :
    (txPowerSet parameter).Straight (fun _ ↦ True) (txPowerSetOps parameter) := by
  rw [txPowerSet, txPowerSetOps, txPowerRequest]
  split_ifs
  · exact (Prog.straight_perform _).map fun _ _ ↦ trivial
  · exact (Prog.straight_perform _).map fun _ _ ↦ trivial
  · exact (Prog.straight_perform _).map fun _ _ ↦ trivial
  · exact Prog.straight_pure.2 trivial

/-- One case for each control; the lemmas above have done the work. -/
theorem setupSwitch_straight (control parameter upperLen : UInt8) :
    (switchEffect control parameter upperLen).Straight (fun x ↦ x.2.2)
      (setupSwitch control parameter upperLen) := by
  rw [switchEffect, setupSwitch]
  cases DtmCtrlCode.ofCode control with
  | none => exact Prog.straight_pure.2 rfl
  | some code =>
    cases code with
    | reset =>
      simp only [resetDtm]
      split
      · exact Prog.straight_pure.2 rfl
      · exact Prog.Straight.bind (Prog.straight_perform _) fun _ _ ↦ Prog.straight_pure.2 rfl
    | setUpper =>
      simp only [upperSet]
      split
      · exact Prog.straight_pure.2 rfl
      · exact Prog.straight_pure.2 rfl
    | setPhy => exact (phySet_straight parameter).map fun _ _ ↦ rfl
    | selectModulation => exact (modSet_straight parameter).map fun _ _ ↦ rfl
    | readSupported => exact (featuresRead_straight parameter).map fun _ _ ↦ rfl
    | readMax => exact (readMax_straight parameter).map fun _ _ ↦ rfl
    | constantToneExtension => exact (cteSet_straight parameter).map fun _ _ ↦ rfl
    | constantToneExtensionSlot => exact (cteSlotSet_straight parameter).map fun _ _ ↦ rfl
    | antennaArray => exact (antennaSet_straight parameter).map fun _ _ ↦ rfl
    | transmitPower => exact (txPowerSet_straight parameter.toInt8).map fun _ _ ↦ rfl

theorem setupCmd_straight (control parameter upperLen : UInt8) :
    (setupEffect control parameter upperLen).Straight (fun x ↦ x.2.2)
      (setupCmd control parameter upperLen) :=
  (Prog.straight_perform _).bind fun _ _ ↦ setupSwitch_straight control parameter upperLen

/-- **So is the UART decoder**, with the preparation before each control. -/
theorem dtmCmdPut_straight (cmd : UInt16) (upperLen : UInt8) :
    (effect cmd upperLen).Straight Prod.snd (dtmCmdPut cmd upperLen) :=
  decoder.dtmCmdPut_straight upperLen setupCmd_straight cmd

end UartTwowire

/-! ### What a word issues -/

/-- An operation of the switch over the controls. -/
def TransportOp.isSetup : TransportOp → Bool
  | .dtm c => c.isSetup
  | _ => true

/-- A control of the shared core issues set-up calls only, so none of them ends or starts a test. -/
theorem CmdCore.setupEffect_isSetup (control parameter upperLen : UInt8) :
    ∀ op ∈ (setupEffect control parameter upperLen).ops, op.isSetup = true := by
  rw [setupEffect, featuresReadOps, readMaxOps]
  split <;> (repeat' split) <;> simp [TransportOp.isSetup, Call.isSetup]

theorem UartTwowire.antennaSetOps_isSetup (parameter : UInt8) :
    ∀ op ∈ antennaSetOps parameter, op.isSetup = true := by
  unfold antennaSetOps
  simp only
  split <;> simp [TransportOp.isSetup, Call.isSetup]

/-- The same for the controls of the UART decoder. The preparation before them is the exception,
and it is not part of the switch. -/
theorem UartTwowire.switchEffect_isSetup (control parameter upperLen : UInt8) :
    ∀ op ∈ (switchEffect control parameter upperLen).ops, op.isSetup = true := by
  have hantenna := antennaSetOps_isSetup parameter
  rw [switchEffect, featuresReadOps, readMaxOps, phySetOps, modSetOps, cteSetOps, txPowerSetOps]
  split <;> (repeat' split) <;> first | exact hantenna | simp [TransportOp.isSetup, Call.isSetup]

/-- The pattern of at most 75 antennas fits its buffer, also when it goes up and down again. -/
theorem length_antennaPattern_le {type antCount : UInt8} (h : antCount.toNat ≤ 0x4B) :
    (UartTwowire.antennaPattern type antCount).length ≤ 150 := by
  unfold UartTwowire.antennaPattern
  simp only
  split <;> simp only [List.length_append, List.length_map, List.length_range]
  · omega
  · omega

/-- Its length is never zero, so the library does not refuse it for that. -/
theorem antennaPatternLen_ne (type : UInt8) {antCount : UInt8} (hmin : 0x01 ≤ antCount.toNat)
    (hmax : antCount.toNat ≤ 0x4B) : (if type = 0 then antCount else antCount * 2 - 1) ≠ 0 := by
  intro h
  have h := congrArg UInt8.toNat h
  split at h
  · rw [UInt8.toNat_zero] at h
    omega
  -- `2 * N - 1` does not wrap for at most 75 antennas
  · have hdouble : (antCount * 2).toNat = antCount.toNat * 2 := by
      rw [UInt8.toNat_mul]
      exact Nat.mod_eq_of_lt (show antCount.toNat * 2 < 2 ^ 8 by omega)
    rw [UInt8.toNat_sub, hdouble, UInt8.toNat_zero, UInt8.toNat_one] at h
    omega

/-! ### The decoders on the settings machine -/

/-- The octets fit the antenna pattern buffer. -/
def PatternPtr.fits (pattern : PatternPtr) (src : List UInt8) : Bool :=
  match pattern with
  | .null => false
  | .uart => src.length ≤ 150
  | .hci => src.length ≤ 75

/-- The effect of an operation on the settings. -/
def Settings.actOp (b : Build) (v : Settings) : TransportOp → Except Fault Settings
  | .dtm c => v.act b c
  | .patternStore pattern src => if pattern.fits src then .ok v else .error .bounds
  | .uartWrite _ _ _ => .ok v

variable {b : Build} {q : ℕ}

/-- A copy to the start of a buffer succeeds exactly when the source fits. -/
theorem inBounds_memcpy {n : ℕ} (buf : Buffer n UInt8) (src : List UInt8) :
    (∃ buf', inBounds (buf.memcpy 0 src src.length) = .ok buf' ∧ src.length ≤ n) ∨
      inBounds (buf.memcpy 0 src src.length) = .error .bounds ∧ n < src.length := by
  rcases Nat.lt_or_ge n src.length with h | h
  · have hnone : buf.memcpy 0 src src.length = none := if_neg fun hle ↦ by omega
    exact .inr ⟨by rw [hnone, inBounds_none], h⟩
  · rw [Buffer.memcpy_eq buf (by omega) le_rfl]
    exact .inl ⟨_, rfl, h⟩

/-- An antenna pattern is stored exactly when it fits, and is out of bounds otherwise. -/
theorem patternStore_fits (pattern : PatternPtr) (src : List UInt8) (p : PatternMemory) :
    (∃ p', patternStore pattern src p = .ok p' ∧ pattern.fits src = true) ∨
      patternStore pattern src p = .error .bounds ∧ pattern.fits src = false := by
  cases pattern with
  | null => exact .inr ⟨rfl, rfl⟩
  | uart =>
    rw [patternStore]
    rcases inBounds_memcpy p.uart src with ⟨buf', hbuf, hle⟩ | ⟨hbuf, hlt⟩
    · exact .inl ⟨_, bind_eq_ok.2 ⟨buf', hbuf, rfl⟩, decide_eq_true hle⟩
    · exact .inr ⟨bind_eq_error.2 (.inl hbuf), decide_eq_false (Nat.not_le.2 hlt)⟩
  | hci =>
    rw [patternStore]
    rcases inBounds_memcpy p.hci src with ⟨buf', hbuf, hle⟩ | ⟨hbuf, hlt⟩
    · exact .inl ⟨_, bind_eq_ok.2 ⟨buf', hbuf, rfl⟩, decide_eq_true hle⟩
    · exact .inr ⟨bind_eq_error.2 (.inl hbuf), decide_eq_false (Nat.not_le.2 hlt)⟩

/-- **The host refines the settings machine.** -/
theorem hostHandler_settings (op : TransportOp) {h : Host} (hinit : h.device.timerInit = true) :
    (hostHandler b q op h).map (fun x ↦ x.2.device.settings) = h.device.settings.actOp b op := by
  cases op with
  | dtm c =>
    show _ = h.device.settings.act b c
    rw [← api_settings fun _ _ _ ↦ hinit, hostHandler]
    cases api b c h.device <;> rfl
  | patternStore pattern src =>
    rw [hostHandler, Settings.actOp]
    rcases patternStore_fits pattern src h.device.patterns with ⟨p', hp, hfits⟩ | ⟨hp, hfits⟩
    · rw [hp, if_pos hfits]
      rfl
    · rw [hp, if_neg (by simp [hfits])]
      rfl
  | uartWrite type hdr pld => rfl

/-- The operations of the transports keep the library initialised, which is all that the
refinement asks for along a run. -/
theorem timerInit_deviceInvariant (b : Build) :
    DeviceInvariant b fun s ↦ s.timerInit = true where
  step s i s' hs h := by
    cases i with
    | call c =>
      obtain ⟨x, hx, h⟩ := bind_eq_ok.1 h
      cases h
      exact api_timerInit hs hx
    | radio ev => exact (radioIrq_keepsSetup h).timerInit.trans hs
    | anomaly ev => exact (Device.step_anomaly_keepsSetup h).timerInit.trans hs
  patterns _ _ hs := hs

/-- A list of operations on the host is the list on the settings. -/
theorem opStep_settings (ops : List TransportOp) {h : Host} (hinit : h.device.timerInit = true) :
    (run (Prog.opStep (hostHandler b q)) h ops).map (fun h ↦ h.device.settings) =
      run (Settings.actOp b) h.device.settings ops := by
  refine run_map (I := fun h : Host ↦ h.device.timerInit = true) (fun h op h' hh hop ↦ ?_)
    (fun h op hh ↦ ?_) hinit
  · obtain ⟨x, hx, hop⟩ := bind_eq_ok.1 hop
    cases hop
    exact (timerInit_deviceInvariant b).host op h x hh hx
  · refine Eq.trans ?_ (hostHandler_settings (b := b) (q := q) op hh)
    rw [Prog.opStep]
    cases hostHandler b q op h <;> rfl

/-- The settings of the library and the `upper_len` of a decoder. -/
structure DecoderState where
  settings : Settings
  upperLen : UInt8

/-- **A straight-line program on the settings machine** is the run of its operations there. -/
theorem WordEffect.Straight.settings {α : Type} {e : WordEffect} {upper : α → UInt8}
    {p : Prog transport α} (hp : e.Straight upper p) {h : Host}
    (hinit : h.device.timerInit = true) :
    (p.run (hostHandler b q) h).map (fun x ↦ DecoderState.mk x.2.device.settings (upper x.1)) =
      (run (Settings.actOp b) h.device.settings e.ops).map fun v ↦ ⟨v, e.upperLen⟩ := by
  rw [← opStep_settings (q := q) e.ops hinit]
  rcases Prog.Straight.run_eq (h := hostHandler b q) hp h with
    ⟨e, hrun, hops⟩ | ⟨x, hrun, hops, hupper⟩
  · rw [hrun, hops]
    rfl
  · rw [hrun, hops]
    exact congrArg (fun u ↦ Except.ok (DecoderState.mk x.2.device.settings u)) hupper

/-- A word on a decoder with the effects `effect`. -/
def DecoderState.step (b : Build) (effect : UInt16 → UInt8 → WordEffect) (v : DecoderState)
    (cmd : UInt16) : Except Fault DecoderState :=
  (run (Settings.actOp b) v.settings (effect cmd v.upperLen).ops).map fun settings ↦
    ⟨settings, (effect cmd v.upperLen).upperLen⟩

/-- The state of the shared core. -/
def Firmware.coreState (f : Firmware) : DecoderState := ⟨f.device.settings, f.upperLen⟩

/-- The state of the UART decoder. -/
def Firmware.uartState (f : Firmware) : DecoderState := ⟨f.device.settings, f.uartUpperLen⟩

/-- **A word on the shared core** is a step of the core on the settings machine. -/
theorem Firmware.step_word_settings {f : Firmware} (hinit : f.device.timerInit = true)
    (cmd : UInt16) :
    (f.step b q (.word cmd)).map coreState = f.coreState.step b CmdCore.effect cmd := by
  refine Eq.trans ?_ ((CmdCore.dtmCmdPut_straight cmd f.upperLen).settings (q := q) hinit)
  rw [f.step_word]
  cases (CmdCore.dtmCmdPut cmd f.upperLen).run (hostHandler b q) f.host <;> rfl

/-- **A word on the UART decoder**, the same way. -/
theorem Firmware.step_uartWord_settings {f : Firmware} (hinit : f.device.timerInit = true)
    (cmd : UInt16) :
    (f.step b q (.uartWord cmd)).map uartState = f.uartState.step b UartTwowire.effect cmd := by
  refine Eq.trans ?_ ((UartTwowire.dtmCmdPut_straight cmd f.uartUpperLen).settings (q := q) hinit)
  rw [f.step_uartWord]
  cases (UartTwowire.dtmCmdPut cmd f.uartUpperLen).run (hostHandler b q) f.host <;> rfl

end DirectTestMode
