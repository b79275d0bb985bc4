import DirectTestMode.Transport.Effect

/-!
# The two decoders side by side

The shared core was moved out of the UART decoder. On the settings machine of `Transport.Effect` the
two are machines on one state, so that they can be compared word by word: `Aligned` is the condition
under which a word has one effect on both, and `step_agreeIff` says that it is the exact one.

What the core dropped is the end of the running test before a Test Setup word, six of the ten
controls, and the ranges of Reset, of the upper bits and of Test End.

## Why the settings and not the device

`SameLibrary` compares the library's variables: state, radio mode, constant tone extension, power,
channel and length, and the decoders' `upper_len`. A word of either decoder does to these what its
list of operations does to `Settings`, and an assertion shows there as well
(`Firmware.coreStep_settings`, `Firmware.uartStep_settings`). So the comparison is one of two short
lists of operations, without the radio.

## The exact condition

* `AgreeIff` carries both directions through the whole case analysis: under the condition the
  outcomes are **equal**, and if they merely agree, the condition holds. A case is proved once and
  not once for each direction.
* For a control that the core lost, the UART decoder's call must leave the settings alone.
  `StaysIff` says when it does, and `StaysIff.agreeIff` turns this into a case of the comparison.
* `Settings.Plain` is the invariant of the core's runs: it never leaves the 1 Mbit PHY, never sets a
  constant tone extension, and only runs tests on legal channels. It is what makes the conditions
  short, since a Reset, a PHY change or an extension can be compared with the settings of the
  initialisation.

For runs, `Firmware.InStep` is the relation between the two firmwares. An aligned word keeps it
(`InStep.step`), and a word that two firmwares in step take to the same library is aligned
(`InStep.aligned`), which gives `decoders_agree_iff` by the rule for guarded runs of two machines.
Every prefix of the run is compared, on purpose: two libraries that went apart may meet again.
-/

namespace DirectTestMode

open Fallible

variable {b : Build} {q : ℕ}

/-! ### What is compared -/

/-- The library is in the same state, and so is `upper_len`. -/
structure Firmware.SameLibrary (f g : Firmware) : Prop where
  state : f.device.state = g.device.state
  radioMode : f.device.radioMode = g.device.radioMode
  cteInfo : f.device.cteInfo.settings = g.device.cteInfo.settings
  txpower : f.device.txpower = g.device.txpower
  physCh : f.device.physCh = g.device.physCh
  packetLen : f.device.packetLen = g.device.packetLen
  upperLen : f.upperLen = g.uartUpperLen

/-- The same of the decoders on the settings machine; the gain of the front-end module is not
compared. -/
structure DecoderState.Agrees (v w : DecoderState) : Prop where
  state : v.settings.state = w.settings.state
  radioMode : v.settings.radioMode = w.settings.radioMode
  cte : v.settings.cte = w.settings.cte
  txpower : v.settings.txpower = w.settings.txpower
  physCh : v.settings.physCh = w.settings.physCh
  packetLen : v.settings.packetLen = w.settings.packetLen
  upperLen : v.upperLen = w.upperLen

theorem DecoderState.Agrees.refl (v : DecoderState) : v.Agrees v := by
  constructor <;> rfl

/-! ### The runs of the core -/

/-- What a run of the shared core cannot change: the radio mode and the constant tone extension are
those of the initialisation, and a running test is on a legal channel. -/
structure Settings.Plain (v : Settings) : Prop where
  radioMode : v.radioMode = .ble1Mbit
  cte : v.cte = DtmCteInfo.zero
  channel : v.state ≠ .idle → v.physCh.toUInt8.toNat ≤ physChMax

/-- The initialisation leaves the settings plain. -/
theorem Initialised.plain {s : Device} (h : Initialised b s) : s.settings.Plain := by
  obtain ⟨env, callback, h⟩ := h
  obtain ⟨radio, rfl⟩ := dtmInit_ok h
  exact ⟨rfl, rfl, fun hidle ↦ absurd rfl hidle⟩

/-- The calls that the shared core issues. -/
def Call.OfCore : Call → Prop
  | .setupReset | .setupReadFeatures | .setupReadMaxSupportedValue _ _ | .testReceive _
  | .testTransmit _ _ _ | .testEnd _ => True
  | _ => False

/-- A transmission that starts does so on a legal channel. -/
theorem Settings.Plain.transmit {v v' : Settings} (hv : v.Plain) {channel length : UInt8}
    {packet : DtmPacket} (hidle : v.state = .idle) (hch : v.physCh = channel.toUInt32)
    (h : v.transmit b channel length packet = .ok v') : v'.Plain := by
  have hlegal (state : DtmState) (hc : channel.toNat ≤ physChMax) :
      Settings.Plain { v with state := state } := by
    refine ⟨hv.radioMode, hv.cte, fun _ ↦ ?_⟩
    show v.physCh.toUInt8.toNat ≤ physChMax
    rwa [hch, UInt8.toUInt8_toUInt32]
  rw [Settings.transmit] at h
  split_ifs at h with hpacket hl hc hgain hstop
  · cases h
    exact hv
  · cases h
    exact hlegal _ (Nat.le_of_not_lt hc)
  · cases h
    cases DtmVsSubcmd.ofCode length.toUInt32 with
    | none => exact hv
    | some cmd =>
      obtain ⟨txpower, gain, heq⟩ := v.vendor_eq b cmd channel.toUInt32
      rw [Option.elim, heq]
      exact ⟨hv.radioMode, hv.cte, fun hne ↦ absurd hidle hne⟩
  · cases h
    exact hv
  · cases h
    simp only [Bool.or_eq_true, decide_eq_true_eq, not_or, Nat.not_lt] at hstop
    exact hlegal _ hstop.1

/-- The calls of the core keep the settings plain. -/
theorem Settings.Plain.act {v v' : Settings} (hv : v.Plain) {c : Call} (hc : c.OfCore)
    (h : v.act b c = .ok v') : v'.Plain := by
  cases c with
  | setupReset =>
    simp only [Settings.act, Settings.init] at h
    split at h
    · cases h
    · cases h
      refine ⟨rfl, ?_, hv.channel⟩
      -- plain settings have no extension, so clearing it changes nothing
      show (if b.directionFinding then DtmCteInfo.zero else v.cte) = _
      rw [hv.cte, ite_self]
  | setupReadFeatures | setupReadMaxSupportedValue =>
    cases h
    exact hv
  | testReceive channel =>
    simp only [Settings.act] at h
    split at h
    · cases h
      exact hv
    · rename_i hc
      cases h
      refine ⟨hv.radioMode, hv.cte, fun _ ↦ ?_⟩
      show channel.toUInt32.toUInt8.toNat ≤ physChMax
      rw [UInt8.toUInt8_toUInt32]
      exact Nat.le_of_not_lt hc
  | testTransmit channel length pkt =>
    simp only [Settings.act] at h
    split at h
    · cases h
      exact hv
    · rename_i hidle
      have hidle := not_not.1 hidle
      have hstored : Settings.Plain { v with
          physCh := channel.toUInt32
          packetLen := length.toUInt32 } :=
        ⟨hv.radioMode, hv.cte, fun hne ↦ absurd hidle hne⟩
      exact hstored.transmit hidle rfl h
  | testEnd packCnt =>
    simp only [Settings.act] at h
    split at h
    · cases h
      exact ⟨hv.radioMode, hv.cte, fun hne ↦ absurd rfl hne⟩
    · cases h
      exact hv
  -- the shared core issues none of these
  | init | setupPrepare | setupSetPhy | setupSetModulation | setupSetCteMode | setupSetCteSlot
  | setupSetAntennaParams | setupSetTransmitPower => exact hc.elim

theorem CmdCore.setupEffect_ofCore (control parameter upperLen : UInt8) :
    ∀ op ∈ (setupEffect control parameter upperLen).ops, ∃ c, op = .dtm c ∧ c.OfCore := by
  intro op hop
  rw [setupEffect] at hop
  split at hop
  · exact ⟨_, List.mem_singleton.1 hop, trivial⟩
  · cases hop
  · simp only [featuresReadOps] at hop
    split at hop
    · cases hop
    · exact ⟨_, List.mem_singleton.1 hop, trivial⟩
  · simp only [readMaxOps] at hop
    split at hop
    · exact ⟨_, List.mem_singleton.1 hop, trivial⟩
    · cases hop
  · cases hop

theorem CmdCore.effect_ofCore (cmd : UInt16) (upperLen : UInt8) :
    ∀ op ∈ (effect cmd upperLen).ops, ∃ c, op = .dtm c ∧ c.OfCore := by
  intro op hop
  rw [effect] at hop
  rcases Decoder.cmdCode_cases cmd with h | h | h | h
  · rw [Decoder.effect_testSetup _ _ h] at hop
    exact setupEffect_ofCore _ _ _ op hop
  · rw [Decoder.effect_receiverTest _ _ h] at hop
    exact ⟨_, List.mem_singleton.1 hop, trivial⟩
  · obtain ⟨type, htype⟩ := Decoder.cmdType_cases cmd
    rw [Decoder.effect_transmitterTest _ _ h htype] at hop
    exact ⟨_, List.mem_singleton.1 hop, trivial⟩
  · rw [Decoder.effect_testEnd _ _ h] at hop
    split at hop
    · cases hop
    · exact ⟨_, List.mem_singleton.1 hop, trivial⟩

/-- **The shared core keeps its settings plain.** -/
theorem Settings.Plain.step {v w : DecoderState} {cmd : UInt16} (hv : v.settings.Plain)
    (h : v.step b CmdCore.effect cmd = .ok w) : w.settings.Plain := by
  rw [DecoderState.step] at h
  rcases hrun : run (Settings.actOp b) v.settings (CmdCore.effect cmd v.upperLen).ops with e | v'
  · rw [hrun] at h
    cases h
  · rw [hrun] at h
    cases h
    refine Guarded.invariant (fun v op v' hv hop h ↦ ?_)
      (Guarded.of_forall (CmdCore.effect_ofCore cmd v.upperLen)) hv hrun
    obtain ⟨c, rfl, hc⟩ := hop
    exact hv.act hc h

/-! ### One word on both decoders -/

/-- The outcomes agree exactly under the condition `C`, and then they are the same. -/
structure AgreeIff (C : Prop) (x y : Except Fault DecoderState) : Prop where
  same : C → x = y
  only : SameOutcome DecoderState.Agrees x y → C

theorem AgreeIff.of_eq {x y : Except Fault DecoderState} (h : x = y) : AgreeIff True x y :=
  ⟨fun _ ↦ h, fun _ ↦ trivial⟩

/-- The condition on the parameter of a Test Setup word that arrives in the idle state. -/
def SetupAligned (b : Build) (v : DecoderState) (control parameter : UInt8) : Prop :=
  match DtmCtrlCode.ofCode control with
  | some .reset => 0x03 < parameter.toNat →
    ¬ v.settings.InitFaults b ∧ v.settings.packetLen = 0 ∧ v.upperLen = 0
  | some .setUpper => 0x0F < parameter.toNat → upperBits parameter = v.upperLen
  | some .setPhy => ∀ phy, UartTwowire.phyOf parameter = some phy → phy.supported b = true →
    ¬ v.settings.InitFaults b ∧ phy = .phy1m
  | some .constantToneExtension => b.directionFinding = true → parameter ≠ 0 →
    (UartTwowire.cteTime parameter).toNat < cteLengthMin ∨
      cteLengthMax < (UartTwowire.cteTime parameter).toNat
  | some .antennaArray => b.directionFinding = true →
    (UartTwowire.antCount parameter).toNat < 0x01 ∨ 0x4B < (UartTwowire.antCount parameter).toNat ∨
      b.antNum.toNat < (UartTwowire.antCount parameter).toNat
  | some .transmitPower => ∀ power val,
    UartTwowire.txPowerRequest parameter.toInt8 = some (power, val) →
      txPowerRequested b power val 2402 = .ok v.settings.txpower
  | _ => True

/-- **The condition under which a word does the same on both decoders.** -/
def Aligned (b : Build) (v : DecoderState) (cmd : UInt16) : Prop :=
  (cmdCode cmd = 0 →
    v.settings.state = .idle ∧ SetupAligned b v (cmdControl cmd) (cmdParameter cmd)) ∧
  (cmdCode cmd = 3 → cmdControl cmd = 0 → 0x03 < (cmdParameter cmd).toNat →
    (cmdParameter cmd).toNat ≤ 10 → v.settings.state = .idle)

/-- A Test Setup word with the operations `ops`, run on the settings. -/
def DecoderState.setup (b : Build) (v : DecoderState) (e : WordEffect) :
    Except Fault DecoderState :=
  (run (Settings.actOp b) v.settings e.ops).map fun settings ↦ ⟨settings, e.upperLen⟩

@[simp] theorem DecoderState.setup_nil (v : DecoderState) (upperLen : UInt8) :
    v.setup b ⟨[], upperLen⟩ = .ok ⟨v.settings, upperLen⟩ := rfl

/-- One call is one step of the settings machine. -/
theorem DecoderState.setup_call (v : DecoderState) (c : Call) (upperLen : UInt8) :
    v.setup b ⟨[.dtm c], upperLen⟩ = (v.settings.act b c).map fun s ↦ ⟨s, upperLen⟩ := by
  show (v.settings.act b c >>= _).map _ = _
  cases v.settings.act b c <;> rfl

/-- A call that returns leaves the settings exactly under the condition `C`. -/
structure StaysIff (b : Build) (v : Settings) (c : Call) (C : Prop) : Prop where
  stays : C → v.act b c = .ok v
  only : ∀ v', v.act b c = .ok v' → v'.radioMode = v.radioMode → v'.cte = v.cte →
    v'.txpower = v.txpower → v'.packetLen = v.packetLen → C

/-- A word that one decoder ignores agrees exactly when the other one's call changes nothing. -/
theorem StaysIff.agreeIff {v : DecoderState} {c : Call} {C : Prop}
    (h : StaysIff b v.settings c C) :
    AgreeIff C (.ok v) (v.setup b ⟨[.dtm c], v.upperLen⟩) := by
  rw [v.setup_call]
  constructor
  · intro hC
    rw [h.stays hC]
    rfl
  · intro hagree
    rcases hact : v.settings.act b c with e | v'
    · rw [hact] at hagree
      exact hagree.elim
    · rw [hact] at hagree
      have hagree : v.Agrees ⟨v', v.upperLen⟩ := hagree
      exact h.only v' hact hagree.radioMode.symm hagree.cte.symm hagree.txpower.symm
        hagree.packetLen.symm

/-- A Reset of a parameter that only the core takes must find nothing to reset. -/
theorem setup_reset {v : DecoderState} (hv : v.settings.Plain) (parameter : UInt8) :
    AgreeIff (0x03 < parameter.toNat →
        ¬ v.settings.InitFaults b ∧ v.settings.packetLen = 0 ∧ v.upperLen = 0)
      (v.setup b ⟨[.dtm .setupReset], 0⟩)
      (v.setup b
        (if 0x03 < parameter.toNat then ⟨[], v.upperLen⟩ else ⟨[.dtm .setupReset], 0⟩)) := by
  split
  case isTrue hrange =>
    rw [v.setup_call, v.setup_nil, Settings.act, Settings.init]
    split
    case isTrue hfault => exact ⟨fun h ↦ absurd hfault (h hrange).1, fun h ↦ h.elim⟩
    case isFalse hfault =>
      constructor
      · intro h
        obtain ⟨-, hlen, hupper⟩ := h hrange
        refine congrArg Except.ok (congrArg₂ DecoderState.mk ?_ hupper.symm)
        refine Settings.ext rfl hv.radioMode.symm ?_ rfl rfl hlen.symm rfl
        show (if b.directionFinding then DtmCteInfo.zero else v.settings.cte) = _
        rw [hv.cte, ite_self]
      · intro hagree _
        have hagree : DecoderState.Agrees _ _ := hagree
        exact ⟨hfault, hagree.packetLen.symm, hagree.upperLen.symm⟩
  case isFalse hrange => exact ⟨fun _ ↦ rfl, fun _ h ↦ absurd h hrange⟩

/-- The upper bits of a parameter that only the core takes must be those that are stored. -/
theorem setup_upper (v : DecoderState) (parameter : UInt8) :
    AgreeIff (0x0F < parameter.toNat → upperBits parameter = v.upperLen)
      (v.setup b ⟨[], upperBits parameter⟩)
      (v.setup b
        (if 0x0F < parameter.toNat then ⟨[], v.upperLen⟩ else ⟨[], upperBits parameter⟩)) := by
  split
  case isTrue hrange =>
    exact ⟨fun h ↦ congrArg (fun u ↦ Except.ok (DecoderState.mk v.settings u)) (h hrange),
      fun hagree _ ↦ DecoderState.Agrees.upperLen hagree⟩
  case isFalse hrange => exact ⟨fun _ ↦ rfl, fun _ h ↦ absurd h hrange⟩

/-- A word that sets a PHY must set the 1 Mbit PHY, and without meeting the assertion. -/
theorem setup_phy {v : DecoderState} (hv : v.settings.Plain) (parameter : UInt8) :
    AgreeIff (∀ phy, UartTwowire.phyOf parameter = some phy → phy.supported b = true →
        ¬ v.settings.InitFaults b ∧ phy = .phy1m)
      (.ok v) (v.setup b ⟨UartTwowire.phySetOps parameter, v.upperLen⟩) := by
  rw [UartTwowire.phySetOps]
  cases UartTwowire.phyOf parameter with
  | none => exact ⟨fun _ ↦ rfl, fun _ phy h ↦ absurd h (by simp)⟩
  | some phy =>
    refine StaysIff.agreeIff ⟨?_, ?_⟩
    · intro h
      simp only [Settings.act, Settings.init]
      split
      · obtain ⟨hfault, rfl⟩ := h phy rfl ‹_›
        rw [if_neg hfault]
        exact congrArg Except.ok (Settings.ext rfl hv.radioMode.symm rfl rfl rfl rfl rfl)
      · rfl
    · rintro v' hact hmode - - - phy ⟨⟩ hsupported
      simp only [Settings.act, Settings.init, hsupported, if_true] at hact
      split at hact
      · cases hact
      · cases hact
        refine ⟨‹_›, ?_⟩
        have hmode : phy.radioMode = .ble1Mbit := hmode.trans hv.radioMode
        cases phy <;> first | rfl | cases hmode

theorem setup_cte {v : DecoderState} (hv : v.settings.Plain) (parameter : UInt8) :
    AgreeIff (b.directionFinding = true → parameter ≠ 0 →
        (UartTwowire.cteTime parameter).toNat < cteLengthMin ∨
          cteLengthMax < (UartTwowire.cteTime parameter).toNat)
      (.ok v) (v.setup b ⟨UartTwowire.cteSetOps parameter, v.upperLen⟩) := by
  rw [UartTwowire.cteSetOps]
  split
  case isTrue hzero =>
    refine StaysIff.agreeIff ⟨fun _ ↦ ?_, fun _ _ _ _ _ _ _ h ↦ absurd hzero h⟩
    refine congrArg Except.ok (Settings.ext rfl rfl ?_ rfl rfl rfl rfl)
    show Settings.setCteMode b .none 0 v.settings.cte = _
    rw [hv.cte, Settings.setCteMode]
    cases b.directionFinding <;> rfl
  case isFalse hzero =>
    refine StaysIff.agreeIff ⟨fun h ↦ ?_, fun v' hact _ hcte _ _ hdf _ ↦ ?_⟩
    · refine congrArg Except.ok (Settings.ext rfl rfl ?_ rfl rfl rfl rfl)
      show Settings.setCteMode b .aoa _ v.settings.cte = _
      rw [Settings.setCteMode]
      cases hdf : b.directionFinding with
      | false => rfl
      | true =>
        rw [if_neg (by simp), if_neg (by decide), if_pos (h hdf hzero)]
    · cases hact
      by_contra hrange
      have hcte : Settings.setCteMode b .aoa (UartTwowire.cteTime parameter) v.settings.cte =
          v.settings.cte := hcte
      rw [Settings.setCteMode, hdf, if_neg (by simp), if_neg (by decide), if_neg hrange,
        hv.cte] at hcte
      -- the plain settings have the extension off
      cases congrArg DtmCteInfo.mode hcte

/-- A store that fits the buffer changes no setting. -/
theorem DecoderState.setup_store (v : DecoderState) {pattern : PatternPtr} {src : List UInt8}
    (h : pattern.fits src = true) (ops : List TransportOp) (upperLen : UInt8) :
    v.setup b ⟨.patternStore pattern src :: ops, upperLen⟩ = v.setup b ⟨ops, upperLen⟩ := by
  rw [setup, run_cons, Settings.actOp, if_pos h]
  rfl

theorem setup_antenna {v : DecoderState} (hv : v.settings.Plain) (parameter : UInt8) :
    AgreeIff (b.directionFinding = true →
        (UartTwowire.antCount parameter).toNat < 0x01 ∨
          0x4B < (UartTwowire.antCount parameter).toNat ∨
            b.antNum.toNat < (UartTwowire.antCount parameter).toNat)
      (.ok v) (v.setup b ⟨UartTwowire.antennaSetOps parameter, v.upperLen⟩) := by
  unfold UartTwowire.antennaSetOps
  generalize UartTwowire.antCount parameter = count
  simp only
  split
  case isTrue hrange =>
    exact ⟨fun _ ↦ rfl, fun _ _ ↦ hrange.elim .inl fun h ↦ .inr (.inl h)⟩
  case isFalse hrange =>
    have hmin : 0x01 ≤ count.toNat := by omega
    have hmax : count.toNat ≤ 0x4B := by omega
    have hfits (type : UInt8) :
        PatternPtr.uart.fits (UartTwowire.antennaPattern type count) = true :=
      decide_eq_true (length_antennaPattern_le hmax)
    rw [v.setup_store (hfits _)]
    have hlen := antennaPatternLen_ne ((parameter &&& 0x80) >>> 7) hmin hmax
    generalize (if (parameter &&& 0x80) >>> 7 = 0 then count else count * 2 - 1) = len at hlen
    refine StaysIff.agreeIff ⟨fun h ↦ ?_, fun v' hact _ hcte _ _ hdf ↦ ?_⟩
    · refine congrArg Except.ok (Settings.ext rfl rfl ?_ rfl rfl rfl rfl)
      show Settings.setAntennaParams b count .uart _ v.settings.cte = _
      rw [Settings.setAntennaParams]
      cases hdf : b.directionFinding with
      | false => rfl
      | true =>
        have hnum : b.antNum.toNat < count.toNat := by
          have := h hdf
          omega
        rw [if_neg (by simp), if_pos hnum]
    · cases hact
      refine .inr (.inr (Nat.lt_of_not_le fun hnum ↦ ?_))
      have hcte : Settings.setAntennaParams b count .uart len v.settings.cte =
          v.settings.cte := hcte
      rw [Settings.setAntennaParams, hdf, if_neg (by simp), if_neg (Nat.not_lt.2 hnum),
        if_neg (by decide), if_neg hlen, hv.cte] at hcte
      -- the plain settings have no antenna pattern
      cases congrArg DtmCteInfo.antennaPattern hcte

/-- A power request must find the level that is stored. -/
theorem setup_power (v : DecoderState) (parameter : Int8) :
    AgreeIff (∀ power val, UartTwowire.txPowerRequest parameter = some (power, val) →
        txPowerRequested b power val 2402 = .ok v.settings.txpower)
      (.ok v) (v.setup b ⟨UartTwowire.txPowerSetOps parameter, v.upperLen⟩) := by
  rw [UartTwowire.txPowerSetOps]
  rcases UartTwowire.txPowerRequest parameter with - | ⟨power, val⟩
  · exact ⟨fun _ ↦ rfl, fun _ _ _ h ↦ absurd h (by simp)⟩
  · have hact : v.settings.act b (.setupSetTransmitPower power val 0) =
        txPowerRequested b power val 2402 >>= fun level ↦
          .ok { v.settings with txpower := level } := rfl
    refine StaysIff.agreeIff ⟨fun h ↦ ?_, fun v' hok _ _ htxpower _ ↦ ?_⟩
    · rw [hact, h power val rfl]
      rfl
    · rintro power' val' ⟨⟩
      rw [hact] at hok
      obtain ⟨level, hlevel, hok⟩ := bind_eq_ok.1 hok
      cases hok
      rw [hlevel]
      exact congrArg Except.ok htxpower

/-- **A Test Setup word in the idle state** agrees exactly when its parameter is aligned. -/
theorem setup_agreeIff {v : DecoderState} (hv : v.settings.Plain) (control parameter : UInt8) :
    AgreeIff (SetupAligned b v control parameter)
      (v.setup b (CmdCore.setupEffect control parameter v.upperLen))
      (v.setup b (UartTwowire.switchEffect control parameter v.upperLen)) := by
  rw [SetupAligned, CmdCore.setupEffect, UartTwowire.switchEffect]
  cases DtmCtrlCode.ofCode control with
  | none => exact .of_eq rfl
  | some code =>
    cases code with
    | reset => exact setup_reset hv parameter
    | setUpper => exact setup_upper v parameter
    | setPhy => exact setup_phy hv parameter
    | constantToneExtension => exact setup_cte hv parameter
    | antennaArray => exact setup_antenna hv parameter
    | transmitPower => exact setup_power v parameter.toInt8
    | selectModulation =>
      refine .of_eq ?_
      simp only [UartTwowire.modSetOps]
      split_ifs <;> rfl
    | readSupported | readMax | constantToneExtensionSlot => exact .of_eq rfl

/-! ### A whole word -/

theorem DecoderState.setup_state {v w : DecoderState} {e : WordEffect}
    (he : ∀ op ∈ e.ops, op.isSetup = true) (h : v.setup b e = .ok w) :
    w.settings.state = v.settings.state := by
  rw [setup] at h
  rcases hrun : run (Settings.actOp b) v.settings e.ops with e | v'
  · rw [hrun] at h
    cases h
  · rw [hrun] at h
    cases h
    refine Guarded.invariant (I := fun v' ↦ v'.state = v.settings.state)
      (fun v op v' hv hop h ↦ ?_) (Guarded.of_forall he) rfl hrun
    cases op with
    | dtm c => exact (Settings.act_state hop h).trans hv
    | patternStore pattern src =>
      simp only [Settings.actOp] at h
      split at h
      · cases h
        exact hv
      · cases h
    | uartWrite type hdr pld =>
      cases h
      exact hv

/-- The UART decoder ends the running test and goes on from idle. -/
theorem UartTwowire.step_setup {v : DecoderState} {cmd : UInt16} (h : cmdCode cmd = 0) :
    v.step b effect cmd = DecoderState.setup b ⟨{ v.settings with state := .idle }, v.upperLen⟩
      (switchEffect (cmdControl cmd) (cmdParameter cmd) v.upperLen) := by
  rw [DecoderState.step, effect, Decoder.effect_testSetup _ _ h]
  rfl

theorem CmdCore.step_setup {v : DecoderState} {cmd : UInt16} (h : cmdCode cmd = 0) :
    v.step b effect cmd =
      v.setup b (setupEffect (cmdControl cmd) (cmdParameter cmd) v.upperLen) := by
  rw [DecoderState.step, effect, Decoder.effect_testSetup _ _ h]
  rfl

/-- The core stops on a Test Setup word only when its channel is illegal, and then it is idle. -/
theorem CmdCore.setup_error {v : DecoderState} (hv : v.settings.Plain)
    {control parameter : UInt8} {e : Fault}
    (h : v.setup b (setupEffect control parameter v.upperLen) = .error e) :
    v.settings.state = .idle := by
  rw [setupEffect] at h
  split at h
  · rw [v.setup_call, Settings.act, Settings.init] at h
    split at h
    · rename_i hfault
      by_contra hidle
      exact Nat.not_lt.2 (hv.channel hidle) hfault.2
    · cases h
  · cases h
  · simp only [featuresReadOps] at h
    split at h <;> cases h
  · simp only [readMaxOps] at h
    split at h <;> cases h
  · cases h

theorem agreeIff_testSetup {v : DecoderState} (hv : v.settings.Plain) {cmd : UInt16}
    (h : cmdCode cmd = 0) :
    AgreeIff (v.settings.state = .idle ∧ SetupAligned b v (cmdControl cmd) (cmdParameter cmd))
      (v.step b CmdCore.effect cmd) (v.step b UartTwowire.effect cmd) := by
  rw [CmdCore.step_setup h, UartTwowire.step_setup h]
  have hsetup := setup_agreeIff (b := b) hv (cmdControl cmd) (cmdParameter cmd)
  have hprepare (hidle : v.settings.state = .idle) :
      DecoderState.mk { v.settings with state := .idle } v.upperLen = v := by
    rw [← hidle]
  constructor
  · rintro ⟨hidle, haligned⟩
    rw [hprepare hidle]
    exact hsetup.same haligned
  · intro hagree
    -- the UART decoder is idle after its switch, and the switch of the core keeps the state
    have hidle : v.settings.state = .idle := by
      rcases hcore : v.setup b (CmdCore.setupEffect (cmdControl cmd) (cmdParameter cmd)
        v.upperLen) with e | w
      · exact CmdCore.setup_error hv hcore
      · rw [hcore] at hagree
        rcases huart : DecoderState.setup b ⟨{ v.settings with state := .idle }, v.upperLen⟩
          (UartTwowire.switchEffect (cmdControl cmd) (cmdParameter cmd) v.upperLen) with e | w'
        · rw [huart] at hagree
          exact hagree.elim
        · rw [huart] at hagree
          have hagree : w.Agrees w' := hagree
          have hw := DecoderState.setup_state (CmdCore.setupEffect_isSetup _ _ _) hcore
          have hw' := DecoderState.setup_state (UartTwowire.switchEffect_isSetup _ _ _) huart
          exact hw.symm.trans (hagree.state.trans hw')
    rw [hprepare hidle] at hagree
    exact ⟨hidle, hsetup.only hagree⟩

/-- A Test End whose parameter only the core takes must find no test running. -/
theorem agreeIff_testEnd (v : DecoderState) {cmd : UInt16} (h : cmdCode cmd = 3) :
    AgreeIff (cmdControl cmd = 0 → 0x03 < (cmdParameter cmd).toNat →
        (cmdParameter cmd).toNat ≤ 10 → v.settings.state = .idle)
      (v.step b CmdCore.effect cmd) (v.step b UartTwowire.effect cmd) := by
  rw [DecoderState.step, DecoderState.step, CmdCore.effect, UartTwowire.effect,
    Decoder.effect_testEnd _ _ h, Decoder.effect_testEnd _ _ h,
    show CmdCore.decoder.testEndMaxRange = 10 from rfl,
    show UartTwowire.decoder.testEndMaxRange = 0x03 from rfl]
  by_cases hcore : cmdControl cmd ≠ 0 ∨ 10 < (cmdParameter cmd).toNat
  · have huart : cmdControl cmd ≠ 0 ∨ 0x03 < (cmdParameter cmd).toNat :=
      hcore.imp_right fun h ↦ by omega
    rw [if_pos hcore, if_pos huart]
    refine ⟨fun _ ↦ rfl, fun _ hcontrol _ hle ↦ ?_⟩
    rcases hcore with hne | hlt
    · exact absurd hcontrol hne
    · omega
  · rw [if_neg hcore]
    split
    case isTrue huart =>
      have hrange := not_or.1 hcore
      refine ⟨fun hidle ↦ ?_, fun hagree _ _ _ ↦ (DecoderState.Agrees.state hagree).symm⟩
      have hidle := hidle (not_not.1 hrange.1) (huart.resolve_left hrange.1)
        (Nat.le_of_not_lt hrange.2)
      exact congrArg (fun s ↦ Except.ok (DecoderState.mk s v.upperLen))
        (Settings.ext hidle.symm rfl rfl rfl rfl rfl rfl)
    case isFalse huart =>
      exact ⟨fun _ ↦ rfl, fun _ _ hlt _ ↦ absurd (.inr hlt) huart⟩

/-- **One word does the same on both decoders exactly when it is aligned**, on settings that the
core can have brought about. -/
theorem step_agreeIff {v : DecoderState} (hv : v.settings.Plain) (cmd : UInt16) :
    AgreeIff (Aligned b v cmd) (v.step b CmdCore.effect cmd) (v.step b UartTwowire.effect cmd) := by
  rcases Decoder.cmdCode_cases cmd with h | h | h | h
  · have hsetup := agreeIff_testSetup (b := b) hv h
    exact ⟨fun ha ↦ hsetup.same (ha.1 h), fun hagree ↦
      ⟨fun _ ↦ hsetup.only hagree, fun h' ↦ absurd (h.symm.trans h') (by decide)⟩⟩
  · have hsame : CmdCore.effect cmd v.upperLen = UartTwowire.effect cmd v.upperLen := by
      rw [CmdCore.effect, UartTwowire.effect, Decoder.effect_receiverTest _ _ h,
        Decoder.effect_receiverTest _ _ h]
    refine ⟨fun _ ↦ by rw [DecoderState.step, hsame, DecoderState.step], fun _ ↦ ?_⟩
    exact ⟨fun h' ↦ absurd (h.symm.trans h') (by decide),
      fun h' ↦ absurd (h.symm.trans h') (by decide)⟩
  · have hsame : CmdCore.effect cmd v.upperLen = UartTwowire.effect cmd v.upperLen := by
      obtain ⟨type, htype⟩ := Decoder.cmdType_cases cmd
      rw [CmdCore.effect, UartTwowire.effect, Decoder.effect_transmitterTest _ _ h htype,
        Decoder.effect_transmitterTest _ _ h htype]
    refine ⟨fun _ ↦ by rw [DecoderState.step, hsame, DecoderState.step], fun _ ↦ ?_⟩
    exact ⟨fun h' ↦ absurd (h.symm.trans h') (by decide),
      fun h' ↦ absurd (h.symm.trans h') (by decide)⟩
  · have hend := agreeIff_testEnd (b := b) v h
    exact ⟨fun ha ↦ hend.same (ha.2 h), fun hagree ↦
      ⟨fun h' ↦ absurd (h.symm.trans h') (by decide), fun _ ↦ hend.only hagree⟩⟩

/-! ### Runs of words -/

/-- A word on the shared core. -/
def Firmware.coreStep (b : Build) (q : ℕ) (f : Firmware) (cmd : UInt16) : Except Fault Firmware :=
  f.step b q (.word cmd)

/-- A word on the UART decoder. -/
def Firmware.uartStep (b : Build) (q : ℕ) (f : Firmware) (cmd : UInt16) : Except Fault Firmware :=
  f.step b q (.uartWord cmd)

/-- What an aligned run keeps between the two firmwares. -/
structure Firmware.InStep (f g : Firmware) : Prop where
  same : f.coreState = g.uartState
  plain : f.coreState.settings.Plain
  core : f.device.timerInit = true
  uart : g.device.timerInit = true

theorem Firmware.sameLibrary_iff {f g : Firmware} :
    f.SameLibrary g ↔ f.coreState.Agrees g.uartState :=
  ⟨fun h ↦ ⟨h.1, h.2, h.3, h.4, h.5, h.6, h.7⟩, fun h ↦ ⟨h.1, h.2, h.3, h.4, h.5, h.6, h.7⟩⟩

theorem Firmware.coreStep_settings {f : Firmware} (hinit : f.device.timerInit = true)
    (cmd : UInt16) :
    (f.coreStep b q cmd).map coreState = f.coreState.step b CmdCore.effect cmd :=
  f.step_word_settings hinit cmd

theorem Firmware.uartStep_settings {f : Firmware} (hinit : f.device.timerInit = true)
    (cmd : UInt16) :
    (f.uartStep b q cmd).map uartState = f.uartState.step b UartTwowire.effect cmd :=
  f.step_uartWord_settings hinit cmd

/-- **An aligned word keeps the two firmwares in step.** -/
theorem Firmware.InStep.step {f g : Firmware} (h : f.InStep g) {cmd : UInt16}
    (ha : Aligned b f.coreState cmd) :
    SameOutcome Firmware.InStep (f.coreStep b q cmd) (g.uartStep b q cmd) := by
  have hf := Firmware.coreStep_settings (b := b) (q := q) h.core cmd
  have hg := Firmware.uartStep_settings (b := b) (q := q) h.uart cmd
  have heq : (f.coreStep b q cmd).map coreState = (g.uartStep b q cmd).map uartState := by
    rw [hf, hg, ← h.same]
    exact (step_agreeIff h.plain cmd).same ha
  rcases hfs : f.coreStep b q cmd with e | f' <;> rcases hgs : g.uartStep b q cmd with e' | g'
  · rw [hfs, hgs] at heq
    exact Except.error.inj heq
  · rw [hfs, hgs] at heq
    cases heq
  · rw [hfs, hgs] at heq
    cases heq
  · rw [hfs, hgs] at heq
    rw [hfs] at hf
    have hinit := timerInit_deviceInvariant b
    exact ⟨Except.ok.inj heq, h.plain.step hf.symm, hinit.firmware h.core hfs,
      hinit.firmware h.uart hgs⟩

/-- Two firmwares in step take a word to the same library only if it is aligned. -/
theorem Firmware.InStep.aligned {f g : Firmware} (h : f.InStep g) {cmd : UInt16}
    (hsame : SameOutcome Firmware.SameLibrary (f.coreStep b q cmd) (g.uartStep b q cmd)) :
    Aligned b f.coreState cmd := by
  have hagree := (hsame.mono fun _ _ ↦ Firmware.sameLibrary_iff.1).map
  rw [Firmware.coreStep_settings h.core, Firmware.uartStep_settings h.uart, ← h.same] at hagree
  exact (step_agreeIff h.plain cmd).only hagree

/-- **The two decoders leave the library in the same state all along a run of words, exactly on the
runs whose words are aligned.** -/
theorem decoders_agree_iff {f : Firmware} (hf : f.Initial b) (cmds : List UInt16) :
    (∀ n, SameOutcome Firmware.SameLibrary (run (Firmware.coreStep b q) f (cmds.take n))
        (run (Firmware.uartStep b q) f (cmds.take n))) ↔
      Guarded (Firmware.coreStep b q) (fun f cmd ↦ Aligned b f.coreState cmd) f cmds := by
  have hinit : f.device.timerInit = true := hf.1.inv.timerInit
  have hstart : f.InStep f := by
    refine ⟨?_, hf.1.plain, hinit, hinit⟩
    rw [Firmware.coreState, Firmware.uartState, hf.2.1, hf.2.2]
  have hobserved (f g : Firmware) (h : f.InStep g) : f.SameLibrary g := by
    rw [Firmware.sameLibrary_iff, h.same]
    exact .refl _
  have hstep (f g : Firmware) (cmd : UInt16) (h : f.InStep g) (ha : Aligned b f.coreState cmd) :
      SameOutcome Firmware.InStep (f.coreStep b q cmd) (g.uartStep b q cmd) := h.step ha
  have honly (f g : Firmware) (cmd : UInt16) (h : f.InStep g)
      (hsame : SameOutcome Firmware.SameLibrary (f.coreStep b q cmd) (g.uartStep b q cmd)) :
      Aligned b f.coreState cmd := h.aligned hsame
  exact SameOutcome.run_iff hobserved hstep honly hstart

/-- A Reset, a Receiver Test on channel 5 and a Test End, from the initialisation. -/
theorem decoders_agree_iff_receiver_test :
    SameOutcome Firmware.SameLibrary
      (run (Firmware.coreStep (.nrf5340 true false) 1024) (.ofDevice .nrf5340)
        [0x0000, 0x4500, 0xC000])
      (run (Firmware.uartStep (.nrf5340 true false) 1024) (.ofDevice .nrf5340)
        [0x0000, 0x4500, 0xC000]) := by
  have hfirst : Aligned (.nrf5340 true false) (Firmware.ofDevice .nrf5340).coreState 0x0000 :=
    ⟨fun _ ↦ ⟨rfl, fun h ↦ absurd h (by decide)⟩, fun h ↦ absurd h (by decide)⟩
  have hwords : ∀ cmd ∈ [0x4500, 0xC000], ∀ v, Aligned (.nrf5340 true false) v cmd := by
    intro cmd hcmd v
    simp only [List.mem_cons, List.not_mem_nil, or_false] at hcmd
    rcases hcmd with rfl | rfl
    · exact ⟨fun h ↦ absurd h (by decide), fun h ↦ absurd h (by decide)⟩
    · exact ⟨fun h ↦ absurd h (by decide), fun _ _ h ↦ absurd h (by decide)⟩
  have hinitial : (Firmware.ofDevice .nrf5340).Initial (.nrf5340 true false) :=
    ⟨Device.nrf5340_initialised true false, rfl, rfl⟩
  exact (decoders_agree_iff hinitial [0x0000, 0x4500, 0xC000]).2 ⟨hfirst, fun f _ ↦
    (Guarded.of_forall hwords).mono fun f cmd h ↦ h f.coreState⟩ 3

/-- A Reset leaves a Receiver Test running on the shared core and ends it on the UART decoder, and
a word for the 2M PHY sets it on the UART decoder only. -/
theorem decoders_disagree :
    (∃ f g, run (Firmware.coreStep (.nrf5340 true false) 1024) (.ofDevice .nrf5340)
        [0x4500, 0x0000] = .ok f ∧
      run (Firmware.uartStep (.nrf5340 true false) 1024) (.ofDevice .nrf5340)
        [0x4500, 0x0000] = .ok g ∧
      f.device.state = .receiverTest ∧ g.device.state = .idle) ∧
    ∃ f g, run (Firmware.coreStep (.nrf5340 true false) 1024) (.ofDevice .nrf5340)
        [0x0208] = .ok f ∧
      run (Firmware.uartStep (.nrf5340 true false) 1024) (.ofDevice .nrf5340) [0x0208] = .ok g ∧
      f.device.radioMode = .ble1Mbit ∧ g.device.radioMode = .ble2Mbit :=
  ⟨⟨_, _, rfl, rfl, rfl, rfl⟩, _, _, rfl, rfl, rfl, rfl⟩

end DirectTestMode
