import DirectTestMode.Dtm.Channel
import DirectTestMode.Properties.HeaderLength
import DirectTestMode.Properties.RadioSettings
import DirectTestMode.Properties.Reception

/-!
# The registers of the radio

`dtm_inst` says what a test is to use, and the radio has registers. They are written in different
places: the mode, the packet layout and the trims when a PHY is set, the power then and when a
transmission is prepared, the frequency and the packet pointer when a test starts. Between these
places come other calls, refused ones among them, and interrupts.

`Device.Tuned` says that the registers follow: they are programmed for the PHY that is stored, the
power is a level of the chip, and during a test the radio is on the channel and the buffer of
`dtm_inst`. It is kept by every call and interrupt (`Device.Tuned.step`). So two devices hear each
other exactly if they are set to the same channel and PHY (`same_air_iff`).

The field `S1LEN` is left out, which does not follow the settings: `Properties.HeaderLength` is
about it, and `PacketConf.plain` is a layout without it.

## Three groups of registers

Each group has its own time at which it must be right, and its own writers.

* **The program** (`Radio.program`): mode, layout and trims. It must be that of the stored PHY at
  any time, and is written as a whole by the initialisation of the radio. The trims come from the
  errata, which are handled before it, so the two set-up functions have one lemma
  (`setupInit_programs`).
* **The level**: one that the chip has, at any time, through either way of writing it
  (`level_radioPowerWrite`). Under the automatic power control the front-end module chooses it, and
  nothing is said.
* **The place** (`Device.Placed`): frequency and buffer. Between tests they may be anything, and
  are; a test starts by placing the radio (`radioPrepare_prepared`), an interrupt moves it to the
  other buffer together with `dtm_inst` (`KeepsRadio`), and nothing else touches them.

A refused transmission stores its channel without placing the radio, and the invariant survives
because it has started no test. A reset or a change of PHY in the middle of a test leaves the radio
where it is, and programs it under way (`SetUp.tuned`).

Two builds are compared in the last section, and the chips may differ: what is on the air does not
depend on the errata or the power table.
-/

namespace DirectTestMode

open Fallible

variable {b : Build}

/-! ### What the radio is programmed with -/

/-- The registers that go with a PHY. -/
structure RadioProgram where
  mode : RadioMode
  packetConf : PacketConf
  trim117 : Bool
  trim191 : Bool

/-- The packet layout without `S1LEN`. -/
def PacketConf.plain (c : PacketConf) : PacketConf := { c with s1len := 0 }

def Radio.program (r : Radio) : RadioProgram := ⟨r.mode, r.packetConf.plain, r.trim117, r.trim191⟩

/-- The coded PHYs. -/
def DtmPhy.coded : DtmPhy → Bool
  | phy1m | phy2m => false
  | codedS8 | codedS2 => true

/-- The layout of a test packet on a PHY: a coded one has a coding indicator and a terminator. -/
def DtmPhy.packetConf (phy : DtmPhy) : PacketConf where
  s0len := 1
  s1len := 0
  lflen := 8
  plen := phy.packetHdrPlen
  termlen := if phy.coded then 3 else 0
  cilen := if phy.coded then 2 else 0
  balen := 3
  statlen := 0
  maxlen := 255

def DtmPhy.program (b : Build) (phy : DtmPhy) : RadioProgram where
  mode := phy.radioMode
  packetConf := phy.packetConf
  trim117 := b.errata117 && phy == .phy2m
  trim191 := b.errata191 && phy.coded

/-- The level that the radio sends at. The high voltage of the nRF53 series gives 3 dB. -/
def Radio.level (b : Build) (r : Radio) : Int8 :=
  if b.nrf53Series && r.highVoltage then r.txpower.toInt8 + 3 else r.txpower.toInt8

/-- The PHY is stored and the radio is programmed for it. -/
structure Device.Programmed (b : Build) (phy : DtmPhy) (s : Device) : Prop where
  radioMode : s.radioMode = phy.radioMode
  packetHdrPlen : s.packetHdrPlen = phy.packetHdrPlen
  program : s.radio.program = phy.program b

/-- The radio is on the channel and the buffer of `dtm_inst`. -/
structure Device.Placed (s : Device) : Prop where
  channel : s.physCh.toNat ≤ physChMax
  frequency : s.radio.frequency.toNat = 2402 + 2 * s.physCh.toNat
  buffer : ∃ i, s.currentPdu = some i ∧ s.radio.packetPtr = some i

/-- **The registers follow the settings.** -/
structure Device.Tuned (b : Build) (s : Device) : Prop where
  onTable : s.OnTable b
  programmed : ∃ phy : DtmPhy, phy.supported b = true ∧ s.Programmed b phy
  level : b.powerControlAutomatic = false → (s.radio.level b).toUInt8.toUInt32 ∈ b.nrfPowerValue
  placed : s.state.testing = true → s.Placed

/-! ### The power registers -/

/-- Either way of writing a level, the radio sends at it. -/
theorem level_radioPowerWrite (b : Build) (power : Int8) (r : Radio) :
    (radioPowerWrite b power r).level b = power := by
  rw [radioPowerWrite, Radio.level]
  split_ifs <;> simp_all

/-- The power that is set is the one asked for, unless the automatic control chooses. -/
theorem radioTxPowerSet_level (hauto : b.powerControlAutomatic = false) {channel : UInt8}
    {txPower : Int8} {r r' : Radio} (h : radioTxPowerSet b channel txPower r = .ok r') :
    r'.level b = txPower := by
  obtain ⟨power, hpower, h⟩ := bind_eq_ok.1 h
  rw [radioPower, hauto, Bool.and_false, if_neg Bool.false_ne_true] at hpower
  cases hpower
  cases h
  exact level_radioPowerWrite b txPower r

/-- Setting the power programs nothing and places nothing. -/
theorem radioTxPowerSet_keeps {channel : UInt8} {txPower : Int8} {r r' : Radio}
    (h : radioTxPowerSet b channel txPower r = .ok r') :
    r'.program = r.program ∧ r'.frequency = r.frequency ∧ r'.packetPtr = r.packetPtr := by
  rw [radioTxPowerSet_eq h]
  exact ⟨rfl, rfl, rfl⟩

/-! ### Setting a PHY -/

/-- The layout that is written is that of the PHY that is stored. -/
theorem radioPacketConf_phy {phy : DtmPhy} {s : Device} (hmode : s.radioMode = phy.radioMode)
    (hplen : s.packetHdrPlen = phy.packetHdrPlen) : radioPacketConf s = phy.packetConf := by
  rw [radioPacketConf, DtmPhy.packetConf, hmode, hplen]
  cases phy <;> rfl

/-- **The initialisation of the radio programs it** for the PHY that has been stored. -/
theorem radioInit_programs (phy : DtmPhy) {s : Device} (hmode : s.radioMode = phy.radioMode)
    (hplen : s.packetHdrPlen = phy.packetHdrPlen) (h117 : s.radio.trim117 = (phy.program b).trim117)
    (h191 : s.radio.trim191 = (phy.program b).trim191) {x : Ret × Device}
    (h : radioInit b s = .ok x) (hok : x.1 = .ok) :
    x.2.Programmed b phy ∧ x.2.radio.frequency = s.radio.frequency ∧ x.2.rxPktCount = 0 ∧
      (b.powerControlAutomatic = false → x.2.radio.level b = s.txpower.toInt8) := by
  rw [radioInit] at h
  split at h
  · cases h
    cases hok
  · obtain ⟨radio, hradio, h⟩ := bind_eq_ok.1 h
    cases h
    obtain ⟨hprogram, hfrequency, -⟩ := radioTxPowerSet_keeps hradio
    have hconf : radioPacketConf (radioReset s) = phy.packetConf := radioPacketConf_phy hmode hplen
    refine ⟨⟨hmode, hplen, ?_⟩, hfrequency, rfl, fun hauto ↦ ?_⟩
    have htrim117 : radio.trim117 = s.radio.trim117 := congrArg RadioProgram.trim117 hprogram
    have htrim191 : radio.trim191 = s.radio.trim191 := congrArg RadioProgram.trim191 hprogram
    · show RadioProgram.mk s.radioMode (radioPacketConf (radioReset s)).plain radio.trim117
        radio.trim191 = phy.program b
      rw [hmode, hconf, htrim117, htrim191, h117, h191]
      rfl
    · show radio.level b = s.txpower.toInt8
      exact radioTxPowerSet_level hauto hradio

/-- The trims after the workarounds have been switched; a chip without an erratum has its trim
off. -/
theorem errataHandle_trims (e191 e172 e117 : Bool) {s : Device}
    (h117 : b.errata117 = false → s.radio.trim117 = false)
    (h191 : b.errata191 = false → s.radio.trim191 = false) :
    (errataHandle b e191 e172 e117 s).radio.trim117 = (b.errata117 && e117) ∧
      (errataHandle b e191 e172 e117 s).radio.trim191 = (b.errata191 && e191) := by
  have hradio (t : Device) : (errata172Handle b e172 t).radio = t.radio := by
    rw [errata172Handle, anomaly172StrictModeSet]
    split_ifs <;> rfl
  have hkept : (errata191Handle b e191 s).radio.trim117 = s.radio.trim117 := by
    rw [errata191Handle]
    split_ifs <;> rfl
  have hon : (errata191Handle b e191 s).radio.trim191 = (b.errata191 && e191) := by
    rw [errata191Handle]
    cases h : b.errata191
    · exact h191 h
    · rfl
  rw [errataHandle, errata117Handle]
  cases h : b.errata117
  · have hoff := (congrArg Radio.trim117 (hradio (errata191Handle b e191 s))).trans hkept
    exact ⟨hoff.trans (h117 h), (congrArg Radio.trim191 (hradio _)).trans hon⟩
  · exact ⟨rfl, (congrArg Radio.trim191 (hradio _)).trans hon⟩

/-- A trim of an erratum that the chip does not have is off. -/
theorem Device.Tuned.trims_off {s : Device} (hs : s.Tuned b) :
    (b.errata117 = false → s.radio.trim117 = false) ∧
      (b.errata191 = false → s.radio.trim191 = false) := by
  obtain ⟨phy, -, hphy⟩ := hs.programmed
  have h117 : s.radio.trim117 = (b.errata117 && phy == .phy2m) :=
    congrArg RadioProgram.trim117 hphy.program
  have h191 : s.radio.trim191 = (b.errata191 && phy.coded) :=
    congrArg RadioProgram.trim191 hphy.program
  refine ⟨fun h ↦ ?_, fun h ↦ ?_⟩
  · rw [h117, h, Bool.false_and]
  · rw [h191, h, Bool.false_and]

/-- What a set-up function makes of the registers. -/
structure SetUp (b : Build) (phy : DtmPhy) (s s' : Device) : Prop where
  programmed : s'.Programmed b phy
  frequency : s'.radio.frequency = s.radio.frequency
  count : s'.rxPktCount = 0
  level : b.powerControlAutomatic = false → s'.radio.level b = s.txpower.toInt8

/-- **The shape of `dtm_setup_reset` and `dtm_setup_set_phy`**: the PHY is stored, the workarounds
are switched with it, and the initialisation is never refused. -/
theorem setupInit_programs {phy : DtmPhy} {e191 e172 e117 : Bool} {s t : Device} {x : Ret × Device}
    (hs : s.Tuned b) (hphy : phy.supported b = true)
    (h : radioInit b (errataHandle b e191 e172 e117 t) = .ok x) (h117 : e117 = (phy == .phy2m))
    (h191 : e191 = phy.coded) (hmode : t.radioMode = phy.radioMode)
    (hplen : t.packetHdrPlen = phy.packetHdrPlen) (hradio : t.radio = s.radio)
    (htxpower : t.txpower = s.txpower) : x.1 = .ok ∧ SetUp b phy s x.2 := by
  obtain ⟨htrim117, htrim191⟩ := errataHandle_trims (b := b) e191 e172 e117 (s := t)
    (by rw [hradio]; exact hs.trims_off.1) (by rw [hradio]; exact hs.trims_off.2)
  have hsame : (errataHandle b e191 e172 e117 t).txpower = s.txpower ∧
      (errataHandle b e191 e172 e117 t).radioMode = phy.radioMode ∧
      (errataHandle b e191 e172 e117 t).packetHdrPlen = phy.packetHdrPlen ∧
      (errataHandle b e191 e172 e117 t).radio.frequency = s.radio.frequency := by
    rw [errataHandle_eq]
    refine ⟨htxpower, hmode, hplen, ?_⟩
    show t.radio.frequency = s.radio.frequency
    rw [hradio]
  obtain ⟨hpower, hmode, hplen, hfrequency⟩ := hsame
  have hok : x.1 = .ok := by
    have haccepted := @dtmPhyAccepted_onTable b _ phy hs.onTable.txpower
    rw [hphy, dtmPhyAccepted, hphy, Bool.true_and] at haccepted
    rw [radioInit_ret h, hpower, hmode]
    exact haccepted
  obtain ⟨hprogrammed, hfreq, hcount, hlevel⟩ := radioInit_programs phy hmode hplen
    (htrim117.trans (by rw [h117]; rfl)) (htrim191.trans (by rw [h191]; rfl)) h hok
  refine ⟨hok, hprogrammed, hfreq.trans hfrequency, hcount, fun hauto ↦ ?_⟩
  rw [hlevel hauto, hpower]

/-- A reset programs the 1 Mbit PHY. -/
theorem dtmSetupReset_programs {s : Device} (hs : s.Tuned b) {x : Ret × Device}
    (h : dtmSetupReset b s = .ok x) : x.1 = .ok ∧ SetUp b .phy1m s x.2 :=
  setupInit_programs hs rfl h rfl rfl rfl rfl rfl rfl

/-- A change of PHY programs it, or is refused and changes nothing. -/
theorem dtmSetupSetPhy_programs {phy : DtmPhy} {s : Device} (hs : s.Tuned b) {x : Ret × Device}
    (h : dtmSetupSetPhy b phy s = .ok x) :
    (phy.supported b = true ∧ SetUp b phy s x.2) ∨ x.2 = s := by
  cases phy with
  | phy1m | phy2m => exact .inl ⟨rfl, (setupInit_programs hs rfl h rfl rfl rfl rfl rfl rfl).2⟩
  | codedS8 | codedS2 =>
    rw [dtmSetupSetPhy] at h
    split at h
    · rename_i hcoded
      exact .inl ⟨hcoded, And.right (setupInit_programs hs hcoded h rfl rfl rfl rfl rfl rfl)⟩
    · cases h
      exact .inr rfl

/-! ### Starting a test -/

/-- **What preparing a test makes of the registers.** -/
structure RadioPrepared (b : Build) (s s' : Device) : Prop where
  program : s'.radio.program = s.radio.program
  channel : s.physCh.toUInt8.toNat ≤ physChMax
  frequency : s'.radio.frequency.toNat = 2402 + 2 * s.physCh.toUInt8.toNat
  packetPtr : s'.radio.packetPtr = s.currentPdu
  level : b.powerControlAutomatic = false →
    s'.radio.level b = s.radio.level b ∨ s'.radio.level b = s.txpower.toInt8

/-- The frequency of a legal channel. -/
theorem radioFrequencyGet_toNat {channel : UInt8} {frequency : UInt16}
    (h : radioFrequencyGet channel = .ok frequency) :
    channel.toNat ≤ physChMax ∧ frequency.toNat = 2402 + 2 * channel.toNat := by
  have hlt := channel.toNat_lt
  rw [radioFrequencyGet] at h
  split at h
  · rw [← Except.ok.inj h]
    refine ⟨‹_›, ?_⟩
    have hbase : (2402 : UInt16).toNat = 2402 := rfl
    have hone : (1 : UInt16).toNat % 16 = 1 := rfl
    rw [UInt16.toNat_add, UInt16.toNat_shiftLeft, UInt8.toNat_toUInt16, hbase, hone,
      Nat.shiftLeft_eq]
    omega
  · cases h

/-- Neither does the constant tone extension, which has registers of its own, and `S1LEN`. -/
theorem radioCte_keeps (b : Build) (rx : Bool) (s : Device) :
    (if b.directionFinding then
        if s.cteInfo.mode ≠ .off then radioCtePrepare b rx s else radioCteReset s.radio
      else s.radio).program = s.radio.program ∧
    (if b.directionFinding then
        if s.cteInfo.mode ≠ .off then radioCtePrepare b rx s else radioCteReset s.radio
      else s.radio).level b = s.radio.level b := by
  rw [radioCtePrepare, radioCteReset]
  split_ifs <;> exact ⟨rfl, rfl⟩

/-- **Every preparation** of a test writes the registers like this. -/
theorem radioPrepare_prepared {rx : Bool} {s s' : Device} (h : radioPrepare b rx s = .ok s') :
    RadioPrepared b s s' := by
  obtain ⟨hprogram, hlevel⟩ := radioCte_keeps b rx s
  have hradio := radioPrepare_radio h
  obtain ⟨t, ht, h⟩ := bind_eq_ok.1 h
  obtain ⟨frequency, hfrequency, ht⟩ := bind_eq_ok.1 ht
  cases ht
  obtain ⟨hchannel, htoNat⟩ := radioFrequencyGet_toNat hfrequency
  have hset : s'.radio.frequency = frequency ∧ (b.powerControlAutomatic = false →
      s'.radio.level b = s.radio.level b ∨ s'.radio.level b = s.txpower.toInt8) := by
    cases rx with
    | true =>
      cases h
      simp only [radioPrepareRx]
      rw [radioStart_eq]
      exact ⟨rfl, fun _ ↦ .inl hlevel⟩
    | false =>
      obtain ⟨radio, hpower, h⟩ := bind_eq_ok.1 h
      cases h
      refine ⟨?_, fun hauto ↦ .inr (radioTxPowerSet_level hauto hpower)⟩
      exact (radioTxPowerSet_keeps hpower).2.1
  refine ⟨?_, hchannel, ?_, ?_, hset.2⟩
  · rw [hradio]
    exact hprogram
  · rw [hset.1, htoNat]
  · rw [hradio]

/-- A prepared radio is placed. -/
theorem RadioPrepared.placed {s s' t : Device} (h : RadioPrepared b s s')
    (hcurrent : s.currentPdu = some 0) (hphys : s.physCh.toUInt8.toUInt32 = s.physCh)
    (ht : t.physCh = s.physCh ∧ t.currentPdu = s.currentPdu)
    (hradio : t.radio.frequency = s'.radio.frequency ∧ t.radio.packetPtr = s'.radio.packetPtr) :
    t.Placed := by
  have hoctet : s.physCh.toNat = s.physCh.toUInt8.toNat := by
    rw [← hphys, UInt8.toUInt8_toUInt32, UInt8.toNat_toUInt32]
  refine ⟨?_, ?_, 0, ?_, ?_⟩
  · rw [ht.1, hoctet]
    exact h.channel
  · rw [hradio.1, h.frequency, ht.1, hoctet]
  · rw [ht.2, hcurrent]
  · rw [hradio.2, h.packetPtr, hcurrent]

/-- **A prepared test keeps the registers with the settings**, whether or not it is started. -/
theorem Device.Tuned.prepare {s t u s' : Device} (hs : s.Tuned b) (h : RadioPrepared b t u)
    (hcurrent : t.currentPdu = some 0) (hphys : t.physCh.toUInt8.toUInt32 = t.physCh)
    (ht : t.radio = s.radio ∧ t.txpower = s.txpower) (honTable : s'.OnTable b)
    (hkeeps : s'.radioMode = s.radioMode ∧ s'.packetHdrPlen = s.packetHdrPlen)
    (hplace : s'.physCh = t.physCh ∧ s'.currentPdu = t.currentPdu)
    (hradio : s'.radio = { u.radio with shorts := s'.radio.shorts, trigger := s'.radio.trigger }) :
    s'.Tuned b := by
  obtain ⟨phy, hphy, hprogrammed⟩ := hs.programmed
  refine ⟨honTable, ⟨phy, hphy, ?_, ?_, ?_⟩, fun hauto ↦ ?_, fun _ ↦ ?_⟩
  · rw [hkeeps.1, hprogrammed.radioMode]
  · rw [hkeeps.2, hprogrammed.packetHdrPlen]
  · rw [hradio, ← hprogrammed.program, ← ht.1, ← h.program]
    rfl
  · have hsame : s'.radio.level b = u.radio.level b := by
      rw [hradio]
      rfl
    rw [hsame]
    rcases h.level hauto with hlevel | hlevel
    · rw [hlevel, ht.1]
      exact hs.level hauto
    · rw [hlevel, ht.2]
      exact hs.onTable.txpower hauto
  · refine h.placed hcurrent hphys hplace ?_
    rw [hradio]
    exact ⟨rfl, rfl⟩

/-- A test that does not prepare the radio starts nothing. -/
theorem transmitAction_keep {channel length : UInt8} {pkt : DtmPacket} {s : Device}
    (h : transmitPrepares channel length pkt s = false) :
    transmitAction b channel length pkt s = .keep := by
  rw [transmitAction]
  by_cases hidle : s.state = .idle
  · rw [transmitPrepares, hidle, beq_self_eq_true, Bool.true_and] at h
    rw [if_neg (not_not.2 hidle)]
    by_cases hv : resolvePacket s.radioMode pkt = .vendor
    · rw [if_pos hv] at h
      rw [if_pos hv, h]
      rfl
    · rw [if_neg hv] at h
      rw [if_neg hv, h]
      rfl
  · rw [if_pos hidle]

/-- An idle device transmits from the first buffer, whether or not it is refused. -/
theorem dtmTestTransmit_currentPdu {channel length : UInt8} {pkt : DtmPacket} {s : Device}
    {x : Ret × Device} (hs : s.state = .idle)
    (h : dtmTestTransmit b channel length pkt s = .ok x) : x.2.currentPdu = some 0 := by
  cases dtmTestTransmit_ok h with
  | busy hbusy => exact absurd hs hbusy
  | channel | setting | refused | carrier | modulated => rfl

/-- The same registers serve the same settings. -/
theorem Device.Tuned.same {s s' : Device} (hs : s.Tuned b) (honTable : s'.OnTable b)
    (hkeeps : s'.radioMode = s.radioMode ∧ s'.packetHdrPlen = s.packetHdrPlen)
    (hprogram : s'.radio.program = s.radio.program)
    (hlevel : s'.radio.level b = s.radio.level b)
    (hplaced : s'.state.testing = true → s'.Placed) : s'.Tuned b := by
  obtain ⟨phy, hphy, hprogrammed⟩ := hs.programmed
  refine ⟨honTable, ⟨phy, hphy, ?_, ?_, ?_⟩, fun hauto ↦ ?_, hplaced⟩
  · rw [hkeeps.1, hprogrammed.radioMode]
  · rw [hkeeps.2, hprogrammed.packetHdrPlen]
  · rw [hprogram, hprogrammed.program]
  · rw [hlevel]
    exact hs.level hauto

/-- A transmission places the radio, or starts nothing. -/
theorem dtmTestTransmit_tuned {channel length : UInt8} {pkt : DtmPacket} {s : Device}
    {x : Ret × Device} (hs : s.Tuned b) (honTable : x.2.OnTable b)
    (h : dtmTestTransmit b channel length pkt s = .ok x) : x.2.Tuned b := by
  have hkeeps := dtmTestTransmit_keepsSettings h
  rcases dtmTestTransmit_prepared h with ⟨hprepares, pdu, t, ht, hstarted⟩ | ⟨hnot, hradio, -⟩
  · have hidle : s.state = .idle := by
      rw [transmitPrepares, Bool.and_eq_true, beq_iff_eq] at hprepares
      exact hprepares.1
    refine hs.prepare (radioPrepare_prepared ht) rfl ?_ ⟨rfl, rfl⟩ honTable
      ⟨hkeeps.radioMode, hkeeps.packetHdrPlen⟩
      ⟨dtmTestTransmit_physCh hidle h, dtmTestTransmit_currentPdu hidle h⟩ hstarted.radio
    show channel.toUInt32.toUInt8.toUInt32 = channel.toUInt32
    rw [UInt8.toUInt8_toUInt32]
  · refine hs.same honTable ⟨hkeeps.radioMode, hkeeps.packetHdrPlen⟩ (by rw [hradio])
      (by rw [hradio]) fun htesting ↦ ?_
    by_cases hidle : s.state = .idle
    -- no test has been started
    · have hstate : x.2.state = s.state := by
        have hcontrol := dtmTestTransmit_control h
        rw [transmitAction_keep hnot] at hcontrol
        exact congrArg Control.state hcontrol
      rw [hstate, hidle] at htesting
      cases htesting
    · cases ((if_pos hidle).symm.trans h : (Except.ok (Ret.err .ebusy, s)) = Except.ok x)
      exact hs.placed htesting

/-- A reception places it, or is refused. -/
theorem dtmTestReceive_tuned {channel : UInt8} {s : Device} {x : Ret × Device} (hs : s.Tuned b)
    (honTable : x.2.OnTable b) (h : dtmTestReceive b channel s = .ok x) : x.2.Tuned b := by
  rw [dtmTestReceive] at h
  split at h
  · cases h
    exact hs
  · obtain ⟨t, ht, h⟩ := bind_eq_ok.1 h
    cases h
    obtain ⟨-, hrx⟩ := radioPrepare_rx ht
    show Device.Tuned b { t with state := .receiverTest }
    refine hs.prepare (radioPrepare_prepared ht) rfl ?_
      ⟨rfl, rfl⟩ honTable ?_ ?_ rfl
    · show channel.toUInt32.toUInt8.toUInt32 = channel.toUInt32
      rw [UInt8.toUInt8_toUInt32]
    · rw [hrx]
      exact ⟨rfl, rfl⟩
    · rw [hrx]
      exact ⟨rfl, rfl⟩

/-! ### The interrupts -/

/-- What an interrupt makes of the radio: it may hand it the other buffer, and start it again. -/
structure KeepsRadio (s s' : Device) : Prop where
  radio : s'.radio =
    { s.radio with packetPtr := s'.radio.packetPtr, trigger := s'.radio.trigger }
  buffer : (∃ i, s.currentPdu = some i ∧ s.radio.packetPtr = some i) →
    ∃ i, s'.currentPdu = some i ∧ s'.radio.packetPtr = some i

theorem KeepsRadio.refl (s : Device) : KeepsRadio s s := ⟨rfl, id⟩

theorem KeepsRadio.trans {s s' s'' : Device} (h : KeepsRadio s s') (h' : KeepsRadio s' s'') :
    KeepsRadio s s'' where
  radio := by
    rw [h'.radio, h.radio]
  buffer := h'.buffer ∘ h.buffer

theorem onRadioEndEvent_keepsRadio {ev : RadioEvent} {s s' : Device}
    (h : onRadioEndEvent b ev s = .ok s') : KeepsRadio s s' := by
  rw [onRadioEndEvent] at h
  split at h
  · cases h
    exact .refl s
  · split at h
    · cases h
    · rename_i received _
      have hradio : s'.radio = radioStart b true false (radioBufferSwap received s).radio := by
        rw [receivedPdu_ok h]
        rfl
      refine ⟨?_, fun _ ↦ ⟨_, receivedPdu_next h⟩⟩
      rw [hradio, radioStart_eq]
      rfl

/-- An interrupt does no more than that. -/
theorem radioIrq_keepsRadio {ev : RadioEvent} {s s' : Device} (h : radioIrq b ev s = .ok s') :
    KeepsRadio s s' := by
  refine radioIrq_rule (R := KeepsRadio) .refl .trans (fun s ↦ ?_) (fun enabled s ↦ ?_)
    onRadioEndEvent_keepsRadio h
  · obtain ⟨hcurrent, hradio, -⟩ := radioDma_pointers b ev s
    refine ⟨?_, fun h ↦ ?_⟩
    · rw [hradio]
    · rw [hcurrent, hradio]
      exact h
  · rw [anomalyTimerSet_eq]
    exact ⟨rfl, id⟩

/-- So the registers stay with the settings. -/
theorem KeepsRadio.tuned {s s' : Device} (hs : s.Tuned b) (h : KeepsRadio s s')
    (hkeeps : KeepsSetup s s') (honTable : s'.OnTable b) : s'.Tuned b := by
  refine hs.same honTable ⟨hkeeps.radioMode, hkeeps.packetHdrPlen⟩ ?_ ?_ fun htesting ↦ ?_
  · rw [h.radio]
    rfl
  · rw [h.radio]
    rfl
  · rw [hkeeps.state] at htesting
    have hplaced := hs.placed htesting
    refine ⟨?_, ?_, h.buffer hplaced.buffer⟩
    · rw [hkeeps.physCh]
      exact hplaced.channel
    · rw [h.radio, hkeeps.physCh]
      exact hplaced.frequency

/-! ### Runs -/

/-- A setting is about the next test. -/
theorem Device.Tuned.setting {s : Device} (hs : s.Tuned b) (cteInfo : DtmCteInfo) (txpower : UInt8)
    (honTable : Device.OnTable b { s with cteInfo := cteInfo, txpower := txpower }) :
    Device.Tuned b { s with cteInfo := cteInfo, txpower := txpower } := by
  refine hs.same honTable ⟨rfl, rfl⟩ rfl rfl fun htesting ↦ ?_
  have hplaced := hs.placed htesting
  exact ⟨hplaced.channel, hplaced.frequency, hplaced.buffer⟩

/-- A set-up function leaves the radio on its place. -/
theorem SetUp.tuned {phy : DtmPhy} {s s' : Device} (hs : s.Tuned b) (h : SetUp b phy s s')
    (hphy : phy.supported b = true) (hkeeps : KeepsTest s s') (hbuffers : KeepsBuffers s s')
    (honTable : s'.OnTable b) : s'.Tuned b := by
  refine ⟨honTable, ⟨phy, hphy, h.programmed⟩, fun hauto ↦ ?_, fun htesting ↦ ?_⟩
  · rw [h.level hauto]
    exact hs.onTable.txpower hauto
  · rw [hkeeps.state] at htesting
    have hplaced := hs.placed htesting
    refine ⟨?_, ?_, ?_⟩
    · rw [hkeeps.physCh]
      exact hplaced.channel
    · rw [h.frequency, hkeeps.physCh]
      exact hplaced.frequency
    · rw [hbuffers.currentPdu, hbuffers.packetPtr]
      exact hplaced.buffer

/-- **Every call and interrupt keeps the registers with the settings.** -/
theorem Device.Tuned.step (hb : b.PowerTable) {s s' : Device} {i : Input} (hs : s.Tuned b)
    (h : s.step b i = .ok s') : s'.Tuned b := by
  have honTable := hs.onTable.step hb h
  cases i with
  | call c =>
    obtain ⟨x, hx, h⟩ := bind_eq_ok.1 h
    cases h
    cases c with
    | init env callback =>
      -- the timer is initialised already, so a second `dtm_init` changes nothing
      obtain ⟨e, he⟩ := dtmInit_again b env callback hs.onTable.timerInit
      cases he.symm.trans hx
      exact hs
    | setupReset =>
      exact (dtmSetupReset_programs hs hx).2.tuned hs rfl (dtmSetupReset_keepsTest hx)
        (dtmSetupReset_keepsBuffers hx) honTable
    | setupSetPhy phy =>
      rcases dtmSetupSetPhy_programs hs hx with ⟨hphy, hset⟩ | hsame
      · exact hset.tuned hs hphy (dtmSetupSetPhy_keepsTest hx) (dtmSetupSetPhy_keepsBuffers hx)
          honTable
      · rw [hsame]
        exact hs
    -- a setting writes no register, and a test that runs keeps the ones it has
    | setupSetModulation | setupReadFeatures | setupReadMaxSupportedValue | setupSetCteMode
    | setupSetCteSlot | setupSetAntennaParams | setupSetTransmitPower =>
      rw [api_setting rfl rfl hx] at honTable ⊢
      exact hs.setting _ _ honTable
    | testReceive channel => exact dtmTestReceive_tuned hs honTable hx
    | testTransmit channel length pkt => exact dtmTestTransmit_tuned hs honTable hx
    -- no test is running then, so nothing has to be in place
    | setupPrepare =>
      cases hx
      exact hs.same honTable ⟨rfl, rfl⟩ rfl rfl (by rintro ⟨⟩)
    | testEnd packCnt =>
      cases hx
      cases packCnt with
      | false => exact hs
      | true => exact hs.same honTable ⟨rfl, rfl⟩ rfl rfl (by rintro ⟨⟩)
  | radio ev => exact (radioIrq_keepsRadio h).tuned hs (radioIrq_keepsSetup h) honTable
  | anomaly ev =>
    have hkeeps := Device.step_anomaly_keepsSetup h
    cases h
    refine KeepsRadio.tuned hs ?_ hkeeps honTable
    split
    · rw [anomalyTimerHandler]
      simp only
      split_ifs <;> exact ⟨rfl, id⟩
    · exact .refl s

/-- The initialisation of the library tunes the radio. -/
theorem Initialised.tuned (hb : b.PowerTable) {s : Device} (h : Initialised b s) : s.Tuned b := by
  have honTable := h.onTable hb
  obtain ⟨env, callback, h⟩ := h
  have hinit := dtmInit_ok_radio h
  obtain ⟨radio, hs⟩ := dtmInit_ok h
  obtain ⟨⟨err, t⟩, ht, hinit⟩ := bind_eq_ok.1 hinit
  cases err with
  | err e => cases hinit
  | ok =>
    obtain ⟨hprogrammed, -, -, hlevel⟩ := radioInit_programs .phy1m rfl rfl
      (Bool.and_false _).symm (Bool.and_false _).symm ht rfl
    cases hinit
    refine ⟨honTable, ⟨.phy1m, rfl, hprogrammed.radioMode, hprogrammed.packetHdrPlen,
      hprogrammed.program⟩, fun hauto ↦ ?_, by rintro ⟨⟩⟩
    show (t.radio.level b).toUInt8.toUInt32 ∈ b.nrfPowerValue
    rw [hlevel hauto, hauto]
    exact hb.zero

/-- **The registers follow the settings** in every run, from the initialisation on. -/
theorem radio_tuned (hb : b.PowerTable) {s : Device}
    (hs : Reachable (Device.step b) (Initialised b) s) : s.Tuned b :=
  hs.invariant (fun _ h ↦ h.tuned hb) fun _ _ _ hs h ↦ hs.step hb h

/-- A reception on the 2M PHY. -/
def receive2m : List Input := [.call (.setupSetPhy .phy2m), .call (.testReceive 7)]

theorem receive2m_run :
    ∃ s, run (Device.step (.nrf5340 true false)) .nrf5340 receive2m = .ok s ∧
      s.state = .receiverTest ∧ s.radioMode = .ble2Mbit ∧ s.physCh = 7 ∧
      s.radio.frequency = 2416 ∧ s.radio.mode = .ble2Mbit ∧ s.radio.trim117 = true :=
  ⟨_, rfl, rfl, rfl, rfl, rfl, rfl, rfl⟩

/-- In a reception every part of the invariant has something to say. -/
theorem radio_tuned_receive2m :
    ∃ s, run (Device.step (.nrf5340 true false)) .nrf5340 receive2m = .ok s ∧
      s.Tuned (.nrf5340 true false) := by
  obtain ⟨s, hrun, -⟩ := receive2m_run
  have hs : Reachable (Device.step _) (Initialised (.nrf5340 true false)) s :=
    (Reachable.start (Device.nrf5340_initialised true false)).run hrun
  exact ⟨s, hrun, radio_tuned (Build.nrf5340_powerTable true false) hs⟩

/-! ### Two devices -/

/-- Two radios on the same channel with the same mode and packet layout. -/
structure Radio.SameAir (r r' : Radio) : Prop where
  frequency : r.frequency = r'.frequency
  mode : r.mode = r'.mode
  packetConf : r.packetConf.plain = r'.packetConf.plain

/-- A radio mode belongs to one PHY. -/
theorem DtmPhy.radioMode_injective {phy phy' : DtmPhy} (h : phy.radioMode = phy'.radioMode) :
    phy = phy' := by
  cases phy <;> cases phy' <;> first | rfl | cases h

/-- Two devices in a test hear each other exactly on one channel and one PHY. -/
theorem Device.Tuned.sameAir_iff {b' : Build} {s s' : Device} (hs : s.Tuned b)
    (hs' : s'.Tuned b') (ht : s.state.testing = true) (ht' : s'.state.testing = true) :
    s.radio.SameAir s'.radio ↔ s.physCh = s'.physCh ∧ s.radioMode = s'.radioMode := by
  obtain ⟨phy, -, hphy⟩ := hs.programmed
  obtain ⟨phy', -, hphy'⟩ := hs'.programmed
  have hmode : s.radio.mode = phy.radioMode := congrArg RadioProgram.mode hphy.program
  have hmode' : s'.radio.mode = phy'.radioMode := congrArg RadioProgram.mode hphy'.program
  have hconf : s.radio.packetConf.plain = phy.packetConf :=
    congrArg RadioProgram.packetConf hphy.program
  have hconf' : s'.radio.packetConf.plain = phy'.packetConf :=
    congrArg RadioProgram.packetConf hphy'.program
  have hplaced := hs.placed ht
  have hplaced' := hs'.placed ht'
  refine ⟨fun h ↦ ⟨?_, ?_⟩, fun ⟨hchannel, h⟩ ↦ ?_⟩
  · have hfrequency := congrArg UInt16.toNat h.frequency
    rw [hplaced.frequency, hplaced'.frequency] at hfrequency
    exact UInt32.toNat_inj.1 (by omega)
  · rw [hphy.radioMode, hphy'.radioMode, ← hmode, ← hmode', h.mode]
  · have hsame : phy = phy' := by
      refine DtmPhy.radioMode_injective ?_
      rw [← hphy.radioMode, ← hphy'.radioMode, h]
    refine ⟨UInt16.toNat_inj.1 ?_, ?_, ?_⟩
    · rw [hplaced.frequency, hplaced'.frequency, hchannel]
    · rw [hmode, hmode', hsame]
    · rw [hconf, hconf', hsame]

/-- **Two devices in a test hear each other exactly if they are set to one channel and one PHY**,
whatever was done to either before, and whatever chips they are. -/
theorem same_air_iff {b' : Build} (hb : b.PowerTable) (hb' : b'.PowerTable) {s s' : Device}
    (hs : Reachable (Device.step b) (Initialised b) s)
    (hs' : Reachable (Device.step b') (Initialised b') s') (ht : s.state.testing = true)
    (ht' : s'.state.testing = true) :
    s.radio.SameAir s'.radio ↔ s.physCh = s'.physCh ∧ s.radioMode = s'.radioMode :=
  (radio_tuned hb hs).sameAir_iff (radio_tuned hb' hs') ht ht'

/-- A change of PHY after a reception on another channel. -/
def change2m : List Input :=
  [.call (.testReceive 12), .call (.testEnd true), .call (.setupSetPhy .phy2m)]

theorem transmit2m_run :
    ∃ s, run (Device.step (.nrf5340 true true)) .nrf5340
        (change2m ++ [.call (.testTransmit 7 37 .prbs9)]) = .ok s ∧
      s.state = .transmitterTest ∧ s.radioMode = .ble2Mbit ∧ s.physCh = 7 := by
  obtain ⟨t, ht, hidle, hmode, hgain⟩ : ∃ t,
      run (Device.step (.nrf5340 true true)) .nrf5340 change2m = .ok t ∧ t.state = .idle ∧
        t.radioMode = .ble2Mbit ∧ femGainRefused (.nrf5340 true true) t = false :=
    ⟨_, rfl, rfl, rfl, rfl⟩
  have hpacket : resolvePacket t.radioMode .prbs9 ≠ .vendor := by
    rw [hmode]
    decide
  obtain ⟨pdu, radio, anomalyTimer, timer, -, heq⟩ :=
    dtmTestTransmit_modulated 7 37 hidle hpacket (by decide) hgain
  have hlast : t.step (.nrf5340 true true) (.call (.testTransmit 7 37 .prbs9)) = .ok _ :=
    bind_eq_ok.2 ⟨_, heq, rfl⟩
  rw [run_append, ht, ok_bind, run_cons, hlast]
  exact ⟨_, rfl, rfl, hmode, rfl⟩

/-- A transmitter with a front-end module and a receiver without one, after different histories. -/
theorem same_air_iff_2m :
    ∃ s s', run (Device.step (.nrf5340 true true)) .nrf5340
        (change2m ++ [.call (.testTransmit 7 37 .prbs9)]) = .ok s ∧
      run (Device.step (.nrf5340 true false)) .nrf5340 receive2m = .ok s' ∧
      s.state = .transmitterTest ∧ s'.state = .receiverTest ∧ s.radio.SameAir s'.radio := by
  obtain ⟨s, hrun, hstate, hmode, hchannel⟩ := transmit2m_run
  obtain ⟨s', hrun', hstate', hmode', hchannel', -⟩ := receive2m_run
  have hs : Reachable (Device.step _) (Initialised (.nrf5340 true true)) s :=
    (Reachable.start (Device.nrf5340_initialised true true)).run hrun
  have hs' : Reachable (Device.step _) (Initialised (.nrf5340 true false)) s' :=
    (Reachable.start (Device.nrf5340_initialised true false)).run hrun'
  refine ⟨s, s', hrun, hrun', hstate, hstate', ?_⟩
  refine (same_air_iff (Build.nrf5340_powerTable true true) (Build.nrf5340_powerTable true false)
    hs hs' (by rw [hstate]; rfl) (by rw [hstate']; rfl)).2 ⟨?_, ?_⟩
  · rw [hchannel, hchannel']
  · rw [hmode, hmode']

end DirectTestMode
