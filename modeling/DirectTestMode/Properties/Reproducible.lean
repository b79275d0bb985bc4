import DirectTestMode.Properties.PacketLength
import DirectTestMode.Properties.RadioSettings
import DirectTestMode.Properties.Versions

/-!
# A test does not depend on what was tested before

Two runs of one test command, from any two reachable states. In a build without a front-end module
the status is the same (`rxTestStatus_uniform`, `txTestStatus_uniform`): each link of the chain
answers from the parameters and the build alone. And what the test consists of is written by the
command itself: `SameSetup` collects it, and it follows from the links that both runs have passed.

## The status, by uniformity

`UniformOn` says that a program gives one answer from all devices of a kind. It is the notion of
`Machine.Prog` for a program that may also be stopped, and then by the same assertion; it composes
along a chain (`uniform_attempt`), with the kind of device that one link leaves as the kind that the
next one starts from. The kind here is `Prepared`: between tests, and at a level of the chip. The
first link of a test command, `dtm_setup_prepare`, brings every reachable device there, which is
what makes the history irrelevant.

The last link may leave a test running, and a refused one must not; `IdleUnlessSuccess` is the
postcondition that says so.

## The test, by comparison

Two runs that succeeded have passed the same links, and each link writes what it sets from the
parameters (`rxLinks_same`, `txLinks_same`). What is compared is what is in use in the test:

* the radio mode with its preamble, the channel, and for a transmission the level and the octets on
  the air;
* the constant tone extension with `SameExtension`, whose clauses hold **where it is on**. With the
  extension off the old antenna pattern is still there, and without effect; this is the one place
  where the devices do differ.

A front-end module keeps a gain and a ramp-up time from one test to the next, which is why the
result is about builds without one.
-/

namespace DirectTestMode

open Fallible Hci

variable {b : Build} {q : ℕ}

/-! ### The status -/

/-- The answer of a program does not depend on the device, among those that satisfy `J`. -/
def UniformOn {α : Type} (b : Build) (q : ℕ) (J : Device → Prop) (Q : α → Device → Prop)
    (p : Prog transport α) : Prop :=
  p.Uniform (hostHandler b q) (fun h ↦ J h.device) fun a h ↦ Q a h.device

/-- A device between tests, at a level of the chip. -/
structure Prepared (b : Build) (s : Device) : Prop where
  onTable : s.OnTable b
  idle : s.state = .idle

/-- A set-up call keeps the device between tests. -/
theorem Prepared.setup (hb : b.PowerTable) {s : Device} (hs : Prepared b s) {c : Call}
    (hc : c.isSetup = true) {x : dtm.Res c × Device} (h : api b c s = .ok x) :
    Prepared b x.2 := by
  refine ⟨hs.onTable.step hb (i := .call c) (bind_eq_ok.2 ⟨x, h, rfl⟩), ?_⟩
  exact (api_keepsTest (fun _ _ _ ↦ hs.onTable.timerInit) hc h).state.trans hs.idle

/-- A call that answers alike from all devices of the kind. -/
theorem uniform_call {J : Device → Prop} (c : Call) {Q : dtm.Res c → Device → Prop}
    (r : dtm.Res c) (h : ∀ s, J s → ∃ s', api b c s = .ok (r, s') ∧ Q r s') :
    UniformOn b q J Q (Prog.perform (I := transport) (.dtm c)) := by
  refine Prog.uniform_perform (I := transport) (.dtm c) r fun t ht ↦ ?_
  obtain ⟨s', hs', hQ⟩ := h t.device ht
  exact ⟨_, bind_eq_ok.2 ⟨_, hs', rfl⟩, hQ⟩

/-- A set-up call that answers from the build alone. -/
theorem uniform_setup (hb : b.PowerTable) (c : Call) (hc : c.isSetup = true) (r : dtm.Res c)
    (h : ∀ s, Prepared b s → ∃ s', api b c s = .ok (r, s')) :
    UniformOn b q (Prepared b) (fun _ ↦ Prepared b) (Prog.perform (I := transport) (.dtm c)) := by
  refine uniform_call c r fun s hs ↦ ?_
  obtain ⟨s', hs'⟩ := h s hs
  exact ⟨s', hs', hs.setup hb hc hs'⟩

/-- Unless the command succeeds the device is left between tests. -/
def IdleUnlessSuccess (status : UInt8) (s : Device) : Prop :=
  status ≠ errSuccess → s.state = .idle

/-- **One link**: a call that answers alike, and a rest that does. -/
theorem uniform_attempt {J : Device → Prop} {P : Ret → Device → Prop} {p : Prog transport Ret}
    {status : Ret → Option UInt8} {next : Prog transport UInt8} (hp : UniformOn b q J P p)
    (hstatus : Refusing status) (hidle : ∀ e s, P (.err e) s → s.state = .idle)
    (hnext : UniformOn b q (P .ok) IdleUnlessSuccess next) :
    UniformOn b q J IdleUnlessSuccess (attempt p status next) := by
  refine Prog.Uniform.bind hp fun r ↦ ?_
  cases r with
  | ok =>
    rw [hstatus.1]
    exact hnext
  | err e =>
    obtain ⟨code, hcode, -⟩ := hstatus.2 e
    rw [hcode]
    exact Prog.uniform_pure fun h hh _ ↦ hidle e h.device hh

/-- A link of settings. -/
theorem uniform_setting {p : Prog transport Ret} {status : Ret → Option UInt8}
    {next : Prog transport UInt8} (hp : UniformOn b q (Prepared b) (fun _ ↦ Prepared b) p)
    (hstatus : Refusing status) (hnext : UniformOn b q (Prepared b) IdleUnlessSuccess next) :
    UniformOn b q (Prepared b) IdleUnlessSuccess (attempt p status next) :=
  uniform_attempt hp hstatus (fun _ _ hs ↦ hs.idle) hnext

/-- A status that is returned as it is. -/
theorem uniform_status (code : UInt8) :
    UniformOn b q (Prepared b) IdleUnlessSuccess (pure code) :=
  Prog.uniform_pure fun _ hh _ ↦ hh.idle

theorem uniform_ret (r : Ret) : UniformOn b q (Prepared b) (fun _ ↦ Prepared b) (pure r) :=
  Prog.uniform_pure fun _ hh ↦ hh

/-- Whether a PHY can be set depends on the build. -/
theorem phySet_uniform (hb : b.PowerTable) (hauto : b.powerControlAutomatic = false) (phy : UInt8) :
    UniformOn b q (Prepared b) (fun _ ↦ Prepared b) (phySet phy) := by
  rw [phySet]
  cases phyOf phy with
  | none => exact uniform_ret _
  | some p =>
    cases hphy : p.supported b with
    | true =>
      refine uniform_setup hb (.setupSetPhy p) rfl Ret.ok fun s hs ↦
        dtmSetupSetPhy_ok_iff.2 ⟨?_, fun h ↦ ?_⟩
      · exact (dtmPhyAccepted_onTable hs.onTable.txpower).trans hphy
      · cases hauto.symm.trans h.1
    | false =>
      refine uniform_setup hb (.setupSetPhy p) rfl (Ret.err .enotsup) fun s hs ↦ ?_
      cases p with
      | phy1m | phy2m => cases hphy
      | codedS8 | codedS2 =>
        refine ⟨s, ?_⟩
        rw [api, dtmSetupSetPhy, show b.hasBleCoded = false from hphy]
        rfl

/-- Whether a modulation can, on its octet. -/
theorem modSet_uniform (hb : b.PowerTable) (mod : UInt8) :
    UniformOn b q (Prepared b) (fun _ ↦ Prepared b) (modSet mod) := by
  rw [modSet]
  split_ifs
  · exact uniform_setup hb (.setupSetModulation .standard) rfl _ fun s _ ↦ ⟨s, rfl⟩
  · exact uniform_setup hb (.setupSetModulation .stable) rfl _ fun s _ ↦ ⟨s, rfl⟩
  · exact uniform_ret _

/-- A set-up call that cannot fault, and answers the same from everywhere. -/
theorem uniform_total (hb : b.PowerTable) (c : Call) (hc : c.isSetup = true)
    {g : Device → dtm.Res c × Device} (hg : ∀ s, api b c s = .ok (g s))
    (hret : ∀ s t, (g s).1 = (g t).1) :
    UniformOn b q (Prepared b) (fun _ ↦ Prepared b) (Prog.perform (I := transport) (.dtm c)) := by
  refine uniform_setup hb c hc (g .powerOn).1 fun s _ ↦ ⟨(g s).2, ?_⟩
  rw [hg s, hret .powerOn s]

theorem setCteMode_uniform (hb : b.PowerTable) (type : DtmCteType) (time : UInt8) :
    UniformOn b q (Prepared b) (fun _ ↦ Prepared b) (Transport.setupSetCteMode type time) := by
  refine uniform_total hb (.setupSetCteMode type time) rfl (g := dtmSetupSetCteMode b type time)
    (fun _ ↦ rfl) fun s t ↦ ?_
  unfold dtmSetupSetCteMode
  split_ifs <;> rfl

theorem setCteSlot_uniform (hb : b.PowerTable) (slot : UInt8) :
    UniformOn b q (Prepared b) (fun _ ↦ Prepared b) (Transport.setupSetCteSlot slot) := by
  refine uniform_total hb (.setupSetCteSlot slot) rfl (g := dtmSetupSetCteSlot b slot)
    (fun _ ↦ rfl) fun s t ↦ ?_
  unfold dtmSetupSetCteSlot
  split
  · rfl
  · split <;> rfl

theorem setAntennaParams_uniform (hb : b.PowerTable) (count : UInt8) (pattern : PatternPtr)
    (patternLen : UInt8) :
    UniformOn b q (Prepared b) (fun _ ↦ Prepared b)
      (Transport.setupSetAntennaParams count pattern patternLen) := by
  refine uniform_total hb (.setupSetAntennaParams count pattern patternLen) rfl
    (g := dtmSetupSetAntennaParams b count pattern patternLen) (fun _ ↦ rfl) fun s t ↦ ?_
  unfold dtmSetupSetAntennaParams
  split_ifs <;> rfl

theorem storePattern_uniform {src : List UInt8} (hsrc : src.length ≤ 75) :
    UniformOn b q (Prepared b) (fun _ ↦ Prepared b) (Transport.storePattern .hci src) := by
  refine Prog.uniform_perform (I := transport) (.patternStore .hci src) () fun h hh ↦ ?_
  rcases patternStore_fits .hci src h.device.patterns with ⟨p, hp, -⟩ | ⟨-, hfits⟩
  · exact ⟨_, bind_eq_ok.2 ⟨p, hp, rfl⟩, ⟨hh.onTable.timerInit, hh.onTable.txpower⟩, hh.idle⟩
  · exact absurd (decide_eq_false_iff_not.1 hfits) (not_not.2 hsrc)

/-- The constant tone extension answers from its own parameters, and each of its calls from the
build. -/
theorem cteSet_uniform (hb : b.PowerTable) (cteLen cteType patternLen : UInt8)
    (pattern : ℕ → UInt8) :
    UniformOn b q (Prepared b) (fun _ ↦ Prepared b)
      (cteSet cteLen cteType patternLen pattern) := by
  have hmode : UniformOn b q (Prepared b) (fun _ ↦ Prepared b) (cteModeSet cteLen cteType) := by
    rw [cteModeSet]
    cases cteTypeOf cteType with
    | none => exact uniform_ret _
    | some type => exact setCteMode_uniform hb type cteLen
  rw [cteSet]
  split_ifs with hnone hlong
  · exact setCteMode_uniform hb .none 0
  · exact uniform_ret _
  · refine Prog.Uniform.bind hmode fun err ↦ ?_
    split
    · exact uniform_ret _
    · refine Prog.Uniform.bind (storePattern_uniform ?_) fun _ ↦
        setAntennaParams_uniform hb 0 .hci patternLen
      rw [List.length_map, List.length_range]
      exact Nat.not_lt.1 hlong

theorem cteSlotSet_uniform (hb : b.PowerTable) (cteLen slotDurations : UInt8) :
    UniformOn b q (Prepared b) (fun _ ↦ Prepared b) (cteSlotSet cteLen slotDurations) := by
  rw [cteSlotSet]
  split
  · exact setCteSlot_uniform hb slotDurations
  · exact uniform_ret _

/-- The last link of a chain may leave a test running. -/
theorem uniform_start {J : Device → Prop} {p : Prog transport Ret}
    (hp : UniformOn b q J (fun r s ↦ r ≠ .ok → s.state = .idle) p) :
    UniformOn b q J IdleUnlessSuccess (attempt p testStatus (pure errSuccess)) :=
  uniform_attempt hp refusing_testStatus (fun _ _ hs ↦ hs (by simp))
    (Prog.uniform_pure fun _ _ hne ↦ absurd rfl hne)

/-- A Receiver Test answers from its channel. -/
theorem testReceive_uniform (channel : UInt8) :
    UniformOn b q (Prepared b) (fun r s ↦ r ≠ .ok → s.state = .idle)
      (Transport.testReceive channel) := by
  rcases Nat.lt_or_ge physChMax channel.toNat with hc | hc
  · refine uniform_call (.testReceive channel) (Ret.err .einval) fun s hs ↦ ?_
    exact ⟨s, dtmTestReceive_illegal b s hc, fun _ ↦ hs.idle⟩
  · refine uniform_call (.testReceive channel) Ret.ok fun s _ ↦ ?_
    obtain ⟨radio, -, hreceive⟩ := dtmTestReceive_legal b s hc
    exact ⟨_, hreceive, fun hne ↦ absurd rfl hne⟩

/-- `dtm_setup_prepare` ends the running test. -/
theorem prepare_uniform (b : Build) (q : ℕ) :
    UniformOn b q (Device.OnTable b) (fun _ ↦ Prepared b) Transport.setupPrepare :=
  uniform_call .setupPrepare () fun s hs ↦
    ⟨dtmSetupPrepare b s, rfl, ⟨hs.timerInit, hs.txpower⟩, rfl⟩

/-- **The status of a Receiver Test** does not depend on the state. -/
theorem rxTestStatus_uniform (hb : b.PowerTable) (hauto : b.powerControlAutomatic = false)
    (p : RxParams) : UniformOn b q (Device.OnTable b) IdleUnlessSuccess (rxTestStatus p) := by
  refine Prog.Uniform.bind (prepare_uniform b q) fun _ ↦ ?_
  refine uniform_setting (phySet_uniform hb hauto p.phy) refusing_unsupportedOn ?_
  refine uniform_setting (modSet_uniform hb p.mod) refusing_settingStatus ?_
  split
  · exact uniform_status _
  · refine uniform_setting (cteSet_uniform hb _ _ _ _) refusing_settingStatus ?_
    refine uniform_setting (cteSlotSet_uniform hb _ _) refusing_slotStatus ?_
    exact uniform_start (testReceive_uniform p.chan)

/-- A power request answers from the channel, and lets through a legal one. -/
theorem txPowerSet_uniform (hb : b.PowerTable) (power : Int8) (channel : UInt8) :
    UniformOn b q (Prepared b)
      (fun r s ↦ Prepared b s ∧ (r = .ok → channel.toNat ≤ physChMax))
      (txPowerSet power channel) := by
  rw [txPowerSet]
  rcases hrequest : txPowerRequestOf power with - | request
  · exact Prog.uniform_pure fun _ hh ↦ ⟨hh, fun h ↦ by cases h⟩
  · rcases Nat.lt_or_ge physChMax channel.toNat with hc | hc
    · refine .inr ⟨.channel, fun h _ ↦ ?_⟩
      rw [Prog.run_bind]
      refine bind_eq_error.2 (.inl (perform_dtm_error ?_))
      rw [api, dtmSetupSetTransmitPower, radioFrequencyGet_fault hc]
      rfl
    · obtain ⟨level, hlevel⟩ := txPowerRequested_ok hb request.1 request.2
        ((channel.toUInt16 <<< 1) + 2402)
      refine Prog.Uniform.bind (K := fun _ h ↦ Prepared b h.device) (uniform_setup hb
        (.setupSetTransmitPower request.1 request.2 channel) rfl
        (txPowerAnswer b request.1 level ((channel.toUInt16 <<< 1) + 2402)) fun s _ ↦
          ⟨{ s with txpower := level }, ?_⟩) fun _ ↦ Prog.uniform_pure fun _ hh ↦ ⟨hh, fun _ ↦ hc⟩
      rw [api, dtmSetupSetTransmitPower, radioFrequencyGet_ok hc, ok_bind, hlevel]
      rfl

/-- A Transmitter Test on a legal channel starts on every prepared device, without a gain to be
refused. -/
theorem testTransmit_uniform (hfem : b.fem = false) {channel : UInt8} (length : UInt8)
    {pkt : DtmPacket} (hv : ∀ radioMode, resolvePacket radioMode pkt ≠ .vendor) :
    UniformOn b q (fun s ↦ Prepared b s ∧ (Ret.ok = .ok → channel.toNat ≤ physChMax))
      (fun r s ↦ r ≠ .ok → s.state = .idle) (Transport.testTransmit channel length pkt) := by
  refine uniform_call (.testTransmit channel length pkt) Ret.ok fun s hs ↦ ?_
  obtain ⟨pdu, radio, anomalyTimer, timer, -, htransmit⟩ := dtmTestTransmit_modulated channel length
    hs.1.idle (hv s.radioMode) (hs.2 rfl) (by rw [femGainRefused, hfem]; rfl)
  exact ⟨_, htransmit, fun hne ↦ absurd rfl hne⟩

/-- **The status of a Transmitter Test** does not depend on the state, either. -/
theorem txTestStatus_uniform (hb : b.PowerTable) (hfem : b.fem = false)
    (hauto : b.powerControlAutomatic = false) (p : TxParams) :
    UniformOn b q (Device.OnTable b) IdleUnlessSuccess (txTestStatus p) := by
  refine Prog.Uniform.bind (prepare_uniform b q) fun _ ↦ ?_
  rcases hpayload : hciToDtmPayload p.payload with e | pld
  · exact uniform_status _
  · have hpacket (radioMode : RadioMode) : resolvePacket radioMode pld ≠ .vendor := by
      obtain ⟨type, htype, -⟩ := hciToDtmPayload_ok hpayload
      obtain ⟨hresolve, hvendor⟩ := resolvePacket_of_pduType htype radioMode
      rwa [hresolve]
    refine uniform_setting (phySet_uniform hb hauto p.phy) refusing_unsupportedOn ?_
    split
    · exact uniform_status _
    · refine uniform_setting (cteSet_uniform hb _ _ _ _) refusing_settingStatus ?_
      refine uniform_attempt (txPowerSet_uniform hb p.power p.chan) refusing_unsupportedOn
        (fun _ _ hs ↦ hs.1.idle) ?_
      exact uniform_start (testTransmit_uniform hfem p.dataLen hpacket)

/-! ### The settings of a test -/

/-- The devices have the same constant tone extension. Where it is off, what is left of an earlier
one does not count. -/
structure SameExtension (b : Build) (s t : Device) : Prop where
  mode : s.cteInfo.mode = t.cteInfo.mode
  time : s.cteInfo.mode ≠ .off → s.cteInfo.time = t.cteInfo.time
  info : s.cteInfo.mode ≠ .off → s.cteInfo.info = t.cteInfo.info
  patternLen : s.cteInfo.mode ≠ .off → s.cteInfo.antennaPatternLen = t.cteInfo.antennaPatternLen
  pattern : s.cteInfo.mode ≠ .off → ∀ i < s.cteInfo.antennaPatternLen.toNat,
    s.antennaPatternAt b i = t.antennaPatternAt b i

/-- The devices are in the same test. -/
structure SameSetup (b : Build) (s t : Device) : Prop where
  state : s.state = t.state
  physCh : s.physCh = t.physCh
  radioMode : s.radioMode = t.radioMode
  packetHdrPlen : s.packetHdrPlen = t.packetHdrPlen
  cte : SameExtension b s t

/-- The devices receive alike. -/
structure SameReception (b : Build) (s t : Device) : Prop extends SameSetup b s t where
  receiving : s.state = .receiverTest
  slot : s.cteInfo.mode ≠ .off → s.cteInfo.slot = t.cteInfo.slot

/-- The devices transmit alike, at the same level and with the same octets on the air. -/
structure SameTransmission (b : Build) (s t : Device) : Prop extends SameSetup b s t where
  transmitting : s.state = .transmitterTest
  txpower : s.txpower = t.txpower
  packetLen : s.packetLen = t.packetLen
  sent : ∃ pdu pdu', s.radio.packetPtr.map s.pdu = some pdu ∧
    t.radio.packetPtr.map t.pdu = some pdu' ∧
    ∀ i : Fin 258, (i : ℕ) < headerLen s.cteInfo.mode + s.packetLen.toNat → pdu i = pdu' i

/-- The start of a test keeps the settings. -/
theorem SameExtension.congr {s t s' t' : Device} (h : SameExtension b s t) (hs : KeepsSettings s s')
    (ht : KeepsSettings t t') : SameExtension b s' t' := by
  have hpattern {u u' : Device} (hu : KeepsSettings u u') (i : ℕ) :
      u'.antennaPatternAt b i = u.antennaPatternAt b i := by
    rw [Device.antennaPatternAt, Device.antennaPatternAt, hu.cteInfo, hu.patterns]
  constructor
  · rw [hs.cteInfo, ht.cteInfo]
    exact h.mode
  · rw [hs.cteInfo, ht.cteInfo]
    exact h.time
  · rw [hs.cteInfo, ht.cteInfo]
    exact h.info
  · rw [hs.cteInfo, ht.cteInfo]
    exact h.patternLen
  · intro hon i hi
    rw [hs.cteInfo] at hon hi
    rw [hpattern hs, hpattern ht]
    exact h.pattern hon i hi

/-- **The extension of a command** is set from its parameters alone. -/
theorem Hci.CteSet.sameExtension {cteLen cteType patternLen : UInt8} {pattern : ℕ → UInt8}
    {s₁ s₂ t₁ t₂ : Device} (hs : CteSet b cteLen cteType patternLen pattern s₁ s₂)
    (ht : CteSet b cteLen cteType patternLen pattern t₁ t₂)
    (hsoff : b.directionFinding = false → s₁.cteInfo.mode = .off)
    (htoff : b.directionFinding = false → t₁.cteInfo.mode = .off) : SameExtension b s₂ t₂ := by
  by_cases hnone : cteLen = 0
  · have hoff {u₁ u₂ : Device} (hu : CteSet b cteLen cteType patternLen pattern u₁ u₂)
        (huoff : b.directionFinding = false → u₁.cteInfo.mode = .off) : u₂.cteInfo.mode = .off := by
      rw [hu.off hnone]
      cases hdf : b.directionFinding with
      | true => rfl
      | false => exact huoff hdf
    have hs₂ := hoff hs hsoff
    exact ⟨hs₂.trans (hoff ht htoff).symm, fun hon ↦ absurd hs₂ hon, fun hon ↦ absurd hs₂ hon,
      fun hon ↦ absurd hs₂ hon, fun hon ↦ absurd hs₂ hon⟩
  · obtain ⟨type, htype, -, hmode, htime, hinfo, hptr, hlen, hslice⟩ := hs.on hnone
    obtain ⟨type', htype', -, hmode', htime', hinfo', hptr', hlen', hslice'⟩ := ht.on hnone
    cases htype.symm.trans htype'
    refine ⟨hmode.trans hmode'.symm, fun _ ↦ htime.trans htime'.symm,
      fun _ ↦ hinfo.trans hinfo'.symm, fun _ ↦ hlen.trans hlen'.symm, fun _ i hi ↦ ?_⟩
    rw [hlen] at hi
    simp only [Device.antennaPatternAt, hptr, hptr']
    split
    · exact Buffer.eq_of_slice hslice hslice' (Nat.zero_le _) (by simpa using hi)
    · rfl

/-- A PHY that was set, with its preamble. -/
theorem phy_same {phy : DtmPhy} {s s₁ t t₁ : Device}
    (hs : dtmSetupSetPhy b phy s = .ok (.ok, s₁)) (ht : dtmSetupSetPhy b phy t = .ok (.ok, t₁)) :
    s₁.radioMode = t₁.radioMode ∧ s₁.packetHdrPlen = t₁.packetHdrPlen := by
  rcases dtmSetupSetPhy_pair hs with ⟨-, hmode, hplen⟩ | ⟨-, hx⟩
  · rcases dtmSetupSetPhy_pair ht with ⟨-, hmode', hplen'⟩ | ⟨-, hx⟩
    · exact ⟨hmode.trans hmode'.symm, hplen.trans hplen'.symm⟩
    · cases hx
  · cases hx

/-- The settings of a command after its PHY and its extension. -/
theorem settings_same {phy : DtmPhy} {cteLen cteType patternLen : UInt8} {pattern : ℕ → UInt8}
    {s s₁ s₂ t t₁ t₂ : Device} (hs : s.Inv b) (ht : t.Inv b)
    (hset : dtmSetupSetPhy b phy (dtmSetupPrepare b s) = .ok (.ok, s₁))
    (hset' : dtmSetupSetPhy b phy (dtmSetupPrepare b t) = .ok (.ok, t₁))
    (hcte : CteSet b cteLen cteType patternLen pattern s₁ s₂)
    (hcte' : CteSet b cteLen cteType patternLen pattern t₁ t₂) :
    s₂.radioMode = t₂.radioMode ∧ s₂.packetHdrPlen = t₂.packetHdrPlen ∧ SameExtension b s₂ t₂ := by
  obtain ⟨hmode, hplen⟩ := phy_same hset hset'
  refine ⟨?_, ?_, hcte.sameExtension hcte' (fun hdf ↦ ?_) fun hdf ↦ ?_⟩
  · rw [hcte.keeps, hcte'.keeps]
    exact hmode
  · rw [hcte.keeps, hcte'.keeps]
    exact hplen
  · rw [dtmSetupSetPhy_cteInfo hset]
    exact hs.cteOff hdf
  · rw [dtmSetupSetPhy_cteInfo hset']
    exact ht.cteOff hdf

/-- Nothing but the machine state, the channel and the buffers is left to the start of the test. -/
theorem sameSetup_of_start {s₃ t₃ s' t' : Device} (hstate : s'.state = t'.state)
    (hchannel : s'.physCh = t'.physCh) (hkeeps : KeepsSettings s₃ s')
    (hkeeps' : KeepsSettings t₃ t') (hmode : s₃.radioMode = t₃.radioMode)
    (hplen : s₃.packetHdrPlen = t₃.packetHdrPlen)
    (hext : SameExtension b s₃ t₃) : SameSetup b s' t' where
  state := hstate
  physCh := hchannel
  radioMode := hkeeps.radioMode.trans (hmode.trans hkeeps'.radioMode.symm)
  packetHdrPlen := hkeeps.packetHdrPlen.trans (hplen.trans hkeeps'.packetHdrPlen.symm)
  cte := hext.congr hkeeps hkeeps'

/-- **Two receptions of one command.** -/
theorem rxLinks_same {p : RxParams} {s t s' t' : Device} (hs : s.Inv b) (ht : t.Inv b)
    (h : RxLinks b p s s') (h' : RxLinks b p t t') : SameReception b s' t' := by
  obtain @⟨phy, s₁, s₂, s₃, hphy, hset, -, -, hcte, hslot, hreceive⟩ := h
  obtain @⟨phy', t₁, t₂, t₃, hphy', hset', -, -, hcte', hslot', hreceive'⟩ := h'
  cases hphy.symm.trans hphy'
  obtain ⟨hmode, hplen, hext⟩ := settings_same hs ht hset hset' hcte hcte'
  obtain ⟨hstate, hchannel, hkeeps⟩ := dtmTestReceive_started hreceive
  obtain ⟨hstate', hchannel', hkeeps'⟩ := dtmTestReceive_started hreceive'
  have hstart (hmode : s₃.radioMode = t₃.radioMode) (hplen : s₃.packetHdrPlen = t₃.packetHdrPlen)
      (hext : SameExtension b s₃ t₃) : SameSetup b s' t' :=
    sameSetup_of_start (hstate.trans hstate'.symm) (hchannel.trans hchannel'.symm) hkeeps hkeeps'
      hmode hplen hext
  rcases hslot with ⟨hnone, rfl⟩ | ⟨hon, slot, hcode, rfl⟩
  · rcases hslot' with ⟨-, rfl⟩ | ⟨hon', -⟩
    · have hoff : s'.cteInfo.mode = .off := by
        rw [hkeeps.cteInfo]
        exact (cteSet_mode_eq_off hs hset hcte).2 hnone
      exact ⟨hstart hmode hplen hext, hstate, fun hon ↦ absurd hoff hon⟩
    · exact absurd hnone hon'
  · rcases hslot' with ⟨hnone', -⟩ | ⟨-, slot', hcode', rfl⟩
    · exact absurd hnone' hon
    · refine ⟨hstart hmode hplen ⟨hext.mode, hext.time, hext.info, hext.patternLen, hext.pattern⟩,
        hstate, fun _ ↦ ?_⟩
      rw [hkeeps.cteInfo, hkeeps'.cteInfo]
      -- the octet of the command names the slot
      rcases hcode with ⟨h0, rfl⟩ | ⟨h1, rfl⟩ <;> rcases hcode' with ⟨h0', rfl⟩ | ⟨h1', rfl⟩
      · rfl
      · cases h0.symm.trans h1'
      · cases h1.symm.trans h0'
      · rfl

/-! ### The PDU -/

/-- The octets of a PDU with and without an extension, one by one. -/
theorem pduCte_same {cte cte' : DtmCteInfo} {len : ℕ} {pdu pdu' : DtmPdu} {l : List UInt8}
    (hmode : cte.mode = cte'.mode) (hinfo : cte.mode ≠ .off → cte.info = cte'.info)
    (htype : pdu 0 = pdu' 0) (hlength : pdu 1 = pdu' 1)
    (hslice : pdu.slice (headerLen cte.mode) len = some l)
    (hslice' : pdu'.slice (headerLen cte.mode) len = some l) {i : Fin 258}
    (hi : (i : ℕ) < headerLen cte.mode + len) : pduCte cte pdu i = pduCte cte' pdu' i := by
  -- an octet is in the header or in the payload; the CTEInfo octet comes from the settings
  have hpdu (h2 : cte.mode ≠ .off → (i : ℕ) ≠ 2) : pdu i = pdu' i := by
    rcases Nat.lt_or_ge i (headerLen cte.mode) with hheader | hpayload
    · have hi : (i : ℕ) = 0 ∨ (i : ℕ) = 1 := by
        rw [headerLen] at hheader
        split at hheader
        · have hne := h2 ‹_›
          omega
        · omega
      rcases hi with hi | hi
      · rw [show i = 0 from Fin.ext hi]
        exact htype
      · rw [show i = 1 from Fin.ext hi]
        exact hlength
    · exact Buffer.eq_of_slice hslice hslice' hpayload hi
  rw [pduCte, pduCte, ← hmode]
  by_cases hoff : cte.mode = .off
  · rw [if_neg (not_not.2 hoff), if_neg (not_not.2 hoff)]
    exact hpdu fun hon ↦ absurd hoff hon
  · rw [if_pos hoff, if_pos hoff, htype, hinfo hoff]
    simp only [DtmPdu.set]
    by_cases h2 : i = 2
    · rw [h2, Function.update_self, Function.update_self]
    · rw [Function.update_of_ne h2, Function.update_of_ne h2]
      by_cases h0 : i = 0
      · rw [h0, Function.update_self, Function.update_self]
      · rw [Function.update_of_ne h0, Function.update_of_ne h0]
        exact hpdu fun _ hi ↦ h2 (Fin.ext hi)

/-- The level of a power request is found from the request and the channel. -/
theorem powerSet_same {power : DtmTxPowerRequest} {val : Int8} {channel : UInt8}
    {answer answer' : DtmTxPower} {s s' t t' : Device}
    (h : dtmSetupSetTransmitPower b power val channel s = .ok (answer, s'))
    (h' : dtmSetupSetTransmitPower b power val channel t = .ok (answer', t')) :
    s'.txpower = t'.txpower := by
  obtain ⟨frequency, hfrequency, h⟩ := bind_eq_ok.1 h
  obtain ⟨level, hlevel, h⟩ := bind_eq_ok.1 h
  obtain ⟨frequency', hfrequency', h'⟩ := bind_eq_ok.1 h'
  obtain ⟨level', hlevel', h'⟩ := bind_eq_ok.1 h'
  cases hfrequency.symm.trans hfrequency'
  cases hlevel.symm.trans hlevel'
  cases h
  cases h'
  rfl

/-- An accepted packet goes out at the stored level. -/
theorem dtmTestTransmit_txpower {channel length : UInt8} {pkt : DtmPacket} {s s' : Device}
    (hv : resolvePacket s.radioMode pkt ≠ .vendor)
    (h : dtmTestTransmit b channel length pkt s = .ok (.ok, s')) : s'.txpower = s.txpower := by
  generalize hx : (Ret.ok, s') = x at h
  cases dtmTestTransmit_ok h with
  | busy | channel | refused => cases hx
  | setting hs hv' | carrier hs hv' => exact absurd hv' hv
  | modulated =>
    cases hx
    rfl

/-- **The octets of a packet** come from the payload type, the length and the CTEInfo octet. -/
theorem sent_same {channel length : UInt8} {pkt : DtmPacket} {type : DtmPduType}
    (hpkt : pkt.pduType = some type) {s t s' t' : Device} (hext : SameExtension b s t)
    (h : dtmTestTransmit b channel length pkt s = .ok (.ok, s'))
    (h' : dtmTestTransmit b channel length pkt t = .ok (.ok, t'))
    (hs : s'.state = .transmitterTest) (ht : t'.state = .transmitterTest) {i : Fin 258}
    (hi : (i : ℕ) < headerLen s.cteInfo.mode + length.toNat) : s'.pdu 0 i = t'.pdu 0 i := by
  have hoff : 2 ≤ headerLen s.cteInfo.mode := by
    rw [headerLen]
    split <;> decide
  obtain ⟨pdu, hfill, hpdu⟩ := dtmTestTransmit_started h hs
  obtain ⟨pdu', hfill', hpdu'⟩ := dtmTestTransmit_started h' ht
  rw [(resolvePacket_of_pduType hpkt _).1] at hfill hfill'
  rw [← hext.mode] at hfill'
  obtain ⟨htype, hlength, hslice⟩ := pduFill_holds hpkt hoff hfill
  obtain ⟨htype', hlength', hslice'⟩ := pduFill_holds hpkt hoff hfill'
  rw [hpdu, hpdu']
  refine pduCte_same hext.mode hext.info (htype.trans htype'.symm) ?_ hslice hslice' hi
  exact hlength.trans (Eq.symm hlength')

/-- **Two transmissions of one command.** -/
theorem txLinks_same {p : TxParams} {s t s' t' : Device} (hs : s.Inv b) (ht : t.Inv b)
    (h : TxLinks b p s s') (h' : TxLinks b p t t') : SameTransmission b s' t' := by
  obtain @⟨pld, phy, request, answer, s₁, s₂, s₃, hpayload, hphy, hset, -, hcte, hrequest, hpower,
    htransmit⟩ := h
  obtain @⟨pld', phy', request', answer', t₁, t₂, t₃, hpayload', hphy', hset', -, hcte', hrequest',
    hpower', htransmit'⟩ := h'
  -- what is read from the command alone is the same
  cases hpayload.symm.trans hpayload'
  cases hphy.symm.trans hphy'
  cases hrequest.symm.trans hrequest'
  obtain ⟨hmode, hplen, hext⟩ := settings_same hs ht hset hset' hcte hcte'
  have hlevel : s₃ = { s₂ with txpower := s₃.txpower } := dtmSetupSetTransmitPower_ok hpower
  have hlevel' : t₃ = { t₂ with txpower := t₃.txpower } := dtmSetupSetTransmitPower_ok hpower'
  have htxpower : s₃.txpower = t₃.txpower := powerSet_same hpower hpower'
  obtain ⟨type, htype, -⟩ := hciToDtmPayload_ok hpayload
  have hv (radioMode : RadioMode) : resolvePacket radioMode pld ≠ .vendor := by
    obtain ⟨hresolve, hvendor⟩ := resolvePacket_of_pduType htype radioMode
    rwa [hresolve]
  obtain ⟨hstate, hchannel, -⟩ := dtmTestTransmit_transmitting (hv _) htransmit
  obtain ⟨hstate', hchannel', -⟩ := dtmTestTransmit_transmitting (hv _) htransmit'
  obtain ⟨hlength, hptr, -⟩ := dtmTestTransmit_length (hv _) htransmit
  obtain ⟨hlength', hptr', -⟩ := dtmTestTransmit_length (hv _) htransmit'
  have hkeeps := dtmTestTransmit_keepsSettings htransmit
  have hkeeps' := dtmTestTransmit_keepsSettings htransmit'
  -- the level of the power is no part of the extension
  have hext₃ : SameExtension b s₃ t₃ := by
    rw [hlevel, hlevel']
    exact ⟨hext.mode, hext.time, hext.info, hext.patternLen, hext.pattern⟩
  refine ⟨sameSetup_of_start (hstate.trans hstate'.symm) (hchannel.trans hchannel'.symm) hkeeps
    hkeeps' ?_ ?_ hext₃, hstate, ?_, hlength.trans hlength'.symm, s'.pdu 0, t'.pdu 0, ?_, ?_,
    fun i hi ↦ ?_⟩
  · rw [hlevel, hlevel']
    exact hmode
  · rw [hlevel, hlevel']
    exact hplen
  · rw [dtmTestTransmit_txpower (hv _) htransmit, dtmTestTransmit_txpower (hv _) htransmit',
      htxpower]
  · rw [hptr, Option.map_some]
  · rw [hptr', Option.map_some]
  · refine sent_same htype hext₃ htransmit htransmit' hstate hstate' ?_
    rwa [hkeeps.cteInfo, hlength, UInt8.toNat_toUInt32] at hi

/-! ### Two runs -/

/-- Processing one command from two states: both are stopped by the same assertion, or answered with
the same status. If it is not success both end up idle, and if it is they are in the same test. -/
def SameRuns (b : Build) (q : ℕ) (Same : Device → Device → Prop) (f g : Firmware)
    (buf : ℕ → UInt8) : Prop :=
  (∃ e, f.process b q h4TypeCmd buf = .error e ∧ g.process b q h4TypeCmd buf = .error e) ∨
    ∃ status f' g', f.Replies b q buf status f' ∧ g.Replies b q buf status g' ∧
      (status ≠ errSuccess → f'.device.state = .idle ∧ g'.device.state = .idle) ∧
      (status = errSuccess → Same f'.device g'.device)

/-- **From the chain to the command**: a status and an event on either side, with what the
successful runs share. -/
theorem sameRuns_of_uniform {f g : Firmware} {buf : ℕ → UInt8} {p : Prog transport UInt8}
    {Same : Device → Device → Prop} (hf : f.device.OnTable b) (hg : g.device.OnTable b)
    (hp : p.Issues Silent)
    (hprocess : dtmTrProcess h4TypeCmd buf = p >>= fun status ↦ baseCcEvt (cmdOpcode buf) status)
    (huniform : UniformOn b q (Device.OnTable b) IdleUnlessSuccess p)
    (hsame : ∀ t u, p.run (hostHandler b q) f.host = .ok (errSuccess, t) →
      p.run (hostHandler b q) g.host = .ok (errSuccess, u) → Same t.device u.device) :
    SameRuns b q Same f g buf := by
  rcases Prog.Uniform.pair (s := f.host) (t := g.host) huniform hf hg with
    ⟨e, hrun, hrun'⟩ | ⟨status, t, u, hrun, hrun', hidle, hidle'⟩
  · exact .inl ⟨e, Firmware.process_error hprocess hrun, Firmware.process_error hprocess hrun'⟩
  · obtain ⟨f', hreplies, hdevice⟩ := Firmware.replies hp hprocess hrun
    obtain ⟨g', hreplies', hdevice'⟩ := Firmware.replies hp hprocess hrun'
    refine .inr ⟨status, f', g', hreplies, hreplies', fun hne ↦ ?_, fun hsuccess ↦ ?_⟩
    · rw [hdevice, hdevice']
      exact ⟨hidle hne, hidle' hne⟩
    · rw [hdevice, hdevice']
      exact hsame t u (hsuccess ▸ hrun) (hsuccess ▸ hrun')

/-- **A test does not depend on what was tested before.** Without a front-end module, a test command
of any version has the same outcome in any two reachable states. -/
theorem tests_reproducible (hb : b.PowerTable) (hfem : b.fem = false) {f g : Firmware}
    (hf : f.Reachable b q) (hg : g.Reachable b q) (buf : ℕ → UInt8) :
    (∀ op ∈ [HciOp.leRxTest, .leEnhRxTest, .leRxTestV3], cmdOpcode buf = op.code →
      SameRuns b q (SameReception b) f g buf) ∧
    (∀ op ∈ [HciOp.leTxTest, .leEnhTxTest, .leTxTestV3, .leTxTestV4], cmdOpcode buf = op.code →
      SameRuns b q (SameTransmission b) f g buf) := by
  have hauto : b.powerControlAutomatic = false := by
    by_contra hauto
    cases hfem.symm.trans (b.automatic_fem (Bool.eq_true_of_not_eq_false hauto))
  constructor
  · intro op hmem hop
    obtain ⟨p, hp⟩ : ∃ p, rxParams op (fun i ↦ buf (3 + i)) = some p := by
      simp only [List.mem_cons, List.not_mem_nil, or_false] at hmem
      rcases hmem with rfl | rfl | rfl <;> exact ⟨_, rfl⟩
    refine sameRuns_of_uniform (hf.onTable hb) (hg.onTable hb) (rxTestStatus_silent p)
      (dtmTrProcess_rx hop hp) (rxTestStatus_uniform hb hauto p) fun t u hrun hrun' ↦ ?_
    exact rxLinks_same hf.inv hg.inv (rxTestStatus_ok hrun) (rxTestStatus_ok hrun')
  · intro op hmem hop
    obtain ⟨p, hp⟩ : ∃ p, txParams op (fun i ↦ buf (3 + i)) = some p := by
      simp only [List.mem_cons, List.not_mem_nil, or_false] at hmem
      rcases hmem with rfl | rfl | rfl | rfl <;> exact ⟨_, rfl⟩
    refine sameRuns_of_uniform (hf.onTable hb) (hg.onTable hb) (txTestStatus_silent p)
      (dtmTrProcess_tx hop hp) (txTestStatus_uniform hb hfem hauto p) fun t u hrun hrun' ↦ ?_
    exact txLinks_same hf.inv hg.inv (txTestStatus_ok hrun) (txTestStatus_ok hrun')

/-- A Receiver Test on the uncoded PHY, after the initialisation and after a test on the coded PHY
with an extension. -/
theorem tests_reproducible_coded :
    ∃ g, (Firmware.ofDevice .nrf5340).step (.nrf5340 true false) 1024
        (.hci h4TypeCmd (rxTestV3.getD · 0)) = .ok g ∧
      g.device.radioMode = .bleLr125Kbit ∧ g.device.cteInfo.mode = .aoa ∧
      SameRuns (.nrf5340 true false) 1024 (SameReception (.nrf5340 true false))
        (.ofDevice .nrf5340) g (rxTestV1.getD · 0) := by
  have hf : (Firmware.ofDevice .nrf5340).Reachable (.nrf5340 true false) 1024 :=
    Firmware.ofDevice_reachable (Device.nrf5340_initialised true false)
  obtain ⟨g, hg, hmode, hcte⟩ : ∃ g, (Firmware.ofDevice .nrf5340).step (.nrf5340 true false) 1024
      (.hci h4TypeCmd (rxTestV3.getD · 0)) = .ok g ∧ g.device.radioMode = .bleLr125Kbit ∧
      g.device.cteInfo.mode = .aoa := ⟨_, rfl, rfl, rfl⟩
  exact ⟨g, hg, hmode, hcte, (tests_reproducible (Build.nrf5340_powerTable true false) rfl hf
    (.next hf hg) _).1 .leRxTest (by simp) (by decide)⟩

end DirectTestMode
