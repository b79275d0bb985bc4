import DirectTestMode.Dtm.PacketCount
import DirectTestMode.Dtm.Settings

/-!
# The length of the header

With CTE on, a PDU has a third header octet, and both sides have to know: the software places the
payload behind it, and the radio sends and expects it when the `S1LEN` field of `PCNF0` is 8. The
field is set by `radio_cte_prepare` with an or, and `radio_cte_reset`, which undoes the rest of that
set-up, leaves it alone. Only `radio_init` clears it, since it writes the whole register; a reset
and a change of PHY go through it, and switching CTE off does not.

So `S1LEN` tells whether a test was prepared with CTE since the radio was last initialised.
`cteNote` keeps that note beside a run, `Device.HeaderNoted` is the invariant that ties it to the
register, and `header_agrees_iff` says which tests start with a header that is too long.

## A note and not a register

The condition could be put on the register, and would then say the claim again in other words. The
note is a function of the inputs and of what they meet: `Input.initialisesRadio` and
`Input.preparesRadio` say which calls go through the two functions, with the refusals that keep them
from it. That the note is the register is a theorem (`HeaderNoted.step`), proved over every call and
interrupt.

* Of the calls only a reset and a change of PHY write the register as a whole (`radioInit_header`),
  and only the start of a test widens it (`radioPrepare_packetConf`).
* A test whose gain is refused has been prepared, and so has a carrier test: both leave the field
  set without sending a packet.
* The interrupts leave the register alone (`radioIrq_packetConf`).

For a test that starts, agreement is then a matter of two bits, CTE and the note
(`PacketConf.Header.started_iff`), and fails in one of the four cases: CTE off with the note set.
-/

namespace DirectTestMode

open Fallible

variable {b : Build}

/-! ### What the radio takes for the header -/

/-- The header on air, in bits. -/
def PacketConf.headerBits (c : PacketConf) : ℕ := 8 * c.s0len.toNat + c.lflen.toNat + c.s1len.toNat

/-- The radio and the software agree on the header: `S1LEN` follows the CTE mode, and the payload on
air begins where the software puts it. -/
def Device.HeaderAgrees (s : Device) : Prop :=
  s.radio.packetConf.s1len = (if s.cteInfo.mode = .off then 0 else 8) ∧
    s.radio.packetConf.headerBits = 8 * headerLen s.cteInfo.mode

/-- The packet configuration after `radio_init`, and after tests with CTE when `widened`. -/
structure PacketConf.Header (widened : Bool) (c : PacketConf) : Prop where
  s0len : c.s0len = 1
  lflen : c.lflen = 8
  s1len : c.s1len = if widened then 8 else 0

/-- Both sides agree on the header if CTE is on and the register is widened, or neither is so. -/
theorem PacketConf.Header.agrees_iff {widened : Bool} {s : Device}
    (h : s.radio.packetConf.Header widened) :
    s.HeaderAgrees ↔ (s.cteInfo.mode = .off ↔ widened = false) := by
  rw [Device.HeaderAgrees, headerBits, headerLen, h.s0len, h.lflen, h.s1len]
  cases widened <;> by_cases hmode : s.cteInfo.mode = .off <;> simp [hmode]

/-! ### Who writes the packet configuration -/

/-- **`radio_init` writes it**, unless it refuses the power or the mode. -/
theorem radioInit_header {s : Device} {x : Ret × Device} (h : radioInit b s = .ok x) :
    if dtmHwRadioValidate b s.txpower s.radioMode || b.powerControlAutomatic then
      x.2.radio.packetConf.Header false
    else x.2.radio.packetConf = s.radio.packetConf := by
  rw [radioInit] at h
  split at h
  · rename_i hv
    simp only [Bool.and_eq_true, Bool.not_eq_true'] at hv
    cases h
    rw [hv.1, hv.2]
    rfl
  · rename_i hv
    obtain ⟨radio, -, h⟩ := bind_eq_ok.1 h
    cases h
    rw [if_pos]
    · exact ⟨rfl, rfl, rfl⟩
    · by_contra hn
      simp only [Bool.or_eq_true, not_or, Bool.not_eq_true] at hn
      exact hv (by rw [hn.1, hn.2]; rfl)

/-- **`radio_cte_prepare` widens it**, and nothing else that prepares a test writes it. -/
theorem radioPrepare_packetConf (hdf : b.directionFinding = true) {rx : Bool} {s s' : Device}
    (h : radioPrepare b rx s = .ok s') :
    s'.radio.packetConf =
      if s.cteInfo.mode = .off then s.radio.packetConf
      else { s.radio.packetConf with s1len := s.radio.packetConf.s1len ||| 8 } := by
  rw [radioPrepare_radio h, if_pos hdf]
  by_cases hmode : s.cteInfo.mode = .off
  · rw [if_neg (not_not.2 hmode), if_pos hmode]
    rfl
  · rw [if_pos hmode, if_neg hmode, radioCtePrepare]
    split_ifs <;> rfl

/-- What preparing a test does to the note: CTE sets it, and nothing in a preparation clears it. -/
theorem PacketConf.Header.prepare {widened : Bool} {c : PacketConf} (h : c.Header widened)
    (mode : DtmCteMode) :
    (if mode = .off then c else { c with s1len := c.s1len ||| 8 }).Header
      (mode != .off || widened) := by
  by_cases hmode : mode = .off
  · rw [if_pos hmode, hmode]
    simpa using h
  · rw [if_neg hmode]
    refine ⟨h.s0len, h.lflen, ?_⟩
    simp only [h.s1len]
    cases widened <;> simp [hmode]

/-- The errata are handled in other registers. -/
theorem errataHandle_packetConf (b : Build) (e191 e172 e117 : Bool) (s : Device) :
    (errataHandle b e191 e172 e117 s).radio.packetConf = s.radio.packetConf := by
  rw [errataHandle_eq]

/-! ### The note -/

/-- The call goes through `radio_init`, which takes the PHY. -/
def Input.initialisesRadio (b : Build) (s : Device) : Input → Bool
  | .call .setupReset => dtmPhyAccepted b s.txpower .phy1m
  | .call (.setupSetPhy phy) => dtmPhyAccepted b s.txpower phy
  | _ => false

/-- The call goes through `radio_prepare`. A test whose gain is refused does as well, and so does a
carrier test. -/
def Input.preparesRadio (s : Device) : Input → Bool
  | .call (.testReceive channel) => decide (channel.toNat ≤ physChMax)
  | .call (.testTransmit channel length pkt) =>
    s.state == .idle && if resolvePacket s.radioMode pkt = .vendor then carrierLength length
      else decide (channel.toNat ≤ physChMax)
  | _ => false

/-- The note `widened`: the radio was prepared with CTE since it was last initialised. -/
def cteNote (b : Build) (s : Device) (i : Input) (widened : Bool) : Bool :=
  if i.initialisesRadio b s then false
  else (i.preparesRadio s && s.cteInfo.mode != .off) || widened

/-- **The note says what is in the register.** -/
structure HeaderNoted (t : Device × Bool) : Prop where
  timerInit : t.1.timerInit = true
  header : t.1.radio.packetConf.Header t.2

/-- The shape of `dtm_setup_reset` and `dtm_setup_set_phy`. -/
theorem setupInit_header (phy : DtmPhy) {e191 e172 e117 : Bool} {s t : Device} {x : Ret × Device}
    {widened : Bool} (hs : s.radio.packetConf.Header widened)
    (h : radioInit b (errataHandle b e191 e172 e117 t) = .ok x) (hphy : phy.supported b = true)
    (hpower : t.txpower = s.txpower) (hmode : t.radioMode = phy.radioMode)
    (hconf : t.radio.packetConf = s.radio.packetConf) :
    x.2.radio.packetConf.Header
      (if dtmPhyAccepted b s.txpower phy then false else widened) := by
  have hinit := radioInit_header h
  have htxpower : (errataHandle b e191 e172 e117 t).txpower = s.txpower := by
    rw [errataHandle_eq]
    exact hpower
  rw [htxpower, errataHandle_radioMode, hmode, errataHandle_packetConf, hconf] at hinit
  rw [dtmPhyAccepted, hphy, Bool.true_and]
  split at hinit
  · rw [if_pos ‹_›]
    exact hinit
  · rw [if_neg ‹_›, hinit]
    exact hs

theorem dtmSetupReset_header {s : Device} {x : Ret × Device} {widened : Bool}
    (hs : s.radio.packetConf.Header widened) (h : dtmSetupReset b s = .ok x) :
    x.2.radio.packetConf.Header (cteNote b s (.call .setupReset) widened) :=
  setupInit_header .phy1m hs h rfl rfl rfl rfl

/-- A PHY that the radio takes clears the note, and one that it refuses leaves it. -/
theorem dtmSetupSetPhy_header {phy : DtmPhy} {s : Device} {x : Ret × Device} {widened : Bool}
    (hs : s.radio.packetConf.Header widened) (h : dtmSetupSetPhy b phy s = .ok x) :
    x.2.radio.packetConf.Header (cteNote b s (.call (.setupSetPhy phy)) widened) := by
  cases phy with
  | phy1m => exact setupInit_header .phy1m hs h rfl rfl rfl rfl
  | phy2m => exact setupInit_header .phy2m hs h rfl rfl rfl rfl
  | codedS8 | codedS2 =>
    simp only [dtmSetupSetPhy] at h
    split at h
    · exact setupInit_header _ hs h ‹_› rfl rfl rfl
    · rename_i hcoded
      cases h
      rw [cteNote, Input.initialisesRadio, dtmPhyAccepted, DtmPhy.supported,
        Bool.eq_false_iff.2 hcoded]
      exact hs

/-- The preparation of a test sets the note if CTE is on. -/
theorem radioPrepare_header (hdf : b.directionFinding = true) {rx widened : Bool} {s s' : Device}
    (hs : s.radio.packetConf.Header widened) (h : radioPrepare b rx s = .ok s') :
    s'.radio.packetConf.Header (s.cteInfo.mode != .off || widened) := by
  rw [radioPrepare_packetConf hdf h]
  exact hs.prepare s.cteInfo.mode

theorem dtmTestReceive_header (hdf : b.directionFinding = true) {channel : UInt8} {s : Device}
    {x : Ret × Device} {widened : Bool} (hs : s.radio.packetConf.Header widened)
    (h : dtmTestReceive b channel s = .ok x) :
    x.2.radio.packetConf.Header
      (cteNote b s (.call (.testReceive channel)) widened) := by
  show x.2.radio.packetConf.Header
    (decide (channel.toNat ≤ physChMax) && s.cteInfo.mode != .off || widened)
  rw [dtmTestReceive] at h
  split at h
  · rename_i hc
    cases h
    rw [decide_eq_false (Nat.not_le.2 hc)]
    exact hs
  · rename_i hc
    obtain ⟨t, ht, h⟩ := bind_eq_ok.1 h
    have ht := radioPrepare_header hdf (s := receiveAssign channel s) hs ht
    cases h
    rw [decide_eq_true (Nat.not_lt.1 hc), Bool.true_and]
    exact ht

theorem dtmTestTransmit_header (hdf : b.directionFinding = true) {channel length : UInt8}
    {pkt : DtmPacket} {s : Device} {x : Ret × Device} {widened : Bool}
    (hs : s.radio.packetConf.Header widened) (h : dtmTestTransmit b channel length pkt s = .ok x) :
    x.2.radio.packetConf.Header
      (cteNote b s (.call (.testTransmit channel length pkt)) widened) := by
  show x.2.radio.packetConf.Header
    (transmitPrepares channel length pkt s && s.cteInfo.mode != .off || widened)
  rcases dtmTestTransmit_prepared h with ⟨hprepares, pdu, t, ht, hstarted⟩ | ⟨hprepares, hradio, -⟩
  · rw [hprepares, Bool.true_and, hstarted.radio]
    exact radioPrepare_header hdf
      (s := { transmitState channel length pkt s with pdu := pdu }) hs ht
  · rw [hprepares, hradio]
    exact hs

/-! ### The interrupts -/

theorem receivedPdu_packetConf {ev : RadioEvent} {received : Fin 2} {s s' : Device}
    (h : receivedPdu b ev received s = .ok s') : s'.radio.packetConf = s.radio.packetConf := by
  rw [receivedPdu_ok h]
  show (radioStart b true false (radioBufferSwap received s).radio).packetConf = _
  rw [radioStart_eq]
  rfl

theorem onRadioEndEvent_packetConf {ev : RadioEvent} {s s' : Device}
    (h : onRadioEndEvent b ev s = .ok s') : s'.radio.packetConf = s.radio.packetConf := by
  rw [onRadioEndEvent] at h
  split at h
  · cases h
    rfl
  · split at h
    · cases h
    · exact receivedPdu_packetConf h

/-- An interrupt of the radio writes its trigger and its packet pointer. -/
theorem radioIrq_packetConf {ev : RadioEvent} {s s' : Device} (h : radioIrq b ev s = .ok s') :
    s'.radio.packetConf = s.radio.packetConf := by
  have htimer (enabled : Bool) (s : Device) :
      (anomalyTimerSet b enabled s).radio.packetConf = s.radio.packetConf := by
    rw [anomalyTimerSet_eq]
  refine radioIrq_rule (R := fun s s' ↦ s'.radio.packetConf = s.radio.packetConf) (fun _ ↦ rfl)
    (fun h h' ↦ h'.trans h) (fun s ↦ ?_) htimer onRadioEndEvent_packetConf h
  rw [(radioDma_pointers b ev s).2.1]

theorem anomalyTimerHandler_radio (ev : AnomalyEvent) (s : Device) :
    (anomalyTimerHandler ev s).radio = s.radio := by
  rw [anomalyTimerHandler]
  simp only
  split_ifs <;> rfl

/-! ### Runs -/

/-- **Every input keeps the note true.** -/
theorem HeaderNoted.step (hdf : b.directionFinding = true) {t t' : Device × Bool} {i : Input}
    (ht : HeaderNoted t) (h : noteStep (Device.step b) (cteNote b) t i = .ok t') :
    HeaderNoted t' := by
  obtain ⟨s, widened⟩ := t
  obtain ⟨s', hs', h⟩ := bind_eq_ok.1 h
  cases h
  refine ⟨Device.step_timerInit ht.timerInit hs', ?_⟩
  have hs : s.radio.packetConf.Header widened := ht.header
  -- the inputs that go through neither `radio_init` nor `radio_prepare` keep the note
  cases i with
  | call c =>
    obtain ⟨x, hx, hs'⟩ := bind_eq_ok.1 hs'
    cases hs'
    cases c with
    | init env callback =>
      obtain ⟨e, he⟩ := dtmInit_again b env callback ht.timerInit
      cases he.symm.trans hx
      exact hs
    | setupPrepare =>
      cases hx
      exact hs
    | setupReset => exact dtmSetupReset_header hs hx
    | setupSetPhy phy => exact dtmSetupSetPhy_header hs hx
    | setupSetModulation | setupReadFeatures | setupReadMaxSupportedValue | setupSetCteMode
    | setupSetCteSlot | setupSetAntennaParams | setupSetTransmitPower =>
      rw [api_setting rfl rfl hx]
      exact hs
    | testReceive channel => exact dtmTestReceive_header hdf hs hx
    | testTransmit channel length pkt => exact dtmTestTransmit_header hdf hs hx
    | testEnd packCnt =>
      cases hx
      cases packCnt <;> exact hs
  | radio ev =>
    rw [radioIrq_packetConf hs']
    exact hs
  | anomaly ev =>
    cases hs'
    split
    · rw [anomalyTimerHandler_radio]
      exact hs
    · exact hs

/-- The initialisation of the library initialises the radio. -/
theorem dtmInit_headerNoted {env : InitEnv} {callback : Option CodePtr} {s₀ s : Device}
    (h : dtmInit b env callback s₀ = .ok (.ok, s)) : HeaderNoted (s, false) := by
  refine ⟨?_, ?_⟩
  · obtain ⟨radio, rfl⟩ := dtmInit_ok h
    rfl
  · obtain ⟨⟨err, t⟩, ht, h⟩ := bind_eq_ok.1 (dtmInit_ok_radio h)
    cases err with
    | err e => cases h
    | ok =>
      have hheader := radioInit_header ht
      rw [if_pos ((radioInit_ret ht).1 rfl)] at hheader
      cases h
      exact hheader

/-! ### The tests that start -/

/-- A test of packets starts with a header that both sides agree on. A carrier has none. -/
def StartsAgreeing (b : Build) (s : Device) : Input → Prop
  | .call (.testReceive channel) =>
    ∀ s', dtmTestReceive b channel s = .ok (.ok, s') → s'.HeaderAgrees
  | .call (.testTransmit channel length pkt) =>
    ∀ s', dtmTestTransmit b channel length pkt s = .ok (.ok, s') → s'.state = .transmitterTest →
      s'.HeaderAgrees
  | _ => True

/-- A test of packets without CTE starts on a radio that no test was prepared on with CTE since it
was last initialised. -/
def CteUndone (b : Build) (t : Device × Bool) (i : Input) : Prop :=
  i.action b t.1 = .receive ∨ i.action b t.1 = .transmit → t.1.cteInfo.mode = .off → t.2 = false

/-- There is nothing to undo where no test of packets starts. -/
theorem CteUndone.of_action {t : Device × Bool} {i : Input} {a : ControlAction}
    (h : i.action b t.1 = a) (ha : a ≠ .receive ∧ a ≠ .transmit) : CteUndone b t i := by
  rintro (h' | h')
  · exact absurd (h.symm.trans h') ha.1
  · exact absurd (h.symm.trans h') ha.2

/-- The header of a test that has started. -/
theorem PacketConf.Header.started_iff (widened : Bool) {s s' : Device}
    (h : s'.radio.packetConf.Header (s.cteInfo.mode != .off || widened))
    (hcte : s'.cteInfo = s.cteInfo) :
    s'.HeaderAgrees ↔ (s.cteInfo.mode = .off → widened = false) := by
  rw [h.agrees_iff, hcte]
  by_cases hmode : s.cteInfo.mode = .off <;> simp [hmode]

theorem transmitAction_eq_transmit {channel length : UInt8} {pkt : DtmPacket} {s : Device}
    (h : transmitAction b channel length pkt s = .transmit) :
    s.state = .idle ∧ resolvePacket s.radioMode pkt ≠ .vendor ∧ channel.toNat ≤ physChMax ∧
      femGainRefused b s = false := by
  rw [transmitAction] at h
  split_ifs at h with hs hv hl hc
  simp only [Bool.and_eq_true, decide_eq_true_eq, Bool.not_eq_true'] at hc
  exact ⟨not_not.1 hs, hv, hc.1, hc.2⟩

/-- Only a test of packets leaves an idle device transmitting them. -/
theorem dtmTestTransmit_action {channel length : UInt8} {pkt : DtmPacket} {s s' : Device}
    (h : dtmTestTransmit b channel length pkt s = .ok (.ok, s'))
    (hs' : s'.state = .transmitterTest) :
    transmitAction b channel length pkt s = .transmit := by
  cases dtmTestTransmit_ok h with
  | setting hs => cases hs.symm.trans hs'
  | carrier => cases hs'
  | modulated hs hv hc hgain =>
    rw [transmitAction, if_neg (not_not.2 hs), if_neg hv, decide_eq_true hc, hgain]
    rfl

/-- A receiver test starts on a legal channel, and with the header that the radio was left with. -/
theorem HeaderNoted.receive_iff (hdf : b.directionFinding = true) {s : Device} {widened : Bool}
    (ht : HeaderNoted (s, widened)) (channel : UInt8) :
    StartsAgreeing b s (.call (.testReceive channel)) ↔
      CteUndone b (s, widened) (.call (.testReceive channel)) := by
  have haction : (Input.call (.testReceive channel)).action b s =
      if channel.toNat ≤ physChMax then .receive else .keep := rfl
  rcases Nat.lt_or_ge physChMax channel.toNat with hc | hc
  · refine iff_of_true (fun s' h ↦ ?_)
      (.of_action (haction.trans (if_neg (Nat.not_le.2 hc))) (by decide))
    cases (dtmTestReceive_illegal b s hc).symm.trans h
  · obtain ⟨radio, -, heq⟩ := dtmTestReceive_legal b s hc
    have hheader := dtmTestReceive_header hdf ht.header heq
    rw [cteNote, Input.preparesRadio, decide_eq_true hc] at hheader
    have hiff := PacketConf.Header.started_iff widened (s := s) hheader rfl
    refine Iff.trans ⟨fun h ↦ h _ heq, fun h s' hs' ↦ ?_⟩
      (hiff.trans ⟨fun h _ ↦ h, fun h ↦ h (.inl (by rw [haction, if_pos hc]))⟩)
    cases heq.symm.trans hs'
    exact h

/-- So does a transmitter test, from an idle device whose gain is taken. -/
theorem HeaderNoted.transmit_iff (hdf : b.directionFinding = true) {s : Device} {widened : Bool}
    (ht : HeaderNoted (s, widened)) (channel length : UInt8) (pkt : DtmPacket) :
    StartsAgreeing b s (.call (.testTransmit channel length pkt)) ↔
      CteUndone b (s, widened) (.call (.testTransmit channel length pkt)) := by
  by_cases haction : transmitAction b channel length pkt s = .transmit
  · obtain ⟨hidle, hv, hc, hgain⟩ := transmitAction_eq_transmit haction
    obtain ⟨pdu, radio, anomalyTimer, timer, -, heq⟩ :=
      dtmTestTransmit_modulated channel length hidle hv hc hgain
    have hheader := dtmTestTransmit_header hdf ht.header heq
    rw [cteNote, Input.preparesRadio, hidle, if_neg hv, decide_eq_true hc] at hheader
    have hiff := PacketConf.Header.started_iff widened (s := s) hheader rfl
    refine Iff.trans ⟨fun h ↦ h _ heq rfl, fun h s' hs' _ ↦ ?_⟩
      (hiff.trans ⟨fun h _ ↦ h, fun h ↦ h (.inr haction)⟩)
    cases heq.symm.trans hs'
    exact h
  · refine iff_of_true (fun s' h hs' ↦ absurd (dtmTestTransmit_action h hs') haction)
      (.of_action rfl ⟨fun h ↦ ?_, haction⟩)
    rw [Input.action, Call.action, transmitAction] at h
    split_ifs at h

/-- **A test starts with a header that is too long exactly when CTE was used and not undone.** -/
theorem HeaderNoted.agrees_iff (hdf : b.directionFinding = true) {t : Device × Bool}
    (ht : HeaderNoted t) (i : Input) : StartsAgreeing b t.1 i ↔ CteUndone b t i := by
  cases i with
  | call c =>
    cases c with
    | testReceive channel => exact ht.receive_iff hdf channel
    | testTransmit channel length pkt => exact ht.transmit_iff hdf channel length pkt
    -- the others start no test
    | testEnd packCnt =>
      refine iff_of_true trivial ?_
      cases packCnt
      · exact .of_action (a := .keep) rfl (by decide)
      · exact .of_action (a := .done) rfl (by decide)
    | setupPrepare => exact iff_of_true trivial (.of_action (a := .done) rfl (by decide))
    | init | setupReset | setupSetPhy | setupSetModulation | setupReadFeatures
    | setupReadMaxSupportedValue | setupSetCteMode | setupSetCteSlot | setupSetAntennaParams
    | setupSetTransmitPower => exact iff_of_true trivial (.of_action (a := .keep) rfl (by decide))
  | radio ev => exact iff_of_true trivial (.of_action (a := .keep) rfl (by decide))
  | anomaly ev => exact iff_of_true trivial (.of_action (a := .keep) rfl (by decide))

/-- **The radio and the software agree on the header exactly in the runs** that start no test of
packets with CTE off after one with CTE on, unless the radio was initialised in between. -/
theorem header_agrees_iff (hdf : b.directionFinding = true) {env : InitEnv}
    {callback : Option CodePtr} {s₀ s : Device}
    (hinit : dtmInit b env callback s₀ = .ok (.ok, s)) (is : List Input) :
    Guarded (Device.step b) (StartsAgreeing b) s is ↔
      Guarded (noteStep (Device.step b) (cteNote b)) (CteUndone b) (s, false) is := by
  rw [← Guarded.note_iff (cteNote b) false]
  exact Guarded.congr (fun _ _ _ ht _ h ↦ ht.step hdf h) (fun _ i ht ↦ ht.agrees_iff hdf i)
    (dtmInit_headerNoted hinit)

/-- A reception with CTE, and one without. -/
def cteThenPlain : List Input :=
  [.call (.setupSetCteMode .aoa 2), .call (.testReceive 5), .call (.testEnd true),
    .call (.setupSetCteMode .none 0), .call (.testReceive 5)]

/-- The same with a change of PHY before the second reception. -/
def cteThenPhy : List Input :=
  [.call (.setupSetCteMode .aoa 2), .call (.testReceive 5), .call (.testEnd true),
    .call (.setupSetCteMode .none 0), .call (.setupSetPhy .phy2m), .call (.testReceive 5)]

/-- A change of PHY between the two receptions undoes what the first one set. -/
theorem header_agrees_iff_phy :
    ∃ s s', dtmInit (.nrf5340 true false) .ready none .powerOn = .ok (.ok, s) ∧
      run (Device.step (.nrf5340 true false)) s cteThenPhy = .ok s' ∧
      s'.state = .receiverTest ∧ s'.radio.packetConf.s1len = 0 ∧
      Guarded (Device.step (.nrf5340 true false)) (StartsAgreeing (.nrf5340 true false)) s
        cteThenPhy := by
  obtain ⟨s, hs⟩ : ∃ s, dtmInit (.nrf5340 true false) .ready none .powerOn = .ok (.ok, s) :=
    ⟨_, rfl⟩
  have hiff := header_agrees_iff rfl hs cteThenPhy
  cases hs
  refine ⟨_, _, rfl, rfl, rfl, rfl, hiff.2 ?_⟩
  refine ⟨fun _ _ ↦ rfl, fun t₁ h₁ ↦ ?_⟩
  cases h₁
  refine ⟨fun _ _ ↦ rfl, fun t₂ h₂ ↦ ?_⟩
  cases h₂
  -- the note is set here, and no test starts until the change of PHY clears it
  refine ⟨.of_action (a := .done) rfl (by decide), fun t₃ h₃ ↦ ?_⟩
  cases h₃
  refine ⟨.of_action (a := .keep) rfl (by decide), fun t₄ h₄ ↦ ?_⟩
  cases h₄
  refine ⟨.of_action (a := .keep) rfl (by decide), fun t₅ h₅ ↦ ?_⟩
  cases h₅
  exact ⟨fun _ _ ↦ rfl, fun t₆ _ ↦ trivial⟩

/-- **Switching CTE off does not undo it**: the second reception expects a third header octet. -/
theorem header_too_long :
    ∃ s s', dtmInit (.nrf5340 true false) .ready none .powerOn = .ok (.ok, s) ∧
      run (Device.step (.nrf5340 true false)) s cteThenPlain = .ok s' ∧
      s'.state = .receiverTest ∧ s'.cteInfo.mode = .off ∧ s'.radio.packetConf.s1len = 8 ∧
      ¬ Guarded (Device.step (.nrf5340 true false)) (StartsAgreeing (.nrf5340 true false)) s
        cteThenPlain := by
  refine ⟨_, _, rfl, rfl, rfl, rfl, rfl, fun hg ↦ ?_⟩
  have hlast := (((((hg.2 _ rfl).2 _ rfl).2 _ rfl).2 _ rfl).1 _ rfl).1
  cases hlast

end DirectTestMode
