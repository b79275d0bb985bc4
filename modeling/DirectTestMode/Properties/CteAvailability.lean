import DirectTestMode.Properties.TestCommands
import DirectTestMode.Dtm.Power

/-!
# Where a constant tone extension is available

A constant tone extension is defined on the uncoded PHYs, and the test commands refuse it on exactly
those: the test of the PHY in the two handlers is the wrong way round. `CteReply` is what a test
command should answer, and `cte_available_iff` says that it does only where it asks for no
extension.

## How the equivalence comes about

`CteReply` has two clauses, one for each kind of PHY, and a valid command without an extension falls
under the first only: it must succeed. One with an extension falls under the first on an uncoded PHY
and under the second on a coded one, and the handlers get both wrong (`cteDisallowed_eq`): the
command is refused where it should run, and let through where it should be refused. `cteReply_iff`
is this argument once for both handlers. It asks two facts of a chain: that success implies the test
of the PHY was passed, and that nothing but that test answers with Command Disallowed
(`rxTestStatus_returns`, `txTestStatus_returns`).

What a valid command without an extension still needs is worked out in two steps:
`rxTestStatus_plain_iff` and `txTestStatus_plain_iff` run the chain, and `phySettable_iff` and
`powerFound_of_valid` reduce its links on a reachable state to what can really go wrong there.

* The **automatic power control** may be left with an illegal channel (`InitFaults`);
* the **front-end module** may not take the gain that is set (`femGainRefused`), which only a
  transmission asks for.

Both are conditions on the state before the command, and neither mentions the extension.

The validity of a command, `RxValid` and `TxValid`, is that of its parameters' ranges in Bluetooth's
terms and not in those of the handlers' checks.
-/

namespace DirectTestMode

open Fallible Hci

variable {b : Build} {q : ℕ} {f : Firmware} {buf : ℕ → UInt8}

/-! ### Valid commands -/

/-- The PHY of a code is one that the build has. -/
def PhySupported (b : Build) (phy : UInt8) : Prop :=
  ∃ p, phyOf phy = some p ∧ p.supported b = true

/-- The parameters of a Receiver Test are ones that the command defines. -/
structure RxValid (b : Build) (p : RxParams) : Prop where
  chan : p.chan.toNat ≤ 39
  phy : PhySupported b p.phy
  mod : p.mod = 0
  cteLen : p.cteLen = 0 ∨ 2 ≤ p.cteLen.toNat ∧ p.cteLen.toNat ≤ 20
  cteType : p.cteType ≤ 2
  slotDurations : p.slotDurations = 1 ∨ p.slotDurations = 2
  patternLen : 2 ≤ p.patternLen.toNat ∧ p.patternLen.toNat ≤ 75

/-- The parameters of a Transmitter Test are ones that the command defines. -/
structure TxValid (b : Build) (p : TxParams) : Prop where
  chan : p.chan.toNat ≤ 39
  phy : PhySupported b p.phy
  payload : p.payload.toNat ≤ 7
  cteLen : p.cteLen = 0 ∨ 2 ≤ p.cteLen.toNat ∧ p.cteLen.toNat ≤ 20
  cteType : p.cteType ≤ 2
  patternLen : 2 ≤ p.patternLen.toNat ∧ p.patternLen.toNat ≤ 75
  power : (-127 ≤ p.power.toInt ∧ p.power.toInt ≤ 20) ∨ p.power.toInt = 0x7E ∨ p.power.toInt = 0x7F

/-- The answer to a valid test command: success without an extension and on the uncoded PHYs, and a
refusal of an extension on the coded ones. -/
structure CteReply (b : Build) (q : ℕ) (f : Firmware) (buf : ℕ → UInt8) (cteLen phy : UInt8) :
    Prop where
  available : cteLen = 0 ∨ phy = lePhy1M ∨ phy = lePhy2M → Answers b q f buf errSuccess
  disallowed : cteLen ≠ 0 → phy = lePhyCodedS8 ∨ phy = lePhyCodedS2 →
    Answers b q f buf errCmdDisallowed

theorem phySupported_cases {phy : UInt8} (h : PhySupported b phy) :
    (phy = lePhy1M ∨ phy = lePhy2M) ∨ phy = lePhyCodedS8 ∨ phy = lePhyCodedS2 := by
  obtain ⟨p, hp, -⟩ := h
  rw [phyOf] at hp
  split_ifs at hp with h1 h2 h3 h4
  · exact .inl (.inl h1)
  · exact .inl (.inr h2)
  · exact .inr (.inl h3)
  · exact .inr (.inr h4)

/-- The handlers refuse an extension on the uncoded PHYs, and let it through on the coded ones. -/
theorem cteDisallowed_eq {cteLen : UInt8} (hcte : cteLen ≠ 0) (phy : UInt8) :
    ((phy = lePhy1M ∨ phy = lePhy2M) → cteDisallowed cteLen phy = true) ∧
    ((phy = lePhyCodedS8 ∨ phy = lePhyCodedS2) → cteDisallowed cteLen phy = false) := by
  constructor
  · rintro (rfl | rfl) <;> simp [cteDisallowed, hcte] <;> decide
  · rintro (rfl | rfl) <;> simp [cteDisallowed]

/-- **The reply of a chain that refuses the wrong PHYs** is right exactly when no extension is asked
for and the chain succeeds. -/
theorem cteReply_iff {p : Prog transport UInt8} {cteLen phy : UInt8} (hphy : PhySupported b phy)
    (hanswers : ∀ status, Answers b q f buf status ↔
      ∃ h', p.run (hostHandler b q) f.host = .ok (status, h'))
    (hsuccess : ∀ h', p.run (hostHandler b q) f.host = .ok (errSuccess, h') →
      cteDisallowed cteLen phy = false)
    (hdisallowed : cteDisallowed cteLen phy = false → p.Returns (· ≠ errCmdDisallowed)) :
    CteReply b q f buf cteLen phy ↔
      cteLen = 0 ∧ ∃ h', p.run (hostHandler b q) f.host = .ok (errSuccess, h') := by
  constructor
  · intro hreply
    by_cases hcte : cteLen = 0
    · exact ⟨hcte, (hanswers errSuccess).1 (hreply.available (.inl hcte))⟩
    · obtain ⟨hrefused, hallowed⟩ := cteDisallowed_eq hcte phy
      rcases phySupported_cases hphy with huncoded | hcoded
      · obtain ⟨h', hrun⟩ := (hanswers errSuccess).1 (hreply.available (.inr huncoded))
        cases (hrefused huncoded).symm.trans (hsuccess h' hrun)
      · obtain ⟨h', hrun⟩ := (hanswers errCmdDisallowed).1 (hreply.disallowed hcte hcoded)
        exact absurd rfl ((hdisallowed (hallowed hcoded)).run hrun)
  · rintro ⟨hcte, hrun⟩
    exact ⟨fun _ ↦ (hanswers errSuccess).2 hrun, fun h ↦ absurd hcte h⟩

/-! ### What the chains return -/

/-- A status that no link of a chain maps to is not returned by it. -/
theorem attempt_returns_ne {c : UInt8} {p : Prog transport Ret} {status : Ret → Option UInt8}
    {next : Prog transport UInt8} (hstatus : ∀ r, status r ≠ some c)
    (hnext : next.Returns (· ≠ c)) : (attempt p status next).Returns (· ≠ c) := by
  refine p.returns_true.bind fun err _ ↦ ?_
  cases herr : status err with
  | none => exact hnext
  | some code =>
    intro hcode
    exact hstatus err (herr.trans (congrArg some hcode))

theorem unsupportedOn_ne (r : Ret) : unsupportedOn r ≠ some errCmdDisallowed := by
  rcases r with - | e
  · decide
  · cases e <;> decide

theorem settingStatus_ne (r : Ret) : settingStatus r ≠ some errCmdDisallowed := by
  rcases r with - | e
  · decide
  · cases e <;> decide

theorem slotStatus_ne (r : Ret) : slotStatus r ≠ some errCmdDisallowed := by
  rcases r with - | e
  · decide
  · cases e <;> decide

theorem testStatus_ne (r : Ret) : testStatus r ≠ some errCmdDisallowed := by
  rcases r with - | e
  · decide
  · cases e <;> decide

/-- Nothing but the test of the PHY answers with Command Disallowed. -/
theorem rxTestStatus_returns {p : RxParams} (h : cteDisallowed p.cteLen p.phy = false) :
    (rxTestStatus p).Returns (· ≠ errCmdDisallowed) := by
  refine (Prog.returns_true Transport.setupPrepare).bind fun _ _ ↦ ?_
  refine attempt_returns_ne unsupportedOn_ne (attempt_returns_ne settingStatus_ne ?_)
  rw [h, if_neg (by decide)]
  refine attempt_returns_ne settingStatus_ne (attempt_returns_ne slotStatus_ne ?_)
  exact attempt_returns_ne testStatus_ne (Prog.returns_pure.2 (by decide))

/-- The same of a Transmitter Test. -/
theorem txTestStatus_returns {p : TxParams} (h : cteDisallowed p.cteLen p.phy = false) :
    (txTestStatus p).Returns (· ≠ errCmdDisallowed) := by
  refine (Prog.returns_true Transport.setupPrepare).bind fun _ _ ↦ ?_
  cases hciToDtmPayload p.payload with
  | error e => exact Prog.returns_pure.2 (by decide)
  | ok pld =>
    refine attempt_returns_ne unsupportedOn_ne ?_
    rw [h, if_neg (by decide)]
    refine attempt_returns_ne settingStatus_ne (attempt_returns_ne unsupportedOn_ne ?_)
    exact attempt_returns_ne testStatus_ne (Prog.returns_pure.2 (by decide))

/-! ### Commands without an extension -/

/-- Without an extension `cte_set` switches it off. -/
theorem cteSet_none {cteLen : UInt8} (hcte : cteLen = 0) (cteType patternLen : UInt8)
    (pattern : ℕ → UInt8) (h : Host) :
    ∃ h', (cteSet cteLen cteType patternLen pattern).run (hostHandler b q) h = .ok (.ok, h') ∧
      ∃ cteInfo, h'.device = { h.device with cteInfo := cteInfo } := by
  have hset : ∃ cteInfo, dtmSetupSetCteMode b .none 0 h.device =
      (.ok, { h.device with cteInfo := cteInfo }) := by
    rw [dtmSetupSetCteMode]
    cases b.directionFinding with
    | false => exact ⟨h.device.cteInfo, rfl⟩
    | true => exact ⟨{ h.device.cteInfo with mode := .off }, rfl⟩
  obtain ⟨cteInfo, hset⟩ := hset
  rw [cteSet, if_pos hcte]
  exact ⟨_, perform_dtm_run (c := .setupSetCteMode .none 0) (congrArg Except.ok hset), cteInfo, rfl⟩

theorem cteDisallowed_none {cteLen : UInt8} (hcte : cteLen = 0) (phy : UInt8) :
    ¬ cteDisallowed cteLen phy = true := by
  simp [cteDisallowed, hcte]

/-- A Receiver Test without an extension succeeds exactly when its PHY can be set. -/
theorem rxTestStatus_plain_iff {p : RxParams} (hc : p.chan.toNat ≤ physChMax) (hmod : p.mod = 0)
    (hcte : p.cteLen = 0) {h : Host} :
    (∃ h', (rxTestStatus p).run (hostHandler b q) h = .ok (errSuccess, h')) ↔
      PhySettable b h.device p.phy := by
  constructor
  · rintro ⟨h', hrun⟩
    obtain ⟨hphy, hset⟩ := rxTestStatus_ok hrun
    obtain ⟨haccepted, hlegal⟩ := dtmSetupSetPhy_ok_iff.1 ⟨_, hset⟩
    exact ⟨⟨_, hphy, haccepted⟩, hlegal⟩
  · intro hsettable
    obtain ⟨h₁, hphy⟩ := phySet_iff (q := q)
      (h := { h with device := dtmSetupPrepare b h.device }).2 hsettable
    obtain ⟨h₂, hcteSet, -⟩ :=
      cteSet_none (b := b) (q := q) hcte p.cteType p.patternLen p.pattern h₁
    obtain ⟨radio, -, hreceive⟩ := dtmTestReceive_legal b h₂.device hc
    refine attempt_succeeds (h := { h with device := dtmSetupPrepare b h.device })
      refusing_unsupportedOn hphy ?_
    refine attempt_succeeds (t := h₁) refusing_settingStatus (by rw [modSet, if_pos hmod]; rfl) ?_
    rw [if_neg (cteDisallowed_none hcte p.phy)]
    refine attempt_succeeds refusing_settingStatus hcteSet ?_
    refine attempt_succeeds refusing_slotStatus
      (by rw [cteSlotSet, if_neg (not_not.2 hcte)]; rfl) ?_
    exact attempt_succeeds refusing_testStatus
      (perform_dtm_run (c := .testReceive p.chan) hreceive) ⟨_, rfl⟩

/-- The power request of a command finds a level on its channel. -/
def PowerFound (b : Build) (power : Int8) (channel : UInt8) : Prop :=
  ∃ request frequency level, txPowerRequestOf power = some request ∧
    radioFrequencyGet channel = .ok frequency ∧
    txPowerRequested b request.1 request.2 frequency = .ok level

/-- With a level found, the request succeeds and stores it. -/
theorem txPowerSet_run {power : Int8} {channel : UInt8} (hpower : PowerFound b power channel)
    (h : Host) :
    ∃ h', (txPowerSet power channel).run (hostHandler b q) h = .ok (.ok, h') ∧
      ∃ level, h'.device = { h.device with txpower := level } := by
  obtain ⟨request, frequency, level, hrequest, hfrequency, hlevel⟩ := hpower
  have hset : dtmSetupSetTransmitPower b request.1 request.2 channel h.device =
      .ok (txPowerAnswer b request.1 level frequency, { h.device with txpower := level }) := by
    rw [dtmSetupSetTransmitPower, hfrequency, ok_bind, hlevel]
    rfl
  have hrun :=
    perform_dtm_run (q := q) (c := .setupSetTransmitPower request.1 request.2 channel) hset
  refine ⟨{ h with device := { h.device with txpower := level } }, ?_, level, rfl⟩
  rw [txPowerSet, hrequest]
  simp only [Prog.run_bind]
  exact congrArg (· >>= _) hrun

/-- A Transmitter Test without an extension succeeds exactly when its PHY can be set, its power
request finds a level and the front-end module takes the gain that is set. -/
theorem txTestStatus_plain_iff {p : TxParams} (hc : p.chan.toNat ≤ physChMax)
    {pld : DtmPacket} (hpayload : hciToDtmPayload p.payload = .ok pld) (hcte : p.cteLen = 0)
    {h : Host} :
    (∃ h', (txTestStatus p).run (hostHandler b q) h = .ok (errSuccess, h')) ↔
      PhySettable b h.device p.phy ∧ PowerFound b p.power p.chan ∧
        femGainRefused b h.device = false := by
  have hpacket (radioMode : RadioMode) : resolvePacket radioMode pld ≠ .vendor := by
    obtain ⟨type, htype, -⟩ := hciToDtmPayload_ok hpayload
    obtain ⟨hresolve, hvendor⟩ := resolvePacket_of_pduType htype radioMode
    rwa [hresolve]
  constructor
  · rintro ⟨h', hrun⟩
    obtain @⟨pld', phy, request, answer, s₁, s₂, s₃, hpayload', hphy, hset, -, hcteSet, hrequest,
      hpower, htransmit⟩ := txTestStatus_ok hrun
    obtain ⟨haccepted, hlegal⟩ := dtmSetupSetPhy_ok_iff.1 ⟨_, hset⟩
    refine ⟨⟨⟨phy, hphy, haccepted⟩, hlegal⟩, ?_, ?_⟩
    · obtain ⟨frequency, hfrequency, hpower⟩ := bind_eq_ok.1 hpower
      obtain ⟨level, hlevel, -⟩ := bind_eq_ok.1 hpower
      exact ⟨request, frequency, level, hrequest, hfrequency, hlevel⟩
    -- nothing before the transmission touches the gain
    · have hs₃ : s₃ = { s₂ with txpower := s₃.txpower } := dtmSetupSetTransmitPower_ok hpower
      have hfem : s₃.fem = h.device.fem := by
        rw [hs₃, hcteSet.keeps]
        exact (dtmSetupSetPhy_keepsTest hset).fem
      cases hpayload.symm.trans hpayload'
      rw [← femGainRefused_congr (congrArg FemParameters.gain hfem)]
      exact (dtmTestTransmit_transmitting (hpacket s₃.radioMode) htransmit).2.2
  · rintro ⟨hsettable, hpower, hgain⟩
    -- each link of the chain succeeds, and none touches what the transmission looks at
    obtain ⟨h₁, hphy⟩ := phySet_iff (q := q)
      (h := { h with device := dtmSetupPrepare b h.device }).2 hsettable
    obtain ⟨h₂, hcteSet, cteInfo, hdevice₂⟩ :=
      cteSet_none (b := b) (q := q) hcte p.cteType p.patternLen p.pattern h₁
    obtain ⟨h₃, hpowerSet, level, hdevice₃⟩ := txPowerSet_run (q := q) hpower h₂
    have hkeeps : KeepsTest (dtmSetupPrepare b h.device) h₃.device := by
      obtain ⟨phy, -, hset⟩ := phySet_ok hphy
      refine (dtmSetupSetPhy_keepsTest hset).trans ?_
      rw [hdevice₃, hdevice₂]
      constructor <;> rfl
    have hgain₃ : femGainRefused b h₃.device = false := by
      rw [← hgain]
      exact femGainRefused_congr (congrArg FemParameters.gain hkeeps.fem)
    obtain ⟨pdu, radio, anomalyTimer, timer, -, htransmit⟩ := dtmTestTransmit_modulated p.chan
      p.dataLen hkeeps.state (hpacket h₃.device.radioMode) hc hgain₃
    rw [txTestStatus_known h hpayload]
    refine attempt_succeeds refusing_unsupportedOn hphy ?_
    rw [if_neg (cteDisallowed_none hcte p.phy)]
    refine attempt_succeeds refusing_settingStatus hcteSet ?_
    refine attempt_succeeds refusing_unsupportedOn hpowerSet ?_
    exact attempt_succeeds refusing_testStatus
      (perform_dtm_run (c := .testTransmit p.chan p.dataLen pld) htransmit) ⟨_, rfl⟩

/-! ### Reachable states -/

/-- The stored level of a reachable state is one of the chip's. -/
theorem Firmware.Reachable.onTable (hb : b.PowerTable) (hf : f.Reachable b q) :
    f.device.OnTable b := by
  have hinvariant : DeviceInvariant b (Device.OnTable b) :=
    ⟨fun _ _ _ hs h ↦ hs.step hb h, fun _ _ hs ↦ ⟨hs.timerInit, hs.txpower⟩⟩
  exact hinvariant.reachable (fun _ hs ↦ hs.onTable hb) hf

/-- In a reachable state only the automatic power control stands between a PHY of the build and the
radio. -/
theorem phySettable_iff {s : Device} (hs : s.OnTable b) {phy : UInt8} (hphy : PhySupported b phy) :
    PhySettable b s phy ↔ ¬ s.settings.InitFaults b := by
  obtain ⟨p, hp, hsupported⟩ := hphy
  have haccepted : phyAccepted b s.txpower phy :=
    ⟨p, hp, (dtmPhyAccepted_onTable hs.txpower).trans hsupported⟩
  exact and_iff_right haccepted

/-- A power of the command on a channel of the command finds a level. -/
theorem powerFound_of_valid (hb : b.PowerTable) {p : TxParams} (hvalid : TxValid b p) :
    PowerFound b p.power p.chan := by
  have hrequest : ∃ request, txPowerRequestOf p.power = some request := by
    rw [txPowerRequestOf]
    split_ifs with hmin hmax hval
    · exact ⟨_, rfl⟩
    · exact ⟨_, rfl⟩
    · exact ⟨_, rfl⟩
    · rcases hvalid.power with h | h | h
      · exact absurd h hval
      · exact absurd h hmin
      · exact absurd h hmax
  obtain ⟨request, hrequest⟩ := hrequest
  obtain ⟨level, hlevel⟩ := txPowerRequested_ok hb request.1 request.2
    ((p.chan.toUInt16 <<< 1) + 2402)
  exact ⟨request, _, level, hrequest, radioFrequencyGet_ok hvalid.chan, hlevel⟩

/-! ### The reply -/

theorem hciToDtmPayload_known {code : UInt8} (h : code.toNat ≤ 7) :
    ∃ pld, hciToDtmPayload code = .ok pld := by
  have hall : ∀ n < 8, (hciToDtmPayload (UInt8.ofNat n)).isOk = true := by decide
  have hok := hall code.toNat (Nat.lt_succ_of_le h)
  rw [UInt8.ofNat_toNat] at hok
  rcases hpld : hciToDtmPayload code with e | pld
  · rw [hpld] at hok
    cases hok
  · exact ⟨pld, rfl⟩

/-- **A constant tone extension is never available**: in a reachable state, a valid test command
gets the reply that Bluetooth defines exactly when it asks for no extension, the automatic power
control is not left with an illegal channel, and, where it transmits, the front-end module takes the
gain that is set. -/
theorem cte_available_iff (hb : b.PowerTable) (hf : f.Reachable b q) (buf : ℕ → UInt8) :
    (∀ p, cmdOpcode buf = HciOp.leRxTestV3.code →
      rxParams .leRxTestV3 (fun i ↦ buf (3 + i)) = some p → RxValid b p →
      (CteReply b q f buf p.cteLen p.phy ↔ p.cteLen = 0 ∧ ¬ f.device.settings.InitFaults b)) ∧
    (∀ op p, op = .leTxTestV3 ∨ op = .leTxTestV4 → cmdOpcode buf = op.code →
      txParams op (fun i ↦ buf (3 + i)) = some p → TxValid b p →
      (CteReply b q f buf p.cteLen p.phy ↔ p.cteLen = 0 ∧ ¬ f.device.settings.InitFaults b ∧
        femGainRefused b f.device = false)) := by
  refine ⟨fun p hop hp hvalid ↦ ?_, fun op p _ hop hp hvalid ↦ ?_⟩
  · rw [← phySettable_iff (hf.onTable hb) hvalid.phy, cteReply_iff hvalid.phy
      (fun _ ↦ answers_iff (rxTestStatus_silent p) (dtmTrProcess_rx hop hp)) ?_
      rxTestStatus_returns]
    · exact and_congr_right fun hcte ↦ rxTestStatus_plain_iff hvalid.chan hvalid.mod hcte
    · intro h' hrun
      obtain ⟨-, -, -, hallowed⟩ := rxTestStatus_ok hrun
      exact hallowed
  · obtain ⟨pld, hpayload⟩ := hciToDtmPayload_known hvalid.payload
    rw [← phySettable_iff (hf.onTable hb) hvalid.phy, cteReply_iff hvalid.phy
      (fun _ ↦ answers_iff (txTestStatus_silent p) (dtmTrProcess_tx hop hp)) ?_
      txTestStatus_returns]
    · refine and_congr_right fun hcte ↦ ?_
      rw [txTestStatus_plain_iff hvalid.chan hpayload hcte,
        and_iff_right (powerFound_of_valid hb hvalid)]
      rfl
    · intro h' hrun
      obtain ⟨-, -, -, hallowed⟩ := txTestStatus_ok hrun
      exact hallowed

/-- A Receiver Test, version 3, on the 1 Mbit PHY, without an extension. -/
def rxTestPlain : List UInt8 :=
  [0x4F, 0x20, 0x09, 0x05, 0x01, 0x00, 0x00, 0x00, 0x01, 0x02, 0x01, 0x02]

/-- The same with an AoA extension of 16 us. -/
def rxTestAoa : List UInt8 :=
  [0x4F, 0x20, 0x09, 0x05, 0x01, 0x00, 0x02, 0x00, 0x01, 0x02, 0x01, 0x02]

/-- A Receiver Test without an extension is answered with success. -/
theorem cte_available_iff_plain :
    CteReply (.nrf5340 true false) 1024 (.ofDevice .nrf5340) (rxTestPlain.getD · 0) 0 lePhy1M := by
  refine ((cte_available_iff (q := 1024) (Build.nrf5340_powerTable true false)
    (Firmware.ofDevice_reachable (Device.nrf5340_initialised true false))
    (rxTestPlain.getD · 0)).1 _ (by decide) rfl ?_).2 ⟨rfl, fun hfault ↦ by cases hfault.1⟩
  exact ⟨by decide, ⟨.phy1m, rfl, rfl⟩, rfl, .inl rfl, by decide, .inl rfl, by decide⟩

/-- **An extension on the 1 Mbit PHY is refused.** -/
theorem cte_refused_uncoded :
    (Firmware.ofDevice .nrf5340).Reachable (.nrf5340 true false) 1024 ∧
    ∃ p, rxParams .leRxTestV3 (fun i ↦ rxTestAoa.getD (3 + i) 0) = some p ∧
      RxValid (.nrf5340 true false) p ∧ p.cteLen = 2 ∧ p.phy = lePhy1M ∧
      Answers (.nrf5340 true false) 1024 (.ofDevice .nrf5340) (rxTestAoa.getD · 0)
        errCmdDisallowed ∧
      ¬ CteReply (.nrf5340 true false) 1024 (.ofDevice .nrf5340) (rxTestAoa.getD · 0)
        p.cteLen p.phy := by
  have hop : cmdOpcode (rxTestAoa.getD · 0) = HciOp.leRxTestV3.code := by decide
  refine ⟨Firmware.ofDevice_reachable (Device.nrf5340_initialised true false), _, rfl, ?_, rfl, rfl,
    ?_, fun hreply ↦ ?_⟩
  · exact ⟨by decide, ⟨.phy1m, rfl, rfl⟩, rfl, .inr (by decide), by decide, .inl rfl, by decide⟩
  · exact (answers_iff (rxTestStatus_silent _) (dtmTrProcess_rx hop rfl)).2 ⟨_, rfl⟩
  · obtain ⟨h', hrun⟩ := (answers_iff (rxTestStatus_silent _) (dtmTrProcess_rx hop rfl)).1
      (hreply.available (.inr (.inl rfl)))
    cases hrun

end DirectTestMode
