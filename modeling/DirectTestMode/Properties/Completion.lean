import DirectTestMode.Properties.CteAvailability

/-!
# One command, one completion

A handler of `dtm_hci.c` finds a status with calls that say nothing to the UART, and then hands one
Command Complete event to it; only a failed reset is answered twice. So what stands between a
command and its completion is an assertion on the way, and `completes_once_iff` says which ones are
met: the one on the channel, from a power request and from the automatic power control.

## From "one event" to "no assertion"

`Completes` asks for two things of a handler's run: that it comes to an end, and that the packets it
hands to the UART are exactly one Command Complete event for its opcode. The second follows from the
first for any program of the form *silent calls, then one event* (`Completes.bind_iff`,
`Completes.status_iff`). What remains is to find out where the silent calls stop, which is `Stops`,
and it is worked out **along the chain of a command**, link by link: `attempt_stops` says that a
link stops, or lets through a rest that does.

* The PHY stops a command where the build has the PHY and the initialisation of the radio meets its
  assertion (`phySet_stops`);
* a power request stops it on an illegal channel, before the test itself would refuse that channel
  (`txPowerSet_stops`);
* the test never stops it, on a legal channel (`testTransmit_not_stops`), and neither do the
  constant tone extension, the modulation and the antenna settings.

## What is assumed of the build

`PowerTable` is what the chip's table of power levels has to meet (`Dtm.Power`). With it the radio's
initialisation takes the level that is stored (`OnTable`, an invariant of reachable states). This is
why a reset is never refused (`dtmSetupReset_onTable`), and so never answered twice.
-/

namespace DirectTestMode

open Fallible Hci

variable {b : Build} {q : ℕ} {h h' : Host}

/-! ### Events -/

/-- The operation hands a packet to the UART. -/
def TransportOp.isWrite : TransportOp → Bool
  | .uartWrite _ _ _ => true
  | _ => false

/-- The packets that a program hands to the UART. -/
def uartWrites {α : Type} (b : Build) (q : ℕ) (p : Prog transport α) (h : Host) :
    List transport.Op :=
  (p.calls (hostHandler b q) h).filter fun op ↦ TransportOp.isWrite op

/-- A Command Complete event with return parameters. -/
def ccEvtOp (opcode : UInt16) (ret : List UInt8) : transport.Op :=
  TransportOp.uartWrite h4TypeEvt [0x0E, UInt8.ofNat (1 :: (le16 opcode ++ ret)).length]
    (1 :: (le16 opcode ++ ret))

/-- The program comes to its end, and hands exactly one packet to the UART: a Command Complete event
for the opcode. -/
structure Completes (b : Build) (q : ℕ) (opcode : UInt16) (p : Prog transport Ret) (h : Host) :
    Prop where
  returns : ∃ x, p.run (hostHandler b q) h = .ok x
  events : ∃ ret, uartWrites b q p h = [ccEvtOp opcode ret]

/-- The firmware answers the command in a buffer with exactly one Command Complete event. -/
def Firmware.CompletesOnce (b : Build) (q : ℕ) (f : Firmware) (buf : ℕ → UInt8) : Prop :=
  Completes b q (cmdOpcode buf) (dtmTrProcess h4TypeCmd buf) f.host

theorem uartWrites_silent {α : Type} {p : Prog transport α} (hp : p.Issues Silent) :
    uartWrites b q p h = [] := by
  refine List.filter_eq_nil_iff.2 fun op hop hwrite ↦ ?_
  cases op with
  | uartWrite type hdr pld => exact hp.calls _ hop type hdr pld rfl
  | dtm | patternStore => cases hwrite

/-- The packets of a chain are those of its rest, if its first part is silent. -/
theorem uartWrites_bind {α β : Type} {p : Prog transport α} (hp : p.Issues Silent)
    (k : α → Prog transport β) {a : α} (ha : p.run (hostHandler b q) h = .ok (a, h')) :
    uartWrites b q (p >>= k) h = uartWrites b q (k a) h' := by
  rw [uartWrites, Prog.calls_bind, ha, List.filter_append]
  exact congrArg (· ++ _) (uartWrites_silent hp)

namespace Completes

variable {opcode : UInt16}

/-- **Whatever silent calls come first**, they only have to come to an end. -/
theorem bind_iff {α : Type} {p : Prog transport α} (hp : p.Issues Silent)
    {k : α → Prog transport Ret} :
    Completes b q opcode (p >>= k) h ↔
      ∃ a h', p.run (hostHandler b q) h = .ok (a, h') ∧ Completes b q opcode (k a) h' := by
  constructor
  · rintro ⟨⟨x, hx⟩, hevents⟩
    rw [Prog.run_bind] at hx
    obtain ⟨⟨a, h'⟩, ha, hx⟩ := bind_eq_ok.1 hx
    rw [uartWrites_bind hp k ha] at hevents
    exact ⟨a, h', ha, ⟨x, hx⟩, hevents⟩
  · rintro ⟨a, h', ha, ⟨x, hx⟩, hevents⟩
    refine ⟨⟨x, ?_⟩, ?_⟩
    · rw [Prog.run_bind, ha]
      exact hx
    · rw [uartWrites_bind hp k ha]
      exact hevents

/-- A handler that only hands over its event completes. -/
theorem ccEvt (ret : List UInt8) (h : Host) :
    Completes b q opcode (Hci.ccEvt opcode ret) h :=
  ⟨⟨_, rfl⟩, ret, rfl⟩

end Completes

/-- The firmware answers the command in a buffer with one event, that carries a status. -/
structure Firmware.Replies (b : Build) (q : ℕ) (f : Firmware) (buf : ℕ → UInt8) (status : UInt8)
    (f' : Firmware) : Prop where
  process : ∃ ret, f.process b q h4TypeCmd buf = .ok (ret, f')
  event : uartWrites b q (dtmTrProcess h4TypeCmd buf) f.host = [baseCcEvtOp (cmdOpcode buf) status]

/-- **The reply of a test command** carries the status that its calls come to, and they leave the
device behind. -/
theorem Firmware.replies {f : Firmware} {buf : ℕ → UInt8} {p : Prog transport UInt8}
    (hp : p.Issues Silent)
    (hprocess : dtmTrProcess h4TypeCmd buf = p >>= fun status ↦ baseCcEvt (cmdOpcode buf) status)
    {status : UInt8} (hrun : p.run (hostHandler b q) f.host = .ok (status, h')) :
    ∃ f', f.Replies b q buf status f' ∧ f'.device = h'.device := by
  obtain ⟨ret, tx, hevent⟩ : ∃ ret tx, (baseCcEvt (cmdOpcode buf) status).run (hostHandler b q) h' =
      .ok (ret, { h' with tx := tx }) := ⟨_, _, rfl⟩
  refine ⟨{ f with host := { h' with tx := tx } }, ⟨⟨ret, ?_⟩, ?_⟩, rfl⟩
  · rw [process, hprocess, Prog.run_bind, hrun, ok_bind, hevent]
    rfl
  · rw [hprocess, uartWrites_bind hp _ hrun]
    rfl

theorem Firmware.process_error {f : Firmware} {buf : ℕ → UInt8} {p : Prog transport UInt8}
    (hprocess : dtmTrProcess h4TypeCmd buf = p >>= fun status ↦ baseCcEvt (cmdOpcode buf) status)
    {e : Fault} (hrun : p.run (hostHandler b q) f.host = .error e) :
    f.process b q h4TypeCmd buf = .error e := by
  rw [process, hprocess, Prog.run_bind, hrun]
  rfl

/-! ### What stops a command -/

/-- The call runs into an assertion. -/
def Stops (b : Build) (q : ℕ) {α : Type} (p : Prog transport α) (h : Host) : Prop :=
  ∃ e, p.run (hostHandler b q) h = .error e

theorem not_stops_iff {α : Type} {p : Prog transport α} :
    ¬Stops b q p h ↔ ∃ x, p.run (hostHandler b q) h = .ok x := by
  rw [Stops]
  cases p.run (hostHandler b q) h with
  | error e => simp
  | ok x => simp

theorem Stops.bind {α β : Type} {p : Prog transport α} {k : α → Prog transport β}
    (hp : Stops b q p h) : Stops b q (p >>= k) h := by
  obtain ⟨e, he⟩ := hp
  refine ⟨e, ?_⟩
  rw [Prog.run_bind, he]
  rfl

/-- **A link** stops the chain, or lets through a rest that does. -/
theorem attempt_stops {p : Prog transport Ret} {status : Ret → Option UInt8}
    (hstatus : Refusing status) {next : Prog transport UInt8} :
    Stops b q (attempt p status next) h ↔
      Stops b q p h ∨
        ∃ h', p.run (hostHandler b q) h = .ok (.ok, h') ∧ Stops b q next h' := by
  rw [Stops, Stops]
  rcases hrun : p.run (hostHandler b q) h with e | ⟨r, h'⟩
  · refine iff_of_true ⟨e, ?_⟩ (.inl ⟨e, rfl⟩)
    rw [attempt, Prog.run_bind, hrun]
    rfl
  · cases r with
    | ok =>
      rw [attempt_next next hrun hstatus.1]
      simp [Stops]
    | err e =>
      obtain ⟨code, hcode, -⟩ := hstatus.2 e
      rw [attempt_stop next hrun hcode]
      simp

/-- A call that settles everywhere never stops. -/
theorem Hci.Settles.not_stops {p : Prog transport Ret} {pass : Prop}
    (hp : Settles b q (fun _ ↦ True) p pass) : ¬Stops b q p h := by
  obtain ⟨r, h', hrun, -, -⟩ := hp h trivial
  exact not_stops_iff.2 ⟨_, hrun⟩

/-- And it passes under its condition. -/
theorem Hci.Settles.ok_iff {p : Prog transport Ret} {pass : Prop}
    (hp : Settles b q (fun _ ↦ True) p pass) :
    (∃ h', p.run (hostHandler b q) h = .ok (.ok, h')) ↔ pass := by
  obtain ⟨r, h', hrun, -, hpass⟩ := hp h trivial
  rw [← hpass, hrun]
  constructor
  · rintro ⟨h'', heq⟩
    cases heq
    rfl
  · rintro rfl
    exact ⟨h', rfl⟩

theorem attempt_not_stops {p : Prog transport Ret} {pass : Prop}
    (hp : Settles b q (fun _ ↦ True) p pass) {status : Ret → Option UInt8}
    (hstatus : Refusing status) {next : Prog transport UInt8} (hnext : ∀ h, ¬Stops b q next h) :
    ¬Stops b q (attempt p status next) h := by
  rw [attempt_stops hstatus]
  rintro (hstops | ⟨h', -, hstops⟩)
  · exact hp.not_stops hstops
  · exact hnext h' hstops

theorem pure_not_stops {α : Type} (a : α) : ¬Stops b q (pure a) h :=
  not_stops_iff.2 ⟨_, rfl⟩

theorem cteIndependent_true : CteIndependent fun _ ↦ True :=
  fun _ _ _ _ ↦ trivial

theorem call_stops {c : Call} :
    Stops b q (Prog.perform (I := transport) (.dtm c)) h ↔ ∃ e, api b c h.device = .error e := by
  rcases hx : api b c h.device with e | y
  · exact iff_of_true ⟨e, perform_dtm_error hx⟩ ⟨e, rfl⟩
  · exact iff_of_false (not_stops_iff.2 ⟨_, perform_dtm_run hx⟩) (by simp)

/-- A PHY stops the command where the build has it and the initialisation meets its assertion. -/
theorem phySet_stops {phy : UInt8} :
    Stops b q (phySet phy) h ↔ PhySupported b phy ∧ h.device.settings.InitFaults b := by
  rw [phySet, PhySupported]
  rcases phyOf phy with - | p
  · exact iff_of_false (pure_not_stops _) (by rintro ⟨⟨p, hp, -⟩, -⟩; cases hp)
  · refine call_stops.trans ?_
    show (∃ e, dtmSetupSetPhy b p h.device = .error e) ↔ _
    cases hphy : p.supported b with
    | true =>
      simp only [dtmSetupSetPhy_error_iff hphy, Option.some.injEq, exists_eq_left', hphy, true_and]
      exact Iff.rfl
    | false =>
      refine iff_of_false ?_ (by rintro ⟨⟨p', hp', hsupported⟩, -⟩; cases hp'; simp_all)
      rintro ⟨e, he⟩
      cases p with
      | phy1m | phy2m => cases hphy
      | codedS8 | codedS2 =>
        rw [dtmSetupSetPhy, show b.hasBleCoded = false from hphy] at he
        cases he

theorem testReceive_settles (channel : UInt8) :
    ∃ pass, Settles b q (fun _ ↦ True) (Transport.testReceive channel) pass := by
  rcases Nat.lt_or_ge physChMax channel.toNat with hc | hc
  · exact ⟨_, settles_testReceive hc⟩
  · refine ⟨True, fun h _ ↦ ?_⟩
    obtain ⟨radio, -, hreceive⟩ := dtmTestReceive_legal b h.device hc
    exact ⟨_, _, perform_dtm_run (c := .testReceive channel) hreceive, trivial, by simp⟩

/-- **A Receiver Test** stops where its PHY does. -/
theorem rxTestStatus_stops {p : RxParams} :
    Stops b q (rxTestStatus p) h ↔ PhySupported b p.phy ∧ h.device.settings.InitFaults b := by
  refine (attempt_stops (h := { h with device := dtmSetupPrepare b h.device })
    refusing_unsupportedOn).trans ?_
  rw [phySet_stops]
  refine or_iff_left ?_
  rintro ⟨h', -, hstops⟩
  obtain ⟨pass, hreceive⟩ := testReceive_settles (b := b) (q := q) p.chan
  refine attempt_not_stops (settles_modSet p.mod) refusing_settingStatus (fun h ↦ ?_) hstops
  split
  · exact pure_not_stops _
  · refine attempt_not_stops (settles_cteSet cteIndependent_true _ _ _ _)
      refusing_settingStatus fun h ↦ ?_
    refine attempt_not_stops (settles_cteSlotSet cteIndependent_true _ _)
      refusing_slotStatus fun h ↦ ?_
    exact attempt_not_stops hreceive refusing_testStatus fun h ↦ pure_not_stops _

/-- **A power request is the first to see the channel.** -/
theorem txPowerSet_stops (hb : b.PowerTable) {power : Int8} {channel : UInt8} :
    Stops b q (txPowerSet power channel) h ↔
      (txPowerRequestOf power).isSome = true ∧ physChMax < channel.toNat := by
  rcases hrequest : txPowerRequestOf power with - | request
  · rw [txPowerSet, hrequest]
    exact iff_of_false (pure_not_stops _) (by simp)
  · rcases Nat.lt_or_ge physChMax channel.toNat with hc | hc
    · refine iff_of_true ?_ ⟨rfl, hc⟩
      rw [txPowerSet, hrequest]
      refine Stops.bind (call_stops.2 ⟨.channel, ?_⟩)
      show dtmSetupSetTransmitPower b request.1 request.2 channel h.device = _
      rw [dtmSetupSetTransmitPower, radioFrequencyGet_fault hc]
      rfl
    · refine iff_of_false ?_ fun hstops ↦ absurd hstops.2 (Nat.not_lt.2 hc)
      obtain ⟨level, hlevel⟩ := txPowerRequested_ok hb request.1 request.2
        ((channel.toUInt16 <<< 1) + 2402)
      obtain ⟨h', hrun, -⟩ := txPowerSet_run (b := b) (q := q)
        ⟨request, _, level, hrequest, radioFrequencyGet_ok hc, hlevel⟩ h
      exact not_stops_iff.2 ⟨_, hrun⟩

/-- A test of a packet on a legal channel does not stop. -/
theorem testTransmit_not_stops {channel : UInt8} (hc : channel.toNat ≤ physChMax) (length : UInt8)
    (pkt : DtmPacket) : ¬Stops b q (Transport.testTransmit channel length pkt) h := by
  refine fun hstops ↦ ?_
  obtain ⟨e, he⟩ := call_stops.1 hstops
  have hillegal := dtmTestTransmit_error.1 (show dtmTestTransmit b channel length pkt _ = _ from he)
  exact absurd hillegal.2.2.2.2 (Nat.not_lt.2 hc)

/-- After its PHY, a Transmitter Test gets as far as the power request, with an illegal channel. -/
structure Hci.TxParams.PowerRequestStops (b : Build) (p : TxParams) : Prop where
  allowed : cteDisallowed p.cteLen p.phy = false
  cte : cteAccepted b p.cteLen p.cteType p.patternLen
  power : (txPowerRequestOf p.power).isSome = true
  chan : physChMax < p.chan.toNat

theorem powerRequest_stops (hb : b.PowerTable) {p : TxParams} {pld : DtmPacket} :
    Stops b q (attempt (txPowerSet p.power p.chan) unsupportedOn <|
      attempt (Transport.testTransmit p.chan p.dataLen pld) testStatus <| pure errSuccess) h ↔
      (txPowerRequestOf p.power).isSome = true ∧ physChMax < p.chan.toNat := by
  rw [attempt_stops refusing_unsupportedOn, txPowerSet_stops hb]
  refine or_iff_left ?_
  rintro ⟨h', hpower, hstops⟩
  obtain ⟨request, answer, -, hset⟩ := txPowerSet_ok hpower
  obtain ⟨frequency, hfrequency, -⟩ := bind_eq_ok.1 hset
  -- the request has found a frequency, so the channel is legal
  rcases Nat.lt_or_ge physChMax p.chan.toNat with hc | hc
  · cases (radioFrequencyGet_fault hc).symm.trans hfrequency
  · rcases (attempt_stops refusing_testStatus).1 hstops with hstops | ⟨h'', -, hstops⟩
    · exact testTransmit_not_stops hc p.dataLen pld hstops
    · exact pure_not_stops _ hstops

/-- After the PHY, only the power request is left to stop a Transmitter Test. -/
theorem txTestRest_stops (hb : b.PowerTable) {p : TxParams} {pld : DtmPacket} :
    Stops b q (if cteDisallowed p.cteLen p.phy then pure errCmdDisallowed else
      attempt (cteSet p.cteLen p.cteType p.patternLen p.pattern) settingStatus <|
      attempt (txPowerSet p.power p.chan) unsupportedOn <|
      attempt (Transport.testTransmit p.chan p.dataLen pld) testStatus <|
      pure errSuccess) h ↔ p.PowerRequestStops b := by
  have hcte := settles_cteSet (b := b) (q := q) cteIndependent_true p.cteLen p.cteType p.patternLen
    p.pattern
  cases hallowed : cteDisallowed p.cteLen p.phy with
  | true => exact iff_of_false (pure_not_stops _) fun hp ↦ by cases hallowed.symm.trans hp.allowed
  | false =>
    rw [if_neg (by decide), attempt_stops refusing_settingStatus]
    constructor
    · rintro (hstops | ⟨h', hrun, hstops⟩)
      · exact absurd hstops hcte.not_stops
      · obtain ⟨hpower, hchan⟩ := (powerRequest_stops hb).1 hstops
        exact ⟨hallowed, hcte.ok_iff.1 ⟨h', hrun⟩, hpower, hchan⟩
    · rintro ⟨-, haccepted, hpower, hchan⟩
      obtain ⟨h', hrun⟩ := (hcte.ok_iff (h := h)).2 haccepted
      exact .inr ⟨h', hrun, (powerRequest_stops hb).2 ⟨hpower, hchan⟩⟩

/-- **A Transmitter Test** stops where its PHY does, or at its power request. -/
theorem txTestStart_stops (hb : b.PowerTable) (hs : h.device.OnTable b) {p : TxParams}
    {pld : DtmPacket} :
    Stops b q (txTestStart p pld) h ↔ PhySupported b p.phy ∧
      (h.device.settings.InitFaults b ∨ p.PowerRequestStops b) := by
  rw [txTestStart, attempt_stops refusing_unsupportedOn, phySet_stops]
  simp only [txTestRest_stops hb]
  constructor
  · rintro (⟨hphy, hfault⟩ | ⟨h', hrun, hstops⟩)
    · exact ⟨hphy, .inl hfault⟩
    · obtain ⟨⟨phy, hphy, haccepted⟩, -⟩ := phySet_iff.1 ⟨h', hrun⟩
      rw [dtmPhyAccepted, Bool.and_eq_true] at haccepted
      exact ⟨⟨phy, hphy, haccepted.1⟩, .inr hstops⟩
  · rintro ⟨hphy, hstops⟩
    by_cases hfault : h.device.settings.InitFaults b
    · exact .inl ⟨hphy, hfault⟩
    · obtain ⟨h', hrun⟩ := phySet_iff.2 ((phySettable_iff hs hphy).2 hfault)
      exact .inr ⟨h', hrun, hstops.resolve_left hfault⟩

/-- So does the whole chain, once the payload is one that the command has. -/
theorem txTestStatus_stops (hb : b.PowerTable) (hs : h.device.OnTable b) {p : TxParams} :
    Stops b q (txTestStatus p) h ↔
      (∃ pld, hciToDtmPayload p.payload = .ok pld) ∧ PhySupported b p.phy ∧
        (h.device.settings.InitFaults b ∨ p.PowerRequestStops b) := by
  rcases hpayload : hciToDtmPayload p.payload with e | pld
  · refine iff_of_false ?_ (by simp)
    exact not_stops_iff.2 ⟨_, txTestStatus_unknown h hpayload⟩
  · rw [Stops, txTestStatus_known h hpayload]
    refine (txTestStart_stops (h := { h with device := dtmSetupPrepare b h.device }) hb
      ⟨hs.timerInit, hs.txpower⟩).trans ?_
    simp only [Except.ok.injEq, exists_eq', true_and]
    exact Iff.rfl

/-- **A reset is never refused**: the stored level is one of the chip's. -/
theorem dtmSetupReset_onTable {s : Device} (hs : s.OnTable b) {x : Ret × Device}
    (hx : dtmSetupReset b s = .ok x) : x.1 = .ok := by
  refine (radioInit_ret hx).2 ?_
  rw [errataHandle_radioMode, errataHandle_eq]
  cases hauto : b.powerControlAutomatic with
  | true => rw [Bool.or_true]
  | false =>
    rw [Bool.or_false]
    exact dtmHwRadioValidate_onTable (hs.txpower hauto)
      (show DtmPhy.phy1m.supported b = true from rfl)

/-! ### The handlers -/

/-- An assertion stops a command: an initialisation of the radio that the automatic power control is
left with an illegal channel for, or the power request of a Transmitter Test. -/
inductive CommandStops (b : Build) (v : Settings) (data : ℕ → UInt8) : HciOp → Prop
  | reset (hfault : v.InitFaults b) : CommandStops b v data .reset
  | receiver {op : HciOp} {p : RxParams} (hp : rxParams op data = some p)
      (hphy : PhySupported b p.phy) (hfault : v.InitFaults b) : CommandStops b v data op
  | transmitter {op : HciOp} {p : TxParams} (hp : txParams op data = some p)
      (hpayload : ∃ pld, hciToDtmPayload p.payload = .ok pld) (hphy : PhySupported b p.phy)
      (hstops : v.InitFaults b ∨ p.PowerRequestStops b) : CommandStops b v data op

theorem commandStops_rx {v : Settings} {data : ℕ → UInt8} {op : HciOp} {p : RxParams}
    (hp : rxParams op data = some p) :
    CommandStops b v data op ↔ PhySupported b p.phy ∧ v.InitFaults b := by
  constructor
  · intro hstops
    cases hstops with
    | reset => cases hp
    | receiver hp' hphy hfault =>
      cases hp.symm.trans hp'
      exact ⟨hphy, hfault⟩
    | transmitter hp' =>
      cases op <;> first | cases hp; done | cases hp'
  · rintro ⟨hphy, hfault⟩
    exact .receiver hp hphy hfault

theorem commandStops_tx {v : Settings} {data : ℕ → UInt8} {op : HciOp} {p : TxParams}
    (hp : txParams op data = some p) :
    CommandStops b v data op ↔ (∃ pld, hciToDtmPayload p.payload = .ok pld) ∧
      PhySupported b p.phy ∧ (v.InitFaults b ∨ p.PowerRequestStops b) := by
  constructor
  · intro hstops
    cases hstops with
    | reset => cases hp
    | receiver hp' =>
      cases op <;> first | cases hp; done | cases hp'
    | transmitter hp' hpayload hphy hstops =>
      cases hp.symm.trans hp'
      exact ⟨hpayload, hphy, hstops⟩
  · rintro ⟨hpayload, hphy, hstops⟩
    exact .transmitter hp hpayload hphy hstops

/-- A handler that ends with its event completes unless its calls are stopped. -/
theorem Completes.status_iff {opcode : UInt16} {α : Type} {p : Prog transport α}
    (hp : p.Issues Silent) (ret : α → List UInt8) :
    Completes b q opcode (p >>= fun a ↦ Hci.ccEvt opcode (ret a)) h ↔ ¬Stops b q p h := by
  rw [bind_iff hp, not_stops_iff]
  constructor
  · rintro ⟨a, h', hrun, -⟩
    exact ⟨_, hrun⟩
  · rintro ⟨⟨a, h'⟩, hrun⟩
    exact ⟨a, h', hrun, .ccEvt _ _⟩

/-- **A reset completes** unless the initialisation of the radio meets its assertion. -/
theorem hciReset_completes (hs : h.device.OnTable b) :
    Completes b q HciOp.reset.code hciReset h ↔ ¬h.device.settings.InitFaults b := by
  rw [hciReset, Completes.bind_iff (p := Transport.setupReset) (silent_dtm _)]
  constructor
  · rintro ⟨r, h', hrun, -⟩ hfault
    obtain ⟨x, hx, -⟩ := perform_dtm_ok hrun
    cases (dtmSetupReset_error.2 ⟨rfl, hfault⟩).symm.trans hx
  · intro hlegal
    rcases hx : dtmSetupReset b h.device with e | ⟨r, s⟩
    · exact absurd (dtmSetupReset_error.1 hx).2 hlegal
    · cases dtmSetupReset_onTable hs hx
      exact ⟨_, _, perform_dtm_run (c := .setupReset) hx, .ccEvt _ _⟩

theorem hciRxTest_completes {op : HciOp} {data : ℕ → UInt8} {p : RxParams}
    (hp : rxParams op data = some p) :
    Completes b q op.code (hciRxTest op data) h ↔
      ¬(PhySupported b p.phy ∧ h.device.settings.InitFaults b) := by
  rw [hciRxTest, hp]
  exact (Completes.status_iff (rxTestStatus_silent p) fun status ↦ [status]).trans
    (not_congr rxTestStatus_stops)

theorem hciTxTest_completes (hb : b.PowerTable) (hs : h.device.OnTable b) {op : HciOp}
    {data : ℕ → UInt8} {p : TxParams} (hp : txParams op data = some p) :
    Completes b q op.code (hciTxTest op data) h ↔
      ¬((∃ pld, hciToDtmPayload p.payload = .ok pld) ∧ PhySupported b p.phy ∧
        (h.device.settings.InitFaults b ∨ p.PowerRequestStops b)) := by
  rw [hciTxTest, hp]
  exact (Completes.status_iff (txTestStatus_silent p) fun status ↦ [status]).trans
    (not_congr (txTestStatus_stops hb hs))

theorem hciTestEnd_completes : Completes b q HciOp.leTestEnd.code hciTestEnd h := by
  refine (Completes.status_iff (p := Transport.testEnd) (silent_dtm _) fun cnt ↦
    (testEndAnswer cnt).1 :: le16 (testEndAnswer cnt).2).2 fun hstops ↦ ?_
  obtain ⟨e, he⟩ := call_stops.1 hstops
  cases he

theorem hciReadLocalFeatures_completes :
    Completes b q HciOp.leReadLocalFeatures.code hciReadLocalFeatures h := by
  refine (Completes.status_iff (p := Transport.setupReadFeatures) (silent_dtm _)
    fun features ↦ errSuccess :: hciFeatures features).2 fun hstops ↦ ?_
  obtain ⟨e, he⟩ := call_stops.1 hstops
  cases he

theorem HciOp.code_of_ofCode {opcode : UInt16} {op : HciOp} (h : HciOp.ofCode opcode = some op) :
    op.code = opcode := by
  have hcode := List.find?_some h
  exact beq_iff_eq.1 hcode

/-- A command that stops nothing. -/
theorem not_commandStops {v : Settings} {op : HciOp} {data : ℕ → UInt8} (hreset : op ≠ .reset)
    (hrx : rxParams op data = none) (htx : txParams op data = none) :
    ¬CommandStops b v data op := by
  intro hstops
  cases hstops with
  | reset => exact hreset rfl
  | receiver hp => cases hrx.symm.trans hp
  | transmitter hp => cases htx.symm.trans hp

/-- Each opcode goes to its handler, and an unknown one is answered with an event of its own. -/
theorem hciCmd_completes (hb : b.PowerTable) (hs : h.device.OnTable b) (opcode : UInt16)
    (data : ℕ → UInt8) :
    Completes b q opcode (hciCmd opcode data) h ↔
      ¬∃ op, HciOp.ofCode opcode = some op ∧ CommandStops b h.device.settings data op := by
  rw [hciCmd]
  rcases hop : HciOp.ofCode opcode with - | op
  · exact iff_of_true ⟨⟨_, rfl⟩, [errUnknownCmd], rfl⟩ (by rintro ⟨op, hop, -⟩; cases hop)
  · rw [← HciOp.code_of_ofCode hop]
    simp only [Option.some.injEq, exists_eq_left']
    cases op with
    | reset =>
      refine (hciReset_completes hs).trans (not_congr ⟨.reset, fun hstops ↦ ?_⟩)
      cases hstops with
      | reset hfault => exact hfault
      | receiver hp | transmitter hp => cases hp
    | readBdAddr =>
      exact iff_of_true (.ccEvt _ _) (not_commandStops (by decide) rfl rfl)
    | leReadLocalFeatures =>
      exact iff_of_true hciReadLocalFeatures_completes (not_commandStops (by decide) rfl rfl)
    | leRxTest | leEnhRxTest | leRxTestV3 =>
      exact (hciRxTest_completes rfl).trans (not_congr (commandStops_rx rfl).symm)
    | leTxTest | leEnhTxTest | leTxTestV3 | leTxTestV4 =>
      exact (hciTxTest_completes hb hs rfl).trans (not_congr (commandStops_tx rfl).symm)
    | leTestEnd => exact iff_of_true hciTestEnd_completes (not_commandStops (by decide) rfl rfl)

/-- **One command, one completion**: in every reachable state, a command is answered with exactly
one Command Complete event, and comes to its end, exactly when no assertion stops it. The
condition is on the command and on the settings it finds. -/
theorem completes_once_iff (hb : b.PowerTable) {f : Firmware} (hf : f.Reachable b q)
    (buf : ℕ → UInt8) :
    f.CompletesOnce b q buf ↔
      ¬∃ op, HciOp.ofCode (cmdOpcode buf) = some op ∧
        CommandStops b f.device.settings (fun i ↦ buf (3 + i)) op :=
  hciCmd_completes hb (hf.onTable hb) (cmdOpcode buf) fun i ↦ buf (3 + i)

/-- A Transmitter Test of 37 octets on a channel. -/
def txTestOn (chan : UInt8) : ℕ → UInt8 := ([0x1E, 0x20, 0x03, chan, 37, 0].getD · 0)

/-- A Transmitter Test on the highest channel meets no assertion. -/
theorem completes_once_iff_nrf5340 :
    (Firmware.ofDevice .nrf5340).CompletesOnce (.nrf5340 true false) 1024 (txTestOn 39) := by
  refine (completes_once_iff (Build.nrf5340_powerTable true false)
    (Firmware.ofDevice_reachable (Device.nrf5340_initialised true false)) _).2 ?_
  rintro ⟨op, hop, hstops⟩
  cases (show HciOp.ofCode (cmdOpcode (txTestOn 39)) = some .leTxTest by decide).symm.trans hop
  obtain ⟨-, -, hfault | hpower⟩ := (commandStops_tx rfl).1 hstops
  · cases hfault.1
  · exact absurd hpower.chan (by decide)

/-- **On channel 40 the power request stops the firmware** before anything is answered. -/
theorem completes_once_channel40 :
    (Firmware.ofDevice .nrf5340).Reachable (.nrf5340 true false) 1024 ∧
      cmdOpcode (txTestOn 40) = HciOp.leTxTest.code ∧
      (Firmware.ofDevice .nrf5340).process (.nrf5340 true false) 1024 h4TypeCmd (txTestOn 40) =
        .error .channel ∧
      uartWrites (.nrf5340 true false) 1024 (dtmTrProcess h4TypeCmd (txTestOn 40))
        (Firmware.ofDevice .nrf5340).host = [] ∧
      ¬(Firmware.ofDevice .nrf5340).CompletesOnce (.nrf5340 true false) 1024 (txTestOn 40) := by
  have hprocess : (dtmTrProcess h4TypeCmd (txTestOn 40)).run
      (hostHandler (.nrf5340 true false) 1024) (Firmware.ofDevice .nrf5340).host =
        .error .channel := rfl
  refine ⟨Firmware.ofDevice_reachable (Device.nrf5340_initialised true false), by decide, ?_, rfl,
    fun hcompletes ↦ ?_⟩
  · rw [Firmware.process, hprocess]
    rfl
  · obtain ⟨x, hx⟩ := hcompletes.returns
    cases hprocess.symm.trans hx

end DirectTestMode
