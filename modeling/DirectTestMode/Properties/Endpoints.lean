import DirectTestMode.Dtm.Invariant
import DirectTestMode.Dtm.Channel

/-!
# What the end of a test leaves on the PPI channel

`radio_ppi_clear` detaches the events and TIMER START always, and a radio task only if the machine
state says that the test attached it: TXEN in a Transmitter Test, RXEN in a Receiver Test. So the
clean-up fits the set-up as long as TXEN stands on the channel in Transmitter Tests only and RXEN in
Receiver Tests only. That is `Control.Balanced`, and two actions break it:

* a carrier test with a front-end module attaches TXEN, and no branch of the clean-up is for it;
* a reception that starts over a Transmitter Test takes the machine state away from TXEN.

`test_done_clean_iff` says that these are the only ways to a channel that is not clean.

## The level of the argument

The proof is about `Control`, the pair of machine state and channel that `Dtm.Control` reduces every
input of the device to. On it the clean-up, the two set-ups and the five actions are functions on
finite sets, and the step is two lemmas: an action that fits keeps the balance
(`Control.Balanced.act`), and one that does not leaves TXEN behind
(`Control.Balanced.fits_of_clean`). Neither mentions a radio.

Back on the device, `detachable_iff` turns "the action fits" into a condition on the input and the
state before it, so that the guard of `test_done_clean_iff` can be checked without running the step.
An input that an assertion stops is detachable: nothing is left on the channel by a step that does
not return.

The result quantifies over every prefix of the run. A channel that is not clean may be cleaned by a
later test of the same kind, so the end of the run alone would not tell.
-/

namespace DirectTestMode

open Fallible

/-! ### The clean-up -/

/-- The channel is off and nothing is attached to it. -/
structure PpiChannel.Clean (c : PpiChannel) : Prop where
  enabled : c.enabled = false
  events : c.events = ∅
  tasks : c.tasks = ∅

/-- What is left of the tasks: a radio task that the machine state does not name. -/
theorem mem_radioPpiClear_tasks {state : DtmState} {c : PpiChannel} {t : PpiTask} :
    t ∈ (radioPpiClear state c).tasks ↔ t ∈ c.tasks ∧ t ≠ .timerStart ∧
      ¬ (t = .radioTxen ∧ state = .transmitterTest) ∧
      ¬ (t = .radioRxen ∧ state = .receiverTest) := by
  cases state <;> cases t <;>
    simp [radioPpiClear, PpiChannel.channelsDisable, PpiChannel.eventEndpointClear,
      PpiChannel.taskEndpointClear, PpiChannel.forkEndpointClear]

/-- **The clean-up is complete** exactly when the machine state names every radio task. -/
theorem radioPpiClear_clean_iff {state : DtmState} {c : PpiChannel} :
    (radioPpiClear state c).Clean ↔
      (.radioTxen ∈ c.tasks → state = .transmitterTest) ∧
      (.radioRxen ∈ c.tasks → state = .receiverTest) := by
  constructor
  · intro h
    have hleft (t : PpiTask) : t ∉ (radioPpiClear state c).tasks := by
      rw [h.tasks]
      exact Finset.notMem_empty t
    constructor
    · intro hmem
      by_contra hstate
      exact hleft .radioTxen (mem_radioPpiClear_tasks.2 ⟨hmem, nofun, by simp [hstate], by simp⟩)
    · intro hmem
      by_contra hstate
      exact hleft .radioRxen (mem_radioPpiClear_tasks.2 ⟨hmem, nofun, by simp, by simp [hstate]⟩)
  · rintro ⟨htx, hrx⟩
    refine ⟨radioPpiClear_enabled _ _, radioPpiClear_events _ _,
      Finset.eq_empty_of_forall_notMem fun t ht ↦ ?_⟩
    obtain ⟨hmem, hstart, htxen, hrxen⟩ := mem_radioPpiClear_tasks.1 ht
    cases t with
    | radioTxen => exact htxen ⟨rfl, htx hmem⟩
    | radioRxen => exact hrxen ⟨rfl, hrx hmem⟩
    | timerStart => exact hstart rfl

/-! ### The balance of set-up and clean-up -/

/-- Every radio task on the channel is the one of the running test. A Transmitter Test always has
its own there; a reception without a front-end module does without. -/
structure Control.Balanced (c : Control) : Prop where
  txen : .radioTxen ∈ c.ppi.tasks ↔ c.state = .transmitterTest
  rxen : .radioRxen ∈ c.ppi.tasks → c.state = .receiverTest

/-- Ending the test of a balanced machine detaches everything. -/
theorem Control.Balanced.clean {c : Control} (h : c.Balanced) :
    (radioPpiClear c.state c.ppi).Clean :=
  radioPpiClear_clean_iff.2 ⟨h.txen.1, h.rxen⟩

/-- Setting a test up adds TIMER START and the radio task of its direction. -/
theorem mem_radioPpiConfigure_tasks {rx : Bool} {c : PpiChannel} {t : PpiTask} :
    t ∈ (radioPpiConfigure rx c).tasks ↔
      t ∈ c.tasks ∨ t = .timerStart ∨ t = if rx then .radioRxen else .radioTxen := by
  simp only [radioPpiConfigure, PpiChannel.channelEndpointsSetup, PpiChannel.forkEndpointSetup,
    PpiChannel.channelsEnable, Finset.mem_insert]
  tauto

/-- The reconfiguration of a Transmitter Test takes TIMER START off the channel and leaves TXEN
on it. -/
theorem mem_radioTxPpiReconfigure_tasks {c : PpiChannel} {t : PpiTask} :
    t ∈ (radioTxPpiReconfigure c).tasks ↔ t = .radioTxen ∨ (t ∈ c.tasks ∧ t ≠ .timerStart) := by
  simp only [radioTxPpiReconfigure, PpiChannel.channelsDisable, PpiChannel.forkEndpointClear,
    PpiChannel.eventEndpointClear, PpiChannel.eventEndpointSetup,
    PpiChannel.channelEndpointsSetup, PpiChannel.channelsEnable, Finset.mem_insert,
    Finset.mem_erase]
  tauto

/-- The actions that attach what the clean-up will detach. -/
def Control.Fits (fem : Bool) (c : Control) : ControlAction → Prop
  | .receive => c.state ≠ .transmitterTest
  | .carrier => fem = false
  | _ => True

/-- Transmissions of either kind start from idle. -/
def Control.Enters (c : Control) (a : ControlAction) : Prop :=
  a = .carrier ∨ a = .transmit → c.state = .idle

/-- **The balance is kept by the actions that fit.** -/
theorem Control.Balanced.act {fem : Bool} {c : Control} {a : ControlAction} (h : c.Balanced)
    (henter : c.Enters a) (hfits : c.Fits fem a) : (c.act fem a).Balanced := by
  cases a with
  | keep => exact h
  | done =>
    have hclean := h.clean
    constructor <;> simp [Control.act, hclean.tasks]
  -- away from a Transmitter Test no TXEN stands on the channel
  | receive =>
    have htx : .radioTxen ∉ c.ppi.tasks := fun hmem ↦ hfits (h.txen.1 hmem)
    cases fem <;> constructor <;> simp [Control.act, mem_radioPpiConfigure_tasks, htx]
  | carrier =>
    have hidle : c.state = .idle := henter (.inl rfl)
    have htx : .radioTxen ∉ c.ppi.tasks := fun hmem ↦ nomatch hidle ▸ h.txen.1 hmem
    have hrx : .radioRxen ∉ c.ppi.tasks := fun hmem ↦ nomatch hidle ▸ h.rxen hmem
    obtain rfl : fem = false := hfits
    constructor <;> simp [Control.act, htx, hrx]
  | transmit =>
    have hidle : c.state = .idle := henter (.inr rfl)
    have hrx : .radioRxen ∉ c.ppi.tasks := fun hmem ↦ nomatch hidle ▸ h.rxen hmem
    constructor <;>
      simp [Control.act, mem_radioTxPpiReconfigure_tasks, mem_radioPpiConfigure_tasks, hrx]

/-- **An action that does not fit leaves TXEN behind** when the test it starts is ended. -/
theorem Control.Balanced.fits_of_clean {fem : Bool} {c : Control} {a : ControlAction}
    (h : c.Balanced)
    (hclean : (radioPpiClear (c.act fem a).state (c.act fem a).ppi).Clean) : c.Fits fem a := by
  have htx := (radioPpiClear_clean_iff.1 hclean).1
  cases a with
  | keep | done | transmit => trivial
  | receive =>
    intro hstate
    have hmem : .radioTxen ∈ c.ppi.tasks := h.txen.2 hstate
    refine nomatch htx ?_
    cases fem <;> simp [Control.act, mem_radioPpiConfigure_tasks, hmem]
  | carrier =>
    cases fem with
    | false => rfl
    | true => exact nomatch htx (by simp [Control.act, mem_radioPpiConfigure_tasks])

/-! ### Runs of the device -/

/-- `dtm_test_transmit` starts a carrier test. -/
structure CarrierStarts (b : Build) (s : Device) (channel length : UInt8) (pkt : DtmPacket) :
    Prop where
  idle : s.state = .idle
  vendor : resolvePacket s.radioMode pkt = .vendor
  carrier : carrierLength length = true
  gain : femGainRefused b s = false
  channel : channel.toNat ≤ physChMax

/-- The input does not start a reception over a Transmitter Test, and with a front-end module it
does not start a carrier test. -/
structure Detachable (b : Build) (s : Device) (i : Input) : Prop where
  receive : ∀ channel, i = .call (.testReceive channel) → s.state = .transmitterTest →
    physChMax < channel.toNat
  carrier : ∀ channel length pkt, i = .call (.testTransmit channel length pkt) → b.fem = true →
    ¬ CarrierStarts b s channel length pkt

/-- A transmit call is a carrier test under these conditions, and the channel is not one of them. -/
theorem transmitAction_carrier {b : Build} {s : Device} {channel length : UInt8}
    {pkt : DtmPacket} :
    transmitAction b channel length pkt s = .carrier ↔
      s.state = .idle ∧ resolvePacket s.radioMode pkt = .vendor ∧ carrierLength length = true ∧
        femGainRefused b s = false := by
  rw [transmitAction]
  split_ifs <;> simp_all

/-- The library starts no transmission over a running test. -/
theorem Input.action_enters (b : Build) (s : Device) (i : Input) :
    s.control.Enters (i.action b s) := by
  intro ha
  have hstarts : (i.action b s).starts = true := by
    rcases ha with ha | ha <;> rw [ha] <;> rfl
  rcases Input.action_starts hstarts with hidle | ⟨channel, rfl, hc⟩
  · exact hidle
  · rw [action, Call.action, if_pos hc] at ha
    rcases ha with ha | ha <;> cases ha

/-- Only a transmit call has the action of the carrier test. -/
theorem Input.action_carrier {b : Build} {s : Device} {i : Input}
    (h : i.action b s = .carrier) :
    ∃ channel length pkt, i = .call (.testTransmit channel length pkt) ∧
      transmitAction b channel length pkt s = .carrier := by
  cases i with
  | call c =>
    cases c with
    | testTransmit channel length pkt => exact ⟨channel, length, pkt, rfl, h⟩
    | testReceive channel =>
      rw [action, Call.action] at h
      split at h <;> cases h
    | testEnd packCnt => cases packCnt <;> cases h
    | init | setupPrepare | setupReset | setupSetPhy | setupSetModulation | setupReadFeatures
    | setupReadMaxSupportedValue | setupSetCteMode | setupSetCteSlot | setupSetAntennaParams
    | setupSetTransmitPower => cases h
  | radio ev => cases h
  | anomaly ev => cases h

/-- An input is detachable when its action fits, or when the input is stopped by an assertion. -/
theorem detachable_iff {b : Build} {s : Device} {i : Input} :
    Detachable b s i ↔ ∀ s', s.step b i = .ok s' → s.control.Fits b.fem (i.action b s) := by
  constructor
  · intro hi s' h
    cases ha : i.action b s with
    | keep | done | transmit => trivial
    | receive =>
      intro hstate
      rcases Input.action_starts (i := i) (s := s) (b := b) (by rw [ha]; rfl) with
        hidle | ⟨channel, rfl, hc⟩
      · exact nomatch hidle.symm.trans hstate
      · exact absurd (hi.receive channel rfl hstate) (Nat.not_lt.2 hc)
    | carrier =>
      obtain ⟨channel, length, pkt, rfl, hcarrier⟩ := Input.action_carrier ha
      -- the step succeeded, so the channel is legal and the carrier did start
      obtain ⟨hidle, hvendor, hlength, hgain⟩ := transmitAction_carrier.1 hcarrier
      obtain ⟨x, hx, -⟩ := bind_eq_ok.1 h
      refine Bool.eq_false_iff.2 fun hfem ↦ hi.carrier channel length pkt rfl hfem
        ⟨hidle, hvendor, hlength, hgain, Nat.le_of_not_lt fun hc ↦ ?_⟩
      exact nomatch (dtmTestTransmit_error.2 ⟨rfl, hidle, hvendor, hlength, hc⟩).symm.trans hx
  · intro h
    refine ⟨?_, ?_⟩
    · rintro channel rfl hstate
      refine Nat.lt_of_not_le fun hc ↦ ?_
      obtain ⟨radio, -, hok⟩ := dtmTestReceive_legal b s hc
      have hfits := h _ (bind_eq_ok.2 ⟨_, hok, rfl⟩)
      rw [Input.action, Call.action, if_pos hc] at hfits
      exact hfits hstate
    · rintro channel length pkt rfl hfem hstart
      rcases hok : dtmTestTransmit b channel length pkt s with e | x
      · exact absurd (dtmTestTransmit_error.1 hok).2.2.2.2 (Nat.not_lt.2 hstart.channel)
      · have hfits := h _ (bind_eq_ok.2 ⟨x, hok, rfl⟩)
        rw [Input.action, Call.action, transmitAction_carrier.2
          ⟨hstart.idle, hstart.vendor, hstart.carrier, hstart.gain⟩, hfem] at hfits
        cases hfits

/-- **One step.** On a balanced device in use, what the input leaves can be cleaned up exactly when
the input is detachable. -/
theorem step_clean_iff {b : Build} {s : Device} {i : Input} (hs : s.Inv b)
    (hbalanced : s.control.Balanced) :
    (∀ s', s.step b i = .ok s' → (dtmTestDone b s').ppiRadioStart.Clean) ↔ Detachable b s i := by
  rw [detachable_iff]
  refine forall_congr' fun s' ↦ imp_congr_right fun h ↦ ?_
  show (radioPpiClear s'.control.state s'.control.ppi).Clean ↔ _
  rw [Device.step_control hs.timerInit h]
  exact ⟨hbalanced.fits_of_clean, fun hfits ↦ (hbalanced.act (i.action_enters b s) hfits).clean⟩

/-- Nothing is attached after the initialisation. -/
theorem Initialised.balanced {b : Build} {s : Device} (h : Initialised b s) :
    s.control.Balanced := by
  obtain ⟨env, callback, h⟩ := h
  obtain ⟨radio, rfl⟩ := dtmInit_ok h
  constructor <;> simp [Device.control, Device.powerOn]

/-- **Ending a test disconnects everything, exactly on the runs that start no reception over a
Transmitter Test and, with a front-end module, no carrier test.** -/
theorem test_done_clean_iff {b : Build} {s : Device} (hs : Initialised b s) (is : List Input) :
    (∀ n s', run (Device.step b) s (is.take n) = .ok s' →
        (dtmTestDone b s').ppiRadioStart.Clean) ↔
      Guarded (Device.step b) (Detachable b) s is := by
  have hstep (s : Device) (i : Input) (s' : Device) (hs : s.Inv b ∧ s.control.Balanced)
      (hi : Detachable b s i) (h : s.step b i = .ok s') : s'.Inv b ∧ s'.control.Balanced := by
    refine ⟨hs.1.step h, ?_⟩
    rw [Device.step_control hs.1.timerInit h]
    exact hs.2.act (i.action_enters b s) (detachable_iff.1 hi s' h)
  rw [Guarded.forall_take_iff]
  refine (and_iff_right hs.balanced.clean).trans ?_
  exact Guarded.congr hstep (fun s i hs ↦ step_clean_iff hs.1 hs.2) ⟨hs.inv, hs.balanced⟩

/-- The end of a Transmitter Test leaves a clean channel in a build with a front-end module. -/
theorem test_done_clean_iff_transmitter_test :
    ∃ s', run (Device.step (.nrf5340 true true)) .nrf5340
        [.call .setupPrepare, .call (.testTransmit 0 37 .prbs9)] = .ok s' ∧
      (dtmTestDone (.nrf5340 true true) s').ppiRadioStart.Clean := by
  obtain ⟨pdu, radio, anomalyTimer, timer, -, htx⟩ := dtmTestTransmit_modulated
    (b := .nrf5340 true true) (s := dtmSetupPrepare (.nrf5340 true true) .nrf5340) 0 37 rfl
    (show resolvePacket .ble1Mbit .prbs9 ≠ .vendor by decide) (by decide) rfl
  have hstep : Device.step (.nrf5340 true true) (dtmSetupPrepare (.nrf5340 true true) .nrf5340)
      (.call (.testTransmit 0 37 .prbs9)) = .ok _ := bind_eq_ok.2 ⟨_, htx, rfl⟩
  have hrun : run (Device.step (.nrf5340 true true)) .nrf5340
      [.call .setupPrepare, .call (.testTransmit 0 37 .prbs9)] = .ok _ :=
    bind_eq_ok.2 ⟨_, rfl, bind_eq_ok.2 ⟨_, hstep, rfl⟩⟩
  have hdetachable : Guarded (Device.step (.nrf5340 true true)) (Detachable (.nrf5340 true true))
      .nrf5340 [.call .setupPrepare, .call (.testTransmit 0 37 .prbs9)] := by
    refine ⟨⟨nofun, nofun⟩, fun s' _ ↦ ⟨⟨nofun, ?_⟩, fun _ _ ↦ trivial⟩⟩
    rintro channel length pkt ⟨⟩ - hstart
    exact absurd hstart.carrier (by decide)
  refine ⟨_, hrun, ?_⟩
  exact (test_done_clean_iff (Device.nrf5340_initialised true true) _).2 hdetachable 2 _ hrun

/-- A Receiver Test that starts over a Transmitter Test leaves RADIO TXEN on the channel, and so
does a carrier test with a front-end module. -/
theorem test_done_keeps_txen :
    (∃ s', run (Device.step (.nrf5340 true false)) .nrf5340
        [.call (.testTransmit 0 37 .prbs9), .call (.testReceive 5)] = .ok s' ∧
      .radioTxen ∈ (dtmTestDone (.nrf5340 true false) s').ppiRadioStart.tasks) ∧
    ∃ s', run (Device.step (.nrf5340 true true)) .nrf5340
        [.call (.testTransmit 0 0 .ffOrVendor)] = .ok s' ∧
      .radioTxen ∈ (dtmTestDone (.nrf5340 true true) s').ppiRadioStart.tasks := by
  constructor
  · obtain ⟨_, _, htx, -, -, hrx, hstate, -, htxen⟩ := dtmTestReceive_over_transmit
      (b := .nrf5340 true false) (s := .nrf5340) 0 37 5 rfl
      (show resolvePacket .ble1Mbit .prbs9 ≠ .vendor by decide) (by decide) rfl (by decide)
    refine ⟨_, bind_eq_ok.2 ⟨_, bind_eq_ok.2 ⟨_, htx, rfl⟩,
      bind_eq_ok.2 ⟨_, bind_eq_ok.2 ⟨_, hrx, rfl⟩, rfl⟩⟩, mem_radioPpiClear_tasks.2
      ⟨htxen, nofun, fun h ↦ (nomatch hstate.symm.trans h.2), fun h ↦ (nomatch h.1)⟩⟩
  · exact ⟨_, rfl, by decide⟩

end DirectTestMode
