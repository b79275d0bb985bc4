import Mathlib.Tactic.Basic
import DirectTestMode.Dtm.Api

/-!
# The control machine

What a call does to the machine state and to the PPI channel that starts the radio is one of five
actions. `Control` is the pair of the two, `Control.act` the effect of an action, and `Input.action`
reads off the action of an input from the state it arrives in.

`Device.step_control` says that the device refines this machine: after a step, the control part of
the device is the action's effect on the control part before. The results about tests and the PPI
channel are proved of the control machine and carried over by it.

The abstraction is small on purpose. It keeps the channel as the set of endpoints and not as a flag,
because whether a test leaves an endpoint behind is what the results about the end of a test are
about; and it forgets the channel number, the buffers and the radio, because no action depends on
them. What an action does depend on (the gain that the front-end module refuses, the legality of a
channel) is read by `Input.action` from the device, so the control machine itself has no data.

The refinement needs one fact about the device, that it is initialised: before the first
initialisation a call of `dtm_init` moves the machine state, and no action says so.
`Device.step_state` is the form that holds without it.
-/

namespace DirectTestMode

open Fallible

/-! ### The abstract machine -/

/-- The machine state and the PPI channel. -/
structure Control where
  state : DtmState
  ppi : PpiChannel
  deriving DecidableEq

/-- What an input does to the control part. -/
inductive ControlAction
  | keep | done | receive | carrier | transmit
  deriving DecidableEq, Repr

/-- The effect of an action. Only a build with a front-end module drives a reception or a carrier
through the channel; a transmission always is. -/
def Control.act (fem : Bool) (c : Control) : ControlAction → Control
  | .keep => c
  | .done => ⟨.idle, radioPpiClear c.state c.ppi⟩
  | .receive => ⟨.receiverTest, if fem then radioPpiConfigure true c.ppi else c.ppi⟩
  | .carrier => ⟨.carrierTest, if fem then radioPpiConfigure false c.ppi else c.ppi⟩
  | .transmit => ⟨.transmitterTest, radioTxPpiReconfigure (radioPpiConfigure false c.ppi)⟩

/-- The action starts a test. -/
def ControlAction.starts : ControlAction → Bool
  | keep | done => false
  | receive | carrier | transmit => true

/-! ### The action of an input -/

/-- The control part of a device. -/
def Device.control (s : Device) : Control := ⟨s.state, s.ppiRadioStart⟩

/-- The action of `dtm_test_transmit`. -/
def transmitAction (b : Build) (channel length : UInt8) (pkt : DtmPacket) (s : Device) :
    ControlAction :=
  if s.state ≠ .idle then .keep
  else if resolvePacket s.radioMode pkt = .vendor then
    if carrierLength length && !femGainRefused b s then .carrier else .keep
  else if channel.toNat ≤ physChMax && !femGainRefused b s then .transmit
  else .keep

/-- The action of a call. Ending a test without room for the count is none. -/
def Call.action (b : Build) (s : Device) : Call → ControlAction
  | .setupPrepare => .done
  | .testReceive channel => if channel.toNat ≤ physChMax then .receive else .keep
  | .testTransmit channel length pkt => transmitAction b channel length pkt s
  | .testEnd packCnt => if packCnt then .done else .keep
  | _ => .keep

/-- A set-up call has no action. -/
theorem Call.action_setup {b : Build} {s : Device} {c : Call} (h : c.isSetup = true) :
    c.action b s = .keep := by
  cases c <;> first | rfl | cases h

/-- An interrupt has no action: only calls start and end tests. -/
def Input.action (b : Build) (s : Device) : Input → ControlAction
  | .call c => c.action b s
  | .radio _ => .keep
  | .anomaly _ => .keep

/-- **Only a reception starts a test on a device that is not idle.** -/
theorem Input.action_starts {b : Build} {s : Device} {i : Input}
    (h : (i.action b s).starts = true) :
    s.state = .idle ∨
      ∃ channel, i = .call (.testReceive channel) ∧ channel.toNat ≤ physChMax := by
  cases i with
  | call c =>
    cases c with
    | testReceive channel =>
      refine .inr ⟨channel, rfl, ?_⟩
      by_contra hc
      rw [action, Call.action, if_neg hc] at h
      cases h
    | testTransmit channel length pkt =>
      refine .inl (by_contra fun hs ↦ ?_)
      rw [action, Call.action, transmitAction, if_pos hs] at h
      cases h
    | testEnd packCnt => cases packCnt <;> cases h
    | init | setupPrepare | setupReset | setupSetPhy | setupSetModulation | setupReadFeatures
    | setupReadMaxSupportedValue | setupSetCteMode | setupSetCteSlot | setupSetAntennaParams
    | setupSetTransmitPower => cases h
  | radio ev => cases h
  | anomaly ev => cases h

/-- An action that starts no test leaves the machine state, or makes it idle. -/
theorem Control.act_state_not_starts (fem : Bool) (c : Control) {a : ControlAction}
    (h : a.starts = false) : (c.act fem a).state = c.state ∨ (c.act fem a).state = .idle := by
  cases a with
  | keep => exact .inl rfl
  | done => exact .inr rfl
  | receive | carrier | transmit => cases h

/-! ### The refinement -/

/-- The set-up calls keep the control part, by their frame; the interrupts do so by theirs. -/
theorem KeepsTest.control {s s' : Device} (h : KeepsTest s s') : s'.control = s.control := by
  rw [Device.control, h.state, h.ppiRadioStart]
  rfl

theorem KeepsSetup.control {s s' : Device} (h : KeepsSetup s s') : s'.control = s.control := by
  rw [Device.control, h.state, h.ppiRadioStart]
  rfl

/-- The action of a transmit call, branch for branch of its inversion. A refused gain is a test
that does not start. -/
theorem dtmTestTransmit_control {b : Build} {channel length : UInt8} {pkt : DtmPacket}
    {s : Device} {x : Ret × Device} (h : dtmTestTransmit b channel length pkt s = .ok x) :
    x.2.control = s.control.act b.fem (transmitAction b channel length pkt s) := by
  rw [transmitAction]
  cases dtmTestTransmit_ok h with
  | busy hs =>
    rw [if_pos hs]
    rfl
  | channel hs hv hc =>
    rw [if_neg (not_not.2 hs), if_neg hv, decide_eq_false (Nat.not_le.2 hc)]
    rfl
  | setting hs hv hl =>
    rw [if_neg (not_not.2 hs), if_pos hv, hl]
    rfl
  | refused hs hgain =>
    -- the action is `keep` for either kind of test
    rw [if_neg (not_not.2 hs), hgain, Bool.not_true, Bool.and_false, Bool.and_false]
    split <;> rfl
  | carrier hs hv hl hgain =>
    rw [if_neg (not_not.2 hs), if_pos hv, hl, hgain]
    rfl
  | modulated hs hv hc hgain =>
    rw [if_neg (not_not.2 hs), if_neg hv, decide_eq_true hc, hgain]
    rfl

/-- The control part of a call. -/
theorem api_control {b : Build} {c : Call} {s : Device} {x : dtm.Res c × Device}
    (hinit : ∀ env callback, c = .init env callback → s.timerInit = true)
    (h : api b c s = .ok x) :
    x.2.control = s.control.act b.fem (c.action b s) := by
  cases hc : c.isSetup with
  | true =>
    rw [Call.action_setup hc]
    exact (api_keepsTest hinit hc h).control
  | false =>
    cases c with
    | setupPrepare =>
      cases h
      rfl
    | testReceive channel =>
      rcases Nat.lt_or_ge physChMax channel.toNat with hc | hc
      · cases (dtmTestReceive_illegal b s hc).symm.trans h
        rw [Call.action, if_neg (Nat.not_le.2 hc)]
        rfl
      · obtain ⟨radio, -, heq⟩ := dtmTestReceive_legal b s hc
        cases heq.symm.trans h
        rw [Call.action, if_pos hc]
        rfl
    | testTransmit channel length pkt => exact dtmTestTransmit_control h
    | testEnd packCnt =>
      cases h
      cases packCnt <;> rfl
    | init | setupReset | setupSetPhy | setupSetModulation | setupReadFeatures
    | setupReadMaxSupportedValue | setupSetCteMode | setupSetCteSlot | setupSetAntennaParams
    | setupSetTransmitPower => cases hc

/-- **The device refines the control machine.** -/
theorem Device.step_control {b : Build} {s s' : Device} {i : Input} (hinit : s.timerInit = true)
    (h : s.step b i = .ok s') : s'.control = s.control.act b.fem (i.action b s) := by
  cases i with
  | call c =>
    obtain ⟨x, hx, h⟩ := bind_eq_ok.1 h
    cases h
    exact api_control (fun _ _ _ ↦ hinit) hx
  | radio ev => exact (radioIrq_keepsSetup h).control
  | anomaly ev => exact (Device.step_anomaly_keepsSetup h).control

/-- A first initialisation makes the device idle, so the machine state of a step is always that of
its action, or idle. -/
theorem Device.step_state {b : Build} {s s' : Device} {i : Input} (h : s.step b i = .ok s') :
    s'.state = (s.control.act b.fem (i.action b s)).state ∨ s'.state = .idle := by
  cases i with
  | call c =>
    obtain ⟨x, hx, h⟩ := bind_eq_ok.1 h
    cases h
    cases c with
    | init env callback => exact dtmInit_state hx
    -- no other call needs the device to be initialised
    | setupPrepare | setupReset | setupSetPhy | setupSetModulation | setupReadFeatures
    | setupReadMaxSupportedValue | setupSetCteMode | setupSetCteSlot | setupSetAntennaParams
    | setupSetTransmitPower | testReceive | testTransmit | testEnd =>
      exact .inl (congrArg Control.state (api_control (by simp) hx))
  | radio ev => exact .inl (radioIrq_keepsSetup h).state
  | anomaly ev => exact .inl (Device.step_anomaly_keepsSetup h).state

end DirectTestMode
