import DirectTestMode.Transport.CmdCore
import DirectTestMode.Transport.UartTwowire
import DirectTestMode.Transport.Hci

/-!
# The firmware as a machine

A `Firmware` is the host with the `upper_len` of each decoder. It takes command words on either
decoder, HCI packets and interrupts, in any order; a build that has only some of these runs fewer of
the inputs. So a property of all runs of this machine holds of every transport, and of what a tester
could do with two of them at once.

## One input as one program

A word and a packet are programs of the transport, run on the host. `Firmware.step_word`,
`step_uartWord` and `step_hci` state a step as that run, with the static variables put back; they
are what the later proofs rewrite with, and the definitions of `put` and `process` are not unfolded
again.

## The rule for reachable states

`DeviceInvariant` is what the library keeps: every call, every interrupt and every write of an
antenna pattern. `DeviceInvariant.reachable` says that such a property holds of the device in every
reachable state of the firmware. It is used for each of the invariants of the device, and it is why
a transport needs no invariant proof of its own: whatever program a word is decoded into, it can
only call the library.

`Firmware.Reachable.upperOnly` is the one invariant of a static variable. It is by induction over
the run, because the shared core reads `upper_len` and writes it back.
-/

namespace DirectTestMode

open Fallible

/-- The host and the static variables of the decoders. -/
structure Firmware where
  host : Host
  /-- `upper_len` of `dtm_cmd_core.c`. -/
  upperLen : UInt8
  /-- `upper_len` of `dtm_uart_twowire.c`. -/
  uartUpperLen : UInt8

/-- The library's part of the firmware. -/
def Firmware.device (f : Firmware) : Device := f.host.device

/-- What can happen to the firmware. -/
inductive FirmwareInput
  /-- A word for the shared core. -/
  | word (cmd : UInt16)
  /-- A word for the UART decoder. -/
  | uartWord (cmd : UInt16)
  /-- A buffer for `dtm_tr_process` of the HCI transport. -/
  | hci (type : UInt8) (buf : ℕ → UInt8)
  | radio (ev : RadioEvent)
  | anomaly (ev : AnomalyEvent)
  /-- The UART is done with a packet. -/
  | txDone

variable (b : Build) (q : ℕ)

/-- A word on the shared core: the response and the state after it. -/
def Firmware.put (f : Firmware) (cmd : UInt16) : Except Fault (UInt16 × Firmware) := do
  let x ← (CmdCore.dtmCmdPut cmd f.upperLen).run (hostHandler b q) f.host
  pure (x.1.1, { f with host := x.2, upperLen := x.1.2 })

/-- A word on the UART decoder. -/
def Firmware.uartPut (f : Firmware) (cmd : UInt16) : Except Fault (UInt16 × Firmware) := do
  let x ← (UartTwowire.dtmCmdPut cmd f.uartUpperLen).run (hostHandler b q) f.host
  pure (x.1.1, { f with host := x.2, uartUpperLen := x.1.2 })

/-- An HCI packet: the return value and the state after it. -/
def Firmware.process (f : Firmware) (type : UInt8) (buf : ℕ → UInt8) :
    Except Fault (Ret × Firmware) := do
  let x ← (Hci.dtmTrProcess type buf).run (hostHandler b q) f.host
  pure (x.1, { f with host := x.2 })

/-- The firmware after an interrupt changed the device. -/
def Firmware.withDevice (f : Firmware) (s : Device) : Firmware :=
  { f with host := { f.host with device := s } }

/-- One word, packet or interrupt. -/
def Firmware.step (f : Firmware) : FirmwareInput → Except Fault Firmware
  | .word cmd => do
    let x ← f.put b q cmd
    pure x.2
  | .uartWord cmd => do
    let x ← f.uartPut b q cmd
    pure x.2
  | .hci type buf => do
    let x ← f.process b q type buf
    pure x.2
  | .radio ev => do
    let s ← f.device.step b (.radio ev)
    pure (f.withDevice s)
  | .anomaly ev => do
    let s ← f.device.step b (.anomaly ev)
    pure (f.withDevice s)
  | .txDone =>
    .ok { f with host := { f.host with tx := { f.host.tx with free := f.host.tx.free + 1 } } }

/-- The states in which the transports start: `dtm_init` has succeeded. -/
def Firmware.Initial (f : Firmware) : Prop :=
  Initialised b f.device ∧ f.upperLen = 0 ∧ f.uartUpperLen = 0

/-- The states of the firmware in its runs. -/
def Firmware.Reachable (f : Firmware) : Prop :=
  Fallible.Reachable (Firmware.step b q) (Firmware.Initial b) f

variable {b q}

/-! ### One input as one program -/

/-- A word on the shared core, as a run of its program. -/
theorem Firmware.step_word (f : Firmware) (cmd : UInt16) :
    f.step b q (.word cmd) =
      (CmdCore.dtmCmdPut cmd f.upperLen).run (hostHandler b q) f.host >>= fun x ↦
        .ok { f with host := x.2, upperLen := x.1.2 } := by
  rw [step, put]
  cases (CmdCore.dtmCmdPut cmd f.upperLen).run (hostHandler b q) f.host <;> rfl

/-- A word on the UART decoder, likewise. -/
theorem Firmware.step_uartWord (f : Firmware) (cmd : UInt16) :
    f.step b q (.uartWord cmd) =
      (UartTwowire.dtmCmdPut cmd f.uartUpperLen).run (hostHandler b q) f.host >>= fun x ↦
        .ok { f with host := x.2, uartUpperLen := x.1.2 } := by
  rw [step, uartPut]
  cases (UartTwowire.dtmCmdPut cmd f.uartUpperLen).run (hostHandler b q) f.host <;> rfl

/-- An HCI packet, likewise. It has no static variable. -/
theorem Firmware.step_hci (f : Firmware) (type : UInt8) (buf : ℕ → UInt8) :
    f.step b q (.hci type buf) =
      (Hci.dtmTrProcess type buf).run (hostHandler b q) f.host >>= fun x ↦
        .ok { f with host := x.2 } := by
  rw [step, process]
  cases (Hci.dtmTrProcess type buf).run (hostHandler b q) f.host <;> rfl

/-- A Transmitter Test word on the shared core is a `dtm_test_transmit`. -/
theorem Firmware.put_transmit (f : Firmware) {cmd : UInt16} (hcode : cmdCode cmd = 2)
    {type : DtmPktType} (htype : DtmPktType.ofCode (cmdType cmd) = some type) :
    f.put b q cmd =
      dtmTestTransmit b (cmdChan cmd) (withUpperLen (cmdLength cmd) f.upperLen) type.packet
        f.device >>= fun x ↦
        .ok (CmdCore.decoder.statusEvent x.1 0, f.withDevice x.2) := by
  rw [put, CmdCore.dtmCmdPut, Decoder.dtmCmdPut_transmitterTest _ _ hcode htype, Prog.run_bind]
  let r := dtmTestTransmit b (cmdChan cmd) (withUpperLen (cmdLength cmd) f.upperLen) type.packet
    f.device
  show (((r >>= _) >>= _) >>= _) >>= _ = r >>= _
  cases r <;> rfl

/-! ### Invariants of the device -/

/-- What a device keeps through calls, interrupts and writes of the antenna pattern buffers. -/
structure DeviceInvariant (b : Build) (J : Device → Prop) : Prop where
  step : ∀ s i s', J s → s.step b i = .ok s' → J s'
  patterns : ∀ s p, J s → J { s with patterns := p }

/-- An operation keeps what the library keeps: it is a call, a copy, or none of the device's
business. -/
theorem DeviceInvariant.host {J : Device → Prop} (hJ : DeviceInvariant b J)
    (op : TransportOp) (h : Host) (x : transport.Res op × Host) (hh : J h.device)
    (hx : hostHandler b q op h = .ok x) : J x.2.device := by
  cases op with
  | dtm c =>
    obtain ⟨y, hy, hx⟩ := bind_eq_ok.1 hx
    cases hx
    exact hJ.step h.device (.call c) y.2 hh (bind_eq_ok.2 ⟨y, hy, rfl⟩)
  | patternStore pattern src =>
    obtain ⟨p, -, hx⟩ := bind_eq_ok.1 hx
    cases hx
    exact hJ.patterns h.device p hh
  | uartWrite type hdr pld =>
    cases hx
    exact hh

/-- **A transport keeps what the library keeps.** -/
theorem DeviceInvariant.run {α : Type} {J : Device → Prop} (hJ : DeviceInvariant b J)
    (p : Prog transport α) {h : Host} {x : α × Host} (hh : J h.device)
    (hx : p.run (hostHandler b q) h = .ok x) : J x.2.device :=
  Prog.run_invariant (J := fun h ↦ J h.device) hJ.host p hh hx

/-- **So does a step of the firmware**, whichever transport it comes through. -/
theorem DeviceInvariant.firmware {J : Device → Prop} (hJ : DeviceInvariant b J) {f f' : Firmware}
    {i : FirmwareInput} (hf : J f.device) (h : f.step b q i = .ok f') : J f'.device := by
  cases i with
  | word cmd =>
    rw [f.step_word] at h
    obtain ⟨x, hx, h⟩ := bind_eq_ok.1 h
    cases h
    exact hJ.run _ hf hx
  | uartWord cmd =>
    rw [f.step_uartWord] at h
    obtain ⟨x, hx, h⟩ := bind_eq_ok.1 h
    cases h
    exact hJ.run _ hf hx
  | hci type buf =>
    rw [f.step_hci] at h
    obtain ⟨x, hx, h⟩ := bind_eq_ok.1 h
    cases h
    exact hJ.run _ hf hx
  | radio ev =>
    obtain ⟨s, hs, h⟩ := bind_eq_ok.1 h
    cases h
    exact hJ.step f.device (.radio ev) s hf hs
  | anomaly ev =>
    obtain ⟨s, hs, h⟩ := bind_eq_ok.1 h
    cases h
    exact hJ.step f.device (.anomaly ev) s hf hs
  | txDone =>
    cases h
    exact hf

/-- **The rule for reachable states of the firmware.** What holds after every initialisation, and
is kept by the library, holds of the device in every reachable state. -/
theorem DeviceInvariant.reachable {J : Device → Prop} (hJ : DeviceInvariant b J)
    (hinit : ∀ s, Initialised b s → J s) {f : Firmware} (hf : f.Reachable b q) :
    J f.device :=
  Reachable.invariant (fun f hf ↦ hinit f.device hf.1)
    (fun _ _ _ hf h ↦ hJ.firmware hf h) hf

/-- `upper_len` of the shared core holds nothing but upper bits. -/
theorem Firmware.Reachable.upperOnly {f : Firmware} (hf : f.Reachable b q) :
    UpperOnly f.upperLen := by
  refine Fallible.Reachable.invariant (I := fun f ↦ UpperOnly f.upperLen) ?_ ?_ hf
  · rintro f ⟨-, h, -⟩
    rw [h]
    rfl
  · intro f i f' hf h
    cases i with
    -- no other input writes `upper_len` of the core
    | word cmd =>
      rw [f.step_word] at h
      obtain ⟨x, hx, h⟩ := bind_eq_ok.1 h
      cases h
      exact (CmdCore.dtmCmdPut_returns cmd hf).run hx
    | uartWord cmd =>
      rw [f.step_uartWord] at h
      obtain ⟨x, -, h⟩ := bind_eq_ok.1 h
      cases h
      exact hf
    | hci type buf =>
      rw [f.step_hci] at h
      obtain ⟨x, -, h⟩ := bind_eq_ok.1 h
      cases h
      exact hf
    | radio ev | anomaly ev =>
      obtain ⟨s, -, h⟩ := bind_eq_ok.1 h
      cases h
      exact hf
    | txDone =>
      cases h
      exact hf

/-! ### A firmware to run -/

/-- The firmware after its initialisation, with the transmit buffers free. -/
def Firmware.ofDevice (s : Device) : Firmware := ⟨⟨s, ⟨16, []⟩⟩, 0, 0⟩

/-- It is a reachable one. -/
theorem Firmware.ofDevice_reachable {s : Device} (h : Initialised b s) :
    (Firmware.ofDevice s).Reachable b q :=
  .start ⟨h, rfl, rfl⟩

/-- The operations that a program issues in a state of the firmware. -/
def Firmware.issues {α : Type} (b : Build) (q : ℕ) (f : Firmware)
    (p : Prog transport α) : List TransportOp :=
  p.calls (hostHandler b q) f.host

end DirectTestMode
