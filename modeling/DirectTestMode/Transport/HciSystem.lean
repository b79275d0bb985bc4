import DirectTestMode.Transport.HciUart
import DirectTestMode.Transport.Firmware

/-!
# The HCI transport as a system

The UART callback fills receive buffers and queues them, and the main thread takes them from the
queue with `dtm_tr_get` and gives them to `dtm_tr_process`; callback, main thread and the interrupts
of the radio run in any order. `HciSystem.step` is that machine. Between the two calls of the main
thread the buffer is in its hands, so a buffer is at any time free, with the parser, in the queue or
with the main thread.

The transmit side is the simple queue of the interface here. This system is for results about the
receive side and about the device: who holds a buffer, when the parser runs out of them, and what a
packet does once it is complete. A node with both sides has its own module, and it shares the parser
and the handlers with this one.

`BufferStep` says what a step does to the buffers and nothing else. A step of the firmware is any
firmware there, so the invariants about buffers do not depend on what a command does. The one thing
they depend on is the type of the packet, because a buffer whose packet is no command is not
released: the source has a case for the command and a default that returns.

The two kinds of fault are kept apart in `HciFault`, and only the UART callback raises those of the
parser (`step_eq_rx`). A statement that no assertion of the reception fails is thus one about the
windows.
-/

namespace DirectTestMode

open Fallible HciUart
open DirectTestMode.Hci (h4TypeCmd)

variable {n : ℕ}

/-- The receive side, the main thread and the firmware that the commands are for. -/
structure HciSystem (n : ℕ) where
  rx : HciRx n
  /-- The buffer that `dtm_tr_get` has returned and `dtm_tr_process` is not done with. -/
  cmd : Option (Fin n)
  firmware : Firmware

/-- What stops the system. -/
inductive HciFault
  | rx (e : RxFault)
  | device (e : Fault)
  deriving DecidableEq

/-- What can happen to the system. -/
inductive HciInput
  /-- The UART hands over a window. -/
  | uartRx (w : RxWindow)
  /-- The main thread calls `dtm_tr_get`. -/
  | get
  /-- The main thread calls `dtm_tr_process`. -/
  | process
  | radio (ev : RadioEvent)
  | anomaly (ev : AnomalyEvent)
  | txDone

/-- The packet types that `dtm_tr_process` releases the buffer of. -/
def HciUart.NetBuf.isCmd (buf : NetBuf) : Bool := buf.userData == h4TypeCmd

namespace HciSystem

/-- `dtm_tr_get`; with an empty queue the main thread goes on waiting. -/
def dtmTrGet (s : HciSystem n) : HciSystem n :=
  match s.cmd, s.rx.queue with
  | none, i :: queue => { s with cmd := some i, rx := { s.rx with queue := queue } }
  | _, _ => s

/-- `dtm_tr_process` on the buffer that the main thread has. Only the case `H4_TYPE_CMD` releases
it. -/
def dtmTrProcess (b : Build) (q : ℕ) (s : HciSystem n) : Except Fault (HciSystem n) :=
  match s.cmd with
  | none => .ok s
  | some i => do
    let buf := s.rx.pool.block i
    let x ← s.firmware.process b q buf.userData buf.mem
    pure { s with
      cmd := none
      firmware := x.2
      rx := { s.rx with pool := if buf.isCmd then s.rx.pool.release i else s.rx.pool } }

/-- An input of the firmware that no buffer is involved in. -/
def firmwareStep (b : Build) (q : ℕ) (s : HciSystem n) (i : FirmwareInput) :
    Except Fault (HciSystem n) := do
  let f ← s.firmware.step b q i
  pure { s with firmware := f }

/-- One input. Transmit and receive buffers are both of `q` octets. -/
def step (b : Build) (q : ℕ) (s : HciSystem n) : HciInput → Except HciFault (HciSystem n)
  | .uartRx w =>
    match uartRxRdy q s.rx w with
    | .ok rx => .ok { s with rx := rx }
    | .error e => .error (.rx e)
  | .get => .ok s.dtmTrGet
  | .process => (s.dtmTrProcess b q).mapError .device
  | .radio ev => (s.firmwareStep b q (.radio ev)).mapError .device
  | .anomaly ev => (s.firmwareStep b q (.anomaly ev)).mapError .device
  | .txDone => (s.firmwareStep b q .txDone).mapError .device

/-- The system in which the transport starts. -/
def Initial (b : Build) (s : HciSystem n) : Prop :=
  s.rx = .powerOn n ∧ s.cmd = none ∧ s.firmware.Initial b

/-! ### What a step can do to the buffers -/

/-- **What a step does to the buffers**, input by input. -/
inductive BufferStep (q : ℕ) (s : HciSystem n) : HciInput → HciSystem n → Prop
  | uartRx {w : RxWindow} {rx : HciRx n} (h : uartRxRdy q s.rx w = .ok rx) :
      BufferStep q s (.uartRx w) { s with rx := rx }
  | wait : BufferStep q s .get s
  | get {i : Fin n} {queue : List (Fin n)} (hcmd : s.cmd = none)
      (hqueue : s.rx.queue = i :: queue) :
      BufferStep q s .get { s with cmd := some i, rx := { s.rx with queue := queue } }
  | nothing (hcmd : s.cmd = none) : BufferStep q s .process s
  | process {i : Fin n} (hcmd : s.cmd = some i) (f : Firmware) :
      BufferStep q s .process { s with
        cmd := none
        firmware := f
        rx := { s.rx with
          pool := if (s.rx.pool.block i).isCmd then s.rx.pool.release i else s.rx.pool } }
  | other {i : HciInput} (hrx : ∀ w, i ≠ .uartRx w) (hprocess : i ≠ .process) (f : Firmware) :
      BufferStep q s i { s with firmware := f }

/-- Telling the faults apart adds none. -/
theorem mapError_eq_ok {α : Type} {x : Except Fault α} {a : α} :
    x.mapError HciFault.device = .ok a ↔ x = .ok a := by
  cases x with
  | error e => simp [Except.mapError]
  | ok b => simp [Except.mapError]

theorem mapError_eq_rx {α : Type} {x : Except Fault α} {e : RxFault} :
    x.mapError HciFault.device ≠ .error (.rx e) := by
  cases x with
  | error e => simp [Except.mapError]
  | ok b => simp [Except.mapError]

/-- An interrupt changes the firmware only. -/
theorem firmwareStep_ok {b : Build} {q : ℕ} {s s' : HciSystem n} {i : FirmwareInput}
    (h : s.firmwareStep b q i = .ok s') : ∃ f, s' = { s with firmware := f } := by
  obtain ⟨f, -, h⟩ := bind_eq_ok.1 h
  cases h
  exact ⟨f, rfl⟩

/-- **A step does one of these to the buffers.** -/
theorem bufferStep {b : Build} {q : ℕ} {s s' : HciSystem n} {i : HciInput}
    (h : s.step b q i = .ok s') : BufferStep q s i s' := by
  cases i with
  | uartRx w =>
    rw [step] at h
    split at h
    · cases h
      exact .uartRx ‹_›
    · cases h
  | get =>
    cases h
    rw [dtmTrGet]
    split
    · exact .get ‹_› ‹_›
    · exact .wait
  | process =>
    have h := mapError_eq_ok.1 h
    rw [dtmTrProcess] at h
    split at h
    · cases h
      exact .nothing ‹_›
    · obtain ⟨x, -, h⟩ := bind_eq_ok.1 h
      cases h
      exact .process ‹_› x.2
  | radio ev | anomaly ev | txDone =>
    rw [step] at h
    obtain ⟨f, rfl⟩ := firmwareStep_ok (mapError_eq_ok.1 h)
    exact .other (by rintro w ⟨⟩) (by rintro ⟨⟩) f

/-- **An assertion of the reception fails in the UART callback only**, on the window it was
given. -/
theorem step_eq_rx {b : Build} {q : ℕ} {s : HciSystem n} {i : HciInput} {e : RxFault} :
    s.step b q i = .error (.rx e) ↔ ∃ w, i = .uartRx w ∧ uartRxRdy q s.rx w = .error e := by
  cases i with
  | uartRx w =>
    rw [step]
    rcases hrx : uartRxRdy q s.rx w with e' | rx <;> simp [hrx]
  | get => simp [step]
  | process | radio | anomaly | txDone =>
    rw [step]
    constructor
    · exact fun h ↦ (mapError_eq_rx h).elim
    · rintro ⟨w, ⟨⟩, -⟩

/-- A run of the UART callback alone. -/
theorem run_uartRx_error {b : Build} {q : ℕ} {s : HciSystem n} {ws : List RxWindow} {e : RxFault}
    (h : Fallible.run (uartRxRdy q) s.rx ws = .error e) :
    Fallible.run (step b q) s (ws.map .uartRx) = .error (.rx e) := by
  induction ws generalizing s with
  | nil => cases h
  | cons w ws ih =>
    rw [List.map_cons, run_cons, step]
    rcases bind_eq_error.1 h with h | ⟨rx, hrx, h⟩
    · rw [h]
      rfl
    · rw [hrx]
      exact ih (s := { s with rx := rx }) h

end HciSystem

end DirectTestMode
