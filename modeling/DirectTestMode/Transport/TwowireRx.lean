import DirectTestMode.Machine.Transducer
import Mathlib.Data.Int.Order.Basic

/-!
# Two-wire reception (`dtm_uart_twowire.c`, `dtm_rtt_twowire.c`)

A command is two octets. `dtm_tr_get` polls for them in an endless loop, and it gives up on a first
octet that is left alone for more than 5 ms. Both versions of it are transducers: a poll is an
input, and a command that `dtm_tr_get` returns is an output.

## State

A poll says what has become available since the poll before and what `k_uptime_get` reads at it. The
octets that nobody has read yet wait in order, in the UART or in the RTT down buffer. The loop
remembers the first octet of a command, which stands for `is_msb_read`, the upper half of `dtm_cmd`
and `msb_time`. These are local, so a call starts without a first octet; that a call also ends
without one is what makes a run of the loop the same as calls one after the other
(`outputs_eq_trGet`).

## The two loops

The UART loop reads an octet at a time, and `UartTwowire.accept` is all that it does with one; the
RTT loop takes both octets at once if it can. They also differ in when they look at the clock. The
UART loop compares the times of the two octets when the second one comes. The RTT loop looks at the
clock only in a pass that finds no octet, so a second octet that is found is taken however late it
is.

Time is an integer and nothing is assumed of it: the polls may lie at any distance, and where a
result needs the clock to go forward, it says so.
-/

namespace DirectTestMode

/-- An octet and the time it was read at, in milliseconds. -/
structure Octet where
  value : UInt8
  time : ℤ
deriving DecidableEq

/-- A command as `dtm_tr_get` returns it, with the times of its octets. -/
structure RxCommand where
  first : Octet
  second : Octet
deriving DecidableEq

/-- `tmp.twowire`. -/
def RxCommand.twowire (cmd : RxCommand) : UInt16 :=
  cmd.first.value.toUInt16 <<< 8 ||| cmd.second.value.toUInt16

/-- The octets a command was made of, in order. -/
def RxCommand.octets (cmd : RxCommand) : List Octet := [cmd.first, cmd.second]

/-- One pass through the loop. -/
structure Poll where
  /-- What `k_uptime_get` reads. -/
  now : ℤ
  /-- The octets that have become available since the poll before. -/
  arrived : List UInt8

/-- The octets that wait to be read, and the first octet of a command. -/
abbrev Rx := List UInt8 × Option Octet

/-- Before the first call. -/
def Rx.start : Rx := ([], none)

/-- `DTM_UART_SECOND_BYTE_MAX_DELAY` and `DTM_RTT_SECOND_BYTE_MAX_DELAY`. -/
def secondByteMaxDelay : ℤ := 5

/-- One call of `dtm_tr_get` with the given loop body: the command, the octets left for the next
call and the polls it did not need. It is `none` if the call is still polling at the end. -/
def trGet (poll : Rx → Poll → Rx × Option RxCommand) (fifo : List UInt8) (polls : List Poll) :
    Option (RxCommand × List UInt8 × List Poll) :=
  (Transducer.firstOutput poll (fifo, none) polls).map fun x ↦ (x.1, x.2.1.1, x.2.2)

/-! ### The UART -/

namespace UartTwowire

/-- `uart_poll_in`. -/
def pollIn (fifo : List UInt8) (p : Poll) : List UInt8 × Option Octet :=
  match fifo ++ p.arrived with
  | [] => ([], none)
  | rxByte :: fifo => (fifo, some ⟨rxByte, p.now⟩)

/-- What the loop does with an octet. -/
def accept (msb : Option Octet) (octet : Octet) : Option Octet × Option RxCommand :=
  match msb with
  | none => (some octet, none)
  | some msb =>
    if secondByteMaxDelay < octet.time - msb.time then
      -- the old octet is dropped and the new one is a first octet
      (some octet, none)
    else (none, some ⟨msb, octet⟩)

/-- The body of the loop. -/
def poll : Rx → Poll → Rx × Option RxCommand := Transducer.comp pollIn accept

/-- One call of `dtm_tr_get` of `dtm_uart_twowire.c`. -/
def dtmTrGet (fifo : List UInt8) (polls : List Poll) :
    Option (RxCommand × List UInt8 × List Poll) :=
  trGet poll fifo polls

end UartTwowire

/-! ### RTT -/

namespace RttTwowire

/-- The body of the loop. `SEGGER_RTT_Read` takes up to two octets while there is no first octet and
one afterwards, and the clock is looked at only if it finds none. -/
def poll (rx : Rx) (p : Poll) : Rx × Option RxCommand :=
  match rx.2, rx.1 ++ p.arrived with
  | none, [] => (([], none), none)
  | none, [msb] => (([], some ⟨msb, p.now⟩), none)
  | none, msb :: lsb :: fifo => ((fifo, none), some ⟨⟨msb, p.now⟩, ⟨lsb, p.now⟩⟩)
  | some msb, [] => (([], if secondByteMaxDelay < p.now - msb.time then none else some msb), none)
  | some msb, rxByte :: fifo => ((fifo, none), some ⟨msb, ⟨rxByte, p.now⟩⟩)

/-- One call of `dtm_tr_get` of `dtm_rtt_twowire.c`. -/
def dtmTrGet (fifo : List UInt8) (polls : List Poll) :
    Option (RxCommand × List UInt8 × List Poll) :=
  trGet poll fifo polls

end RttTwowire

/-! ### Repeated calls -/

variable {poll : Rx → Poll → Rx × Option RxCommand}

/-- A call returns with both octets used, so the outputs of a run are what repeated calls return. -/
theorem outputs_eq_trGet (hdone : ∀ rx p, (poll rx p).2.isSome → (poll rx p).1.2 = none)
    (fifo : List UInt8) (polls : List Poll) :
    Transducer.outputs poll (fifo, none) polls =
      (trGet poll fifo polls).elim [] fun x ↦
        x.1 :: Transducer.outputs poll (x.2.1, none) x.2.2 := by
  rw [Transducer.outputs_of_firstOutput, trGet]
  rcases h : Transducer.firstOutput poll (fifo, none) polls with - | ⟨cmd, ⟨rest, msb⟩, polls'⟩
  · rfl
  -- the state a call leaves has no first octet, which is how the next call starts
  · have hmsb := Transducer.firstOutput_state (t := poll) (Q := fun rx ↦ rx.2 = none) hdone h
    rw [show msb = none from hmsb]
    rfl

/-- The UART loop returns with no first octet left over. -/
theorem UartTwowire.poll_done (rx : Rx) (p : Poll) (h : (UartTwowire.poll rx p).2.isSome) :
    (UartTwowire.poll rx p).1.2 = none := by
  revert h
  rw [poll, Transducer.comp]
  rcases pollIn rx.1 p with ⟨fifo, - | octet⟩
  · simp
  · rcases rx.2 with - | msb
    · simp [accept]
    · simp only [accept]
      split <;> simp

/-- So does the RTT loop. -/
theorem RttTwowire.poll_done (rx : Rx) (p : Poll) (h : (RttTwowire.poll rx p).2.isSome) :
    (RttTwowire.poll rx p).1.2 = none := by
  revert h
  rw [poll]
  split <;> simp

/-- **The commands are those of the calls of `dtm_tr_get`**, one after the other. What is proved
of the outputs of the loop is thus about the function that the main loop calls. -/
theorem UartTwowire.outputs_eq_dtmTrGet (fifo : List UInt8) (polls : List Poll) :
    Transducer.outputs UartTwowire.poll (fifo, none) polls =
      (UartTwowire.dtmTrGet fifo polls).elim [] fun x ↦
        x.1 :: Transducer.outputs UartTwowire.poll (x.2.1, none) x.2.2 :=
  outputs_eq_trGet UartTwowire.poll_done fifo polls

/-- The same for RTT. -/
theorem RttTwowire.outputs_eq_dtmTrGet (fifo : List UInt8) (polls : List Poll) :
    Transducer.outputs RttTwowire.poll (fifo, none) polls =
      (RttTwowire.dtmTrGet fifo polls).elim [] fun x ↦
        x.1 :: Transducer.outputs RttTwowire.poll (x.2.1, none) x.2.2 :=
  outputs_eq_trGet RttTwowire.poll_done fifo polls

end DirectTestMode
