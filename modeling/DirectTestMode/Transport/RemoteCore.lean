import DirectTestMode.Transport.HciSystem
import DirectTestMode.Transport.RemoteHci

/-!
# The application core (`remote_hci/src/main.c`)

On a two-core chip the callback of `h4_read` is `dtm_hci_put_wrapper`, which queues the packet in
`dtm_put_queue`. The thread `dtm_put_thread` takes packets from the queue, sends each to the network
core and releases its buffer. `AppCore.step` is the machine of the UART callback and the thread,
which is two steps, since a window may arrive while the thread has a buffer.

The receive side is the one of `h4_read` on a single core, with the other queue behind it: the
parser is shared, and so is everything that is proved of it. What is new is that every buffer is
released, whatever the type of its packet, because the thread does not look at it.

A message that does not fit, or a buffer that cannot be encoded, stops the core: the source asserts
there. The messages that were sent are recorded in the order in which they were sent, and the record
is what the network core is given.
-/

namespace DirectTestMode

open Fallible HciUart RemoteHci

variable {n : ℕ}

/-- The receive side, whose queue is `dtm_put_queue`, and the thread. -/
structure AppCore (n : ℕ) where
  rx : HciRx n
  /-- The variable `buf` of `dtm_put_thread`, between its `net_buf_get` and its `net_buf_unref`. -/
  buf : Option (Fin n)
  /-- The messages for the network core. It is not part of the state: it records what was sent. -/
  sent : List (List UInt8)

/-- What stops the core. -/
inductive AppFault
  | rx (e : RxFault)
  | rpc (e : RpcFault)
  deriving DecidableEq

/-- What can happen to the core. -/
inductive AppInput
  /-- The UART hands over a window. -/
  | uartRx (w : RxWindow)
  /-- `net_buf_get` of `dtm_put_thread`. -/
  | get
  /-- `dtm_hci_put_remote` and `net_buf_unref` of `dtm_put_thread`. -/
  | put

namespace AppCore

/-- With an empty queue the thread goes on waiting. -/
def threadGet (s : AppCore n) : AppCore n :=
  match s.buf, s.rx.queue with
  | none, i :: queue => { s with buf := some i, rx := { s.rx with queue := queue } }
  | _, _ => s

/-- The packet is sent and its buffer released. -/
def threadPut (z : Zcbor) (s : AppCore n) : Except RpcFault (AppCore n) :=
  match s.buf with
  | none => .ok s
  | some i => do
    let msg ← dtmHciPutRemote z (s.rx.pool.block i)
    pure
      { rx := { s.rx with pool := s.rx.pool.release i }
        buf := none
        sent := s.sent ++ [msg] }

/-- One window, or one of the two calls of the thread. -/
def step (z : Zcbor) (q : ℕ) (s : AppCore n) : AppInput → Except AppFault (AppCore n)
  | .uartRx w =>
    match uartRxRdy q s.rx w with
    | .ok rx => .ok { s with rx := rx }
    | .error e => .error (.rx e)
  | .get => .ok s.threadGet
  | .put =>
    match s.threadPut z with
    | .ok s => .ok s
    | .error e => .error (.rpc e)

/-- The core before the first octet. -/
structure Initial (s : AppCore n) : Prop where
  rx : s.rx = .powerOn n
  buf : s.buf = none
  sent : s.sent = []

end AppCore

end DirectTestMode
