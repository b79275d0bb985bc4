import Mathlib.Data.List.FinRange
import DirectTestMode.Machine.Pool
import DirectTestMode.Transport.Interface

/-!
# H4 transmission (`hci_uart.c`)

`hci_uart_write` puts a packet in a buffer of the pool `hci_tx_buf` and the buffer in the queue
`hci_tx_queue`. The thread `tx_thread` takes buffers from the queue and hands them to the UART, and
the UART reports the end of a transfer to `uart_cb`, which releases the buffer. The callback finds
the buffer by the pointer that `hci_uart_write` has put before the packet.

`HciTx.step` is the machine of the three, which run in any order. The thread is two steps, since
anything can happen between its `net_buf_get` and its `uart_tx`.

A transmit buffer has a pointer and a packet here. In memory it has octets, and the pointer is the
first four of them; that level is a machine of its own, which refines this one. What is said of the
packets that were sent is therefore said on this level, where nobody can confuse an address with a
payload.

`uart_tx` refuses while a transfer is in progress, and the thread does not look at what it returns.
So a packet that is handed over too early is dropped and its buffer with it. Both records are kept
for this reason: what was written with success, and what the UART has accepted, and the second may
be shorter.
-/

namespace DirectTestMode.HciUart

open Fallible

/-- The data of a transmit buffer: a pointer to a buffer, or what else the memory holds, and the
packet behind it. -/
structure TxBuf (n : ℕ) where
  self : Option (Fin n)
  packet : List UInt8

/-- The transmit side. The last two fields are not part of it: they record the writes that returned
0 and the packets that the UART accepted. -/
structure HciTx (n : ℕ) where
  pool : Pool (Fin n) (TxBuf n)
  queue : List (Fin n)
  /-- The variable `buf` of `tx_thread`, between its two calls. -/
  taken : Option (Fin n)
  /-- The buffer that the UART sends from. -/
  transfer : Option (Fin n)
  written : List (List UInt8)
  accepted : List (List UInt8)

/-- What can happen to the transmit side: a write, one of the two calls of the thread, or the end
of a transfer. -/
inductive TxInput
  | write (type : UInt8) (hdr pld : List UInt8)
  /-- `net_buf_get` of `tx_thread`. -/
  | get
  /-- `uart_tx` of `tx_thread`. -/
  | send
  | txDone
  | txAborted

variable {n : ℕ}

namespace HciTx

/-- `hci_uart_write`, with buffers of `size` octets. -/
def hciUartWrite (size : ℕ) (type : UInt8) (hdr pld : List UInt8) (s : HciTx n) : Ret × HciTx n :=
  match s.pool.alloc with
  | none => (.err .enomem, s)
  | some (i, pool) =>
    if size < pld.length + hdr.length + 1 + 4 then
      (.err .enomem, { s with pool := pool.release i })
    else
      (.ok, { s with
        pool := pool.write i ⟨some i, type :: (hdr ++ pld)⟩
        queue := s.queue ++ [i]
        written := s.written ++ [type :: (hdr ++ pld)] })

/-- `net_buf_get`; with an empty queue the thread goes on waiting. -/
def txThreadGet (s : HciTx n) : HciTx n :=
  match s.taken, s.queue with
  | none, i :: queue => { s with taken := some i, queue := queue }
  | _, _ => s

/-- `uart_tx`, which sends what is behind the pointer. A transfer in progress is not disturbed. -/
def uartTx (i : Fin n) (s : HciTx n) : Ret × HciTx n :=
  match s.transfer with
  | some _ => (.err .ebusy, s)
  | none => (.ok, { s with
      transfer := some i
      accepted := s.accepted ++ [(s.pool.block i).packet] })

/-- The thread does not look at what `uart_tx` returns. -/
def txThreadSend (s : HciTx n) : HciTx n :=
  match s.taken with
  | none => s
  | some i => { (s.uartTx i).2 with taken := none }

/-- The cases `UART_TX_DONE` and `UART_TX_ABORTED` of `uart_cb`. The UART raises one of them for
each transfer. -/
def uartCb (s : HciTx n) : Except Fault (HciTx n) :=
  match s.transfer with
  | none => .ok s
  | some i =>
    match (s.pool.block i).self with
    | none => .error .bounds
    | some j => .ok { s with transfer := none, pool := s.pool.release j }

/-- One input. The end of a transfer is the same for both events. -/
def step (size : ℕ) (s : HciTx n) : TxInput → Except Fault (HciTx n)
  | .write type hdr pld => .ok (s.hciUartWrite size type hdr pld).2
  | .get => .ok s.txThreadGet
  | .send => .ok s.txThreadSend
  | .txDone | .txAborted => s.uartCb

/-- The transmit side before the first write. What the memory holds is not known. -/
structure Initial (s : HciTx n) : Prop where
  free : s.pool.free = List.finRange n
  queue : s.queue = []
  taken : s.taken = none
  transfer : s.transfer = none
  written : s.written = []
  accepted : s.accepted = []

/-! ### The writer's view -/

/-- The packets that wait in the queue. -/
def packets (s : HciTx n) : List (List UInt8) := s.queue.map fun i ↦ (s.pool.block i).packet

/-- What a writer sees of the transmit side. -/
def txQueue (s : HciTx n) : TxQueue := ⟨s.pool.free.length, s.packets⟩

variable {size : ℕ} {type : UInt8} {hdr pld : List UInt8} {s : HciTx n}

/-- A packet goes to a buffer that no other is in. -/
theorem map_packet_write {held : List (Fin n)} {i : Fin n} {pool : Pool (Fin n) (TxBuf n)}
    (halloc : s.pool.alloc = some (i, pool)) (hnew : i ∉ held) (buf : TxBuf n) :
    (held.map fun j ↦ ((pool.write i buf).block j).packet) =
      held.map fun j ↦ (s.pool.block j).packet := by
  refine List.map_congr_left fun j hj ↦ ?_
  rw [Pool.write_block_of_ne pool buf (ne_of_mem_of_not_mem hj hnew),
    (Pool.alloc_eq_some.1 halloc).2]

/-- **The writer's view is exact**: on the queue of packets, with a count of the free buffers, a
write does what it does here. -/
theorem hciUartWrite_txQueue (hnodup : (s.pool.free ++ s.queue).Nodup) :
    ((s.hciUartWrite size type hdr pld).1, (s.hciUartWrite size type hdr pld).2.txQueue) =
      DirectTestMode.hciUartWrite size type hdr pld s.txQueue := by
  rw [hciUartWrite, DirectTestMode.hciUartWrite]
  rcases halloc : s.pool.alloc with - | ⟨i, pool⟩
  · have hfree : s.txQueue.free = 0 := List.length_eq_zero_iff.2 (Pool.alloc_eq_none.1 halloc)
    simp only [hfree, if_true]
  · obtain ⟨hfree, hblock⟩ := Pool.alloc_eq_some.1 halloc
    have hlen : s.txQueue.free = pool.free.length + 1 := by
      rw [txQueue, hfree, List.length_cons]
    rw [if_neg (by omega)]
    by_cases hsize : size < pld.length + hdr.length + 1 + 4
    · simp only [if_pos hsize]
      rw [txQueue, txQueue, Pool.release_free, packets, packets, Pool.release_block, hblock, hfree]
    · have hnew : i ∉ s.queue := by
        rw [hfree, List.cons_append, List.nodup_cons] at hnodup
        exact fun hi ↦ hnodup.1 (List.mem_append_right _ hi)
      simp only [if_neg hsize]
      rw [txQueue, packets, List.map_append, map_packet_write halloc hnew, hlen]
      simp [txQueue, packets]

end HciTx

end DirectTestMode.HciUart
