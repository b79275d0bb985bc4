import Mathlib.Data.List.FinRange
import DirectTestMode.Transport.HciUart
import DirectTestMode.Transport.HciUartTx

/-!
# The octets of a transmission (`hci_uart.c`)

`HciTx` has buffers with a pointer and a packet. In the memory there are octets only:
`hci_uart_write` appends the address of the buffer, the type, the header and the payload one after
the other, `tx_thread` hands over what is behind the address, and `uart_cb` reads the address back
from in front of what was sent. `HciTxMem` is the transmit side on this level, where nothing but the
offsets says which octet is what, and an append beyond the end of the data is a fault.

`step_refines` says that it does what `HciTx` does, and `run_refines` that whole runs do. What
carries it is `WellFormed`: whoever holds a buffer finds its address at the start of its data.

## The three places that have to agree

The source has the size of a pointer in three places: the check before the appends, the offset that
the thread adds, and the offset that the callback subtracts. They agree, and this is what the
refinement shows rather than assumes. A write checks for everything that it then appends, so it
never faults (`hciUartWrite_cases`); what is handed over is exactly the packet (`Holds.octets`); and
what stands before it is exactly the address (`Holds.address`).

## Addresses

An address is four octets, and two buffers have different ones (`BufAddr`). Nothing else is assumed
of the memory layout. A buffer keeps what was in it when it is released, so an address in a free
buffer may be stale; the invariant speaks of the others.

## Lost buffers

A packet that is refused by the UART is dropped without being released. Its buffer then is neither
free nor in use, which the invariant allows: `held` is the list of the buffers in use, and what is
not free need not be in it.
-/

namespace DirectTestMode.HciUart

open Fallible

variable {n : ℕ}

/-! ### Octets and addresses -/

/-- `net_buf_add_mem`, with its assertion. -/
def NetBuf.add (size : ℕ) (buf : NetBuf) (src : List UInt8) : Except Fault NetBuf :=
  if buf.tailroom size < src.length then .error .bounds else .ok (buf.addMem src)

/-- The `len` octets of the data from `off` on. -/
def NetBuf.read (buf : NetBuf) (off len : ℕ) : List UInt8 :=
  (List.range len).map fun k ↦ buf.mem (off + k)

/-- An append that fits. -/
theorem NetBuf.add_ok {size : ℕ} {buf : NetBuf} {src : List UInt8}
    (h : buf.len + src.length ≤ size) : buf.add size src = .ok (buf.addMem src) := by
  rw [add, tailroom]
  exact if_neg (by omega)

/-- What is read of the octets in use. -/
theorem NetBuf.read_eq (buf : NetBuf) {off len : ℕ} (h : off + len ≤ buf.len) :
    buf.read off len = (buf.bytes.drop off).take len := by
  refine List.ext_getElem ?_ fun k hk hk' ↦ ?_
  · simp only [read, List.length_map, List.length_range, List.length_take, List.length_drop,
      length_bytes]
    omega
  · simp only [read, bytes, List.getElem_map, List.getElem_range, List.getElem_take,
      List.getElem_drop]

/-- `sizeof(buf)` for a pointer `buf`. -/
def sizeofBuf : ℕ := 4

/-- Where the buffers of the pool are: the octets of the address of each, as they stand in the
memory. -/
structure BufAddr (n : ℕ) where
  octets : Fin n → List UInt8
  length_octets : ∀ i, (octets i).length = sizeofBuf
  injective : Function.Injective octets

/-- The buffer at an address. -/
def BufAddr.at (a : BufAddr n) (octets : List UInt8) : Option (Fin n) :=
  (List.finRange n).find? fun i ↦ a.octets i == octets

/-- **The address of a buffer leads back to it.** -/
@[simp] theorem BufAddr.at_octets (a : BufAddr n) (i : Fin n) : a.at (a.octets i) = some i := by
  rw [BufAddr.at]
  rcases hfind : (List.finRange n).find? fun j ↦ a.octets j == a.octets i with - | j
  · have hnone := List.find?_eq_none.1 hfind i (List.mem_finRange i)
    simp at hnone
  · have hsome := List.find?_some hfind
    rw [beq_iff_eq] at hsome
    rw [a.injective hsome]

/-! ### The machine -/

/-- What `uart_tx` is given: a pointer into the data of a buffer, and a length. -/
structure TxTransfer (n : ℕ) where
  buf : Fin n
  off : ℕ
  len : ℕ

/-- The transmit side in memory. -/
structure HciTxMem (n : ℕ) where
  pool : Pool (Fin n) NetBuf
  queue : List (Fin n)
  /-- The variable `buf` of `tx_thread`, between its two calls. -/
  taken : Option (Fin n)
  /-- What the UART sends. -/
  transfer : Option (TxTransfer n)

namespace HciTxMem

/-- `hci_uart_write`, with buffers of `size` octets. The sum does not wrap: header, payload and
buffer are all in the memory. -/
def hciUartWrite (a : BufAddr n) (size : ℕ) (type : UInt8) (hdr pld : List UInt8)
    (s : HciTxMem n) : Except Fault (Ret × HciTxMem n) :=
  match s.pool.alloc with
  | none => .ok (.err .enomem, s)
  | some (i, pool) =>
    let buf := (pool.block i).reset (pool.block i).userData
    let pool := pool.write i buf
    if buf.tailroom size < pld.length + hdr.length + 1 + sizeofBuf then
      .ok (.err .enomem, { s with pool := pool.release i })
    else do
      let buf ← buf.add size (a.octets i)
      let buf ← buf.add size [type]
      let buf ← buf.add size hdr
      let buf ← buf.add size pld
      pure (.ok, { s with pool := pool.write i buf, queue := s.queue ++ [i] })

/-- `net_buf_get` of `tx_thread`. -/
def txThreadGet (s : HciTxMem n) : HciTxMem n :=
  match s.taken, s.queue with
  | none, i :: queue => { s with taken := some i, queue := queue }
  | _, _ => s

/-- What `tx_thread` hands over for a buffer: `&buf->data[sizeof(buf)]` and
`buf->len - sizeof(buf)`. -/
def txArgs (s : HciTxMem n) (i : Fin n) : TxTransfer n :=
  ⟨i, sizeofBuf, (s.pool.block i).len - sizeofBuf⟩

/-- The octets of a transfer. -/
def octets (s : HciTxMem n) (t : TxTransfer n) : List UInt8 := (s.pool.block t.buf).read t.off t.len

/-- `uart_tx`: a transfer in progress is not disturbed. -/
def uartTx (t : TxTransfer n) (s : HciTxMem n) : Ret × HciTxMem n :=
  match s.transfer with
  | some _ => (.err .ebusy, s)
  | none => (.ok, { s with transfer := some t })

/-- The thread does not look at what `uart_tx` returns. -/
def txThreadSend (s : HciTxMem n) : HciTxMem n :=
  match s.taken with
  | none => s
  | some i => { (s.uartTx (s.txArgs i)).2 with taken := none }

/-- The cases `UART_TX_DONE` and `UART_TX_ABORTED` of `uart_cb`. The buffer is the one whose address
stands before what was sent. -/
def uartCb (a : BufAddr n) (s : HciTxMem n) : Except Fault (HciTxMem n) :=
  match s.transfer with
  | none => .ok s
  | some t =>
    match a.at ((s.pool.block t.buf).read (t.off - sizeofBuf) sizeofBuf) with
    | none => .error .bounds
    | some j => .ok { s with transfer := none, pool := s.pool.release j }

/-- One input, as in `HciTx.step`. -/
def step (a : BufAddr n) (size : ℕ) (s : HciTxMem n) : TxInput → Except Fault (HciTxMem n)
  | .write type hdr pld => do
    let x ← s.hciUartWrite a size type hdr pld
    pure x.2
  | .get => .ok s.txThreadGet
  | .send => .ok s.txThreadSend
  | .txDone | .txAborted => s.uartCb a

/-- Before the first write. What the memory holds is not known. -/
structure Initial (s : HciTxMem n) : Prop where
  free : s.pool.free = List.finRange n
  queue : s.queue = []
  taken : s.taken = none
  transfer : s.transfer = none

variable {a : BufAddr n} {size : ℕ} {type : UInt8} {hdr pld : List UInt8} {s s' : HciTxMem n}

/-! ### A write -/

/-- **The outcomes of a write**: no buffer, a packet that does not fit, or a packet in the first
free buffer, behind the address of that buffer. -/
inductive WriteOutcome (a : BufAddr n) (size : ℕ) (type : UInt8) (hdr pld : List UInt8)
    (s : HciTxMem n) : Ret → HciTxMem n → Prop
  | exhausted (hfree : s.pool.free = []) : WriteOutcome a size type hdr pld s (.err .enomem) s
  | tooLong {i : Fin n} {free : List (Fin n)} (hfree : s.pool.free = i :: free)
      (hlong : size < pld.length + hdr.length + 1 + sizeofBuf) :
      WriteOutcome a size type hdr pld s (.err .enomem)
        { s with pool := s.pool.write i ((s.pool.block i).reset (s.pool.block i).userData) }
  | queued {i : Fin n} {free : List (Fin n)} {buf : NetBuf} (hfree : s.pool.free = i :: free)
      (hfits : pld.length + hdr.length + 1 + sizeofBuf ≤ size)
      (hbytes : buf.bytes = a.octets i ++ type :: (hdr ++ pld)) :
      WriteOutcome a size type hdr pld s .ok
        { s with
          pool := { (s.pool.write i buf) with free := free }
          queue := s.queue ++ [i] }

/-- **A write never appends beyond the end of the data.** -/
theorem hciUartWrite_cases (a : BufAddr n) (size : ℕ) (type : UInt8) (hdr pld : List UInt8)
    (s : HciTxMem n) :
    ∃ r s', s.hciUartWrite a size type hdr pld = .ok (r, s') ∧
      WriteOutcome a size type hdr pld s r s' := by
  rw [hciUartWrite]
  rcases halloc : s.pool.alloc with - | ⟨i, pool⟩
  · exact ⟨_, _, rfl, .exhausted (Pool.alloc_eq_none.1 halloc)⟩
  obtain ⟨hfree, hblock⟩ := Pool.alloc_eq_some.1 halloc
  simp only [hblock]
  generalize hbuf : (s.pool.block i).reset (s.pool.block i).userData = buf
  have hlen : buf.len = 0 := by rw [← hbuf, NetBuf.reset_len]
  have hempty : buf.bytes = [] := by rw [← hbuf, NetBuf.reset_bytes]
  have htailroom : buf.tailroom size = size := by rw [NetBuf.tailroom, hlen, Nat.sub_zero]
  rw [htailroom]
  split_ifs with hlong
  · have hpool : (pool.write i buf).release i = s.pool.write i buf := by
      rw [Pool.release, Pool.write, Pool.write, hblock, hfree]
    rw [hpool, ← hbuf]
    exact ⟨_, _, rfl, .tooLong hfree hlong⟩
  · have haddr := a.length_octets i
    -- each append is within the room that was checked for all of them
    have hroom {src : List UInt8} {buf' : NetBuf}
        (hle : buf'.len + src.length ≤ pld.length + hdr.length + 1 + sizeofBuf) :
        buf'.add size src = .ok (buf'.addMem src) := NetBuf.add_ok (by omega)
    rw [hroom (by omega), ok_bind, hroom (by simp; omega), ok_bind, hroom (by simp; omega), ok_bind,
      hroom (by simp; omega), ok_bind]
    refine ⟨_, _, rfl, ?_⟩
    have hpool (buf' : NetBuf) : (pool.write i buf).write i buf' =
        { (s.pool.write i buf') with free := pool.free } := by
      rw [Pool.write_write, Pool.write, Pool.write, hblock]
    rw [hpool]
    refine .queued hfree (Nat.not_lt.1 hlong) ?_
    simp [hempty]

/-! ### The invariant -/

/-- A buffer holds a packet, behind its own address. -/
def Holds (a : BufAddr n) (i : Fin n) (packet : List UInt8) (s : HciTxMem n) : Prop :=
  (s.pool.block i).bytes = a.octets i ++ packet

/-- The buffers in use. -/
def held (s : HciTxMem n) : List (Fin n) :=
  (s.transfer.map TxTransfer.buf).toList ++ (s.taken.toList ++ s.queue)

/-- No buffer is in two places, every buffer that is not free holds a packet, and what the UART
sends is what `tx_thread` has handed over for its buffer. -/
structure WellFormed (a : BufAddr n) (s : HciTxMem n) : Prop where
  nodup : (s.pool.free ++ s.held).Nodup
  holds : ∀ i ∉ s.pool.free, ∃ packet, s.Holds a i packet
  transfer : ∀ t, s.transfer = some t → t = s.txArgs t.buf

variable {i : Fin n} {packet : List UInt8}

theorem Holds.len (h : s.Holds a i packet) :
    (s.pool.block i).len = sizeofBuf + packet.length := by
  have hlen := congrArg List.length h
  rwa [NetBuf.length_bytes, List.length_append, a.length_octets] at hlen

/-- **What is handed over is the packet.** -/
theorem Holds.octets (h : s.Holds a i packet) : s.octets (s.txArgs i) = packet := by
  have hlen := h.len
  have hrest : (s.pool.block i).len - sizeofBuf = packet.length := by omega
  rw [HciTxMem.octets, txArgs, hrest]
  show (s.pool.block i).read sizeofBuf packet.length = packet
  rw [NetBuf.read_eq _ hlen.ge, h, List.drop_left' (a.length_octets i), List.take_length]

/-- **What stands before it is the address.** -/
theorem Holds.address (h : s.Holds a i packet) :
    (s.pool.block i).read 0 sizeofBuf = a.octets i := by
  have hlen := h.len
  rw [NetBuf.read_eq _ (by omega), h, List.drop_zero, List.take_left' (a.length_octets i)]

theorem WellFormed.not_free (hs : s.WellFormed a) (hi : i ∈ s.held) : i ∉ s.pool.free :=
  fun hfree ↦ (List.nodup_append.1 hs.nodup).2.2 i hfree i hi rfl

/-- Before the first write all buffers are free. -/
theorem Initial.wellFormed (hs : s.Initial) : s.WellFormed a where
  nodup := by
    rw [held, hs.free, hs.transfer, hs.taken, hs.queue]
    simpa using List.nodup_finRange n
  holds i hi := by
    rw [hs.free] at hi
    exact absurd (List.mem_finRange i) hi
  transfer t ht := by
    rw [hs.transfer] at ht
    cases ht

/-- A write keeps the invariant: the buffer it takes was free, and holds its address afterwards. -/
theorem WriteOutcome.wellFormed {r : Ret} (h : WriteOutcome a size type hdr pld s r s')
    (hs : s.WellFormed a) : s'.WellFormed a := by
  -- what is not the first free buffer is left as it was
  have hother {free : List (Fin n)} {i j : Fin n} (buf : NetBuf) (hfree : s.pool.free = i :: free)
      (hj : j ∈ s.held) : (s.pool.write i buf).block j = s.pool.block j := by
    refine Pool.write_block_of_ne _ _ fun heq ↦ hs.not_free hj ?_
    rw [hfree, heq]
    exact List.mem_cons_self
  have htransfer {t : TxTransfer n} (ht : s.transfer = some t) : t.buf ∈ s.held := by
    rw [held, ht]
    exact List.mem_cons_self
  cases h with
  | exhausted => exact hs
  | @tooLong i free hfree hlong =>
    refine ⟨hs.nodup, fun j hj ↦ ?_, fun t ht ↦ ?_⟩
    · have hne : j ≠ i := by
        rintro rfl
        exact hj (by rw [Pool.write_free, hfree]; exact List.mem_cons_self)
      obtain ⟨packet, hpacket⟩ := hs.holds j hj
      refine ⟨packet, ?_⟩
      rw [Holds, Pool.write_block_of_ne _ _ hne]
      exact hpacket
    · rw [txArgs, hother _ hfree (htransfer ht)]
      exact hs.transfer t ht
  | @queued i free buf hfree hfits hbytes =>
    have hnodup := hs.nodup
    rw [hfree] at hnodup
    refine ⟨?_, fun j hj ↦ ?_, fun t ht ↦ ?_⟩
    · show (free ++ held { s with queue := s.queue ++ [i] }).Nodup
      have hheld : held { s with queue := s.queue ++ [i] } = s.held ++ [i] := by
        simp [held]
      rw [hheld, ← List.append_assoc]
      exact (List.perm_append_singleton i _).nodup_iff.2 hnodup
    · by_cases heq : j = i
      · refine ⟨type :: (hdr ++ pld), ?_⟩
        rw [Holds, heq]
        simp [hbytes]
      · have hne : j ∉ s.pool.free := by
          rw [hfree]
          exact fun hmem ↦ (List.mem_cons.1 hmem).elim heq hj
        obtain ⟨packet, hpacket⟩ := hs.holds j hne
        refine ⟨packet, ?_⟩
        show ((s.pool.write i buf).block j).bytes = _
        rw [Pool.write_block_of_ne _ _ heq]
        exact hpacket
    · show t = ⟨t.buf, sizeofBuf, ((s.pool.write i buf).block t.buf).len - sizeofBuf⟩
      rw [hother _ hfree (htransfer ht)]
      exact hs.transfer t ht

/-- Taking a buffer from the queue moves it from one place to another. -/
theorem WellFormed.txThreadGet (hs : s.WellFormed a) : s.txThreadGet.WellFormed a := by
  rw [HciTxMem.txThreadGet]
  split
  · rename_i i queue htaken hqueue
    have hnodup := hs.nodup
    rw [held, htaken, hqueue] at hnodup
    exact ⟨hnodup, hs.holds, hs.transfer⟩
  · exact hs

/-- So does handing it over, unless the UART refuses it. -/
theorem WellFormed.txThreadSend (hs : s.WellFormed a) : s.txThreadSend.WellFormed a := by
  rw [HciTxMem.txThreadSend]
  split
  · exact hs
  rename_i i htaken
  have hnodup := hs.nodup
  rw [held, htaken] at hnodup
  rw [uartTx]
  rcases htransfer : s.transfer with - | t
  · rw [htransfer] at hnodup
    refine ⟨hnodup, hs.holds, fun t ht ↦ ?_⟩
    cases ht
    rfl
  -- the packet is dropped, and its buffer with it
  · rw [htransfer] at hnodup
    refine ⟨?_, hs.holds, fun t' ht' ↦ ?_⟩
    · show (s.pool.free ++ ((s.transfer.map TxTransfer.buf).toList ++ s.queue)).Nodup
      rw [htransfer]
      refine hnodup.sublist (List.Sublist.append_left ?_ _)
      exact List.Sublist.append_left (List.sublist_cons_self i s.queue) _
    · exact hs.transfer t' ht'

/-- **The callback releases the buffer of the transfer**, since it finds the address of that
buffer where it looks for one. -/
theorem WellFormed.uartCb (hs : s.WellFormed a) {t : TxTransfer n} (ht : s.transfer = some t) :
    s.uartCb a = .ok { s with transfer := none, pool := s.pool.release t.buf } := by
  have hheld : t.buf ∈ s.held := by
    rw [held, ht]
    exact List.mem_cons_self
  obtain ⟨packet, hpacket⟩ := hs.holds t.buf (hs.not_free hheld)
  have hoff : t.off = sizeofBuf := congrArg TxTransfer.off (hs.transfer t ht)
  rw [HciTxMem.uartCb, ht]
  simp only [hoff, Nat.sub_self, hpacket.address, BufAddr.at_octets]

/-- **One step**: it does not fault, and the invariant stays. -/
theorem WellFormed.step (hs : s.WellFormed a) (i : TxInput) :
    ∃ s', s.step a size i = .ok s' ∧ s'.WellFormed a := by
  have hcb : ∃ s', s.uartCb a = .ok s' ∧ s'.WellFormed a := by
    rcases ht : s.transfer with - | t
    · refine ⟨s, ?_, hs⟩
      rw [HciTxMem.uartCb, ht]
    · refine ⟨_, hs.uartCb ht, ?_, fun j hj ↦ ?_, fun t' ht' ↦ by cases ht'⟩
      · have hnodup := hs.nodup
        rw [held, ht] at hnodup
        exact List.perm_middle.nodup_iff.1 hnodup
      · exact hs.holds j fun hfree ↦ hj (List.mem_cons_of_mem _ hfree)
  cases i with
  | write type hdr pld =>
    obtain ⟨r, s', hwrite, houtcome⟩ := hciUartWrite_cases a size type hdr pld s
    exact ⟨s', bind_eq_ok.2 ⟨_, hwrite, rfl⟩, houtcome.wellFormed hs⟩
  | get => exact ⟨_, rfl, hs.txThreadGet⟩
  | send => exact ⟨_, rfl, hs.txThreadSend⟩
  | txDone | txAborted => exact hcb

/-- A step that ends keeps the invariant. -/
theorem WellFormed.of_step (hs : s.WellFormed a) {i : TxInput} (h : s.step a size i = .ok s') :
    s'.WellFormed a := by
  obtain ⟨t, ht, hwf⟩ : ∃ t, s.step a size i = .ok t ∧ t.WellFormed a := hs.step i
  cases h.symm.trans ht
  exact hwf

/-- The states of the transmit side in its runs. -/
def Reachable (a : BufAddr n) (size : ℕ) (s : HciTxMem n) : Prop :=
  Fallible.Reachable (step a size) Initial s

/-- The invariant holds in every run. -/
theorem Reachable.wellFormed (hs : s.Reachable a size) : s.WellFormed a :=
  Fallible.Reachable.invariant (fun _ hs ↦ hs.wellFormed) (fun _ _ _ hs h ↦ hs.of_step h) hs

/-! ### Refinement -/

/-- The data of a buffer, taken apart where `tx_thread` and `uart_cb` take it apart. -/
def txBuf (a : BufAddr n) (s : HciTxMem n) (i : Fin n) : TxBuf n :=
  ⟨a.at ((s.pool.block i).read 0 sizeofBuf), s.octets (s.txArgs i)⟩

/-- The memory stands for a state of `HciTx`: the same buffers are in the same places, and those
that are not free hold the same. -/
structure Refines (a : BufAddr n) (s : HciTxMem n) (t : HciTx n) : Prop where
  wellFormed : s.WellFormed a
  free : t.pool.free = s.pool.free
  queue : t.queue = s.queue
  taken : t.taken = s.taken
  transfer : t.transfer = s.transfer.map TxTransfer.buf
  block : ∀ i ∉ s.pool.free, t.pool.block i = s.txBuf a i

/-- A buffer that holds a packet, taken apart, is the buffer of `HciTx` with that packet. -/
theorem Holds.txBuf (h : s.Holds a i packet) : s.txBuf a i = ⟨some i, packet⟩ := by
  rw [HciTxMem.txBuf, h.address, h.octets, BufAddr.at_octets]

/-- Before the first write the two stand for each other: no buffer in use, nothing known of the
memory. -/
theorem Initial.refines (hs : s.Initial) {t : HciTx n} (ht : t.Initial) : s.Refines a t where
  wellFormed := hs.wellFormed
  free := by rw [hs.free, ht.free]
  queue := by rw [hs.queue, ht.queue]
  taken := by rw [hs.taken, ht.taken]
  transfer := by rw [hs.transfer, ht.transfer]; rfl
  block i hi := by
    rw [hs.free] at hi
    exact absurd (List.mem_finRange i) hi

/-- A buffer that is left as it was holds the same. -/
theorem txBuf_congr (h : s'.pool.block i = s.pool.block i) : s'.txBuf a i = s.txBuf a i := by
  rw [HciTxMem.txBuf, HciTxMem.txBuf, HciTxMem.octets, HciTxMem.octets, txArgs, txArgs, h]

variable {t : HciTx n}

/-- **A write in memory is a write of `HciTx`**, with the same answer. -/
theorem Refines.write (h : s.Refines a t) (type : UInt8) (hdr pld : List UInt8) :
    ∃ r s', s.hciUartWrite a size type hdr pld = .ok (r, s') ∧
      (t.hciUartWrite size type hdr pld).1 = r ∧
      s'.Refines a (t.hciUartWrite size type hdr pld).2 := by
  obtain ⟨r, s', hwrite, houtcome⟩ := hciUartWrite_cases a size type hdr pld s
  refine ⟨r, s', hwrite, ?_⟩
  have hwf := houtcome.wellFormed h.wellFormed
  cases houtcome with
  | exhausted hfree =>
    have halloc : t.pool.alloc = none := Pool.alloc_eq_none.2 (h.free.trans hfree)
    rw [HciTx.hciUartWrite, halloc]
    exact ⟨rfl, h⟩
  | @tooLong i free hfree hlong =>
    have halloc : t.pool.alloc = some (i, { t.pool with free := free }) :=
      Pool.alloc_eq_some.2 ⟨h.free.trans hfree, rfl⟩
    rw [sizeofBuf] at hlong
    rw [HciTx.hciUartWrite, halloc]
    simp only
    rw [if_pos hlong]
    refine ⟨rfl, hwf, hfree.symm, h.queue, h.taken, h.transfer, fun j hj ↦ ?_⟩
    -- the buffer goes back to the pool with its data, and free buffers are not compared
    have hne : j ≠ i := by
      rintro rfl
      exact hj (by rw [Pool.write_free, hfree]; exact List.mem_cons_self)
    exact (h.block j hj).trans (txBuf_congr (Pool.write_block_of_ne _ _ hne)).symm
  | @queued i free buf hfree hfits hbytes =>
    have halloc : t.pool.alloc = some (i, { t.pool with free := free }) :=
      Pool.alloc_eq_some.2 ⟨h.free.trans hfree, rfl⟩
    rw [sizeofBuf] at hfits
    rw [HciTx.hciUartWrite, halloc]
    simp only
    rw [if_neg (Nat.not_lt.2 hfits)]
    refine ⟨rfl, hwf, rfl, ?_, h.taken, h.transfer, fun j hj ↦ ?_⟩
    · rw [h.queue]
    · by_cases heq : j = i
      · rw [heq]
        have hholds : Holds a i (type :: (hdr ++ pld)) { s with
            pool := { (s.pool.write i buf) with free := free }
            queue := s.queue ++ [i] } := by
          rw [Holds]
          simp [hbytes]
        -- behind its address the buffer holds the packet, as the buffer of the other side does
        rw [hholds.txBuf, Pool.write_block_self]
      · have hfree' : j ∉ s.pool.free := by
          rw [hfree]
          exact fun hmem ↦ (List.mem_cons.1 hmem).elim heq hj
        rw [Pool.write_block_of_ne _ _ heq]
        exact (h.block j hfree').trans (txBuf_congr (Pool.write_block_of_ne _ _ heq)).symm

theorem Refines.txThreadGet (h : s.Refines a t) : s.txThreadGet.Refines a t.txThreadGet := by
  obtain ⟨hwf, hfree, hqueue, htaken, htransfer, hblock⟩ := h
  have hwf' := hwf.txThreadGet
  rw [HciTxMem.txThreadGet] at hwf' ⊢
  rw [HciTx.txThreadGet, htaken, hqueue]
  cases hs : s.taken with
  | some i =>
    exact ⟨hwf, hfree, hqueue, htaken, htransfer, hblock⟩
  | none =>
    cases hq : s.queue with
    | nil => exact ⟨hwf, hfree, hqueue, htaken, htransfer, hblock⟩
    | cons i queue =>
      simp only [hs, hq] at hwf'
      exact ⟨hwf', hfree, rfl, rfl, htransfer, hblock⟩

theorem Refines.txThreadSend (h : s.Refines a t) : s.txThreadSend.Refines a t.txThreadSend := by
  obtain ⟨hwf, hfree, hqueue, htaken, htransfer, hblock⟩ := h
  have hwf' := hwf.txThreadSend
  rw [HciTxMem.txThreadSend] at hwf' ⊢
  rw [HciTx.txThreadSend, htaken]
  cases hs : s.taken with
  | none => exact ⟨hwf, hfree, hqueue, htaken, htransfer, hblock⟩
  | some i =>
    simp only [hs, uartTx] at hwf' ⊢
    rw [HciTx.uartTx, htransfer]
    cases ht : s.transfer with
    | none =>
      simp only [ht] at hwf' ⊢
      exact ⟨hwf', hfree, hqueue, rfl, rfl, hblock⟩
    | some tr =>
      simp only [ht] at hwf' ⊢
      refine ⟨hwf', hfree, hqueue, rfl, ?_, hblock⟩
      show t.transfer = _
      rw [htransfer, ht]

theorem Refines.uartCb (h : s.Refines a t) :
    ∃ s' t', s.uartCb a = .ok s' ∧ t.uartCb = .ok t' ∧ s'.Refines a t' := by
  obtain ⟨s', hcb, hwf'⟩ : ∃ s', s.step a 0 .txDone = .ok s' ∧ s'.WellFormed a :=
    h.wellFormed.step .txDone
  change s.uartCb a = .ok s' at hcb
  obtain ⟨hwf, hfree, hqueue, htaken, htransfer, hblock⟩ := h
  refine ⟨s', ?_⟩
  rw [HciTx.uartCb, htransfer]
  cases htr : s.transfer with
  | none =>
    rw [HciTxMem.uartCb, htr] at hcb
    cases hcb
    refine ⟨t, ?_, rfl, hwf, hfree, hqueue, htaken, htransfer, hblock⟩
    rw [HciTxMem.uartCb, htr]
  | some tr =>
    have hheld : tr.buf ∈ s.held := by
      rw [held, htr]
      exact List.mem_cons_self
    obtain ⟨packet, hpacket⟩ := hwf.holds tr.buf (hwf.not_free hheld)
    have hself : (t.pool.block tr.buf).self = some tr.buf := by
      rw [hblock _ (hwf.not_free hheld), hpacket.txBuf]
    cases (hwf.uartCb htr).symm.trans hcb
    simp only [Option.map_some, hself]
    refine ⟨_, hcb, rfl, hwf', ?_, hqueue, htaken, rfl, fun j hj ↦ ?_⟩
    · rw [Pool.release_free, Pool.release_free, hfree]
    · exact hblock j fun hmem ↦ hj (List.mem_cons_of_mem _ hmem)

/-- **One step in memory is one step of `HciTx`**: both go on, in states that stand for each
other, and neither faults. -/
theorem step_refines (h : s.Refines a t) (i : TxInput) :
    SameOutcome (Refines a) (s.step a size i) (t.step size i) := by
  cases i with
  | write type hdr pld =>
    obtain ⟨r, s', hwrite, -, hrefines⟩ : ∃ r s', s.hciUartWrite a size type hdr pld = .ok (r, s') ∧
        (t.hciUartWrite size type hdr pld).1 = r ∧
        s'.Refines a (t.hciUartWrite size type hdr pld).2 := h.write type hdr pld
    rw [step, hwrite]
    exact hrefines
  | get => exact h.txThreadGet
  | send => exact h.txThreadSend
  | txDone | txAborted =>
    obtain ⟨s', t', hs, ht, hrefines⟩ := h.uartCb
    rw [step, HciTx.step, hs, ht]
    exact hrefines

/-- **So are runs**, from the first write on. -/
theorem run_refines (hs : s.Initial) (ht : t.Initial) (is : List TxInput) :
    SameOutcome (Refines a) (Fallible.run (step a size) s is)
      (Fallible.run (HciTx.step size) t is) :=
  SameOutcome.run (C := fun _ _ ↦ True) (fun _ _ i h _ ↦ step_refines h i)
    (Guarded.of_forall fun _ _ ↦ trivial) (hs.refines ht)

end HciTxMem

end DirectTestMode.HciUart
