import DirectTestMode.Transport.HciUartTxMem

/-!
# A write to the UART

`hci_uart_write` is all or nothing. Either no buffer is free or the packet does not fit, and then
pool and queue are as before; or one buffer is appended to the queue. From then on, for as long as
the buffer is not free again and whatever else happens, what `tx_thread` hands over for it is the
packet, octet for octet, and at the end of the transfer `uart_cb` releases this buffer and no other.

The memory is that of `HciTxMem`: there is no packet in it, only octets behind an address.

* A buffer holds, in front of the packet, the address of the buffer itself. The thread sends what is
  behind it, and the callback subtracts its size from the address it is given and reads it. That
  this finds the buffer again is `Delivers.releases`, and it rests on the addresses of different
  buffers being different (`BufAddr`).
* The check of the room counts the address with the packet, so what is refused is known exactly, and
  what is accepted is within the tailroom: no append asserts.
* "For as long as the buffer is not free" is a guard of the later run. No step writes to a buffer
  that is not free (`step_block`), so the octets stay, whatever is written, sent or released
  meanwhile.

`run_refines` of `Transport.HciUartTxMem` ties this memory to the machine with packets, on which
`Properties.Transmit` has its results about order and loss.

A write that is refused for its length has allocated a buffer and gives it back; `Unchanged` says
that this shows in nothing but the length of a free buffer.
-/

namespace DirectTestMode.HciUart.HciTxMem

open Fallible

variable {n size : ℕ} {a : BufAddr n} {s s' : HciTxMem n} {i : Fin n} {packet : List UInt8}

/-- Pool and queue are as they were. A free buffer has a memory, but no length: `net_buf_alloc` sets
it to zero whenever it hands the buffer out. -/
structure Unchanged (s s' : HciTxMem n) : Prop where
  free : s'.pool.free = s.pool.free
  queue : s'.queue = s.queue
  taken : s'.taken = s.taken
  transfer : s'.transfer = s.transfer
  mem : ∀ i, (s'.pool.block i).mem = (s.pool.block i).mem
  block : ∀ i ∉ s.pool.free, s'.pool.block i = s.pool.block i

/-- One buffer has been taken from the free ones, filled within its tailroom and appended to the
queue. -/
structure Appended (size : ℕ) (i : Fin n) (s s' : HciTxMem n) : Prop where
  free : s.pool.free = i :: s'.pool.free
  queue : s'.queue = s.queue ++ [i]
  taken : s'.taken = s.taken
  transfer : s'.transfer = s.transfer
  block : ∀ j ≠ i, s'.pool.block j = s.pool.block j
  fits : (s'.pool.block i).len ≤ size

/-- The packet in a buffer is what `tx_thread` hands over for it and what a transfer of it sends,
and the end of that transfer releases it. -/
structure Delivers (a : BufAddr n) (i : Fin n) (packet : List UInt8) (s : HciTxMem n) : Prop where
  args : s.octets (s.txArgs i) = packet
  sends : ∀ t, s.transfer = some t → t.buf = i → s.octets t = packet
  releases : ∀ t, s.transfer = some t → t.buf = i →
    s.uartCb a = .ok { s with transfer := none, pool := s.pool.release i }

/-- A packet in a buffer in use can be sent and its buffer released. -/
theorem WellFormed.delivers (hs : s.WellFormed a) (h : s.Holds a i packet) :
    s.Delivers a i packet where
  args := h.octets
  sends t ht hi := by
    rw [hs.transfer t ht, hi, h.octets]
  releases t ht hi := by
    rw [hs.uartCb ht, hi]

/-- **No step writes to a buffer that is not free.** -/
theorem step_block {j : TxInput} (hi : i ∉ s.pool.free) (h : s.step a size j = .ok s') :
    s'.pool.block i = s.pool.block i := by
  have hcb (h : s.uartCb a = .ok s') : s'.pool.block i = s.pool.block i := by
    rw [HciTxMem.uartCb] at h
    split at h
    · cases h
      rfl
    · split at h
      · cases h
      · cases h
        rfl
  cases j with
  | write type hdr pld =>
    obtain ⟨r, t, hwrite, houtcome⟩ := hciUartWrite_cases a size type hdr pld s
    obtain ⟨x, hx, hret⟩ := bind_eq_ok.1 h
    cases hwrite.symm.trans hx
    cases hret
    -- a write takes the first free buffer, which is another one
    have hne {j : Fin n} {free : List (Fin n)} (hfree : s.pool.free = j :: free) : i ≠ j := by
      rintro rfl
      exact hi (by rw [hfree]; exact List.mem_cons_self)
    cases houtcome with
    | exhausted => rfl
    | tooLong hfree | queued hfree => exact Pool.write_block_of_ne _ _ (hne hfree)
  | get =>
    cases h
    rw [HciTxMem.txThreadGet]
    split <;> rfl
  | send =>
    cases h
    rw [HciTxMem.txThreadSend]
    split
    · rfl
    · rw [HciTxMem.uartTx]
      split <;> rfl
  | txDone | txAborted => exact hcb h

/-- A packet stays in its buffer until the buffer is free. -/
theorem Holds.run {later : List TxInput} (hs : s.WellFormed a) (h : s.Holds a i packet)
    (hused : Guarded (step a size) (fun s _ ↦ i ∉ s.pool.free) s later)
    (hrun : Fallible.run (step a size) s later = .ok s') :
    s'.WellFormed a ∧ s'.Holds a i packet :=
  hused.invariant (I := fun s ↦ s.WellFormed a ∧ s.Holds a i packet)
    (fun s j s' hs hi hstep ↦ ⟨hs.1.of_step hstep, by
      rw [Holds, step_block hi hstep]
      exact hs.2⟩) ⟨hs, h⟩ hrun

/-- **A write is all or nothing**, in every reachable state: an error with nothing changed, and
then for want of a buffer or of room, or one buffer that delivers the packet in every later run. -/
theorem hciUartWrite_all_or_nothing (a : BufAddr n) (hs : s.Reachable a size) (type : UInt8)
    (hdr pld : List UInt8) :
    ∃ r s', s.hciUartWrite a size type hdr pld = .ok (r, s') ∧
      ((r = .err .enomem ∧ s.Unchanged s' ∧
          (s.pool.free = [] ∨ size < pld.length + hdr.length + 1 + sizeofBuf)) ∨
        (r = .ok ∧ ∃ i, s.Appended size i s' ∧
          ∀ later s'', Guarded (step a size) (fun s _ ↦ i ∉ s.pool.free) s' later →
            Fallible.run (step a size) s' later = .ok s'' →
            s''.Delivers a i (type :: (hdr ++ pld)))) := by
  obtain ⟨r, s', hwrite, houtcome⟩ := hciUartWrite_cases a size type hdr pld s
  refine ⟨r, s', hwrite, ?_⟩
  have hwf := houtcome.wellFormed hs.wellFormed
  cases houtcome with
  | exhausted hfree =>
    exact .inl ⟨rfl, ⟨rfl, rfl, rfl, rfl, fun _ ↦ rfl, fun _ _ ↦ rfl⟩, .inl hfree⟩
  | @tooLong i free hfree hlong =>
    refine .inl ⟨rfl, ⟨rfl, rfl, rfl, rfl, fun j ↦ ?_, fun j hj ↦ ?_⟩, .inr hlong⟩
    · by_cases heq : j = i
      · rw [heq, Pool.write_block_self]
        rfl
      · rw [Pool.write_block_of_ne _ _ heq]
    · refine Pool.write_block_of_ne _ _ ?_
      rintro rfl
      exact hj (by rw [hfree]; exact List.mem_cons_self)
  | @queued i free buf hfree hfits hbytes =>
    have hholds : Holds a i (type :: (hdr ++ pld)) { s with
        pool := { (s.pool.write i buf) with free := free }
        queue := s.queue ++ [i] } := by
      rw [Holds]
      simp [hbytes]
    refine .inr ⟨rfl, i, ⟨hfree, rfl, rfl, rfl, fun j hj ↦ Pool.write_block_of_ne _ _ hj, ?_⟩, ?_⟩
    · rw [hholds.len, List.length_cons, List.length_append]
      omega
    · intro later s'' hused hrun
      obtain ⟨hwf'', hholds''⟩ := hholds.run hwf hused hrun
      exact hwf''.delivers hholds''

/-- Sixteen buffers, 32 octets apart. -/
def addrs : BufAddr 16 where
  octets i := [UInt8.ofNat (32 * i), UInt8.ofNat (i / 8), 0x00, 0x20]
  length_octets _ := rfl
  injective := by decide

/-- The memory before the first write. -/
def memOn : HciTxMem 16 := ⟨⟨fun _ ↦ ⟨0, fun _ ↦ 0, 0⟩, List.finRange 16⟩, [], none, none⟩

theorem memOn_reachable : memOn.Reachable addrs size := .start (by constructor <;> rfl)

/-- A Command Complete event is written, taken and sent, and its buffer released. -/
theorem hciUartWrite_all_or_nothing_event :
    ∃ s' s'', memOn.hciUartWrite addrs 1024 0x04 [0x0E, 0x04] [0x01, 0x1D, 0x20, 0x00] =
        .ok (.ok, s') ∧
      Fallible.run (step addrs 1024) s' [.get, .send] = .ok s'' ∧
      s''.transfer = some ⟨0, 4, 7⟩ ∧
      s''.octets ⟨0, 4, 7⟩ = [0x04, 0x0E, 0x04, 0x01, 0x1D, 0x20, 0x00] ∧
      s''.uartCb addrs = .ok { s'' with transfer := none, pool := s''.pool.release 0 } := by
  have hreachable : memOn.Reachable addrs 1024 := memOn_reachable
  obtain ⟨r, s', hwrite, h⟩ := hciUartWrite_all_or_nothing addrs hreachable 0x04 [0x0E, 0x04]
    [0x01, 0x1D, 0x20, 0x00]
  have hrfl : memOn.hciUartWrite addrs 1024 0x04 [0x0E, 0x04] [0x01, 0x1D, 0x20, 0x00] =
    .ok (.ok, _) := rfl
  cases hrfl.symm.trans hwrite
  rcases h with ⟨hret, -⟩ | ⟨-, i, happended, hlater⟩
  · cases hret
  · have hi : i = 0 := (List.cons.inj happended.free).1.symm
    cases hi
    have hdelivers := hlater [.get, .send] _ ?_ rfl
    · exact ⟨_, _, rfl, rfl, rfl, hdelivers.sends _ rfl rfl, hdelivers.releases _ rfl rfl⟩
    · refine (Guarded.cons_ok rfl).2 ⟨?_, (Guarded.cons_ok rfl).2 ⟨?_, trivial⟩⟩
      · decide
      · decide

end DirectTestMode.HciUart.HciTxMem
