import DirectTestMode.Transport.HciUartTx

/-!
# Events in transmission

`HciTx.Delivering` says that what the UART has accepted, followed by what still waits, is what has
been written, and that no transmit buffer is lost. Every step keeps it but one: `tx_thread` hands a
packet to `uart_tx` while a transfer is in progress, and drops it. So a run delivers every packet
exactly when the thread never does.

* The order is a statement about **three lists**, accepted, waiting and written, of which a step
  moves one packet along. That a packet that waits is still what was written needs that its buffer
  is nobody else's, which is the second part of the invariant, and not a fact about lists.
* The callback finds the buffer by a pointer inside it, `self`. The third part says that the pointer
  of a buffer in use is the buffer's own; with it the end of a transfer releases the right one and
  never fails (`Delivering.uartCb`).
* `uart_tx` has a return value, and the thread does not look at it. `Delivering.send` is an
  equivalence: with an idle UART the packet goes from waiting to accepted, and with a busy one it is
  in neither list and its buffer in no place.

The step lemma says that a step **succeeds and delivers** exactly under the condition, so the run is
the rule for guarded runs over every prefix. The writer is a step like any other here; who writes,
and when, is a matter of `Transport.HciNode`.

`Properties.HciWire` keeps the weaker invariant for all runs, in which packets may be missing.
-/

namespace DirectTestMode.HciUart.HciTx

open Fallible

variable {n size : ℕ}

/-- The buffers of the packets that the UART has not accepted, in order. -/
def waiting (s : HciTx n) : List (Fin n) := s.taken.toList ++ s.queue

/-- The buffers in use. -/
def held (s : HciTx n) : List (Fin n) := s.transfer.toList ++ s.waiting

/-- Every packet written is sent, once and in order, as far as it has got; every buffer is free or
in use, and only once, and one in use is found by its pointer. -/
structure Delivering (s : HciTx n) : Prop where
  inOrder : s.accepted ++ s.waiting.map (fun i ↦ (s.pool.block i).packet) = s.written
  conserved : s.pool.Conserved s.held
  self : ∀ i ∈ s.held, (s.pool.block i).self = some i

/-- The thread hands a packet over only when the UART is idle. -/
def SendsIdle (s : HciTx n) (i : TxInput) : Prop :=
  i = .send → s.taken ≠ none → s.transfer = none

variable {s : HciTx n} {i : Fin n}

/-- Nothing has been written, and every buffer is free. -/
theorem Initial.delivering (hs : s.Initial) : s.Delivering := by
  have hwaiting : s.waiting = [] := by
    rw [waiting, hs.taken, hs.queue]
    rfl
  have hheld : s.held = [] := by
    rw [held, hs.transfer, hwaiting]
    rfl
  refine ⟨?_, fun i ↦ ?_, ?_⟩
  · rw [hwaiting, hs.accepted, hs.written]
    rfl
  · rw [hheld, hs.free, List.append_nil]
    exact List.count_eq_one_of_mem (List.nodup_finRange n) (List.mem_finRange i)
  · rw [hheld]
    exact fun i hi ↦ absurd hi List.not_mem_nil

/-! ### The writer -/

/-- A write takes a buffer for a packet and puts it in the queue, or changes nothing. -/
theorem Delivering.write (hs : s.Delivering) (type : UInt8) (hdr pld : List UInt8) :
    (s.hciUartWrite size type hdr pld).2.Delivering := by
  rw [hciUartWrite]
  rcases halloc : s.pool.alloc with - | ⟨i, pool⟩
  · exact hs
  have hblock : pool.block = s.pool.block := (Pool.alloc_eq_some.1 halloc).2
  have hconserved : pool.Conserved (i :: s.held) := (Pool.conserved_alloc halloc).2 hs.conserved
  simp only
  split_ifs
  -- too long: the buffer is back in the pool
  · refine ⟨?_, Pool.conserved_release.2 hconserved, ?_⟩
    · simp only [Pool.release_block, hblock]
      exact hs.inOrder
    · simp only [Pool.release_block, hblock]
      exact hs.self
  · let t : HciTx n := { s with
      pool := pool.write i ⟨some i, type :: (hdr ++ pld)⟩
      queue := s.queue ++ [i]
      written := s.written ++ [type :: (hdr ++ pld)] }
    have hwaiting : t.waiting = s.waiting ++ [i] := (List.append_assoc _ _ _).symm
    have hheld : t.held = s.held ++ [i] := by
      rw [held, hwaiting, ← List.append_assoc]
      rfl
    -- the new buffer was free, so the packets that wait are not touched
    have hfree : i ∉ s.held := by
      have hnodup := hconserved.nodup.of_append_right
      exact (List.nodup_cons.1 hnodup).1
    have hnew : i ∉ s.waiting := fun hi ↦ hfree (List.mem_append_right _ hi)
    refine ⟨?_, ?_, ?_⟩
    · show s.accepted ++ t.waiting.map _ = s.written ++ _
      rw [hwaiting, List.map_append, map_packet_write halloc hnew, ← List.append_assoc, hs.inOrder]
      simp
    · show (pool.write i _).Conserved t.held
      rw [Pool.conserved_write, hheld]
      exact hconserved.perm (List.perm_append_singleton i s.held)
    · show ∀ j ∈ t.held, _
      rw [hheld]
      intro j hj
      rcases List.mem_append.1 hj with hj | hj
      · rw [Pool.write_block_of_ne _ _ (ne_of_mem_of_not_mem hj hfree), hblock]
        exact hs.self j hj
      · rw [List.mem_singleton.1 hj, Pool.write_block_self]

/-! ### The thread -/

/-- Taking a packet from the queue does not change what waits. -/
theorem Delivering.get (hs : s.Delivering) : s.txThreadGet.Delivering := by
  rw [txThreadGet]
  split
  · rename_i i queue htaken hqueue
    have hwaiting : s.waiting = i :: queue := by
      rw [waiting, htaken, hqueue]
      rfl
    obtain ⟨hinOrder, hconserved, hself⟩ := hs
    rw [held, hwaiting] at hconserved hself
    rw [hwaiting] at hinOrder
    exact ⟨hinOrder, hconserved, hself⟩
  · exact hs

/-- **The thread delivers exactly when the UART is idle.** A packet that it hands to a busy UART is
neither accepted nor kept. -/
theorem Delivering.send (hs : s.Delivering) : s.txThreadSend.Delivering ↔ s.SendsIdle .send := by
  rw [txThreadSend]
  split
  · exact iff_of_true hs fun _ htaken' ↦ absurd ‹_› htaken'
  rename_i i htaken
  have hwaiting : s.waiting = i :: s.queue := by
    rw [waiting, htaken]
    rfl
  obtain ⟨hinOrder, hconserved, hself⟩ := hs
  rw [held, hwaiting] at hconserved hself
  rw [hwaiting] at hinOrder
  rw [uartTx]
  rcases htransfer : s.transfer with - | j
  · refine iff_of_true ⟨?_, ?_, ?_⟩ fun _ _ ↦ htransfer
    · rw [← hinOrder]
      simp [waiting]
    · rw [htransfer] at hconserved
      exact hconserved
    · rw [htransfer] at hself
      exact hself
  · refine iff_of_false (fun hlost ↦ ?_) fun hidle ↦ ?_
    · have hlen := congrArg List.length hlost.inOrder
      rw [← hinOrder] at hlen
      simp [waiting] at hlen
    · rw [hidle rfl (by simp [htaken])] at htransfer
      cases htransfer

/-! ### The callback -/

/-- The end of a transfer releases the buffer of the packet that was sent, which its pointer
finds. -/
theorem Delivering.uartCb (hs : s.Delivering) : ∃ s', s.uartCb = .ok s' ∧ s'.Delivering := by
  rw [HciTx.uartCb]
  rcases htransfer : s.transfer with - | i
  · exact ⟨s, rfl, hs⟩
  have hheld : s.held = i :: s.waiting := by
    rw [held, htransfer]
    rfl
  obtain ⟨hinOrder, hconserved, hself⟩ := hs
  rw [hheld] at hconserved hself
  simp only [hself i List.mem_cons_self]
  exact ⟨_, rfl, hinOrder, Pool.conserved_release.2 hconserved,
    fun j hj ↦ hself j (List.mem_cons_of_mem i hj)⟩

/-! ### Runs -/

/-- **One step.** -/
theorem step_delivering_iff (hs : s.Delivering) (i : TxInput) :
    (∃ s', s.step size i = .ok s' ∧ s'.Delivering) ↔ s.SendsIdle i := by
  cases i with
  | write type hdr pld => exact iff_of_true ⟨_, rfl, hs.write type hdr pld⟩ (by rintro ⟨⟩)
  | get => exact iff_of_true ⟨_, rfl, hs.get⟩ (by rintro ⟨⟩)
  | send =>
    rw [← hs.send]
    simp [step]
  | txDone | txAborted => exact iff_of_true hs.uartCb (by rintro ⟨⟩)

/-- **Every packet that was written is sent, once and in order, exactly in the runs in which the
thread waits for the UART.** -/
theorem events_delivered_iff (hs : s.Initial) (is : List TxInput) :
    (∀ k, ∃ s', Fallible.run (step size) s (is.take k) = .ok s' ∧ s'.Delivering) ↔
      Guarded (step size) SendsIdle s is :=
  Guarded.forall_take_exists_iff (fun _ i hs ↦ step_delivering_iff hs i) hs.delivering

/-- A Command Complete event for Test End and one for Receiver Test. -/
def testEndEvt : TxInput := .write 0x04 [0x0E, 0x06] [0x01, 0x1F, 0x20, 0x00, 0x00, 0x80]
def rxTestEvt : TxInput := .write 0x04 [0x0E, 0x04] [0x01, 0x1D, 0x20, 0x00]

/-- The transmit side of 16 buffers before the first write. -/
def powerOn : HciTx 16 := ⟨⟨fun _ ↦ ⟨none, []⟩, List.finRange 16⟩, [], none, none, [], []⟩

theorem powerOn_initial : powerOn.Initial := by constructor <;> rfl

/-- Two events, the second of them handed over when the first one is sent. -/
theorem events_delivered_iff_two :
    ∃ s', Fallible.run (step 1024) powerOn
        [testEndEvt, .get, .send, rxTestEvt, .get, .txDone, .send, .txDone] = .ok s' ∧
      s'.Delivering := by
  refine (events_delivered_iff powerOn_initial
    [testEndEvt, .get, .send, rxTestEvt, .get, .txDone, .send, .txDone]).2 ?_ 8
  iterate 8 refine (Guarded.cons_ok rfl).2 ⟨by first | exact fun _ _ ↦ rfl | rintro ⟨⟩, ?_⟩
  trivial

/-- **Of two events written at once, the second is not sent**, and its buffer is lost. -/
theorem second_event_lost :
    ∃ s', Fallible.run (step 1024) powerOn
        [testEndEvt, rxTestEvt, .get, .send, .get, .send, .txDone] = .ok s' ∧
      s'.written.length = 2 ∧ s'.accepted = s'.written.take 1 ∧ s'.held = [] ∧
      s'.pool.free.length = 15 ∧ ¬ s'.Delivering := by
  refine ⟨_, rfl, rfl, rfl, rfl, rfl, fun hs ↦ ?_⟩
  have hlen := congrArg List.length hs.inOrder
  exact absurd hlen (by decide)

end DirectTestMode.HciUart.HciTx
