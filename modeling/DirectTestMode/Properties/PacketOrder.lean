import DirectTestMode.Properties.H4Stream

/-!
# The order of the packets

Behind the parser, a packet waits in the queue until somebody takes it, and this reader has one
packet in hand at a time. `RxHand` is the receive side with that hand. As long as no buffer is in
two places (`RxHand.InOrder`), nobody writes to a packet that waits, so what comes out at the end is
what the reader of the stream finds. `RxHand.Moves` says so for one step: a window is read, a packet
is taken, or the hand is done with its packet and may give the buffer back or lose it.

## One lemma for two firmwares

The HCI firmware and the application core of the split one both have a receive side with a hand, and
steps of their own around it. So nothing here fixes a machine. `run_moves` takes any step function
with a projection to `RxHand` and an invariant, asks that every step moves the packets as `Moves`
says, and concludes for its runs: what was processed, what is in hand and what is in the queue are,
in this order, the packets of the stream. `Properties.CommandStream` and `Properties.RemoteStream`
are the two instances.

The order of the three parts is the whole point of `waiting`. Taking a packet moves it from the
queue to the hand and changes nothing in the list; being done with it moves it to the log. A buffer
that is lost is missing from the pool from then on, but its packet was processed, so the books of
packets do not see it.
-/

namespace DirectTestMode.HciUart

open Fallible

variable {n q : ℕ}

/-- The receive side, and the buffer that has been taken from its queue. -/
structure RxHand (n : ℕ) where
  rx : HciRx n
  hand : Option (Fin n)

namespace RxHand

/-- The packet in a receive buffer. -/
def packet (t : RxHand n) (j : Fin n) : UInt8 × List UInt8 :=
  ((t.rx.pool.block j).userData, (t.rx.pool.block j).bytes)

/-- The packets that nobody is done with. -/
def waiting (t : RxHand n) : List (UInt8 × List UInt8) :=
  t.hand.toList.map t.packet ++ t.rx.packets

/-- No buffer is in two places, and the parser knows where it is. -/
structure InOrder (t : RxHand n) : Prop where
  framed : t.rx.Framed
  nodup : (t.hand.toList ++ t.rx.buffers).Nodup

/-- What a step does to the packets: it reads `octets`, is done with the packets `done`, and keeps
the others in their order. -/
structure Moves (t : RxHand n) (octets : List UInt8) (done : List (UInt8 × List UInt8))
    (t' : RxHand n) : Prop where
  inOrder : t'.InOrder
  packets : ∃ ps, done ++ t'.waiting = t.waiting ++ ps ∧
    h4Reader.Reads t.rx.pending octets ps t'.rx.pending

variable {t t' : RxHand n}

theorem InOrder.rx_nodup (ht : t.InOrder) : t.rx.buffers.Nodup := ht.nodup.of_append_right

/-- The buffer in hand is not with the parser. -/
theorem InOrder.apart (ht : t.InOrder) {j : Fin n} (hj : j ∈ t.hand.toList) :
    j ∉ t.rx.pool.free ++ t.rx.held := by
  have hnodup := ht.nodup
  rw [List.nodup_append] at hnodup
  intro hmem
  refine hnodup.2.2 j hj j ?_ rfl
  rw [HciRx.buffers, ← List.append_assoc]
  exact List.mem_append_left _ hmem

/-- The receive side at power-on. -/
def powerOn (n : ℕ) : RxHand n := ⟨.powerOn n, none⟩

theorem powerOn_inOrder : (powerOn n).InOrder := ⟨HciRx.powerOn_framed, HciRx.powerOn_nodup⟩

@[simp] theorem powerOn_waiting : (powerOn n).waiting = [] := rfl

@[simp] theorem powerOn_pending : (powerOn n).rx.pending = [] := rfl

/-! ### The steps -/

/-- The parser reads a window. -/
theorem moves_read (ht : t.InOrder) {src : List UInt8} {rx : HciRx n}
    (hrx : h4Loop q t.rx src = .ok rx) : t.Moves src [] { t with rx := rx } := by
  have hreads := h4Loop_reads ht.framed ht.rx_nodup hrx
  obtain ⟨ps, hps, hread⟩ := hreads.packets
  refine ⟨⟨hreads.framed, ?_⟩, ps, ?_, hread⟩
  · exact (hreads.buffers.append_left t.hand.toList).nodup_iff.2 ht.nodup
  · have hhand : t.hand.toList.map ({ t with rx := rx } : RxHand n).packet =
        t.hand.toList.map t.packet := by
      refine List.map_congr_left fun j hj ↦ ?_
      show ((rx.pool.block j).userData, (rx.pool.block j).bytes) = t.packet j
      rw [hreads.block j (ht.apart hj)]
      rfl
    show _ ++ rx.packets = _
    rw [hhand, hps, waiting, List.append_assoc]

/-- A step that reads nothing. -/
theorem Moves.silent (ht : t.InOrder) (ht' : t'.InOrder) {done : List (UInt8 × List UInt8)}
    (hpending : t'.rx.pending = t.rx.pending) (hdone : done ++ t'.waiting = t.waiting) :
    t.Moves [] done t' where
  inOrder := ht'
  packets := by
    refine ⟨[], ?_, ?_⟩
    · rw [hdone, List.append_nil]
    · rw [hpending]
      exact .nil ht.framed.next_pending

/-- A step that has nothing to do with the receive side. -/
theorem Moves.refl (ht : t.InOrder) : t.Moves [] [] t := .silent ht ht rfl rfl

/-- A packet is taken from the queue. -/
theorem moves_take (ht : t.InOrder) {j : Fin n} {queue : List (Fin n)} (hhand : t.hand = none)
    (hqueue : t.rx.queue = j :: queue) :
    t.Moves [] [] ⟨{ t.rx with queue := queue }, some j⟩ := by
  have hinOrder : InOrder ⟨{ t.rx with queue := queue }, some j⟩ := by
    refine ⟨ht.framed, ?_⟩
    have hnodup := ht.nodup
    rw [hhand, HciRx.buffers, hqueue] at hnodup
    have hperm : ([j] ++ (t.rx.pool.free ++ (t.rx.held ++ queue))).Perm
        ([] ++ (t.rx.pool.free ++ (t.rx.held ++ j :: queue))) := by
      rw [List.nil_append, List.singleton_append, ← List.append_assoc t.rx.pool.free,
        ← List.append_assoc t.rx.pool.free]
      exact List.perm_middle.symm
    exact hperm.nodup_iff.2 hnodup
  refine .silent ht hinOrder rfl ?_
  show [t.packet j] ++ queue.map t.packet = t.waiting
  rw [waiting, HciRx.packets, hhand, hqueue]
  rfl

/-- The packet in hand is the first of those that wait. -/
theorem waiting_hand {j : Fin n} (hhand : t.hand = some j) :
    t.waiting = [t.packet j] ++ t.rx.packets := by
  rw [waiting, hhand]
  rfl

/-- The packet in hand is done with, and its buffer released. -/
theorem moves_release (ht : t.InOrder) {j : Fin n} (hhand : t.hand = some j) :
    t.Moves [] [t.packet j] ⟨{ t.rx with pool := t.rx.pool.release j }, none⟩ := by
  have hnodup := ht.nodup
  rw [hhand] at hnodup
  have hinOrder : InOrder ⟨{ t.rx with pool := t.rx.pool.release j }, none⟩ := ⟨ht.framed, hnodup⟩
  exact .silent ht hinOrder rfl (waiting_hand hhand).symm

/-- The packet in hand is done with, and its buffer lost. -/
theorem moves_lose (ht : t.InOrder) {j : Fin n} (hhand : t.hand = some j) :
    t.Moves [] [t.packet j] ⟨t.rx, none⟩ := by
  have hinOrder : InOrder ⟨t.rx, none⟩ := ⟨ht.framed, ht.rx_nodup⟩
  exact .silent ht hinOrder rfl (waiting_hand hhand).symm

/-- What was read is whole, so what waits stays whole. -/
theorem Moves.whole {octets : List UInt8} {done : List (UInt8 × List UInt8)}
    (h : t.Moves octets done t')
    (hwhole : ∀ p ∈ t.waiting, p.2.length = h4Framing.len p.1 p.2) :
    ∀ p ∈ t'.waiting, p.2.length = h4Framing.len p.1 p.2 := by
  obtain ⟨ps, hps, hreads⟩ := h.packets
  intro p hp
  have hmem : p ∈ t.waiting ++ ps := by
    rw [← hps]
    exact List.mem_append_right _ hp
  rcases List.mem_append.1 hmem with hp | hp
  · exact hwhole p hp
  · have hread : h4Framing.reader.read (t.rx.pending ++ octets) = (ps, t'.rx.pending) := hreads
    refine (Framing.reader_wellFormed (F := h4Framing) (t.rx.pending ++ octets) p ?_).2
    rw [hread]
    exact hp

/-! ### Runs -/

/-- **A run** of a machine whose steps move packets and note those that are done with. -/
theorem run_moves {σ ι ε : Type} {step : σ → ι → Except ε σ} {I : σ → Prop} (side : σ → RxHand n)
    (octets : ι → List UInt8) (done : σ → ι → List (UInt8 × List UInt8))
    (hside : ∀ s, I s → (side s).InOrder)
    (hstep : ∀ s i s', I s → step s i = .ok s' →
      I s' ∧ (side s).Moves (octets i) (done s i) (side s'))
    {s s' : σ} {log : List (UInt8 × List UInt8)} {is : List ι} (hI : I s) (hs : side s = powerOn n)
    (h : Fallible.run (noteStep step fun s i log ↦ log ++ done s i) (s, []) is = .ok (s', log)) :
    h4Reader.read (is.flatMap octets) = (log ++ (side s').waiting, (side s').rx.pending) := by
  have hrun := RecordReader.run_reads (R := h4Reader) (I := fun t ↦ I t.1)
    (fun t ↦ (side t.1).rx.pending) (fun t ↦ t.2 ++ (side t.1).waiting) octets
    (fun t ht ↦ (hside t.1 ht).framed.next_pending) (fun t i t' ht hnote ↦ ?_) hI h
  · obtain ⟨-, ps, hps, hreads⟩ := hrun
    simp only [hs, powerOn_waiting, powerOn_pending, List.nil_append] at hps hreads
    rw [hps]
    exact hreads
  · obtain ⟨u, hu, hnote⟩ := bind_eq_ok.1 hnote
    cases hnote
    obtain ⟨hIu, hmoves⟩ := hstep t.1 i u ht hu
    obtain ⟨ps, hps, hreads⟩ := hmoves.packets
    refine ⟨hIu, ps, ?_, hreads⟩
    rw [List.append_assoc, hps, ← List.append_assoc]

end RxHand

end DirectTestMode.HciUart
