import DirectTestMode.Properties.PacketOrder
import DirectTestMode.Transport.RemoteCore

/-!
# The stream to the network core

`dtm_put_thread` treats every packet alike. So the application core gives back every receive buffer,
of a command or not, which `dtm_tr_process` on a single core does not, and the messages it sends are
the packets of the stream, each once, whole and in order (`messages_in_order`). No message is too
long for what was allocated for it.

## What it rests on

* The order of the packets is `RxHand.run_moves` of `Properties.PacketOrder`: the thread is the hand
  that takes packets from the queue, and being done with one is sending it.
* That a message is well formed rests on the packet being whole, since the encoder is given the
  length of the buffer. What is assumed of the encoder is `Zcbor.Lawful`; that a message has room
  for its packet, and that a packet is short enough to be encoded, are facts about H4 and the
  allocation (`Sound.put`).
* The conservation of the buffers is that of `Properties.RxBuffers` with the one difference at the
  end of a packet. It holds without a condition here, and the assertion that a buffer is free is met
  only where all of them wait for the thread.

`Sound` puts these together, and its step lemma has one case for each input. A run may still stop
with the tailroom assertion, for a packet that is longer than a receive buffer; the thread itself
never stops (`Sound.threadPut`).

What the network core makes of a message is in `Transport.RemoteHci`, and whether the packet gets
there with its type in `Properties.TwoCores`.
-/

namespace DirectTestMode.AppCore

open Fallible HciUart RemoteHci

variable {n q : ℕ} {z : Zcbor} {s s' : AppCore n}

/-- The octets that an input brings. -/
def received : AppInput → List UInt8
  | .uartRx w => w.bytes
  | .get | .put => []

/-- The receive side, with the buffer that the thread has. -/
def side (s : AppCore n) : RxHand n := ⟨s.rx, s.buf⟩

/-- The packet that a step sends. -/
def done (s : AppCore n) (i : AppInput) : List (UInt8 × List UInt8) :=
  match i, s.buf with
  | .put, some j => [s.side.packet j]
  | _, _ => []

/-- The message that a packet is sent as. -/
def message (z : Zcbor) (p : UInt8 × List UInt8) : List UInt8 :=
  z.uintEncode p.1 ++ z.bstrEncode p.2

/-- What the core keeps: the packets that wait are whole and in order, and every buffer is free,
with the parser, in the queue or with the thread. -/
structure Sound (q : ℕ) (s : AppCore n) : Prop where
  inOrder : s.side.InOrder
  whole : ∀ p ∈ s.side.waiting, p.2.length = h4Framing.len p.1 p.2
  ready : s.rx.Ready q
  conserving : s.rx.Conserving s.buf.toList

/-- The receive side starts as at power-on. -/
theorem Initial.side (hs : s.Initial) : s.side = .powerOn n := by
  rw [AppCore.side, hs.rx, hs.buf]
  rfl

/-- Nothing waits, and every buffer is free. -/
theorem Initial.sound (hs : s.Initial) : s.Sound q := by
  refine ⟨?_, ?_, ?_, ?_⟩
  · rw [hs.side]
    exact RxHand.powerOn_inOrder
  · rw [hs.side]
    exact fun p hp ↦ absurd hp List.not_mem_nil
  · rw [hs.rx]
    trivial
  · rw [hs.rx, hs.buf]
    exact HciRx.powerOn_conserving

/-- No packet is as long as a length of 32 bits can be. -/
theorem h4Framing_len_lt (type : UInt8) (content : List UInt8) :
    h4Framing.len type content < 2 ^ 32 := by
  have hhdr : hciHdrLen type ≤ 4 := by
    rw [hciHdrLen]
    split_ifs <;> decide
  have hpld : hciPldLen type (content.getD · 0) ≤ 255 + 256 * 255 := by
    have h2 := (content.getD 2 0).toNat_lt
    have h3 := (content.getD 3 0).toNat_lt
    rw [hciPldLen]
    split_ifs <;> omega
  show hciHdrLen type + hciPldLen type (content.getD · 0) < 2 ^ 32
  omega

/-- The message of the packet that the thread has. -/
theorem Sound.put (hz : z.Lawful) (hs : s.Sound q) {j : Fin n} (hbuf : s.buf = some j) :
    dtmHciPutRemote z (s.rx.pool.block j) = .ok (message z (s.side.packet j)) := by
  have hwhole := hs.whole (s.side.packet j) (by
    rw [RxHand.waiting_hand (show s.side.hand = some j from hbuf)]
    exact List.mem_append_left _ (List.mem_singleton_self _))
  refine dtmHciPutRemote_ok hz ?_
  rw [← NetBuf.length_bytes]
  show (s.side.packet j).2.length < 2 ^ 32
  rw [hwhole]
  exact h4Framing_len_lt _ _

/-- The thread is never stopped. -/
theorem Sound.threadPut (hz : z.Lawful) (hs : s.Sound q) :
    ∃ s', s.threadPut z = .ok s' ∧ s'.Sound q ∧ s.side.Moves [] (s.done .put) s'.side ∧
      s'.sent = s.sent ++ (s.done .put).map (message z) := by
  rw [AppCore.threadPut]
  rcases hbuf : s.buf with - | j
  · have hdone : s.done .put = [] := by simp only [done, hbuf]
    rw [hdone]
    exact ⟨s, rfl, hs, .refl hs.inOrder, (List.append_nil _).symm⟩
  · have hdone : s.done .put = [s.side.packet j] := by simp only [done, hbuf]
    have hmoves := RxHand.moves_release hs.inOrder hbuf
    have hconserving : (s.rx.pool.release j).Conserved (s.rx.held ++ s.rx.queue) := by
      refine Pool.conserved_release.2 ?_
      have hcons := hs.conserving
      rw [HciRx.Conserving, hbuf] at hcons
      exact hcons.perm List.perm_middle.symm
    simp only [hs.put hz hbuf, ok_bind, pure_eq_ok]
    rw [hdone]
    exact ⟨_, rfl, ⟨hmoves.inOrder, hmoves.whole hs.whole, hs.ready, hconserving⟩, hmoves, rfl⟩

/-! ### One step -/

/-- **What a step does**, input by input: it moves packets, and sends those that it is done with. -/
theorem Sound.step (hz : z.Lawful) (hs : s.Sound q) {i : AppInput} (h : s.step z q i = .ok s') :
    s'.Sound q ∧ s.side.Moves (received i) (s.done i) s'.side ∧
      s'.sent = s.sent ++ (s.done i).map (message z) := by
  cases i with
  | uartRx w =>
    rw [AppCore.step] at h
    split at h
    · rename_i rx hrx
      cases h
      have hmoves := RxHand.moves_read hs.inOrder hrx
      exact ⟨⟨hmoves.inOrder, hmoves.whole hs.whole, ((h4Loop_fits hs.ready _).1 _ hrx).ready,
        (h4Loop_conserving hrx).2 hs.conserving⟩, hmoves, (List.append_nil _).symm⟩
    · cases h
  | get =>
    cases h
    rw [threadGet]
    split
    · rename_i j queue hbuf hqueue
      have hmoves := RxHand.moves_take hs.inOrder hbuf hqueue
      refine ⟨⟨hmoves.inOrder, hmoves.whole hs.whole, hs.ready, ?_⟩, hmoves,
        (List.append_nil _).symm⟩
      have hconserving := hs.conserving
      rw [HciRx.Conserving, hbuf, hqueue] at hconserving
      exact hconserving
    · exact ⟨hs, .refl hs.inOrder, (List.append_nil _).symm⟩
  | put =>
    obtain ⟨t, ht, hsound⟩ := hs.threadPut hz
    rw [AppCore.step, ht] at h
    cases h
    exact hsound

/-- Fewer than `n` packets wait for the thread, after each octet of a window. -/
def FewWaiting (q : ℕ) (s : AppCore n) (i : AppInput) : Prop :=
  ∀ w k rx, i = .uartRx w → h4Loop q s.rx (w.bytes.take k) = .ok rx →
    s.buf.toList.length + rx.queue.length < n

/-- What can stop a step: the assertion on the tailroom, or a packet too many. -/
theorem Sound.step_error (hz : z.Lawful) (hs : s.Sound q) {i : AppInput} {e : AppFault}
    (h : s.step z q i = .error e) :
    e = .rx .tailroom ∨ (e = .rx .noBuffer ∧ ¬s.FewWaiting q i) := by
  cases i with
  | uartRx w =>
    rw [AppCore.step] at h
    split at h
    · cases h
    · rename_i e' hrx
      cases h
      cases e' with
      | null => exact absurd hrx (h4Loop_not_null hs.ready _)
      | tailroom => exact .inl rfl
      | noBuffer =>
        refine .inr ⟨rfl, fun hfew ↦ ?_⟩
        obtain ⟨k, t, ht, hstate, hfree⟩ := h4Loop_noBuffer hs.ready hrx
        have hwait := hfew w k t rfl ht
        have hlength := ((h4Loop_conserving ht).2 hs.conserving).length
        rw [HciRx.held_type hstate, hfree, Fintype.card_fin] at hlength
        simp only [List.length_nil, List.nil_append, List.length_append] at hlength
        omega
  | get => cases h
  | put =>
    obtain ⟨t, ht, -⟩ := hs.threadPut hz
    rw [AppCore.step, ht] at h
    cases h

/-! ### Runs -/

/-- **What the network core is sent.** In every run of the application core the messages are the
packets of the received stream as far as they are sent, in order, with their types and octets; what
waits comes next in the stream. Every buffer is free, with the parser, in the queue or with the
thread. A message never fails; the assertion that a buffer is free fails only when all of them wait
for the thread. -/
theorem messages_in_order (hz : z.Lawful) (hs : s.Initial) (is : List AppInput) :
    (∀ s', Fallible.run (step z q) s is = .ok s' →
      s'.rx.Conserving s'.buf.toList ∧
      ∃ ps, s'.sent = ps.map (message z) ∧
        h4Reader.read (is.flatMap received) = (ps ++ s'.side.waiting, s'.rx.pending)) ∧
    (∀ e, Fallible.run (step z q) s is ≠ .error (.rpc e)) ∧
    (Guarded (step z q) (FewWaiting q) s is →
      Fallible.run (step z q) s is ≠ .error (.rx .noBuffer)) := by
  have hkeep (s : AppCore n) (i : AppInput) (s' : AppCore n) (hs : s.Sound q)
      (h : s.step z q i = .ok s') : s'.Sound q := (hs.step hz h).1
  have hany : Guarded (step z q) (fun _ _ ↦ True) s is := Guarded.of_forall fun _ _ ↦ trivial
  have hnoted : Guarded (noteStep (step z q) fun s i log ↦ log ++ s.done i) (fun _ _ ↦ True) (s, [])
      is := Guarded.of_forall fun _ _ ↦ trivial
  refine ⟨fun s' h ↦ ⟨?_, ?_⟩, fun e ↦ ?_, fun hfew ↦ ?_⟩
  · exact (hany.invariant (fun s i s' hs _ ↦ hkeep s i s' hs) hs.sound h).conserving
  -- the packets that are done are logged beside the state, and sent is what they encode to
  · obtain ⟨ps, hps⟩ := run_note (fun s i log ↦ log ++ s.done i) h []
    refine ⟨ps, ?_, RxHand.run_moves (I := Sound q) side received done (fun _ ht ↦ ht.inOrder)
      (fun s i s' ht hstep ↦ ?_) hs.sound hs.side hps⟩
    · refine (hnoted.invariant (I := fun t ↦ t.1.Sound q ∧ t.1.sent = t.2.map (message z))
        (fun t i t' ht _ hstep ↦ ?_) ⟨hs.sound, hs.sent⟩ hps).2
      obtain ⟨u, hu, hstep⟩ := bind_eq_ok.1 hstep
      cases hstep
      obtain ⟨hsound, -, hsent⟩ := ht.1.step hz hu
      exact ⟨hsound, by rw [hsent, ht.2, List.map_append]⟩
    · obtain ⟨hsound, hmoves, -⟩ := ht.step hz hstep
      exact ⟨hsound, hmoves⟩
  -- no step has an RPC fault, as the coder is lawful
  · refine hany.not_fault (I := Sound q) (fun s i s' hs _ ↦ hkeep s i s' hs) ?_ hs.sound
    intro s i hs _ herror
    rcases hs.step_error hz herror with h | ⟨h, -⟩ <;> cases h
  -- the only fault left is the one that the guard excludes
  · refine hfew.not_fault (I := Sound q) (fun s i s' hs _ ↦ hkeep s i s' hs) ?_ hs.sound
    intro s i hs hfew herror
    rcases hs.step_error hz herror with h | ⟨-, h⟩
    · cases h
    · exact h hfew

/-- The core with its buffers free. -/
def powerOn : AppCore 16 := ⟨.powerOn 16, none, []⟩

theorem powerOn_initial : powerOn.Initial := ⟨rfl, rfl, rfl⟩

/-- A data packet is sent like a command. -/
theorem messages_in_order_acl :
    ∃ s', Fallible.run (step .cbor 1024) powerOn
        [.uartRx (.ofBytes aclPacket.serialise), .get, .put] = .ok s' ∧
      s'.rx.Conserving s'.buf.toList ∧ s'.sent = [message .cbor (0x02, aclPacket.content)] := by
  obtain ⟨i, pool, halloc⟩ : ∃ i pool, powerOn.rx.pool.alloc = some (i, pool) := ⟨_, _, rfl⟩
  let s : AppCore 16 := { powerOn with rx := powerOn.rx.receive i pool aclPacket }
  let t : AppCore 16 := s.threadGet
  have hrx : powerOn.step .cbor 1024 (.uartRx (.ofBytes aclPacket.serialise)) = .ok s := by
    rw [step, uartRxRdy_eq, RxWindow.bytes_ofBytes,
      HciSystem.h4Loop_serialise rfl halloc aclPacket (by decide)]
  have hsound := (powerOn_initial.sound.step Zcbor.cbor_lawful hrx).1
  have hget : s.step .cbor 1024 .get = .ok t := rfl
  obtain ⟨s', hput, -⟩ := (hsound.step Zcbor.cbor_lawful hget).1.threadPut Zcbor.cbor_lawful
  have hrun : Fallible.run (step .cbor 1024) powerOn
      [.uartRx (.ofBytes aclPacket.serialise), .get, .put] = .ok s' := by
    rw [run_cons, hrx, ok_bind, run_cons, hget, ok_bind, run_cons, step, hput]
    rfl
  have hwaiting : s'.side.waiting = [] := by
    obtain ⟨msg, -, h⟩ := bind_eq_ok.1 hput
    cases h
    rfl
  obtain ⟨hconserving, ps, hsent, hread⟩ :=
    (messages_in_order Zcbor.cbor_lawful powerOn_initial _).1 s' hrun
  refine ⟨s', hrun, hconserving, ?_⟩
  have hstream : [AppInput.uartRx (.ofBytes aclPacket.serialise), .get, .put].flatMap received =
      aclPacket.serialise ++ [] := rfl
  rw [hstream, RecordReader.read_encode aclPacket.next_serialise, hwaiting,
    List.append_nil] at hread
  rw [hsent, show ps = _ from (congrArg Prod.fst hread).symm, RecordReader.read_none rfl]
  rfl

end DirectTestMode.AppCore
