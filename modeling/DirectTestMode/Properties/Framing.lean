import DirectTestMode.Transport.HciUart

/-!
# H4 framing

`h4_read` against the stream it reads. `h4_read_splits` says that the stream is all that matters,
not how the UART cuts it, in every state of the parser and for every run, those that stop with an
assertion included.

`H4Packet` is a packet with its well-formedness: a header whose length field is the length of its
payload. `h4Loop_packet` reads one packet from the front of a stream, whatever follows it, and
`h4_read_round_trip` a list of packets with noise between them.

## From passes to packets

* A window is a run of the loop on its octets, and the loop on one stretch and then on the next is
  the loop on both (`run_uartRxRdy`). This is why the cutting does not matter, and it holds of the
  whole outcome and not only of the queue.
* `h4Part_exact` is the read of just what is missing, the only kind that a packet needs if its
  octets are all there. A packet takes three of them: the type, the header and, if the header says
  that there is one, the payload. `HciRx.header` and `HciRx.receive` are the states in between,
  written out so that the steps chain by rewriting.
* The payload's length is read from the buffer, where the header has been written, and not from the
  stream; `HciRx.header_pldLen` says that this is the same.

The induction of `h4Loop_stream` is on the list of packets. Its invariant is that the free buffers
and those in the queue have none in common: a packet is written to a buffer of its own, and the
packets that wait keep their octets.

The round trip asks for a free buffer for each packet and for buffers that are large enough. What
happens to any other stream is in `Properties.H4Stream`.
-/

namespace DirectTestMode.HciUart

open Fallible
open DirectTestMode.Hci (h4TypeCmd)

variable {n size : ℕ}

/-! ### Windows -/

/-- Windows in a row are the loop on all their octets. -/
theorem run_uartRxRdy (s : HciRx n) (ws : List RxWindow) :
    Fallible.run (uartRxRdy size) s ws = h4Loop size s (ws.flatMap RxWindow.bytes) := by
  induction ws generalizing s with
  | nil => simp
  | cons w ws ih =>
    rw [run_cons, List.flatMap_cons, h4Loop_append, uartRxRdy_eq]
    simp only [ih]

/-- **Reception does not depend on how the UART cuts the stream**: in every state, windows one after
the other do what one window with all their octets does. The outcome is the whole state, with the
queue of `dtm_hci_put` and the partly filled buffer, or the assertion that failed. -/
theorem h4_read_splits (size : ℕ) (s : HciRx n) (ws : List RxWindow) :
    Fallible.run (uartRxRdy size) s ws =
      uartRxRdy size s (.ofBytes (ws.flatMap RxWindow.bytes)) := by
  rw [run_uartRxRdy, uartRxRdy_eq, RxWindow.bytes_ofBytes]

/-! ### Packets -/

/-- A packet that the host may send: one of the three types, with a header of that type's size that
holds the length of the payload. -/
structure H4Packet where
  type : UInt8
  header : List UInt8
  payload : List UInt8
  rxType : h4RxType type = true
  length_header : header.length = hciHdrLen type
  length_payload : hciPldLen type (header.getD · 0) = payload.length

namespace H4Packet

/-- What the buffer of a packet holds. -/
def content (p : H4Packet) : List UInt8 := p.header ++ p.payload

/-- The packet on the wire. -/
def serialise (p : H4Packet) : List UInt8 := p.type :: p.content

end H4Packet

/-- Packets, each after some noise, and noise at the end. -/
def h4Stream (ps : List (List UInt8 × H4Packet)) (tail : List UInt8) : List UInt8 :=
  (ps.flatMap fun p ↦ p.1 ++ p.2.serialise) ++ tail

/-- Octets that are no packet type. -/
def Noise (bytes : List UInt8) : Prop := ∀ b ∈ bytes, h4RxType b = false

instance (bytes : List UInt8) : Decidable (Noise bytes) :=
  List.decidableBAll (fun b ↦ h4RxType b = false) bytes

/-- The packets that wait in the queue, each with its type and its octets. -/
def HciRx.packets (s : HciRx n) : List (UInt8 × List UInt8) :=
  s.queue.map fun i ↦ ((s.pool.block i).userData, (s.pool.block i).bytes)

/-! ### Reading a packet -/

theorem h4Loop_type {s : HciRx n} (hstate : s.state = .type) (b : UInt8) (bs : List UInt8) :
    h4Loop size s (b :: bs) = h4Type b s >>= fun t ↦ h4Loop size t bs := by
  rw [h4Loop_cons, h4Iter, hstate]
  simp only [bind_assoc, pure_eq_ok, ok_bind]

/-- In a header a pass reads what is missing of it. -/
theorem h4Loop_header {s : HciRx n} (hstate : s.state = .header) {src : List UInt8}
    (hsrc : src ≠ []) :
    h4Loop size s src = h4Part size s src h4HeaderEnd >>= fun x ↦ h4Loop size x.1 x.2 := by
  obtain ⟨b, bs, rfl⟩ := List.exists_cons_of_ne_nil hsrc
  rw [h4Loop_cons, h4Iter, hstate]

/-- And so it does in a payload. -/
theorem h4Loop_payload {s : HciRx n} (hstate : s.state = .payload) {src : List UInt8}
    (hsrc : src ≠ []) :
    h4Loop size s src = h4Part size s src h4Put >>= fun x ↦ h4Loop size x.1 x.2 := by
  obtain ⟨b, bs, rfl⟩ := List.exists_cons_of_ne_nil hsrc
  rw [h4Loop_cons, h4Iter, hstate]

/-- The type octet of a packet takes a buffer. -/
theorem h4Type_packet {s : HciRx n} {type : UInt8} (htype : h4RxType type = true) {i : Fin n}
    {pool : Pool (Fin n) NetBuf} (halloc : s.pool.alloc = some (i, pool)) :
    h4Type type s = .ok { s with
      type := type
      rem := hciHdrLen type
      buf := some i
      pool := pool.write i ((pool.block i).reset type)
      state := .header } := by
  rw [h4Type, if_pos htype]
  simp only [halloc]

/-- A read of just what is missing. -/
theorem h4Part_exact {s : HciRx n} {i : Fin n} (hbuf : s.buf = some i) {src : List UInt8}
    (hrem : s.rem = src.length) (hsize : (s.pool.block i).len + src.length ≤ size)
    (rest : List UInt8) (done : Fin n → HciRx n → HciRx n) :
    h4Part size s (src ++ rest) done = .ok (done i (s.fill i src), rest) := by
  have htail : ¬ (s.pool.block i).tailroom size < src.length := by
    rw [NetBuf.tailroom]
    omega
  rw [h4Part_eq hbuf, hrem, List.take_left', List.drop_left', if_neg htail,
    if_pos (by simp)]
  all_goals rfl

/-- The state when the header of a packet has been read. -/
def HciRx.header (s : HciRx n) (i : Fin n) (pool : Pool (Fin n) NetBuf) (type : UInt8)
    (header : List UInt8) : HciRx n where
  state := .header
  type := type
  rem := 0
  buf := some i
  pool := pool.write i (((pool.block i).reset type).addMem header)
  queue := s.queue

/-- The type octet and the header of a packet, whatever follows them. -/
theorem h4Loop_packetHeader {s : HciRx n} (hstate : s.state = .type) {i : Fin n}
    {pool : Pool (Fin n) NetBuf} (halloc : s.pool.alloc = some (i, pool)) {type : UInt8}
    (htype : h4RxType type = true) {header : List UInt8} (hlen : header.length = hciHdrLen type)
    (hsize : header.length ≤ size) (rest : List UInt8) :
    h4Loop size s (type :: (header ++ rest)) =
      h4Loop size (h4HeaderEnd i (s.header i pool type header)) rest := by
  have hheader : header ≠ [] := by
    rw [← List.length_pos_iff, hlen]
    exact hciHdrLen_pos htype
  let s₁ : HciRx n := { s with
    type := type
    rem := hciHdrLen type
    buf := some i
    pool := pool.write i ((pool.block i).reset type)
    state := .header }
  have hs₁ : h4Type type s = .ok s₁ := h4Type_packet htype halloc
  have hblock : s₁.pool.block i = (pool.block i).reset type := Pool.write_block_self _ _ _
  have hpart : h4Part size s₁ (header ++ rest) h4HeaderEnd =
      .ok (h4HeaderEnd i (s₁.fill i header), rest) := by
    refine h4Part_exact rfl hlen.symm ?_ _ _
    rw [hblock, NetBuf.reset_len]
    omega
  have hfill : s₁.fill i header = s.header i pool type header := by
    simp [HciRx.fill, HciRx.header, s₁, hlen]
  rw [h4Loop_type hstate, hs₁, ok_bind, h4Loop_header rfl (by simp [hheader]), hpart, ok_bind,
    hfill]

/-- The payload length is read from the header in the buffer. -/
theorem HciRx.header_pldLen (s : HciRx n) (i : Fin n) (pool : Pool (Fin n) NetBuf) {type : UInt8}
    {header : List UInt8} (hlen : header.length = hciHdrLen type) :
    hciPldLen type ((s.header i pool type header).pool.block i).mem =
      hciPldLen type (header.getD · 0) := by
  refine hciPldLen_congr fun k hk ↦ ?_
  rw [← hlen] at hk
  simp [HciRx.header, NetBuf.addMem, hk]

/-- The state after a packet: its buffer is filled and in the queue. -/
def HciRx.receive (s : HciRx n) (i : Fin n) (pool : Pool (Fin n) NetBuf) (p : H4Packet) :
    HciRx n where
  state := .type
  type := p.type
  rem := 0
  buf := some i
  pool := pool.write i (((pool.block i).reset p.type).addMem p.content)
  queue := s.queue ++ [i]

/-- **A packet at the front of the stream** is put in the queue, whatever follows it. -/
theorem h4Loop_packet {s : HciRx n} (hstate : s.state = .type) {i : Fin n}
    {pool : Pool (Fin n) NetBuf} (halloc : s.pool.alloc = some (i, pool)) (p : H4Packet)
    (hsize : p.content.length ≤ size) (rest : List UInt8) :
    h4Loop size s (p.serialise ++ rest) = h4Loop size (s.receive i pool p) rest := by
  have hcontent : p.content.length = p.header.length + p.payload.length := List.length_append
  have hpld : hciPldLen p.type ((s.header i pool p.type p.header).pool.block i).mem =
      p.payload.length := (s.header_pldLen i pool p.length_header).trans p.length_payload
  rw [H4Packet.serialise, List.cons_append, H4Packet.content, List.append_assoc,
    h4Loop_packetHeader hstate halloc p.rxType p.length_header (by omega), h4HeaderEnd]
  simp only
  rw [show (s.header i pool p.type p.header).type = p.type from rfl, hpld]
  -- an empty payload is complete with its header
  by_cases hempty : p.payload = []
  · rw [hempty, if_pos List.length_nil]
    simp [HciRx.header, HciRx.receive, h4Put, dtmHciPut, H4Packet.content, hempty]
  · rw [if_neg (fun h ↦ hempty (List.length_eq_zero_iff.1 h)),
      h4Loop_payload rfl (by simp [hempty]), h4Part_exact (i := i) rfl rfl, ok_bind]
    · simp [HciRx.fill, HciRx.header, HciRx.receive, h4Put, dtmHciPut, H4Packet.content,
        NetBuf.addMem_addMem]
    · simp [HciRx.header]
      omega

/-- Noise only changes the type that the parser has seen last. -/
theorem h4Loop_noise (size : ℕ) {s : HciRx n} (hstate : s.state = .type) {bytes : List UInt8}
    (hnoise : Noise bytes) (rest : List UInt8) :
    ∃ type, h4Loop size s (bytes ++ rest) = h4Loop size { s with type := type } rest := by
  induction bytes generalizing s with
  | nil => exact ⟨s.type, rfl⟩
  | cons b bs ih =>
    have hb : h4Type b s = .ok { s with type := b } := by
      rw [h4Type, if_neg (by simp [hnoise b List.mem_cons_self])]
    rw [List.cons_append, h4Loop_type hstate, hb, ok_bind]
    exact ih (s := { s with type := b }) hstate fun c hc ↦ hnoise c (List.mem_cons_of_mem b hc)

/-! ### Reading a stream -/

/-- From `s` to `s'` the packets `ps` were put in the queue, each in a buffer of its own, and the
parser is at the start of a packet with no buffer taken. -/
structure Delivered (s s' : HciRx n) (ps : List H4Packet) : Prop where
  state : s'.state = .type
  rem : s.rem = 0 → s'.rem = 0
  packets : s'.packets = s.packets ++ ps.map fun p ↦ (p.type, p.content)
  queue : s'.queue = s.queue ++ s.pool.free.take ps.length
  free : s'.pool.free = s.pool.free.drop ps.length

/-- One more packet in the queue, in a buffer that none of the others is in. -/
theorem HciRx.packets_receive {s : HciRx n} {i : Fin n} {pool : Pool (Fin n) NetBuf}
    (halloc : s.pool.alloc = some (i, pool)) (hnodup : (s.pool.free ++ s.queue).Nodup)
    (p : H4Packet) :
    (s.receive i pool p).packets = s.packets ++ [(p.type, p.content)] := by
  obtain ⟨hfree, hblock⟩ := Pool.alloc_eq_some.1 halloc
  have hnew : i ∉ s.queue := by
    rw [hfree, List.cons_append, List.nodup_cons] at hnodup
    exact fun hi ↦ hnodup.1 (List.mem_append_right _ hi)
  have hold : ∀ j ∈ s.queue, (s.receive i pool p).pool.block j = s.pool.block j := by
    intro j hj
    rw [← hblock]
    exact Pool.write_block_of_ne _ _ fun h ↦ hnew (h ▸ hj)
  rw [packets, packets, show (s.receive i pool p).queue = s.queue ++ [i] from rfl, List.map_append,
    List.map_singleton]
  congr 1
  · refine List.map_congr_left fun j hj ↦ ?_
    rw [hold j hj]
  · rw [show (s.receive i pool p).pool.block i = ((pool.block i).reset p.type).addMem p.content from
      Pool.write_block_self _ _ _]
    simp

/-- **A stream of packets is put in the queue packet by packet.** The induction is on the packets;
what it carries is that the queue and the free buffers have none in common. -/
theorem h4Loop_stream {ps : List (List UInt8 × H4Packet)} {tail : List UInt8}
    (hnoise : ∀ p ∈ ps, Noise p.1) (hsize : ∀ p ∈ ps, p.2.content.length ≤ size)
    (htail : Noise tail) {s : HciRx n} (hstate : s.state = .type)
    (hnodup : (s.pool.free ++ s.queue).Nodup) (hfree : ps.length ≤ s.pool.free.length) :
    ∃ s', h4Loop size s (h4Stream ps tail) = .ok s' ∧ Delivered s s' (ps.map Prod.snd) := by
  induction ps generalizing s with
  | nil =>
    obtain ⟨type, heq⟩ := h4Loop_noise size hstate htail []
    rw [List.append_nil, h4Loop_nil] at heq
    exact ⟨_, heq, ⟨hstate, id, by simp [HciRx.packets], by simp, by simp⟩⟩
  | cons p ps ih =>
    obtain ⟨noise, p⟩ := p
    have hcons : h4Stream ((noise, p) :: ps) tail = noise ++ (p.serialise ++ h4Stream ps tail) := by
      simp [h4Stream]
    obtain ⟨type, heq⟩ := h4Loop_noise size hstate
      (hnoise (noise, p) List.mem_cons_self) (p.serialise ++ h4Stream ps tail)
    obtain ⟨i, free, hcons'⟩ := List.exists_cons_of_length_pos
      (show 0 < s.pool.free.length by rw [List.length_cons] at hfree; omega)
    let t : HciRx n := { s with type := type }
    let pool : Pool (Fin n) NetBuf := { s.pool with free := free }
    have halloc : t.pool.alloc = some (i, pool) := Pool.alloc_eq_some.2 ⟨hcons', rfl⟩
    rw [hcons'] at hnodup hfree
    -- the buffer of the packet goes from the free ones to the queue
    have hperm : (free ++ (s.queue ++ [i])).Perm (i :: free ++ s.queue) := by
      rw [List.cons_append, ← List.append_assoc]
      exact List.perm_append_singleton i _
    obtain ⟨s', hs', hdone⟩ := ih (fun p hp ↦ hnoise p (List.mem_cons_of_mem _ hp))
      (fun p hp ↦ hsize p (List.mem_cons_of_mem _ hp)) (s := t.receive i pool p) rfl
      (hperm.nodup_iff.2 hnodup) (Nat.le_of_succ_le_succ hfree)
    refine ⟨s', ?_, hdone.state, fun _ ↦ hdone.rem rfl, ?_, ?_, ?_⟩
    · rw [hcons, heq]
      exact (h4Loop_packet (s := t) hstate halloc p (hsize _ List.mem_cons_self) _).trans hs'
    · rw [hdone.packets, HciRx.packets_receive halloc (by rw [← hcons'] at hnodup; exact hnodup)]
      simp [HciRx.packets, t]
    · rw [hdone.queue, hcons']
      simp [HciRx.receive, t, pool]
    · rw [hdone.free, hcons']
      simp [HciRx.receive, pool]

/-- **The framing round trip.** From the state `S_TYPE`, with a free buffer for each packet, the
stream of any packets, with any noise between them and however it is cut, puts just these packets in
the queue, and leaves nothing pending. -/
theorem h4_read_round_trip {ps : List (List UInt8 × H4Packet)} {tail : List UInt8}
    (hnoise : ∀ p ∈ ps, Noise p.1) (hsize : ∀ p ∈ ps, p.2.content.length ≤ size)
    (htail : Noise tail) {s : HciRx n} (hstate : s.state = .type)
    (hnodup : (s.pool.free ++ s.queue).Nodup) (hfree : ps.length ≤ s.pool.free.length)
    {ws : List RxWindow} (hws : ws.flatMap RxWindow.bytes = h4Stream ps tail) :
    ∃ s', Fallible.run (uartRxRdy size) s ws = .ok s' ∧ Delivered s s' (ps.map Prod.snd) := by
  rw [run_uartRxRdy, hws]
  exact h4Loop_stream hnoise hsize htail hstate hnodup hfree

/-- A Test End command, and an ACL packet with two octets. -/
def testEndPacket : H4Packet where
  type := h4TypeCmd
  header := [0x1F, 0x20, 0x00]
  payload := []
  rxType := rfl
  length_header := rfl
  length_payload := rfl

def aclPacket : H4Packet where
  type := h4TypeAcl
  header := [0x01, 0x00, 0x02, 0x00]
  payload := [0xAA, 0x55]
  rxType := rfl
  length_header := rfl
  length_payload := rfl

/-- Two packets with noise before, between and after them, in windows that end in the headers. -/
theorem h4_read_round_trip_two :
    ∃ s', Fallible.run (uartRxRdy 1024) (HciRx.powerOn 16)
        [.ofBytes [0xFF, 0x01, 0x1F], .ofBytes [0x20, 0x00, 0x03, 0x02, 0x01],
          .ofBytes [0x00, 0x02, 0x00, 0xAA, 0x55, 0x00]] = .ok s' ∧
      Delivered (HciRx.powerOn 16) s' [testEndPacket, aclPacket] := by
  let ps : List (List UInt8 × H4Packet) := [([0xFF], testEndPacket), ([0x03], aclPacket)]
  have hnoise : ∀ p ∈ ps, Noise p.1 := by
    simp only [ps, List.forall_mem_cons, List.not_mem_nil, false_imp_iff, implies_true, and_true]
    decide
  have hsize : ∀ p ∈ ps, p.2.content.length ≤ 1024 := by
    simp only [ps, List.forall_mem_cons, List.not_mem_nil, false_imp_iff, implies_true, and_true]
    decide
  have htail : Noise [0x00] := by decide
  have hnodup : ((HciRx.powerOn 16).pool.free ++ (HciRx.powerOn 16).queue).Nodup := by
    rw [HciRx.powerOn, List.append_nil]
    exact List.nodup_finRange 16
  exact h4_read_round_trip hnoise hsize htail rfl hnodup (by decide) (by decide)

end DirectTestMode.HciUart
