import DirectTestMode.Machine.Records
import DirectTestMode.Properties.RxBuffers

/-!
# What `h4_read` reads

`h4Reader` says what an H4 stream consists of: packets with a header that tells their length, and
octets between them that are no packet type. Nothing in it knows of states, windows or buffers.

`HciRx.pending` is how much of the stream the parser holds in an unfinished packet. `ReadsTo` says
that the parser went from one state to another as the reader does, with the packets in the queue and
every buffer still in one place; a pass is such a step (`h4Iter_reads`), and so is a window.

## A refinement, stretch by stretch

The reader is the abstract machine and the parser the concrete one. The relation between them is
`pending`: the octets that the parser has put in its buffer, behind the type octet, are what the
reader has not been able to take off the stream yet. `HciRx.Framed` is the invariant that makes this
exact: how much is there and how much is missing add up to what the packet needs, so that no packet
is complete in what is pending (`HciRx.Framed.next_pending`).

`ReadsTo` composes (`ReadsTo.trans`). It has a clause on buffers because the packets in the queue
are told by the contents of their buffers: `apart` and `block` say that the parser writes to no
buffer that it does not have. Where other threads run between two windows, these clauses are what
carries over (`Properties.PacketOrder`).

## Any stream at all

`h4_read_stream` needs no well-formed input. Two things can stop the reception, a packet with more
octets than a buffer takes, which is `StreamFits`, and a packet that finds no buffer. Both are
conditions on the octets alone, the number of buffers and their size: `h4Begun` counts the packets
that a stream begins, and each has taken one (`h4Begun_add_free`).
-/

namespace DirectTestMode.HciUart

open Fallible

/-! ### The reader -/

/-- The packets that the host sends. -/
def h4Framing : Framing := ⟨h4RxType, hciHdrLen, hciPldLen, hciPldLen_congr⟩

/-- The H4 packets of a stream. -/
def h4Reader : RecordReader UInt8 (UInt8 × List UInt8) := h4Framing.reader

/-- What a well-formed packet puts on the wire is read as this packet. -/
theorem H4Packet.next_serialise (p : H4Packet) :
    h4Reader.next p.serialise = some (some (p.type, p.content), []) := by
  refine Framing.next_packet p.rxType ?_
  rw [content, Framing.len_append p.length_header.ge, List.length_append, p.length_header,
    ← p.length_payload]
  rfl

/-! ### The state of the parser -/

variable {n q : ℕ}

/-- The part of the stream that the parser holds in an unfinished packet. -/
def HciRx.pending (s : HciRx n) : List UInt8 := if s.state = .type then [] else s.type :: s.got

/-- The parser knows where in a packet it is. -/
def HciRx.Framed (s : HciRx n) : Prop :=
  match s.state with
  | .type => True
  | .header => ∃ i, s.buf = some i ∧ (s.pool.block i).userData = s.type ∧
      h4RxType s.type = true ∧ 0 < s.rem ∧ s.got.length + s.rem = hciHdrLen s.type
  | .payload => ∃ i, s.buf = some i ∧ (s.pool.block i).userData = s.type ∧
      h4RxType s.type = true ∧ 0 < s.rem ∧ hciHdrLen s.type ≤ s.got.length ∧
      s.got.length + s.rem = h4Framing.len s.type s.got

/-- The buffers that are free, with the parser or in the queue. -/
def HciRx.buffers (s : HciRx n) : List (Fin n) := s.pool.free ++ (s.held ++ s.queue)

theorem HciRx.pending_type {s : HciRx n} (h : s.state = .type) : s.pending = [] := if_pos h

/-- In a packet it is the type and what is in the buffer. -/
theorem HciRx.pending_got {s : HciRx n} (h : s.state ≠ .type) : s.pending = s.type :: s.got :=
  if_neg h

theorem HciRx.Framed.of_type {s : HciRx n} (h : s.state = .type) : s.Framed := by
  rw [Framed, h]
  trivial

/-- No packet is complete in what the parser holds. -/
theorem HciRx.Framed.next_pending {s : HciRx n} (hs : s.Framed) :
    h4Reader.next s.pending = none := by
  rcases hstate : s.state with _ | _ | _
  · rw [HciRx.pending_type hstate]
    rfl
  · rw [HciRx.pending_got (by simp [hstate])]
    rw [Framed, hstate] at hs
    obtain ⟨i, -, -, htype, hpos, hlen⟩ := hs
    exact Framing.next_header htype (by show _ < hciHdrLen _; omega)
  · rw [HciRx.pending_got (by simp [hstate])]
    rw [Framed, hstate] at hs
    obtain ⟨i, -, -, htype, hpos, hheader, hlen⟩ := hs
    exact Framing.next_payload htype hheader (by omega)

/-! ### What a stretch of the stream does -/

/-- The parser reads `src`: it goes on in the stream as the reader does, and moves buffers without
losing or duplicating one. What it leaves alone stays as it is. -/
structure ReadsTo (s : HciRx n) (src : List UInt8) (s' : HciRx n) : Prop where
  framed : s'.Framed
  buffers : s'.buffers.Perm s.buffers
  apart : ∀ j, j ∉ s.pool.free ++ s.held → j ∉ s'.pool.free ++ s'.held
  block : ∀ j, j ∉ s.pool.free ++ s.held → s'.pool.block j = s.pool.block j
  packets : ∃ ps, s'.packets = s.packets ++ ps ∧ h4Reader.Reads s.pending src ps s'.pending

theorem ReadsTo.refl {s : HciRx n} (hs : s.Framed) : ReadsTo s [] s where
  framed := hs
  buffers := .refl _
  apart := fun _ h ↦ h
  block := fun _ _ ↦ rfl
  packets := ⟨[], (List.append_nil _).symm, .nil hs.next_pending⟩

/-- Two stretches in a row. -/
theorem ReadsTo.trans {s t u : HciRx n} {src src' : List UInt8} (h : ReadsTo s src t)
    (h' : ReadsTo t src' u) : ReadsTo s (src ++ src') u where
  framed := h'.framed
  buffers := h'.buffers.trans h.buffers
  apart := fun j hj ↦ h'.apart j (h.apart j hj)
  block := fun j hj ↦ (h'.block j (h.apart j hj)).trans (h.block j hj)
  packets := by
    obtain ⟨ps, hps, hreads⟩ := h.packets
    obtain ⟨ps', hps', hreads'⟩ := h'.packets
    refine ⟨ps ++ ps', ?_, hreads.trans hreads'⟩
    rw [hps', hps, List.append_assoc]

/-- What is in the queue is not with the parser. -/
theorem HciRx.not_mem_of_queue {s : HciRx n} (hnodup : s.buffers.Nodup) {j : Fin n}
    (hj : j ∈ s.queue) : j ∉ s.pool.free ++ s.held := by
  rw [buffers, ← List.append_assoc, List.nodup_append] at hnodup
  exact fun hmem ↦ hnodup.2.2 j hmem j hj rfl

/-- Where the blocks of the queue stay, so do its packets. -/
theorem map_packet_congr {pool pool' : Pool (Fin n) NetBuf} {queue : List (Fin n)}
    (h : ∀ j ∈ queue, pool'.block j = pool.block j) :
    (queue.map fun i ↦ ((pool'.block i).userData, (pool'.block i).bytes)) =
      queue.map fun i ↦ ((pool.block i).userData, (pool.block i).bytes) :=
  List.map_congr_left fun j hj ↦ by rw [h j hj]

/-- The parser takes `src` and is not done with the packet. -/
theorem ReadsTo.stay {s s' : HciRx n} {src : List UInt8} (hnodup : s.buffers.Nodup)
    (hframed : s'.Framed) (hfree : s'.pool.free ++ s'.held = s.pool.free ++ s.held)
    (hqueue : s'.queue = s.queue)
    (hblock : ∀ j, j ∉ s.pool.free ++ s.held → s'.pool.block j = s.pool.block j)
    (hpending : s'.pending = s.pending ++ src) : ReadsTo s src s' where
  framed := hframed
  buffers := by
    rw [HciRx.buffers, HciRx.buffers, ← List.append_assoc, ← List.append_assoc, hfree, hqueue]
  apart := by
    intro j hj
    rwa [hfree]
  block := hblock
  packets := by
    refine ⟨[], ?_, ?_⟩
    · rw [List.append_nil, HciRx.packets, HciRx.packets, hqueue]
      exact map_packet_congr fun j hj ↦ hblock j (HciRx.not_mem_of_queue hnodup hj)
    · rw [RecordReader.Reads, ← hpending]
      exact RecordReader.read_none hframed.next_pending

/-! ### One pass -/

variable {s s' : HciRx n} {i : Fin n}

/-- The type octet. -/
theorem h4Type_reads (hnodup : s.buffers.Nodup) (hstate : s.state = .type) {b : UInt8}
    (h : h4Type b s = .ok s') : ReadsTo s [b] s' := by
  rw [h4Type] at h
  split_ifs at h with htype
  · split at h
    · cases h
    · rename_i i pool halloc
      obtain ⟨hfree, hblock⟩ := Pool.alloc_eq_some.1 halloc
      let t : HciRx n := { s with
        type := b
        rem := hciHdrLen b
        buf := some i
        pool := pool.write i ((pool.block i).reset b)
        state := .header }
      have heq : s' = t := (Except.ok.inj h).symm
      rw [heq]
      have hwritten : t.pool.block i = (pool.block i).reset b := Pool.write_block_self _ _ _
      have hgot : t.got = [] := by
        rw [HciRx.got_eq (i := i) rfl, hwritten, NetBuf.reset_bytes]
      have hheld : s.held = [] := HciRx.held_type hstate
      -- only the buffer just taken is written, and that was a free one
      have hapart (j : Fin n) (hj : j ∉ s.pool.free ++ s.held) :
          t.pool.block j = s.pool.block j := by
        have hne : j ≠ i := by
          intro heq
          refine hj (List.mem_append_left _ ?_)
          rw [hfree, heq]
          exact List.mem_cons_self
        rw [← hblock]
        exact Pool.write_block_of_ne pool _ hne
      refine ⟨⟨i, rfl, ?_, htype, hciHdrLen_pos htype, ?_⟩, ?_, ?_, hapart, [], ?_, ?_⟩
      · rw [hwritten, NetBuf.reset_userData]
      · rw [hgot]
        exact Nat.zero_add _
      · rw [HciRx.buffers, HciRx.buffers, hheld, hfree, List.nil_append, List.cons_append]
        exact List.perm_middle
      · intro j hj hmem
        refine hj ?_
        rw [hheld, List.append_nil, hfree]
        rcases List.mem_append.1 hmem with hmem | hmem
        · exact List.mem_cons_of_mem i hmem
        · rw [List.mem_singleton.1 hmem]
          exact List.mem_cons_self
      · rw [List.append_nil]
        exact map_packet_congr fun j hj ↦ hapart j (HciRx.not_mem_of_queue hnodup hj)
      · rw [HciRx.pending_type hstate, HciRx.pending_got (s := t) (by simp [t]), hgot]
        exact RecordReader.read_none (Framing.next_header htype (hciHdrLen_pos htype))
  -- an octet that is no packet type is skipped by both
  · cases h
    refine ⟨.of_type hstate, .refl _, fun _ hj ↦ hj, fun _ _ ↦ rfl, [], ?_, ?_⟩
    · exact (List.append_nil _).symm
    · rw [HciRx.pending_type hstate, HciRx.pending_type (by exact hstate), RecordReader.Reads]
      refine (RecordReader.read_some (Framing.next_skip (Bool.eq_false_iff.2 htype))).trans ?_
      rw [show h4Reader.read [] = ([], []) from Framing.read_nil]
      rfl

/-- What a read into the buffer of the parser leaves as it was, and what it adds. -/
structure Filled (i : Fin n) (read : List UInt8) (s t : HciRx n) : Prop where
  state : t.state ≠ .type
  buf : t.buf = some i
  type : t.type = s.type
  queue : t.queue = s.queue
  free : t.pool.free = s.pool.free
  block : ∀ j, j ≠ i → t.pool.block j = s.pool.block j
  got : t.got = s.got ++ read
  userData : (t.pool.block i).userData = t.type

/-- What the parser's read does is just this. -/
theorem HciRx.fill_filled (hstate : s.state ≠ .type) (hbuf : s.buf = some i)
    (huser : (s.pool.block i).userData = s.type) (read : List UInt8) :
    Filled i read s (s.fill i read) where
  state := hstate
  buf := hbuf
  type := rfl
  queue := rfl
  free := rfl
  block := fun _ hj ↦ Pool.write_block_of_ne _ _ hj
  got := HciRx.got_fill hbuf read
  userData := by
    rw [HciRx.fill_block, NetBuf.addMem_userData]
    exact huser

theorem Filled.held {t : HciRx n} {read : List UInt8} (h : Filled i read s t) : t.held = [i] :=
  HciRx.held_buf h.state h.buf

/-- And what is pending grows by what was read. -/
theorem Filled.pending {t : HciRx n} {read : List UInt8} (h : Filled i read s t)
    (hstate : s.state ≠ .type) : t.pending = s.pending ++ read := by
  rw [HciRx.pending_got h.state, HciRx.pending_got hstate, h.type, h.got, List.cons_append]

/-- A buffer elsewhere is not the one of the parser. -/
theorem HciRx.ne_of_apart (hstate : s.state ≠ .type) (hbuf : s.buf = some i) {j : Fin n}
    (hj : j ∉ s.pool.free ++ s.held) : j ≠ i := by
  intro heq
  refine hj (List.mem_append_right _ ?_)
  rw [HciRx.held_buf hstate hbuf, heq]
  exact List.mem_singleton_self i

/-- A read that does not complete the packet. -/
theorem Filled.stay {t : HciRx n} {read : List UInt8} (h : Filled i read s t)
    (hnodup : s.buffers.Nodup) (hstate : s.state ≠ .type) (hbuf : s.buf = some i)
    (hframed : t.Framed) : ReadsTo s read t := by
  refine .stay hnodup hframed ?_ h.queue ?_ (h.pending hstate)
  · rw [h.free, h.held, HciRx.held_buf hstate hbuf]
  · exact fun j hj ↦ h.block j (HciRx.ne_of_apart hstate hbuf hj)

/-- A read that completes the packet, which goes to the queue. -/
theorem Filled.put {t : HciRx n} {read : List UInt8} (h : Filled i read s t)
    (hnodup : s.buffers.Nodup) (hstate : s.state ≠ .type) (hbuf : s.buf = some i)
    (htype : h4RxType t.type = true)
    (hlen : t.got.length = h4Framing.len t.type t.got) :
    ReadsTo s read (h4Put i t) := by
  have hheld := HciRx.held_buf hstate hbuf
  have hblock (j : Fin n) (hj : j ∉ s.pool.free ++ s.held) :
      (h4Put i t).pool.block j = s.pool.block j :=
    h.block j (HciRx.ne_of_apart hstate hbuf hj)
  have hbytes : (t.pool.block i).bytes = t.got := (HciRx.got_eq h.buf).symm
  refine ⟨.of_type rfl, ?_, ?_, hblock, [(t.type, t.got)], ?_, ?_⟩
  · show (t.pool.free ++ ([] ++ (t.queue ++ [i]))).Perm (s.pool.free ++ (s.held ++ s.queue))
    rw [h.free, h.queue, hheld, List.nil_append]
    exact (List.perm_append_singleton i s.queue).append_left s.pool.free
  · intro j hj hmem
    refine hj (List.mem_append_left _ ?_)
    rw [← h.free]
    rw [HciRx.held_type (s := h4Put i t) rfl, List.append_nil] at hmem
    exact hmem
  · show (t.queue ++ [i]).map _ = _
    rw [List.map_append, List.map_singleton, h.queue]
    show _ ++ [((t.pool.block i).userData, (t.pool.block i).bytes)] = _
    rw [h.userData, hbytes]
    congr 1
    exact map_packet_congr fun j hj ↦ hblock j (HciRx.not_mem_of_queue hnodup hj)
  · rw [RecordReader.Reads, ← h.pending hstate, HciRx.pending_got h.state,
      HciRx.pending_type (s := h4Put i t) rfl]
    refine (RecordReader.read_some (Framing.next_packet htype hlen)).trans ?_
    rw [show h4Reader.read [] = ([], []) from Framing.read_nil]
    rfl

/-- The end of a header: the length in it says whether the packet is complete. -/
theorem h4HeaderEnd_reads {t : HciRx n} {read : List UInt8} (h : Filled i read s t)
    (hnodup : s.buffers.Nodup) (hstate : s.state ≠ .type) (hbuf : s.buf = some i)
    (htype : h4RxType t.type = true) (hlen : t.got.length = hciHdrLen t.type) :
    ReadsTo s read (h4HeaderEnd i t) := by
  have hpld : hciPldLen t.type (t.pool.block i).mem = hciPldLen t.type (t.got.getD · 0) := by
    refine hciPldLen_congr fun k hk ↦ ?_
    rw [← hlen, HciRx.got_eq h.buf, NetBuf.length_bytes] at hk
    rw [HciRx.got_eq h.buf]
    exact (NetBuf.getD_bytes _ hk).symm
  let u : HciRx n := { t with rem := hciPldLen t.type (t.pool.block i).mem, state := .payload }
  have hu : Filled i read s u := ⟨by simp [u], h.buf, h.type, h.queue, h.free, h.block, h.got,
    h.userData⟩
  have hgot : u.got = t.got := rfl
  rw [h4HeaderEnd]
  simp only
  split_ifs with hzero
  · refine hu.put hnodup hstate hbuf htype ?_
    show t.got.length = hciHdrLen t.type + hciPldLen t.type (t.got.getD · 0)
    rw [← hpld, hzero]
    exact hlen
  · refine hu.stay hnodup hstate hbuf
      ⟨i, h.buf, h.userData, htype, Nat.pos_of_ne_zero hzero, ?_, ?_⟩
    · rw [hgot]
      exact hlen.ge
    · rw [hgot]
      show t.got.length + hciPldLen t.type (t.pool.block i).mem = _
      rw [hlen, hpld]
      rfl

/-- A pass in a packet: a read of what the window has, or of what is missing. -/
theorem h4Part_reads {done : Fin n → HciRx n → HciRx n} {src : List UInt8}
    (hbuf : s.buf = some i)
    (hshort : src.length < s.rem → ReadsTo s src (s.fill i src))
    (hdone : s.rem ≤ src.length →
      ReadsTo s (src.take s.rem) (done i (s.fill i (src.take s.rem))))
    {x : HciRx n × List UInt8} (h : h4Part q s src done = .ok x) :
    ∃ read, src = read ++ x.2 ∧ ReadsTo s read x.1 := by
  rw [h4Part_eq hbuf] at h
  split_ifs at h with htail hrem
  · cases h
    exact ⟨src.take s.rem, (List.take_append_drop s.rem src).symm, hdone hrem⟩
  · cases h
    refine ⟨src, ?_, hshort (by omega)⟩
    rw [List.drop_of_length_le (by omega), List.append_nil]

/-- **A pass through the loop** reads as the reader does. -/
theorem h4Iter_reads (hs : s.Framed) (hnodup : s.buffers.Nodup) {b : UInt8} {bs : List UInt8}
    {x : HciRx n × List UInt8} (h : h4Iter q s b bs = .ok x) :
    ∃ read, b :: bs = read ++ x.2 ∧ ReadsTo s read x.1 := by
  rcases hstate : s.state with _ | _ | _
  · rw [h4Iter, hstate] at h
    obtain ⟨t, ht, h⟩ := bind_eq_ok.1 h
    cases h
    exact ⟨[b], rfl, h4Type_reads hnodup hstate ht⟩
  · have hne : s.state ≠ .type := by simp [hstate]
    rw [h4Iter, hstate] at h
    rw [HciRx.Framed, hstate] at hs
    obtain ⟨i, hbuf, huser, htype, hpos, hlen⟩ := hs
    refine h4Part_reads hbuf (fun hshort ↦ ?_) (fun hrem ↦ ?_) h
    · have hfill := HciRx.fill_filled hne hbuf huser (b :: bs)
      -- the header is not complete: what is missing and what is there add up to it
      refine hfill.stay hnodup hne hbuf ?_
      rw [HciRx.Framed, show (s.fill i (b :: bs)).state = .header from hstate]
      refine ⟨i, hbuf, hfill.userData, htype, Nat.sub_pos_of_lt hshort, ?_⟩
      rw [hfill.got, List.length_append]
      show _ + (s.rem - (b :: bs).length) = hciHdrLen s.type
      omega
    · have hfill := HciRx.fill_filled hne hbuf huser ((b :: bs).take s.rem)
      -- the header is complete, and names the length of the payload
      refine h4HeaderEnd_reads hfill hnodup hne hbuf htype ?_
      rw [hfill.got, List.length_append, List.length_take_of_le hrem]
      exact hlen
  · have hne : s.state ≠ .type := by simp [hstate]
    rw [h4Iter, hstate] at h
    rw [HciRx.Framed, hstate] at hs
    obtain ⟨i, hbuf, huser, htype, hpos, hheader, hlen⟩ := hs
    refine h4Part_reads hbuf (fun hshort ↦ ?_) (fun hrem ↦ ?_) h
    · have hfill := HciRx.fill_filled hne hbuf huser (b :: bs)
      refine hfill.stay hnodup hne hbuf ?_
      rw [HciRx.Framed, show (s.fill i (b :: bs)).state = .payload from hstate]
      refine ⟨i, hbuf, hfill.userData, htype, Nat.sub_pos_of_lt hshort, ?_, ?_⟩
      · rw [hfill.got, List.length_append]
        exact hheader.trans (Nat.le_add_right _ _)
      · rw [hfill.got, List.length_append]
        show _ + (s.rem - (b :: bs).length) = h4Framing.len s.type _
        rw [Framing.len_append hheader]
        omega
    · have hfill := HciRx.fill_filled hne hbuf huser ((b :: bs).take s.rem)
      -- the payload is complete, and the packet is the record of what has been read
      refine hfill.put hnodup hne hbuf htype ?_
      rw [hfill.got, List.length_append, List.length_take_of_le hrem]
      show _ = h4Framing.len s.type _
      rw [Framing.len_append hheader]
      exact hlen

/-- **A window**, by induction on the passes, which the parser's own recursion gives. -/
theorem h4Loop_reads (hs : s.Framed) (hnodup : s.buffers.Nodup) {src : List UInt8}
    (h : h4Loop q s src = .ok s') : ReadsTo s src s' := by
  induction s, src using h4_induction q with
  | nil s =>
    rw [h4Loop_nil] at h
    cases h
    exact .refl hs
  | cons s b bs ih =>
    rw [h4Loop_cons] at h
    obtain ⟨x, hx, h⟩ := bind_eq_ok.1 h
    obtain ⟨read, hsplit, hreads⟩ := h4Iter_reads hs hnodup hx
    rw [hsplit]
    exact hreads.trans (ih x.1 x.2 hx hreads.framed (hreads.buffers.nodup_iff.2 hnodup) h)

/-! ### The stream from power-on -/

/-- How many packets a stream begins. -/
def h4Begun (stream : List UInt8) : ℕ :=
  (h4Reader.read stream).1.length + if (h4Reader.read stream).2 = [] then 0 else 1

/-- The parser never meets the null pointer that `buf` starts as. -/
theorem h4Loop_not_null (hs : s.Ready q) (src : List UInt8) : h4Loop q s src ≠ .error .null := by
  induction s, src using h4_induction q with
  | nil s => simp
  | cons s b bs ih =>
    have hpart {i : Fin n} (hbuf : s.buf = some i) (done : Fin n → HciRx n → HciRx n) :
        h4Part q s (b :: bs) done ≠ .error .null := by
      rw [h4Part_eq hbuf]
      split <;> simp
    intro h
    rw [h4Loop_cons] at h
    rcases bind_eq_error.1 h with h | ⟨x, hx, h⟩
    · rcases hstate : s.state with _ | _ | _
      · rw [h4Iter, hstate] at h
        rcases bind_eq_error.1 h with h | ⟨t, -, h⟩
        · rw [h4Type] at h
          split_ifs at h
          split at h <;> cases h
        · cases h
      · rw [HciRx.Ready, hstate] at hs
        obtain ⟨i, hbuf, -⟩ := hs
        rw [h4Iter, hstate] at h
        exact hpart hbuf _ h
      · rw [HciRx.Ready, hstate] at hs
        obtain ⟨i, hbuf, -⟩ := hs
        rw [h4Iter, hstate] at h
        exact hpart hbuf _ h
    · exact ih x.1 x.2 hx ((h4Iter_fits hs b bs).1 x hx).ready h

theorem HciRx.powerOn_framed : (HciRx.powerOn n).Framed := .of_type rfl

theorem HciRx.powerOn_nodup : (HciRx.powerOn n).buffers.Nodup := by
  show (List.finRange n ++ ([] ++ [])).Nodup
  rw [List.append_nil, List.append_nil]
  exact List.nodup_finRange n

/-- At power-on every buffer is free. -/
theorem HciRx.powerOn_conserving : (HciRx.powerOn n).Conserving [] :=
  fun i ↦ List.count_eq_one_of_mem HciRx.powerOn_nodup
    (List.mem_append_left _ (List.mem_finRange i))

/-- What the receive side has read since power-on is what the reader reads. -/
theorem h4Loop_powerOn {src : List UInt8} (h : h4Loop q (.powerOn n) src = .ok s) :
    h4Reader.read src = (s.packets, s.pending) := by
  obtain ⟨ps, hps, hreads⟩ := (h4Loop_reads HciRx.powerOn_framed HciRx.powerOn_nodup h).packets
  rw [show (HciRx.powerOn n).packets = [] from rfl, List.nil_append] at hps
  rw [hps]
  exact hreads

/-- Every packet that has begun has a buffer. -/
theorem h4Begun_add_free {src : List UInt8} (h : h4Loop q (.powerOn n) src = .ok s) :
    h4Begun src + s.pool.free.length = n := by
  have hconserving : s.Conserving [] := (h4Loop_conserving h).2 HciRx.powerOn_conserving
  have hlen := hconserving.length
  have hheld : s.held.length = if s.pending = [] then 0 else 1 := by
    rcases hstate : s.state with _ | _ | _
    · rw [HciRx.pending_type hstate, HciRx.held_type hstate]
      rfl
    all_goals
      have hne : s.state ≠ .type := by simp [hstate]
      have hframed := (h4Loop_reads HciRx.powerOn_framed HciRx.powerOn_nodup h).framed
      rw [HciRx.Framed, hstate] at hframed
      obtain ⟨i, hbuf, -⟩ := hframed
      rw [HciRx.pending_got hne, HciRx.held_buf hne hbuf, if_neg (List.cons_ne_nil _ _)]
      rfl
  rw [Fintype.card_fin, List.length_append, List.nil_append, hheld] at hlen
  rw [h4Begun, h4Loop_powerOn h]
  show s.packets.length + (if s.pending = [] then 0 else 1) + _ = n
  rw [HciRx.packets, List.length_map]
  omega

/-- **What `h4_read` does with any stream.** From power-on, on windows however cut, the reception
goes on exactly as long as the buffers are large enough for what has arrived of each packet and
there is one for each packet that has begun. Then the queue holds the packets of the stream, with
their types and octets and in their order, and the parser what is left. -/
theorem h4_read_stream (n q : ℕ) (ws : List RxWindow) :
    (StreamFits q (ws.flatMap RxWindow.bytes) ∧ h4Begun (ws.flatMap RxWindow.bytes) ≤ n →
      ∃ s', Fallible.run (uartRxRdy q) (HciRx.powerOn n) ws = .ok s' ∧
        h4Reader.read (ws.flatMap RxWindow.bytes) = (s'.packets, s'.pending)) ∧
    (¬(StreamFits q (ws.flatMap RxWindow.bytes) ∧ h4Begun (ws.flatMap RxWindow.bytes) ≤ n) →
      ∃ e, Fallible.run (uartRxRdy q) (HciRx.powerOn n) ws = .error e) := by
  rw [run_uartRxRdy]
  have hready : (HciRx.powerOn n).Ready q := trivial
  generalize ws.flatMap RxWindow.bytes = src
  obtain ⟨hfits, htail⟩ := h4Loop_fits hready src
  rcases hrun : h4Loop q (HciRx.powerOn n) src with e | s
  · refine ⟨fun ⟨hstream, hbegun⟩ ↦ ?_, fun _ ↦ ⟨e, rfl⟩⟩
    cases e with
    | null => exact absurd hrun (h4Loop_not_null hready src)
    | tailroom =>
      refine absurd ?_ (htail hrun [])
      rwa [List.append_nil]
    | noBuffer =>
      obtain ⟨k, t, ht, hstate, hfree⟩ := h4Loop_noBuffer hready hrun
      have hfull := h4Begun_add_free ht
      rw [hfree, List.length_nil, h4Begun, h4Loop_powerOn ht, HciRx.pending_type hstate] at hfull
      have hrest : h4Loop q t (src.drop k) = .error .noBuffer := by
        rw [← List.take_append_drop k src, h4Loop_append, ht] at hrun
        exact hrun
      -- the rest of the stream begins one packet more
      have hread := RecordReader.read_append (R := h4Reader) (src.take k) (src.drop k)
      rw [List.take_append_drop, h4Loop_powerOn ht, HciRx.pending_type hstate,
        List.nil_append] at hread
      rw [h4Begun, hread, List.length_append] at hbegun
      simp only [if_true] at hfull hbegun
      have hnil : (h4Reader.read (src.drop k)).1 = [] := by
        rw [← List.length_eq_zero_iff]
        omega
      have hremainder : (h4Reader.read (src.drop k)).2 = [] := by
        by_contra hne
        rw [if_neg hne] at hbegun
        omega
      obtain ⟨type, hnoise⟩ := h4Loop_noise q hstate
        (Framing.skipped_of_read_nil (Prod.ext hnil hremainder)) []
      rw [List.append_nil, hrest, h4Loop_nil] at hnoise
      cases hnoise
  · refine ⟨fun _ ↦ ⟨s, rfl, h4Loop_powerOn hrun⟩, fun hnot ↦ (hnot ⟨?_, ?_⟩).elim⟩
    · have h := ((hfits s hrun).iff []).2 (hfits s hrun).ready.restFits_nil
      rwa [List.append_nil] at h
    · have h := h4Begun_add_free hrun
      omega

end DirectTestMode.HciUart
