import DirectTestMode.Properties.Framing
import DirectTestMode.Transport.HciSystem

/-!
# The tailroom of the receive buffers

The peer announces how long a packet is, and `hci_pld_len` takes its word. `StreamFits` is the
condition on a stream under which the assertion of `buf_read` holds: read packet by packet, no
packet brings more octets than a buffer has. It looks at the octets that have arrived, not at those
announced: the assertion is about the octets appended.

`HciRx.RestFits` is the same condition from the middle of a packet. A pass through the loop of
`h4_read` takes it from one state to the next (`h4Iter_fits`), so does a window, and so does a run
of the system.

## The condition travels

`StreamFits` is a recursion over whole packets, and a pass may stop anywhere in one. So the proof
carries a condition **on what is still to come**, given the state: `FitsLike` says that the stream
fits from one state on exactly if its rest fits from the next. Its two cases are a read that leaves
something missing and one that completes the part, for a header and for a payload
(`headerFits_short` and the three lemmas beside it), and these are facts about lists.

With an equivalence at each pass, both directions come out of one induction. A run that meets the
assertion had a stream that does not fit, and one that comes to its end had a stream that does; the
condition at the end is that of the empty stream, of which nothing is asked.

`HciRx.Ready` goes along with it: the parser has a buffer with what it has read so far, the buffer
is not overfull, and something is missing. `Properties.H4Progress` and `Properties.RxBuffers` use it
for what they need of the parser's state.

Another assertion may stop the run earlier, for want of a buffer, and then says nothing of the
stream that was to follow. This is why `rx_tailroom_iff` has its equivalence for the runs that no
other assertion stops, and the sufficiency for all of them.
-/

namespace DirectTestMode.HciUart

open Fallible
open DirectTestMode.Hci (h4TypeCmd)

variable {n q : ℕ}

/-! ### Streams that fit -/

/-- No packet of the stream, as far as it has arrived, is longer than `q`. Of an octet that is no
packet type nothing is asked. -/
def StreamFits (q : ℕ) (stream : List UInt8) : Prop :=
  match stream with
  | [] => True
  | type :: rest =>
    if h4RxType type then
      min (hciHdrLen type) rest.length ≤ q ∧
        (hciHdrLen type ≤ rest.length →
          hciHdrLen type + min (hciPldLen type (rest.getD · 0)) (rest.length - hciHdrLen type) ≤ q ∧
            StreamFits q (rest.drop (hciHdrLen type + hciPldLen type (rest.getD · 0))))
    else StreamFits q rest
termination_by stream.length
decreasing_by
  · simp only [List.length_drop, List.length_cons]
    omega
  · simp only [List.length_cons]
    omega

/-- The rest of a payload: `got` octets of the packet are in the buffer and `need` are missing. -/
def PayloadFits (q got need : ℕ) (stream : List UInt8) : Prop :=
  got + min need stream.length ≤ q ∧ StreamFits q (stream.drop need)

/-- The rest of a header. -/
def HeaderFits (q : ℕ) (type : UInt8) (got : List UInt8) (need : ℕ) (stream : List UInt8) : Prop :=
  got.length + min need stream.length ≤ q ∧
    (need ≤ stream.length → PayloadFits q (got.length + need)
      (hciPldLen type ((got ++ stream).getD · 0)) (stream.drop need))

theorem streamFits_nil : StreamFits q [] := by
  rw [StreamFits]
  trivial

theorem streamFits_noise {type : UInt8} (h : h4RxType type = false) (rest : List UInt8) :
    StreamFits q (type :: rest) ↔ StreamFits q rest := by
  rw [StreamFits, if_neg (by simp [h])]

/-- A packet is a header of which nothing has been read. -/
theorem streamFits_packet {type : UInt8} (h : h4RxType type = true) (rest : List UInt8) :
    StreamFits q (type :: rest) ↔ HeaderFits q type [] (hciHdrLen type) rest := by
  rw [StreamFits, if_pos h]
  simp [HeaderFits, PayloadFits, List.drop_drop]

/-! ### One read -/

/-- A read that leaves octets of the payload missing. -/
theorem payloadFits_short {got need : ℕ} {src : List UInt8} (h : src.length < need)
    (stream : List UInt8) :
    PayloadFits q got need (src ++ stream) ↔
      PayloadFits q (got + src.length) (need - src.length) stream := by
  rw [PayloadFits, PayloadFits, List.length_append, List.drop_append, List.drop_of_length_le h.le,
    List.nil_append]
  exact and_congr_left' ⟨fun _ ↦ by omega, fun _ ↦ by omega⟩

/-- A read that completes the payload. -/
theorem payloadFits_done {got need : ℕ} {src : List UInt8} (h : need ≤ src.length)
    (hq : got + need ≤ q) (stream : List UInt8) :
    PayloadFits q got need (src ++ stream) ↔ StreamFits q (src.drop need ++ stream) := by
  rw [PayloadFits, List.length_append, List.drop_append_of_le_length h]
  exact and_iff_right (by omega)

/-- A read that leaves octets of the header missing. -/
theorem headerFits_short {type : UInt8} {got : List UInt8} {need : ℕ} {src : List UInt8}
    (h : src.length < need) (stream : List UInt8) :
    HeaderFits q type got need (src ++ stream) ↔
      HeaderFits q type (got ++ src) (need - src.length) stream := by
  have hsum : got.length + need = (got ++ src).length + (need - src.length) := by
    rw [List.length_append]
    omega
  rw [HeaderFits, HeaderFits, List.drop_append, List.drop_of_length_le h.le, List.nil_append,
    List.append_assoc, hsum]
  simp only [List.length_append]
  refine and_congr ⟨fun _ ↦ by omega, fun _ ↦ by omega⟩ (imp_congr_left ?_)
  constructor <;> intro <;> omega

/-- A read that completes the header, whose length field now counts. -/
theorem headerFits_done {type : UInt8} {got : List UInt8} {need : ℕ} {src : List UInt8}
    (h : need ≤ src.length) (hq : got.length + need ≤ q)
    (hlen : got.length + need = hciHdrLen type) (stream : List UInt8) :
    HeaderFits q type got need (src ++ stream) ↔
      PayloadFits q (got.length + need) (hciPldLen type ((got ++ src.take need).getD · 0))
        (src.drop need ++ stream) := by
  have hpld : hciPldLen type ((got ++ (src ++ stream)).getD · 0) =
      hciPldLen type ((got ++ src.take need).getD · 0) := by
    refine hciPldLen_congr fun k hk ↦ ?_
    have hfront : got ++ (src ++ stream) =
        (got ++ src.take need) ++ (src.drop need ++ stream) := by
      rw [List.append_assoc, ← List.append_assoc (src.take need), List.take_append_drop]
    have hk' : k < (got ++ src.take need).length := by
      rw [List.length_append, List.length_take_of_le h]
      omega
    simp only [hfront, List.getD_eq_getElem?_getD, List.getElem?_append_left hk']
  rw [HeaderFits, hpld, List.drop_append_of_le_length h, List.length_append]
  constructor
  · exact fun hfits ↦ hfits.2 (by omega)
  · exact fun hfits ↦ ⟨by omega, fun _ ↦ hfits⟩

/-- A packet that the buffer has room for fits, whatever follows it. -/
theorem streamFits_serialise (p : H4Packet) (hsize : p.content.length ≤ q) (stream : List UInt8) :
    StreamFits q (p.serialise ++ stream) ↔ StreamFits q stream := by
  have hcontent : p.content.length = p.header.length + p.payload.length := List.length_append
  have hlen := p.length_header
  rw [H4Packet.serialise, List.cons_append, streamFits_packet p.rxType, H4Packet.content,
    List.append_assoc, headerFits_done hlen.ge (by simp; omega) (by simp)]
  rw [← hlen, List.take_length, List.drop_length, List.nil_append, List.nil_append,
    p.length_payload, payloadFits_done le_rfl (by simp; omega), List.drop_length, List.nil_append]

/-! ### The parser -/

/-- A parser in the middle of a packet: it has the buffer with what it has read so far, and
something is missing. -/
def HciRx.Ready (q : ℕ) (s : HciRx n) : Prop :=
  match s.state with
  | .type => True
  | .header => ∃ i, s.buf = some i ∧ 0 < s.rem ∧
      (s.pool.block i).len + s.rem = hciHdrLen s.type ∧ (s.pool.block i).len ≤ q
  | .payload => ∃ i, s.buf = some i ∧ 0 < s.rem ∧ (s.pool.block i).len ≤ q

/-- What the parser has read of its packet. -/
def HciRx.got (s : HciRx n) : List UInt8 :=
  match s.buf with
  | some i => (s.pool.block i).bytes
  | none => []

/-- The stream fits from the state of the parser on. -/
def HciRx.RestFits (q : ℕ) (s : HciRx n) (stream : List UInt8) : Prop :=
  match s.state with
  | .type => StreamFits q stream
  | .header => HeaderFits q s.type s.got s.rem stream
  | .payload => PayloadFits q s.got.length s.rem stream

/-- What remains of the run of the loop from `s` is what remains from `s'`. -/
structure FitsLike (q : ℕ) (s : HciRx n) (src : List UInt8) (s' : HciRx n) (rest : List UInt8) :
    Prop where
  ready : s'.Ready q
  iff : ∀ stream, s.RestFits q (src ++ stream) ↔ s'.RestFits q (rest ++ stream)

/-- The type octet: a header is to follow, or the next type. -/
theorem h4Type_fits {s s' : HciRx n} (hstate : s.state = .type) {b : UInt8}
    (h : h4Type b s = .ok s') (bs : List UInt8) : FitsLike q s (b :: bs) s' bs := by
  have hfits (stream : List UInt8) : s.RestFits q (b :: bs ++ stream) ↔
      StreamFits q (b :: (bs ++ stream)) := by
    rw [HciRx.RestFits, hstate]
    rfl
  rw [h4Type] at h
  split_ifs at h with htype
  · split at h
    · cases h
    · rename_i i pool halloc
      cases h
      have hblock : (pool.write i ((pool.block i).reset b)).block i = (pool.block i).reset b :=
        Pool.write_block_self _ _ _
      refine ⟨⟨i, rfl, hciHdrLen_pos htype, ?_, ?_⟩, fun stream ↦ ?_⟩
      · rw [hblock]
        exact Nat.zero_add _
      · rw [hblock]
        exact Nat.zero_le q
      · rw [hfits, streamFits_packet htype]
        simp [HciRx.RestFits, HciRx.got]
  · cases h
    refine ⟨?_, fun stream ↦ ?_⟩
    · simp [HciRx.Ready, hstate]
    · rw [hfits, streamFits_noise (Bool.eq_false_iff.2 htype)]
      simp [HciRx.RestFits, hstate]

/-! ### A pass in a packet -/

variable {s s' : HciRx n} {i : Fin n}

@[simp] theorem HciRx.fill_block (s : HciRx n) (i : Fin n) (src : List UInt8) :
    (s.fill i src).pool.block i = (s.pool.block i).addMem src := Pool.write_block_self _ _ _

theorem HciRx.got_eq (hbuf : s.buf = some i) : s.got = (s.pool.block i).bytes := by
  rw [got, hbuf]

theorem HciRx.got_fill (hbuf : s.buf = some i) (src : List UInt8) :
    (s.fill i src).got = s.got ++ src := by
  rw [got_eq hbuf, got_eq (s := s.fill i src) hbuf, fill_block, NetBuf.bytes_addMem]

/-- The end of a payload. -/
theorem h4Put_fits {src : List UInt8} (hstate : s.state = .payload) (hbuf : s.buf = some i)
    (hrem : s.rem ≤ src.length) (hq : (s.pool.block i).len + s.rem ≤ q) :
    FitsLike q s src (h4Put i (s.fill i (src.take s.rem))) (src.drop s.rem) := by
  refine ⟨trivial, fun stream ↦ ?_⟩
  rw [HciRx.RestFits, hstate]
  show PayloadFits _ _ _ _ ↔ StreamFits _ _
  rw [payloadFits_done hrem]
  rwa [HciRx.got_eq hbuf, NetBuf.length_bytes]

/-- The end of a header. -/
theorem h4HeaderEnd_fits {src : List UInt8} (hstate : s.state = .header) (hbuf : s.buf = some i)
    (hrem : s.rem ≤ src.length) (hlen : (s.pool.block i).len + s.rem = hciHdrLen s.type)
    (hq : (s.pool.block i).len + s.rem ≤ q) :
    FitsLike q s src (h4HeaderEnd i (s.fill i (src.take s.rem))) (src.drop s.rem) := by
  let t : HciRx n := s.fill i (src.take s.rem)
  have hgot : s.got.length = (s.pool.block i).len := by
    rw [HciRx.got_eq hbuf, NetBuf.length_bytes]
  have htgot : t.got = s.got ++ src.take s.rem := HciRx.got_fill hbuf _
  have htlen : (t.pool.block i).len = s.got.length + s.rem := by
    rw [hgot, HciRx.fill_block, NetBuf.addMem_len, List.length_take_of_le hrem]
  -- the length is read from the header that is now complete
  have hpld : hciPldLen t.type (t.pool.block i).mem =
      hciPldLen s.type ((s.got ++ src.take s.rem).getD · 0) := by
    refine hciPldLen_congr fun k hk ↦ ?_
    have hk : k < (t.pool.block i).len := by
      rw [htlen, hgot, hlen]
      exact hk
    rw [← htgot, HciRx.got_eq (s := t) hbuf, NetBuf.getD_bytes _ hk]
  have hrest (stream : List UInt8) : s.RestFits q (src ++ stream) ↔
      PayloadFits q (s.got.length + s.rem) (hciPldLen t.type (t.pool.block i).mem)
        (src.drop s.rem ++ stream) := by
    rw [HciRx.RestFits, hstate, hpld]
    exact headerFits_done hrem (by omega) (by omega) stream
  rw [h4HeaderEnd]
  simp only
  split_ifs with hzero
  · refine ⟨trivial, fun stream ↦ ?_⟩
    rw [hrest, hzero, PayloadFits, Nat.zero_min, List.drop_zero]
    exact and_iff_right (by omega)
  · refine ⟨⟨i, hbuf, Nat.pos_of_ne_zero hzero, ?_⟩, fun stream ↦ ?_⟩
    · show (t.pool.block i).len ≤ q
      omega
    · rw [hrest]
      show _ ↔ PayloadFits q t.got.length _ _
      rw [htgot, List.length_append, List.length_take_of_le hrem]

/-- The buffer of a packet is not overfull. -/
theorem HciRx.Ready.le (hs : s.Ready q) (hstate : s.state ≠ .type) (hbuf : s.buf = some i) :
    (s.pool.block i).len ≤ q := by
  rw [Ready] at hs
  split at hs
  · exact absurd ‹_› hstate
  · obtain ⟨j, hj, -, -, hle⟩ := hs
    cases hbuf.symm.trans hj
    exact hle
  · obtain ⟨j, hj, -, hle⟩ := hs
    cases hbuf.symm.trans hj
    exact hle

/-- In a packet, what is read next fits. -/
theorem HciRx.RestFits.le (hstate : s.state ≠ .type) {stream : List UInt8}
    (h : s.RestFits q stream) : s.got.length + min s.rem stream.length ≤ q := by
  rw [RestFits] at h
  split at h
  · exact absurd ‹_› hstate
  · exact h.1
  · exact h.1

/-- A read that leaves something missing. -/
theorem fill_fits {src : List UInt8} (hs : s.Ready q) (hstate : s.state ≠ .type)
    (hbuf : s.buf = some i) (hrem : src.length < s.rem)
    (hq : (s.pool.block i).len + src.length ≤ q) : FitsLike q s src (s.fill i src) [] := by
  have hrem' : (s.fill i src).rem = s.rem - src.length := rfl
  have hlen : ((s.fill i src).pool.block i).len = (s.pool.block i).len + src.length := by
    rw [HciRx.fill_block, NetBuf.addMem_len]
  have hgot := HciRx.got_fill hbuf src
  rcases hst : s.state with _ | _ | _
  · exact absurd hst hstate
  · have hst' : (s.fill i src).state = .header := hst
    rw [HciRx.Ready, hst] at hs
    obtain ⟨j, hj, -, hheader, -⟩ := hs
    cases hbuf.symm.trans hj
    constructor
    · rw [HciRx.Ready, hst']
      refine ⟨i, hbuf, by omega, ?_, by omega⟩
      rw [hlen, hrem']
      show _ = hciHdrLen s.type
      omega
    · intro stream
      rw [HciRx.RestFits, HciRx.RestFits, hst, hst', hgot]
      exact headerFits_short hrem stream
  · have hst' : (s.fill i src).state = .payload := hst
    constructor
    · rw [HciRx.Ready, hst']
      exact ⟨i, hbuf, by omega, by omega⟩
    · intro stream
      rw [HciRx.RestFits, HciRx.RestFits, hst, hst', hgot, List.length_append]
      exact payloadFits_short hrem stream

/-- **A pass in a packet**: it keeps the condition, or it fails the assertion and the condition does
not hold. -/
theorem h4Part_fits {done : Fin n → HciRx n → HciRx n} {src : List UInt8} (hs : s.Ready q)
    (hstate : s.state ≠ .type) (hbuf : s.buf = some i)
    (hdone : s.rem ≤ src.length → (s.pool.block i).len + s.rem ≤ q →
      FitsLike q s src (done i (s.fill i (src.take s.rem))) (src.drop s.rem)) :
    (∀ x, h4Part q s src done = .ok x → FitsLike q s src x.1 x.2) ∧
      (h4Part q s src done = .error .tailroom → ∀ stream, ¬ s.RestFits q (src ++ stream)) := by
  have hgot : s.got.length = (s.pool.block i).len := by
    rw [HciRx.got_eq hbuf, NetBuf.length_bytes]
  have hle := hs.le hstate hbuf
  rw [h4Part_eq hbuf, NetBuf.tailroom, List.length_take]
  by_cases htail : q - (s.pool.block i).len < min s.rem src.length
  · rw [if_pos htail]
    refine ⟨fun x h ↦ (by cases h), fun _ stream hfits ↦ ?_⟩
    have hlt := hfits.le hstate
    rw [List.length_append] at hlt
    omega
  · rw [if_neg htail]
    refine ⟨fun x h ↦ ?_, fun h ↦ by cases h⟩
    cases h
    split_ifs with hrem
    · exact hdone hrem (by omega)
    · rw [List.drop_of_length_le (by omega)]
      exact fill_fits hs hstate hbuf (by omega) (by omega)

/-- **A pass through the loop.** -/
theorem h4Iter_fits (hs : s.Ready q) (b : UInt8) (bs : List UInt8) :
    (∀ x, h4Iter q s b bs = .ok x → FitsLike q s (b :: bs) x.1 x.2) ∧
      (h4Iter q s b bs = .error .tailroom → ∀ stream, ¬ s.RestFits q (b :: bs ++ stream)) := by
  rcases hstate : s.state with _ | _ | _
  · rw [h4Iter, hstate]
    constructor
    · intro x h
      obtain ⟨t, ht, h⟩ := bind_eq_ok.1 h
      cases h
      exact h4Type_fits hstate ht bs
    -- the type octet is not appended to anything
    · intro h
      rcases bind_eq_error.1 h with h | ⟨t, -, h⟩
      · rw [h4Type] at h
        split_ifs at h
        split at h <;> cases h
      · cases h
  · have hready := hs
    rw [HciRx.Ready, hstate] at hready
    obtain ⟨i, hbuf, -, hlen, -⟩ := hready
    rw [h4Iter, hstate]
    exact h4Part_fits hs (by simp [hstate]) hbuf fun hrem hle ↦
      h4HeaderEnd_fits hstate hbuf hrem hlen hle
  · have hready := hs
    rw [HciRx.Ready, hstate] at hready
    obtain ⟨i, hbuf, -⟩ := hready
    rw [h4Iter, hstate]
    exact h4Part_fits hs (by simp [hstate]) hbuf fun hrem hle ↦ h4Put_fits hstate hbuf hrem hle

/-- **A window**, by induction on the passes. -/
theorem h4Loop_fits (hs : s.Ready q) (src : List UInt8) :
    (∀ s', h4Loop q s src = .ok s' → FitsLike q s src s' []) ∧
      (h4Loop q s src = .error .tailroom → ∀ stream, ¬ s.RestFits q (src ++ stream)) := by
  induction s, src using h4_induction q with
  | nil s =>
    rw [h4Loop_nil]
    refine ⟨fun s' h ↦ ?_, fun h ↦ by cases h⟩
    cases h
    exact ⟨hs, fun _ ↦ Iff.rfl⟩
  | cons s b bs ih =>
    obtain ⟨hok, htail⟩ := h4Iter_fits hs b bs
    rw [h4Loop_cons]
    rcases hx : h4Iter q s b bs with e | x
    · rw [hx] at htail
      rw [error_bind]
      refine ⟨fun s' h ↦ (by cases h), fun h ↦ htail ?_⟩
      cases h
      rfl
    · have hstep := hok x hx
      obtain ⟨hok', htail'⟩ := ih x.1 x.2 hx hstep.ready
      rw [ok_bind]
      constructor
      · intro s' h
        have hrest := hok' s' h
        exact ⟨hrest.ready, fun stream ↦ (hstep.iff stream).trans (hrest.iff stream)⟩
      · exact fun h stream hfits ↦ htail' h stream ((hstep.iff stream).1 hfits)

/-- When the stream ends, nothing is asked any more. -/
theorem HciRx.Ready.restFits_nil (hs : s.Ready q) : s.RestFits q [] := by
  by_cases hstate : s.state = .type
  · rw [RestFits, hstate]
    exact streamFits_nil
  · have hready := hs
    rw [Ready] at hready
    rw [RestFits]
    split at hready
    · exact absurd ‹_› hstate
    · obtain ⟨i, hbuf, hpos, -, hle⟩ := hready
      refine ⟨?_, fun h ↦ absurd h (by simp; omega)⟩
      rw [got_eq hbuf, NetBuf.length_bytes]
      simpa using hle
    · obtain ⟨i, hbuf, hpos, hle⟩ := hready
      refine ⟨?_, ?_⟩
      · rw [got_eq hbuf, NetBuf.length_bytes]
        simpa using hle
      · rw [List.drop_nil]
        exact streamFits_nil

end DirectTestMode.HciUart

namespace DirectTestMode

open Fallible HciUart

variable {n q : ℕ} {b : Build}

/-! ### Runs of the system -/

/-- The octets that an input brings. -/
def HciInput.received : HciInput → List UInt8
  | .uartRx w => w.bytes
  | .get | .process | .radio _ | .anomaly _ | .txDone => []

namespace HciSystem

/-- The steps of the main thread and the interrupts do not touch the packet that is being read. -/
theorem step_fits {s : HciSystem n} {i : HciInput} (hs : s.rx.Ready q) :
    (∀ s', s.step b q i = .ok s' → FitsLike q s.rx i.received s'.rx []) ∧
      (s.step b q i = .error (.rx .tailroom) → ∀ stream,
        ¬ s.rx.RestFits q (i.received ++ stream)) := by
  constructor
  · intro s' h
    cases bufferStep h with
    | uartRx hrx => exact (h4Loop_fits hs _).1 _ hrx
    | wait | get | nothing => exact ⟨hs, fun _ ↦ Iff.rfl⟩
    | process => split <;> exact ⟨hs, fun _ ↦ Iff.rfl⟩
    | other hrx hprocess f =>
      cases i with
      | uartRx w => exact absurd rfl (hrx w)
      | process => exact absurd rfl hprocess
      | get | radio | anomaly | txDone => exact ⟨hs, fun _ ↦ Iff.rfl⟩
  · intro h
    obtain ⟨w, rfl, hrx⟩ := step_eq_rx.1 h
    exact (h4Loop_fits hs _).2 hrx

/-- **A run**: what is left of the stream when it stops is what it has not received. -/
theorem run_fits (is : List HciInput) {s : HciSystem n} (hs : s.rx.Ready q) :
    (∀ s', Fallible.run (step b q) s is = .ok s' → s.rx.RestFits q (is.flatMap HciInput.received)) ∧
      (Fallible.run (step b q) s is = .error (.rx .tailroom) →
        ¬ s.rx.RestFits q (is.flatMap HciInput.received)) := by
  induction is generalizing s with
  | nil => exact ⟨fun _ _ ↦ hs.restFits_nil, fun h ↦ by cases h⟩
  | cons i is ih =>
    obtain ⟨hok, htail⟩ := step_fits (b := b) (i := i) hs
    rw [List.flatMap_cons]
    constructor
    · intro s' h
      obtain ⟨t, ht, h⟩ := bind_eq_ok.1 h
      exact ((hok t ht).iff _).2 ((ih (hok t ht).ready).1 s' h)
    · intro h
      rcases bind_eq_error.1 h with h | ⟨t, ht, h⟩
      · exact htail h _
      · exact fun hfits ↦ (ih (hok t ht).ready).2 h (((hok t ht).iff _).1 hfits)

/-- **The tailroom always suffices exactly on the streams that fit.** A run on a stream that fits
never fails the assertion; a run that no assertion stopped, neither this nor another, had such a
stream. The condition is on the octets and the size of a buffer. -/
theorem rx_tailroom_iff {s : HciSystem n} (hs : s.Initial b) (is : List HciInput) :
    (StreamFits q (is.flatMap HciInput.received) →
      Fallible.run (step b q) s is ≠ .error (.rx .tailroom)) ∧
    ((∀ e, Fallible.run (step b q) s is = .error e → e = .rx .tailroom) →
      (Fallible.run (step b q) s is ≠ .error (.rx .tailroom) ↔
        StreamFits q (is.flatMap HciInput.received))) := by
  have hready : s.rx.Ready q := by
    rw [hs.1]
    trivial
  have hrest : s.rx.RestFits q = StreamFits q := by
    rw [hs.1]
    rfl
  obtain ⟨hok, htail⟩ := run_fits (b := b) is hready
  rw [hrest] at hok htail
  refine ⟨fun hfits h ↦ htail h hfits, fun hother ↦ ⟨fun hne ↦ ?_, fun hfits h ↦ htail h hfits⟩⟩
  rcases hrun : Fallible.run (step b q) s is with e | s'
  · exact absurd (hrun.trans (congrArg Except.error (hother e hrun))) hne
  · exact hok s' hrun

/-- A system of 16 buffers for the nRF5340, after its initialisation. -/
def nrf5340 : HciSystem 16 := ⟨.powerOn 16, none, .ofDevice .nrf5340⟩

theorem nrf5340_initial : nrf5340.Initial (.nrf5340 true false) :=
  ⟨rfl, rfl, Device.nrf5340_initialised true false, rfl, rfl⟩

/-- An ACL header that announces 1021 octets, and that many octets in windows of 128. -/
def longAcl : List RxWindow :=
  .ofBytes [0x02, 0x01, 0x00, 0xFD, 0x03] ::
    (List.replicate 7 (.ofBytes (List.replicate 128 0)) ++ [.ofBytes (List.replicate 125 0)])

theorem bytes_longAcl : longAcl.flatMap RxWindow.bytes =
    h4TypeAcl :: ([0x01, 0x00, 0xFD, 0x03] ++ List.replicate 1021 0) := by
  rw [longAcl, List.flatMap_cons, List.flatMap_append, List.flatMap_replicate,
    List.flatMap_singleton]
  simp only [RxWindow.bytes_ofBytes, List.flatten_replicate_replicate,
    List.replicate_append_replicate]
  rfl

/-- The header of the long packet goes into the buffer, its payload is asked for at once, and there
the assertion stops the run. -/
theorem run_longAcl :
    Fallible.run (step (.nrf5340 true false) 1024) nrf5340 (longAcl.map .uartRx) =
      .error (.rx .tailroom) := by
  refine run_uartRx_error ?_
  obtain ⟨i, pool, halloc⟩ : ∃ i pool, nrf5340.rx.pool.alloc = some (i, pool) := ⟨_, _, rfl⟩
  let t := nrf5340.rx.header i pool h4TypeAcl [0x01, 0x00, 0xFD, 0x03]
  have hheaderLen : [0x01, 0x00, 0xFD, 0x03].length = hciHdrLen h4TypeAcl := rfl
  have hpld : hciPldLen t.type (t.pool.block i).mem = 1021 :=
    nrf5340.rx.header_pldLen i pool hheaderLen
  have hlen : (t.pool.block i).len = 4 := by
    simp [t, HciRx.header]
  have hheader : h4HeaderEnd i t = { t with rem := 1021, state := .payload } := by
    rw [h4HeaderEnd]
    simp only [hpld, if_neg (show (1021 : ℕ) ≠ 0 by decide)]
  have hpayload : List.replicate 1021 (0 : UInt8) ≠ [] := by
    rw [ne_eq, List.replicate_eq_nil_iff]
    decide
  have hpart : h4Part 1024 (h4HeaderEnd i t) (List.replicate 1021 0) h4Put = .error .tailroom := by
    rw [hheader, h4Part_eq (i := i) rfl, if_pos]
    simp only [NetBuf.tailroom, hlen, List.length_take, List.length_replicate]
    decide
  rw [run_uartRxRdy, bytes_longAcl]
  refine (h4Loop_packetHeader rfl halloc (by decide) hheaderLen (by decide) _).trans ?_
  show h4Loop 1024 (h4HeaderEnd i t) _ = _
  rw [h4Loop_payload (by rw [hheader]) hpayload, hpart]
  rfl

/-- The same packet with 1020 octets of payload, which is as long as the buffer. -/
def fullAcl : H4Packet where
  type := h4TypeAcl
  header := [0x01, 0x00, 0xFC, 0x03]
  payload := List.replicate 1020 0
  rxType := aclPacket.rxType
  length_header := rfl
  length_payload := List.length_replicate.symm

/-- Both sides of the bound. A short ACL packet, one that fills the buffer and a Test End command,
in windows that end inside them, pass whatever the main thread does in between. One octet more than
the buffer holds stops the run with this assertion, and its stream is one that does not fit. -/
theorem rx_tailroom_iff_longAcl :
    (∀ k, Fallible.run (step (.nrf5340 true false) 1024) nrf5340
        [.uartRx (.ofBytes ((aclPacket.serialise ++ fullAcl.serialise).take k)), .get,
          .uartRx (.ofBytes ((aclPacket.serialise ++ fullAcl.serialise).drop k)), .process,
          .uartRx (.ofBytes testEndPacket.serialise)] ≠
      .error (.rx .tailroom)) ∧
    ¬StreamFits 1024 ((longAcl.map HciInput.uartRx).flatMap HciInput.received) := by
  constructor
  · intro k
    refine (rx_tailroom_iff nrf5340_initial _).1 ?_
    simp only [List.flatMap_cons, List.flatMap_nil, HciInput.received, RxWindow.bytes_ofBytes,
      List.nil_append]
    rw [← List.append_assoc, List.take_append_drop, List.append_assoc,
      streamFits_serialise aclPacket (by decide), streamFits_serialise fullAcl ?_,
      streamFits_serialise testEndPacket (by decide)]
    · exact streamFits_nil
    · rw [H4Packet.content, List.length_append, fullAcl, List.length_replicate]
      decide
  · intro hfits
    refine ((rx_tailroom_iff nrf5340_initial (longAcl.map .uartRx)).2 ?_).2 hfits run_longAcl
    intro e he
    cases run_longAcl.symm.trans he
    rfl

/-- **1021 octets of payload do not fit behind an ACL header** in a buffer of 1024. -/
theorem longAcl_overruns :
    nrf5340.Initial (.nrf5340 true false) ∧
      Fallible.run (step (.nrf5340 true false) 1024) nrf5340 (longAcl.map .uartRx) =
        .error (.rx .tailroom) :=
  ⟨nrf5340_initial, run_longAcl⟩

end HciSystem

end DirectTestMode
