import Mathlib.Data.List.FinRange
import DirectTestMode.Machine.Pool
import DirectTestMode.Transport.Hci

/-!
# H4 reception (`hci_uart.c`)

The UART driver hands the received octets to `h4_read` in windows, cut where the driver likes. The
parser keeps its place in a packet in static variables from one window to the next, and collects the
packet in a buffer of the pool `hci_rx_buf`; a complete packet goes to the queue `hci_rx_queue`.

## One pass through the loop

`h4Iter` is the body of the loop of `h4_read` and `h4Loop` the loop. A pass may leave the window
where it is, so what decreases is `h4Measure`, which also counts the state; `h4_induction` is the
induction it gives, and every statement about `h4_read` is one about `h4Iter` by that rule.

The measure is three times the octets left plus how far the state is from the start of a packet. A
pass that reads an octet may go two states forward and still decreases it, and a pass that reads
none, since nothing is missing of its part, has to move towards the start. The loop is a function
because of this, and not by fuel: that `h4_read` returns is part of its definition.

## The end of a window

`h4Loop_append` says that the loop does not see where a window ends: running it on two windows is
running it on one. The proof is by the induction on the passes, and the case that carries it is a
part that the window cuts in two (`h4Part_short`), where appending twice to the buffer is appending
once.

## Buffers

A network buffer keeps the memory beyond what is in use, since a handler may read there: what it
finds is what the last packet in that buffer has left. The pool is a list of free buffers in the
order in which they are handed out. Three assertions can fail, and they are the faults of the
reception.
-/

namespace DirectTestMode.HciUart

open Fallible
open DirectTestMode.Hci (h4TypeCmd h4TypeEvt)

/-! ### Network buffers -/

/-- A network buffer: the user data, the memory behind the data pointer, and how much of it is in
use. What lies beyond `len` is what the last use of the buffer left there. -/
structure NetBuf where
  userData : UInt8
  mem : ℕ → UInt8
  len : ℕ

namespace NetBuf

/-- A buffer as `net_buf_alloc` returns it, with its user data set. -/
def reset (buf : NetBuf) (userData : UInt8) : NetBuf := { buf with userData := userData, len := 0 }

/-- `net_buf_add_mem`. -/
def addMem (buf : NetBuf) (src : List UInt8) : NetBuf where
  userData := buf.userData
  mem := fun k ↦
    if buf.len ≤ k ∧ k < buf.len + src.length then src.getD (k - buf.len) 0 else buf.mem k
  len := buf.len + src.length

/-- The octets in use. -/
def bytes (buf : NetBuf) : List UInt8 := (List.range buf.len).map buf.mem

/-- `net_buf_tailroom`, of a buffer of `size` octets. -/
def tailroom (size : ℕ) (buf : NetBuf) : ℕ := size - buf.len

@[simp] theorem reset_len (buf : NetBuf) (userData : UInt8) : (buf.reset userData).len = 0 := rfl

@[simp] theorem reset_userData (buf : NetBuf) (userData : UInt8) :
    (buf.reset userData).userData = userData := rfl

@[simp] theorem reset_bytes (buf : NetBuf) (userData : UInt8) : (buf.reset userData).bytes = [] :=
  rfl

@[simp] theorem addMem_len (buf : NetBuf) (src : List UInt8) :
    (buf.addMem src).len = buf.len + src.length := rfl

@[simp] theorem addMem_userData (buf : NetBuf) (src : List UInt8) :
    (buf.addMem src).userData = buf.userData := rfl

@[simp] theorem length_bytes (buf : NetBuf) : buf.bytes.length = buf.len := by
  simp [bytes]

/-- **Two appends are one.** -/
theorem addMem_addMem (buf : NetBuf) (src src' : List UInt8) :
    (buf.addMem src).addMem src' = buf.addMem (src ++ src') := by
  have hmem : ((buf.addMem src).addMem src').mem = (buf.addMem (src ++ src')).mem := by
    funext k
    simp only [addMem, List.length_append, List.getD_eq_getElem?_getD]
    rcases Nat.lt_or_ge k (buf.len + src.length) with hk | hk
    · rw [if_neg (by omega), List.getElem?_append]
      split_ifs <;> first | rfl | omega
    · rw [List.getElem?_append_right (by omega), Nat.sub_sub]
      split_ifs <;> first | rfl | omega
  have hlen : ((buf.addMem src).addMem src').len = (buf.addMem (src ++ src')).len := by
    simp [Nat.add_assoc]
  calc (buf.addMem src).addMem src'
      = ⟨buf.userData, ((buf.addMem src).addMem src').mem, ((buf.addMem src).addMem src').len⟩ :=
    rfl
    _ = ⟨buf.userData, (buf.addMem (src ++ src')).mem, (buf.addMem (src ++ src')).len⟩ := by
        rw [hmem, hlen]

@[simp] theorem bytes_addMem (buf : NetBuf) (src : List UInt8) :
    (buf.addMem src).bytes = buf.bytes ++ src := by
  refine List.ext_getElem (by simp) fun k hk hk' ↦ ?_
  have hlt : k < buf.len + src.length := by simpa using hk
  simp only [bytes, addMem, List.getElem_map, List.getElem_range, List.getElem_append,
    List.length_map, List.length_range]
  rcases Nat.lt_or_ge k buf.len with h | h
  · rw [if_neg (by omega), dif_pos h]
  · have hsrc : k - buf.len < src.length := by omega
    rw [if_pos ⟨h, hlt⟩, dif_neg (by omega)]
    simp [hsrc]

/-- The memory below what is in use is what is in use. -/
theorem getD_bytes (buf : NetBuf) {k : ℕ} (hk : k < buf.len) : buf.bytes.getD k 0 = buf.mem k := by
  simp [bytes, hk]

end NetBuf

/-! ### Headers -/

/-- `H4_TYPE_ACL`. -/
def h4TypeAcl : UInt8 := 0x02
/-- `H4_TYPE_ISO`. -/
def h4TypeIso : UInt8 := 0x05

/-- The size of the header of a packet type. -/
def hciHdrLen (type : UInt8) : ℕ :=
  if type = h4TypeCmd then 3
  else if type = h4TypeAcl then 4
  else if type = h4TypeEvt then 2
  else if type = h4TypeIso then 4
  else 0

/-- The payload length in a header: an octet of a command, two octets of the data packets. -/
def hciPldLen (type : UInt8) (hdr : ℕ → UInt8) : ℕ :=
  if type = h4TypeCmd then (hdr 2).toNat
  else if type = h4TypeAcl then (hdr 2).toNat + 256 * (hdr 3).toNat
  else if type = h4TypeIso then (hdr 2).toNat + 256 * (hdr 3).toNat
  else 0

/-- The packet types that a controller receives. -/
def h4RxType (type : UInt8) : Bool := type == h4TypeCmd || type == h4TypeAcl || type == h4TypeIso

/-- A packet has a header, so the state after a type octet waits for something. -/
theorem hciHdrLen_pos {type : UInt8} (h : h4RxType type = true) : 0 < hciHdrLen type := by
  simp only [h4RxType, Bool.or_eq_true, beq_iff_eq] at h
  rcases h with (rfl | rfl) | rfl <;> decide

/-- The payload length is read from the header only. -/
theorem hciPldLen_congr {type : UInt8} {hdr hdr' : ℕ → UInt8}
    (h : ∀ k, k < hciHdrLen type → hdr k = hdr' k) : hciPldLen type hdr = hciPldLen type hdr' := by
  rw [hciPldLen, hciPldLen]
  rw [hciHdrLen] at h
  split_ifs at h ⊢ with h1 h2 h3
  · rw [h 2 (by decide)]
  · rw [h 2 (by decide), h 3 (by decide)]
  · subst h3
    simp [h4TypeEvt, h4TypeIso] at *
  all_goals first | rfl | rw [h 2 (by decide), h 3 (by decide)]

/-! ### The parser -/

/-- The `enum h4_state`. -/
inductive H4State
  | type | header | payload
  deriving DecidableEq, Repr

/-- The assertions of the reception, and an access through the null pointer that `buf` starts as. -/
inductive RxFault
  /-- `net_buf_alloc` has no buffer. -/
  | noBuffer
  /-- `buf_read` is asked for more than the tailroom. -/
  | tailroom
  | null
  deriving DecidableEq, Repr

/-- The static variables of `h4_read`, the pool `hci_rx_buf` of `n` buffers, and the queue
`hci_rx_queue` that `dtm_hci_put` fills. -/
structure HciRx (n : ℕ) where
  state : H4State
  type : UInt8
  rem : ℕ
  buf : Option (Fin n)
  pool : Pool (Fin n) NetBuf
  queue : List (Fin n)

variable {n : ℕ}

/-- `buf_read`: how much was appended, and the buffer after it. -/
def bufRead (size : ℕ) (buf : NetBuf) (src : List UInt8) (reqLen : ℕ) :
    Except RxFault (ℕ × NetBuf) :=
  let len := if src.length < reqLen then src.length else reqLen
  if buf.tailroom size < len then .error .tailroom else .ok (len, buf.addMem (src.take len))

/-- The buffer that the parser fills. -/
def HciRx.current (s : HciRx n) : Except RxFault (Fin n) :=
  match s.buf with
  | some i => .ok i
  | none => .error .null

/-- `dtm_hci_put` on the buffer of the parser. -/
def dtmHciPut (i : Fin n) (s : HciRx n) : HciRx n := { s with queue := s.queue ++ [i] }

/-- The case `S_TYPE`. An octet that is no packet type is skipped. -/
def h4Type (b : UInt8) (s : HciRx n) : Except RxFault (HciRx n) :=
  let s := { s with type := b }
  if h4RxType b then
    match s.pool.alloc with
    | none => .error .noBuffer
    | some (i, pool) => .ok { s with
        rem := hciHdrLen b
        buf := some i
        pool := pool.write i ((pool.block i).reset b)
        state := .header }
  else .ok s

/-- The read that the cases `S_HEADER` and `S_PAYLOAD` begin with. -/
def h4Fill (size : ℕ) (i : Fin n) (src : List UInt8) (s : HciRx n) :
    Except RxFault (ℕ × HciRx n) := do
  let (read, buf) ← bufRead size (s.pool.block i) src s.rem
  pure (read, { s with rem := s.rem - read, pool := s.pool.write i buf })

/-- The end of a payload. -/
def h4Put (i : Fin n) (s : HciRx n) : HciRx n := { dtmHciPut i s with state := .type }

/-- The end of a header; a packet with an empty payload is complete with it. -/
def h4HeaderEnd (i : Fin n) (s : HciRx n) : HciRx n :=
  let s := { s with rem := hciPldLen s.type (s.pool.block i).mem, state := .payload }
  if s.rem = 0 then h4Put i s else s

/-- The cases `S_HEADER` and `S_PAYLOAD`: a read, and `done` once nothing is missing of the part of
the packet that the case is about. -/
def h4Part (size : ℕ) (s : HciRx n) (src : List UInt8) (done : Fin n → HciRx n → HciRx n) :
    Except RxFault (HciRx n × List UInt8) := do
  let i ← s.current
  let (read, s) ← h4Fill size i src s
  pure (if s.rem = 0 then done i s else s, src.drop read)

/-- One pass through the loop of `h4_read`, on a window that begins with `b`: the state after it
and the rest of the window. -/
def h4Iter (size : ℕ) (s : HciRx n) (b : UInt8) (bs : List UInt8) :
    Except RxFault (HciRx n × List UInt8) :=
  match s.state with
  | .type => do
    let s ← h4Type b s
    pure (s, bs)
  | .header => h4Part size s (b :: bs) h4HeaderEnd
  | .payload => h4Part size s (b :: bs) h4Put

/-! ### What a pass does -/

variable {size : ℕ}

/-- The state with `src` appended to its packet. -/
def HciRx.fill (i : Fin n) (src : List UInt8) (s : HciRx n) : HciRx n :=
  { s with
    rem := s.rem - src.length
    pool := s.pool.write i ((s.pool.block i).addMem src) }

/-- **Two reads are one.** -/
theorem HciRx.fill_fill (i : Fin n) (src src' : List UInt8) (s : HciRx n) :
    (s.fill i src).fill i src' = s.fill i (src ++ src') := by
  simp [fill, NetBuf.addMem_addMem, Nat.sub_sub]

/-- A read takes what is missing, or what there is. -/
theorem bufRead_eq (size : ℕ) (buf : NetBuf) (src : List UInt8) (reqLen : ℕ) :
    bufRead size buf src reqLen =
      if buf.tailroom size < (src.take reqLen).length then .error .tailroom
      else .ok ((src.take reqLen).length, buf.addMem (src.take reqLen)) := by
  rw [bufRead]
  rcases Nat.lt_or_ge src.length reqLen with h | h
  · simp [h, List.take_of_length_le h.le]
  · simp [Nat.not_lt.2 h, Nat.min_eq_left h]

/-- **A pass in a header or a payload**: it takes what the window has of the part, and completes
it when that is enough. -/
theorem h4Part_eq {s : HciRx n} {i : Fin n} (hbuf : s.buf = some i) (src : List UInt8)
    (done : Fin n → HciRx n → HciRx n) :
    h4Part size s src done =
      if (s.pool.block i).tailroom size < (src.take s.rem).length then .error .tailroom
      else .ok (if s.rem ≤ src.length then done i (s.fill i (src.take s.rem)) else s.fill i src,
        src.drop s.rem) := by
  rw [h4Part, HciRx.current, hbuf]
  simp only [ok_bind, h4Fill, bufRead_eq]
  by_cases htail : (s.pool.block i).tailroom size < (src.take s.rem).length
  · simp only [if_pos htail, error_bind]
  · simp only [if_neg htail, ok_bind, pure_eq_ok]
    rcases Nat.lt_or_ge src.length s.rem with h | h
    · rw [if_neg (show ¬ s.rem ≤ src.length by omega), List.take_of_length_le h.le,
        if_neg (by omega), List.drop_of_length_le le_rfl, List.drop_of_length_le h.le]
      rfl
    · rw [if_pos h, List.length_take_of_le h, if_pos (Nat.sub_self _)]
      simp [HciRx.fill, Nat.min_eq_left h]

/-- Without a buffer the access is through the null pointer. A reachable parser has one in every
packet. -/
theorem h4Part_null {s : HciRx n} (hbuf : s.buf = none) (src : List UInt8)
    (done : Fin n → HciRx n → HciRx n) : h4Part size s src done = .error .null := by
  rw [h4Part, HciRx.current, hbuf]
  rfl

/-- What a pass in a packet can do to the state. -/
theorem h4Part_cases {s : HciRx n} {src : List UInt8} {done : Fin n → HciRx n → HciRx n}
    {x : HciRx n × List UInt8} (h : h4Part size s src done = .ok x) :
    ∃ i read, s.buf = some i ∧ (x.1 = s.fill i read ∨ x.1 = done i (s.fill i read)) := by
  rcases hbuf : s.buf with - | i
  · cases (h4Part_null hbuf _ _).symm.trans h
  rw [h4Part_eq hbuf] at h
  split at h
  · cases h
  · cases h
    split_ifs
    · exact ⟨i, _, rfl, .inr rfl⟩
    · exact ⟨i, _, rfl, .inl rfl⟩

/-! ### The loop -/

/-- How far the states are from the start of a packet. -/
def H4State.rank : H4State → ℕ
  | type => 0 | payload => 1 | header => 2

/-- What a pass through the loop decreases: it reads an octet or goes on in the packet. -/
def h4Measure (s : HciRx n) (bytes : List UInt8) : ℕ := 3 * bytes.length + s.state.rank

/-- A state is at most two steps from the start of a packet. -/
theorem H4State.rank_le (state : H4State) : state.rank ≤ 2 := by
  cases state <;> decide

/-- The end of a header goes on, whether or not there is a payload. -/
theorem h4HeaderEnd_rank (i : Fin n) (s : HciRx n) : (h4HeaderEnd i s).state.rank < 2 := by
  simp only [h4HeaderEnd]
  split_ifs
  · exact Nat.zero_lt_two
  · exact Nat.one_lt_two

/-- A pass in a packet decreases the measure: it reads octets, or nothing is missing and it moves
on. -/
theorem h4Part_measure {s s' : HciRx n} {b : UInt8} {bs rest : List UInt8}
    {done : Fin n → HciRx n → HciRx n} (hdone : ∀ i t, (done i t).state.rank < s.state.rank)
    (h : h4Part size s (b :: bs) done = .ok (s', rest)) :
    h4Measure s' rest < h4Measure s (b :: bs) := by
  rcases hbuf : s.buf with - | i
  · cases (h4Part_null hbuf _ _).symm.trans h
  rw [h4Part_eq hbuf] at h
  split at h
  · cases h
  obtain ⟨hs', hrest⟩ := Prod.mk.inj (Except.ok.inj h)
  rw [h4Measure, h4Measure, ← hrest, List.length_drop]
  have hrank := s'.state.rank_le
  split_ifs at hs' with hrem
  · have hlt := hdone i (s.fill i ((b :: bs).take s.rem))
    rw [hs'] at hlt
    omega
  -- the whole window was read
  · have hsame : s'.state = s.state := by
      rw [← hs']
      rfl
    rw [hsame]
    simp only [List.length_cons] at hrem ⊢
    omega

/-- **Every pass decreases the measure**, so the loop ends. -/
theorem h4Iter_measure {s s' : HciRx n} {b : UInt8} {bs rest : List UInt8}
    (h : h4Iter size s b bs = .ok (s', rest)) : h4Measure s' rest < h4Measure s (b :: bs) := by
  rw [h4Iter] at h
  split at h
  · obtain ⟨t, -, h⟩ := bind_eq_ok.1 h
    cases h
    have hrank := s'.state.rank_le
    simp only [h4Measure, List.length_cons]
    omega
  · rename_i hstate
    refine h4Part_measure (fun i t ↦ ?_) h
    rw [hstate]
    exact h4HeaderEnd_rank i t
  · rename_i hstate
    refine h4Part_measure (fun i t ↦ ?_) h
    rw [hstate]
    exact Nat.one_pos

/-- The loop of `h4_read` on a window. -/
def h4Loop (size : ℕ) (s : HciRx n) (bytes : List UInt8) : Except RxFault (HciRx n) :=
  match bytes with
  | [] => .ok s
  | b :: bs =>
    match _h : h4Iter size s b bs with
    | .error e => .error e
    | .ok (s', rest) => h4Loop size s' rest
termination_by h4Measure s bytes
decreasing_by exact h4Iter_measure _h

/-- The octets `data[offset]` to `data[offset + len - 1]`. -/
def window (data : ℕ → UInt8) (offset len : ℕ) : List UInt8 :=
  (List.range len).map fun k ↦ data (offset + k)

/-- `h4_read`, on `len` octets from an offset on. -/
def h4Read (size : ℕ) (data : ℕ → UInt8) (offset len : ℕ) (s : HciRx n) :
    Except RxFault (HciRx n) :=
  h4Loop size s (window data offset len)

@[simp] theorem h4Loop_nil (s : HciRx n) : h4Loop size s [] = .ok s := by
  rw [h4Loop]

theorem h4Loop_cons (s : HciRx n) (b : UInt8) (bs : List UInt8) :
    h4Loop size s (b :: bs) = h4Iter size s b bs >>= fun x ↦ h4Loop size x.1 x.2 := by
  rw [h4Loop]
  split
  · rename_i e he
    rw [he]
    rfl
  · rename_i s' rest hs
    rw [hs]
    rfl

/-- **Induction on the passes of the loop.** A statement about a state and a window follows when
it holds of the empty window, and of a window whenever it holds after the pass that the window
begins with. -/
theorem h4_induction (size : ℕ) {P : HciRx n → List UInt8 → Prop} (nil : ∀ s, P s [])
    (cons : ∀ s b bs, (∀ s' rest, h4Iter size s b bs = .ok (s', rest) → P s' rest) →
      P s (b :: bs)) (s : HciRx n) (bytes : List UInt8) : P s bytes := by
  induction hm : h4Measure s bytes using Nat.strong_induction_on generalizing s bytes with
  | h m ih =>
    cases bytes with
    | nil => exact nil s
    | cons b bs =>
      refine cons s b bs fun s' rest h ↦ ih _ ?_ s' rest rfl
      rw [← hm]
      exact h4Iter_measure h

/-! ### A window can end anywhere -/

/-- A pass that completes its part does not look further. -/
theorem h4Part_append {s : HciRx n} {src : List UInt8} (hrem : s.rem ≤ src.length)
    (src' : List UInt8) (done : Fin n → HciRx n → HciRx n) :
    h4Part size s (src ++ src') done =
      h4Part size s src done >>= fun x ↦ .ok (x.1, x.2 ++ src') := by
  rcases hbuf : s.buf with - | i
  · rw [h4Part_null hbuf, h4Part_null hbuf]
    rfl
  · have hle : s.rem ≤ (src ++ src').length := by
      rw [List.length_append]
      omega
    rw [h4Part_eq hbuf, h4Part_eq hbuf, List.take_append_of_le_length hrem,
      List.drop_append_of_le_length hrem, if_pos hrem, if_pos hle]
    split <;> rfl

/-- A pass that runs out of octets goes on in the next window as if there had been none. -/
theorem h4Part_short {s : HciRx n} {src : List UInt8} (hrem : src.length < s.rem)
    (src' : List UInt8) (done : Fin n → HciRx n → HciRx n) :
    h4Part size s (src ++ src') done =
      h4Part size s src done >>= fun x ↦ h4Part size x.1 src' done := by
  rcases hbuf : s.buf with - | i
  · rw [h4Part_null hbuf, h4Part_null hbuf]
    rfl
  · rw [h4Part_eq hbuf, h4Part_eq hbuf, if_neg (show ¬ s.rem ≤ src.length by omega)]
    rw [List.take_of_length_le hrem.le, List.take_append, List.drop_append,
      List.take_of_length_le hrem.le, List.drop_of_length_le hrem.le, List.nil_append]
    by_cases htail : (s.pool.block i).tailroom size < src.length
    · rw [if_pos htail, if_pos (by rw [List.length_append]; omega)]
      rfl
    · have hbuf' : (s.fill i src).buf = some i := hbuf
      rw [if_neg htail, ok_bind, h4Part_eq hbuf']
      have hpart : (s.fill i src).rem = s.rem - src.length := rfl
      have htailroom : ((s.fill i src).pool.block i).tailroom size =
          (s.pool.block i).tailroom size - src.length := by
        simp [HciRx.fill, NetBuf.tailroom, Nat.sub_sub]
      rw [hpart, htailroom, HciRx.fill_fill, HciRx.fill_fill]
      have hiff : s.rem ≤ (src ++ src').length ↔ s.rem - src.length ≤ src'.length := by
        rw [List.length_append]
        omega
      have htake : (s.pool.block i).tailroom size < (src ++ src'.take (s.rem - src.length)).length ↔
          (s.pool.block i).tailroom size - src.length <
            (src'.take (s.rem - src.length)).length := by
        rw [List.length_append]
        omega
      simp only [hiff, htake]

/-- A pass that runs out of octets stays in its part, and leaves nothing of the window. -/
theorem h4Part_short_ok {s : HciRx n} {src : List UInt8} (hrem : src.length < s.rem)
    {done : Fin n → HciRx n → HciRx n} {x : HciRx n × List UInt8}
    (h : h4Part size s src done = .ok x) : x.2 = [] ∧ x.1.state = s.state := by
  rcases hbuf : s.buf with - | i
  · cases (h4Part_null hbuf _ _).symm.trans h
  rw [h4Part_eq hbuf, if_neg (show ¬ s.rem ≤ src.length by omega)] at h
  split at h
  · cases h
  · cases h
    exact ⟨List.drop_of_length_le hrem.le, rfl⟩

/-- The pass that goes with a state in a packet. -/
theorem h4Iter_part (size : ℕ) {s : HciRx n} (h : s.state ≠ .type) :
    ∃ done : Fin n → HciRx n → HciRx n, ∀ t : HciRx n, t.state = s.state → ∀ b bs,
      h4Iter size t b bs = h4Part size t (b :: bs) done := by
  rcases hs : s.state with _ | _ | _
  · exact absurd hs h
  · refine ⟨h4HeaderEnd, fun t ht b bs ↦ ?_⟩
    rw [h4Iter, ht]
  · refine ⟨h4Put, fun t ht b bs ↦ ?_⟩
    rw [h4Iter, ht]

/-- **The loop does not see where a window ends.** What it does on two windows, one after the
other, is what it does on one; so no cutting of the stream can be told from another. -/
theorem h4Loop_append (s : HciRx n) (src src' : List UInt8) :
    h4Loop size s (src ++ src') = h4Loop size s src >>= fun t ↦ h4Loop size t src' := by
  induction s, src using h4_induction size with
  | nil s =>
    rw [List.nil_append, h4Loop_nil, ok_bind]
  | cons s b bs ih =>
    rw [List.cons_append, h4Loop_cons, h4Loop_cons, bind_assoc]
    by_cases hstate : s.state = .type
    · have hiter (bs : List UInt8) : h4Iter size s b bs = h4Type b s >>= fun t ↦ .ok (t, bs) := by
        rw [h4Iter, hstate]
        rfl
      rw [hiter] at ih
      rw [hiter, hiter]
      rcases ht : h4Type b s with e | t
      · rfl
      · exact ih t bs (by rw [ht]; rfl)
    · obtain ⟨done, hiter⟩ := h4Iter_part size hstate
      rw [hiter s rfl] at ih
      rw [hiter s rfl, hiter s rfl, ← List.cons_append]
      rcases Nat.lt_or_ge (b :: bs).length s.rem with hrem | hrem
      -- the window ends in the middle of a part
      · cases src' with
        | nil =>
          rw [List.append_nil]
          rcases hx : h4Part size s (b :: bs) done with e | x
          · rfl
          · rw [ok_bind, ok_bind, (h4Part_short_ok hrem hx).1, h4Loop_nil, ok_bind,
              h4Loop_nil]
        | cons b' bs' =>
          rw [h4Part_short hrem]
          rcases hx : h4Part size s (b :: bs) done with e | x
          · rfl
          · obtain ⟨hrest, hstate'⟩ := h4Part_short_ok hrem hx
            rw [ok_bind, ok_bind, hrest, h4Loop_nil, ok_bind, h4Loop_cons,
              hiter x.1 hstate']
      · rw [h4Part_append hrem, bind_assoc]
        rcases hx : h4Part size s (b :: bs) done with e | x
        · rfl
        · exact ih x.1 x.2 hx

/-! ### The UART callback -/

/-- What `h4_read` is called with. -/
structure RxWindow where
  data : ℕ → UInt8
  offset : ℕ
  len : ℕ

namespace RxWindow

/-- The octets of a window. -/
def bytes (w : RxWindow) : List UInt8 := window w.data w.offset w.len

/-- One window that holds a whole sequence of octets. -/
def ofBytes (bytes : List UInt8) : RxWindow := ⟨(bytes.getD · 0), 0, bytes.length⟩

@[simp] theorem bytes_ofBytes (bytes : List UInt8) : (ofBytes bytes).bytes = bytes := by
  refine List.ext_getElem (by simp [RxWindow.bytes, window, ofBytes]) fun k hk hk' ↦ ?_
  simp [RxWindow.bytes, window, ofBytes, hk']

end RxWindow

/-- The case `UART_RX_RDY` of `uart_cb`. -/
def uartRxRdy (size : ℕ) (s : HciRx n) (w : RxWindow) : Except RxFault (HciRx n) :=
  h4Read size w.data w.offset w.len s

/-- The callback is the loop on the octets of the window. -/
theorem uartRxRdy_eq (size : ℕ) (s : HciRx n) (w : RxWindow) :
    uartRxRdy size s w = h4Loop size s w.bytes := rfl

/-- The buffer that the parser has: one from the type octet of a packet to its end. -/
def HciRx.held (s : HciRx n) : List (Fin n) := if s.state = .type then [] else s.buf.toList

/-- The receive side at power-on, all its buffers free. -/
def HciRx.powerOn (n : ℕ) : HciRx n where
  state := .type
  type := 0
  rem := 0
  buf := none
  pool := ⟨fun _ ↦ ⟨0, fun _ ↦ 0, 0⟩, List.finRange n⟩
  queue := []

end DirectTestMode.HciUart
