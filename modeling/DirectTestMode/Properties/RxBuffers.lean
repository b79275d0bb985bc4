import DirectTestMode.Properties.Tailroom

/-!
# The receive buffers

A buffer of `hci_rx_buf` is taken by the parser, goes through the queue to the main thread and is to
be released there. `HciSystem.Conserving` says that no buffer got lost on this way and none was
released twice. Every step keeps it but one: `dtm_tr_process` returns without a release when the
packet is no command, so the run keeps it exactly when the main thread meets commands only.

Where the buffers are conserved, `net_buf_alloc` fails only when all of them wait for the main
thread.

## Equivalences at every level

A result with "exactly" needs each step to be shown in both directions: a step that loses no buffer
must not repair a loss either. So the lemmas about the parser are equivalences (`h4Iter_conserving`,
`h4Loop_conserving`), and `HciSystem.step_conserving` says when a step **keeps** conservation, given
that it holds before. The run is then the rule for guarded runs, over every prefix, since a lost
buffer stays lost.

`others` stands for the buffers that are in use outside the parser. For this system it is the one
that the main thread has; the application core of the split firmware instantiates it as well.

## The defect is a loss for good

Nothing gives a lost buffer back, so the pool shrinks by one for each data packet (`data_packet`),
and as many as there are buffers stop the reception at the next packet (`data_packets_exhaust`),
though at most one packet waits at any time. The induction there is on the number of free buffers,
for a pool of any size. `acl_buffer_lost` is the case of sixteen.
-/

namespace DirectTestMode.HciUart

open Fallible

variable {n q : ℕ}

/-! ### The parser -/

/-- Every buffer is free, with the parser, in the queue or one of `others`, and only once. -/
def HciRx.Conserving (others : List (Fin n)) (s : HciRx n) : Prop :=
  s.pool.Conserved (s.held ++ (others ++ s.queue))

variable {others : List (Fin n)} {s s' : HciRx n} {i : Fin n}

theorem HciRx.held_type (h : s.state = .type) : s.held = [] := by
  rw [held, if_pos h]

theorem HciRx.held_buf (h : s.state ≠ .type) (hbuf : s.buf = some i) : s.held = [i] := by
  rw [held, if_neg h, hbuf]
  rfl

/-- The type octet of a packet takes a buffer from the pool. -/
theorem h4Type_conserving (hstate : s.state = .type) {b : UInt8} (h : h4Type b s = .ok s') :
    s'.Conserving others ↔ s.Conserving others := by
  rw [h4Type] at h
  split_ifs at h
  · split at h
    · cases h
    · rename_i i pool halloc
      cases h
      rw [HciRx.Conserving, HciRx.Conserving, HciRx.held_buf (i := i) (by simp) rfl,
        HciRx.held_type hstate, Pool.conserved_write]
      exact Pool.conserved_alloc halloc
  · cases h
    exact Iff.rfl

/-- A read into the buffer moves no buffer. -/
theorem HciRx.fill_conserving (src : List UInt8) :
    (s.fill i src).Conserving others ↔ s.Conserving others := Iff.rfl

/-- `dtm_hci_put` moves the buffer from the parser to the queue. -/
theorem h4Put_conserving (hstate : s.state ≠ .type) (hbuf : s.buf = some i) :
    (h4Put i s).Conserving others ↔ s.Conserving others := by
  refine Pool.conserved_congr (List.Perm.append_left _ ?_)
  rw [HciRx.held_buf hstate hbuf, HciRx.held_type (s := h4Put i s) rfl]
  show (others ++ (s.queue ++ [i])).Perm (i :: (others ++ s.queue))
  rw [← List.append_assoc]
  exact List.perm_append_singleton i _

/-- The end of a header moves the buffer to the queue, or leaves it with the parser. -/
theorem h4HeaderEnd_conserving (hstate : s.state ≠ .type) (hbuf : s.buf = some i) :
    (h4HeaderEnd i s).Conserving others ↔ s.Conserving others := by
  let t : HciRx n := { s with rem := hciPldLen s.type (s.pool.block i).mem, state := .payload }
  have ht : t.Conserving others ↔ s.Conserving others := by
    rw [HciRx.Conserving, HciRx.Conserving, HciRx.held_buf hstate hbuf,
      HciRx.held_buf (s := t) (by simp [t]) hbuf]
  rw [h4HeaderEnd]
  simp only
  split_ifs
  · exact (h4Put_conserving (s := t) (by simp [t]) hbuf).trans ht
  · exact ht

/-- A pass in a packet, when what ends its part moves no buffer out of sight. -/
theorem h4Part_conserving {src : List UInt8} {done : Fin n → HciRx n → HciRx n}
    (hstate : s.state ≠ .type)
    (hdone : ∀ i (t : HciRx n), t.state ≠ .type → t.buf = some i →
      ((done i t).Conserving others ↔ t.Conserving others))
    {x : HciRx n × List UInt8} (h : h4Part q s src done = .ok x) :
    x.1.Conserving others ↔ s.Conserving others := by
  obtain ⟨i, read, hbuf, heq | heq⟩ := h4Part_cases h
  · rw [heq]
    exact HciRx.fill_conserving read
  · rw [heq]
    exact hdone i _ hstate hbuf

/-- **A pass through the loop.** -/
theorem h4Iter_conserving {b : UInt8} {bs : List UInt8} {x : HciRx n × List UInt8}
    (h : h4Iter q s b bs = .ok x) : x.1.Conserving others ↔ s.Conserving others := by
  rcases hstate : s.state with _ | _ | _
  · rw [h4Iter, hstate] at h
    obtain ⟨t, ht, h⟩ := bind_eq_ok.1 h
    cases h
    exact h4Type_conserving hstate ht
  · rw [h4Iter, hstate] at h
    exact h4Part_conserving (by simp [hstate]) (fun _ _ ↦ h4HeaderEnd_conserving) h
  · rw [h4Iter, hstate] at h
    exact h4Part_conserving (by simp [hstate]) (fun _ _ ↦ h4Put_conserving) h

/-- **A window**, by induction on the passes. -/
theorem h4Loop_conserving {src : List UInt8} (h : h4Loop q s src = .ok s') :
    s'.Conserving others ↔ s.Conserving others := by
  induction s, src using h4_induction q with
  | nil s =>
    rw [h4Loop_nil] at h
    cases h
    rfl
  | cons s b bs ih =>
    rw [h4Loop_cons] at h
    obtain ⟨x, hx, h⟩ := bind_eq_ok.1 h
    exact (ih x.1 x.2 hx h).trans (h4Iter_conserving hx)

/-- The parser only appends to the queue. -/
theorem h4Iter_queue {b : UInt8} {bs : List UInt8} {x : HciRx n × List UInt8}
    (h : h4Iter q s b bs = .ok x) : s.queue.length ≤ x.1.queue.length := by
  have hput (i : Fin n) (t : HciRx n) : t.queue.length ≤ (h4Put i t).queue.length :=
    (List.prefix_append t.queue [i]).length_le
  rw [h4Iter] at h
  split at h
  · obtain ⟨t, ht, h⟩ := bind_eq_ok.1 h
    cases h
    rw [h4Type] at ht
    split_ifs at ht
    · split at ht <;> cases ht
      exact le_rfl
    · cases ht
      exact le_rfl
  · obtain ⟨i, read, -, heq | heq⟩ := h4Part_cases h <;> rw [heq]
    · exact le_rfl
    · rw [h4HeaderEnd]
      simp only
      split_ifs
      · exact hput i _
      · exact le_rfl
  · obtain ⟨i, read, -, heq | heq⟩ := h4Part_cases h <;> rw [heq]
    · exact le_rfl
    · exact hput i _

theorem h4Loop_queue {src : List UInt8} (h : h4Loop q s src = .ok s') :
    s.queue.length ≤ s'.queue.length := by
  induction s, src using h4_induction q with
  | nil s =>
    rw [h4Loop_nil] at h
    cases h
    exact le_rfl
  | cons s b bs ih =>
    rw [h4Loop_cons] at h
    obtain ⟨x, hx, h⟩ := bind_eq_ok.1 h
    exact (h4Iter_queue hx).trans (ih x.1 x.2 hx h)

/-! ### Where the pool is empty -/

/-- On one octet `net_buf_alloc` fails at the start of a packet only, and when no buffer is free. -/
theorem h4Loop_octet_noBuffer (hs : s.Ready q) {b : UInt8}
    (h : h4Loop q s [b] = .error .noBuffer) : s.state = .type ∧ s.pool.free = [] := by
  -- in a packet, an octet is appended or the assertion of `buf_read` fails
  have hpart {i : Fin n} (done : Fin n → HciRx n → HciRx n) (hbuf : s.buf = some i)
      (hrem : 0 < s.rem) :
      (h4Part q s [b] done >>= fun x ↦ h4Loop q x.1 x.2) ≠ .error .noBuffer := by
    rw [h4Part_eq hbuf, List.drop_of_length_le (show [b].length ≤ s.rem from hrem)]
    split <;> simp
  rcases hstate : s.state with _ | _ | _
  · refine ⟨rfl, ?_⟩
    rw [h4Loop_type hstate] at h
    rcases bind_eq_error.1 h with h | ⟨t, -, h⟩
    · rw [h4Type] at h
      split_ifs at h
      split at h
      · exact Pool.alloc_eq_none.1 ‹_›
      · cases h
    · rw [h4Loop_nil] at h
      cases h
  · rw [HciRx.Ready, hstate] at hs
    obtain ⟨i, hbuf, hrem, -⟩ := hs
    rw [h4Loop_header hstate (List.cons_ne_nil b [])] at h
    exact (hpart _ hbuf hrem h).elim
  · rw [HciRx.Ready, hstate] at hs
    obtain ⟨i, hbuf, hrem, -⟩ := hs
    rw [h4Loop_payload hstate (List.cons_ne_nil b [])] at h
    exact (hpart _ hbuf hrem h).elim

/-- **`net_buf_alloc` fails in a window** where some octets of it leave the parser at the start of a
packet and no buffer free. -/
theorem h4Loop_noBuffer (hs : s.Ready q) {src : List UInt8}
    (h : h4Loop q s src = .error .noBuffer) :
    ∃ k t, h4Loop q s (src.take k) = .ok t ∧ t.state = .type ∧ t.pool.free = [] := by
  induction src generalizing s with
  | nil =>
    rw [h4Loop_nil] at h
    cases h
  | cons b bs ih =>
    have hsplit (bs : List UInt8) : h4Loop q s (b :: bs) =
        h4Loop q s [b] >>= fun t ↦ h4Loop q t bs := h4Loop_append s [b] bs
    rw [hsplit] at h
    rcases bind_eq_error.1 h with h | ⟨t, ht, h⟩
    · exact ⟨0, s, h4Loop_nil s, h4Loop_octet_noBuffer hs h⟩
    · obtain ⟨k, u, hu, hempty⟩ := ih ((h4Loop_fits hs [b]).1 t ht).ready h
      exact ⟨k + 1, u, by rw [List.take_succ_cons, hsplit, ht]; exact hu, hempty⟩

end DirectTestMode.HciUart

namespace DirectTestMode.HciSystem

open Fallible HciUart
open DirectTestMode.Hci (h4TypeCmd)

variable {n q : ℕ} {b : Build}

/-! ### The system -/

/-- No receive buffer is lost and none was released twice. -/
def Conserving (s : HciSystem n) : Prop := s.rx.Conserving s.cmd.toList

/-- When the main thread processes a packet, it is a command. -/
def Releases (s : HciSystem n) (i : HciInput) : Prop :=
  i = .process → ∀ j, s.cmd = some j → (s.rx.pool.block j).isCmd = true

/-- Fewer than `n` packets wait for the main thread, after each octet of a window. -/
def FewWaiting (q : ℕ) (s : HciSystem n) (i : HciInput) : Prop :=
  ∀ w k rx, i = .uartRx w → h4Loop q s.rx (w.bytes.take k) = .ok rx →
    s.cmd.toList.length + rx.queue.length < n

/-- **A step keeps the buffers exactly when it releases the one it is done with.** -/
theorem step_conserving {s s' : HciSystem n} {i : HciInput} (h : s.step b q i = .ok s')
    (hs : s.Conserving) : s'.Conserving ↔ s.Releases i := by
  cases bufferStep h with
  | uartRx hrx => exact iff_of_true ((h4Loop_conserving hrx).2 hs) (by rintro ⟨⟩)
  | wait => exact iff_of_true hs (by rintro ⟨⟩)
  | get hcmd hqueue =>
    refine iff_of_true ?_ (by rintro ⟨⟩)
    rw [Conserving, HciRx.Conserving, hcmd, hqueue] at hs
    exact hs
  | nothing hcmd => exact iff_of_true hs fun _ j hj ↦ by simp [hcmd] at hj
  | @process j hcmd f =>
    have hperm : (j :: (s.rx.held ++ s.rx.queue)).Perm (s.rx.held ++ ([j] ++ s.rx.queue)) :=
      List.perm_middle.symm
    have hcons : s.rx.pool.Conserved (j :: (s.rx.held ++ s.rx.queue)) := by
      rw [Conserving, HciRx.Conserving, hcmd] at hs
      exact hs.perm hperm
    have hreleases : s.Releases .process ↔ (s.rx.pool.block j).isCmd = true :=
      ⟨fun h ↦ h rfl j hcmd, fun h _ k hk ↦ by rw [Option.some.inj (hk.symm.trans hcmd)]; exact h⟩
    rw [hreleases]
    split_ifs with hcmd'
    · exact iff_of_true (Pool.conserved_release.2 hcons) hcmd'
    · exact iff_of_false hcons.not_lost hcmd'
  | other hrx hprocess f => exact iff_of_true hs fun h ↦ (hprocess h).elim

/-- A data packet is turned away, and its buffer forgotten. -/
theorem step_process_data {s : HciSystem n} {j : Fin n} (hcmd : s.cmd = some j)
    (hdata : ¬ (s.rx.pool.block j).isCmd = true) :
    s.step b q .process = .ok { s with cmd := none } := by
  have htype : (s.rx.pool.block j).userData ≠ h4TypeCmd := fun h ↦ hdata (by simp [NetBuf.isCmd, h])
  have hfirmware : s.firmware.process b q (s.rx.pool.block j).userData (s.rx.pool.block j).mem =
      .ok (.err .enotsup, s.firmware) := by
    rw [Firmware.process, Hci.dtmTrProcess, if_neg htype]
    rfl
  rw [step, dtmTrProcess, hcmd]
  simp only [hfirmware, ok_bind, if_neg hdata]
  rfl

/-- What a step has to do for the buffers to be conserved. -/
theorem step_conserving_iff {s : HciSystem n} {i : HciInput} (hs : s.Conserving) :
    (∀ s', s.step b q i = .ok s' → s'.Conserving) ↔ s.Releases i := by
  constructor
  · rintro hall rfl j hcmd
    by_contra hdata
    have hstep := step_process_data (b := b) (q := q) hcmd hdata
    exact hdata ((step_conserving hstep hs).1 (hall _ hstep) rfl j hcmd)
  · exact fun hreleases s' h ↦ (step_conserving h hs).2 hreleases

/-- While the buffers are conserved and few packets wait, the parser finds a free one. -/
theorem step_not_noBuffer {s : HciSystem n} {i : HciInput} (hready : s.rx.Ready q)
    (hs : s.Conserving) (hfew : s.FewWaiting q i) : s.step b q i ≠ .error (.rx .noBuffer) := by
  intro h
  obtain ⟨w, rfl, hrx⟩ := step_eq_rx.1 h
  obtain ⟨k, t, ht, hstate, hfree⟩ := h4Loop_noBuffer hready hrx
  have hwait := hfew w k t rfl ht
  have hlength := ((h4Loop_conserving ht).2 hs).length
  rw [HciRx.held_type hstate, hfree, Fintype.card_fin] at hlength
  simp only [List.length_nil, List.nil_append, List.length_append] at hlength
  omega

/-- At power-on every buffer is free. -/
theorem Initial.conserving {s : HciSystem n} (hs : s.Initial b) : s.Conserving := by
  intro i
  rw [hs.1, hs.2.1]
  exact List.count_eq_one_of_mem (by simpa [HciRx.powerOn, HciRx.held] using List.nodup_finRange n)
    (by simp [HciRx.powerOn])

/-- **The receive buffers are conserved exactly in the runs in which the main thread processes
commands only.** Where they are, and few packets wait, `net_buf_alloc` does not fail. -/
theorem rx_buffers_conserved_iff {s : HciSystem n} (hs : s.Initial b) (is : List HciInput) :
    ((∀ k s', Fallible.run (step b q) s (is.take k) = .ok s' → s'.Conserving) ∧
        (Guarded (step b q) (FewWaiting q) s is →
          Fallible.run (step b q) s is ≠ .error (.rx .noBuffer))) ↔
      Guarded (step b q) Releases s is := by
  have hready : s.rx.Ready q := by
    rw [hs.1]
    trivial
  have hstep (s : HciSystem n) (i : HciInput) (s' : HciSystem n)
      (hI : s.rx.Ready q ∧ s.Conserving) (hC : s.Releases i) (h : s.step b q i = .ok s') :
      s'.rx.Ready q ∧ s'.Conserving :=
    ⟨((step_fits hI.1).1 s' h).ready, (step_conserving h hI.2).2 hC⟩
  have hconserving : (∀ k s', Fallible.run (step b q) s (is.take k) = .ok s' → s'.Conserving) ↔
      Guarded (step b q) Releases s is := by
    rw [Guarded.forall_take_iff]
    refine (and_iff_right hs.conserving).trans ?_
    exact Guarded.congr hstep (fun s i hI ↦ step_conserving_iff hI.2) ⟨hready, hs.conserving⟩
  refine (and_iff_left_of_imp fun hall hfew ↦ ?_).trans hconserving
  exact ((hconserving.1 hall).and hfew).not_fault (fun s i s' hI hC ↦ hstep s i s' hI hC.1)
    (fun s i hI hC ↦ step_not_noBuffer hI.1 hI.2 hC.2) ⟨hready, hs.conserving⟩

/-! ### Data packets -/

/-- A packet with nothing behind it. -/
theorem h4Loop_serialise {s : HciRx n} (hstate : s.state = .type) {i : Fin n}
    {pool : Pool (Fin n) NetBuf} (halloc : s.pool.alloc = some (i, pool)) (p : H4Packet)
    (hsize : p.content.length ≤ q) : h4Loop q s p.serialise = .ok (s.receive i pool p) := by
  rw [← List.append_nil p.serialise, h4Loop_packet hstate halloc p hsize, h4Loop_nil]

/-- A packet that comes in one window. -/
theorem step_packet {s : HciSystem n} (hstate : s.rx.state = .type) {i : Fin n}
    {pool : Pool (Fin n) NetBuf} (halloc : s.rx.pool.alloc = some (i, pool)) (p : H4Packet)
    (hsize : p.content.length ≤ q) :
    s.step b q (.uartRx (.ofBytes p.serialise)) =
      .ok { s with rx := s.rx.receive i pool p } := by
  rw [step, uartRxRdy_eq, RxWindow.bytes_ofBytes, h4Loop_serialise hstate halloc p hsize]

/-- The inputs that bring a packet to its end before the next one comes. -/
def packetInputs (p : H4Packet) : List HciInput :=
  [.uartRx (.ofBytes p.serialise), .get, .process]

/-- The state after a data packet: its buffer is nowhere. -/
def afterData (s : HciSystem n) (i : Fin n) (pool : Pool (Fin n) NetBuf) (p : H4Packet) :
    HciSystem n :=
  { s with rx := { s.rx.receive i pool p with queue := [] } }

/-- While a packet arrives, no more packets wait than when it has arrived. -/
theorem fewWaiting_packet {s : HciSystem n} (hstate : s.rx.state = .type) (hcmd : s.cmd = none)
    (hqueue : s.rx.queue = []) {i : Fin n} {pool : Pool (Fin n) NetBuf}
    (halloc : s.rx.pool.alloc = some (i, pool)) {p : H4Packet} (hsize : p.content.length ≤ q)
    (hn : 1 < n) : s.FewWaiting q (.uartRx (.ofBytes p.serialise)) := by
  rintro w k rx ⟨⟩ hrx
  rw [RxWindow.bytes_ofBytes] at hrx
  have hloop : h4Loop q rx (p.serialise.drop k) = .ok (s.rx.receive i pool p) := by
    rw [← h4Loop_serialise hstate halloc p hsize, ← List.take_append_drop k p.serialise,
      h4Loop_append, hrx, List.take_append_drop]
    rfl
  have hle := h4Loop_queue hloop
  rw [HciRx.receive, hqueue] at hle
  rw [hcmd]
  simp at hle ⊢
  omega

/-- **A data packet costs a buffer.** -/
theorem data_packet {s : HciSystem n} (hstate : s.rx.state = .type) (hcmd : s.cmd = none)
    (hqueue : s.rx.queue = []) {i : Fin n} {pool : Pool (Fin n) NetBuf}
    (halloc : s.rx.pool.alloc = some (i, pool)) {p : H4Packet} (hdata : p.type ≠ h4TypeCmd)
    (hsize : p.content.length ≤ q) (is : List HciInput) :
    Fallible.run (step b q) s (packetInputs p ++ is) =
        Fallible.run (step b q) (s.afterData i pool p) is ∧
      (1 < n → Guarded (step b q) (FewWaiting q) (s.afterData i pool p) is →
        Guarded (step b q) (FewWaiting q) s (packetInputs p ++ is)) := by
  let t : HciSystem n := { s with rx := s.rx.receive i pool p }
  let u : HciSystem n := { t with cmd := some i, rx := { t.rx with queue := [] } }
  have hrx : s.step b q (.uartRx (.ofBytes p.serialise)) = .ok t :=
    step_packet hstate halloc p hsize
  have hget : t.step b q .get = .ok u := by
    have hone : t.rx.queue = [i] := by
      show s.rx.queue ++ [i] = [i]
      rw [hqueue, List.nil_append]
    rw [step, dtmTrGet, show t.cmd = none from hcmd, hone]
  have hprocess : u.step b q .process = .ok (s.afterData i pool p) := by
    have hblock : u.rx.pool.block i = ((pool.block i).reset p.type).addMem p.content :=
      Pool.write_block_self _ _ _
    have h := step_process_data (s := u) (b := b) (q := q) rfl
      (by simpa [hblock, NetBuf.isCmd] using hdata)
    rw [h, afterData, ← hcmd]
  rw [packetInputs, List.cons_append, List.cons_append, List.cons_append, List.nil_append]
  constructor
  · rw [run_cons, hrx, ok_bind, run_cons, hget, ok_bind, run_cons, hprocess, ok_bind]
  · intro hn hg
    rw [Guarded.cons_ok hrx, Guarded.cons_ok hget, Guarded.cons_ok hprocess]
    exact ⟨fewWaiting_packet hstate hcmd hqueue halloc hsize hn, by rintro w k rx ⟨⟩,
      by rintro w k rx ⟨⟩, hg⟩

/-- **As many data packets as there are free buffers stop the reception** at the next packet, though
at most one of them waits at any time. -/
theorem data_packets_exhaust (hn : 1 < n) {p : H4Packet} (hdata : p.type ≠ h4TypeCmd)
    (hsize : p.content.length ≤ q) {type : UInt8} (htype : h4RxType type = true)
    {s : HciSystem n} (hstate : s.rx.state = .type) (hcmd : s.cmd = none)
    (hqueue : s.rx.queue = []) {is : List HciInput}
    (his : is = (List.replicate s.rx.pool.free.length (packetInputs p)).flatten ++
      [.uartRx (.ofBytes [type])]) :
    Guarded (step b q) (FewWaiting q) s is ∧
      Fallible.run (step b q) s is = .error (.rx .noBuffer) := by
  subst his
  induction hfree : s.rx.pool.free generalizing s with
  | nil =>
    have halloc : s.rx.pool.alloc = none := Pool.alloc_eq_none.2 hfree
    -- no buffer is left, and the next packet type asks for one
    have hloop : h4Loop q s.rx [type] = .error .noBuffer := by
      rw [h4Loop_type hstate, h4Type, if_pos htype]
      simp only [halloc, error_bind]
    constructor
    · refine ⟨?_, fun _ _ ↦ trivial⟩
      rintro w k rx ⟨⟩ hrx
      rw [RxWindow.bytes_ofBytes] at hrx
      cases k with
      | zero =>
        cases (h4Loop_nil s.rx).symm.trans hrx
        simp only [hcmd, hqueue, Option.toList_none, List.length_nil]
        omega
      | succ k =>
        rw [List.take_succ_cons, List.take_nil, hloop] at hrx
        cases hrx
    · show Fallible.run (step b q) s ([RxWindow.ofBytes [type]].map .uartRx) = _
      refine run_uartRx_error ?_
      rw [run_cons, uartRxRdy_eq, RxWindow.bytes_ofBytes, hloop, error_bind]
  | cons i free ih =>
    let pool : Pool (Fin n) NetBuf := { s.rx.pool with free := free }
    have halloc : s.rx.pool.alloc = some (i, pool) := Pool.alloc_eq_some.2 ⟨hfree, rfl⟩
    -- one packet takes one buffer, and the rest is the induction hypothesis
    obtain ⟨hrun, hguard⟩ := data_packet (b := b) hstate hcmd hqueue halloc hdata hsize
      ((List.replicate free.length (packetInputs p)).flatten ++ [.uartRx (.ofBytes [type])])
    obtain ⟨hg, herror⟩ := ih (s := s.afterData i pool p) rfl hcmd rfl rfl
    rw [List.length_cons, List.replicate_succ, List.flatten_cons, List.append_assoc]
    exact ⟨hguard hn hg, hrun.trans herror⟩

/-- A Test End command in the first state. -/
theorem process_testEnd (mem : ℕ → UInt8) (h0 : mem 0 = 0x1F) (h1 : mem 1 = 0x20) :
    ∃ x, nrf5340.firmware.process (.nrf5340 true false) 1024 h4TypeCmd mem = .ok x := by
  rw [Firmware.process, Hci.dtmTrProcess, if_pos rfl, h0, h1]
  exact ⟨_, rfl⟩

/-- A Test End command gives its buffer back. -/
theorem rx_buffers_conserved_iff_testEnd :
    ∃ s', Fallible.run (step (.nrf5340 true false) 1024) nrf5340 (packetInputs testEndPacket) =
        .ok s' ∧
      s'.Conserving := by
  obtain ⟨i, pool, halloc⟩ : ∃ i pool, nrf5340.rx.pool.alloc = some (i, pool) := ⟨_, _, rfl⟩
  let t : HciSystem 16 := { nrf5340 with rx := nrf5340.rx.receive i pool testEndPacket }
  let u : HciSystem 16 := { t with cmd := some i, rx := { t.rx with queue := [] } }
  have hrx : nrf5340.step (.nrf5340 true false) 1024 (.uartRx (.ofBytes testEndPacket.serialise)) =
      .ok t := step_packet rfl halloc testEndPacket (by decide)
  have hget : t.step (.nrf5340 true false) 1024 .get = .ok u := rfl
  have hblock : u.rx.pool.block i = ((pool.block i).reset h4TypeCmd).addMem testEndPacket.content :=
    Pool.write_block_self _ _ _
  obtain ⟨v, hprocess⟩ : ∃ v, u.step (.nrf5340 true false) 1024 .process = .ok v := by
    obtain ⟨x, hx⟩ := process_testEnd
      (((pool.block i).reset h4TypeCmd).addMem testEndPacket.content).mem rfl rfl
    rw [step, dtmTrProcess, show u.cmd = some i from rfl]
    simp only [hblock]
    exact ⟨_, mapError_eq_ok.2 (bind_eq_ok.2 ⟨x, hx, rfl⟩)⟩
  have hrun : Fallible.run (step (.nrf5340 true false) 1024) nrf5340 (packetInputs testEndPacket) =
      .ok v := by
    rw [packetInputs, run_cons, hrx, ok_bind, run_cons, hget, ok_bind, run_cons, hprocess]
    rfl
  refine ⟨v, hrun, ((rx_buffers_conserved_iff nrf5340_initial (packetInputs testEndPacket)).2 ?_).1
    3 v hrun⟩
  rw [packetInputs, Guarded.cons_ok hrx, Guarded.cons_ok hget, Guarded.cons_ok hprocess]
  refine ⟨by rintro ⟨⟩, by rintro ⟨⟩, ?_, trivial⟩
  rintro - j hj
  cases hj
  rw [hblock]
  rfl

/-- **The buffer of an ACL packet is not given back**, and after sixteen of them, at most one of
which waits at any time, `net_buf_alloc` fails. -/
theorem acl_buffer_lost :
    nrf5340.Initial (.nrf5340 true false) ∧
      (∃ s', Fallible.run (step (.nrf5340 true false) 1024) nrf5340 (packetInputs aclPacket) =
          .ok s' ∧
        ¬ s'.Conserving) ∧
      ∃ is, Guarded (step (.nrf5340 true false) 1024) (FewWaiting 1024) nrf5340 is ∧
        Fallible.run (step (.nrf5340 true false) 1024) nrf5340 is = .error (.rx .noBuffer) := by
  obtain ⟨i, pool, halloc⟩ : ∃ i pool, nrf5340.rx.pool.alloc = some (i, pool) := ⟨_, _, rfl⟩
  refine ⟨nrf5340_initial, ⟨nrf5340.afterData i pool aclPacket, ?_, ?_⟩, _,
    data_packets_exhaust (by decide) (p := aclPacket) (by decide) (by decide)
      (show h4RxType h4TypeCmd = true by decide) rfl rfl rfl rfl⟩
  · have h := (data_packet (b := .nrf5340 true false) (q := 1024) rfl rfl rfl halloc
      (p := aclPacket) (by decide) (by decide) []).1
    rwa [List.append_nil] at h
  · have hcons : pool.Conserved [i] :=
      (Pool.conserved_alloc halloc).2 (nrf5340_initial.conserving (n := 16))
    exact hcons.not_lost

end DirectTestMode.HciSystem
