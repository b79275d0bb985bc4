import DirectTestMode.Properties.Tailroom

/-!
# The progress of the parser

The loop of `h4_read` ends because every pass takes an octet from the window. In a packet a pass
takes what `rem` asks for, and `rem` comes from the length fields of the peer; zero would be asked
for by an empty payload, and that case leaves the packet before the loop goes round.

`HciRx.RemBounded` is what the loop relies on, and `HciRx.Ready` keeps it through windows and
passes. With it the loop is its first `len` passes (`h4Loop_passes`), whatever the window holds.

## Why passes, when the loop is total

The model's loop is a total function, by a measure on the state and the window together. That says
nothing about how many passes it makes, or what they take, where the loop of the source counts `len`
down by what a pass has read. So the loop is compared with `h4Passes`, which **counts** passes and
makes as many as it is asked to:

* `h4Iter_taken` says how many octets a pass takes, in any state, the bad ones included: with `rem`
  zero it takes none;
* `h4Pass_ready` is the step lemma. A pass from a state that is `Ready` takes an octet at least, and
  leads to a state that is `Ready` again;
* `h4Passes_ready` is the induction on the number of passes.

`Ready` is the invariant of `Properties.Tailroom`: the fields of the parser fit the buffer that it
fills. Which states have it is settled there, over every run of the transport from the start of a
packet, and that is all `h4_read_progress` asks of the state.
-/

namespace DirectTestMode.HciUart

open Fallible

variable {n q size : ℕ} {s : HciRx n}

/-! ### Passes -/

/-- One pass through the loop; at the end of the window there is none. -/
def h4Pass (size : ℕ) (x : HciRx n × List UInt8) : Except RxFault (HciRx n × List UInt8) :=
  match x.2 with
  | [] => .ok x
  | b :: bs => h4Iter size x.1 b bs

/-- The first passes. -/
def h4Passes (size : ℕ) : ℕ → HciRx n × List UInt8 → Except RxFault (HciRx n × List UInt8)
  | 0, x => .ok x
  | k + 1, x => h4Pass size x >>= h4Passes size k

/-- How many octets a pass takes from a window of `len`. -/
def HciRx.taken (s : HciRx n) (len : ℕ) : ℕ :=
  match s.state with
  | .type => 1
  | .header | .payload => min s.rem len

/-- In a packet something is missing, and of a header no more than the header. -/
def HciRx.RemBounded (s : HciRx n) : Prop :=
  match s.state with
  | .type => True
  | .header => 1 ≤ s.rem ∧ s.rem ≤ hciHdrLen s.type
  | .payload => 1 ≤ s.rem

/-- What keeps the parser inside its buffer also keeps it going. -/
theorem HciRx.Ready.remBounded (hs : s.Ready q) : s.RemBounded := by
  rcases hstate : s.state with _ | _ | _
  · rw [RemBounded, hstate]
    trivial
  · rw [Ready, hstate] at hs
    obtain ⟨i, -, hpos, hlen, -⟩ := hs
    rw [RemBounded, hstate]
    exact ⟨hpos, by omega⟩
  · rw [Ready, hstate] at hs
    obtain ⟨i, -, hpos, -⟩ := hs
    rw [RemBounded, hstate]
    exact hpos

/-- A pass takes an octet, and none that is not there. -/
theorem HciRx.RemBounded.taken (hs : s.RemBounded) {len : ℕ} (hlen : 1 ≤ len) :
    1 ≤ s.taken len ∧ s.taken len ≤ len := by
  rcases hstate : s.state with _ | _ | _
  · rw [HciRx.taken, hstate]
    exact ⟨le_rfl, hlen⟩
  · rw [RemBounded, hstate] at hs
    rw [HciRx.taken, hstate]
    exact ⟨le_min hs.1 hlen, Nat.min_le_right _ _⟩
  · rw [RemBounded, hstate] at hs
    rw [HciRx.taken, hstate]
    exact ⟨le_min hs hlen, Nat.min_le_right _ _⟩

/-- **What a pass takes**, in any state. -/
theorem h4Iter_taken {x : HciRx n × List UInt8} {b : UInt8} {bs : List UInt8}
    (h : h4Iter size s b bs = .ok x) : x.2 = (b :: bs).drop (s.taken (b :: bs).length) := by
  have hpart {done : Fin n → HciRx n → HciRx n} (h : h4Part size s (b :: bs) done = .ok x) :
      x.2 = (b :: bs).drop (min s.rem (b :: bs).length) := by
    rcases hbuf : s.buf with - | i
    · cases (h4Part_null hbuf _ _).symm.trans h
    rw [h4Part_eq hbuf] at h
    split at h
    · cases h
    · cases h
      rcases Nat.le_total s.rem (b :: bs).length with hrem | hrem
      · rw [Nat.min_eq_left hrem]
      · rw [Nat.min_eq_right hrem, List.drop_length]
        exact List.drop_of_length_le hrem
  rcases hstate : s.state with _ | _ | _
  · rw [h4Iter, hstate] at h
    rw [HciRx.taken, hstate]
    obtain ⟨t, -, h⟩ := bind_eq_ok.1 h
    cases h
    rfl
  · rw [h4Iter, hstate] at h
    rw [HciRx.taken, hstate]
    exact hpart h
  · rw [h4Iter, hstate] at h
    rw [HciRx.taken, hstate]
    exact hpart h

/-- **A pass** keeps what the loop relies on and shortens the window. -/
theorem h4Pass_ready {x y : HciRx n × List UInt8} (hx : x.1.Ready q) (h : h4Pass q x = .ok y) :
    y.1.Ready q ∧ (x.2 ≠ [] → y.2.length + 1 ≤ x.2.length) := by
  obtain ⟨s, bytes⟩ := x
  cases bytes with
  | nil =>
    cases h
    exact ⟨hx, fun hne ↦ absurd rfl hne⟩
  | cons b bs =>
    refine ⟨((h4Iter_fits hx b bs).1 y h).ready, fun _ ↦ ?_⟩
    have htaken := hx.remBounded.taken (Nat.le_add_left 1 bs.length)
    rw [h4Iter_taken (x := y) h, List.length_drop]
    show _ ≤ (b :: bs).length
    rw [← List.length_cons (a := b)] at htaken
    omega

/-- **The passes**, by induction on their number. -/
theorem h4Passes_ready {k : ℕ} {x y : HciRx n × List UInt8} (hx : x.1.Ready q)
    (h : h4Passes q k x = .ok y) : y.1.Ready q ∧ (y.2 = [] ∨ y.2.length + k ≤ x.2.length) := by
  induction k generalizing x with
  | zero =>
    cases h
    exact ⟨hx, .inr le_rfl⟩
  | succ k ih =>
    obtain ⟨z, hz, h⟩ := bind_eq_ok.1 h
    obtain ⟨hready, hshort⟩ := h4Pass_ready hx hz
    obtain ⟨hready', hrest⟩ := ih hready h
    refine ⟨hready', ?_⟩
    rcases hrest with hnil | hrest
    · exact .inl hnil
    · by_cases hempty : x.2 = []
      -- the passes at the end of the window take nothing
      · obtain ⟨s, bytes⟩ := x
        cases hempty
        cases hz
        have hzero : y.2.length + k ≤ 0 := hrest
        exact .inl (List.eq_nil_of_length_eq_zero (by omega))
      · have hlt := hshort hempty
        exact .inr (by omega)

/-- **The loop is its first passes**, one for each octet at most. -/
theorem h4Loop_passes {bytes : List UInt8} {k : ℕ} (hs : s.Ready q) (hk : bytes.length ≤ k) :
    h4Loop q s bytes = (h4Passes q k (s, bytes)).map Prod.fst := by
  induction k generalizing s bytes with
  | zero =>
    rw [List.eq_nil_of_length_eq_zero (Nat.le_zero.1 hk), h4Loop_nil]
    rfl
  | succ k ih =>
    cases bytes with
    | nil =>
      rw [h4Loop_nil]
      exact (h4Loop_nil s).symm.trans (ih hs (Nat.zero_le k))
    | cons b bs =>
      have hpass : h4Pass q (s, b :: bs) = h4Iter q s b bs := rfl
      rw [h4Loop_cons, h4Passes, hpass]
      rcases hx : h4Iter q s b bs with e | x
      · rfl
      · obtain ⟨hready, hshort⟩ := h4Pass_ready (x := (s, b :: bs)) hs hx
        have hlt : x.2.length + 1 ≤ (b :: bs).length := hshort (List.cons_ne_nil b bs)
        exact ih hready (by omega)

end DirectTestMode.HciUart

namespace DirectTestMode

open Fallible HciUart

variable {n q : ℕ} {b : Build}

/-- **`h4_read` makes progress and ends.** In every state that a parser gets to from the start of a
packet, by windows and whatever happens between them, every pass through the loop on a window takes
between one octet and all that are left, and the loop is over after one pass for each octet at most,
with the whole window taken unless an assertion stops it. -/
theorem h4_read_progress {s : HciSystem n}
    (hs : Reachable (HciSystem.step b q) (fun s ↦ s.rx.state = .type) s) (w : RxWindow) :
    (∀ k t rest, h4Passes q k (s.rx, w.bytes) = .ok (t, rest) →
      t.RemBounded ∧ (rest ≠ [] →
        (1 ≤ t.taken rest.length ∧ t.taken rest.length ≤ rest.length) ∧
        ∀ t' rest', h4Pass q (t, rest) = .ok (t', rest') →
          rest' = rest.drop (t.taken rest.length))) ∧
    uartRxRdy q s.rx w = (h4Passes q w.len (s.rx, w.bytes)).map Prod.fst ∧
    ∀ t rest, h4Passes q w.len (s.rx, w.bytes) = .ok (t, rest) → rest = [] := by
  have hready : s.rx.Ready q := by
    refine hs.invariant (I := fun s ↦ s.rx.Ready q) (fun s hs ↦ ?_)
      fun s i s' hs h ↦ ((HciSystem.step_fits hs).1 s' h).ready
    rw [HciRx.Ready, hs]
    trivial
  have hlen : w.bytes.length = w.len := by
    rw [RxWindow.bytes, window, List.length_map, List.length_range]
  refine ⟨fun k t rest h ↦ ?_, ?_, fun t rest h ↦ ?_⟩
  · have hbounded := (h4Passes_ready hready h).1.remBounded
    refine ⟨hbounded, fun hne ↦ ⟨hbounded.taken (List.length_pos_of_ne_nil hne), ?_⟩⟩
    intro t' rest' hpass
    cases rest with
    | nil => exact absurd rfl hne
    | cons c cs => exact h4Iter_taken hpass
  · exact h4Loop_passes hready hlen.le
  · rcases (h4Passes_ready hready h).2 with hnil | hle
    · exact hnil
    · exact List.eq_nil_of_length_eq_zero (by simp only [hlen] at hle; omega)

/-- The window ended after the type octet, and the next one brings the whole header. -/
theorem h4_read_progress_header :
    ∃ s : HciSystem 16, s.rx.state = .header ∧ s.rx.rem = 3 ∧
      Reachable (HciSystem.step (.nrf5340 true false) 1024) (fun s ↦ s.rx.state = .type) s ∧
      ∀ t rest, h4Passes 1024 3 (s.rx, [0x1F, 0x20, 0x00]) = .ok (t, rest) → rest = [] := by
  obtain ⟨rx, hrx, hstate, hrem⟩ : ∃ rx, uartRxRdy 1024 (.powerOn 16) (.ofBytes [0x01]) = .ok rx ∧
      rx.state = .header ∧ rx.rem = 3 := by
    rw [uartRxRdy_eq, RxWindow.bytes_ofBytes, h4Loop_cons]
    exact ⟨_, h4Loop_nil _, rfl, rfl⟩
  have hs : Reachable (HciSystem.step (.nrf5340 true false) 1024) (fun s ↦ s.rx.state = .type)
      { HciSystem.nrf5340 with rx := rx } := by
    have hstart : HciSystem.nrf5340.rx.state = .type := rfl
    refine .next (.start hstart) (i := .uartRx (.ofBytes [0x01])) ?_
    rw [HciSystem.step, show HciSystem.nrf5340.rx = .powerOn 16 from rfl, hrx]
  have hrest := (h4_read_progress hs (.ofBytes [0x1F, 0x20, 0x00])).2.2
  rw [RxWindow.bytes_ofBytes] at hrest
  exact ⟨_, hstate, hrem, hs, hrest⟩

end DirectTestMode
