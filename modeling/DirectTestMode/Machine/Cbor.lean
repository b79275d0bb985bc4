import Mathlib.Algebra.Order.Ring.Nat
import Mathlib.Data.Nat.ModEq
import Mathlib.Tactic.Common

/-!
# CBOR items

The part of CBOR that unsigned and signed integers and byte strings need. An item starts with a
head: three bits of major type and five bits of information, which are the argument itself or say in
how many of the following octets it stands.

`readHead_head` is the round trip of a head, and every item is a head with at most a string behind
it, so the round trips of the items are cases of it. `headerLen` is the length of a head, which is
all that the length of an item depends on; how long it can be for an octet or a word bounds the size
of a message (`headerLen_octet`, `headerLen_word`).

All readers return what is behind the item, and the round trips hold for every rest. Several items
in a row are then read one after the other without a lemma about sequences.
-/

namespace Cbor

/-! ### Big-endian numbers -/

/-- The last `k` octets of a number, the most significant one first. -/
def octets : ℕ → ℕ → List UInt8
  | 0, _ => []
  | k + 1, n => UInt8.ofNat (n / 256 ^ k) :: octets k n

/-- The number that the octets spell. -/
def value : List UInt8 → ℕ
  | [] => 0
  | b :: bs => b.toNat * 256 ^ bs.length + value bs

/-- A number has as many octets as it is given. -/
@[simp] theorem length_octets (k n : ℕ) : (octets k n).length = k := by
  induction k with
  | zero => rfl
  | succ k ih => rw [octets, List.length_cons, ih]

/-- **The octets spell the number**, as far as they have room for it. -/
theorem value_octets (k n : ℕ) : value (octets k n) = n % 256 ^ k := by
  induction k with
  | zero => simp [octets, value, Nat.mod_one]
  | succ k ih =>
    have hfirst : (UInt8.ofNat (n / 256 ^ k)).toNat = n / 256 ^ k % 256 := UInt8.toNat_ofNat'
    rw [octets, value, ih, length_octets, hfirst, Nat.mod_pow_succ (b := 256), Nat.add_comm,
      Nat.mul_comm]

/-! ### Heads -/

/-- How many octets of a head are the argument. -/
def argLen (n : ℕ) : ℕ :=
  if n < 24 then 0 else if n < 2 ^ 8 then 1 else if n < 2 ^ 16 then 2 else if n < 2 ^ 32 then 4
  else 8

/-- The length of a head with argument `n`. -/
def headerLen (n : ℕ) : ℕ := 1 + argLen n

/-- The five bits of information. -/
def info (n : ℕ) : ℕ :=
  if n < 24 then n else if n < 2 ^ 8 then 24 else if n < 2 ^ 16 then 25 else if n < 2 ^ 32 then 26
  else 27

/-- How many octets the information announces, if it is not the argument itself. -/
def announced (info : ℕ) : Option ℕ :=
  if info = 24 then some 1 else if info = 25 then some 2 else if info = 26 then some 4
  else if info = 27 then some 8 else none

/-- The head of an item: the major type, and the argument in the shortest of its five forms. -/
def head (major n : ℕ) : List UInt8 := UInt8.ofNat (32 * major + info n) :: octets (argLen n) n

/-- Read a head: the major type, the argument and what follows. -/
def readHead : List UInt8 → Option (ℕ × ℕ × List UInt8)
  | [] => none
  | b :: bs =>
    if b.toNat % 32 < 24 then some (b.toNat / 32, b.toNat % 32, bs)
    else
      (announced (b.toNat % 32)).bind fun k ↦
        if k ≤ bs.length then some (b.toNat / 32, value (bs.take k), bs.drop k) else none

/-- A head is as long as `headerLen` says, whatever its major type. -/
@[simp] theorem length_head (major n : ℕ) : (head major n).length = headerLen n := by
  rw [head, List.length_cons, length_octets, headerLen, Nat.add_comm]

/-- The information has five bits. -/
theorem info_lt (n : ℕ) : info n < 32 := by
  unfold info
  split_ifs <;> omega

/-- Below 24 the information is the argument itself. -/
theorem info_lt_iff (n : ℕ) : info n < 24 ↔ n < 24 := by
  unfold info
  split_ifs <;> omega

/-- Otherwise it announces the octets that follow. -/
theorem announced_info {n : ℕ} (h : ¬ n < 24) : announced (info n) = some (argLen n) := by
  unfold info argLen
  split_ifs <;> rfl

/-- The octets that follow have room for the argument. -/
theorem lt_argLen {n : ℕ} (h : ¬ n < 24) (hn : n < 2 ^ 64) : n < 256 ^ argLen n := by
  unfold argLen
  split_ifs <;> omega

/-- **A head read back**, by the two forms it has: the argument in the information, or in the
octets behind it. -/
theorem readHead_head {major n : ℕ} (hmajor : major < 8) (hn : n < 2 ^ 64) (rest : List UInt8) :
    readHead (head major n ++ rest) = some (major, n, rest) := by
  have hinfo := info_lt n
  have hfirst : (UInt8.ofNat (32 * major + info n)).toNat = 32 * major + info n := by
    rw [UInt8.toNat_ofNat']
    omega
  have hmod : (32 * major + info n) % 32 = info n := by omega
  have hdiv : (32 * major + info n) / 32 = major := by omega
  rw [head, List.cons_append, readHead, hfirst, hmod, hdiv]
  by_cases h : n < 24
  · rw [if_pos ((info_lt_iff n).2 h), info, if_pos h, argLen, if_pos h]
    rfl
  · have hlen : argLen n ≤ (octets (argLen n) n ++ rest).length := by
      rw [List.length_append, length_octets]
      omega
    rw [if_neg (mt (info_lt_iff n).1 h), announced_info h, Option.bind_some, if_pos hlen,
      List.take_left' (length_octets _ _), List.drop_left' (length_octets _ _), value_octets,
      Nat.mod_eq_of_lt (lt_argLen h hn)]

/-! ### Items -/

/-- An unsigned integer: major type 0. -/
def uint (n : ℕ) : List UInt8 := head 0 n

/-- A byte string: major type 2, its length and its octets. -/
def bstr (s : List UInt8) : List UInt8 := head 2 s.length ++ s

/-- A signed integer: major type 1 stands for `-1 - n`. -/
def int (i : ℤ) : List UInt8 := if 0 ≤ i then head 0 i.toNat else head 1 (-1 - i).toNat

/-- Read an unsigned integer. -/
def readUint (bs : List UInt8) : Option (ℕ × List UInt8) :=
  (readHead bs).bind fun x ↦ if x.1 = 0 then some x.2 else none

/-- Read a byte string. One that is longer than what has come is none. -/
def readBstr (bs : List UInt8) : Option (List UInt8 × List UInt8) :=
  (readHead bs).bind fun x ↦
    if x.1 = 2 ∧ x.2.1 ≤ x.2.2.length then some (x.2.2.take x.2.1, x.2.2.drop x.2.1) else none

/-- Read a signed integer, of either major type. -/
def readInt (bs : List UInt8) : Option (ℤ × List UInt8) :=
  (readHead bs).bind fun x ↦
    if x.1 = 0 then some (x.2.1, x.2.2) else if x.1 = 1 then some (-1 - x.2.1, x.2.2) else none

/-- **The round trip of an unsigned integer.** -/
theorem readUint_uint {n : ℕ} (hn : n < 2 ^ 64) (rest : List UInt8) :
    readUint (uint n ++ rest) = some (n, rest) := by
  rw [readUint, uint, readHead_head (by decide) hn]
  rfl

/-- **The round trip of a byte string.** -/
theorem readBstr_bstr {s : List UInt8} (hs : s.length < 2 ^ 64) (rest : List UInt8) :
    readBstr (bstr s ++ rest) = some (s, rest) := by
  rw [readBstr, bstr, List.append_assoc, readHead_head (by decide) hs, Option.bind_some,
    if_pos ⟨rfl, by simp⟩, List.take_left, List.drop_left]

/-- **The round trip of a signed integer**, in the range that CBOR has for it. -/
theorem readInt_int {i : ℤ} (hi : -2 ^ 64 ≤ i ∧ i < 2 ^ 64) (rest : List UInt8) :
    readInt (int i ++ rest) = some (i, rest) := by
  rw [int]
  split
  · rw [readInt, readHead_head (by decide) (by omega), Option.bind_some, if_pos rfl,
      Int.toNat_of_nonneg ‹_›]
  · rw [readInt, readHead_head (by decide) (by omega), Option.bind_some, if_neg one_ne_zero,
      if_pos rfl, Int.toNat_of_nonneg (by omega), sub_sub_cancel]

@[simp] theorem length_uint (n : ℕ) : (uint n).length = headerLen n := length_head 0 n

@[simp] theorem length_bstr (s : List UInt8) : (bstr s).length = headerLen s.length + s.length := by
  rw [bstr, List.length_append, length_head]

theorem length_int (i : ℤ) :
    (int i).length = headerLen (if 0 ≤ i then i.toNat else (-1 - i).toNat) := by
  rw [int]
  split <;> exact length_head _ _

/-! ### How long a head can be -/

/-- The head of an octet takes two octets at most. -/
theorem headerLen_octet {n : ℕ} (hn : n < 2 ^ 8) : headerLen n ≤ 2 := by
  unfold headerLen argLen
  split_ifs <;> omega

/-- The head of a 32-bit number takes five octets at most. -/
theorem headerLen_word {n : ℕ} (hn : n < 2 ^ 32) : headerLen n ≤ 5 := by
  unfold headerLen argLen
  split_ifs <;> omega

end Cbor
