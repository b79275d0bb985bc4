import Mathlib.Data.Nat.Log
import Mathlib.Data.Nat.ModEq

/-!
# Numerals

Numbers as text in a base up to 36. `pad` writes a fixed number of digits, `print` as many as it
takes, and `scan` reads the digits at the front of a text, capital or small, up to the first
character that is none.

The reader takes an accumulator, as a loop over the characters does, and returns the text behind the
number. Both are in the statement of `scan_pad`: what has been read before is multiplied by a power
of the base, and what is behind the digits is read on. The special cases one needs are then one line
each.

* `scan_pad` is the round trip for a fixed width, for every accumulator and every text behind.
* `scan_pad_lt` is that of a number that has room in the width, read from nothing.
* `scan_print` is that of a number with as many digits as it takes.

The last two need that the text goes on with no digit (`Ends`), since a reader of digits takes all
it finds.
-/

namespace Numeral

/-! ### Digits -/

/-- The character of a digit, with capital letters. -/
def digitChar (d : ℕ) : Char := if d < 10 then Char.ofNat (48 + d) else Char.ofNat (55 + d)

/-- The value of a character as a digit, with capital and small letters. -/
def digitVal (c : Char) : Option ℕ :=
  let n := c.toNat
  if 48 ≤ n ∧ n ≤ 57 then some (n - 48)
  else if 65 ≤ n ∧ n ≤ 90 then some (n - 55)
  else if 97 ≤ n ∧ n ≤ 122 then some (n - 87)
  else none

/-- The value of a digit of the base `b`. -/
def digit (b : ℕ) (c : Char) : Option ℕ := (digitVal c).filter fun d ↦ decide (d < b)

/-- A digit is written and read again. There are 36 cases. -/
theorem digitVal_digitChar {d : ℕ} (hd : d < 36) : digitVal (digitChar d) = some d := by
  have hall : ∀ d < 36, digitVal (digitChar d) = some d := by decide
  exact hall d hd

/-- The same in a base, which only admits the digits below it. -/
theorem digit_digitChar {b d : ℕ} (hb : b ≤ 36) (hd : d < b) : digit b (digitChar d) = some d := by
  rw [digit, digitVal_digitChar (hd.trans_le hb), Option.filter_some, if_pos (decide_eq_true hd)]

/-! ### Reading and writing -/

/-- The number that the digits at the front go on with after `acc`, and the text behind them. -/
def scan (b acc : ℕ) : List Char → ℕ × List Char
  | [] => (acc, [])
  | c :: text =>
    match digit b c with
    | some d => scan b (acc * b + d) text
    | none => (acc, c :: text)

/-- The last `w` digits of a number. -/
def pad (b : ℕ) : ℕ → ℕ → List Char
  | 0, _ => []
  | w + 1, n => pad b w (n / b) ++ [digitChar (n % b)]

/-- A number with no more digits than it takes. -/
def print (b n : ℕ) : List Char := pad b (Nat.log b n + 1) n

/-- The text does not go on with a digit. -/
def Ends (b : ℕ) (text : List Char) : Prop := ∀ c ∈ text.head?, digit b c = none

variable {b : ℕ}

/-- The end of the text is no digit. -/
theorem ends_nil : Ends b [] := by
  rintro c ⟨⟩

/-- A fixed width. -/
@[simp] theorem length_pad (b w n : ℕ) : (pad b w n).length = w := by
  induction w generalizing n with
  | zero => rfl
  | succ w ih => rw [pad, List.length_append, ih, List.length_singleton]

/-- One digit goes into the accumulator. -/
theorem scan_digit {c : Char} {d : ℕ} (hc : digit b c = some d) (acc : ℕ) (text : List Char) :
    scan b acc (c :: text) = scan b (acc * b + d) text := by
  rw [scan, hc]

/-- The reader stops in front of a character that is no digit. -/
theorem scan_ends {text : List Char} (h : Ends b text) (acc : ℕ) :
    scan b acc text = (acc, text) := by
  cases text with
  | nil => rfl
  | cons c text => rw [scan, h c rfl]

/-- **What is written is read again.** The induction is on the digits, of which the last one is
written last. -/
theorem scan_pad (hb : 0 < b) (hb' : b ≤ 36) (w n acc : ℕ) (text : List Char) :
    scan b acc (pad b w n ++ text) = scan b (acc * b ^ w + n % b ^ w) text := by
  induction w generalizing n text with
  | zero => rw [pad, List.nil_append, pow_zero, Nat.mod_one, mul_one, add_zero]
  | succ w ih =>
    have hd := digit_digitChar hb' (Nat.mod_lt n hb)
    rw [pad, List.append_assoc, ih, List.singleton_append, scan_digit hd]
    have hsplit : n % b ^ (w + 1) = n / b % b ^ w * b + n % b := by
      rw [pow_succ', Nat.mod_mul, mul_comm, add_comm]
    congr 1
    rw [hsplit, pow_succ, add_mul, mul_assoc, add_assoc]

/-- **A number with room for its digits** is read back from them. -/
theorem scan_pad_lt (hb : 0 < b) (hb' : b ≤ 36) {w n : ℕ} (hn : n < b ^ w) {text : List Char}
    (htext : Ends b text) : scan b 0 (pad b w n ++ text) = (n, text) := by
  rw [scan_pad hb hb', Nat.zero_mul, Nat.zero_add, Nat.mod_eq_of_lt hn, scan_ends htext]

/-- **A printed number** is read back, whatever follows it that is no digit. -/
theorem scan_print (hb : 1 < b) (hb' : b ≤ 36) (n : ℕ) {text : List Char} (htext : Ends b text) :
    scan b 0 (print b n ++ text) = (n, text) :=
  scan_pad_lt (Nat.zero_lt_of_lt hb) hb' (Nat.lt_pow_succ_log_self hb n) htext

end Numeral
