import DirectTestMode.Transport.TwowireRx
import Mathlib.Algebra.Order.Group.Unbundled.Int
import Mathlib.Tactic.Common

/-!
# Which octets make a command

Over a schedule of polls, the octets that `dtm_tr_get` pairs.

* `outputs_timely_iff`: the UART receiver pairs only octets that were read at most 5 ms apart. The
  RTT receiver looks at the clock only when it finds nothing, so it does so exactly on the schedules
  in which no poll finds an octet more than 5 ms after the first octet it waits with (`OnTime`).
  `rtt_pairs_late` is a schedule with a late one.
* `outputs_resync`: after a pause of more than 5 ms the UART receiver returns the commands that are
  sent, whatever it received before. All that is left from before the pause is the last octet
  (`after_accept`), and the first octet after it replaces that one.

## How the receivers are compared

Both are transducers in the sense of `Machine.Transducer`: a poll comes in, a command may come out,
and what waits is the state. The model of `Transport.TwowireRx` keeps the time of each octet with
it, so that the delay between the two octets of a command can be stated of the command.

For the first result a command is looked at in the poll that returns it, which makes the condition
on the schedule a guard of its run. The one fact about the past that is needed is that the waiting
octet is not from the future (`Rx.Before`): it was stamped by an earlier poll, and the clock does
not go back (`ClockOrder`).

For the second, the UART receiver is split in two stages, one that reads octets off the polls and
one that pairs them (`UartTwowire.accept`). The pause is one between octets, so it only concerns the
second stage, and the induction is on the list of commands: once in step, the receiver waits with
nothing (`outputs_accept_commands`).
-/

namespace DirectTestMode

open Fallible Transducer

/-! ### Late octets -/

/-- The two octets were read at most 5 ms apart. -/
def RxCommand.Timely (cmd : RxCommand) : Prop := |cmd.second.time - cmd.first.time| ≤ 5

instance (cmd : RxCommand) : Decidable cmd.Timely := inferInstanceAs (Decidable (_ ≤ _))

/-- The clock never goes back from one poll to a later one. -/
def ClockOrder (polls : List Poll) : Prop := polls.Pairwise fun p r ↦ p.now ≤ r.now

instance (polls : List Poll) : Decidable (ClockOrder polls) :=
  inferInstanceAs (Decidable (polls.Pairwise _))

/-- The first octet was not read after the poll. -/
def Rx.Before (rx : Rx) (p : Poll) : Prop := ∀ msb ∈ rx.2, msb.time ≤ p.now

/-- If a first octet waits and the poll finds another one, it is not late. -/
def Rx.OnTime (rx : Rx) (p : Poll) : Prop :=
  ∀ msb ∈ rx.2, rx.1 ++ p.arrived ≠ [] → p.now - msb.time ≤ 5

/-- A loop that stamps first octets with the time of the poll never waits with one from the
future. -/
theorem guarded_before {poll : Rx → Poll → Rx × Option RxCommand}
    (hstamp : ∀ rx p, ∀ msb ∈ (poll rx p).1.2, msb ∈ rx.2 ∨ msb.time = p.now) {rx : Rx}
    {polls : List Poll} (hrx : ∀ p ∈ polls, rx.Before p) (hclock : ClockOrder polls) :
    Guarded (next poll) Rx.Before rx polls := by
  induction polls generalizing rx with
  | nil => trivial
  | cons p polls ih =>
    obtain ⟨hp, hclock⟩ := List.pairwise_cons.1 hclock
    refine guarded_cons.2 ⟨hrx p List.mem_cons_self, ih (fun r hr msb hmsb ↦ ?_) hclock⟩
    rcases hstamp rx p msb hmsb with h | h
    · exact hrx r (List.mem_cons_of_mem p hr) msb h
    · exact h ▸ hp r hr

/-- The octet that waits after a poll waited before it or was read by it. -/
theorem UartTwowire.poll_stamp (rx : Rx) (p : Poll) (msb : Octet)
    (h : msb ∈ (UartTwowire.poll rx p).1.2) : msb ∈ rx.2 ∨ msb.time = p.now := by
  revert h
  rw [poll, comp, pollIn]
  rcases rx.1 ++ p.arrived with - | ⟨rxByte, fifo⟩
  · exact Or.inl
  · rcases rx.2 with - | old
    · rintro ⟨⟩
      exact .inr rfl
    · dsimp only [accept]
      split
      · rintro ⟨⟩
        exact .inr rfl
      · rintro ⟨⟩

theorem RttTwowire.poll_stamp (rx : Rx) (p : Poll) (msb : Octet)
    (h : msb ∈ (RttTwowire.poll rx p).1.2) : msb ∈ rx.2 ∨ msb.time = p.now := by
  revert h
  rw [poll]
  rcases rx.2 with - | old
  · rcases rx.1 ++ p.arrived with - | ⟨first, - | ⟨lsb, fifo⟩⟩
    · rintro ⟨⟩
    · rintro ⟨⟩
      exact .inr rfl
    · rintro ⟨⟩
  · rcases rx.1 ++ p.arrived with - | ⟨rxByte, fifo⟩
    · dsimp only
      split
      · rintro ⟨⟩
      · exact Or.inl
    · rintro ⟨⟩

/-- The UART receiver tests the time before it combines. -/
theorem UartTwowire.poll_timely {rx : Rx} {p : Poll} (hp : rx.Before p) :
    ∀ cmd ∈ (UartTwowire.poll rx p).2, cmd.Timely := by
  intro cmd h
  revert h
  rw [poll, comp, pollIn]
  rcases rx.1 ++ p.arrived with - | ⟨rxByte, fifo⟩
  · rintro ⟨⟩
  · rcases hmsb : rx.2 with - | msb
    · rintro ⟨⟩
    · dsimp only [accept]
      split
      · rintro ⟨⟩
      · next hlate =>
        rintro ⟨⟩
        have hbefore : msb.time ≤ p.now := hp msb hmsb
        rw [secondByteMaxDelay] at hlate
        rw [RxCommand.Timely, abs_of_nonneg] <;> dsimp only <;> omega

/-- What the RTT receiver returns at a poll is timely exactly if the poll is on time. -/
theorem RttTwowire.poll_timely_iff {rx : Rx} {p : Poll} (hp : rx.Before p) :
    (∀ cmd ∈ (RttTwowire.poll rx p).2, cmd.Timely) ↔ rx.OnTime p := by
  rw [poll, Rx.OnTime]
  rcases hmsb : rx.2 with - | msb
  · -- no first octet: two octets read at once are as close as they can be
    rcases rx.1 ++ p.arrived with - | ⟨msb, - | ⟨lsb, fifo⟩⟩ <;> simp [RxCommand.Timely]
  · have hbefore : msb.time ≤ p.now := hp msb hmsb
    rcases rx.1 ++ p.arrived with - | ⟨rxByte, fifo⟩
    · simp
    · simp [RxCommand.Timely, abs_of_nonneg (Int.sub_nonneg_of_le hbefore)]

/-- **Late octets.** In every schedule the UART receiver returns only commands whose octets were
read at most 5 ms apart, and the RTT receiver does exactly if no poll that finds an octet comes more
than 5 ms after the first octet it waits with. -/
theorem outputs_timely_iff (polls : List Poll) (hclock : ClockOrder polls) :
    (∀ cmd ∈ outputs UartTwowire.poll Rx.start polls, cmd.Timely) ∧
      ((∀ cmd ∈ outputs RttTwowire.poll Rx.start polls, cmd.Timely) ↔
        Guarded (next RttTwowire.poll) Rx.OnTime Rx.start polls) := by
  have hstart : ∀ p ∈ polls, Rx.start.Before p := fun p _ msb hmsb ↦ by cases hmsb
  have huart := guarded_before UartTwowire.poll_stamp hstart hclock
  have hrtt := guarded_before RttTwowire.poll_stamp hstart hclock
  refine ⟨(forall_outputs_iff (fun rx p hp ↦ ?_) huart).2 huart,
    forall_outputs_iff (fun rx p hp ↦ RttTwowire.poll_timely_iff hp) hrtt⟩
  exact iff_of_true (UartTwowire.poll_timely hp) hp

/-- The first octet of a reset at 0 ms, the second one there at the next poll, 20 ms later. -/
def latePolls : List Poll := [⟨0, [0x00]⟩, ⟨20, [0x00]⟩]

/-- On this schedule the RTT side of the equivalence fails, for both of its halves. -/
theorem outputs_timely_iff_latePolls :
    (∀ cmd ∈ outputs UartTwowire.poll Rx.start latePolls, cmd.Timely) ∧
      ((∀ cmd ∈ outputs RttTwowire.poll Rx.start latePolls, cmd.Timely) ↔
        Guarded (next RttTwowire.poll) Rx.OnTime Rx.start latePolls) :=
  outputs_timely_iff latePolls (by decide)

/-- The RTT receiver combines the two. -/
theorem rtt_pairs_late :
    ClockOrder latePolls ∧
      ¬ ((∀ cmd ∈ outputs UartTwowire.poll Rx.start latePolls, cmd.Timely) ∧
        ∀ cmd ∈ outputs RttTwowire.poll Rx.start latePolls, cmd.Timely) := by
  decide

/-! ### Resynchronisation -/

/-- All that the UART receiver remembers is the last octet it read. -/
theorem after_accept {msb : Option Octet} {octets : List Octet} {old : Octet}
    (h : old ∈ after UartTwowire.accept msb octets) :
    old ∈ octets.getLast? ∨ octets = [] ∧ old ∈ msb := by
  induction octets generalizing msb with
  | nil => exact .inr ⟨rfl, h⟩
  | cons octet octets ih =>
    rcases ih h with hlast | ⟨rfl, hmsb⟩
    · rw [List.getLast?_cons, hlast]
      exact .inl rfl
    · refine .inl ?_
      revert hmsb
      rcases msb with - | msb
      · exact id
      · dsimp only [UartTwowire.accept]
        split
        · exact id
        · rintro ⟨⟩

/-- A command whose octets come in time is returned, and leaves nothing behind, if the octet before
it is late. -/
theorem outputs_accept_octets {msb : Option Octet} {cmd : RxCommand} (octets : List Octet)
    (hpause : ∀ old ∈ msb, 5 < cmd.first.time - old.time)
    (hpair : cmd.second.time - cmd.first.time ≤ 5) :
    outputs UartTwowire.accept msb (cmd.octets ++ octets) =
      cmd :: outputs UartTwowire.accept none octets := by
  have hfirst : UartTwowire.accept msb cmd.first = (some cmd.first, none) := by
    rcases msb with - | old
    · rfl
    · exact if_pos (hpause old rfl)
  have hsecond : UartTwowire.accept (some cmd.first) cmd.second = (none, some cmd) :=
    if_neg (not_lt.2 hpair)
  rw [RxCommand.octets, List.cons_append, outputs_cons, hfirst, List.cons_append, outputs_cons,
    hsecond]
  rfl

/-- Once it is in step, it stays in step. -/
theorem outputs_accept_commands {cmds : List RxCommand}
    (hpair : ∀ cmd ∈ cmds, cmd.second.time - cmd.first.time ≤ 5) :
    outputs UartTwowire.accept none (cmds.flatMap RxCommand.octets) = cmds := by
  induction cmds with
  | nil => rfl
  | cons cmd cmds ih =>
    rw [List.flatMap_cons, outputs_accept_octets _ (fun old h ↦ by cases h)
      (hpair cmd List.mem_cons_self), ih fun c hc ↦ hpair c (List.mem_cons_of_mem cmd hc)]

/-- **Resynchronisation.** Let `pre` be the polls up to a pause and `polls` the ones after it. If
the octets read after the pause are those of `cmds`, the first of them more than 5 ms after the last
octet before, and the two octets of each at most 5 ms apart, then the commands returned after the
pause are `cmds`. -/
theorem outputs_resync (pre polls : List Poll) (cmds : List RxCommand)
    (hread : outputs UartTwowire.pollIn (after UartTwowire.pollIn [] pre) polls =
      cmds.flatMap RxCommand.octets)
    (hpause : ∀ last ∈ (outputs UartTwowire.pollIn [] pre).getLast?,
      ∀ cmd ∈ cmds.head?, 5 < cmd.first.time - last.time)
    (hpair : ∀ cmd ∈ cmds, cmd.second.time - cmd.first.time ≤ 5) :
    outputs UartTwowire.poll Rx.start (pre ++ polls) =
      outputs UartTwowire.poll Rx.start pre ++ cmds := by
  have hafter : outputs UartTwowire.accept
      (after UartTwowire.accept none (outputs UartTwowire.pollIn [] pre))
      (cmds.flatMap RxCommand.octets) = cmds := by
    rcases cmds with - | ⟨cmd, cmds⟩
    · rfl
    · -- what is pending at the pause, if anything, is the last octet before it
      have hlate : ∀ old ∈ after UartTwowire.accept none (outputs UartTwowire.pollIn [] pre),
          5 < cmd.first.time - old.time := fun old hold ↦
        (after_accept hold).elim (fun hlast ↦ hpause old hlast cmd rfl) fun h ↦ by cases h.2
      rw [List.flatMap_cons, outputs_accept_octets _ hlate (hpair cmd List.mem_cons_self),
        outputs_accept_commands fun c hc ↦ hpair c (List.mem_cons_of_mem cmd hc)]
  have hpoll : outputs UartTwowire.poll (after UartTwowire.poll Rx.start pre) polls = cmds := by
    rw [UartTwowire.poll, after_comp, outputs_comp]
    exact hread ▸ hafter
  rw [outputs_append, hpoll]

/-- A lone octet, then a reset 10 ms later and a packet report request right after it. -/
theorem outputs_resync_lone :
    outputs UartTwowire.poll Rx.start
        ([⟨0, [0xC0]⟩] ++ [⟨10, [0x00, 0x00]⟩, ⟨11, [0xC0]⟩, ⟨12, []⟩, ⟨17, [0x00]⟩]) =
      outputs UartTwowire.poll Rx.start [⟨0, [0xC0]⟩] ++
        [⟨⟨0x00, 10⟩, ⟨0x00, 11⟩⟩, ⟨⟨0xC0, 12⟩, ⟨0x00, 17⟩⟩] :=
  outputs_resync _ _ _ (by decide) (by decide) (by decide)

end DirectTestMode
