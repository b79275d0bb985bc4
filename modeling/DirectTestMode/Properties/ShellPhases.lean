import DirectTestMode.Properties.ShellSession

/-!
# The shell without raw commands

The other commands of the shell leave little of a session. Their words start a reception on channel
zero only, and a transmission of the packet type PRBS9, never a carrier. The channel of a session
stays below the limits that the assertions look at, so no sequence of commands and interrupts stops
the device (`ShellNode.never_stops`).

What is left is a machine with three phases (`ShellView`). `ShellNode.prints_counts` says that its
answers are the responses and its counts the numbers that `dtm end` prints.

## Three machines, two refinements

`ShellNode` refines `Session` on any input (`Properties.ShellSession`), and `Session` refines
`ShellView` on inputs that are no raw command, which is the part proved here. The relation is
`Session.Plain`: the session is in the phase, and

* its channel is at most 37, since the shell puts a length there;
* in a reception it is zero, since bits 13 to 8 of that word are clear;
* the gain is the default, which no front-end module refuses.

The first of these is what keeps every assertion from failing, and the run lemma therefore has an
existence in its conclusion: the run comes to an end, for every list of inputs.

## Counts

A response carries fifteen bits of a count, and `dtm end` prints these. `Answer.counts` has the
truncation in it, so that the machine's counts are what is printed and not what was received; the
number received is the phase's own.

`ShellView` is what remains of the two-wire protocol when channel and length are exchanged, the
carrier is a test of packets and the power command is rejected.
-/

namespace DirectTestMode

open Fallible

variable {b : Build} {q : ℕ}

/-! ### The machine -/

/-- What runs, what has been answered and which counts have been printed. -/
structure ShellView where
  phase : Phase
  answers : List Answer
  counts : List ℕ

/-- A reception counts test packets. -/
def Phase.hears (p : Phase) (ev : RadioEvent) : Phase :=
  match p with
  | receiving count => if ev.IsTestPacket then receiving (count + 1) else p
  | idle | transmitting | carrier => p

/-- What a command that is taken answers and leaves behind. -/
def ShellCommand.acts (c : ShellCommand) (p : Phase) : Answer × Phase :=
  match c with
  | reset => (.done 0, p.restart)
  | rxTest => (.done 0, .receiving 0)
  | txCarrier | txTest => if p = .idle then (.done 0, .transmitting) else (.refused, p)
  | txPower | raw => (.refused, p)
  | endTest => (.packets p.count, .idle)

/-- The counts of an answer. The response has fifteen bits for one. -/
def Answer.counts : Answer → List ℕ
  | packets count => [count % 2 ^ 15]
  | done _ | refused => []

namespace ShellView

def initial : ShellView := ⟨.idle, [], []⟩

def step (t : ShellView) : ShellInput → ShellView
  | .command c args =>
    if (c.word args).isSome then
      { phase := (c.acts t.phase).2
        answers := t.answers ++ [(c.acts t.phase).1]
        counts := t.counts ++ (c.acts t.phase).1.counts }
    else t
  | .radio ev => { t with phase := t.phase.hears ev }
  | .anomaly _ => t

end ShellView

def ShellInput.isRaw : ShellInput → Bool
  | .command c _ => c == .raw
  | .radio _ | .anomaly _ => false

/-! ### Sessions without raw commands -/

/-- The session is in the phase, on a channel that no assertion stops at. -/
structure Session.Plain (v : Session) (p : Phase) : Prop where
  phase : v.phase = p
  noCarrier : p ≠ .carrier
  channel : v.channel.toNat ≤ 37
  receives : ∀ count, p = .receiving count → v.channel = 0
  gain : v.gain = femUseDefaultGain

variable {v : Session} {p : Phase}

/-- A Reset starts no carrier. -/
theorem Phase.restart_ne_carrier (h : p ≠ .carrier) : p.restart ≠ .carrier := by
  cases p with
  | idle | transmitting | carrier => exact h
  | receiving count => rintro ⟨⟩

theorem Phase.receiving_of_restart {count : ℕ} (h : p.restart = .receiving count) :
    ∃ n, p = .receiving n := by
  cases p with
  | receiving n => exact ⟨n, rfl⟩
  | idle | transmitting | carrier => cases h

theorem Phase.state_ne_carrierTest (h : p ≠ .carrier) : p.state ≠ .carrierTest := by
  cases p with
  | carrier => exact absurd rfl h
  | idle | receiving count | transmitting => rintro ⟨⟩

theorem Phase.state_eq_receiverTest (h : p.state = .receiverTest) :
    ∃ count, p = .receiving count := by
  cases p with
  | receiving count => exact ⟨count, rfl⟩
  | idle | transmitting | carrier => cases h

/-- After the initialisation nothing runs. -/
theorem Session.initial_plain : Session.initial.Plain .idle where
  phase := rfl
  noCarrier := by decide
  channel := by decide
  receives := by rintro count ⟨⟩
  gain := rfl

/-- No start is refused for its gain. -/
theorem Session.Plain.gainAccepted (h : v.Plain p) : Settings.gainRefused b v.gain = false := by
  rw [Settings.gainRefused, h.gain, bne_self_eq_false, Bool.and_false, Bool.false_and,
    Bool.false_and]

theorem Session.put_testSetup (v : Session) {cmd : UInt16} (hcode : cmdCode cmd = 0) :
    v.put b cmd = v.setup b (cmdControl cmd) (cmdParameter cmd) := by
  obtain ⟨type, htype⟩ := Decoder.cmdType_cases cmd
  rw [Session.put, htype, hcode]
  rfl

theorem Session.put_receiverTest (v : Session) {cmd : UInt16} (hcode : cmdCode cmd = 1) :
    v.put b cmd = .ok (v.receive (cmdChan cmd)) := by
  obtain ⟨type, htype⟩ := Decoder.cmdType_cases cmd
  rw [Session.put, htype, hcode]
  rfl

/-- The words of the shell have the packet type PRBS9. -/
theorem Session.put_transmitterTest (v : Session) {cmd : UInt16} (hcode : cmdCode cmd = 2)
    (htype : cmdType cmd = 0) :
    v.put b cmd = v.transmit b (cmdChan cmd) (withUpperLen (cmdLength cmd) v.upper) .prbs9 := by
  rw [Session.put, htype, hcode]
  rfl

/-- A transmission of the shell starts from idle. -/
theorem Session.Plain.transmit (h : v.Plain p) {channel : UInt8} (hc : channel.toNat ≤ 37)
    (length : UInt8) :
    ∃ v', v.transmit b channel length .prbs9 = .ok ((ShellCommand.txTest.acts p).1, v') ∧
      v'.Plain (ShellCommand.txTest.acts p).2 := by
  obtain rfl : v.phase = p := h.phase
  rw [Session.transmit, ShellCommand.acts]
  by_cases hidle : v.phase = .idle
  · have hlegal :
        (decide (channel.toNat ≤ physChMax) && !Settings.gainRefused b v.gain) = true := by
      rw [h.gainAccepted, decide_eq_true (hc.trans (by decide))]
      rfl
    rw [if_neg (not_not.2 hidle), if_neg (by decide), if_pos hlegal, if_pos hidle]
    exact ⟨_, rfl, rfl, by decide, hc, by rintro count ⟨⟩, h.gain⟩
  · rw [if_pos hidle, if_neg hidle]
    exact ⟨v, rfl, rfl, h.noCarrier, h.channel, h.receives, h.gain⟩

theorem ShellCommand.wordOn_eq_some {word : UInt8 → UInt16} {channel : UInt8} {cmd : UInt16}
    (h : wordOn word channel = some cmd) : channel.toNat < 40 ∧ cmd = word channel := by
  rw [wordOn] at h
  split_ifs at h with hc
  exact ⟨by omega, (Option.some.inj h).symm⟩

/-- A transmission with the channel for its length and the length for its channel. -/
theorem Session.Plain.put_txTest (h : v.Plain p) {channel length : UInt8} {cmd : UInt16}
    (hlength : ¬37 < length.toNat)
    (hcmd : ShellCommand.wordOn (Shell.txTestWord · length) channel = some cmd) :
    ∃ v', v.put b cmd = .ok ((ShellCommand.txTest.acts p).1, v') ∧
      v'.Plain (ShellCommand.txTest.acts p).2 := by
  obtain ⟨hc, rfl⟩ := ShellCommand.wordOn_eq_some hcmd
  obtain ⟨hcode, hchan, -, htype⟩ := txTestWord_fields _ hc length.toNat (by omega)
  rw [UInt8.ofNat_toNat, UInt8.ofNat_toNat] at hcode hchan htype
  rw [v.put_transmitterTest hcode htype, hchan]
  exact h.transmit (by omega) _

/-- **One word of the shell** does to the session what the command does to the phase. -/
theorem Session.Plain.put (h : v.Plain p) {c : ShellCommand} (hraw : c ≠ .raw)
    {args : List (List Char)} {cmd : UInt16} (hcmd : c.word args = some cmd) :
    ∃ v', v.put b cmd = .ok ((c.acts p).1, v') ∧ v'.Plain (c.acts p).2 := by
  obtain rfl : v.phase = p := h.phase
  cases c with
  | raw => exact absurd rfl hraw
  | reset =>
    obtain rfl : (0 : UInt16) = cmd := Option.some.inj hcmd
    -- the assertion of a Reset is on the channel, which is at most 37 in a plain session
    have hlegal : ¬(b.powerControlAutomatic = true ∧ physChMax < v.channel.toNat) :=
      fun hfault ↦ Nat.not_le.2 hfault.2 (h.channel.trans (by decide))
    refine ⟨_, (v.put_testSetup rfl).trans (if_neg hlegal), rfl,
      Phase.restart_ne_carrier h.noCarrier, h.channel, fun count hcount ↦ ?_, h.gain⟩
    obtain ⟨n, hn⟩ := Phase.receiving_of_restart hcount
    exact h.receives n hn
  | endTest =>
    obtain rfl : (0xC000 : UInt16) = cmd := Option.some.inj hcmd
    exact ⟨_, rfl, rfl, by rintro ⟨⟩, h.channel, by rintro count ⟨⟩, h.gain⟩
  -- one argument is the only count that the handler takes
  | rxTest =>
    rcases args with - | ⟨arg, - | ⟨arg', args⟩⟩
    · cases hcmd
    · obtain ⟨hc, rfl⟩ := ShellCommand.wordOn_eq_some hcmd
      obtain ⟨hcode, hchan⟩ := rxTestWord_fields _ hc
      rw [UInt8.ofNat_toNat] at hcode hchan
      rw [v.put_receiverTest hcode, hchan]
      exact ⟨_, rfl, rfl, by rintro ⟨⟩, Nat.zero_le 37, fun _ _ ↦ rfl, h.gain⟩
    · cases hcmd
  | txCarrier =>
    rcases args with - | ⟨arg, - | ⟨arg', args⟩⟩
    · cases hcmd
    · obtain ⟨hc, rfl⟩ := ShellCommand.wordOn_eq_some hcmd
      obtain ⟨hcode, hchan, -, htype⟩ := txCarrierWord_fields _ hc
      rw [UInt8.ofNat_toNat] at hcode hchan htype
      rw [v.put_transmitterTest hcode htype, hchan]
      exact h.transmit (by decide) _
    · cases hcmd
  | txTest =>
    -- without a length the default is in its place
    rcases args with - | ⟨arg, - | ⟨length, - | ⟨arg', args⟩⟩⟩
    · cases hcmd
    · exact h.put_txTest (by decide) hcmd
    · rw [ShellCommand.word] at hcmd
      split_ifs at hcmd with hlength
      exact h.put_txTest hlength hcmd
    · cases hcmd
  | txPower =>
    rcases args with - | ⟨arg, - | ⟨arg', args⟩⟩
    · cases hcmd
    · obtain ⟨hcode, hcontrol⟩ := txPowerWord_fields (Shell.octetOf (atoi arg)).toInt8
      obtain rfl := Option.some.inj hcmd
      rw [v.put_testSetup hcode, hcontrol]
      exact ⟨v, rfl, rfl, h.noCarrier, h.channel, h.receives, h.gain⟩
    · cases hcmd

/-- A packet on the air. -/
theorem Session.Plain.hears (h : v.Plain p) (ev : RadioEvent) :
    (v.hears ev).Plain (p.hears ev) := by
  rw [Session.hears, h.phase]
  cases p with
  | idle | transmitting | carrier => exact h
  | receiving count =>
    show Session.Plain (if ev.IsTestPacket then _ else v)
      (if ev.IsTestPacket then .receiving (count + 1) else .receiving count)
    split_ifs
    · exact ⟨rfl, by rintro ⟨⟩, h.channel, fun _ _ ↦ h.receives count rfl, h.gain⟩
    · exact h

/-! ### The counts -/

/-- A packet report has its highest bit, and fifteen bits for the count. -/
theorem Answer.word_packets (n : ℕ) :
    (packets n).word &&& 0x8000 ≠ 0 ∧ ((packets n).word &&& 0x7FFF).toNat = n % 2 ^ 15 := by
  have hword : (packets n).word.toNat = 2 ^ 15 ||| n % 2 ^ 16 := UInt16.toNat_or ..
  constructor
  · intro hzero
    have hbit : ((packets n).word &&& 0x8000).toNat.testBit 15 = true := by
      rw [UInt16.toNat_and, hword, Nat.testBit_and, Nat.testBit_or]
      rfl
    rw [hzero] at hbit
    cases hbit
  · rw [UInt16.toNat_and, hword, show (0x7FFF : UInt16).toNat = 2 ^ 15 - 1 from rfl,
      Nat.and_two_pow_sub_one_eq_mod, Nat.or_mod_two_pow, Nat.mod_self, Nat.zero_or,
      Nat.mod_mod_of_dvd n (by decide)]

namespace ShellNode

/-- The number that a line of `dtm end` shows. -/
def readCount (line : List Char) : ℕ := (Numeral.scan 10 0 (line.drop countLabel.length)).1

/-- The counts that the printed lines show. -/
def counts (log : List (Ret × List (List Char))) : List ℕ :=
  log.flatMap fun r ↦ if r.1 = .ok then r.2.tail.map readCount else []

/-- A count that is printed is read again. -/
theorem readCount_dec (n : ℕ) : readCount (countLabel ++ dec n) = n := by
  have hread := Numeral.scan_print (by decide : 1 < 10) (by decide) n Numeral.ends_nil
  rw [List.append_nil] at hread
  rw [readCount, List.drop_left, dec, if_neg (Int.not_lt.2 (Int.natCast_nonneg n)),
    Int.natAbs_natCast, hread]

theorem counts_append (log : List (Ret × List (List Char))) (r : Ret × List (List Char)) :
    counts (log ++ [r]) = counts log ++ if r.1 = .ok then r.2.tail.map readCount else [] := by
  rw [counts, counts, List.flatMap_append]
  exact congrArg _ (List.flatMap_singleton ..)

/-- The counts that a command prints are those of its answer. -/
theorem readCount_more {c : ShellCommand} (hraw : c ≠ .raw) (p : Phase) :
    (c.more (c.acts p).1.word).map readCount = (c.acts p).1.counts := by
  cases c with
  | raw => exact absurd rfl hraw
  | reset | rxTest | txPower => rfl
  | txCarrier | txTest =>
    rw [ShellCommand.acts]
    split_ifs <;> rfl
  | endTest =>
    obtain ⟨hreport, hcount⟩ := Answer.word_packets p.count
    show (countLines (Answer.packets p.count).word).map readCount = [p.count % 2 ^ 15]
    rw [countLines, if_pos hreport, hcount, List.map_singleton, readCount_dec]

/-! ### One input -/

variable {s : ShellNode} {t : ShellView}

/-- The shell is in the phase and has printed the answers and the counts. -/
structure Views (b : Build) (s : ShellNode) (t : ShellView) : Prop where
  session : ∃ v : Session, v.Plain t.phase ∧
    Session.Follows b (s.firmware, responses s.log) (v, t.answers)
  counts : counts s.log = t.counts

/-- What reaches the core goes on as the session does. -/
theorem Views.core (hb : b.PowerTable) {v v' : Session} {answers answers' : List Answer}
    (h : Session.Follows b (s.firmware, responses s.log) (v, answers)) {i : ShellInput}
    {j : FirmwareInput} (hi : i.core = some j) (hj : j.isCore = true)
    (hv : Session.noted b (v, answers) j = .ok (v', answers')) :
    ∃ s', s.step b q i = .ok s' ∧
      Session.Follows b (s'.firmware, responses s'.log) (v', answers') := by
  have hstep := (step_core (b := b) (q := q) (s := s) ⟨rfl, rfl⟩ hi).trans
    (Session.step_follows hb h hj)
  obtain ⟨s', hs', x, hshows, hfollows⟩ := hstep.of_ok_right hv
  refine ⟨s', hs', ?_⟩
  rw [hshows.firmware, hshows.responses]
  exact hfollows

/-- **One input** other than a raw command. -/
theorem Views.step (hb : b.PowerTable) (h : s.Views b t) {i : ShellInput}
    (hi : i.isRaw = false) : ∃ s', s.step b q i = .ok s' ∧ s'.Views b (t.step i) := by
  obtain ⟨v, hplain, hfollows⟩ := h.session
  cases i with
  | radio ev =>
    obtain ⟨s', hs', hfollows'⟩ := Views.core (q := q) hb hfollows (i := .radio ev) rfl rfl rfl
    refine ⟨s', hs', ⟨_, hplain.hears ev, hfollows'⟩, ?_⟩
    obtain ⟨f, -, hf⟩ := bind_eq_ok.1 hs'
    cases hf
    exact h.counts
  | anomaly ev =>
    obtain ⟨s', hs', hfollows'⟩ := Views.core (q := q) hb hfollows (i := .anomaly ev) rfl rfl rfl
    refine ⟨s', hs', ⟨_, hplain, hfollows'⟩, ?_⟩
    obtain ⟨f, -, hf⟩ := bind_eq_ok.1 hs'
    cases hf
    exact h.counts
  | command c args =>
    have hraw : c ≠ .raw := ne_of_beq_false hi
    rw [ShellView.step]
    cases c.handled args with
    | rejected hword lines hhandler =>
      rw [hword, if_neg (by decide)]
      refine ⟨_, command_rejected hhandler s, ⟨v, hplain, ?_⟩, ?_⟩
      · rw [responses_append, if_neg (by rintro ⟨⟩)]
        rw [Option.toList_none, List.append_nil]
        exact hfollows
      · rw [counts_append, if_neg (by rintro ⟨⟩), List.append_nil]
        exact h.counts
    | sent hword label hhandler =>
      obtain ⟨v', hput, hplain'⟩ := hplain.put (b := b) hraw hword
      have hnoted : Session.noted b (v, t.answers) (.word _) =
          .ok (v', t.answers ++ [(c.acts t.phase).1]) := bind_eq_ok.2 ⟨_, hput, rfl⟩
      obtain ⟨s', hs', hfollows'⟩ := Views.core (q := q) hb hfollows (i := .command c args)
        (congrArg (Option.map FirmwareInput.word) hword) rfl hnoted
      rw [hword, if_pos (by rfl)]
      refine ⟨s', hs', ⟨v', hplain', hfollows'⟩, ?_⟩
      -- the response that is printed is the answer
      obtain ⟨x, -, hx⟩ := bind_eq_ok.1 ((command_sent hhandler s).symm.trans hs')
      obtain rfl := Except.ok.inj hx
      have hprinted : responses s.log ++ [x.1] =
          (t.answers ++ [(c.acts t.phase).1]).map Answer.word := by
        rw [← hfollows'.words, responses_append, if_pos rfl, List.head?_cons, Option.map_some,
          readResponse_response]
        rfl
      have hwords : responses s.log = t.answers.map Answer.word := hfollows.words
      rw [List.map_append, hwords] at hprinted
      have hanswer : x.1 = (c.acts t.phase).1.word :=
        List.singleton_inj.1 (List.append_cancel_left hprinted)
      rw [counts_append, if_pos rfl, List.tail_cons, hanswer, readCount_more hraw, h.counts]

/-! ### Runs -/

theorem Initial.views (hb : b.PowerTable) (hs : s.Initial b) : s.Views b .initial where
  session := by
    refine ⟨_, Session.initial_plain, Session.initial_shows hb hs.firmware, ?_⟩
    rw [hs.log]
    rfl
  counts := by
    rw [hs.log]
    rfl

/-- **A run** without raw commands comes to its end, and is viewed as the machine's. -/
theorem Views.run (hb : b.PowerTable) (h : s.Views b t) {is : List ShellInput}
    (his : ∀ i ∈ is, i.isRaw = false) :
    ∃ s', Fallible.run (ShellNode.step b q) s is = .ok s' ∧
      s'.Views b (is.foldl ShellView.step t) := by
  induction is generalizing s t with
  | nil => exact ⟨s, rfl, h⟩
  | cons i is ih =>
    obtain ⟨u, hu, hviews⟩ := h.step (q := q) hb (his i List.mem_cons_self)
    obtain ⟨s', hs', h'⟩ := ih hviews fun j hj ↦ his j (List.mem_cons_of_mem i hj)
    exact ⟨s', bind_eq_ok.2 ⟨u, hu, hs'⟩, h'⟩

/-- **Without raw commands the shell stops at no assertion.** It never leads to a carrier, its
receptions are on 2402 MHz whatever channel is typed, and its transmissions are at 2476 MHz at
most. -/
theorem never_stops (hb : b.PowerTable) (hs : s.Initial b) {is : List ShellInput}
    (his : ∀ i ∈ is, i.isRaw = false) :
    ∃ s', run (ShellNode.step b q) s is = .ok s' ∧ s'.firmware.device.state ≠ .carrierTest ∧
      (s'.firmware.device.state = .receiverTest →
        s'.firmware.device.radio.frequency.toNat = 2402) ∧
      (s'.firmware.device.state = .transmitterTest →
        s'.firmware.device.radio.frequency.toNat ≤ 2476) := by
  obtain ⟨s', hrun, h⟩ := (hs.views hb).run (q := q) hb his
  obtain ⟨v, hplain, hfollows⟩ := h.session
  have hstate : s'.firmware.device.state = v.phase.state := hfollows.shows.fits.state
  have hphysCh : s'.firmware.device.physCh.toNat = v.channel.toNat := by
    rw [hfollows.shows.fits.channel, UInt8.toNat_toUInt32]
  have hfrequency (htesting : s'.firmware.device.state.testing = true) :
      s'.firmware.device.radio.frequency.toNat = 2402 + 2 * v.channel.toNat := by
    rw [(hfollows.shows.tuned.placed htesting).frequency, hphysCh]
  refine ⟨s', hrun, ?_, fun hrx ↦ ?_, fun htx ↦ ?_⟩
  · rw [hstate, hplain.phase]
    exact Phase.state_ne_carrierTest hplain.noCarrier
  · obtain ⟨count, hcount⟩ := Phase.state_eq_receiverTest (hstate.symm.trans hrx)
    have hchannel : v.channel = 0 := hplain.receives count (hplain.phase.symm.trans hcount)
    rw [hfrequency (by rw [hrx]; rfl), hchannel]
    rfl
  · have hchannel := hplain.channel
    rw [hfrequency (by rw [htx]; rfl)]
    omega

/-- A reception for channel 5. -/
theorem never_stops_reception :
    ∃ s', run (ShellNode.step (.nrf5340 true false) 1024) .nrf5340 receptionTyped = .ok s' ∧
      s'.firmware.device.state ≠ .carrierTest ∧
      (s'.firmware.device.state = .receiverTest →
        s'.firmware.device.radio.frequency.toNat = 2402) ∧
      (s'.firmware.device.state = .transmitterTest →
        s'.firmware.device.radio.frequency.toNat ≤ 2476) :=
  never_stops (Build.nrf5340_powerTable true false) nrf5340_initial (by simp [receptionTyped,
    ShellInput.isRaw])

/-- **What is printed without raw commands.** The responses are the answers of the machine with
three phases, the numbers of `dtm end` are its counts, and the device is in its phase. -/
theorem prints_counts (hb : b.PowerTable) (hs : s.Initial b) {is : List ShellInput}
    (his : ∀ i ∈ is, i.isRaw = false) :
    ∃ s', run (ShellNode.step b q) s is = .ok s' ∧
      responses s'.log = (is.foldl ShellView.step .initial).answers.map Answer.word ∧
      counts s'.log = (is.foldl ShellView.step .initial).counts ∧
      s'.firmware.device.state = (is.foldl ShellView.step .initial).phase.state := by
  obtain ⟨s', hrun, h⟩ := (hs.views hb).run (q := q) hb his
  obtain ⟨v, hplain, hfollows⟩ := h.session
  refine ⟨s', hrun, hfollows.words, h.counts, ?_⟩
  rw [← hplain.phase]
  exact hfollows.shows.fits.state

/-- One packet is received and reported, and the transmission in between is refused. -/
theorem prints_counts_reception :
    ∃ s', run (ShellNode.step (.nrf5340 true false) 1024) .nrf5340 receptionTyped = .ok s' ∧
      responses s'.log = [0x0001, 0x0000, 0x8001] ∧ counts s'.log = [1] ∧
      s'.firmware.device.state = .idle := by
  have hview : receptionTyped.foldl ShellView.step .initial =
      ⟨.idle, [.done 0, .refused, .packets 1], [1]⟩ := rfl
  have hplain : ∀ i ∈ receptionTyped, i.isRaw = false := by
    simp [receptionTyped, ShellInput.isRaw]
  have h := prints_counts (q := 1024) (Build.nrf5340_powerTable true false) nrf5340_initial hplain
  rwa [hview] at h

end ShellNode

end DirectTestMode
