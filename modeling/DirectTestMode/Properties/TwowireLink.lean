import DirectTestMode.Machine.Records
import DirectTestMode.Machine.Transducer
import DirectTestMode.Transport.TwowireNode

/-!
# Command words on one wire, responses on the other

A tester of the two-wire interface sends words of two octets and reads words of two octets. In every
run it reads one response for each command that `dtm_tr_get` has paired, in their order, and the
responses are those of the firmware on these words, with the same interrupts between them
(`responses_in_order`). If no first octet is given up, the words are those that were sent, so every
command has its response (`one_response_each`).

The node is two machines in sequence. Its receiver is a transducer from what happens to what the
firmware is given (`front`), and `run_firmware` says that the rest of the node is the firmware.

## Two receivers, two decoders

The result is for both receivers, UART and RTT, with both decoders, the shared core and the UART
transport's own. The receivers differ in when they look at the clock and the decoders in what they
do with a word; neither matters for the order. What does matter of the receiver is when it **gives
up** a first octet, `TwowireReceiver.Keeps`. The rule is another one for each of the two: the UART
receiver gives up an octet when it finds the next one too late, the RTT receiver when it finds none
for too long.

## From polls to words

`wordReader` reads words off a stream of octets, and nothing else. `read_polls` says that a receiver
that gives up nothing finds the words of the stream, with what is pending in its state as the part
that the reader has not taken; the induction is on the polls. It is an invariant of the receiver
alone, so the firmware behind it and the interrupts do not enter.

The responses are octets on the other wire, and are read with the same reader. Each command writes
two of them, so nothing is ever left over (`read_written`). What they say is a matter of the
firmware: `Firmware.noted` runs it with a note of its responses, and the session of
`Properties.TesterSession` says what they mean.
-/

namespace DirectTestMode

open Fallible Transducer

variable {r : TwowireReceiver} {d : TwowireDecoder} {b : Build} {q : ℕ}

/-! ### The receiver -/

/-- The octets that have arrived and belong to no command yet. -/
def Rx.pending (rx : Rx) : List UInt8 := rx.2.toList.map Octet.value ++ rx.1

/-- The poll does not give up the first octet of a command. The UART receiver does when it finds
another octet too late, and the RTT receiver when it finds none for too long. -/
def TwowireReceiver.Keeps (r : TwowireReceiver) (rx : Rx) (p : Poll) : Prop :=
  match r with
  | .uart => ∀ msb ∈ rx.2, rx.1 ++ p.arrived ≠ [] → p.now - msb.time ≤ secondByteMaxDelay
  | .rtt => ∀ msb ∈ rx.2, rx.1 ++ p.arrived = [] → p.now - msb.time ≤ secondByteMaxDelay

/-- A command is a word and what is left of the stream after it. -/
theorem TwowireReceiver.Keeps.read {rx : Rx} {p : Poll} (h : r.Keeps rx p) :
    wordReader.read (rx.pending ++ p.arrived) =
      (((r.poll rx p).2.map RxCommand.twowire).toList ++
          (wordReader.read (r.poll rx p).1.pending).1,
        (wordReader.read (r.poll rx p).1.pending).2) := by
  obtain ⟨fifo, msb⟩ := rx
  have hword (first second : UInt8) (rest : List UInt8) :
      wordReader.read (first :: second :: rest) =
        ((first.toUInt16 <<< 8 ||| second.toUInt16) :: (wordReader.read rest).1,
          (wordReader.read rest).2) := RecordReader.read_some (r := some _) rfl
  cases r with
  -- the UART takes one octet a poll
  | uart =>
    rw [poll, UartTwowire.poll, comp, UartTwowire.pollIn]
    rcases hfifo : fifo ++ p.arrived with - | ⟨rxByte, rest⟩
    · obtain ⟨rfl, harrived⟩ := List.append_eq_nil_iff.1 hfifo
      rw [harrived, List.append_nil]
      rfl
    · rcases msb with - | msb
      · rw [Rx.pending, List.append_assoc, hfifo]
        rfl
      · have hin : ¬secondByteMaxDelay < p.now - msb.time :=
          not_lt.2 (h msb rfl (hfifo ▸ List.cons_ne_nil rxByte rest))
        rw [Rx.pending, List.append_assoc, hfifo]
        simp only [UartTwowire.accept, if_neg hin]
        exact hword msb.value rxByte rest
  -- RTT takes two octets where both are there
  | rtt =>
    rw [poll, RttTwowire.poll, Rx.pending, List.append_assoc]
    rcases msb with - | msb
    · rcases fifo ++ p.arrived with - | ⟨first, - | ⟨second, rest⟩⟩
      · rfl
      · rfl
      · exact hword first second rest
    · rcases hfifo : fifo ++ p.arrived with - | ⟨rxByte, rest⟩
      · have hin : ¬secondByteMaxDelay < p.now - msb.time := not_lt.2 (h msb rfl hfifo)
        simp only [if_neg hin]
        rfl
      · exact hword msb.value rxByte rest

/-- **Nothing is lost**, by induction on the polls: the commands and what is pending are what has
arrived. -/
theorem read_polls {rx : Rx} {polls : List Poll} (h : Guarded (next r.poll) r.Keeps rx polls) :
    wordReader.read (rx.pending ++ polls.flatMap Poll.arrived) =
      ((outputs r.poll rx polls).map RxCommand.twowire ++
          (wordReader.read (after r.poll rx polls).pending).1,
        (wordReader.read (after r.poll rx polls).pending).2) := by
  induction polls generalizing rx with
  | nil =>
    rw [List.flatMap_nil, List.append_nil]
    rfl
  | cons p polls ih =>
    obtain ⟨hp, h⟩ := guarded_cons.1 h
    have ih := ih h
    rw [RecordReader.read_append] at ih
    rw [List.flatMap_cons, ← List.append_assoc, RecordReader.read_append, hp.read, after_cons]
    dsimp only
    rw [List.append_assoc, (Prod.mk.inj ih).1, (Prod.mk.inj ih).2, outputs_cons, List.map_append,
      List.append_assoc]
    cases (r.poll rx p).2 <;> rfl

/-! ### The node as the firmware behind its receiver -/

/-- The masks are those of an octet. -/
theorem responseOctets_eq (ret : UInt16) : responseOctets ret = wordOctets ret := by
  rw [responseOctets, UInt16.toUInt8_and, UInt16.toUInt8_and]
  exact congrArg₂ (fun x y ↦ [x, y]) UInt8.and_neg_one UInt8.and_neg_one

def TwowireNodeInput.poll? : TwowireNodeInput → Option Poll
  | .poll p => some p
  | .radio _ | .anomaly _ => none

def FirmwareInput.commandWord : FirmwareInput → Option UInt16
  | .word cmd | .uartWord cmd => some cmd
  | .hci .. | .radio _ | .anomaly _ | .txDone => none

/-- The response to an input, if it has one. -/
def Firmware.response (b : Build) (q : ℕ) (f : Firmware) : FirmwareInput → Option UInt16
  | .word cmd => (f.put b q cmd).toOption.map Prod.fst
  | .uartWord cmd => (f.uartPut b q cmd).toOption.map Prod.fst
  | .hci .. | .radio _ | .anomaly _ | .txDone => none

/-- The note of the responses. -/
def Firmware.responses (b : Build) (q : ℕ) (f : Firmware) (i : FirmwareInput) (log : List UInt16) :
    List UInt16 := log ++ (f.response b q i).toList

/-- The firmware with its responses noted. -/
def Firmware.noted (b : Build) (q : ℕ) :
    Firmware × List UInt16 → FirmwareInput → Except Fault (Firmware × List UInt16) :=
  noteStep (Firmware.step b q) (Firmware.responses b q)

/-- The response of a command is noted. -/
theorem Firmware.noted_put {f : Firmware} {cmd : UInt16} {x : UInt16 × Firmware}
    (h : d.put b q f cmd = .ok x) (log : List UInt16) :
    Firmware.noted b q (f, log) (d.input cmd) = .ok (x.2, log ++ [x.1]) := by
  cases d with
  | core =>
    have hput : f.put b q cmd = .ok x := h
    refine bind_eq_ok.2 ⟨x.2, bind_eq_ok.2 ⟨x, hput, rfl⟩, ?_⟩
    show Except.ok (x.2, log ++ ((f.put b q cmd).toOption.map Prod.fst).toList) = _
    rw [hput]
    rfl
  | uart =>
    have hput : f.uartPut b q cmd = .ok x := h
    refine bind_eq_ok.2 ⟨x.2, bind_eq_ok.2 ⟨x, hput, rfl⟩, ?_⟩
    show Except.ok (x.2, log ++ ((f.uartPut b q cmd).toOption.map Prod.fst).toList) = _
    rw [hput]
    rfl

/-- Every command word has a response. -/
theorem Firmware.length_noted {f f' : Firmware} {log log' : List UInt16} {js : List FirmwareInput}
    (h : run (Firmware.noted b q) (f, log) js = .ok (f', log')) :
    log'.length = log.length + (js.filterMap FirmwareInput.commandWord).length := by
  induction js generalizing f log with
  | nil =>
    cases h
    rfl
  | cons j js ih =>
    obtain ⟨⟨g, log''⟩, hstep, h⟩ := bind_eq_ok.1 h
    obtain ⟨g', hg, hstep⟩ := bind_eq_ok.1 hstep
    have hlog : f.responses b q j log = log'' := congrArg Prod.snd (Except.ok.inj hstep)
    rw [ih h, ← hlog, Firmware.responses, List.length_append, Nat.add_assoc]
    refine congrArg (log.length + ·) ?_
    have hcmd {x : Except Fault (UInt16 × Firmware)} {g : Firmware}
        (hx : (x >>= fun x ↦ pure x.2) = .ok g) :
        ((x.toOption.map Prod.fst).toList).length = 1 := by
      obtain ⟨y, rfl, -⟩ := bind_eq_ok.1 hx
      rfl
    cases j with
    | word cmd =>
      rw [Firmware.response, hcmd hg, List.filterMap_cons]
      exact Nat.add_comm _ _
    | uartWord cmd =>
      rw [Firmware.response, hcmd hg, List.filterMap_cons]
      exact Nat.add_comm _ _
    | hci | radio | anomaly | txDone => exact Nat.zero_add _

namespace TwowireNode

/-- The receiver passes interrupts on. -/
def front (r : TwowireReceiver) (d : TwowireDecoder) (rx : Rx) :
    TwowireNodeInput → Rx × Option FirmwareInput
  | .poll p => ((r.poll rx p).1, (r.poll rx p).2.map fun cmd ↦ d.input cmd.twowire)
  | .radio ev => (rx, some (.radio ev))
  | .anomaly ev => (rx, some (.anomaly ev))

def polls (is : List TwowireNodeInput) : List Poll := is.filterMap TwowireNodeInput.poll?

/-- The interrupts pass the receiver by. -/
theorem after_front (rx : Rx) (is : List TwowireNodeInput) :
    after (front r d) rx is = after r.poll rx (polls is) := by
  induction is generalizing rx with
  | nil => rfl
  | cons i is ih => cases i <;> exact ih _

/-- The words for the firmware are the commands. -/
theorem commandWords_front (rx : Rx) (is : List TwowireNodeInput) :
    (outputs (front r d) rx is).filterMap FirmwareInput.commandWord =
      (outputs r.poll rx (polls is)).map RxCommand.twowire := by
  induction is generalizing rx with
  | nil => rfl
  | cons i is ih =>
    rw [outputs_cons, List.filterMap_append, ih]
    cases i with
    | poll p =>
      show _ = ((outputs r.poll rx (p :: polls is)).map RxCommand.twowire)
      rw [outputs_cons, List.map_append, front]
      rcases (r.poll rx p).2 with - | cmd
      · rfl
      · cases d <;> rfl
    | radio ev | anomaly ev => rfl

variable {s s' : TwowireNode}

/-- **What a step does**: the receiver moves on, and the firmware does what it is given, if that is
anything. -/
theorem step_firmware {i : TwowireNodeInput} (h : s.step r d b q i = .ok s') (log : List UInt16) :
    s'.rx = (front r d s.rx i).1 ∧
      ∃ ws, run (Firmware.noted b q) (s.firmware, log)
          (front r d s.rx i).2.toList = .ok (s'.firmware, log ++ ws) ∧
        s'.written = s.written ++ ws.flatMap wordOctets := by
  cases i with
  | poll p =>
    rw [step] at h
    rw [front]
    rcases hpoll : r.poll s.rx p with ⟨rx, - | cmd⟩ <;> simp only [hpoll] at h
    · cases h
      exact ⟨rfl, [], by rw [List.append_nil]; rfl, (List.append_nil _).symm⟩
    · obtain ⟨x, hx, h⟩ := bind_eq_ok.1 h
      cases h
      refine ⟨rfl, [x.1], ?_, ?_⟩
      · exact bind_eq_ok.2 ⟨_, Firmware.noted_put hx log, rfl⟩
      · rw [responseOctets_eq, List.flatMap_cons, List.flatMap_nil, List.append_nil]
  | radio ev | anomaly ev =>
    obtain ⟨f, hf, h⟩ := bind_eq_ok.1 h
    cases h
    exact ⟨rfl, [], bind_eq_ok.2 ⟨_, bind_eq_ok.2 ⟨f, hf, rfl⟩, rfl⟩, (List.append_nil _).symm⟩

/-- **A run of the node** is one of the firmware, by induction on the inputs. -/
theorem run_firmware {is : List TwowireNodeInput} (h : run (step r d b q) s is = .ok s')
    (log : List UInt16) :
    s'.rx = after (front r d) s.rx is ∧
      ∃ ws, run (Firmware.noted b q) (s.firmware, log)
          (outputs (front r d) s.rx is) = .ok (s'.firmware, log ++ ws) ∧
        s'.written = s.written ++ ws.flatMap wordOctets := by
  induction is generalizing s log with
  | nil =>
    cases h
    exact ⟨rfl, [], by rw [List.append_nil]; rfl, (List.append_nil _).symm⟩
  | cons i is ih =>
    obtain ⟨t, ht, h⟩ := bind_eq_ok.1 h
    obtain ⟨hrx, ws, hws, hwritten⟩ := step_firmware ht log
    obtain ⟨hrx', ws', hws', hwritten'⟩ := ih h (log ++ ws)
    rw [hrx] at hrx' hws'
    refine ⟨hrx', ws ++ ws', ?_, ?_⟩
    · rw [outputs_cons, run_append, hws, ← List.append_assoc]
      exact hws'
    · rw [hwritten', hwritten, List.append_assoc, List.flatMap_append]

/-! ### The two wires -/

/-- What the tester reads in a run. -/
theorem read_written (hs : s.Initial b) {is : List TwowireNodeInput}
    (h : run (step r d b q) s is = .ok s') :
    ∃ ws, wordReader.read s'.written = (ws, []) ∧
      run (Firmware.noted b q) (s.firmware, []) (outputs (front r d) .start is) =
        .ok (s'.firmware, ws) ∧
      ws.length = ((outputs (front r d) .start is).filterMap FirmwareInput.commandWord).length := by
  obtain ⟨-, ws, hrun, hwritten⟩ := run_firmware h []
  rw [hs.rx, List.nil_append] at hrun
  rw [hs.written, List.nil_append] at hwritten
  refine ⟨ws, ?_, hrun, ?_⟩
  · have hread := RecordReader.read_flatMap_encode (R := wordReader)
      (fun w (_ : w ∈ ws) ↦ wordReader_next w) []
    rwa [List.append_nil, ← hwritten, wordReader_nil,
      List.append_nil] at hread
  · rw [Firmware.length_noted hrun, List.length_nil, Nat.zero_add]

/-- **Responses come in the order of the commands.** In every run, whatever the schedule of the
polls and the interrupts, the tester reads whole words, one for each command that was paired. They
are the responses of the firmware to these commands, with the interrupts where they came. -/
theorem responses_in_order (hs : s.Initial b) {is : List TwowireNodeInput}
    (h : run (step r d b q) s is = .ok s') :
    ∃ ws, wordReader.read s'.written = (ws, []) ∧
      run (Firmware.noted b q) (s.firmware, []) (outputs (front r d) .start is) =
        .ok (s'.firmware, ws) ∧
      (outputs (front r d) .start is).filterMap FirmwareInput.commandWord =
        (outputs r.poll .start (polls is)).map RxCommand.twowire ∧
      ws.length = (outputs r.poll .start (polls is)).length := by
  obtain ⟨ws, hread, hrun, hlength⟩ := read_written hs h
  have hwords := commandWords_front (r := r) (d := d) Rx.start is
  refine ⟨ws, hread, hrun, hwords, ?_⟩
  rw [hlength, hwords, List.length_map]

/-- **Every word has its response**, in a run in which no first octet is given up, once nothing
that has arrived is pending. -/
theorem one_response_each (hs : s.Initial b) {is : List TwowireNodeInput}
    (h : run (step r d b q) s is = .ok s') {cmds : List UInt16}
    (hsent : (polls is).flatMap Poll.arrived = cmds.flatMap wordOctets)
    (hkeeps : Guarded (next r.poll) r.Keeps .start (polls is)) (hdone : s'.rx.pending = []) :
    ∃ ws, wordReader.read s'.written = (ws, []) ∧ ws.length = cmds.length ∧
      run (Firmware.noted b q) (s.firmware, []) (outputs (front r d) .start is) =
        .ok (s'.firmware, ws) ∧
      (outputs (front r d) .start is).filterMap FirmwareInput.commandWord = cmds := by
  obtain ⟨ws, hread, hrun, hlength⟩ := read_written hs h
  have hrx : s'.rx = after r.poll .start (polls is) := by
    rw [(run_firmware h []).1, after_front, hs.rx]
  have hcmds : (outputs r.poll .start (polls is)).map RxCommand.twowire = cmds := by
    have hpolls := (read_polls hkeeps).symm
    have hencode := RecordReader.read_flatMap_encode (R := wordReader)
      (fun w (_ : w ∈ cmds) ↦ wordReader_next w) []
    rw [List.append_nil, ← hsent, wordReader_nil] at hencode
    have hstart : Rx.start.pending = [] := rfl
    rw [← hrx, hdone, hstart, List.nil_append, hencode,
      wordReader_nil] at hpolls
    simpa using congrArg Prod.fst hpolls
  have hwords := commandWords_front (r := r) (d := d) Rx.start is
  rw [hcmds] at hwords
  exact ⟨ws, hread, by rw [hlength, hwords], hrun, hwords⟩

/-- The node with the nRF5340. -/
def nrf5340 : TwowireNode := ⟨.start, .ofDevice .nrf5340, []⟩

theorem nrf5340_initial : nrf5340.Initial (.nrf5340 true false) :=
  ⟨rfl, ⟨Device.nrf5340_initialised true false, rfl, rfl⟩, rfl⟩

/-- A Test End, whose second octet is late on the UART, and a Test End in time. -/
def testEndInputs : List TwowireNodeInput :=
  [.poll ⟨0, [0xC0]⟩, .poll ⟨20, []⟩, .poll ⟨40, [0xC0]⟩, .poll ⟨43, [0x00]⟩]

/-- The receiver drops the late octet, and the one word left has its response. -/
theorem responses_in_order_testEnd :
    ∃ s' ws, run (step .uart .uart (.nrf5340 true false) 1024) nrf5340 testEndInputs = .ok s' ∧
      wordReader.read s'.written = (ws, []) ∧ ws.length = 1 := by
  obtain ⟨s', hs'⟩ : ∃ s', run (step .uart .uart (.nrf5340 true false) 1024) nrf5340
      testEndInputs = .ok s' := ⟨_, rfl⟩
  obtain ⟨ws, hread, -, -, hlength⟩ := responses_in_order nrf5340_initial hs'
  exact ⟨s', ws, hs', hread, hlength⟩

/-- The octets are 40 ms apart, with a poll in between that the RTT receiver does not time out
at. -/
theorem one_response_each_testEnd :
    ∃ s' ws, run (step .rtt .core (.nrf5340 true false) 1024) nrf5340
        [.poll ⟨0, [0xC0]⟩, .poll ⟨3, []⟩, .poll ⟨40, [0x00]⟩] = .ok s' ∧
      wordReader.read s'.written = (ws, []) ∧ ws.length = 1 := by
  obtain ⟨s', hs', hdone⟩ : ∃ s', run (step .rtt .core (.nrf5340 true false) 1024) nrf5340
      [.poll ⟨0, [0xC0]⟩, .poll ⟨3, []⟩, .poll ⟨40, [0x00]⟩] = .ok s' ∧ s'.rx.pending = [] :=
    ⟨_, rfl, rfl⟩
  have hsent : [⟨0, [0xC0]⟩, ⟨3, []⟩, ⟨40, [0x00]⟩].flatMap Poll.arrived =
      [0xC000].flatMap wordOctets := rfl
  -- the RTT receiver looks at the clock when it finds nothing, which is 3 ms after the first octet
  have hkeeps : Guarded (next RttTwowire.poll) (TwowireReceiver.Keeps .rtt) .start
      [⟨0, [0xC0]⟩, ⟨3, []⟩, ⟨40, [0x00]⟩] := by
    refine guarded_cons.2 ⟨?_, guarded_cons.2 ⟨?_, guarded_cons.2 ⟨?_, trivial⟩⟩⟩
    · rintro msb ⟨⟩
    · rintro msb ⟨⟩ -
      decide
    · exact fun _ _ h ↦ absurd h (List.cons_ne_nil _ _)
  obtain ⟨ws, hread, hlength, -⟩ := one_response_each nrf5340_initial hs' hsent hkeeps hdone
  exact ⟨s', ws, hs', hread, hlength⟩

end TwowireNode

end DirectTestMode
