import DirectTestMode.Properties.Decoding
import DirectTestMode.Properties.ShellCommands
import DirectTestMode.Properties.TesterSession
import DirectTestMode.Transport.ShellNode

/-!
# A tester at the shell

What a tester types is text, and what the tester reads is text. Each command that is taken prints
the response in hexadecimal at the end of its first line, so a run of the shell is read as one of
the shared core: the responses are the answers of a `Session` (`ShellNode.prints_session`).

With `dtm raw` every run of the core can be typed, and the lines that are printed are the words with
their responses (`ShellNode.raw_session`).

## Text on both sides

`readResponse` is the tester's side: the last four characters of a line, read as a number. That it
finds the response again is a fact about `%04X` and about scanning digits, proved in
`Machine.Numeral` for any base, and `strtol_hex4` is the same in the other direction, through the
`strtol` that `dtm raw` calls. For the second result the spelling is a parameter: any text that
`strtol` reads as the word will do, in upper case or lower, with a prefix or without.

## From the shell to the core

Every handler sends one word or none (`ShellCommand.handled`), and which of the two depends on its
arguments alone. So an input of the shell is one input of the core or nothing (`ShellInput.core`),
and a run of the shell is a run of the core on what reaches it (`run_core`), with the lines printed
as its log. `Properties.TesterSession` has the refinement of the core by the session, and the two
are composed.

Stopping is part of it in both directions. The shell stops with an assertion exactly when the
session does, and with the same one; a command that is rejected stops nothing and prints no
response.
-/

namespace DirectTestMode

open Fallible

variable {b : Build} {q : ℕ}

/-! ### What is printed is read again -/

/-- The response that a line ends with. -/
def readResponse (line : List Char) : UInt16 :=
  UInt16.ofNat (Numeral.scan 16 0 (line.drop (line.length - 4))).1

theorem scan_hex4 (w : UInt16) : Numeral.scan 16 0 (hex4 w) = (w.toNat, []) := by
  have hw : w.toNat < 16 ^ 4 := w.toNat_lt
  have hread := Numeral.scan_pad_lt (by decide) (by decide : 16 ≤ 36) hw Numeral.ends_nil
  rwa [List.append_nil] at hread

theorem readResponse_hex4 (label : List Char) (w : UInt16) :
    readResponse (label ++ hex4 w) = w := by
  have hlen : (label ++ hex4 w).length - 4 = label.length := by
    rw [List.length_append, hex4, Numeral.length_pad, Nat.add_sub_cancel]
  rw [readResponse, hlen, List.drop_left, scan_hex4]
  exact UInt16.ofNat_toNat

theorem readResponse_response (label : List Char) (w : UInt16) :
    readResponse (label ++ ShellNode.response w) = w := by
  rw [ShellNode.response, ← List.append_assoc]
  exact readResponse_hex4 _ w

/-- The responses that the printed lines show. -/
def ShellNode.responses (log : List (Ret × List (List Char))) : List UInt16 :=
  log.filterMap fun r ↦ if r.1 = .ok then r.2.head?.map readResponse else none

/-! ### A command and its word -/

namespace ShellCommand

/-- The lines that follow the one with the response. -/
def more : ShellCommand → UInt16 → List (List Char)
  | endTest, w => ShellNode.countLines w
  | reset, _ | rxTest, _ | txCarrier, _ | txTest, _ | txPower, _ | raw, _ => []

/-- What the handler does for the command: it sends the word that the arguments ask for and prints
the response, or it sends nothing. -/
inductive Handled (c : ShellCommand) (args : List (List Char)) : Prop
  | rejected (hword : c.word args = none) (lines : List String)
      (h : ∀ upperLen, c.handler args upperLen = ShellNode.reject lines upperLen)
  | sent {cmd : UInt16} (hword : c.word args = some cmd) (label : List Char)
      (h : ∀ upperLen, c.handler args upperLen = ShellNode.sendPrint cmd
        (fun w ↦ (label ++ ShellNode.response w) :: c.more w) upperLen)

variable {c : ShellCommand} {args : List (List Char)}

/-- A handler that looks at its channel before it sends. -/
theorem Handled.channel {word : UInt8 → UInt16} {channel : UInt8}
    (hword : c.word args = wordOn word channel) (label : List Char)
    (h : ∀ upperLen, c.handler args upperLen =
      if 39 < channel.toNat then ShellNode.reject [ShellNode.channelError] upperLen
      else ShellNode.sendPrint (word channel)
        (fun w ↦ (label ++ ShellNode.response w) :: c.more w) upperLen) :
    c.Handled args := by
  by_cases hchannel : 39 < channel.toNat
  · refine .rejected (hword.trans (if_pos hchannel)) [ShellNode.channelError] fun upperLen ↦ ?_
    rw [h, if_pos hchannel]
  · refine .sent (hword.trans (if_neg hchannel)) label fun upperLen ↦ ?_
    rw [h, if_neg hchannel]

/-- `tx_test` looks at its channel and at its length. -/
theorem Handled.txTest {channel length : UInt8}
    (hword : ShellCommand.txTest.word args = if 37 < length.toNat then none
      else wordOn (Shell.txTestWord · length) channel)
    (h : ∀ upperLen, ShellCommand.txTest.handler args upperLen =
      ShellNode.txTest channel length upperLen) : ShellCommand.txTest.Handled args := by
  by_cases hlength : 37 < length.toNat
  · rw [if_pos hlength] at hword
    by_cases hchannel : 39 < channel.toNat
    · refine .rejected hword [ShellNode.channelError] fun upperLen ↦ ?_
      rw [h, ShellNode.txTest, if_pos hchannel]
    · refine .rejected hword [ShellNode.lengthError] fun upperLen ↦ ?_
      rw [h, ShellNode.txTest, if_neg hchannel, if_pos hlength]
  · rw [if_neg hlength] at hword
    refine .channel hword (ShellNode.txTestLabel channel length) fun upperLen ↦ ?_
    rw [h, ShellNode.txTest, if_neg hlength]
    rfl

/-- **Every handler** sends the word of its command, or nothing. -/
theorem handled (c : ShellCommand) (args : List (List Char)) : c.Handled args := by
  cases c with
  | reset => exact .sent rfl ShellNode.resetLabel fun _ ↦ rfl
  | endTest => exact .sent rfl ShellNode.endLabel fun _ ↦ rfl
  | rxTest =>
    rcases args with - | ⟨arg, - | ⟨arg', args⟩⟩
    · exact .rejected rfl _ fun _ ↦ rfl
    · exact .channel rfl (ShellNode.rxTestLabel (Shell.octetOf (atoi arg))) fun _ ↦ rfl
    · exact .rejected rfl _ fun _ ↦ rfl
  | txCarrier =>
    rcases args with - | ⟨arg, - | ⟨arg', args⟩⟩
    · exact .rejected rfl _ fun _ ↦ rfl
    · exact .channel rfl (ShellNode.txCarrierLabel (Shell.octetOf (atoi arg))) fun _ ↦ rfl
    · exact .rejected rfl _ fun _ ↦ rfl
  | txTest =>
    rcases args with - | ⟨arg, - | ⟨length, - | ⟨arg', args⟩⟩⟩
    · exact .rejected rfl _ fun _ ↦ rfl
    · exact .txTest rfl fun _ ↦ rfl
    · exact .txTest rfl fun _ ↦ rfl
    · exact .rejected rfl _ fun _ ↦ rfl
  | txPower =>
    rcases args with - | ⟨arg, - | ⟨arg', args⟩⟩
    · exact .rejected rfl _ fun _ ↦ rfl
    · exact .sent rfl (ShellNode.txPowerLabel (Shell.octetOf (atoi arg)).toInt8) fun _ ↦ rfl
    · exact .rejected rfl _ fun _ ↦ rfl
  | raw =>
    rcases args with - | ⟨arg, - | ⟨arg', args⟩⟩
    · exact .rejected rfl _ fun _ ↦ rfl
    · exact .sent rfl (ShellNode.rawLabel (UInt16.ofInt (strtol 16 arg))) fun _ ↦ rfl
    · exact .rejected rfl _ fun _ ↦ rfl

end ShellCommand

/-! ### One input -/

/-- What an input is for the core. -/
def ShellInput.core : ShellInput → Option FirmwareInput
  | .command c args => (c.word args).map .word
  | .radio ev => some (.radio ev)
  | .anomaly ev => some (.anomaly ev)

namespace ShellNode

variable {s : ShellNode}

/-- A handler that sends is one word for the core. -/
theorem command_sent {c : ShellCommand} {args : List (List Char)} {cmd : UInt16}
    {lines : UInt16 → List (List Char)}
    (h : ∀ upperLen, c.handler args upperLen = sendPrint cmd lines upperLen) (s : ShellNode) :
    s.command b q c args = s.firmware.put b q cmd >>= fun x ↦
      .ok ⟨x.2, s.log ++ [(.ok, lines x.1)]⟩ := by
  rw [command, h, sendPrint, Prog.run_bind, Firmware.put]
  let r := (CmdCore.dtmCmdPut cmd s.firmware.upperLen).run (hostHandler b q) s.firmware.host
  show ((r >>= _) >>= _) = (r >>= _) >>= _
  cases r <;> rfl

/-- A handler that sends nothing leaves the firmware as it is. -/
theorem command_rejected {c : ShellCommand} {args : List (List Char)} {lines : List String}
    (h : ∀ upperLen, c.handler args upperLen = reject lines upperLen) (s : ShellNode) :
    s.command b q c args =
      .ok ⟨s.firmware, s.log ++ [(.err .einval, lines.map String.toList)]⟩ := by
  rw [command, h]
  rfl

/-- One more command, one more response or none. -/
theorem responses_append (log : List (Ret × List (List Char))) (r : Ret × List (List Char)) :
    responses (log ++ [r]) =
      responses log ++ (if r.1 = .ok then r.2.head?.map readResponse else none).toList := by
  rw [responses, responses, List.filterMap_append, List.filterMap_cons]
  cases if r.1 = .ok then r.2.head?.map readResponse else none <;> rfl

/-- What is printed shows the responses of the core. -/
structure Shows (s : ShellNode) (x : Firmware × List UInt16) : Prop where
  firmware : s.firmware = x.1
  responses : responses s.log = x.2

/-- **An input that reaches the core** does there what the core does, and shows it. -/
theorem step_core {x : Firmware × List UInt16} {i : ShellInput} {j : FirmwareInput}
    (h : s.Shows x) (hi : i.core = some j) :
    SameOutcome Shows (s.step b q i) (Firmware.noted b q x j) := by
  obtain ⟨f, ws⟩ := x
  obtain ⟨rfl, rfl⟩ : s.firmware = f ∧ responses s.log = ws := ⟨h.firmware, h.responses⟩
  -- an interrupt makes no response, so the log stays
  have hirq (j : FirmwareInput) (hj : s.firmware.response b q j = none) :
      SameOutcome Shows (s.irq b q j) (Firmware.noted b q (s.firmware, responses s.log) j) := by
    rw [irq, Firmware.noted, noteStep]
    cases s.firmware.step b q j with
    | error e => exact rfl
    | ok f' =>
      refine ⟨rfl, ?_⟩
      show _ = responses s.log ++ (s.firmware.response b q j).toList
      rw [hj]
      exact (List.append_nil _).symm
  cases i with
  | radio ev | anomaly ev =>
    cases hi
    exact hirq _ rfl
  | command c args =>
    rw [step]
    obtain ⟨cmd, hcmd, rfl⟩ := Option.map_eq_some_iff.1 hi
    cases c.handled args with
    -- an input that reaches the core has a word, and a rejected command has none
    | rejected hword => cases hword.symm.trans hcmd
    | sent hword label hhandler =>
      cases hword.symm.trans hcmd
      rw [command_sent hhandler]
      rcases hput : s.firmware.put b q cmd with e | x
      · have hnoted : Firmware.noted b q (s.firmware, responses s.log) (.word cmd) = .error e := by
          rw [Firmware.noted, noteStep, Firmware.step, hput]
          rfl
        rw [hnoted]
        exact rfl
      · have hnoted : Firmware.noted b q (s.firmware, responses s.log) (.word cmd) =
            .ok (x.2, responses s.log ++ [x.1]) := Firmware.noted_put (d := .core) hput _
        rw [hnoted]
        refine ⟨rfl, ?_⟩
        rw [responses_append, if_pos rfl, List.head?_cons, Option.map_some,
          readResponse_response]
        rfl

/-- An input that does not reach it prints no response. -/
theorem step_rejected {x : Firmware × List UInt16} {i : ShellInput} (h : s.Shows x)
    (hi : i.core = none) : ∃ s', s.step b q i = .ok s' ∧ s'.Shows x := by
  cases i with
  | radio ev | anomaly ev => cases hi
  | command c args =>
    cases c.handled args with
    | sent hword =>
      rw [ShellInput.core, hword] at hi
      cases hi
    | rejected hword lines hhandler =>
      refine ⟨_, command_rejected hhandler s, h.firmware, ?_⟩
      rw [responses_append, if_neg (by rintro ⟨⟩)]
      exact (List.append_nil _).trans h.responses

/-! ### Runs -/

/-- The shell runs as the core does on what reaches it. -/
theorem run_core {x : Firmware × List UInt16} (h : s.Shows x) (is : List ShellInput) :
    SameOutcome Shows (run (ShellNode.step b q) s is)
      (run (Firmware.noted b q) x (is.filterMap ShellInput.core)) :=
  SameOutcome.run_filterMap (fun _ _ _ _ ↦ step_core) (fun _ _ _ ↦ step_rejected) h is

/-- Nothing has been printed. -/
theorem Initial.shows (hs : s.Initial b) : s.Shows (s.firmware, []) := by
  refine ⟨rfl, ?_⟩
  rw [hs.log]
  rfl

/-- What reaches the core are words and interrupts. -/
theorem isCore_core (is : List ShellInput) :
    ∀ j ∈ is.filterMap ShellInput.core, j.isCore = true := by
  intro j hj
  obtain ⟨i, -, hi⟩ := List.mem_filterMap.1 hj
  cases i with
  | command c args =>
    obtain ⟨cmd, -, rfl⟩ := Option.map_eq_some_iff.1 hi
    rfl
  | radio ev | anomaly ev =>
    cases hi
    rfl

/-- **What is printed are the answers of a session.** A run of typed commands and interrupts stops
exactly when the session on the words that are sent stops, and with the same assertion. -/
theorem prints_session (hb : b.PowerTable) (hs : s.Initial b) (is : List ShellInput) :
    (∀ e, run (ShellNode.step b q) s is = .error e ↔
        run (Session.noted b) (.initial, []) (is.filterMap ShellInput.core) = .error e) ∧
      ∀ s', run (ShellNode.step b q) s is = .ok s' →
        ∃ v answers,
          run (Session.noted b) (.initial, []) (is.filterMap ShellInput.core) =
              .ok (v, answers) ∧
            responses s'.log = answers.map Answer.word ∧ v.Shows b s'.firmware := by
  have hsession := Session.run_follows (q := q) hb hs.firmware (isCore_core is)
  have h := (run_core (b := b) (q := q) hs.shows is).trans hsession
  refine ⟨fun e ↦ h.error_iff, fun s' hrun ↦ ?_⟩
  obtain ⟨⟨v, answers⟩, hv, x, hshows, hfollows⟩ := h.of_ok hrun
  refine ⟨v, answers, hv, hshows.responses.trans hfollows.words, ?_⟩
  rw [hshows.firmware]
  exact hfollows.shows

/-- The shell of an nRF5340 after its initialisation. -/
def nrf5340 : ShellNode := ⟨.ofDevice .nrf5340, []⟩

theorem nrf5340_initial : nrf5340.Initial (.nrf5340 true false) :=
  ⟨⟨Device.nrf5340_initialised true false, rfl, rfl⟩, rfl⟩

/-- A reception of one packet. The channel 40 is not taken, and a transmission is refused. -/
def receptionTyped : List ShellInput :=
  [.command .rxTest ["40".toList], .command .rxTest ["5".toList], .radio goodPacket,
    .command .txTest ["5".toList, "37".toList], .command .endTest []]

/-- The first command is not taken. The others are answered with success, an error and a count. -/
theorem prints_session_reception :
    ∃ s', run (ShellNode.step (.nrf5340 true false) 1024) nrf5340 receptionTyped = .ok s' ∧
      responses s'.log = [0x0001, 0x0000, 0x8001] := by
  have hsession : run (Session.noted (.nrf5340 true false)) (.initial, [])
      (receptionTyped.filterMap ShellInput.core) =
      .ok (⟨.idle, 0, 0, femUseDefaultGain⟩, [.done 0, .refused, .packets 1]) := rfl
  obtain ⟨hfault, hok⟩ := prints_session (q := 1024) (Build.nrf5340_powerTable true false)
    nrf5340_initial receptionTyped
  rw [hsession] at hfault hok
  rcases hrun : run (ShellNode.step (.nrf5340 true false) 1024) nrf5340 receptionTyped with e | s'
  · cases (hfault e).1 hrun
  · obtain ⟨v, answers, hv, hresponses, -⟩ := hok s' hrun
    cases hv
    exact ⟨s', rfl, hresponses⟩

end ShellNode

/-! ### Words that are typed -/

/-- A hexadecimal digit is no blank, no sign and no letter of a prefix. -/
theorem digitChar_plain : ∀ d < 16, isSpace (Numeral.digitChar d) = false ∧
    Numeral.digitChar d ≠ '-' ∧ Numeral.digitChar d ≠ '+' ∧
    Numeral.digitChar d ≠ 'x' ∧ Numeral.digitChar d ≠ 'X' := by
  decide

theorem takeSign_cons {c : Char} (hminus : c ≠ '-') (hplus : c ≠ '+') (text : List Char) :
    takeSign (c :: text) = (1, c :: text) := by
  rw [takeSign]
  · intro text' h
    exact hminus (List.cons.inj h).1
  · intro text' h
    exact hplus (List.cons.inj h).1

theorem skipPrefix_cons {x : Char} (hx : x ≠ 'x') (hX : x ≠ 'X') (base : ℕ) (c : Char)
    (text : List Char) : skipPrefix base (c :: x :: text) = c :: x :: text := by
  unfold skipPrefix
  split
  · rename_i heq
    obtain ⟨rfl, rfl⟩ := List.cons.inj (List.cons.inj heq).2
    exact if_neg fun h ↦ h.2.1.elim hx hX
  · rfl

/-- `strtol` reads what `%04X` prints. -/
theorem strtol_hex4 (w : UInt16) : strtol 16 (hex4 w) = w.toNat := by
  have hplain (n : ℕ) := digitChar_plain (n % 16) (Nat.mod_lt n (by decide))
  obtain ⟨c, x, text, htext, hc, hx⟩ : ∃ c x text, hex4 w = c :: x :: text ∧
      (isSpace c = false ∧ c ≠ '-' ∧ c ≠ '+') ∧ x ≠ 'x' ∧ x ≠ 'X' :=
    ⟨_, _, _, rfl, ⟨(hplain _).1, (hplain _).2.1, (hplain _).2.2.1⟩, (hplain _).2.2.2⟩
  have hscan := scan_hex4 w
  have hw : w.toNat < 65536 := w.toNat_lt
  rw [htext] at hscan ⊢
  rw [strtol, List.dropWhile_cons_of_neg (by rw [hc.1]; decide), takeSign_cons hc.2.1 hc.2.2,
    skipPrefix_cons hx.1 hx.2, hscan]
  omega

theorem ofInt_strtol_hex4 (w : UInt16) : UInt16.ofInt (strtol 16 (hex4 w)) = w := by
  have hw : ((w.toNat : ℤ) % 2 ^ 16).toNat = w.toNat := by
    have hlt : w.toNat < 2 ^ 16 := w.toNat_lt
    omega
  rw [strtol_hex4, UInt16.ofInt, hw, UInt16.ofNat_toNat]

/-- Where the session goes on, so does the firmware. -/
theorem Firmware.run_noted_ok (hb : b.PowerTable) {f : Firmware} (hf : f.Initial b)
    {js : List FirmwareInput} (hjs : ∀ j ∈ js, j.isCore = true) {v : Session}
    {answers : List Answer} (h : run (Session.noted b) (.initial, []) js = .ok (v, answers)) :
    ∃ f', run (Firmware.noted b q) (f, []) js = .ok (f', answers.map Answer.word) := by
  obtain ⟨⟨f', ws⟩, hrun, hfollows⟩ := (Session.run_follows hb hf hjs).of_ok_right h
  obtain rfl : ws = answers.map Answer.word := hfollows.words
  exact ⟨f', hrun⟩

namespace ShellNode

/-- What a raw command leaves in the log. -/
def rawEntry (cmd w : UInt16) : Ret × List (List Char) := (.ok, [rawLabel cmd ++ response w])

/-- A word in some spelling, and an interrupt as it comes. -/
def typed (text : UInt16 → List Char) : FirmwareInput → Option ShellInput
  | .word cmd => some (.command .raw [text cmd])
  | .radio ev => some (.radio ev)
  | .anomaly ev => some (.anomaly ev)
  | .uartWord _ | .hci _ _ | .txDone => none

variable {s : ShellNode} {text : UInt16 → List Char}

theorem command_raw (htext : ∀ w, UInt16.ofInt (strtol 16 (text w)) = w) (s : ShellNode)
    (cmd : UInt16) :
    s.command b q .raw [text cmd] = s.firmware.put b q cmd >>= fun x ↦
      .ok ⟨x.2, s.log ++ [rawEntry cmd x.1]⟩ := by
  have hhandler (upperLen : UInt8) : ShellCommand.raw.handler [text cmd] upperLen =
      sendPrint cmd (fun w ↦ [rawLabel cmd ++ response w]) upperLen := by
    show cmdDtmRaw [text cmd] upperLen = _
    rw [cmdDtmRaw, htext cmd]
  exact command_sent hhandler s

/-- The log shows the words `cmds` with the responses of the core. -/
structure Echoes (cmds : List UInt16) (s : ShellNode) (x : Firmware × List UInt16) : Prop where
  firmware : s.firmware = x.1
  length : cmds.length = x.2.length
  log : s.log = List.zipWith rawEntry cmds x.2

/-- **One typed input.** -/
theorem step_typed (htext : ∀ w, UInt16.ofInt (strtol 16 (text w)) = w) {cmds : List UInt16}
    {x : Firmware × List UInt16} (h : s.Echoes cmds x) {j : FirmwareInput} {i : ShellInput}
    (hi : typed text j = some i) :
    SameOutcome (Echoes (cmds ++ j.commandWord.toList)) (s.step b q i)
      (Firmware.noted b q x j) := by
  obtain ⟨f, ws⟩ := x
  obtain ⟨f', log⟩ := s
  obtain rfl : f' = f := h.firmware
  have hlen : cmds.length = ws.length := h.length
  have hlog : log = List.zipWith rawEntry cmds ws := h.log
  have hirq (j : FirmwareInput) (hj : f'.response b q j = none) (hword : j.commandWord = none) :
      SameOutcome (Echoes (cmds ++ j.commandWord.toList)) (irq b q ⟨f', log⟩ j)
        (Firmware.noted b q (f', ws) j) := by
    have hws : Firmware.responses b q f' j ws = ws := by
      rw [Firmware.responses, hj, Option.toList_none, List.append_nil]
    rw [irq, Firmware.noted, noteStep, hword, Option.toList_none, List.append_nil, hws]
    cases f'.step b q j with
    | error e => exact rfl
    | ok f'' => exact ⟨rfl, hlen, hlog⟩
  cases j with
  | uartWord cmd | hci type buf | txDone => cases hi
  | radio ev | anomaly ev =>
    cases hi
    exact hirq _ rfl rfl
  | word cmd =>
    cases hi
    rw [step, command_raw htext]
    show SameOutcome _ (f'.put b q cmd >>= _) _
    rcases hput : f'.put b q cmd with e | x
    · have hnoted : Firmware.noted b q (f', ws) (.word cmd) = .error e := by
        rw [Firmware.noted, noteStep, Firmware.step, hput]
        rfl
      rw [hnoted]
      exact rfl
    · have hnoted : Firmware.noted b q (f', ws) (.word cmd) = .ok (x.2, ws ++ [x.1]) :=
        Firmware.noted_put (d := .core) hput _
      rw [hnoted]
      refine ⟨rfl, ?_, ?_⟩
      · rw [List.length_append, List.length_append, hlen]
        rfl
      · show log ++ [rawEntry cmd x.1] = List.zipWith rawEntry (cmds ++ [cmd]) (ws ++ [x.1])
        -- as many words as responses: the new entry pairs the new word with its response
        rw [List.zipWith_append hlen, hlog]
        rfl

/-- The run goes on from whatever has been typed. -/
theorem run_typed (htext : ∀ w, UInt16.ofInt (strtol 16 (text w)) = w) {cmds : List UInt16}
    {x : Firmware × List UInt16} (h : s.Echoes cmds x) {js : List FirmwareInput}
    (hjs : ∀ j ∈ js, (typed text j).isSome) :
    SameOutcome (Echoes (cmds ++ js.filterMap FirmwareInput.commandWord))
      (run (ShellNode.step b q) s (js.filterMap (typed text)))
      (run (Firmware.noted b q) x js) := by
  induction js generalizing s cmds x with
  | nil =>
    rw [List.filterMap_nil, List.append_nil]
    exact h
  | cons j js ih =>
    obtain ⟨i, hi⟩ := Option.isSome_iff_exists.1 (hjs j List.mem_cons_self)
    have hstep := step_typed (b := b) (q := q) htext h hi
    have hwords : cmds ++ (j :: js).filterMap FirmwareInput.commandWord =
        (cmds ++ j.commandWord.toList) ++ js.filterMap FirmwareInput.commandWord := by
      rw [List.append_assoc, List.filterMap_cons]
      cases j.commandWord <;> rfl
    rw [List.filterMap_cons_some hi, run_cons, run_cons, hwords]
    exact hstep.bind fun s' x' h' ↦ ih h' fun k hk ↦ hjs k (List.mem_cons_of_mem j hk)

/-- **Every run of the core can be typed and read.** Words that are typed as raw commands, in any
spelling that `strtol` reads, run as they do on the core, with the interrupts between them, and the
log is one line for each word with its response. -/
theorem raw_session (hs : s.Initial b) (htext : ∀ w, UInt16.ofInt (strtol 16 (text w)) = w)
    {js : List FirmwareInput} (hjs : ∀ j ∈ js, (typed text j).isSome) :
    (∀ e, run (ShellNode.step b q) s (js.filterMap (typed text)) = .error e ↔
        run (Firmware.noted b q) (s.firmware, []) js = .error e) ∧
      ∀ s', run (ShellNode.step b q) s (js.filterMap (typed text)) = .ok s' →
        ∃ ws, run (Firmware.noted b q) (s.firmware, []) js = .ok (s'.firmware, ws) ∧
          (js.filterMap FirmwareInput.commandWord).length = ws.length ∧
          s'.log = List.zipWith rawEntry (js.filterMap FirmwareInput.commandWord) ws := by
  have hstart : s.Echoes [] (s.firmware, []) := ⟨rfl, rfl, hs.log⟩
  have h := run_typed (b := b) (q := q) htext hstart hjs
  refine ⟨fun e ↦ h.error_iff, fun s' hrun ↦ ?_⟩
  obtain ⟨⟨f, ws⟩, hws, hechoes⟩ := h.of_ok hrun
  obtain rfl : s'.firmware = f := hechoes.firmware
  exact ⟨ws, hws, hechoes.length, hechoes.log⟩

/-- A reception on channel 12, typed as `%04X` prints it. -/
theorem raw_session_reception :
    ∃ s', run (ShellNode.step (.nrf5340 true false) 1024) nrf5340
        (receptionInputs.filterMap (typed hex4)) = .ok s' ∧
      s'.log = [rawEntry 0x4C00 0x0001, rawEntry 0x8C94 0x0000, rawEntry 0xC000 0x8001] := by
  have hsession : run (Session.noted (.nrf5340 true false)) (.initial, []) receptionInputs =
      .ok (⟨.idle, 12, 0, femUseDefaultGain⟩, [.done 0, .refused, .packets 1]) := rfl
  have hcore : ∀ j ∈ receptionInputs, j.isCore = true := by
    simp [receptionInputs, FirmwareInput.isCore]
  have htyped : ∀ j ∈ receptionInputs, (typed hex4 j).isSome := by
    simp [receptionInputs, typed]
  obtain ⟨f, hnoted⟩ := Firmware.run_noted_ok (q := 1024) (Build.nrf5340_powerTable true false)
    nrf5340_initial.firmware hcore hsession
  obtain ⟨hfault, hok⟩ := raw_session (q := 1024) nrf5340_initial ofInt_strtol_hex4 htyped
  rcases hrun : run (ShellNode.step (.nrf5340 true false) 1024) nrf5340
    (receptionInputs.filterMap (typed hex4)) with e | s'
  · cases ((hfault e).1 hrun).symm.trans hnoted
  · obtain ⟨ws', hws', -, hlog⟩ := hok s' hrun
    obtain rfl := (Prod.mk.inj (Except.ok.inj (hws'.symm.trans hnoted))).2
    exact ⟨s', rfl, hlog⟩

end ShellNode

end DirectTestMode
