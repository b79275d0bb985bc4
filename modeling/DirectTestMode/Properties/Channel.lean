import DirectTestMode.Transport.HciOps
import DirectTestMode.Transport.HciStatus
import DirectTestMode.Transport.Outcome
import DirectTestMode.Transport.Effect

/-!
# Channels above the range

What the transports do with a channel above 39. A Receiver Test refuses it on every path. A
Transmitter Test on a command word hands it to the library, which stores it before it looks at it
and, for a vendor packet, never does; one over HCI hands it to the power request, whose frequency is
computed under an assertion. So no illegal channel reaches the radio exactly as long as the commands
meet `Firmware.ChannelChecked` (`channel_safe_iff`).

## What it rests on

The invariant is `Device.OnChannel`: the stored channel is legal. It is kept by every operation that
carries a legal channel (`hostHandler_onChannel`), and so by every program that issues only such
operations (`run_onChannel`). This is a property of a program's text, found by going through it once
(`Prog.Issues`), and it says nothing about the state. What is left are the words and packets with a
channel above the range, and there the two sides part:

* a **refusal** is proved from the shape of the command: the word or packet is answered with an
  error before any operation that would store its channel (`Decoder.refusesChannel`,
  `process_onChannel`);
* an **escape** is proved from the run: on an idle device a Transmitter Test leaves the illegal
  channel behind or meets the assertion (`Decoder.dtmCmdPut_unsafe`).

Together they make `Firmware.channelSafe_iff` an equivalence for one input. For runs the condition
is a guard (`Guarded`): each input is looked at in the state that the run has brought the firmware
to, because a Transmitter Test on an illegal channel is harmless while another test is running.

`ChannelSafe` states more than that no assertion fails. It also asks that the channel left behind is
legal and that a test on an illegal one is answered with an error and starts nothing.
-/

namespace DirectTestMode

open Fallible

variable {b : Build} {q : ℕ}

/-! ### Operations that carry a legal channel -/

/-- The channel an operation carries to the radio, if any, is legal. -/
def TransportOp.LegalChannel : TransportOp → Prop
  | dtm c => c.LegalChannel
  | patternStore _ _ => True
  | uartWrite _ _ _ => True

/-- The step lemma: an operation with a legal channel neither meets the assertion nor leaves an
illegal one behind. -/
theorem hostHandler_onChannel (op : TransportOp) (h : Host) (hop : op.LegalChannel)
    (hh : h.device.OnChannel) :
    hostHandler b q op h ≠ .error .channel ∧
      ∀ x, hostHandler b q op h = .ok x → x.2.device.OnChannel := by
  cases op with
  | dtm c =>
    obtain ⟨hne, hok⟩ := api_onChannel (b := b) hh hop
    refine ⟨fun hx ↦ hne (bind_map_eq_error.1 hx), fun x hx ↦ ?_⟩
    obtain ⟨y, hy, rfl⟩ := bind_map_eq_ok.1 hx
    exact hok y hy
  | patternStore pattern src =>
    refine ⟨fun hx ↦ ?_, fun x hx ↦ ?_⟩
    · have hx := bind_map_eq_error.1 hx
      rcases patternStore_fits pattern src h.device.patterns with ⟨p', hp, -⟩ | ⟨hp, -⟩
      · cases hp.symm.trans hx
      · cases hp.symm.trans hx
    · obtain ⟨p, -, rfl⟩ := bind_map_eq_ok.1 hx
      exact ⟨hh.timerInit, hh.physCh⟩
  | uartWrite type hdr pld =>
    refine ⟨(nomatch ·), fun x hx ↦ ?_⟩
    cases hx
    exact hh

/-- **A program whose operations carry legal channels is safe** on a device that is on one. -/
theorem run_onChannel {α : Type} {p : Prog transport α}
    (hp : p.Issues TransportOp.LegalChannel) {h : Host} (hh : h.device.OnChannel) :
    p.run (hostHandler b q) h ≠ .error .channel ∧
      ∀ x, p.run (hostHandler b q) h = .ok x → x.2.device.OnChannel :=
  Prog.Issues.run_safe (J := fun h : Host ↦ h.device.OnChannel) hostHandler_onChannel hp hh

/-! ### What the command words issue -/

/-- A Test Setup word of the shared core names no channel at all. -/
theorem CmdCore.setupCmd_issues (control parameter upperLen : UInt8) :
    (setupCmd control parameter upperLen).Issues TransportOp.LegalChannel := by
  refine (setupCmd_straight control parameter upperLen).issues ?_
  rw [setupEffect, featuresReadOps, readMaxOps]
  split <;> (repeat' split) <;>
    first | exact List.forall_mem_nil _ | exact List.forall_mem_singleton.2 trivial

theorem UartTwowire.antennaSetOps_legal (parameter : UInt8) :
    ∀ op ∈ antennaSetOps parameter, op.LegalChannel := by
  unfold antennaSetOps
  simp only
  split
  · exact List.forall_mem_nil _
  · exact List.forall_mem_cons.2 ⟨trivial, List.forall_mem_singleton.2 trivial⟩

/-- The only channel of a Test Setup word is that of a power request, and it is zero. -/
theorem UartTwowire.switchEffect_legal (control parameter upperLen : UInt8) :
    ∀ op ∈ (switchEffect control parameter upperLen).ops, op.LegalChannel := by
  have hantenna := antennaSetOps_legal parameter
  rw [switchEffect, featuresReadOps, readMaxOps, phySetOps, modSetOps, cteSetOps, txPowerSetOps]
  have hpower (power : DtmTxPowerRequest) (val : Int8) :
      TransportOp.LegalChannel (.dtm (.setupSetTransmitPower power val 0)) := Nat.zero_le _
  split <;> (repeat' split) <;>
    first
    | exact hantenna
    | exact List.forall_mem_nil _
    | exact List.forall_mem_singleton.2 trivial
    | exact List.forall_mem_singleton.2 (hpower _ _)

theorem UartTwowire.setupCmd_issues (control parameter upperLen : UInt8) :
    (setupCmd control parameter upperLen).Issues TransportOp.LegalChannel :=
  (setupCmd_straight control parameter upperLen).issues
    (List.forall_mem_cons.2 ⟨trivial, switchEffect_legal control parameter upperLen⟩)

/-! ### Words on a channel above the range -/

/-- A test word on a channel above the range is answered with an error, and changes nothing. -/
def Decoder.RefusesChannel (d : Decoder) (b : Build) (q : ℕ) (cmd : UInt16)
    (upperLen : UInt8) (h : Host) : Prop :=
  cmdCode cmd = 1 ∨ cmdCode cmd = 2 → physChMax < (cmdChan cmd).toNat →
    ∃ e ret, (d.outcome cmd upperLen).run (hostHandler b q) h =
      .ok ((.status (.err e) ret, upperLen), h)

/-- The word is no Transmitter Test on a channel above the range, or another test is running. -/
def WordChecked (s : Device) (cmd : UInt16) : Prop :=
  cmdCode cmd = 2 → physChMax < (cmdChan cmd).toNat → s.state ≠ .idle

/-- **A refused channel**: of a Receiver Test always, of a Transmitter Test while a test is
running. -/
theorem Decoder.refusesChannel (d : Decoder) {cmd : UInt16} {h : Host}
    (hcmd : WordChecked h.device cmd) (upperLen : UInt8) :
    d.RefusesChannel b q cmd upperLen h := by
  rintro (hcode | hcode) hc
  · refine ⟨.einval, 0, ?_⟩
    rw [outcome_receiverTest d upperLen hcode]
    show ((dtmTestReceive b (cmdChan cmd) h.device >>= _) >>= _) = _
    rw [dtmTestReceive_illegal b _ hc]
    rfl
  · obtain ⟨type, htype⟩ := cmdType_cases cmd
    refine ⟨.ebusy, 0, ?_⟩
    rw [outcome_transmitterTest d upperLen hcode htype]
    show ((dtmTestTransmit b (cmdChan cmd) _ type.packet h.device >>= _) >>= _) = _
    rw [dtmTestTransmit, if_pos (hcmd hcode hc)]
    rfl

/-- A word is safe: no assertion on the channel, and a legal channel afterwards. -/
theorem Decoder.dtmCmdPut_onChannel (d : Decoder)
    (hsetup : ∀ control parameter upperLen,
      (d.setupCmd control parameter upperLen).Issues TransportOp.LegalChannel)
    {cmd : UInt16} {h : Host} (hh : h.device.OnChannel) (hcmd : WordChecked h.device cmd)
    (upperLen : UInt8) :
    (d.dtmCmdPut cmd upperLen).run (hostHandler b q) h ≠ .error .channel ∧
      ∀ x, (d.dtmCmdPut cmd upperLen).run (hostHandler b q) h = .ok x →
        x.2.device.OnChannel := by
  by_cases hillegal : cmdCode cmd = 2 ∧ physChMax < (cmdChan cmd).toNat
  · obtain ⟨e, ret, hrun⟩ := d.refusesChannel (b := b) (q := q) hcmd upperLen
      (.inr hillegal.1) hillegal.2
    rw [dtmCmdPut_eq_outcome, Prog.run_bind, hrun]
    refine ⟨(nomatch ·), fun x hx ↦ ?_⟩
    cases hx
    exact hh
  -- a word issues legal channels unless it is a Transmitter Test on an illegal one
  · exact run_onChannel (d.dtmCmdPut_issues (fun _ ↦ hsetup _ _ _) trivial
      (fun hcode _ _ ↦ Nat.not_lt.1 fun hc ↦ hillegal ⟨hcode, hc⟩) trivial) hh

/-- **A Transmitter Test on an illegal channel is never safe on an idle device.** -/
theorem Decoder.dtmCmdPut_unsafe (d : Decoder) {cmd : UInt16} {h : Host} (upperLen : UInt8)
    (hne : (d.dtmCmdPut cmd upperLen).run (hostHandler b q) h ≠ .error .channel)
    (hok : ∀ x, (d.dtmCmdPut cmd upperLen).run (hostHandler b q) h = .ok x →
      x.2.device.physCh.toNat ≤ physChMax) : WordChecked h.device cmd := by
  intro hcode hc hidle
  obtain ⟨type, htype⟩ := cmdType_cases cmd
  rw [dtmCmdPut_transmitterTest d upperLen hcode htype] at hne hok
  let r := dtmTestTransmit b (cmdChan cmd) (withUpperLen (cmdLength cmd) upperLen) type.packet
    h.device
  change ((r >>= _) >>= _) ≠ _ at hne
  change ∀ x, ((r >>= _) >>= _) = .ok x → _ at hok
  rcases hr : r with e | x
  · rw [hr] at hne
    exact hne (congrArg _ (dtmTestTransmit_error.1 hr).1.symm)
  · rw [hr] at hok
    have hphys := hok _ rfl
    rw [show _ = (cmdChan cmd).toUInt32 from dtmTestTransmit_physCh hidle hr,
      UInt8.toNat_toUInt32] at hphys
    omega

/-! ### HCI packets -/

namespace Hci

theorem PacketOp.legalChannel {op : TransportOp} (h : PacketOp (·.toNat ≤ physChMax) op) :
    op.LegalChannel := by
  cases op with
  | dtm c => cases c <;> first | exact h | trivial
  | patternStore | uartWrite => trivial

end Hci

/-! ### The firmware -/

namespace Firmware

/-- A test command that carries a channel above the range is answered with an error and starts no
test. -/
def RefusesChannel (b : Build) (q : ℕ) (f : Firmware) : FirmwareInput → Prop
  | .word cmd => CmdCore.decoder.RefusesChannel b q cmd f.upperLen f.host
  | .uartWord cmd => UartTwowire.decoder.RefusesChannel b q cmd f.uartUpperLen f.host
  | .hci type buf =>
    (∀ p, Hci.rxTestOf type buf = some p → physChMax < p.chan.toNat →
      Hci.Refuses b q (·.state = .idle) (Hci.rxTestStatus p) f.host) ∧
    (∀ p, Hci.txTestOf type buf = some p → physChMax < p.chan.toNat →
      Hci.Refuses b q (·.state = .idle) (Hci.txTestStatus p) f.host)
  | .radio _ | .anomaly _ | .txDone => True

/-- An input keeps illegal channels from the radio: the assertion holds, the stored channel is
legal afterwards, and a channel above the range is refused. -/
structure ChannelSafe (b : Build) (q : ℕ) (f : Firmware) (i : FirmwareInput) : Prop where
  assertion : f.step b q i ≠ .error .channel
  physCh : ∀ f', f.step b q i = .ok f' → f'.device.physCh.toNat ≤ physChMax
  refuses : f.RefusesChannel b q i

/-- The input is no Transmitter Test on a channel above the range that gets as far as the library,
or as far as the power request. -/
def ChannelChecked (b : Build) (f : Firmware) : FirmwareInput → Prop
  | .word cmd | .uartWord cmd => WordChecked f.device cmd
  | .hci type buf => ∀ p, Hci.txTestOf type buf = some p → physChMax < p.chan.toNat →
    ¬ p.Accepted b f.device.txpower
  | .radio _ | .anomaly _ | .txDone => True

/-- The packet is safe when its Transmitter Test is checked. -/
theorem process_onChannel {f : Firmware} (hf : f.device.OnChannel) {type : UInt8}
    {buf : ℕ → UInt8} (hc : f.ChannelChecked b (.hci type buf)) :
    (Hci.dtmTrProcess type buf).run (hostHandler b q) f.host ≠ .error .channel ∧
      ∀ x, (Hci.dtmTrProcess type buf).run (hostHandler b q) f.host = .ok x →
        x.2.device.OnChannel := by
  have hlegal {α : Type} {p : Prog transport α}
      (hp : p.Issues (Hci.PacketOp (·.toNat ≤ physChMax))) : p.Issues TransportOp.LegalChannel :=
    hp.mono fun _ h ↦ h.legalChannel
  rcases Hci.dtmTrProcess_cases (·.toNat ≤ physChMax) type buf with
    ⟨p, opcode, hp, hrun⟩ | ⟨-, hissues⟩
  -- a Transmitter Test on a legal channel is safe, one above the range is refused first
  · rcases Nat.lt_or_ge physChMax p.chan.toNat with hchan | hchan
    · obtain ⟨code, h', hstatus, -, hh'⟩ := Hci.txTestStatus_refused (q := q) hf
        (hc p hp hchan)
      have hevent := run_onChannel (b := b) (q := q)
        (hlegal (Hci.ccEvt_issues opcode [code])) hh'.onChannel
      rw [hrun, Prog.run_bind, hstatus]
      exact hevent
    · refine run_onChannel (hlegal (Hci.dtmTrProcess_issues fun p' hp' ↦ ?_)) hf
      cases hp.symm.trans hp'
      exact hchan
  · exact run_onChannel (hlegal hissues) hf

/-- **One input**: checked, it raises no assertion on the channel and leaves a legal one. -/
theorem step_onChannel {f : Firmware} {i : FirmwareInput} (hf : f.device.OnChannel)
    (hc : f.ChannelChecked b i) :
    f.step b q i ≠ .error .channel ∧
      ∀ f', f.step b q i = .ok f' → f'.device.OnChannel := by
  -- the three inputs that run a program of the transport differ in the firmware they leave
  have hprog {α : Type} {r : Except Fault (α × Host)} {g : α × Host → Firmware}
      (hr : r ≠ .error .channel ∧ ∀ x, r = .ok x → x.2.device.OnChannel)
      (hg : ∀ x, (g x).device = x.2.device) :
      (r >>= fun x ↦ .ok (g x)) ≠ .error .channel ∧
        ∀ f', (r >>= fun x ↦ .ok (g x)) = .ok f' → f'.device.OnChannel := by
    refine ⟨fun h ↦ hr.1 (bind_map_eq_error.1 h), fun f' h ↦ ?_⟩
    obtain ⟨x, hx, rfl⟩ := bind_map_eq_ok.1 h
    rw [hg]
    exact hr.2 x hx
  cases i with
  | word cmd =>
    rw [f.step_word]
    exact hprog (CmdCore.decoder.dtmCmdPut_onChannel CmdCore.setupCmd_issues hf hc _) fun _ ↦ rfl
  | uartWord cmd =>
    rw [f.step_uartWord]
    exact hprog (UartTwowire.decoder.dtmCmdPut_onChannel UartTwowire.setupCmd_issues hf hc _)
      fun _ ↦ rfl
  | hci type buf =>
    rw [f.step_hci]
    exact hprog (process_onChannel hf hc) fun _ ↦ rfl
  | radio ev =>
    refine ⟨fun h ↦ ?_, fun f' h ↦ ?_⟩
    · rcases radioIrq_ofReception (bind_map_eq_error.1 h) with h | h | h <;> cases h
    · obtain ⟨s, hs, rfl⟩ := bind_map_eq_ok.1 h
      have hkeeps := radioIrq_keepsSetup hs
      exact ⟨hkeeps.timerInit.trans hf.timerInit, hkeeps.physCh ▸ hf.physCh⟩
  | anomaly ev =>
    refine ⟨(nomatch ·), fun f' h ↦ ?_⟩
    obtain ⟨s, hs, rfl⟩ := bind_map_eq_ok.1 h
    have hkeeps := Device.step_anomaly_keepsSetup hs
    exact ⟨hkeeps.timerInit.trans hf.timerInit, hkeeps.physCh ▸ hf.physCh⟩
  | txDone =>
    refine ⟨(nomatch ·), fun f' h ↦ ?_⟩
    cases h
    exact hf

/-- A checked input that names a channel above the range is answered with an error. -/
theorem refusesChannel {f : Firmware} {i : FirmwareInput} (hf : f.device.OnChannel)
    (hc : f.ChannelChecked b i) : f.RefusesChannel b q i := by
  have hidle {p : Prog transport UInt8} {t : UInt8}
      (h : Hci.Refuses b q (Hci.Waiting t) p f.host) :
      Hci.Refuses b q (·.state = .idle) p f.host := by
    obtain ⟨code, h', hrun, hne, hh'⟩ := h
    exact ⟨code, h', hrun, hne, hh'.idle⟩
  cases i with
  | word cmd => exact Decoder.refusesChannel _ hc _
  | uartWord cmd => exact Decoder.refusesChannel _ hc _
  | hci type buf =>
    exact ⟨fun p _ hchan ↦ hidle (Hci.rxTestStatus_refused hchan hf),
      fun p hp hchan ↦ hidle (Hci.txTestStatus_refused hf (hc p hp hchan))⟩
  | radio ev | anomaly ev | txDone => trivial

/-- **One input is safe exactly when it is checked.** What escapes the check is seen in the
channel that is stored, in the assertion, or in the answer. -/
theorem channelSafe_iff {f : Firmware} (hf : f.device.OnChannel) (i : FirmwareInput) :
    f.ChannelSafe b q i ↔ f.ChannelChecked b i := by
  constructor
  · rintro ⟨hne, hphys, -⟩
    have hprog {α : Type} {r : Except Fault (α × Host)} {g : α × Host → Firmware}
        (hne : (r >>= fun x ↦ .ok (g x)) ≠ .error .channel)
        (hphys : ∀ f', (r >>= fun x ↦ .ok (g x)) = .ok f' → f'.device.physCh.toNat ≤ physChMax)
        (hg : ∀ x, (g x).device = x.2.device) :
        r ≠ .error .channel ∧ ∀ x, r = .ok x → x.2.device.physCh.toNat ≤ physChMax := by
      refine ⟨fun h ↦ hne (bind_map_eq_error.2 h), fun x hx ↦ ?_⟩
      rw [← hg]
      exact hphys _ (bind_map_eq_ok.2 ⟨x, hx, rfl⟩)
    cases i with
    | word cmd =>
      rw [f.step_word] at hne hphys
      obtain ⟨hne, hphys⟩ := hprog hne hphys fun _ ↦ rfl
      exact CmdCore.decoder.dtmCmdPut_unsafe _ hne hphys
    | uartWord cmd =>
      rw [f.step_uartWord] at hne hphys
      obtain ⟨hne, hphys⟩ := hprog hne hphys fun _ ↦ rfl
      exact UartTwowire.decoder.dtmCmdPut_unsafe _ hne hphys
    -- an accepted one meets the assertion in the power request
    | hci type buf =>
      intro p hp hchan haccepted
      rcases Hci.dtmTrProcess_cases (fun _ ↦ True) type buf with
        ⟨p', opcode, hp', hrun⟩ | ⟨hnone, -⟩
      · cases hp.symm.trans hp'
        refine hne ?_
        rw [f.step_hci, hrun, Prog.run_bind, Hci.txTestStatus_fault hf haccepted hchan]
        rfl
      · cases hp.symm.trans hnone
    | radio ev | anomaly ev | txDone => trivial
  · intro hc
    obtain ⟨hne, hok⟩ := step_onChannel (q := q) hf hc
    exact ⟨hne, fun f' h ↦ (hok f' h).physCh, refusesChannel hf hc⟩

end Firmware

/-- **No illegal channel reaches the radio, exactly as long as the commands are checked**: every
input of a run is safe if and only if no Transmitter Test on a channel above the range gets through
to the library. -/
theorem channel_safe_iff {f : Firmware} (hf : f.Initial b) (is : List FirmwareInput) :
    (Guarded (Firmware.step b q) (Firmware.ChannelSafe b q) f is ↔
      Guarded (Firmware.step b q) (Firmware.ChannelChecked b) f is) ∧
    (Guarded (Firmware.step b q) (Firmware.ChannelChecked b) f is →
      Fallible.run (Firmware.step b q) f is ≠ .error .channel ∧
      ∀ f', Fallible.run (Firmware.step b q) f is = .ok f' →
        f'.device.physCh.toNat ≤ physChMax) := by
  have hstep : ∀ (f : Firmware) i f', f.device.OnChannel → f.ChannelChecked b i →
      f.step b q i = .ok f' → f'.device.OnChannel :=
    fun f i f' hf hc h ↦ (Firmware.step_onChannel hf hc).2 f' h
  have hinit : f.device.OnChannel := hf.1.onChannel
  refine ⟨Guarded.congr (I := fun f : Firmware ↦ f.device.OnChannel) hstep
    (fun f i hf ↦ Firmware.channelSafe_iff hf i) hinit, fun hg ↦ ⟨?_, fun f' h ↦ ?_⟩⟩
  · exact hg.not_fault (I := fun f : Firmware ↦ f.device.OnChannel) hstep
      (fun f i hf hc ↦ (Firmware.step_onChannel hf hc).1) hinit
  · exact (hg.invariant (I := fun f : Firmware ↦ f.device.OnChannel) hstep hinit h).physCh

/-- A Receiver Test on channel 40 is one of the safe inputs. -/
theorem channel_safe_iff_receiver_test :
    Guarded (Firmware.step (.nrf5340 true false) 1024)
      (Firmware.ChannelSafe (.nrf5340 true false) 1024) (.ofDevice .nrf5340) [.word 0x6800] := by
  refine (channel_safe_iff (b := .nrf5340 true false) (q := 1024)
    (f := .ofDevice .nrf5340)
    ⟨Device.nrf5340_initialised true false, rfl, rfl⟩ [.word 0x6800]).1.2 ⟨fun h ↦ ?_, ?_⟩
  · exact absurd h (by decide)
  · intro f' _
    trivial

/-- After the initialisation, the word for a carrier on channel 40 fails the assertion. -/
theorem carrier_word_fails_assertion :
    ∃ f : Firmware, f.Initial (.nrf5340 true false) ∧
      f.step (.nrf5340 true false) 1024 (.word 0xA803) = .error .channel :=
  ⟨.ofDevice .nrf5340, ⟨Device.nrf5340_initialised true false, rfl, rfl⟩, rfl⟩

end DirectTestMode
