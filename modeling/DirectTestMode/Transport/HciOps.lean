import DirectTestMode.Transport.Hci

/-!
# What an HCI packet asks of the library

The operations of a test command are settings, the antenna pattern of this transport, and a test on
the channel of the command. A packet adds the reset, the other commands and the event. This holds
whatever the library answers, so it is said once (`dtmTrProcess_issues`), for everything that looks
at nothing but the operations of a packet.

The form is `Prog.Issues`: every operation that the program can come to satisfies a predicate, on
every path. It is weaker than saying which operations are issued, and it needs no state. Four kinds
of result are of that kind and rest on it: that a channel above the range reaches the library only
from a Transmitter Test, that a test command is silent until its status is known, that the antenna
pattern is the one of this transport, and that a packet issues no initialisation.

`C` is a condition on the channel of a Transmitter Test, the one thing in a packet that a predicate
on operations has to know. A Receiver Test passes its channel on unchecked too, but the library
refuses what is above the range before it stores it.

The lemmas are one for each function of the source, and they compose as the functions do: a chain of
attempts issues what its links issue (`attempt_issues`).
-/

namespace DirectTestMode.Hci

/-- An operation that a test command issues, if its channel is in `C`. The channel of a Receiver
Test is of no interest: `dtm_test_receive` refuses what is above the range. -/
def TestOp (C : UInt8 → Prop) : TransportOp → Prop
  | .dtm .setupPrepare | .dtm (.setupSetPhy _) | .dtm (.setupSetModulation _)
  | .dtm (.setupSetCteMode _ _) | .dtm (.setupSetCteSlot _) | .dtm (.testReceive _) => True
  | .dtm (.setupSetAntennaParams _ pattern _) | .patternStore pattern _ => pattern = .hci
  | .dtm (.setupSetTransmitPower _ _ channel) | .dtm (.testTransmit channel _ _) => C channel
  | _ => False

/-- An operation that a packet issues. -/
def PacketOp (C : UInt8 → Prop) : TransportOp → Prop
  | .dtm .setupReset | .dtm .setupReadFeatures | .dtm (.testEnd _) | .uartWrite _ _ _ => True
  | op => TestOp C op

variable {C : UInt8 → Prop}

/-- What a test command issues, a packet does. -/
theorem TestOp.packetOp {op : TransportOp} (h : TestOp C op) : PacketOp C op := by
  cases op with
  | dtm c => cases c <;> first | exact h | trivial
  | patternStore => exact h
  | uartWrite => trivial

/-! ### Test commands -/

/-- A link issues what its call and the rest of the chain do. Whether the chain goes on is not
asked. -/
theorem attempt_issues {G : transport.Op → Prop} {p : Prog transport Ret}
    {status : Ret → Option UInt8} {next : Prog transport UInt8} (hp : p.Issues G)
    (hnext : next.Issues G) : (attempt p status next).Issues G := by
  refine hp.bind fun err ↦ ?_
  cases status err with
  | none => exact hnext
  | some code => trivial

theorem phySet_issues (phy : UInt8) : (phySet phy).Issues (TestOp C) := by
  rw [phySet]
  cases phyOf phy with
  | none => trivial
  | some p => exact ⟨trivial, fun _ ↦ trivial⟩

theorem modSet_issues (mod : UInt8) : (modSet mod).Issues (TestOp C) :=
  Prog.issues_ite ⟨trivial, fun _ ↦ trivial⟩
    (Prog.issues_ite ⟨trivial, fun _ ↦ trivial⟩ trivial)

/-- The extension: a mode, a pattern and the antennas. -/
theorem cteSet_issues (cteLen cteType patternLen : UInt8) (pattern : ℕ → UInt8) :
    (cteSet cteLen cteType patternLen pattern).Issues (TestOp C) := by
  have hmode : (cteModeSet cteLen cteType).Issues (TestOp C) := by
    rw [cteModeSet]
    cases cteTypeOf cteType with
    | none => trivial
    | some type => exact ⟨trivial, fun _ ↦ trivial⟩
  refine Prog.issues_ite ⟨trivial, fun _ ↦ trivial⟩ (Prog.issues_ite trivial ?_)
  refine hmode.bind fun err ↦ Prog.issues_ite trivial ?_
  exact ⟨rfl, fun _ ↦ ⟨rfl, fun _ ↦ trivial⟩⟩

theorem cteSlotSet_issues (cteLen slotDurations : UInt8) :
    (cteSlotSet cteLen slotDurations).Issues (TestOp C) :=
  Prog.issues_ite ⟨trivial, fun _ ↦ trivial⟩ trivial

theorem txPowerSet_issues {channel : UInt8} (hc : C channel) (power : Int8) :
    (txPowerSet power channel).Issues (TestOp C) := by
  rw [txPowerSet]
  cases txPowerRequestOf power with
  | none => trivial
  | some request => exact ⟨hc, fun _ ↦ trivial⟩

/-- **A Receiver Test asks for no channel** that the predicate has to know. -/
theorem rxTestStatus_issues (p : RxParams) : (rxTestStatus p).Issues (TestOp C) := by
  refine Prog.Issues.bind (p := Transport.setupPrepare) ⟨trivial, fun _ ↦ trivial⟩ fun _ ↦ ?_
  refine attempt_issues (phySet_issues _) (attempt_issues (modSet_issues _) ?_)
  refine Prog.issues_ite trivial (attempt_issues (cteSet_issues _ _ _ _) ?_)
  refine attempt_issues (cteSlotSet_issues _ _) (attempt_issues ?_ trivial)
  exact ⟨trivial, fun _ ↦ trivial⟩

/-- **A Transmitter Test asks for its own channel**, twice: the power request is the first to see
it. -/
theorem txTestStatus_issues {p : TxParams} (hc : C p.chan) :
    (txTestStatus p).Issues (TestOp C) := by
  refine Prog.Issues.bind (p := Transport.setupPrepare) ⟨trivial, fun _ ↦ trivial⟩ fun _ ↦ ?_
  cases hciToDtmPayload p.payload with
  | error e => trivial
  | ok pld =>
    refine attempt_issues (phySet_issues _) (Prog.issues_ite trivial ?_)
    refine attempt_issues (cteSet_issues _ _ _ _) (attempt_issues (txPowerSet_issues hc _) ?_)
    exact attempt_issues ⟨hc, fun _ ↦ trivial⟩ trivial

/-! ### Packets -/

/-- The memory after the command header, and the opcode in it. -/
def opcodeOf (buf : ℕ → UInt8) : UInt16 := (buf 0).toUInt16 ||| ((buf 1).toUInt16 <<< 8)

/-- The parameters of the Receiver Test in a packet, if it is one. -/
def rxTestOf (type : UInt8) (buf : ℕ → UInt8) : Option RxParams :=
  if type = h4TypeCmd then
    (HciOp.ofCode (opcodeOf buf)).bind fun op ↦ rxParams op fun i ↦ buf (3 + i)
  else none

/-- The parameters of the Transmitter Test in a packet, if it is one. -/
def txTestOf (type : UInt8) (buf : ℕ → UInt8) : Option TxParams :=
  if type = h4TypeCmd then
    (HciOp.ofCode (opcodeOf buf)).bind fun op ↦ txParams op fun i ↦ buf (3 + i)
  else none

/-- An event is an operation of a packet. -/
theorem ccEvt_issues (opcode : UInt16) (ret : List UInt8) :
    (ccEvt opcode ret).Issues (PacketOp C) :=
  ⟨trivial, fun _ ↦ trivial⟩

/-- A packet is a Transmitter Test, or no channel of it is looked at. -/
theorem dtmTrProcess_cases (C : UInt8 → Prop) (type : UInt8) (buf : ℕ → UInt8) :
    (∃ p opcode, txTestOf type buf = some p ∧
      dtmTrProcess type buf = (txTestStatus p >>= fun status ↦ baseCcEvt opcode status)) ∨
    (txTestOf type buf = none ∧ (dtmTrProcess type buf).Issues (PacketOp C)) := by
  rw [txTestOf, dtmTrProcess]
  split_ifs with htype
  · rw [hciCmd, ← opcodeOf]
    rcases HciOp.ofCode (opcodeOf buf) with - | op
    · exact .inr ⟨rfl, (ccEvt_issues _ _).bind fun _ ↦ trivial⟩
    · cases op with
      | leTxTest | leEnhTxTest | leTxTestV3 | leTxTestV4 => exact .inl ⟨_, _, rfl, rfl⟩
      | leRxTest | leEnhRxTest | leRxTestV3 =>
        exact .inr ⟨rfl, ((rxTestStatus_issues _).mono fun _ h ↦ h.packetOp).bind fun _ ↦
          ccEvt_issues _ _⟩
      | reset =>
        refine .inr ⟨rfl, trivial, fun (err : Ret) ↦ ?_⟩
        show (if err ≠ .ok then _ else _ : Prog transport Ret).Issues _
        exact Prog.issues_ite ((ccEvt_issues _ _).bind fun _ ↦ ccEvt_issues _ _) (ccEvt_issues _ _)
      | readBdAddr => exact .inr ⟨rfl, ccEvt_issues _ _⟩
      | leReadLocalFeatures | leTestEnd => exact .inr ⟨rfl, trivial, fun _ ↦ ccEvt_issues _ _⟩
  · exact .inr ⟨rfl, trivial⟩

/-- **What a packet issues**, whatever the library answers. The condition on the channel is asked
of a packet that is a Transmitter Test, and of no other. -/
theorem dtmTrProcess_issues {type : UInt8} {buf : ℕ → UInt8}
    (hC : ∀ p, txTestOf type buf = some p → C p.chan) :
    (dtmTrProcess type buf).Issues (PacketOp C) := by
  rcases dtmTrProcess_cases C type buf with ⟨p, opcode, hp, hprocess⟩ | ⟨-, hissues⟩
  · rw [hprocess]
    exact ((txTestStatus_issues (hC p hp)).mono fun _ h ↦ h.packetOp).bind fun _ ↦ ccEvt_issues _ _
  · exact hissues

end DirectTestMode.Hci
