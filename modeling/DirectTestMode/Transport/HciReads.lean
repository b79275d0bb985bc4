import DirectTestMode.Machine.Reads
import DirectTestMode.Transport.Hci

/-!
# What the HCI handlers read

The handlers of `Transport.Hci` are given the memory behind a command as a function, so they do not
say what they look at. Here are the functions of `dtm_hci.c` that have the packet in their hands
once more, with every access to it an operation: the fixed fields are read where the opcode is
looked at, the antenna ids where `cte_set` copies them.

`erase_dtmTrProcess` says that these are the same programs: answered from a memory, the reads leave
the handlers that `Transport.Hci` has for it. So what is proved of the reads is about the handlers
that run, and the two texts cannot come apart unnoticed.

## Why twice

A handler that takes a memory as a function can be run, and its results are stated about it; whether
an octet of the packet is looked at cannot be seen from outside of a function. A handler with reads
is a program over a larger interface, in which the reads of a run are a list. It is the form for one
question, whether a read lies inside what was received, and it is used for nothing else.

## What is shared

Only the functions that take the packet are here. What they call (the settings of the PHY, the
modulation, the power and the slot, the calls of the library and the events) is lifted from
`Transport.Hci` as it is, since it has no access to the packet; the lemmas `erase_lift` and
`erase_bind` of the library of reads undo the lifting.
-/

namespace DirectTestMode.Hci.Reading

/-- A program with the packet before it. -/
abbrev PacketProg (α : Type) : Type := Prog (transport.withReads UInt8) α

/-- The octet `data[k]`; `data` points behind the header of the command. -/
def octet (k : ℕ) : PacketProg UInt8 := Prog.read (3 + k)

/-- The early return of `Hci.attempt`. -/
def attempt (p : PacketProg Ret) (status : Ret → Option UInt8) (next : PacketProg UInt8) :
    PacketProg UInt8 := do
  let err ← p
  match status err with
  | some status => pure status
  | none => next

/-- The copy in `cte_set`, from the offset of the antenna ids in the parameters or from
`def_pattern`. -/
def patternCopy (pattern : Option ℕ) (len : ℕ) : PacketProg (List UInt8) :=
  match pattern with
  | none => pure ((List.range len).map fun _ ↦ 0)
  | some offset => Prog.readBlock (3 + offset) len

/-- `cte_set`: the antenna ids are read where they are copied, after the mode has been set. A
refused mode reads none. -/
def cteSet (cteLen cteType patternLen : UInt8) (pattern : Option ℕ) : PacketProg Ret :=
  if cteLen = 0 then (Transport.setupSetCteMode .none 0).lift
  else if 0x4B < patternLen.toNat then pure (.err .einval)
  else do
    let err ← (cteModeSet cteLen cteType).lift
    if err ≠ .ok then pure err
    else do
      let src ← patternCopy pattern patternLen.toNat
      Prog.lift do
        Transport.storePattern .hci src
        Transport.setupSetAntennaParams 0 .hci patternLen

/-- Where the antenna ids of a command are. -/
def patternAt : HciOp → Option ℕ
  | .leRxTestV3 | .leTxTestV3 | .leTxTestV4 => some 7
  | _ => none

/-! ### Receiver Test -/

/-- The switch of `hci_rx_test`. The antenna ids are not read there. -/
def rxParams (op : HciOp) : PacketProg (Option RxParams) :=
  match op with
  | .leRxTest => do
    let chan ← octet 0
    pure (some (.default chan))
  | .leEnhRxTest => do
    let chan ← octet 0
    let phy ← octet 1
    let mod ← octet 2
    pure (some { RxParams.default chan with phy := phy, mod := mod })
  | .leRxTestV3 => do
    let chan ← octet 0
    let phy ← octet 1
    let mod ← octet 2
    let cteLen ← octet 3
    let cteType ← octet 4
    let slotDurations ← octet 5
    let patternLen ← octet 6
    pure (some ⟨chan, phy, mod, cteLen, cteType, slotDurations, patternLen, fun _ ↦ 0⟩)
  | _ => pure none

/-- `hci_rx_test` after its switch. The reads left are those of the antenna ids. -/
def rxTestStatus (p : RxParams) (pattern : Option ℕ) : PacketProg UInt8 := do
  Transport.setupPrepare.lift
  attempt (phySet p.phy).lift unsupportedOn <|
    attempt (modSet p.mod).lift settingStatus <|
    if cteDisallowed p.cteLen p.phy then pure errCmdDisallowed else
    attempt (cteSet p.cteLen p.cteType p.patternLen pattern) settingStatus <|
    Prog.lift <|
    Hci.attempt (cteSlotSet p.cteLen p.slotDurations) slotStatus <|
    Hci.attempt (Transport.testReceive p.chan) testStatus <|
    pure errSuccess

/-- `hci_rx_test`. -/
def hciRxTest (op : HciOp) : PacketProg Ret := do
  let p ← rxParams op
  match p with
  | none => pure (.err .einval)
  | some p => do
    let status ← rxTestStatus p (patternAt op)
    (baseCcEvt op.code status).lift

/-! ### Transmitter Test -/

/-- The switch of `hci_tx_test`. The power octet is behind the antenna ids. -/
def txParams (op : HciOp) : PacketProg (Option TxParams) :=
  match op with
  | .leTxTest => do
    let chan ← octet 0
    let dataLen ← octet 1
    let payload ← octet 2
    pure (some (.default chan dataLen payload))
  | .leEnhTxTest => do
    let chan ← octet 0
    let dataLen ← octet 1
    let payload ← octet 2
    let phy ← octet 3
    pure (some { TxParams.default chan dataLen payload with phy := phy })
  | .leTxTestV3 => do
    let chan ← octet 0
    let dataLen ← octet 1
    let payload ← octet 2
    let phy ← octet 3
    let cteLen ← octet 4
    let cteType ← octet 5
    let patternLen ← octet 6
    pure (some ⟨chan, dataLen, payload, phy, cteLen, cteType, patternLen, fun _ ↦ 0, 0x7F⟩)
  | .leTxTestV4 => do
    let chan ← octet 0
    let dataLen ← octet 1
    let payload ← octet 2
    let phy ← octet 3
    let cteLen ← octet 4
    let cteType ← octet 5
    let patternLen ← octet 6
    let power ← octet (7 + patternLen.toNat)
    pure (some ⟨chan, dataLen, payload, phy, cteLen, cteType, patternLen, fun _ ↦ 0, power.toInt8⟩)
  | _ => pure none

/-- `hci_tx_test` after the payload is known. -/
def txTestStart (p : TxParams) (pattern : Option ℕ) (pld : DtmPacket) : PacketProg UInt8 :=
  attempt (phySet p.phy).lift unsupportedOn <|
    if cteDisallowed p.cteLen p.phy then pure errCmdDisallowed else
    attempt (cteSet p.cteLen p.cteType p.patternLen pattern) settingStatus <|
    Prog.lift <|
    Hci.attempt (txPowerSet p.power p.chan) unsupportedOn <|
    Hci.attempt (Transport.testTransmit p.chan p.dataLen pld) testStatus <|
    pure errSuccess

/-- `hci_tx_test` after its switch. -/
def txTestStatus (p : TxParams) (pattern : Option ℕ) : PacketProg UInt8 := do
  Transport.setupPrepare.lift
  match hciToDtmPayload p.payload with
  | .error _ => pure errUnsuppFeatureParamVal
  | .ok pld => txTestStart p pattern pld

/-- `hci_tx_test`. -/
def hciTxTest (op : HciOp) : PacketProg Ret := do
  let p ← txParams op
  match p with
  | none => pure (.err .einval)
  | some p => do
    let status ← txTestStatus p (patternAt op)
    (baseCcEvt op.code status).lift

/-! ### Dispatch -/

/-- The other commands do not look at their parameters. -/
def hciCmd (opcode : UInt16) : PacketProg Ret :=
  match HciOp.ofCode opcode with
  | some .leRxTest => hciRxTest .leRxTest
  | some .leEnhRxTest => hciRxTest .leEnhRxTest
  | some .leRxTestV3 => hciRxTest .leRxTestV3
  | some .leTxTest => hciTxTest .leTxTest
  | some .leEnhTxTest => hciTxTest .leEnhTxTest
  | some .leTxTestV3 => hciTxTest .leTxTestV3
  | some .leTxTestV4 => hciTxTest .leTxTestV4
  | _ => (Hci.hciCmd opcode fun _ ↦ 0).lift

/-- The header of a command is read octet by octet, too. -/
def dtmTrProcess (type : UInt8) : PacketProg Ret :=
  if type = h4TypeCmd then do
    let low ← Prog.read 0
    let high ← Prog.read 1
    hciCmd (low.toUInt16 ||| (high.toUInt16 <<< 8))
  else pure (.err .enotsup)

/-! ### The same programs -/

variable {mem : ℕ → UInt8}

/-- The antenna ids as the handlers are given them. -/
def patternOf (mem : ℕ → UInt8) : Option ℕ → ℕ → UInt8
  | none => fun _ ↦ 0
  | some offset => fun i ↦ mem (3 + offset + i)

/-- Answering the reads goes through a link of the chain. -/
@[simp] theorem erase_attempt (p : PacketProg Ret) (status : Ret → Option UInt8)
    (next : PacketProg UInt8) :
    (attempt p status next).erase mem = Hci.attempt (p.erase mem) status (next.erase mem) := by
  rw [attempt, Prog.erase_bind, Hci.attempt]
  congr 1
  funext err
  cases status err <;> rfl

/-- A copy of the antenna ids, answered from the memory, is the list of them. -/
@[simp] theorem erase_patternCopy (pattern : Option ℕ) (len : ℕ) :
    (patternCopy pattern len).erase mem = pure ((List.range len).map (patternOf mem pattern)) := by
  cases pattern with
  | none => rfl
  | some offset => exact Prog.erase_readBlock _ len

/-- `cte_set` with its reads answered. -/
@[simp] theorem erase_cteSet (cteLen cteType patternLen : UInt8) (pattern : Option ℕ) :
    (cteSet cteLen cteType patternLen pattern).erase mem =
      Hci.cteSet cteLen cteType patternLen (patternOf mem pattern) := by
  rw [cteSet, Hci.cteSet]
  split_ifs
  · exact Prog.erase_lift _
  · rfl
  · rw [Prog.erase_bind, Prog.erase_lift]
    congr 1
    funext err
    split_ifs
    · rfl
    · rw [Prog.erase_bind, erase_patternCopy]
      exact Prog.erase_lift _

/-- A Receiver Test with its reads answered. The antenna ids are a part of the parameters on the
one side and an offset on the other. -/
theorem erase_rxTestStatus (p : RxParams) (pattern : Option ℕ) :
    (rxTestStatus p pattern).erase mem =
      Hci.rxTestStatus { p with pattern := patternOf mem pattern } := by
  rw [rxTestStatus, Hci.rxTestStatus, Prog.erase_bind, Prog.erase_lift]
  simp only [erase_attempt, Prog.erase_lift]
  split_ifs
  · rfl
  · simp only [erase_attempt, erase_cteSet, Prog.erase_lift]

/-- A Transmitter Test likewise. -/
theorem erase_txTestStatus (p : TxParams) (pattern : Option ℕ) :
    (txTestStatus p pattern).erase mem =
      Hci.txTestStatus { p with pattern := patternOf mem pattern } := by
  rw [txTestStatus, Hci.txTestStatus, Prog.erase_bind, Prog.erase_lift]
  simp only
  cases hciToDtmPayload p.payload with
  | error e => rfl
  | ok pld =>
    simp only [txTestStart, Hci.txTestStart, erase_attempt, Prog.erase_lift]
    split_ifs
    · rfl
    · simp only [erase_attempt, erase_cteSet, Prog.erase_lift]

/-- The switch over the versions reads the parameters, and leaves the antenna ids to the copy. -/
theorem erase_rxParams (op : HciOp) :
    (rxParams op).erase mem = pure ((Hci.rxParams op fun i ↦ mem (3 + i)).map fun p ↦
      { p with pattern := fun _ ↦ 0 }) := by
  cases op <;> rfl

theorem erase_txParams (op : HciOp) :
    (txParams op).erase mem = pure ((Hci.txParams op fun i ↦ mem (3 + i)).map fun p ↦
      { p with pattern := fun _ ↦ 0 }) := by
  cases op <;> rfl

/-- Where the copy finds them is where the parameters have them. -/
theorem patternOf_rxParams {op : HciOp} {p : RxParams}
    (h : Hci.rxParams op (fun i ↦ mem (3 + i)) = some p) :
    patternOf mem (patternAt op) = p.pattern := by
  cases op <;> cases h <;> first | rfl | exact funext fun i ↦ congrArg mem (Nat.add_assoc 3 7 i)

theorem patternOf_txParams {op : HciOp} {p : TxParams}
    (h : Hci.txParams op (fun i ↦ mem (3 + i)) = some p) :
    patternOf mem (patternAt op) = p.pattern := by
  cases op <;> cases h <;> first | rfl | exact funext fun i ↦ congrArg mem (Nat.add_assoc 3 7 i)

theorem erase_hciRxTest (op : HciOp) :
    (hciRxTest op).erase mem = Hci.hciRxTest op fun i ↦ mem (3 + i) := by
  rw [hciRxTest, Prog.erase_bind, erase_rxParams, Hci.hciRxTest]
  rcases hp : Hci.rxParams op fun i ↦ mem (3 + i) with - | p
  · rfl
  · show (_ >>= _ : PacketProg Ret).erase mem = _
    rw [Prog.erase_bind, erase_rxTestStatus, patternOf_rxParams hp]
    simp only [Prog.erase_lift]

theorem erase_hciTxTest (op : HciOp) :
    (hciTxTest op).erase mem = Hci.hciTxTest op fun i ↦ mem (3 + i) := by
  rw [hciTxTest, Prog.erase_bind, erase_txParams, Hci.hciTxTest]
  rcases hp : Hci.txParams op fun i ↦ mem (3 + i) with - | p
  · rfl
  · show (_ >>= _ : PacketProg Ret).erase mem = _
    rw [Prog.erase_bind, erase_txTestStatus, patternOf_txParams hp]
    simp only [Prog.erase_lift]

/-- One case for each command; those that do not look at their parameters are lifted. -/
theorem erase_hciCmd (opcode : UInt16) :
    (hciCmd opcode).erase mem = Hci.hciCmd opcode fun i ↦ mem (3 + i) := by
  rw [hciCmd]
  rcases hop : HciOp.ofCode opcode with - | op
  · simp only [Prog.erase_lift, Hci.hciCmd, hop]
  · cases op <;> simp only [Prog.erase_lift, Hci.hciCmd, hop, erase_hciRxTest, erase_hciTxTest]

/-- **The handlers that read are the handlers of the model.** -/
theorem erase_dtmTrProcess (type : UInt8) :
    (dtmTrProcess type).erase mem = Hci.dtmTrProcess type mem := by
  rw [dtmTrProcess, Hci.dtmTrProcess]
  split_ifs
  · exact erase_hciCmd _
  · rfl

end DirectTestMode.Hci.Reading
