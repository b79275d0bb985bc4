import DirectTestMode.Transport.Interface

/-!
# The HCI transport (`dtm_hci.c`)

The handlers of the HCI commands. The parameters of a command are read from the memory that follows
its header, a function from offsets to octets, so that what a handler reads is explicit and a
handler can be run on a packet that is too short.

A test handler answers with exactly one Command Complete event. It is written as a program for the
status (`rxTestStatus`, `txTestStatus`), in which `attempt` is one call with its early return, and
the event at the end. The source returns the event at each exit; a chain of attempts makes the same
calls in the same order and has the same status at each exit.

## The versions of a test command

The source has one handler for the three Receiver Tests and one for the four Transmitter Tests, with
a switch that sets the parameters a version carries and leaves the others at their defaults.
`rxParams` and `txParams` are these switches, and the rest of a handler does not know the version.
That two versions of a command with the same parameters do the same is then by definition; that
their defaults are the values which the newer ones would carry is not.

## Status codes

Each kind of call has its own translation of an error number into a status (`unsupportedOn`,
`settingStatus`, `slotStatus`, `testStatus`). They are kept apart as in the source, where they are
separate switches.

## What is not here

The handlers are given a buffer and say nothing of where it came from: who holds it, and whether it
is released, belongs to the system around them.
-/

namespace DirectTestMode.Hci

/-! ### Commands and status codes -/

/-- The commands `hci_cmd` knows. -/
inductive HciOp
  | reset | readBdAddr | leReadLocalFeatures
  | leRxTest | leEnhRxTest | leRxTestV3
  | leTxTest | leEnhTxTest | leTxTestV3 | leTxTestV4
  | leTestEnd
  deriving DecidableEq, Repr

/-- The opcode of a command. -/
def HciOp.code : HciOp → UInt16
  | reset => 0x0C03 | readBdAddr => 0x1009 | leReadLocalFeatures => 0x2003
  | leRxTest => 0x201D | leEnhRxTest => 0x2033 | leRxTestV3 => 0x204F
  | leTxTest => 0x201E | leEnhTxTest => 0x2034 | leTxTestV3 => 0x2050 | leTxTestV4 => 0x207B
  | leTestEnd => 0x201F

/-- The command with a given opcode. -/
def HciOp.ofCode (code : UInt16) : Option HciOp :=
  [reset, readBdAddr, leReadLocalFeatures, leRxTest, leEnhRxTest, leRxTestV3, leTxTest,
    leEnhTxTest, leTxTestV3, leTxTestV4, leTestEnd].find? (HciOp.code · == code)

/-- `BT_HCI_ERR_SUCCESS`; the errors the handlers answer with follow. -/
def errSuccess : UInt8 := 0x00
/-- The answer to an opcode that is not one of them. -/
def errUnknownCmd : UInt8 := 0x01
/-- An error of the library that has no status of its own. -/
def errHwFailure : UInt8 := 0x03
/-- A constant tone extension on a PHY that the handler does not want it on. -/
def errCmdDisallowed : UInt8 := 0x0C
/-- A feature or a parameter value that the build does not have. -/
def errUnsuppFeatureParamVal : UInt8 := 0x11
/-- A parameter out of range. -/
def errInvalidParam : UInt8 := 0x12

/-! ### Events -/

/-- `H4_TYPE_CMD`. -/
def h4TypeCmd : UInt8 := 0x01
/-- `H4_TYPE_EVT`. -/
def h4TypeEvt : UInt8 := 0x04

/-- `sys_put_le16`. -/
def le16 (v : UInt16) : List UInt8 := [v.toUInt8, (v >>> 8).toUInt8]

/-- A Command Complete event with the return parameters `ret`, handed to the UART. -/
def ccEvt (opcode : UInt16) (ret : List UInt8) : Prog transport Ret :=
  let pld := 1 :: (le16 opcode ++ ret)
  Transport.uartWrite h4TypeEvt [0x0E, UInt8.ofNat pld.length] pld

/-- A Command Complete event with a status only. -/
def baseCcEvt (opcode : UInt16) (status : UInt8) : Prog transport Ret := ccEvt opcode [status]

/-- The answer to a Test End: the status and the packet count. -/
def testEndCcEvt (status : UInt8) (cnt : UInt16) : Prog transport Ret :=
  ccEvt HciOp.leTestEnd.code (status :: le16 cnt)

/-- The address of the device, which is zero. -/
def readBdAddrCcEvt (status : UInt8) : Prog transport Ret :=
  ccEvt HciOp.readBdAddr.code (status :: List.replicate 6 0)

/-- The features, in eight octets. -/
def readLocalFeatCcEvt (status : UInt8) (features : List UInt8) : Prog transport Ret :=
  ccEvt HciOp.leReadLocalFeatures.code (status :: features)

/-! ### Settings -/

/-- The packet of an HCI payload code. -/
def hciToDtmPayload (hciPld : UInt8) : Except Errno DtmPacket :=
  if hciPld = 0x00 then .ok .prbs9
  else if hciPld = 0x01 then .ok .pkt0F
  else if hciPld = 0x02 then .ok .pkt55
  else if hciPld = 0x03 then .ok .prbs15
  else if hciPld = 0x04 then .ok .ff
  else if hciPld = 0x05 then .ok .pkt00
  else if hciPld = 0x06 then .ok .pktF0
  else if hciPld = 0x07 then .ok .pktAA
  else .error .einval

/-- The PHY codes of the test commands. -/
def lePhy1M : UInt8 := 0x01
def lePhy2M : UInt8 := 0x02
def lePhyCodedS8 : UInt8 := 0x03
def lePhyCodedS2 : UInt8 := 0x04

/-- The PHY of an HCI PHY code. -/
def phyOf (phy : UInt8) : Option DtmPhy :=
  if phy = lePhy1M then some .phy1m
  else if phy = lePhy2M then some .phy2m
  else if phy = lePhyCodedS8 then some .codedS8
  else if phy = lePhyCodedS2 then some .codedS2
  else none

/-- The PHY of the code is set, when there is one. -/
def phySet (phy : UInt8) : Prog transport Ret :=
  match phyOf phy with
  | some phy => Transport.setupSetPhy phy
  | none => pure (.err .einval)

/-- The modulation index of a code. -/
def modSet (mod : UInt8) : Prog transport Ret :=
  if mod = 0x00 then Transport.setupSetModulation .standard
  else if mod = 0x01 then Transport.setupSetModulation .stable
  else pure (.err .einval)

/-- The CTE type of an HCI CTE type code. -/
def cteTypeOf (cteType : UInt8) : Option DtmCteType :=
  if cteType = 0x00 then some .aoa
  else if cteType = 0x01 then some .aod1us
  else if cteType = 0x02 then some .aod2us
  else none

/-- The switch of `cte_set` on the CTE type. -/
def cteModeSet (cteLen cteType : UInt8) : Prog transport Ret :=
  match cteTypeOf cteType with
  | some type => Transport.setupSetCteMode type cteLen
  | none => pure (.err .einval)

/-- The extension of a test command. The length zero turns it off; otherwise the mode is set, the
pattern stored and handed over, with a number of antennas of zero. -/
def cteSet (cteLen cteType patternLen : UInt8) (pattern : ℕ → UInt8) : Prog transport Ret :=
  if cteLen = 0 then Transport.setupSetCteMode .none 0
  else if 0x4B < patternLen.toNat then pure (.err .einval)
  else do
    let err ← cteModeSet cteLen cteType
    if err ≠ .ok then pure err
    else do
      Transport.storePattern .hci ((List.range patternLen.toNat).map pattern)
      Transport.setupSetAntennaParams 0 .hci patternLen

/-- The request of an HCI power octet. -/
def txPowerRequestOf (power : Int8) : Option (DtmTxPowerRequest × Int8) :=
  if power.toInt = 0x7E then some (.min, 0)
  else if power.toInt = 0x7F then some (.max, 0)
  else if -127 ≤ power.toInt ∧ power.toInt ≤ 20 then some (.val, power)
  else none

/-- The answer of the library is not looked at, so a power request fails on its octet only. -/
def txPowerSet (power : Int8) (channel : UInt8) : Prog transport Ret :=
  match txPowerRequestOf power with
  | none => pure (.err .einval)
  | some request => do
    let _ ← Transport.setupSetTransmitPower request.1 request.2 channel
    pure .ok

/-! ### Early returns -/

/-- Any error of `phy_set`, `hci_to_dtm_payload` or `tx_power_set`. -/
def unsupportedOn : Ret → Option UInt8
  | .ok => none
  | .err _ => some errUnsuppFeatureParamVal

/-- An error of `mod_set` or `cte_set`. -/
def settingStatus : Ret → Option UInt8
  | .ok => none
  | .err .enotsup => some errUnsuppFeatureParamVal
  | .err _ => some errHwFailure

/-- An error of `dtm_setup_set_cte_slot`. -/
def slotStatus : Ret → Option UInt8
  | .ok => none
  | .err .enotsup => some errUnsuppFeatureParamVal
  | .err .einval => some errInvalidParam
  | .err _ => some errHwFailure

/-- An error of `dtm_test_receive` or `dtm_test_transmit`. -/
def testStatus : Ret → Option UInt8
  | .ok => none
  | .err .einval => some errInvalidParam
  | .err _ => some errHwFailure

/-- A call and its early return: `status` gives the status of an error that ends the command. -/
def attempt (p : Prog transport Ret) (status : Ret → Option UInt8) (next : Prog transport UInt8) :
    Prog transport UInt8 := do
  let err ← p
  match status err with
  | some status => pure status
  | none => next

/-- The refusal of a constant tone extension: on the uncoded PHYs. -/
def cteDisallowed (cteLen phy : UInt8) : Bool :=
  cteLen ≠ 0 && phy ≠ lePhyCodedS8 && phy ≠ lePhyCodedS2

/-! ### Receiver Test -/

/-- The parameters of a Receiver Test, in any of its versions. -/
structure RxParams where
  chan : UInt8
  phy : UInt8
  mod : UInt8
  cteLen : UInt8
  cteType : UInt8
  slotDurations : UInt8
  patternLen : UInt8
  pattern : ℕ → UInt8

/-- What the parameters are before a version sets some of them. -/
def RxParams.default (chan : UInt8) : RxParams :=
  ⟨chan, 0x01, 0x00, 0x00, 0x00, 0x01, 0x02, fun _ ↦ 0⟩

/-- The switch of `hci_rx_test` over the versions. -/
def rxParams (op : HciOp) (data : ℕ → UInt8) : Option RxParams :=
  match op with
  | .leRxTest => some (.default (data 0))
  | .leEnhRxTest => some { RxParams.default (data 0) with phy := data 1, mod := data 2 }
  | .leRxTestV3 => some
    { chan := data 0, phy := data 1, mod := data 2, cteLen := data 3, cteType := data 4
      slotDurations := data 5, patternLen := data 6, pattern := fun i ↦ data (7 + i) }
  | _ => none

/-- The slot of a reception with CTE; the octet goes to the library as it came. -/
def cteSlotSet (cteLen slotDurations : UInt8) : Prog transport Ret :=
  if cteLen ≠ 0 then Transport.setupSetCteSlot slotDurations else pure .ok

/-- `hci_rx_test`: the running test is ended, and then the settings are made one by one. -/
def rxTestStatus (p : RxParams) : Prog transport UInt8 := do
  Transport.setupPrepare
  attempt (phySet p.phy) unsupportedOn <|
    attempt (modSet p.mod) settingStatus <|
    if cteDisallowed p.cteLen p.phy then pure errCmdDisallowed else
    attempt (cteSet p.cteLen p.cteType p.patternLen p.pattern) settingStatus <|
    attempt (cteSlotSet p.cteLen p.slotDurations) slotStatus <|
    attempt (Transport.testReceive p.chan) testStatus <|
    pure errSuccess

/-- The status of the chain is the answer. -/
def hciRxTest (op : HciOp) (data : ℕ → UInt8) : Prog transport Ret :=
  match rxParams op data with
  | none => pure (.err .einval)
  | some p => do
    let status ← rxTestStatus p
    baseCcEvt op.code status

/-! ### Transmitter Test -/

/-- The parameters of a Transmitter Test, in any of its versions. -/
structure TxParams where
  chan : UInt8
  dataLen : UInt8
  payload : UInt8
  phy : UInt8
  cteLen : UInt8
  cteType : UInt8
  patternLen : UInt8
  pattern : ℕ → UInt8
  power : Int8

/-- What the parameters are before a version sets some of them. -/
def TxParams.default (chan dataLen payload : UInt8) : TxParams :=
  ⟨chan, dataLen, payload, lePhy1M, 0x00, 0x00, 0x02, fun _ ↦ 0, 0x7F⟩

/-- The switch of `hci_tx_test`. The power of the fourth version is behind the antenna ids. -/
def txParams (op : HciOp) (data : ℕ → UInt8) : Option TxParams :=
  let v1 := TxParams.default (data 0) (data 1) (data 2)
  let v3 := { v1 with
    phy := data 3, cteLen := data 4, cteType := data 5, patternLen := data 6
    pattern := fun i ↦ data (7 + i) }
  match op with
  | .leTxTest => some v1
  | .leEnhTxTest => some { v1 with phy := data 3 }
  | .leTxTestV3 => some v3
  | .leTxTestV4 => some { v3 with power := (data (7 + (data 6).toNat)).toInt8 }
  | _ => none

/-- The part of `hci_tx_test` after the payload is known. -/
def txTestStart (p : TxParams) (pld : DtmPacket) : Prog transport UInt8 :=
  attempt (phySet p.phy) unsupportedOn <|
    if cteDisallowed p.cteLen p.phy then pure errCmdDisallowed else
    attempt (cteSet p.cteLen p.cteType p.patternLen p.pattern) settingStatus <|
    -- the power request is the first to see the channel
    attempt (txPowerSet p.power p.chan) unsupportedOn <|
    attempt (Transport.testTransmit p.chan p.dataLen pld) testStatus <|
    pure errSuccess

/-- `hci_tx_test`: the running test is ended before the payload is looked at. -/
def txTestStatus (p : TxParams) : Prog transport UInt8 := do
  Transport.setupPrepare
  match hciToDtmPayload p.payload with
  | .error _ => pure errUnsuppFeatureParamVal
  | .ok pld => txTestStart p pld

/-- The status of the chain is the answer. -/
def hciTxTest (op : HciOp) (data : ℕ → UInt8) : Prog transport Ret :=
  match txParams op data with
  | none => pure (.err .einval)
  | some p => do
    let status ← txTestStatus p
    baseCcEvt op.code status

/-! ### The other commands -/

/-- A failed reset is answered twice. -/
def hciReset : Prog transport Ret := do
  let err ← Transport.setupReset
  if err ≠ .ok then do
    let _ ← baseCcEvt HciOp.reset.code errHwFailure
    baseCcEvt HciOp.reset.code errSuccess
  else baseCcEvt HciOp.reset.code errSuccess

/-- The address is answered without asking the library. -/
def hciReadBdAddr : Prog transport Ret := readBdAddrCcEvt errSuccess

/-- The octets of the LE features. -/
def hciFeatures (features : DtmSuppFeatures) : List UInt8 :=
  [if features.dataLenExt then 0x20 else 0,
    (if features.phy2m then 0x01 else 0) ||| (if features.stableMod then 0x06 else 0) |||
      (if features.codedPhy then 0x08 else 0),
    (if features.cte then 0x80 else 0) ||| (if features.antSwitching then 0x60 else 0),
    0, 0, 0, 0, 0]

/-- The features of the build. -/
def hciReadLocalFeatures : Prog transport Ret := do
  let features ← Transport.setupReadFeatures
  readLocalFeatCcEvt errSuccess (hciFeatures features)

/-- The status and the count of the answer to a Test End. -/
def testEndAnswer : Except Errno UInt16 → UInt8 × UInt16
  | .ok cnt => (errSuccess, cnt)
  | .error .einval => (errInvalidParam, 0)
  | .error _ => (errHwFailure, 0)

/-- The test is ended and the count answered. -/
def hciTestEnd : Prog transport Ret := do
  let cnt ← Transport.testEnd
  testEndCcEvt (testEndAnswer cnt).1 (testEndAnswer cnt).2

/-! ### Dispatch -/

/-- `hci_cmd` on an opcode and the memory after the command header. -/
def hciCmd (opcode : UInt16) (data : ℕ → UInt8) : Prog transport Ret :=
  match HciOp.ofCode opcode with
  | some .reset => hciReset
  | some .readBdAddr => hciReadBdAddr
  | some .leReadLocalFeatures => hciReadLocalFeatures
  | some .leRxTest => hciRxTest .leRxTest data
  | some .leEnhRxTest => hciRxTest .leEnhRxTest data
  | some .leRxTestV3 => hciRxTest .leRxTestV3 data
  | some .leTxTest => hciTxTest .leTxTest data
  | some .leEnhTxTest => hciTxTest .leEnhTxTest data
  | some .leTxTestV3 => hciTxTest .leTxTestV3 data
  | some .leTxTestV4 => hciTxTest .leTxTestV4 data
  | some .leTestEnd => hciTestEnd
  | none => do
    let _ ← baseCcEvt opcode errUnknownCmd
    pure (.err .enotsup)

/-- `dtm_tr_process` on a buffer: its type and the memory its data pointer points to. -/
def dtmTrProcess (type : UInt8) (buf : ℕ → UInt8) : Prog transport Ret :=
  if type = h4TypeCmd then
    hciCmd ((buf 0).toUInt16 ||| ((buf 1).toUInt16 <<< 8)) fun i ↦ buf (3 + i)
  else pure (.err .enotsup)

end DirectTestMode.Hci
