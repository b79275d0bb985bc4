import DirectTestMode.Transport.Twowire

/-!
# The two-wire UART transport (`dtm_uart_twowire.c`)

The decoder that the shared core was moved from. It ends the running test before every Test Setup
word and handles all ten controls; most of them take a parameter in ranges, of which the low two
bits are reserved.

The functions follow the source one to one. Where the source masks and shifts in an order that loses
the field, as for the CTE type, so does the model: `cteTypeField` is defined as the source computes
it, and that it is always zero is a theorem about it and not a simplification of it. The same holds
for the pattern of an antenna switch, which is built octet by octet as in the source.

A control that returns data and one that does not are told apart by two small combinators
(`reading`, `plain`), which keep the switch a table.
-/

namespace DirectTestMode.UartTwowire

/-! ### Controls -/

/-- The parameter is in the first range, or nothing is reset. -/
def resetDtm (parameter upperLen : UInt8) : Prog transport (Ret × UInt8) :=
  if 0x03 < parameter.toNat then pure (.err .einval, upperLen)
  else do
    let err ← Transport.setupReset
    pure (err, 0)

/-- The upper bits of a parameter in range. -/
def upperSet (parameter upperLen : UInt8) : Ret × UInt8 :=
  if 0x0F < parameter.toNat then (.err .einval, upperLen) else (.ok, upperBits parameter)

/-- The PHY that a range of the parameter selects. -/
def phyOf (parameter : UInt8) : Option DtmPhy :=
  if parameter.toNat < 0x04 then none
  else if parameter.toNat ≤ 0x07 then some .phy1m
  else if parameter.toNat ≤ 0x0B then some .phy2m
  else if parameter.toNat ≤ 0x0F then some .codedS8
  else if parameter.toNat ≤ 0x13 then some .codedS2
  else none

/-- A PHY by the range of the parameter. The first range selects none. -/
def phySet (parameter : UInt8) : Prog transport Ret :=
  match phyOf parameter with
  | some phy => Transport.setupSetPhy phy
  | none => pure (.err .einval)

/-- A modulation index by the range of the parameter. -/
def modSet (parameter : UInt8) : Prog transport Ret :=
  if parameter.toNat ≤ 0x03 then Transport.setupSetModulation .standard
  else if parameter.toNat ≤ 0x07 then Transport.setupSetModulation .stable
  else pure (.err .einval)

/-- The CTE type field. The mask takes the two low bits, which the shift then drops. -/
def cteTypeField (parameter : UInt8) : UInt8 := (parameter &&& 0x03) >>> 6

/-- The time field, of five bits. -/
def cteTime (parameter : UInt8) : UInt8 := parameter &&& 0x1F

/-- A parameter of zero turns the extension off; otherwise the type field selects the type. -/
def cteSet (parameter : UInt8) : Prog transport Ret :=
  if parameter = 0 then Transport.setupSetCteMode .none 0
  else if cteTypeField parameter = 0x00 then Transport.setupSetCteMode .aoa (cteTime parameter)
  else if cteTypeField parameter = 0x01 then
    Transport.setupSetCteMode .aod1us (cteTime parameter)
  else if cteTypeField parameter = 0x02 then
    Transport.setupSetCteMode .aod2us (cteTime parameter)
  else pure (.err .einval)

/-- The slot follows the type field too. Type zero has no slot, and is an error. -/
def cteSlotSet (parameter : UInt8) : Prog transport Ret :=
  if cteTypeField parameter = 0x01 then Transport.setupSetCteSlot 0
  else if cteTypeField parameter = 0x02 then Transport.setupSetCteSlot 1
  else pure (.err .einval)

/-- The number of antennas, without the bit that selects the pattern. -/
def antCount (parameter : UInt8) : UInt8 := parameter &&& 0x7F

/-- The pattern `antenna_set` builds: `1 .. N`, and for the second kind back to `1`. -/
def antennaPattern (type antCount : UInt8) : List UInt8 :=
  let up := (List.range antCount.toNat).map fun i ↦ UInt8.ofNat (i + 1)
  if type = 0 then up
  else up ++ (List.range (antCount.toNat - 1)).map fun i ↦ UInt8.ofNat (antCount.toNat - (i + 1))

/-- The pattern is stored before the library is asked, so a refused one has already overwritten
its predecessor. -/
def antennaSet (parameter : UInt8) : Prog transport Ret :=
  let type := (parameter &&& 0x80) >>> 7
  let antCount := antCount parameter
  if antCount.toNat < 0x01 ∨ 0x4B < antCount.toNat then pure (.err .einval)
  else do
    let pattern := antennaPattern type antCount
    Transport.storePattern .uart pattern
    Transport.setupSetAntennaParams antCount .uart
      (if type = 0 then antCount else antCount * 2 - 1)

/-- The response bits of a power request. -/
def txPowerBits (power : DtmTxPower) : UInt16 :=
  ((power.power.toInt16.toUInt16 <<< 1) &&& 0x01FE) |||
  (if power.max then 0x0400 else 0) |||
  (if power.min then 0x0200 else 0)

/-- A power request on channel zero; the response carries the answer. -/
def txPowerSet (parameter : Int8) : Prog transport (Ret × UInt16) :=
  if parameter.toInt = 0x7E then do
    let power ← Transport.setupSetTransmitPower .min 0 0
    pure (.ok, txPowerBits power)
  else if parameter.toInt = 0x7F then do
    let power ← Transport.setupSetTransmitPower .max 0 0
    pure (.ok, txPowerBits power)
  else if -127 ≤ parameter.toInt ∧ parameter.toInt ≤ 20 then do
    let power ← Transport.setupSetTransmitPower .val parameter 0
    pure (.ok, txPowerBits power)
  else pure (.err .einval, 0)

/-! ### The decoder -/

/-- A control without response data that leaves `upper_len` alone. -/
def plain (upperLen : UInt8) (p : Prog transport Ret) : Prog transport (Ret × UInt16 × UInt8) := do
  let err ← p
  pure (err, 0, upperLen)

/-- A control with response data that leaves `upper_len` alone. -/
def reading (upperLen : UInt8) (p : Prog transport (Ret × UInt16)) :
    Prog transport (Ret × UInt16 × UInt8) := do
  let x ← p
  pure (x.1, x.2, upperLen)

/-- The switch of `on_test_setup_cmd`. -/
def setupSwitch (control parameter upperLen : UInt8) : Prog transport (Ret × UInt16 × UInt8) :=
  match DtmCtrlCode.ofCode control with
  | some .reset => do
    let x ← resetDtm parameter upperLen
    pure (x.1, 0, x.2)
  | some .setUpper => pure ((upperSet parameter upperLen).1, 0, (upperSet parameter upperLen).2)
  | some .setPhy => plain upperLen (phySet parameter)
  | some .selectModulation => plain upperLen (modSet parameter)
  | some .readSupported => reading upperLen (featuresRead parameter)
  | some .readMax => reading upperLen (readMax parameter)
  | some .constantToneExtension => plain upperLen (cteSet parameter)
  | some .constantToneExtensionSlot => plain upperLen (cteSlotSet parameter)
  | some .antennaArray => plain upperLen (antennaSet parameter)
  | some .transmitPower => reading upperLen (txPowerSet parameter.toInt8)
  | none => pure (.err .einval, 0, upperLen)

/-- The running test is ended first, whatever the control. -/
def setupCmd (control parameter upperLen : UInt8) : Prog transport (Ret × UInt16 × UInt8) := do
  Transport.setupPrepare
  setupSwitch control parameter upperLen

/-- The decoder of `dtm_uart_twowire.c`, with the status events as that file defines them. -/
def decoder : Decoder where
  success := 0x0000
  error := 0x0001
  testEndMaxRange := 0x03
  setupCmd := setupCmd

/-- `dtm_cmd_put` of `dtm_uart_twowire.c`. -/
def dtmCmdPut (cmd : UInt16) (upperLen : UInt8) : Prog transport (UInt16 × UInt8) :=
  decoder.dtmCmdPut cmd upperLen

end DirectTestMode.UartTwowire
