import DirectTestMode.Properties.Completion

/-!
# The versions of a test command

An older version of a test command is a newer one with the parameters it lacks at their defaults.
`OlderVersion` says which defaults these are. The handlers take the parameters of every version into
one record, and without an extension they never look at the parameters that come with one, so both
versions run the same program (`versions_agree`).

* That the **program** is the same is an equation between two elements of `Prog`, proved from the
  parameters alone. No state is in it, so the result holds in every state without an invariant, a
  state that no run leads to included.
* The equation needs more than the parameters that are equal. The pattern is a function on all
  offsets, and the two packets agree on its first octets only; `cteSet_congr` says that `cte_set`
  reads no others. The power octet is behind the pattern, and its default is 0x7F, the code for the
  highest level.
* What the two commands do not share is the opcode of their answer. `Firmware.SameTest` therefore
  compares the status and the device, and each side has an event with its own opcode.

The pairs are those of neighbouring versions, and for Receiver Test also the first and the third.
-/

namespace DirectTestMode

open Fallible Hci

variable {b : Build} {q : ℕ}

/-- Two commands do the same in a state: they are stopped by the same assertion, or answered with
the same status and leave the same device behind. -/
def Firmware.SameTest (b : Build) (q : ℕ) (f : Firmware) (buf buf' : ℕ → UInt8) : Prop :=
  (∃ e, f.process b q h4TypeCmd buf = .error e ∧ f.process b q h4TypeCmd buf' = .error e) ∨
    ∃ status f₁ f₂, f.Replies b q buf status f₁ ∧ f.Replies b q buf' status f₂ ∧
      f₁.device = f₂.device

/-- The parameters of an older version of a test command and of a newer one that says the same. -/
inductive OlderVersion (data data' : ℕ → UInt8) : HciOp → HciOp → Prop
  | rxV1 (chan : data' 0 = data 0) (phy : data' 1 = lePhy1M) (mod : data' 2 = 0) :
    OlderVersion data data' .leRxTest .leEnhRxTest
  | rxV1V3 (chan : data' 0 = data 0) (phy : data' 1 = lePhy1M) (mod : data' 2 = 0)
    (cteLen : data' 3 = 0) : OlderVersion data data' .leRxTest .leRxTestV3
  | rxV2 (fields : ∀ i < 3, data' i = data i) (cteLen : data' 3 = 0) :
    OlderVersion data data' .leEnhRxTest .leRxTestV3
  | txV1 (fields : ∀ i < 3, data' i = data i) (phy : data' 3 = lePhy1M) :
    OlderVersion data data' .leTxTest .leEnhTxTest
  | txV2 (fields : ∀ i < 4, data' i = data i) (cteLen : data' 4 = 0) :
    OlderVersion data data' .leEnhTxTest .leTxTestV3
  | txV3 (fields : ∀ i < 7 + (data 6).toNat, data' i = data i)
    (power : data' (7 + (data 6).toNat) = 0x7F) : OlderVersion data data' .leTxTestV3 .leTxTestV4

/-- The same program answers both commands. -/
theorem sameTest_of_program {f : Firmware} {buf buf' : ℕ → UInt8} {p : Prog transport UInt8}
    (hp : p.Issues Silent)
    (hprocess : dtmTrProcess h4TypeCmd buf = p >>= fun status ↦ baseCcEvt (cmdOpcode buf) status)
    (hprocess' : dtmTrProcess h4TypeCmd buf' =
      p >>= fun status ↦ baseCcEvt (cmdOpcode buf') status) : f.SameTest b q buf buf' := by
  rcases hrun : p.run (hostHandler b q) f.host with e | ⟨status, h'⟩
  · exact .inl ⟨e, Firmware.process_error hprocess hrun, Firmware.process_error hprocess' hrun⟩
  · obtain ⟨f₁, hreplies, hdevice⟩ := Firmware.replies hp hprocess hrun
    obtain ⟨f₂, hreplies', hdevice'⟩ := Firmware.replies hp hprocess' hrun
    exact .inr ⟨status, f₁, f₂, hreplies, hreplies', hdevice.trans hdevice'.symm⟩

/-! ### The parameters that come with an extension -/

/-- The extension of a command looks at as many octets of the pattern as there are antennas. -/
theorem cteSet_congr {cteLen cteType patternLen : UInt8} {pattern pattern' : ℕ → UInt8}
    (h : ∀ i < patternLen.toNat, pattern' i = pattern i) :
    cteSet cteLen cteType patternLen pattern' = cteSet cteLen cteType patternLen pattern := by
  have hmap : (List.range patternLen.toNat).map pattern' =
      (List.range patternLen.toNat).map pattern :=
    List.map_congr_left fun i hi ↦ h i (List.mem_range.1 hi)
  rw [cteSet, cteSet, hmap]

/-- **Without an extension a Receiver Test looks at three parameters.** -/
theorem rxTestStatus_congr {p p' : RxParams} (hchan : p'.chan = p.chan) (hphy : p'.phy = p.phy)
    (hmod : p'.mod = p.mod) (hcte : p.cteLen = 0) (hcte' : p'.cteLen = 0) :
    rxTestStatus p' = rxTestStatus p := by
  have hset : cteSet 0 p'.cteType p'.patternLen p'.pattern =
      cteSet 0 p.cteType p.patternLen p.pattern := rfl
  have hslot : cteSlotSet 0 p'.slotDurations = cteSlotSet 0 p.slotDurations := rfl
  rw [rxTestStatus, rxTestStatus, hchan, hphy, hmod, hcte, hcte', hset, hslot]

/-- A Transmitter Test looks at the parameters of its extension through `cte_set`. -/
theorem txTestStatus_congr {p p' : TxParams} (hchan : p'.chan = p.chan)
    (hlen : p'.dataLen = p.dataLen) (hpayload : p'.payload = p.payload) (hphy : p'.phy = p.phy)
    (hpower : p'.power = p.power) (hcteLen : p'.cteLen = p.cteLen)
    (hset : cteSet p'.cteLen p'.cteType p'.patternLen p'.pattern =
      cteSet p.cteLen p.cteType p.patternLen p.pattern) : txTestStatus p' = txTestStatus p := by
  simp only [txTestStatus, txTestStart, hset]
  rw [hchan, hlen, hpayload, hphy, hpower, hcteLen]

/-- Without an extension none of them matters. -/
theorem cteSet_off {cteLen : UInt8} (hcte : cteLen = 0)
    (cteType cteType' patternLen patternLen' : UInt8) (pattern pattern' : ℕ → UInt8) :
    cteSet cteLen cteType patternLen pattern = cteSet 0 cteType' patternLen' pattern' := by
  rw [hcte]
  rfl

/-! ### Two commands with one program -/

/-- Two Receiver Tests with one program. -/
theorem sameTest_rx {f : Firmware} {op op' : HciOp} {buf buf' : ℕ → UInt8} {p p' : RxParams}
    (hop : cmdOpcode buf = op.code) (hop' : cmdOpcode buf' = op'.code)
    (hp : rxParams op (fun i ↦ buf (3 + i)) = some p)
    (hp' : rxParams op' (fun i ↦ buf' (3 + i)) = some p')
    (h : rxTestStatus p' = rxTestStatus p) : f.SameTest b q buf buf' :=
  sameTest_of_program (rxTestStatus_silent p) (dtmTrProcess_rx hop hp)
    (h ▸ dtmTrProcess_rx hop' hp')

/-- Two Transmitter Tests with one program. -/
theorem sameTest_tx {f : Firmware} {op op' : HciOp} {buf buf' : ℕ → UInt8} {p p' : TxParams}
    (hop : cmdOpcode buf = op.code) (hop' : cmdOpcode buf' = op'.code)
    (hp : txParams op (fun i ↦ buf (3 + i)) = some p)
    (hp' : txParams op' (fun i ↦ buf' (3 + i)) = some p')
    (h : txTestStatus p' = txTestStatus p) : f.SameTest b q buf buf' :=
  sameTest_of_program (txTestStatus_silent p) (dtmTrProcess_tx hop hp)
    (h ▸ dtmTrProcess_tx hop' hp')

/-- **The versions of a test command agree**, in every state. -/
theorem versions_agree {op op' : HciOp} {buf buf' : ℕ → UInt8} (hop : cmdOpcode buf = op.code)
    (hop' : cmdOpcode buf' = op'.code)
    (h : OlderVersion (fun i ↦ buf (3 + i)) (fun i ↦ buf' (3 + i)) op op') (f : Firmware) :
    f.SameTest b q buf buf' := by
  cases h with
  | rxV1 chan phy mod =>
    exact sameTest_rx hop hop' rfl rfl (rxTestStatus_congr chan phy mod rfl rfl)
  | rxV1V3 chan phy mod cteLen =>
    exact sameTest_rx hop hop' rfl rfl (rxTestStatus_congr chan phy mod rfl cteLen)
  | rxV2 fields cteLen =>
    exact sameTest_rx hop hop' rfl rfl (rxTestStatus_congr (fields 0 (by decide))
      (fields 1 (by decide)) (fields 2 (by decide)) rfl cteLen)
  | txV1 fields phy =>
    exact sameTest_tx hop hop' rfl rfl (txTestStatus_congr (fields 0 (by decide))
      (fields 1 (by decide)) (fields 2 (by decide)) phy rfl rfl rfl)
  | txV2 fields cteLen =>
    exact sameTest_tx hop hop' rfl rfl (txTestStatus_congr (fields 0 (by decide))
      (fields 1 (by decide)) (fields 2 (by decide)) (fields 3 (by decide)) rfl cteLen
      (cteSet_off cteLen _ _ _ _ _ _))
  | txV3 fields power =>
    have hlen : buf' (3 + 6) = buf (3 + 6) := fields 6 (by omega)
    refine sameTest_tx hop hop' rfl rfl (txTestStatus_congr (fields 0 (by omega))
      (fields 1 (by omega)) (fields 2 (by omega)) (fields 3 (by omega)) ?_ (fields 4 (by omega)) ?_)
    · show (buf' (3 + (7 + (buf' (3 + 6)).toNat))).toInt8 = 0x7F
      rw [hlen, power]
      rfl
    · show cteSet (buf' (3 + 4)) (buf' (3 + 5)) (buf' (3 + 6)) _ =
        cteSet (buf (3 + 4)) (buf (3 + 5)) (buf (3 + 6)) _
      rw [hlen, fields 4 (by omega), fields 5 (by omega)]
      exact cteSet_congr fun i hi ↦ fields (7 + i) (by omega)

/-- A Receiver Test on the 2 Mbit PHY, and the same in version 3 with a slot and a pattern. -/
theorem versions_agree_2mbit :
    (Firmware.ofDevice .nrf5340).SameTest (.nrf5340 true false) 1024
      ([0x33, 0x20, 0x03, 17, 0x02, 0x00].getD · 0)
      ([0x4F, 0x20, 0x09, 17, 0x02, 0x00, 0x00, 0x01, 0x02, 0x02, 0x01, 0x02].getD · 0) :=
  versions_agree (by decide) (by decide) (.rxV2 (by decide) rfl) _

end DirectTestMode
