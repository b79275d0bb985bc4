import DirectTestMode.Dtm.Control
import DirectTestMode.Dtm.Invariant
import DirectTestMode.Transport.Effect
import DirectTestMode.Transport.HciRun

/-!
# The antenna pattern

Two generators fill an antenna pattern, each in a static buffer of its own: `antenna_set` of the
UART transport counts the antennas up, or up and down again, and `cte_set` of the HCI transport
copies a list. The library keeps a pointer and a length, and `switch_pattern_set` gives the pattern
to the radio when a test with antenna switching starts.

An accepted configuration is in place with its exact length (`Configures.hasPattern`), and stays
until it is replaced (`HasPattern.run`). But the loop of `switch_pattern_set` runs to the length
**inclusive**: after the pattern, in order, it reads and writes one octet more
(`switchPatternSet_hasPattern`), which for an HCI list of 75 antennas lies outside the buffer. So no
test start writes exactly what was asked for (`switchPattern_never`).

## Two notions of "in place"

* `Device.HasPattern` is about memory: the length the library has is that of the pattern, and the
  octets below it in the buffer it points to are the pattern. It is what a configuration establishes
  and what later inputs keep.
* `Device.SwitchesAs` is about the start of a test: what is written to the radio, and at which
  indices the buffer is read. The reads are part of it on purpose, since an octet too many may by
  chance be a harmless one, and the index it comes from is not.

The main result rests on the second alone, which fails for every device whatever it holds
(`not_switchesAs`): the last index read is the length itself. The first is what is left to say of
the code, that the pattern comes out whole and in order before the surplus octet.

An input that could replace the configuration is one that `keepsPattern` names: an initialisation, a
reset, a new pattern, or a store into a buffer. Everything else, the interrupts included, keeps
count, pointer, length and buffers (`Host.step_keepsPattern`).
-/

namespace DirectTestMode

open Fallible

variable {b : Build} {q : ℕ}

/-! ### What is asked for -/

/-- Antennas 1 to `n`. -/
def sweep (n : ℕ) : List UInt8 := (List.range' 1 n).map UInt8.ofNat

/-- The pattern that the parameter of an antenna array command asks for: antennas 1 to N, or with
bit 7 set 1 to N and back to 1. -/
def UartTwowire.requestedPattern (parameter : UInt8) : List UInt8 :=
  let n := (parameter &&& 0x7F).toNat
  if parameter &&& 0x80 = 0 then sweep n else sweep n ++ (sweep (n - 1)).reverse

/-- **Accepted configurations**, with the pattern that each asks for. -/
inductive Configures (b : Build) (q : ℕ) (h : Host) : List UInt8 → Host → Prop
  | uart {parameter : UInt8} {h' : Host}
      (hrun : (UartTwowire.antennaSet parameter).run (hostHandler b q) h = .ok (.ok, h')) :
      Configures b q h (UartTwowire.requestedPattern parameter) h'
  | hci {cteLen cteType patternLen : UInt8} {pattern : ℕ → UInt8} {h' : Host} (hcte : cteLen ≠ 0)
      (hrun : (Hci.cteSet cteLen cteType patternLen pattern).run (hostHandler b q) h =
        .ok (.ok, h')) :
      Configures b q h ((List.range patternLen.toNat).map pattern) h'

/-! ### What is in place -/

/-- The first octets of an antenna pattern buffer. -/
def PatternMemory.slice (p : PatternMemory) : PatternPtr → ℕ → Option (List UInt8)
  | .null, _ => none
  | .uart, len => p.uart.slice 0 len
  | .hci, len => p.hci.slice 0 len

/-- The size of the array that a pattern pointer points to. -/
def PatternPtr.size : PatternPtr → ℕ
  | null => 0
  | uart => 150
  | hci => 75

/-- The pointer and the length of the library stand for `pattern`. -/
structure Device.HasPattern (pattern : List UInt8) (s : Device) : Prop where
  len : s.cteInfo.antennaPatternLen.toNat = pattern.length
  octets : s.patterns.slice s.cteInfo.antennaPattern pattern.length = some pattern

/-- `antenna_set` generates the pattern that is asked for. -/
theorem UartTwowire.antennaPattern_eq (parameter : UInt8) :
    antennaPattern ((parameter &&& 0x80) >>> 7) (antCount parameter) =
      requestedPattern parameter := by
  have hbit : (parameter &&& 0x80) >>> 7 = 0 ↔ parameter &&& 0x80 = 0 := by
    have hall : ∀ v : BitVec 8,
        ((⟨v⟩ : UInt8) &&& 0x80) >>> 7 = 0 ↔ (⟨v⟩ : UInt8) &&& 0x80 = 0 := by
      decide
    exact hall parameter.toBitVec
  have hup (n : ℕ) : (List.range n).map (fun i ↦ UInt8.ofNat (i + 1)) = sweep n := by
    rw [sweep, List.range'_eq_map_range, List.map_map]
    exact List.map_congr_left fun i _ ↦ congrArg UInt8.ofNat (Nat.add_comm i 1)
  have hdown (n : ℕ) : (List.range (n - 1)).map (fun i ↦ UInt8.ofNat (n - (i + 1))) =
      (sweep (n - 1)).reverse := by
    rw [sweep, ← List.map_reverse, List.reverse_range', List.map_map]
    refine List.map_congr_left fun i _ ↦ congrArg UInt8.ofNat ?_
    show n - (i + 1) = 1 + (n - 1) - 1 - i
    omega
  rw [antennaPattern, requestedPattern]
  simp only [hbit, hup, hdown]
  rfl

/-- The length that `antenna_set` gives does not wrap: with at most 75 antennas, up and down
again is 149 octets. -/
theorem UartTwowire.toNat_antennaPatternLen (type : UInt8) {antCount : UInt8}
    (hmin : 0x01 ≤ antCount.toNat) (hmax : antCount.toNat ≤ 0x4B) :
    (if type = 0 then antCount else antCount * 2 - 1).toNat =
      (antennaPattern type antCount).length := by
  rw [antennaPattern]
  split
  · simp
  · have hdouble : (antCount * 2).toNat = antCount.toNat * 2 := by
      rw [UInt8.toNat_mul]
      exact Nat.mod_eq_of_lt (show antCount.toNat * 2 < 2 ^ 8 by omega)
    have hle : (1 : UInt8) ≤ antCount * 2 := by
      rw [UInt8.le_iff_toNat_le, hdouble, UInt8.toNat_one]
      omega
    rw [UInt8.toNat_sub_of_le _ _ hle, hdouble, UInt8.toNat_one]
    simp
    omega

/-- A pattern that is stored can be read back. -/
theorem patternStore_slice {ptr : PatternPtr} {src : List UInt8} {p p' : PatternMemory}
    (h : patternStore ptr src p = .ok p') : p'.slice ptr src.length = some src := by
  have hcopied {n : ℕ} {buf buf' : Buffer n UInt8}
      (h : inBounds (buf.memcpy 0 src src.length) = .ok buf') :
      buf'.slice 0 src.length = some src := by
    rw [Buffer.slice_memcpy (inBounds_eq_ok.1 h), List.take_length]
  cases ptr with
  | null => cases h
  | uart =>
    obtain ⟨buf, hbuf, h⟩ := bind_eq_ok.1 h
    cases h
    exact hcopied hbuf
  | hci =>
    obtain ⟨buf, hbuf, h⟩ := bind_eq_ok.1 h
    cases h
    exact hcopied hbuf

/-- Store a pattern, then give it to the library: what both transports do. -/
theorem storePattern_hasPattern {ptr : PatternPtr} {src : List UInt8} {count patternLen : UInt8}
    {h h' : Host} (hlen : patternLen.toNat = src.length)
    (hrun : (do
      Transport.storePattern ptr src
      Transport.setupSetAntennaParams count ptr patternLen : Prog transport Ret).run
        (hostHandler b q) h = .ok (.ok, h')) : h'.device.HasPattern src := by
  obtain ⟨patterns, hpatterns, hrun⟩ := Hci.storePattern_bind_ok hrun
  have hset := Hci.call_ok (g := dtmSetupSetAntennaParams b count ptr patternLen) (fun _ ↦ rfl) hrun
  rw [dtmSetupSetAntennaParams] at hset
  split_ifs at hset
  · cases hset
  · cases hset
  · cases hset
  · cases hset
  · rw [← (Prod.mk.inj hset).2]
    exact ⟨hlen, patternStore_slice hpatterns⟩

/-- **An accepted configuration is in place.** Both transports store first and give the pointer
second, and a refusal on the way is no acceptance. -/
theorem Configures.hasPattern {h h' : Host} {pattern : List UInt8}
    (hconf : Configures b q h pattern h') : h'.device.HasPattern pattern := by
  cases hconf with
  | @uart parameter _ hrun =>
    rw [← UartTwowire.antennaPattern_eq]
    simp only [UartTwowire.antennaSet] at hrun
    split at hrun
    · cases hrun
    · rename_i hcount
      obtain ⟨hmin, hmax⟩ := not_or.1 hcount
      exact storePattern_hasPattern
        (UartTwowire.toNat_antennaPatternLen _ (Nat.not_lt.1 hmin) (Nat.not_lt.1 hmax)) hrun
  | hci hcte hrun =>
    obtain ⟨type, -, -, -, -, -, hptr, hlen, hslice⟩ := (Hci.cteSet_ok hrun).on hcte
    refine ⟨?_, ?_⟩
    · rw [hlen, List.length_map, List.length_range]
    · rw [hptr, List.length_map, List.length_range]
      exact hslice

/-! ### What the loop reads and writes -/

/-- The indices at which `switch_pattern_set` reads the pattern. -/
def switchPatternReads (s : Device) : List ℕ := List.range (s.cteInfo.antennaPatternLen.toNat + 1)

/-- `switch_pattern_set` writes what it should: the antenna of the PDU twice and `pattern`, and it
reads `antenna_pattern` below its length and inside its array only. -/
structure Device.SwitchesAs (b : Build) (pattern : List UInt8) (s : Device) : Prop where
  writes : switchPatternSet b s = b.pduAntenna :: b.pduAntenna :: pattern
  reads : ∀ i ∈ switchPatternReads s,
    i < s.cteInfo.antennaPatternLen.toNat ∧ i < s.cteInfo.antennaPattern.size

/-- The pattern that is written is what is read at these. -/
theorem switchPatternSet_reads (b : Build) (s : Device) :
    switchPatternSet b s =
      b.pduAntenna :: b.pduAntenna :: (switchPatternReads s).map (s.antennaPatternAt b) :=
  rfl

/-- **The loop writes the pattern in order, and one octet more.** -/
theorem switchPatternSet_hasPattern {pattern : List UInt8} {s : Device}
    (hs : s.HasPattern pattern) (b : Build) :
    switchPatternSet b s = b.pduAntenna :: b.pduAntenna ::
      (pattern ++ [s.antennaPatternAt b pattern.length]) := by
  have hpattern : (List.range pattern.length).map (s.antennaPatternAt b) = pattern := by
    have hoctets := hs.octets
    unfold Device.antennaPatternAt
    cases hptr : s.cteInfo.antennaPattern with
    | null =>
      rw [hptr] at hoctets
      cases hoctets
    | uart =>
      rw [hptr] at hoctets
      exact Buffer.map_range_of_slice hoctets fun i ↦ dif_pos i.isLt
    | hci =>
      rw [hptr] at hoctets
      exact Buffer.map_range_of_slice hoctets fun i ↦ dif_pos i.isLt
  rw [switchPatternSet_reads, switchPatternReads, hs.len, List.range_succ, List.map_append,
    hpattern]
  rfl

/-! ### A test start -/

/-- The CTE mode in which the action switches antennas: a receiver does with AoA and a transmitter
with AoD. -/
def ControlAction.switchingMode : ControlAction → Option DtmCteMode
  | receive => some .aoa
  | transmit | carrier => some .aod
  | keep | done => none

/-- The call starts a test that programs antenna switching. -/
def Call.Switches (b : Build) (c : Call) (s : Device) : Prop :=
  b.directionFinding = true ∧ (c.action b s).switchingMode = some s.cteInfo.mode

/-- What is done by a transmit call is done in the mode AoD, if it switches antennas. -/
theorem transmitAction_switchingMode {channel length : UInt8} {pkt : DtmPacket} {s : Device}
    {mode : DtmCteMode}
    (h : (transmitAction b channel length pkt s).switchingMode = some mode) : mode = .aod := by
  rw [transmitAction] at h
  split_ifs at h <;> cases h <;> rfl

/-- A transmit call that does not prepare the radio starts nothing. -/
theorem transmitAction_of_not_prepares {channel length : UInt8} {pkt : DtmPacket} {s : Device}
    (h : transmitPrepares channel length pkt s = false) :
    transmitAction b channel length pkt s = .keep := by
  rw [transmitPrepares, Bool.and_eq_false_iff] at h
  rw [transmitAction]
  rcases h with hbusy | h
  · rw [if_pos (ne_of_beq_false hbusy)]
  · by_cases hv : resolvePacket s.radioMode pkt = .vendor
    · rw [if_pos hv] at h
      simp [hv, h]
    · rw [if_neg hv] at h
      rw [if_neg hv, h]
      simp

/-- The preparation of the radio runs the loop if the mode is the one of its direction. -/
theorem radioPrepare_switchPattern (hdf : b.directionFinding = true) {rx : Bool} {s s' : Device}
    (hmode : s.cteInfo.mode = if rx then .aoa else .aod) (h : radioPrepare b rx s = .ok s') :
    s'.radio.switchPattern = s.radio.switchPattern ++ switchPatternSet b s := by
  rw [radioPrepare_radio h, if_pos hdf]
  cases rx <;> simp [radioCtePrepare, hmode]

/-- **A test start with antenna switching runs the loop once**, on the configuration in place. -/
theorem Call.Switches.switchPattern {c : Call} {s : Device} (hc : c.Switches b s)
    {x : dtm.Res c × Device} (h : api b c s = .ok x) :
    x.2.radio.switchPattern = s.radio.switchPattern ++ switchPatternSet b s := by
  obtain ⟨hdf, hmode⟩ := hc
  cases c with
  | testReceive channel =>
    change dtmTestReceive b channel s = .ok x at h
    rw [Call.action] at hmode
    rw [dtmTestReceive] at h
    split at h
    · rw [if_neg (Nat.not_le.2 ‹_›)] at hmode
      cases hmode
    · rw [if_pos (Nat.not_lt.1 ‹_›)] at hmode
      have hmode : (receiveAssign channel s).cteInfo.mode = if true then .aoa else .aod :=
        (Option.some.inj hmode).symm
      obtain ⟨t, ht, h⟩ := bind_eq_ok.1 h
      have ht := radioPrepare_switchPattern hdf hmode ht
      cases h
      exact ht
  | testTransmit channel length pkt =>
    change dtmTestTransmit b channel length pkt s = .ok x at h
    have haod : s.cteInfo.mode = if false then .aoa else .aod := transmitAction_switchingMode hmode
    -- a transmission that does not get to the preparation switches nothing
    rcases dtmTestTransmit_prepared h with ⟨-, pdu, t, ht, hstarted⟩ | ⟨hprepares, -⟩
    · rw [hstarted.radio]
      exact radioPrepare_switchPattern
        (s := { transmitState channel length pkt s with pdu := pdu }) hdf haod ht
    · have hkeep : transmitAction b channel length pkt s = .keep :=
        transmitAction_of_not_prepares hprepares
      rw [Call.action, hkeep] at hmode
      cases hmode
  | testEnd packCnt => cases packCnt <;> cases hmode
  | init | setupPrepare | setupReset | setupSetPhy | setupSetModulation | setupReadFeatures
  | setupReadMaxSupportedValue | setupSetCteMode | setupSetCteSlot | setupSetAntennaParams
  | setupSetTransmitPower => cases hmode

/-! ### Later runs -/

/-- What can happen to a host: an operation of a transport, or an interrupt. -/
inductive HostInput
  | op (op : TransportOp)
  | radio (ev : RadioEvent)
  | anomaly (ev : AnomalyEvent)

def Host.step (b : Build) (q : ℕ) (h : Host) : HostInput → Except Fault Host
  | .op op => Prog.opStep (hostHandler b q) h op
  | .radio ev => do
    let s ← h.device.step b (.radio ev)
    pure { h with device := s }
  | .anomaly ev => do
    let s ← h.device.step b (.anomaly ev)
    pure { h with device := s }

/-- The input does not touch the configuration: it is no reset, and it neither stores a pattern nor
gives one to the library. -/
def HostInput.keepsPattern : HostInput → Bool
  | .op (.dtm (.init _ _)) | .op (.dtm .setupReset) | .op (.dtm (.setupSetAntennaParams _ _ _))
  | .op (.patternStore _ _) => false
  | .op (.dtm _) | .op (.uartWrite _ _ _) | .radio _ | .anomaly _ => true

/-- The count, the pointer, the length and the buffers are the same. -/
structure KeepsPattern (s s' : Device) : Prop where
  antennaNumber : s'.cteInfo.antennaNumber = s.cteInfo.antennaNumber
  antennaPattern : s'.cteInfo.antennaPattern = s.cteInfo.antennaPattern
  antennaPatternLen : s'.cteInfo.antennaPatternLen = s.cteInfo.antennaPatternLen
  patterns : s'.patterns = s.patterns

theorem Device.HasPattern.keeps {pattern : List UInt8} {s s' : Device} (hs : s.HasPattern pattern)
    (h : KeepsPattern s s') : s'.HasPattern pattern where
  len := by rw [h.antennaPatternLen, hs.len]
  octets := by rw [h.antennaPattern, h.patterns, hs.octets]

/-- A step that writes neither the CTE settings nor the buffers. -/
theorem KeepsPattern.of_cteInfo {s s' : Device} (hcte : s'.cteInfo = s.cteInfo)
    (hpatterns : s'.patterns = s.patterns) : KeepsPattern s s' where
  antennaNumber := by rw [hcte]
  antennaPattern := by rw [hcte]
  antennaPatternLen := by rw [hcte]
  patterns := hpatterns

theorem KeepsSetup.keepsPattern {s s' : Device} (h : KeepsSetup s s') : KeepsPattern s s' where
  antennaNumber := by rw [h.cteInfo]
  antennaPattern := by rw [h.cteInfo]
  antennaPatternLen := by rw [h.cteInfo]
  patterns := h.patterns

theorem api_keepsPattern {c : Call} (hkeeps : (HostInput.op (.dtm c)).keepsPattern = true)
    {s : Device} {x : dtm.Res c × Device} (h : api b c s = .ok x) : KeepsPattern s x.2 := by
  cases hc : c.isSetup with
  | false =>
    have hsettings := api_keepsSettings hc h
    exact .of_cteInfo hsettings.cteInfo hsettings.patterns
  | true =>
    have hpatterns : x.2.patterns = s.patterns :=
      (api_keepsTest (by rintro env callback rfl; cases hkeeps) hc h).patterns
    cases c with
    | setupSetPhy phy => exact .of_cteInfo (dtmSetupSetPhy_cteInfo h) hpatterns
    | setupSetModulation | setupReadFeatures | setupReadMaxSupportedValue =>
      cases h
      exact .of_cteInfo rfl rfl
    | setupSetCteMode type time =>
      cases h
      rw [dtmSetupSetCteMode]
      split_ifs <;> exact ⟨rfl, rfl, rfl, rfl⟩
    | setupSetCteSlot slot =>
      cases h
      rw [dtmSetupSetCteSlot]
      split
      · exact .of_cteInfo rfl rfl
      · split <;> exact ⟨rfl, rfl, rfl, rfl⟩
    | setupSetTransmitPower power val channel =>
      rw [dtmSetupSetTransmitPower_ok h]
      exact .of_cteInfo rfl rfl
    | init | setupReset | setupSetAntennaParams => cases hkeeps
    | setupPrepare | testReceive | testTransmit | testEnd => cases hc

/-- **One input** that touches no configuration: only the listed calls write these fields. -/
theorem Host.step_keepsPattern {h h' : Host} {i : HostInput} (hkeeps : i.keepsPattern = true)
    (hstep : h.step b q i = .ok h') : KeepsPattern h.device h'.device := by
  cases i with
  | op op =>
    obtain ⟨x, hx, hstep⟩ := bind_eq_ok.1 hstep
    cases hstep
    cases op with
    | dtm c =>
      obtain ⟨y, hy, hx⟩ := bind_eq_ok.1 hx
      cases hx
      exact api_keepsPattern hkeeps hy
    | patternStore => cases hkeeps
    | uartWrite =>
      cases hx
      exact .of_cteInfo rfl rfl
  | radio ev =>
    obtain ⟨s, hs, hstep⟩ := bind_eq_ok.1 hstep
    cases hstep
    exact (radioIrq_keepsSetup hs).keepsPattern
  | anomaly ev =>
    obtain ⟨s, hs, hstep⟩ := bind_eq_ok.1 hstep
    cases hstep
    exact (Device.step_anomaly_keepsSetup hs).keepsPattern

/-- **A configuration stays** until an input touches it. -/
theorem Device.HasPattern.run {pattern : List UInt8} {later : List HostInput} {h h' : Host}
    (hs : h.device.HasPattern pattern) (hkeeps : ∀ i ∈ later, i.keepsPattern = true)
    (hrun : Fallible.run (Host.step b q) h later = .ok h') : h'.device.HasPattern pattern := by
  induction later generalizing h with
  | nil =>
    cases hrun
    exact hs
  | cons i later ih =>
    obtain ⟨t, ht, hrun⟩ := bind_eq_ok.1 hrun
    have hstep := Host.step_keepsPattern (hkeeps i List.mem_cons_self) ht
    exact ih (hs.keeps hstep) (fun j hj ↦ hkeeps j (List.mem_cons_of_mem i hj)) hrun

/-- The loop reads at the length of the pattern, whatever is configured. -/
theorem not_switchesAs (b : Build) (pattern : List UInt8) (s : Device) :
    ¬ s.SwitchesAs b pattern := by
  intro h
  have hread : s.cteInfo.antennaPatternLen.toNat ∈ switchPatternReads s :=
    List.self_mem_range_succ
  exact Nat.lt_irrefl _ (h.reads _ hread).1

/-- **No test start gives the radio exactly the requested pattern.** Whatever happens between an
accepted configuration and the start, the loop misses what it should do; and if the configuration is
still in place, the radio gets the pattern in order and one octet more. -/
theorem switchPattern_never (b : Build) (q : ℕ) {h₀ h h' : Host} {pattern : List UInt8}
    (hconf : Configures b q h₀ pattern h) {later : List HostInput}
    (hrun : run (Host.step b q) h later = .ok h') {c : Call} {x : dtm.Res c × Device}
    (hstart : api b c h'.device = .ok x) (hswitches : c.Switches b h'.device) :
    x.2.radio.switchPattern =
        h'.device.radio.switchPattern ++ switchPatternSet b h'.device ∧
      ¬ h'.device.SwitchesAs b pattern ∧
      ((∀ i ∈ later, i.keepsPattern = true) →
        switchPatternSet b h'.device = b.pduAntenna :: b.pduAntenna ::
          (pattern ++ [h'.device.antennaPatternAt b pattern.length]) ∧
        h'.device.cteInfo.antennaPatternLen.toNat = pattern.length) := by
  refine ⟨hswitches.switchPattern hstart, not_switchesAs b pattern _, fun hkeeps ↦ ?_⟩
  have hpattern := hconf.hasPattern.run hkeeps hrun
  exact ⟨switchPatternSet_hasPattern hpattern b, hpattern.len⟩

/-- Two antennas of an HCI command reach the radio with a third octet behind them. -/
theorem switchPattern_never_hci :
    ∃ h x, Configures (.nrf5340 true false) 0 ⟨.nrf5340, ⟨0, []⟩⟩ [7, 9] h ∧
      api (.nrf5340 true false) (.testReceive 0) h.device = .ok x ∧
      x.2.radio.switchPattern = [0, 0, 7, 9, 0] ∧
      ¬ h.device.SwitchesAs (.nrf5340 true false) [7, 9] := by
  have hconf := @Configures.hci (.nrf5340 true false) 0 ⟨.nrf5340, ⟨0, []⟩⟩ 20 0 2
    (fun i ↦ UInt8.ofNat (7 + 2 * i)) _ (by decide) rfl
  obtain ⟨hpattern, hnever, -⟩ := switchPattern_never (.nrf5340 true false) 0 hconf
    (rfl : run _ _ [] = .ok _) (c := .testReceive 0) rfl ⟨rfl, rfl⟩
  exact ⟨_, _, hconf, rfl, hpattern, hnever⟩

/-- The same on the UART transport: two antennas, and a third octet. -/
theorem switchPattern_twoAntennas :
    ∃ h h' x, Configures (.nrf5340 true false) 0 ⟨.nrf5340, ⟨0, []⟩⟩
        (UartTwowire.requestedPattern 0x02) h ∧
      UartTwowire.requestedPattern 0x02 = [1, 2] ∧
      run (Host.step (.nrf5340 true false) 0) h [.op (.dtm (.setupSetCteMode .aoa 20))] = .ok h' ∧
      Call.Switches (.nrf5340 true false) (.testReceive 0) h'.device ∧
      api (.nrf5340 true false) (.testReceive 0) h'.device = .ok x ∧
      x.2.radio.switchPattern = [0, 0, 1, 2, 0] ∧
      ¬ h'.device.SwitchesAs (.nrf5340 true false) [1, 2] :=
  ⟨_, _, _, .uart rfl, by decide, rfl, ⟨rfl, rfl⟩, rfl, rfl, not_switchesAs _ _ _⟩

end DirectTestMode
