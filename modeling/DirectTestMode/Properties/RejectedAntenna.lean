import DirectTestMode.Properties.AntennaPattern

/-!
# Antenna commands that are refused

`antenna_set` of the UART transport builds a pattern in a static buffer and then hands the buffer to
the library. The library refuses it for a count above that of the board, and keeps the pointer it
has: a pointer to the same buffer, if the last command it took came this way. So a command that is
refused may change the pattern that is in place.

The antennas of the pattern in place survive, because a count that is refused is larger than one
that was taken (`Device.UartPattern`). What lies behind them does not: the way back of a pattern is
lost exactly where the new one differs from it (`antennaSet_refused_iff`).

## The invariant

The result is about reachable states, and what it needs of them is `Device.AntennaInv`: if the
pointer is to the buffer of the UART transport, then the count in place is one that the board has
taken, and the first cells of the buffer count up to it. A refused command writes a longer sweep
over these cells, and they stay what they are. That is why `Device.SparedBy` says nothing of the
cells below the count.

* Most operations leave the buffer and the pointer alone (`TransportOp.SparesUart`). An HCI command
  may move the pointer away, to its own buffer; from then on the invariant asks nothing.
* The antenna command itself has three ways, `AntennaSet`: no count, refused and accepted. In the
  second the buffer is written and nothing else, in the third the count takes the place of the old.
* A reset clears the pointer in a build with direction finding, and in one without there never was
  one.

## What is compared

`AntennaConfig` is what the next test would program: the count, the length, and the octets in the
buffer below the length. It is read through the pointer, on purpose. A configuration in the other
buffer does not depend on what the UART transport writes, and the same octets in another place are
the same configuration.
-/

namespace DirectTestMode

open Fallible

variable {b : Build} {q : ℕ}

/-! ### The configuration -/

/-- The antenna configuration: what the next test with antenna switching would program. -/
structure AntennaConfig where
  antennaNumber : UInt8
  antennaPatternLen : UInt8
  antennaPattern : Option (List UInt8)

def Device.antennaConfig (s : Device) : AntennaConfig where
  antennaNumber := s.cteInfo.antennaNumber
  antennaPatternLen := s.cteInfo.antennaPatternLen
  antennaPattern := s.patterns.slice s.cteInfo.antennaPattern s.cteInfo.antennaPatternLen.toNat

/-! ### What the command writes -/

namespace UartTwowire

@[simp] theorem length_sweep (n : ℕ) : (sweep n).length = n := by
  rw [sweep, List.length_map, List.length_range']

theorem getElem?_sweep {n i : ℕ} (hi : i < n) : (sweep n)[i]? = some (UInt8.ofNat (i + 1)) := by
  rw [sweep, List.getElem?_map, List.getElem?_range' hi, Nat.one_mul, Nat.add_comm]
  rfl

/-- The parameter asks for a number of antennas that can be counted. -/
def CountInRange (parameter : UInt8) : Prop :=
  0x01 ≤ (antCount parameter).toNat ∧ (antCount parameter).toNat ≤ 0x4B

/-- The length of the pattern that a parameter asks for. -/
theorem length_requestedPattern (parameter : UInt8) :
    (requestedPattern parameter).length =
      if parameter &&& 0x80 = 0 then (antCount parameter).toNat
      else (antCount parameter).toNat + ((antCount parameter).toNat - 1) := by
  rw [requestedPattern, ← antCount, apply_ite List.length, List.length_append, List.length_reverse]
  simp only [length_sweep]

/-- The first antennas of a pattern are counted up. -/
theorem requestedPattern_up {parameter : UInt8} {i : ℕ} (hi : i < (antCount parameter).toNat)
    (v : UInt8) : (requestedPattern parameter).getD i v = UInt8.ofNat (i + 1) := by
  rw [requestedPattern, ← antCount, List.getD_eq_getElem?_getD]
  split
  · rw [getElem?_sweep hi, Option.getD_some]
  · rw [List.getElem?_append_left (by simpa [sweep] using hi), getElem?_sweep hi, Option.getD_some]

/-- And behind them, with bit 7 set, counted down. -/
theorem requestedPattern_down {parameter : UInt8} (hback : parameter &&& 0x80 ≠ 0) {i : ℕ}
    (hi : (antCount parameter).toNat ≤ i) (hlen : i < (requestedPattern parameter).length)
    (v : UInt8) :
    (requestedPattern parameter).getD i v =
      UInt8.ofNat (2 * (antCount parameter).toNat - 1 - i) := by
  rw [length_requestedPattern, if_neg hback] at hlen
  rw [requestedPattern, ← antCount, if_neg hback, List.getD_eq_getElem?_getD,
    List.getElem?_append_right (by simpa [sweep] using hi), length_sweep,
    List.getElem?_reverse (by rw [length_sweep]; omega), length_sweep,
    getElem?_sweep (by omega), Option.getD_some]
  exact congrArg UInt8.ofNat (by omega)

/-- **The ways of the command**: without a count nothing is written, and otherwise the pattern is
written whether the library takes it or not. -/
inductive AntennaSet (b : Build) (parameter : UInt8) (s : Device) : Ret → Device → Prop
  | noCount (hcount : ¬ CountInRange parameter) : AntennaSet b parameter s (.err .einval) s
  | refused {uart : Buffer 150 UInt8} (hcount : CountInRange parameter)
      (hcopy : s.patterns.uart.memcpy 0 (requestedPattern parameter)
        (requestedPattern parameter).length = some uart)
      (hrefused : b.directionFinding = true → b.antNum.toNat < (antCount parameter).toNat) :
      AntennaSet b parameter s (.err .enotsup)
        { s with patterns := { s.patterns with uart := uart } }
  | accepted {uart : Buffer 150 UInt8} {patternLen : UInt8} (hcount : CountInRange parameter)
      (hcopy : s.patterns.uart.memcpy 0 (requestedPattern parameter)
        (requestedPattern parameter).length = some uart)
      (hdf : b.directionFinding = true) (hle : (antCount parameter).toNat ≤ b.antNum.toNat)
      (hlen : patternLen.toNat = (requestedPattern parameter).length) :
      AntennaSet b parameter s .ok { s with
        patterns := { s.patterns with uart := uart }
        cteInfo := { s.cteInfo with
          antennaNumber := antCount parameter
          antennaPattern := .uart
          antennaPatternLen := patternLen } }

/-- Every run of the command is one of the three. -/
theorem antennaSet_cases {parameter : UInt8} {h : Host} {x : Ret × Host}
    (hrun : (antennaSet parameter).run (hostHandler b q) h = .ok x) :
    AntennaSet b parameter h.device x.1 x.2.device := by
  simp only [antennaSet, antennaPattern_eq] at hrun
  split at hrun
  · rename_i hcount
    cases hrun
    exact .noCount fun h ↦ by rw [CountInRange] at h; omega
  · rename_i hcount
    have hcount : CountInRange parameter := by
      rw [CountInRange]
      omega
    have hlen := toNat_antennaPatternLen ((parameter &&& 0x80) >>> 7) hcount.1 hcount.2
    have hzero := antennaPatternLen_ne ((parameter &&& 0x80) >>> 7) hcount.1 hcount.2
    rw [antennaPattern_eq] at hlen
    generalize (if (parameter &&& 0x80) >>> 7 = 0 then antCount parameter
      else antCount parameter * 2 - 1) = patternLen at hlen hzero hrun
    obtain ⟨patterns, hpatterns, hrun⟩ := Hci.storePattern_bind_ok hrun
    obtain ⟨uart, huart, hret⟩ := bind_eq_ok.1 hpatterns
    cases hret
    -- the pattern is in place before the library is asked
    have hcopy := inBounds_eq_ok.1 huart
    cases hrun
    show AntennaSet b parameter h.device (dtmSetupSetAntennaParams b _ _ _ _).1
      (dtmSetupSetAntennaParams b _ _ _ _).2
    rw [dtmSetupSetAntennaParams]
    split_ifs with hdf hnum hnull
    · exact .refused hcount hcopy fun h ↦ by simp [h] at hdf
    · exact .refused hcount hcopy fun _ ↦ hnum
    · cases hnull
    · rw [Bool.not_eq_true', Bool.not_eq_false] at hdf
      exact .accepted hcount hcopy hdf (Nat.not_lt.1 hnum) hlen

end UartTwowire

/-! ### What survives -/

/-- A pattern of the UART transport is in place. The board has taken its count, and its first
antennas, in the buffer of the transport, are counted up. -/
structure Device.UartPattern (b : Build) (s : Device) : Prop where
  directionFinding : b.directionFinding = true
  antennaNumber : s.cteInfo.antennaNumber.toNat ≤ 75 ∧
    s.cteInfo.antennaNumber.toNat ≤ b.antNum.toNat
  antennaPatternLen : s.cteInfo.antennaPatternLen.toNat < 2 * s.cteInfo.antennaNumber.toNat
  up : ∀ i : Fin 150, (i : ℕ) < s.cteInfo.antennaNumber.toNat →
    s.patterns.uart i = UInt8.ofNat (i + 1)

/-- The invariant: a pattern that the pointer points to is one that was taken. -/
def Device.AntennaInv (b : Build) (s : Device) : Prop :=
  s.cteInfo.antennaPattern = .uart → s.UartPattern b

/-- A step that leaves count, pointer, length and buffers alone. -/
theorem Device.AntennaInv.keeps {s s' : Device} (hs : s.AntennaInv b) (h : KeepsPattern s s') :
    s'.AntennaInv b := by
  intro hptr
  obtain ⟨hdf, hnum, hlen, hup⟩ := hs (h.antennaPattern ▸ hptr)
  refine ⟨hdf, ?_, ?_, ?_⟩
  · rwa [h.antennaNumber]
  · rwa [h.antennaNumber, h.antennaPatternLen]
  · rwa [h.antennaNumber, h.patterns]

/-- The initialisation sets no pointer. -/
theorem Initialised.antennaInv {s : Device} (h : Initialised b s) : s.AntennaInv b := by
  obtain ⟨env, callback, h⟩ := h
  obtain ⟨radio, rfl⟩ := dtmInit_ok h
  exact fun hptr ↦ by cases hptr

/-- The operation leaves the buffer of the UART transport alone, and the pointer to it. -/
def TransportOp.SparesUart : TransportOp → Prop
  | .dtm (.init _ _) => False
  | .dtm (.setupSetAntennaParams _ pattern _) | .patternStore pattern _ => pattern ≠ .uart
  | _ => True

/-- **An operation that spares the buffer** keeps the invariant. -/
theorem hostHandler_antennaInv (op : TransportOp) (h : Host) (x : transport.Res op × Host)
    (hop : op.SparesUart) (hh : h.device.AntennaInv b) (hx : hostHandler b q op h = .ok x) :
    x.2.device.AntennaInv b := by
  by_cases hkeeps : (HostInput.op op).keepsPattern = true
  · exact hh.keeps (Host.step_keepsPattern (q := q) hkeeps (bind_eq_ok.2 ⟨x, hx, rfl⟩))
  · cases op with
    | dtm c =>
      obtain ⟨y, hy, hx⟩ := bind_eq_ok.1 hx
      cases hx
      cases c with
      | setupReset =>
        have hcte := dtmSetupReset_cteInfo hy
        intro hptr
        rw [show _ = _ from hcte] at hptr
        -- with direction finding the pointer is gone, and without it there never was one
        cases hdf : b.directionFinding with
        | true =>
          rw [hdf] at hptr
          cases hptr
        | false =>
          rw [hdf] at hptr
          cases hdf.symm.trans (hh hptr).directionFinding
      | setupSetAntennaParams count pattern patternLen =>
        cases hy
        intro hptr
        change (dtmSetupSetAntennaParams b count pattern patternLen
          h.device).2.cteInfo.antennaPattern = .uart at hptr
        show (dtmSetupSetAntennaParams b count pattern patternLen h.device).2.UartPattern b
        rw [dtmSetupSetAntennaParams] at hptr ⊢
        split_ifs at hptr ⊢
        all_goals first | exact hh hptr | exact absurd hptr hop
      | init => exact hop.elim
      | setupPrepare | setupSetPhy | setupSetModulation | setupReadFeatures
      | setupReadMaxSupportedValue | setupSetCteMode | setupSetCteSlot | setupSetTransmitPower
      | testReceive | testTransmit | testEnd => exact absurd rfl hkeeps
    | patternStore pattern src =>
      obtain ⟨patterns, hpatterns, hx⟩ := bind_eq_ok.1 hx
      cases hx
      cases pattern with
      | null => cases hpatterns
      | uart => exact absurd rfl hop
      | hci =>
        obtain ⟨hci, -, hpatterns⟩ := bind_eq_ok.1 hpatterns
        cases hpatterns
        exact fun hptr ↦ ⟨(hh hptr).1, (hh hptr).2, (hh hptr).3, (hh hptr).4⟩
    | uartWrite => exact absurd rfl hkeeps

namespace UartTwowire

/-- The cells that a stored pattern counts up. -/
theorem stored_up {parameter : UInt8} {buf uart : Buffer 150 UInt8}
    (hcopy : buf.memcpy 0 (requestedPattern parameter) (requestedPattern parameter).length =
      some uart) {i : Fin 150} (hi : (i : ℕ) < (antCount parameter).toNat) :
    uart i = UInt8.ofNat (i + 1) := by
  have hlen : (antCount parameter).toNat ≤ (requestedPattern parameter).length := by
    rw [length_requestedPattern]
    split
    · exact le_rfl
    · exact Nat.le_add_right _ _
  rw [Buffer.memcpy_within hcopy (Nat.zero_le _) (by omega), Nat.sub_zero, requestedPattern_up hi]

/-- **The antennas of the pattern in place survive the command**: a count that is refused is larger,
and one that is taken takes its place. -/
theorem antennaSet_antennaInv {parameter : UInt8} {s s' : Device} {r : Ret}
    (h : AntennaSet b parameter s r s') (hs : s.AntennaInv b) : s'.AntennaInv b := by
  cases h with
  | noCount => exact hs
  | refused hcount hcopy hrefused =>
    intro hptr
    obtain ⟨hdf, hnum, hlen, -⟩ := hs hptr
    refine ⟨hdf, hnum, hlen, fun i hi ↦ stored_up hcopy ?_⟩
    have hlarger := hrefused hdf
    change (i : ℕ) < s.cteInfo.antennaNumber.toNat at hi
    omega
  | accepted hcount hcopy hdf hle hlen =>
    refine fun _ ↦ ⟨hdf, ⟨hcount.2, hle⟩, ?_, fun i hi ↦ stored_up hcopy hi⟩
    show _ < 2 * (antCount parameter).toNat
    have hmin := hcount.1
    rw [hlen, length_requestedPattern]
    split
    · omega
    · omega

/-- Apart from the antenna command, the switch over the controls spares the buffer. -/
theorem switchEffect_spares {control : UInt8}
    (hcontrol : DtmCtrlCode.ofCode control ≠ some .antennaArray) (parameter upperLen : UInt8) :
    ∀ op ∈ (switchEffect control parameter upperLen).ops, op.SparesUart := by
  rw [switchEffect, featuresReadOps, readMaxOps, phySetOps, modSetOps, cteSetOps, txPowerSetOps]
  split <;> (repeat' split) <;>
    first
    | exact absurd ‹_› hcontrol
    | exact List.forall_mem_nil _
    | exact List.forall_mem_singleton.2 trivial

/-- **A word on the UART decoder.** -/
theorem dtmCmdPut_antennaInv {cmd : UInt16} {upperLen : UInt8} {h : Host}
    {x : (UInt16 × UInt8) × Host} (hh : h.device.AntennaInv b)
    (hx : (dtmCmdPut cmd upperLen).run (hostHandler b q) h = .ok x) : x.2.device.AntennaInv b := by
  have hissues {α : Type} {p : Prog transport α} (hp : p.Issues TransportOp.SparesUart) {h : Host}
      {x : α × Host} (hh : h.device.AntennaInv b) (hx : p.run (hostHandler b q) h = .ok x) :
      x.2.device.AntennaInv b :=
    hp.run_invariant (J := fun h : Host ↦ h.device.AntennaInv b)
      (fun op h x ↦ hostHandler_antennaInv op h x) hh hx
  by_cases hantenna : cmdCode cmd = 0 ∧ DtmCtrlCode.ofCode (cmdControl cmd) = some .antennaArray
  · rw [dtmCmdPut, Decoder.dtmCmdPut_testSetup _ _ hantenna.1, Decoder.onTestSetupCmd] at hx
    change ((Transport.setupPrepare >>= fun _ ↦ setupSwitch _ _ _) >>= _ : Prog transport _).run _
      _ = _ at hx
    simp only [Prog.run_bind] at hx
    obtain ⟨y, hy, hx⟩ := bind_eq_ok.1 hx
    cases hx
    obtain ⟨z, hz, hy⟩ := bind_eq_ok.1 hy
    have hprepared := hissues (p := Transport.setupPrepare) ⟨trivial, fun _ ↦ trivial⟩ hh hz
    rw [setupSwitch, hantenna.2] at hy
    change (antennaSet _ >>= _ : Prog transport _).run _ _ = _ at hy
    rw [Prog.run_bind] at hy
    obtain ⟨t, ht, hy⟩ := bind_eq_ok.1 hy
    cases hy
    exact antennaSet_antennaInv (antennaSet_cases ht) hprepared
  · refine hissues (Decoder.dtmCmdPut_issues _ (fun hcode ↦ ?_) trivial (fun _ _ _ ↦ trivial)
      trivial) hh hx
    refine (setupCmd_straight _ _ _).issues (List.forall_mem_cons.2 ⟨trivial, ?_⟩)
    exact switchEffect_spares (fun hcontrol ↦ hantenna ⟨hcode, hcontrol⟩) _ _

end UartTwowire

/-- The shared core has no antenna command. -/
theorem CmdCore.setupEffect_spares (control parameter upperLen : UInt8) :
    ∀ op ∈ (setupEffect control parameter upperLen).ops, op.SparesUart := by
  rw [setupEffect, featuresReadOps, readMaxOps]
  split <;> (repeat' split) <;>
    first | exact List.forall_mem_nil _ | exact List.forall_mem_singleton.2 trivial

/-- The HCI transport has a buffer of its own. -/
theorem Hci.PacketOp.sparesUart {C : UInt8 → Prop} {op : TransportOp} (h : PacketOp C op) :
    op.SparesUart := by
  cases op with
  | dtm c =>
    cases c with
    | init => exact h
    | setupSetAntennaParams =>
      cases h
      exact nofun
    | _ => trivial
  | patternStore =>
    cases h
    exact nofun
  | uartWrite => trivial

/-- **Every input keeps the invariant**: the antenna words of the UART decoder and all the
others. -/
theorem Firmware.step_antennaInv {f f' : Firmware} {i : FirmwareInput}
    (hf : f.device.AntennaInv b) (hstep : f.step b q i = .ok f') : f'.device.AntennaInv b := by
  -- only an antenna word of the UART decoder writes the pattern, so the other programs spare it
  have hissues {α : Type} {p : Prog transport α} (hp : p.Issues TransportOp.SparesUart)
      {x : α × Host} (hx : p.run (hostHandler b q) f.host = .ok x) : x.2.device.AntennaInv b :=
    hp.run_invariant (J := fun h : Host ↦ h.device.AntennaInv b)
      (fun op h x ↦ hostHandler_antennaInv op h x) hf hx
  cases i with
  | word cmd =>
    rw [f.step_word] at hstep
    obtain ⟨x, hx, rfl⟩ := bind_map_eq_ok.1 hstep
    refine hissues (Decoder.dtmCmdPut_issues _ (fun _ ↦ ?_) trivial (fun _ _ _ ↦ trivial)
      trivial) hx
    exact (CmdCore.setupCmd_straight _ _ _).issues (CmdCore.setupEffect_spares _ _ _)
  | uartWord cmd =>
    rw [f.step_uartWord] at hstep
    obtain ⟨x, hx, rfl⟩ := bind_map_eq_ok.1 hstep
    exact UartTwowire.dtmCmdPut_antennaInv hf hx
  | hci type buf =>
    rw [f.step_hci] at hstep
    obtain ⟨x, hx, rfl⟩ := bind_map_eq_ok.1 hstep
    exact hissues ((Hci.dtmTrProcess_issues (C := fun _ ↦ True) fun _ _ ↦ trivial).mono
      fun _ h ↦ h.sparesUart) hx
  | radio ev =>
    obtain ⟨s, hs, rfl⟩ := bind_map_eq_ok.1 hstep
    exact hf.keeps (radioIrq_keepsSetup hs).keepsPattern
  | anomaly ev =>
    obtain ⟨s, hs, rfl⟩ := bind_map_eq_ok.1 hstep
    exact hf.keeps (Device.step_anomaly_keepsSetup hs).keepsPattern
  | txDone =>
    cases hstep
    exact hf

/-- **The invariant holds of every reachable firmware.** -/
theorem Firmware.Reachable.antennaInv {f : Firmware} (hf : f.Reachable b q) :
    f.device.AntennaInv b :=
  Fallible.Reachable.invariant (I := fun f : Firmware ↦ f.device.AntennaInv b)
    (fun _ hf ↦ hf.1.antennaInv) (fun _ _ _ hf hstep ↦ Firmware.step_antennaInv hf hstep) hf

/-! ### What does not -/

/-- A command spares the pattern in place. It has no count, or the pattern is not in the buffer of
the UART transport, or behind the antennas the pattern is already what the command writes there:
counted up as far as its count goes, and with bit 7 set counted down from there. -/
def Device.SparedBy (parameter : UInt8) (s : Device) : Prop :=
  let count := (UartTwowire.antCount parameter).toNat
  count < 0x01 ∨ 0x4B < count ∨ s.cteInfo.antennaPattern ≠ .uart ∨
    ∀ i : Fin 150, s.cteInfo.antennaNumber.toNat ≤ i →
      (i : ℕ) < s.cteInfo.antennaPatternLen.toNat →
      ((i : ℕ) < count → s.patterns.uart i = UInt8.ofNat (i + 1)) ∧
      (parameter &&& 0x80 ≠ 0 → count ≤ i → s.patterns.uart i = UInt8.ofNat (2 * count - 1 - i))

/-- The configuration of a pattern that lies elsewhere does not depend on the buffer. -/
theorem antennaConfig_of_ne_uart {s : Device} (hptr : s.cteInfo.antennaPattern ≠ .uart)
    (uart : Buffer 150 UInt8) :
    Device.antennaConfig { s with patterns := { s.patterns with uart := uart } } =
      s.antennaConfig := by
  rw [Device.antennaConfig, Device.antennaConfig]
  cases hp : s.cteInfo.antennaPattern with
  | uart => exact absurd hp hptr
  | null | hci => rfl

/-- That of a pattern in the buffer is the same if its cells are. -/
theorem antennaConfig_eq_iff {s : Device} (hptr : s.cteInfo.antennaPattern = .uart)
    (hlen : s.cteInfo.antennaPatternLen.toNat ≤ 150) (uart : Buffer 150 UInt8) :
    Device.antennaConfig { s with patterns := { s.patterns with uart := uart } } =
        s.antennaConfig ↔
      ∀ i : Fin 150, (i : ℕ) < s.cteInfo.antennaPatternLen.toNat →
        uart i = s.patterns.uart i := by
  rw [Device.antennaConfig, Device.antennaConfig, AntennaConfig.mk.injEq, hptr]
  refine (and_iff_right rfl).trans ((and_iff_right rfl).trans ?_)
  refine (Buffer.slice_eq_slice_iff (by rw [Nat.zero_add]; exact hlen)).trans ?_
  simp only [Nat.zero_le, Nat.zero_add, forall_const]

/-- **A refused command**: the configuration is the same exactly when the command spares it. -/
theorem UartTwowire.AntennaSet.config_iff {parameter : UInt8} {s s' : Device} {e : Errno}
    (h : AntennaSet b parameter s (.err e) s') (hs : s.AntennaInv b) :
    s'.antennaConfig = s.antennaConfig ↔ s.SparedBy parameter := by
  cases h with
  | noCount hcount =>
    refine iff_of_true rfl ?_
    rw [CountInRange] at hcount
    rw [Device.SparedBy]
    omega
  | @refused uart hcount hcopy hrefused =>
    by_cases hptr : s.cteInfo.antennaPattern = .uart
    · obtain ⟨hdf, ⟨hmax, hnum⟩, hlen, hup⟩ := hs hptr
      have hlarger := hrefused hdf
      have hrequested := length_requestedPattern parameter
      rw [antennaConfig_eq_iff hptr (by omega)]
      constructor
      · intro hcells
        refine .inr (.inr (.inr fun i hi hlt ↦ ⟨fun hcount ↦ ?_, fun hback hcount ↦ ?_⟩))
        · rw [← hcells i hlt, stored_up hcopy hcount]
        · rw [if_neg hback] at hrequested
          rw [← hcells i hlt, Buffer.memcpy_within hcopy (Nat.zero_le _) (by omega), Nat.sub_zero,
            requestedPattern_down hback hcount (by omega)]
      · rintro (hspared | hspared | hspared | hspared) i hlt
        · exact absurd hcount.1 (Nat.not_le.2 hspared)
        · exact absurd hcount.2 (Nat.not_le.2 hspared)
        · exact absurd hptr hspared
        -- the antennas are counted up before and after, and behind them the command spares it
        · rcases Nat.lt_or_ge i s.cteInfo.antennaNumber.toNat with hi | hi
          · rw [hup i hi, stored_up hcopy (by omega)]
          · obtain ⟨hcountUp, hcountDown⟩ := hspared i hi hlt
            rcases Nat.lt_or_ge i (antCount parameter).toNat with hcount | hcount
            · rw [hcountUp hcount, stored_up hcopy hcount]
            · by_cases hback : parameter &&& 0x80 = 0
              · rw [if_pos hback] at hrequested
                exact Buffer.memcpy_above hcopy (by omega)
              · rw [if_neg hback] at hrequested
                rw [Buffer.memcpy_within hcopy (Nat.zero_le _) (by omega), Nat.sub_zero,
                  requestedPattern_down hback hcount (by omega), hcountDown hback hcount]
    · exact iff_of_true (antennaConfig_of_ne_uart hptr uart) (.inr (.inr (.inl hptr)))

/-- **An antenna command that is refused leaves the configuration alone exactly when it spares the
pattern in place.** -/
theorem antennaSet_refused_iff {f : Firmware} (hf : f.Reachable b q) {parameter : UInt8}
    {e : Errno} {h' : Host}
    (hrun : (UartTwowire.antennaSet parameter).run (hostHandler b q) f.host = .ok (.err e, h')) :
    h'.device.antennaConfig = f.device.antennaConfig ↔ f.device.SparedBy parameter :=
  (UartTwowire.antennaSet_cases hrun).config_iff hf.antennaInv

/-- A sweep over two antennas survives the command for thirteen. -/
theorem antennaSet_refused_iff_sweep :
    ∃ (f : Firmware) (h' : Host), f.Reachable (.nrf5340 true false) 0 ∧
      (UartTwowire.antennaSet 0x0D).run (hostHandler (.nrf5340 true false) 0) f.host =
        .ok (.err .enotsup, h') ∧
      f.device.antennaConfig = ⟨2, 2, some [1, 2]⟩ ∧
      h'.device.antennaConfig = f.device.antennaConfig := by
  have hf : Firmware.Reachable (.nrf5340 true false) 0 _ := .next (i := .uartWord 0x0802)
    (Firmware.ofDevice_reachable (Device.nrf5340_initialised true false)) rfl
  have hiff := @antennaSet_refused_iff _ _ _ hf 0x0D .enotsup _ rfl
  exact ⟨_, _, hf, rfl, rfl,
    hiff.2 (.inr (.inr (.inr fun _ hi hlt ↦ absurd hlt (Nat.not_lt.2 hi))))⟩

/-- After two antennas there and back, the same command leaves a pattern with a third. -/
theorem antennaSet_thirteen :
    ∃ (f : Firmware) (h' : Host), f.Reachable (.nrf5340 true false) 0 ∧
      (UartTwowire.antennaSet 0x0D).run (hostHandler (.nrf5340 true false) 0) f.host =
        .ok (.err .enotsup, h') ∧
      f.device.antennaConfig = ⟨2, 3, some [1, 2, 1]⟩ ∧
      h'.device.antennaConfig = ⟨2, 3, some [1, 2, 3]⟩ :=
  ⟨_, _, .next (i := .uartWord 0x0882)
    (Firmware.ofDevice_reachable (Device.nrf5340_initialised true false)) rfl, rfl, rfl, rfl⟩

/-! ### The two kinds of pattern -/

/-- A pattern in one direction is spared by every command. -/
theorem Device.sparedBy_sweep {s : Device}
    (hlen : s.cteInfo.antennaPatternLen.toNat ≤ s.cteInfo.antennaNumber.toNat)
    (parameter : UInt8) : s.SparedBy parameter :=
  .inr (.inr (.inr fun _ hi hlt ↦ absurd (hi.trans_lt hlt) (Nat.not_lt.2 hlen)))

/-- **One there and back is lost with the first refusal**: where it turns, every larger count is
still on its way up. -/
theorem not_sparedBy_back {p parameter : UInt8} {s s' s'' : Device} {e : Errno}
    (hset : UartTwowire.AntennaSet b p s .ok s') (hback : p &&& 0x80 ≠ 0)
    (htwo : 2 ≤ (UartTwowire.antCount p).toNat)
    (hrefused : UartTwowire.AntennaSet b parameter s' (.err e) s'')
    (hcount : UartTwowire.CountInRange parameter) : ¬ s'.SparedBy parameter := by
  cases hset with
  | @accepted uart patternLen hcountP hcopy hdf hle hlen =>
    cases hrefused with
    | noCount hnone => exact absurd hcount hnone
    | refused _ _ hlarger =>
      have hmax := hcountP.2
      have hlarger := hle.trans_lt (hlarger hdf)
      have hrequested := UartTwowire.length_requestedPattern p
      rw [if_neg hback] at hrequested
      rintro (hspared | hspared | hspared | hspared)
      · exact absurd hcount.1 (Nat.not_le.2 hspared)
      · exact absurd hcount.2 (Nat.not_le.2 hspared)
      · exact hspared rfl
      · let i : Fin 150 := ⟨(UartTwowire.antCount p).toNat, by omega⟩
        -- at the turn the refused count has left the next number up, and the pattern goes down
        have hup : uart i = UInt8.ofNat ((UartTwowire.antCount p).toNat + 1) :=
          (hspared i le_rfl (show (UartTwowire.antCount p).toNat < patternLen.toNat by omega)).1
            hlarger
        have hdown := Buffer.memcpy_within hcopy (i := i) (Nat.zero_le _)
          (show (UartTwowire.antCount p).toNat < _ by omega)
        rw [Nat.sub_zero, UartTwowire.requestedPattern_down hback le_rfl
          (show (UartTwowire.antCount p).toNat < _ by omega), hup] at hdown
        have hdown := congrArg UInt8.toNat hdown
        simp only [UInt8.toNat_ofNat'] at hdown
        change ((UartTwowire.antCount p).toNat + 1) % 2 ^ 8 =
          (2 * (UartTwowire.antCount p).toNat - 1 - (UartTwowire.antCount p).toNat) % 2 ^ 8 at hdown
        omega

end DirectTestMode
