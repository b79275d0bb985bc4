import DirectTestMode.Properties.Framing
import DirectTestMode.Transport.HciReads
import DirectTestMode.Transport.HciRun

/-!
# What the handlers read of a packet

The handlers of the commands do not know how long the packet is. `mem_reads_dtmTrProcess` says which
octets they read: the fixed parameters of the opcode, the power octet of a version 4, and the
antenna ids when `cte_set` gets as far as copying them. So the reads stay inside the packet exactly
when the sender has put all of these there (`packet_reads_iff`), and then the outcome is that of the
packet.

## Reads of a program

`Transport.HciReads` writes the handlers once more, over an interface with a `read` operation, and
shows that they are the handlers of `Transport.Hci` when the reads are answered from memory
(`erase`). For such a program `reads` is the list of the addresses that a run asks for. It depends
on the memory, since what is read decides what is read next, and on the device, since a call that is
refused ends the chain.

* `mem_reads_attempt` is the rule of a link: the rest of the chain is read for when the link passes,
  and not otherwise. Whether a link passes is known from `Transport.HciStatus`.
* `ParamsPresent` is the condition that comes out at the end, on the parameters and the device. Of
  its three clauses only the last depends on the device, because the antenna ids are the only
  parameters that are read late.
* The header is always there, in a packet that the parser has put together.

## Why both clauses

`ReadsReceived` asks for two things, that nothing behind the packet is read and that nothing behind
it makes a difference. The second follows from the first for any program (`process_congr`), and is
what the first is for; the converse is not claimed, since an octet may be read and have no effect.
-/

namespace DirectTestMode

open Fallible Hci
open HciUart (NetBuf H4Packet)

variable {b : Build} {q : ℕ}

/-! ### What a command is read for -/

namespace Hci

/-- `cte_set` gets as far as the copy of the antenna ids. -/
def CteCopied (b : Build) (cteLen cteType patternLen : UInt8) : Prop :=
  cteLen ≠ 0 ∧ patternLen.toNat ≤ 0x4B ∧ cteModeAccepted b cteLen cteType

/-- A Receiver Test gets as far as the copy of the antenna ids. -/
structure RxParams.CopiesIds (b : Build) (s : Device) (p : RxParams) : Prop where
  phy : PhySettable b s p.phy
  mod : p.mod = 0
  allowed : cteDisallowed p.cteLen p.phy = false
  copied : CteCopied b p.cteLen p.cteType p.patternLen

/-- A Transmitter Test gets as far as the copy of the antenna ids. -/
structure TxParams.CopiesIds (b : Build) (s : Device) (p : TxParams) : Prop where
  payload : ∃ pld, hciToDtmPayload p.payload = .ok pld
  phy : PhySettable b s p.phy
  allowed : cteDisallowed p.cteLen p.phy = false
  copied : CteCopied b p.cteLen p.cteType p.patternLen

/-- A command gets as far as the copy of the antenna ids. -/
def CopiesIds (b : Build) (s : Device) (data : ℕ → UInt8) (op : HciOp) : Prop :=
  (∃ p, rxParams op data = some p ∧ p.CopiesIds b s) ∨
    ∃ p, txParams op data = some p ∧ p.CopiesIds b s

/-- The number of parameters before the antenna ids. -/
def HciOp.fixedParams : HciOp → ℕ
  | leRxTest => 1 | leEnhRxTest => 3 | leRxTestV3 => 7
  | leTxTest => 3 | leEnhTxTest => 4 | leTxTestV3 => 7 | leTxTestV4 => 7
  | reset => 0 | readBdAddr => 0 | leReadLocalFeatures => 0 | leTestEnd => 0

/-- The parameters that a command is read for are among the first `len`. -/
structure ParamsPresent (b : Build) (s : Device) (data : ℕ → UInt8) (len : ℕ) (op : HciOp) :
    Prop where
  fixed : op.fixedParams ≤ len
  /-- The power octet is behind the antenna ids, whether they are copied or not. -/
  power : op = .leTxTestV4 → 7 + (data 6).toNat < len
  ids : (Reading.patternAt op).isSome → CopiesIds b s data op → 7 + (data 6).toNat ≤ len

end Hci

namespace Hci.Reading

variable {mem : ℕ → UInt8} {k : ℕ}

/-! ### The links -/

/-- The rest of a chain is read for only when its link passes. -/
theorem mem_reads_attempt {p : PacketProg Ret} {status : Ret → Option UInt8}
    (hstatus : Refusing status) {next : PacketProg UInt8} {s : Host} :
    k ∈ (attempt p status next).reads mem (hostHandler b q) s ↔
      k ∈ p.reads mem (hostHandler b q) s ∨
        ∃ t, (p.erase mem).run (hostHandler b q) s = .ok (.ok, t) ∧
          k ∈ next.reads mem (hostHandler b q) t := by
  rw [attempt, Prog.reads_bind, List.mem_append]
  refine or_congr_right ?_
  rcases hrun : (p.erase mem).run (hostHandler b q) s with e | ⟨r, t⟩
  · simp
  · cases r with
    | ok =>
      simp only [hstatus.1]
      constructor
      · exact fun hk ↦ ⟨t, rfl, hk⟩
      · rintro ⟨t', ht', hk⟩
        cases ht'
        exact hk
    | err e =>
      obtain ⟨code, hcode, -⟩ := hstatus.2 e
      simp [hcode]

/-- The cells that are copied. -/
def patternCells (pattern : Option ℕ) (len : ℕ) : List ℕ :=
  match pattern with
  | none => []
  | some offset => (List.range len).map fun i ↦ 3 + offset + i

theorem reads_patternCopy (pattern : Option ℕ) (len : ℕ) (s : Host) :
    (patternCopy pattern len).reads mem (hostHandler b q) s = patternCells pattern len := by
  cases pattern with
  | none => rfl
  | some offset => exact Prog.reads_readBlock _ _ _

/-- `cte_set` reads nothing but the antenna ids. -/
theorem mem_reads_cteSet {cteLen cteType patternLen : UInt8} {pattern : Option ℕ} {s : Host} :
    k ∈ (cteSet cteLen cteType patternLen pattern).reads mem (hostHandler b q) s ↔
      CteCopied b cteLen cteType patternLen ∧ k ∈ patternCells pattern patternLen.toNat := by
  rw [cteSet, CteCopied]
  split_ifs with hnone hlong
  · simp [hnone]
  · simp [Nat.not_le.2 hlong]
  · rw [Prog.reads_bind, Prog.reads_lift, Prog.erase_lift, List.nil_append,
      ← cteModeSet_iff (q := q)
      (h := s)]
    rcases hrun : (cteModeSet cteLen cteType).run (hostHandler b q) s with e | ⟨r, t⟩
    · simp
    · cases r with
      | ok =>
        simp only [ne_eq, not_true_eq_false, if_false, Prog.reads_bind, reads_patternCopy,
          Prog.reads_lift, erase_patternCopy, Prog.run_pure, List.append_nil]
        simp [hnone, Nat.not_lt.1 hlong]
      | err e => simp

/-- The part that the two test commands have in common reads nothing else, in any state. -/
theorem mem_reads_cte {cteLen cteType phy patternLen : UInt8} {pattern : Option ℕ}
    {rest : Prog transport UInt8} {s : Host} :
    k ∈ (if cteDisallowed cteLen phy then pure errCmdDisallowed else
        attempt (cteSet cteLen cteType patternLen pattern) settingStatus rest.lift :
          PacketProg UInt8).reads mem (hostHandler b q) s ↔
      cteDisallowed cteLen phy = false ∧ CteCopied b cteLen cteType patternLen ∧
        k ∈ patternCells pattern patternLen.toNat := by
  split_ifs with hallowed
  · simp [hallowed]
  · rw [mem_reads_attempt refusing_settingStatus, mem_reads_cteSet]
    simp [hallowed]

/-- **A Receiver Test reads the antenna ids when it copies them**, and nothing else. -/
theorem mem_reads_rxTestStatus {p : RxParams} {pattern : Option ℕ} {s : Host} :
    k ∈ (rxTestStatus p pattern).reads mem (hostHandler b q) s ↔
      p.CopiesIds b s.device ∧ k ∈ patternCells pattern p.patternLen.toNat := by
  have hprepare : (rxTestStatus p pattern).reads mem (hostHandler b q) s =
      (attempt (phySet p.phy).lift unsupportedOn _).reads mem (hostHandler b q)
        { s with device := dtmSetupPrepare b s.device } := rfl
  rw [hprepare, mem_reads_attempt refusing_unsupportedOn]
  simp only [mem_reads_attempt refusing_settingStatus, mem_reads_cte, Prog.reads_lift,
    Prog.erase_lift, List.not_mem_nil, false_or, exists_and_right, modSet_iff, phySet_iff]
  constructor
  · rintro ⟨hphy, hmod, hallowed, hcopied, hk⟩
    exact ⟨⟨hphy, hmod, hallowed, hcopied⟩, hk⟩
  · rintro ⟨⟨hphy, hmod, hallowed, hcopied⟩, hk⟩
    exact ⟨hphy, hmod, hallowed, hcopied, hk⟩

/-- A Transmitter Test does the same, before its power and its packet are looked at. -/
theorem mem_reads_txTestStatus {p : TxParams} {pattern : Option ℕ} {s : Host} :
    k ∈ (txTestStatus p pattern).reads mem (hostHandler b q) s ↔
      p.CopiesIds b s.device ∧ k ∈ patternCells pattern p.patternLen.toNat := by
  rcases hpayload : hciToDtmPayload p.payload with e | pld
  · have hnone : (txTestStatus p pattern).reads mem (hostHandler b q) s = [] := by
      rw [txTestStatus, hpayload]
      rfl
    rw [hnone]
    refine iff_of_false List.not_mem_nil fun h ↦ ?_
    obtain ⟨pld, hpld⟩ := h.1.payload
    cases hpayload.symm.trans hpld
  · have hstart : (txTestStatus p pattern).reads mem (hostHandler b q) s =
        (txTestStart p pattern pld).reads mem (hostHandler b q)
          { s with device := dtmSetupPrepare b s.device } := by
      rw [txTestStatus, hpayload]
      rfl
    rw [hstart]
    simp only [txTestStart, mem_reads_attempt refusing_unsupportedOn, mem_reads_cte,
      Prog.reads_lift, Prog.erase_lift, List.not_mem_nil, false_or, exists_and_right, phySet_iff]
    constructor
    · rintro ⟨hphy, hallowed, hcopied, hk⟩
      exact ⟨⟨⟨pld, hpayload⟩, hphy, hallowed, hcopied⟩, hk⟩
    · rintro ⟨⟨-, hphy, hallowed, hcopied⟩, hk⟩
      exact ⟨hphy, hallowed, hcopied, hk⟩

/-! ### The commands -/

theorem mem_reads_hciRxTest {op : HciOp} {s : Host} :
    k ∈ (hciRxTest op).reads mem (hostHandler b q) s ↔
      k ∈ (rxParams op).reads mem (hostHandler b q) s ∨
        ∃ p, Hci.rxParams op (fun i ↦ mem (3 + i)) = some p ∧ p.CopiesIds b s.device ∧
          k ∈ patternCells (patternAt op) p.patternLen.toNat := by
  rw [hciRxTest, Prog.reads_bind, erase_rxParams, List.mem_append]
  refine or_congr_right ?_
  rcases Hci.rxParams op fun i ↦ mem (3 + i) with - | p
  · simp
  · have hpattern : ({ p with pattern := fun _ ↦ 0 } : RxParams).CopiesIds b s.device ↔
        p.CopiesIds b s.device :=
      ⟨fun h ↦ ⟨h.phy, h.mod, h.allowed, h.copied⟩, fun h ↦ ⟨h.phy, h.mod, h.allowed, h.copied⟩⟩
    simp only [Option.map_some, Prog.run_pure, Prog.reads_bind_lift, mem_reads_rxTestStatus,
      hpattern, Option.some_inj, exists_eq_left']

theorem mem_reads_hciTxTest {op : HciOp} {s : Host} :
    k ∈ (hciTxTest op).reads mem (hostHandler b q) s ↔
      k ∈ (txParams op).reads mem (hostHandler b q) s ∨
        ∃ p, Hci.txParams op (fun i ↦ mem (3 + i)) = some p ∧ p.CopiesIds b s.device ∧
          k ∈ patternCells (patternAt op) p.patternLen.toNat := by
  rw [hciTxTest, Prog.reads_bind, erase_txParams, List.mem_append]
  refine or_congr_right ?_
  rcases Hci.txParams op fun i ↦ mem (3 + i) with - | p
  · simp
  · have hpattern : ({ p with pattern := fun _ ↦ 0 } : TxParams).CopiesIds b s.device ↔
        p.CopiesIds b s.device :=
      ⟨fun h ↦ ⟨h.payload, h.phy, h.allowed, h.copied⟩,
        fun h ↦ ⟨h.payload, h.phy, h.allowed, h.copied⟩⟩
    simp only [Option.map_some, Prog.run_pure, Prog.reads_bind_lift, mem_reads_txTestStatus,
      hpattern, Option.some_inj, exists_eq_left']

/-- What a command is read for, in the packet: its fixed parameters, the power octet of a version 4,
and the antenna ids that it copies. -/
inductive Reads (b : Build) (s : Device) (mem : ℕ → UInt8) (op : HciOp) (k : ℕ) : Prop
  | fixed (h : 3 ≤ k) (h' : k < 3 + op.fixedParams)
  | power (hop : op = .leTxTestV4) (h : k = 3 + (7 + (mem 9).toNat))
  | ids (hop : (patternAt op).isSome) (hcopies : CopiesIds b s (fun i ↦ mem (3 + i)) op)
      (h : 10 ≤ k) (h' : k < 10 + (mem 9).toNat)

theorem mem_patternCells {len : ℕ} :
    k ∈ patternCells (some 7) len ↔ 10 ≤ k ∧ k < 10 + len := by
  simp only [patternCells, List.mem_map, List.mem_range]
  constructor
  · rintro ⟨i, hi, rfl⟩
    omega
  · rintro ⟨hk, hk'⟩
    exact ⟨k - 10, by omega, by omega⟩

theorem mem_range_three {n : ℕ} : k ∈ (List.range n).map (3 + ·) ↔ 3 ≤ k ∧ k < 3 + n := by
  simp only [List.mem_map, List.mem_range]
  constructor
  · rintro ⟨i, hi, rfl⟩
    omega
  · rintro ⟨hk, hk'⟩
    exact ⟨k - 3, by omega, by omega⟩

theorem reads_rxParams {op : HciOp} {p : RxParams}
    (hp : Hci.rxParams op (fun i ↦ mem (3 + i)) = some p) (s : Host) :
    (rxParams op).reads mem (hostHandler b q) s = (List.range op.fixedParams).map (3 + ·) := by
  cases op <;> first | rfl | cases hp

theorem mem_patternCells_rx {op : HciOp} {p : RxParams}
    (hp : Hci.rxParams op (fun i ↦ mem (3 + i)) = some p) :
    k ∈ patternCells (patternAt op) p.patternLen.toNat ↔
      (patternAt op).isSome ∧ 10 ≤ k ∧ k < 10 + (mem 9).toNat := by
  cases op with
  | leRxTest | leEnhRxTest => simp [patternAt, patternCells]
  | leRxTestV3 =>
    cases hp
    exact mem_patternCells.trans (and_iff_right rfl).symm
  | reset | readBdAddr | leReadLocalFeatures | leTxTest | leEnhTxTest | leTxTestV3 | leTxTestV4
  | leTestEnd => cases hp

/-- The power octet is read with the fixed parameters. -/
theorem mem_reads_txParams {op : HciOp} {p : TxParams}
    (hp : Hci.txParams op (fun i ↦ mem (3 + i)) = some p) (s : Host) :
    k ∈ (txParams op).reads mem (hostHandler b q) s ↔
      (3 ≤ k ∧ k < 3 + op.fixedParams) ∨ (op = .leTxTestV4 ∧ k = 3 + (7 + (mem 9).toNat)) := by
  have hreads : (txParams op).reads mem (hostHandler b q) s =
      (List.range op.fixedParams).map (3 + ·) ++
        if op = .leTxTestV4 then [3 + (7 + (mem 9).toNat)] else [] := by
    cases op <;> first | rfl | cases hp
  rw [hreads, List.mem_append, mem_range_three]
  by_cases hop : op = .leTxTestV4 <;> simp [hop]

theorem mem_patternCells_tx {op : HciOp} {p : TxParams}
    (hp : Hci.txParams op (fun i ↦ mem (3 + i)) = some p) :
    k ∈ patternCells (patternAt op) p.patternLen.toNat ↔
      (patternAt op).isSome ∧ 10 ≤ k ∧ k < 10 + (mem 9).toNat := by
  cases op with
  | leTxTest | leEnhTxTest => simp [patternAt, patternCells]
  | leTxTestV3 | leTxTestV4 =>
    cases hp
    exact mem_patternCells.trans (and_iff_right rfl).symm
  | reset | readBdAddr | leReadLocalFeatures | leRxTest | leEnhRxTest | leRxTestV3 | leTestEnd =>
    cases hp

/-- No command is both tests. -/
theorem txParams_of_rxParams {op : HciOp} {p : RxParams} {data : ℕ → UInt8}
    (hp : Hci.rxParams op data = some p) : Hci.txParams op data = none := by
  cases op <;> first | rfl | cases hp

theorem mem_reads_rx {op : HciOp} {p : RxParams}
    (hp : Hci.rxParams op (fun i ↦ mem (3 + i)) = some p) {s : Host} :
    k ∈ (hciRxTest op).reads mem (hostHandler b q) s ↔ Reads b s.device mem op k := by
  rw [mem_reads_hciRxTest, reads_rxParams hp, mem_range_three]
  constructor
  · rintro (⟨h, h'⟩ | ⟨p', hp', hcopies, hk⟩)
    · exact .fixed h h'
    · obtain ⟨hop, h, h'⟩ := (mem_patternCells_rx hp').1 hk
      exact .ids hop (.inl ⟨p', hp', hcopies⟩) h h'
  · rintro (⟨h, h'⟩ | ⟨hop, h⟩ | ⟨hop, hcopies, h, h'⟩)
    · exact .inl ⟨h, h'⟩
    · cases hop
      cases hp
    · rcases hcopies with ⟨p', hp', hcopies⟩ | ⟨p', hp', -⟩
      · exact .inr ⟨p', hp', hcopies, (mem_patternCells_rx hp').2 ⟨hop, h, h'⟩⟩
      · cases (txParams_of_rxParams hp).symm.trans hp'

theorem mem_reads_tx {op : HciOp} {p : TxParams}
    (hp : Hci.txParams op (fun i ↦ mem (3 + i)) = some p) {s : Host} :
    k ∈ (hciTxTest op).reads mem (hostHandler b q) s ↔ Reads b s.device mem op k := by
  rw [mem_reads_hciTxTest, mem_reads_txParams hp]
  constructor
  · rintro ((⟨h, h'⟩ | ⟨hop, h⟩) | ⟨p', hp', hcopies, hk⟩)
    · exact .fixed h h'
    · exact .power hop h
    · obtain ⟨hop, h, h'⟩ := (mem_patternCells_tx hp').1 hk
      exact .ids hop (.inr ⟨p', hp', hcopies⟩) h h'
  · rintro (⟨h, h'⟩ | ⟨hop, h⟩ | ⟨hop, hcopies, h, h'⟩)
    · exact .inl (.inl ⟨h, h'⟩)
    · exact .inl (.inr ⟨hop, h⟩)
    · rcases hcopies with ⟨p', hp', -⟩ | ⟨p', hp', hcopies⟩
      · cases (txParams_of_rxParams hp').symm.trans hp
      · exact .inr ⟨p', hp', hcopies, (mem_patternCells_tx hp').2 ⟨hop, h, h'⟩⟩

/-- The other commands read no parameter. -/
theorem not_reads {op : HciOp} (hfixed : op.fixedParams = 0) {s : Device} :
    ¬ Reads b s mem op k := by
  rintro (⟨h, h'⟩ | ⟨hop, h⟩ | ⟨hop, hcopies, h, h'⟩)
  · omega
  · cases hop
    cases hfixed
  · cases op <;> first | cases hop; done | cases hfixed

/-- **What the handlers read of a command**: its header and what it is read for. -/
theorem mem_reads_dtmTrProcess {s : Host} :
    k ∈ (dtmTrProcess h4TypeCmd).reads mem (hostHandler b q) s ↔
      k < 2 ∨ ∃ op, HciOp.ofCode (cmdOpcode mem) = some op ∧ Reads b s.device mem op k := by
  have hheader : (dtmTrProcess h4TypeCmd).reads mem (hostHandler b q) s =
      0 :: 1 :: (hciCmd (cmdOpcode mem)).reads mem (hostHandler b q) s := rfl
  rw [hheader, List.mem_cons, List.mem_cons, ← or_assoc]
  refine or_congr (by omega) ?_
  rw [hciCmd]
  rcases HciOp.ofCode (cmdOpcode mem) with - | op
  · simp
  · simp only [Option.some_inj, exists_eq_left']
    cases op with
    | reset | readBdAddr | leReadLocalFeatures | leTestEnd =>
      rw [Prog.reads_lift]
      exact iff_of_false List.not_mem_nil (not_reads rfl)
    | leRxTest | leEnhRxTest | leRxTestV3 => exact mem_reads_rx rfl
    | leTxTest | leEnhTxTest | leTxTestV3 | leTxTestV4 => exact mem_reads_tx rfl

/-- The reads stay inside a packet of `len` parameters exactly when what is read is there. -/
theorem reads_lt_iff {s : Device} {op : HciOp} {len : ℕ} :
    (∀ k, Reads b s mem op k → k < 3 + len) ↔
      ParamsPresent b s (fun i ↦ mem (3 + i)) len op := by
  constructor
  · intro hreads
    have hfixed : op.fixedParams ≤ len := by
      by_contra hlong
      have hk := hreads (3 + len) (.fixed (by omega) (by omega))
      omega
    refine ⟨hfixed, fun hop ↦ ?_, fun hop hcopies ↦ ?_⟩
    · have hk := hreads _ (.power hop rfl)
      exact Nat.lt_of_add_lt_add_left hk
    · show 7 + (mem 9).toNat ≤ len
      by_contra hlong
      have h7 : 7 ≤ len := by
        refine le_trans ?_ hfixed
        cases op <;> first | exact le_refl 7 | cases hop
      have hk := hreads (3 + len) (.ids hop hcopies (by omega) (by omega))
      omega
  · rintro ⟨hfixed, hpower, hids⟩ k (⟨h, h'⟩ | ⟨hop, h⟩ | ⟨hop, hcopies, h, h'⟩)
    · omega
    · have hlt : 7 + (mem 9).toNat < len := hpower hop
      omega
    · have hle : 7 + (mem 9).toNat ≤ len := hids hop hcopies
      omega

end Hci.Reading

/-! ### A packet in its buffer -/

/-- The buffer holds a command packet, as `h4_read` has filled it. -/
structure HoldsCmd (buf : NetBuf) (p : H4Packet) : Prop where
  type : p.type = h4TypeCmd
  userData : buf.userData = p.type
  bytes : buf.bytes = p.content

/-- The buffer in which `h4_read` puts a command. -/
theorem holdsCmd_receive {n : ℕ} (s : HciUart.HciRx n) (i : Fin n) (pool : Pool (Fin n) NetBuf)
    {p : H4Packet} (hp : p.type = h4TypeCmd) : HoldsCmd ((s.receive i pool p).pool.block i) p := by
  have hblock :
      (s.receive i pool p).pool.block i = ((pool.block i).reset p.type).addMem p.content :=
    Pool.write_block_self _ _ _
  rw [hblock]
  exact ⟨hp, rfl, by simp⟩

/-- Three octets of header and the parameters. -/
theorem HoldsCmd.len {buf : NetBuf} {p : H4Packet} (h : HoldsCmd buf p) :
    buf.len = 3 + p.payload.length := by
  rw [← buf.length_bytes, h.bytes, H4Packet.content, List.length_append, p.length_header, h.type]
  rfl

/-- The handlers read what was received: no octet behind the packet is read, and none makes a
difference. -/
structure ReadsReceived (b : Build) (q : ℕ) (f : Firmware) (buf : NetBuf) : Prop where
  inside : ∀ k ∈ (Reading.dtmTrProcess buf.userData).reads buf.mem (hostHandler b q) f.host,
    k < buf.len
  outcome : ∀ buf' : NetBuf, buf'.userData = buf.userData → buf'.bytes = buf.bytes →
    f.process b q buf'.userData buf'.mem = f.process b q buf.userData buf.mem

/-- What is not read makes no difference. -/
theorem process_congr {f : Firmware} {buf buf' : NetBuf}
    (hinside : ∀ k ∈ (Reading.dtmTrProcess buf.userData).reads buf.mem (hostHandler b q) f.host,
      k < buf.len)
    (huserData : buf'.userData = buf.userData) (hbytes : buf'.bytes = buf.bytes) :
    f.process b q buf'.userData buf'.mem = f.process b q buf.userData buf.mem := by
  have hlen : buf'.len = buf.len := by rw [← buf.length_bytes, ← hbytes, buf'.length_bytes]
  have hmem : ∀ k < buf.len, buf'.mem k = buf.mem k := by
    intro k hk
    rw [← buf.getD_bytes hk, ← hbytes, buf'.getD_bytes (hlen ▸ hk)]
  have hrun := Prog.run_erase_congr fun k hk ↦ hmem k (hinside k hk)
  rw [Reading.erase_dtmTrProcess, Reading.erase_dtmTrProcess] at hrun
  rw [Firmware.process, Firmware.process, huserData, hrun]

/-- **The handlers read what was received exactly when the parameters they read are present**, in
any state of the firmware and whatever an earlier packet has left in the buffer. -/
theorem packet_reads_iff (f : Firmware) {buf : NetBuf} {p : H4Packet} (hbuf : HoldsCmd buf p) :
    ReadsReceived b q f buf ↔ ∀ op, HciOp.ofCode (cmdOpcode buf.mem) = some op →
      ParamsPresent b f.device (fun i ↦ buf.mem (3 + i)) p.payload.length op := by
  have htype : buf.userData = h4TypeCmd := hbuf.userData.trans hbuf.type
  have hinside : (∀ k ∈ (Reading.dtmTrProcess buf.userData).reads buf.mem (hostHandler b q) f.host,
      k < buf.len) ↔ ∀ op, HciOp.ofCode (cmdOpcode buf.mem) = some op →
        ParamsPresent b f.device (fun i ↦ buf.mem (3 + i)) p.payload.length op := by
    rw [htype, hbuf.len]
    simp only [Reading.mem_reads_dtmTrProcess, ← Reading.reads_lt_iff]
    constructor
    · exact fun h op hop k hk ↦ h k (.inr ⟨op, hop, hk⟩)
    · rintro h k (hk | ⟨op, hop, hk⟩)
      · omega
      · exact h op hop k hk
  rw [← hinside]
  exact ⟨fun h ↦ h.inside, fun h ↦ ⟨h, fun buf' ↦ process_congr h⟩⟩

/-- A Receiver Test, version 1, with its parameter. -/
def rxTestPacket : H4Packet where
  type := h4TypeCmd
  header := [0x1D, 0x20, 0x01]
  payload := [0x05]
  rxType := HciUart.testEndPacket.rxType
  length_header := rfl
  length_payload := rfl

/-- The same command without its parameter. -/
def rxTestEmpty : H4Packet where
  type := h4TypeCmd
  header := [0x1D, 0x20, 0x00]
  payload := []
  rxType := HciUart.testEndPacket.rxType
  length_header := rfl
  length_payload := rfl

/-- A packet in a buffer that an earlier use has filled with an octet. -/
def HciUart.H4Packet.inBuffer (p : H4Packet) (stale : UInt8) : NetBuf :=
  ⟨p.type, fun k ↦ p.content.getD k stale, p.content.length⟩

theorem packet_reads_iff_rxTest :
    ReadsReceived (.nrf5340 true false) 1024 (.ofDevice .nrf5340)
      (rxTestPacket.inBuffer 0x28) := by
  refine (packet_reads_iff (.ofDevice .nrf5340) (p := rxTestPacket) ⟨rfl, rfl, rfl⟩).2
    fun op hop ↦ ?_
  cases hop
  exact ⟨le_refl 1, nofun, nofun⟩

/-- **Without its parameter the command is run on what the buffer held before**: it succeeds on
channel 5 and is refused on channel 40. -/
theorem rxTest_reads_stale :
    (Firmware.ofDevice .nrf5340).Reachable (.nrf5340 true false) 1024 ∧
    (∀ stale, HoldsCmd (rxTestEmpty.inBuffer stale) rxTestEmpty) ∧
    Answers (.nrf5340 true false) 1024 (.ofDevice .nrf5340) (rxTestEmpty.inBuffer 5).mem
      errSuccess ∧
    Answers (.nrf5340 true false) 1024 (.ofDevice .nrf5340) (rxTestEmpty.inBuffer 40).mem
      errInvalidParam ∧
    ¬ ReadsReceived (.nrf5340 true false) 1024 (.ofDevice .nrf5340)
      (rxTestEmpty.inBuffer 5) := by
  refine ⟨Firmware.ofDevice_reachable (Device.nrf5340_initialised true false),
    fun stale ↦ ⟨rfl, rfl, rfl⟩, ?_, ?_, fun hreads ↦ ?_⟩
  · have hop : cmdOpcode (rxTestEmpty.inBuffer 5).mem = HciOp.leRxTest.code := by decide
    exact (answers_iff (rxTestStatus_silent (.default 5)) (dtmTrProcess_rx hop rfl)).2 ⟨_, rfl⟩
  · have hop : cmdOpcode (rxTestEmpty.inBuffer 40).mem = HciOp.leRxTest.code := by decide
    exact (answers_iff (rxTestStatus_silent (.default 40)) (dtmTrProcess_rx hop rfl)).2 ⟨_, rfl⟩
  -- the channel is read behind the header, which is all there is
  · have hread : 3 < 3 := hreads.inside 3 (Reading.mem_reads_dtmTrProcess.2
      (.inr ⟨.leRxTest, rfl, .fixed (le_refl 3) (by decide)⟩))
    exact absurd hread (lt_irrefl 3)

end DirectTestMode
