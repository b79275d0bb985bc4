import DirectTestMode.Transport.HciOps
import DirectTestMode.Transport.HciStatus
import DirectTestMode.Transport.Firmware

/-!
# What an HCI test command has done when it succeeds

`HciStatus` says what a command is refused for. Here is the other half, in any state of the device:
a command that is answered with success has passed every link of its chain (`attempt_success`), and
each setting that was accepted has left its trace in the device. `RxLinks` and `TxLinks` collect
these.

## The traces

A link that passes says what it has written: the PHY is the radio mode (`dtmSetupSetPhy_radioMode`),
the extension is the one of the command (`CteSet`), the slot is the library's reading of the octet,
the test is started by one call of the library on the device that the settings have left. The
intermediate devices are kept in the two inductive types, because a result about what a test does is
about the device in which it was started and not about the one the command found.

Each function of the source has an inversion lemma (`phySet_ok` and the others), and where the exact
condition is of use an equivalence (`phySet_iff`, `modSet_iff`, `cteModeSet_iff`). No assumption is
made on the device: unlike in `HciStatus`, it need not be on a legal channel, since a command that
would stop the device is not answered.

## Answers

What a tester sees is the event. `answers_iff` says that the event with a status is among the
operations of a packet exactly when the program of the command ends in that status. It rests on a
test command being silent until then (`rxTestStatus_silent`), so that the one event there is is the
answer. This makes a statement about the operations of a packet one about a run.
-/

namespace DirectTestMode

open Fallible

/-- **A PHY that was set is the radio mode.** -/
theorem dtmSetupSetPhy_radioMode {b : Build} {phy : DtmPhy} {s s' : Device}
    (h : dtmSetupSetPhy b phy s = .ok (.ok, s')) : s'.radioMode = phy.radioMode := by
  have hinit {t : Device} {e191 e172 e117 : Bool}
      (h : radioInit b (errataHandle b e191 e172 e117 t) = .ok (.ok, s')) :
      s'.radioMode = t.radioMode := by
    rcases radioInit_cases h with hx | ⟨-, hx, -⟩
    · cases hx
    · exact (congrArg Device.radioMode hx).trans (errataHandle_radioMode b e191 e172 e117 t)
  cases phy with
  | phy1m | phy2m => exact hinit h
  | codedS8 | codedS2 =>
    simp only [dtmSetupSetPhy] at h
    split at h
    · exact hinit h
    · cases h

namespace Hci

variable {b : Build} {q : ℕ} {h h' : Host}

/-! ### The links -/

/-- A call of the library. -/
theorem perform_dtm_ok {c : Call} {x : transport.Res (.dtm c) × Host}
    (hrun : (Prog.perform (I := transport) (.dtm c)).run (hostHandler b q) h = .ok x) :
    ∃ y, api b c h.device = .ok y ∧ x = (y.1, { h with device := y.2 }) := by
  obtain ⟨z, hz, hrun⟩ := bind_eq_ok.1 hrun
  obtain ⟨y, hy, hz⟩ := bind_eq_ok.1 hz
  cases hz
  cases hrun
  exact ⟨y, hy, rfl⟩

/-- A call that comes to an end, as a program. -/
theorem perform_dtm_run {c : Call} {y : dtm.Res c × Device} (hy : api b c h.device = .ok y) :
    (Prog.perform (I := transport) (.dtm c)).run (hostHandler b q) h =
      .ok (y.1, { h with device := y.2 }) := by
  show (api b c h.device >>= _) >>= _ = _
  rw [hy]
  rfl

theorem perform_dtm_error {c : Call} {e : Fault} (he : api b c h.device = .error e) :
    (Prog.perform (I := transport) (.dtm c)).run (hostHandler b q) h = .error e := by
  show (api b c h.device >>= _) >>= _ = _
  rw [he]
  rfl

/-- A call that cannot fault: what it returned and what it left are those of the function. -/
theorem call_ok {p : Prog transport Ret} {g : Device → Ret × Device}
    (hp : ∀ h, p.run (hostHandler b q) h =
      .ok ((g h.device).1, { h with device := (g h.device).2 }))
    (hrun : p.run (hostHandler b q) h = .ok (.ok, h')) : g h.device = (.ok, h'.device) := by
  obtain ⟨hret, hdevice⟩ := Prod.mk.inj (Except.ok.inj ((hp h).symm.trans hrun))
  exact Prod.ext hret (congrArg Host.device hdevice)

/-- A copy that stays in its buffer comes before the rest. -/
theorem storePattern_bind_ok {α : Type} {ptr : PatternPtr} {src : List UInt8}
    {next : Unit → Prog transport α} {x : α × Host}
    (hrun : (Transport.storePattern ptr src >>= next).run (hostHandler b q) h = .ok x) :
    ∃ patterns, patternStore ptr src h.device.patterns = .ok patterns ∧
      (next ()).run (hostHandler b q)
        { h with device := { h.device with patterns := patterns } } = .ok x := by
  rw [Prog.run_bind] at hrun
  obtain ⟨⟨⟨⟩, t⟩, hstore, hrun⟩ := bind_eq_ok.1 hrun
  obtain ⟨y, hy, hret⟩ := bind_eq_ok.1 hstore
  cases hret
  obtain ⟨patterns, hpatterns, hret⟩ := bind_eq_ok.1 hy
  cases hret
  exact ⟨patterns, hpatterns, hrun⟩

/-- **A chain ends in success when its link passes and the rest succeeds.** An error of the link
would have ended the command with another status, so the direction from success is an inversion
of the chain. -/
theorem attempt_success {p : Prog transport Ret} {status : Ret → Option UInt8}
    (hstatus : Refusing status) {next : Prog transport UInt8} :
    (attempt p status next).run (hostHandler b q) h = .ok (errSuccess, h') ↔
      ∃ t, p.run (hostHandler b q) h = .ok (.ok, t) ∧
        next.run (hostHandler b q) t = .ok (errSuccess, h') := by
  constructor
  · intro hrun
    rw [attempt, Prog.run_bind] at hrun
    obtain ⟨⟨r, t⟩, hp, hrun⟩ := bind_eq_ok.1 hrun
    cases r with
    | ok =>
      simp only [hstatus.1] at hrun
      exact ⟨t, hp, hrun⟩
    | err e =>
      obtain ⟨code, hcode, hne⟩ := hstatus.2 e
      simp only [hcode] at hrun
      cases hrun
      exact absurd rfl hne
  · rintro ⟨t, hp, hnext⟩
    exact (attempt_next next hp hstatus.1).trans hnext

/-- The same, towards success, for a chain that is built from its end. -/
theorem attempt_succeeds {p : Prog transport Ret} {status : Ret → Option UInt8}
    (hstatus : Refusing status) {next : Prog transport UInt8} {t : Host}
    (hp : p.run (hostHandler b q) h = .ok (.ok, t))
    (hnext : ∃ h', next.run (hostHandler b q) t = .ok (errSuccess, h')) :
    ∃ h', (attempt p status next).run (hostHandler b q) h = .ok (errSuccess, h') := by
  obtain ⟨h', hnext⟩ := hnext
  exact ⟨h', (attempt_success hstatus).2 ⟨t, hp, hnext⟩⟩

/-- A PHY that was accepted has been set. -/
theorem phySet_ok {phy : UInt8}
    (hrun : (phySet phy).run (hostHandler b q) h = .ok (.ok, h')) :
    ∃ p, phyOf phy = some p ∧ dtmSetupSetPhy b p h.device = .ok (.ok, h'.device) := by
  rw [phySet] at hrun
  rcases hphy : phyOf phy with - | p
  · rw [hphy] at hrun
    cases hrun
  · rw [hphy] at hrun
    obtain ⟨⟨r, s⟩, hy, hx⟩ := perform_dtm_ok hrun
    cases hx
    exact ⟨p, rfl, hy⟩

/-- The PHY of a command can be set: it is accepted, and the automatic power control is not left
with an illegal channel. -/
def PhySettable (b : Build) (s : Device) (phy : UInt8) : Prop :=
  phyAccepted b s.txpower phy ∧
    ¬ (b.powerControlAutomatic = true ∧ physChMax < s.physCh.toUInt8.toNat)

/-- **When the PHY of a command is set**, in any state of the device. -/
theorem phySet_iff {phy : UInt8} :
    (∃ h', (phySet phy).run (hostHandler b q) h = .ok (.ok, h')) ↔
      PhySettable b h.device phy := by
  constructor
  · rintro ⟨h', hrun⟩
    obtain ⟨p, hp, hset⟩ := phySet_ok hrun
    obtain ⟨haccepted, hlegal⟩ := dtmSetupSetPhy_ok_iff.1 ⟨_, hset⟩
    exact ⟨⟨p, hp, haccepted⟩, hlegal⟩
  · rintro ⟨⟨p, hp, haccepted⟩, hlegal⟩
    obtain ⟨s', hset⟩ := dtmSetupSetPhy_ok_iff.2 ⟨haccepted, hlegal⟩
    rw [phySet, hp]
    exact ⟨_, perform_dtm_run (c := .setupSetPhy p) hset⟩

/-- The modulation is the standard one, and setting it does nothing. -/
theorem modSet_ok {mod : UInt8} (hrun : (modSet mod).run (hostHandler b q) h = .ok (.ok, h')) :
    mod = 0 ∧ h' = h := by
  rw [modSet] at hrun
  split_ifs at hrun with hstandard hstable
  · cases hrun
    exact ⟨hstandard, rfl⟩
  · cases hrun
  · cases hrun

theorem modSet_iff {mod : UInt8} :
    (∃ h', (modSet mod).run (hostHandler b q) h = .ok (.ok, h')) ↔ mod = 0 := by
  constructor
  · rintro ⟨h', hrun⟩
    exact (modSet_ok hrun).1
  · rintro rfl
    exact ⟨h, rfl⟩

/-- What `cte_set` leaves behind when it succeeds. -/
structure CteSet (b : Build) (cteLen cteType patternLen : UInt8) (pattern : ℕ → UInt8)
    (s s' : Device) : Prop where
  keeps : s' = { s with cteInfo := s'.cteInfo, patterns := s'.patterns }
  off : cteLen = 0 → s'.cteInfo.mode = if b.directionFinding then .off else s.cteInfo.mode
  on : cteLen ≠ 0 → ∃ type, cteTypeOf cteType = some type ∧ cteLen.toNat ≤ cteLengthMax ∧
    s'.cteInfo.mode = type.mode ∧ s'.cteInfo.time = cteLen ∧ s'.cteInfo.info = type.info cteLen ∧
    s'.cteInfo.antennaPattern = .hci ∧ s'.cteInfo.antennaPatternLen = patternLen ∧
    s'.patterns.hci.slice 0 patternLen.toNat = some ((List.range patternLen.toNat).map pattern)

theorem cteModeSet_ok {cteLen cteType : UInt8}
    (hrun : (cteModeSet cteLen cteType).run (hostHandler b q) h = .ok (.ok, h')) :
    ∃ type, cteTypeOf cteType = some type ∧
      dtmSetupSetCteMode b type cteLen h.device = (.ok, h'.device) := by
  rw [cteModeSet] at hrun
  rcases htype : cteTypeOf cteType with - | type
  · rw [htype] at hrun
    cases hrun
  · rw [htype] at hrun
    exact ⟨type, rfl, call_ok (fun _ ↦ rfl) hrun⟩

/-- When the mode of an extension is set. -/
theorem cteModeSet_iff {cteLen cteType : UInt8} :
    (∃ h', (cteModeSet cteLen cteType).run (hostHandler b q) h = .ok (.ok, h')) ↔
      cteModeAccepted b cteLen cteType := by
  constructor
  · rintro ⟨h', hrun⟩
    obtain ⟨type, htype, hset⟩ := cteModeSet_ok hrun
    obtain ⟨hdf, hmin, hmax, -⟩ := dtmSetupSetCteMode_ok (cteTypeOf_ne_none htype) hset
    exact ⟨by rw [htype]; rfl, hdf, hmin, hmax⟩
  · rintro ⟨htype, hdf, hmin, hmax⟩
    obtain ⟨type, htype⟩ := Option.isSome_iff_exists.1 htype
    have hset : (dtmSetupSetCteMode b type cteLen h.device).1 = .ok := by
      rw [dtmSetupSetCteMode, hdf, if_neg (by decide), if_neg (cteTypeOf_ne_none htype),
        if_neg (by omega)]
    refine ⟨{ h with device := (dtmSetupSetCteMode b type cteLen h.device).2 }, ?_⟩
    rw [cteModeSet, htype, ← hset]
    rfl

/-- The copy is in bounds, and the library takes the pattern. -/
theorem patternSet_ok {patternLen : UInt8} {src : List UInt8}
    (hrun : (do
      Transport.storePattern .hci src
      Transport.setupSetAntennaParams 0 .hci patternLen : Prog transport Ret).run
        (hostHandler b q) h = .ok (.ok, h')) :
    ∃ hci, h.device.patterns.hci.memcpy 0 src src.length = some hci ∧
      h'.device = { h.device with
        cteInfo := { h.device.cteInfo with
          antennaNumber := 0
          antennaPattern := .hci
          antennaPatternLen := patternLen }
        patterns := { h.device.patterns with hci := hci } } := by
  obtain ⟨patterns, hpatterns, hrun⟩ := storePattern_bind_ok hrun
  obtain ⟨hci, hhci, hret⟩ := bind_eq_ok.1 hpatterns
  cases hret
  have hset := call_ok (g := dtmSetupSetAntennaParams b 0 .hci patternLen) (fun _ ↦ rfl) hrun
  refine ⟨hci, inBounds_eq_ok.1 hhci, ?_⟩
  rw [dtmSetupSetAntennaParams] at hset
  split_ifs at hset
  all_goals first | exact (congrArg Prod.snd hset).symm | cases hset

/-- **The trace of an extension.** The antenna ids of the command are in the buffer that the
library now points to. -/
theorem cteSet_ok {cteLen cteType patternLen : UInt8} {pattern : ℕ → UInt8}
    (hrun : (cteSet cteLen cteType patternLen pattern).run (hostHandler b q) h = .ok (.ok, h')) :
    CteSet b cteLen cteType patternLen pattern h.device h'.device := by
  rw [cteSet] at hrun
  split_ifs at hrun with hnone hlong
  · have hset := call_ok (g := dtmSetupSetCteMode b .none 0) (fun _ ↦ rfl) hrun
    rw [show h'.device = _ from (congrArg Prod.snd hset).symm, dtmSetupSetCteMode]
    cases hdf : b.directionFinding with
    | false => exact ⟨rfl, fun _ ↦ by rw [hdf]; rfl, fun h ↦ absurd hnone h⟩
    | true => exact ⟨rfl, fun _ ↦ by rw [hdf]; rfl, fun h ↦ absurd hnone h⟩
  · cases hrun
  · rw [Prog.run_bind] at hrun
    obtain ⟨⟨r, t⟩, hmode, hrun⟩ := bind_eq_ok.1 hrun
    simp only at hrun
    split_ifs at hrun with hr
    · cases hrun
      exact absurd rfl hr
    · cases not_not.1 hr
      obtain ⟨type, htype, hmode⟩ := cteModeSet_ok hmode
      obtain ⟨hci, hcopy, hdevice⟩ := patternSet_ok hrun
      obtain ⟨-, -, hmax, ht⟩ := dtmSetupSetCteMode_ok (cteTypeOf_ne_none htype) hmode
      have hslice := Buffer.slice_memcpy hcopy
      rw [List.take_length, List.length_map, List.length_range] at hslice
      rw [hdevice, ht]
      exact ⟨rfl, fun h ↦ absurd h hnone,
        fun _ ↦ ⟨type, htype, hmax, rfl, rfl, rfl, rfl, rfl, hslice⟩⟩

/-- **The slot of a reception with CTE**: the library counts its slots from zero. -/
theorem cteSlotSet_ok {cteLen slotDurations : UInt8}
    (hrun : (cteSlotSet cteLen slotDurations).run (hostHandler b q) h = .ok (.ok, h')) :
    (cteLen = 0 ∧ h' = h) ∨ (cteLen ≠ 0 ∧ ∃ slot,
      (slotDurations = 0 ∧ slot = .us1 ∨ slotDurations = 1 ∧ slot = .us2) ∧
      h'.device = { h.device with cteInfo := { h.device.cteInfo with slot := slot } }) := by
  rw [cteSlotSet] at hrun
  split_ifs at hrun with hnone
  · refine .inr ⟨hnone, ?_⟩
    have hset := call_ok (g := dtmSetupSetCteSlot b slotDurations) (fun _ ↦ rfl) hrun
    rw [dtmSetupSetCteSlot, DtmCteSlotDuration.ofCode] at hset
    split_ifs at hset with hdf h0 h1
    · cases hset
    · exact ⟨.us1, .inl ⟨h0, rfl⟩, (congrArg Prod.snd hset).symm⟩
    · exact ⟨.us2, .inr ⟨h1, rfl⟩, (congrArg Prod.snd hset).symm⟩
    · cases hset
  · cases hrun
    exact .inl ⟨not_not.1 hnone, rfl⟩

theorem testReceive_ok {channel : UInt8}
    (hrun : (Transport.testReceive channel).run (hostHandler b q) h = .ok (.ok, h')) :
    dtmTestReceive b channel h.device = .ok (.ok, h'.device) := by
  obtain ⟨⟨r, s⟩, hy, hx⟩ := perform_dtm_ok hrun
  cases hx
  exact hy

/-- A test that was started. -/
theorem testTransmit_ok {channel length : UInt8} {pkt : DtmPacket}
    (hrun : (Transport.testTransmit channel length pkt).run (hostHandler b q) h = .ok (.ok, h')) :
    dtmTestTransmit b channel length pkt h.device = .ok (.ok, h'.device) := by
  obtain ⟨⟨r, s⟩, hy, hx⟩ := perform_dtm_ok hrun
  cases hx
  exact hy

/-- A power request that was accepted has been made. It changes the level and nothing else. -/
theorem txPowerSet_ok {power : Int8} {channel : UInt8}
    (hrun : (txPowerSet power channel).run (hostHandler b q) h = .ok (.ok, h')) :
    ∃ request answer, txPowerRequestOf power = some request ∧
      dtmSetupSetTransmitPower b request.1 request.2 channel h.device =
        .ok (answer, h'.device) := by
  rw [txPowerSet] at hrun
  rcases hrequest : txPowerRequestOf power with - | request
  · rw [hrequest] at hrun
    cases hrun
  · rw [hrequest] at hrun
    simp only [Prog.run_bind] at hrun
    obtain ⟨x, hx, hrun⟩ := bind_eq_ok.1 hrun
    cases hrun
    obtain ⟨⟨answer, s⟩, hy, hx⟩ := perform_dtm_ok hx
    cases hx
    exact ⟨request, answer, rfl, hy⟩

/-! ### Receiver Test -/

/-- The links of a Receiver Test, from the device to the one it leaves behind. -/
inductive RxLinks (b : Build) (p : RxParams) (s s' : Device) : Prop
  | intro {phy : DtmPhy} {s₁ s₂ s₃ : Device} (hphy : phyOf p.phy = some phy)
      (phySet : dtmSetupSetPhy b phy (dtmSetupPrepare b s) = .ok (.ok, s₁)) (mod : p.mod = 0)
      (allowed : cteDisallowed p.cteLen p.phy = false)
      (cteSet : CteSet b p.cteLen p.cteType p.patternLen p.pattern s₁ s₂)
      (slotSet : (p.cteLen = 0 ∧ s₃ = s₂) ∨ (p.cteLen ≠ 0 ∧ ∃ slot,
        (p.slotDurations = 0 ∧ slot = .us1 ∨ p.slotDurations = 1 ∧ slot = .us2) ∧
        s₃ = { s₂ with cteInfo := { s₂.cteInfo with slot := slot } }))
      (receive : dtmTestReceive b p.chan s₃ = .ok (.ok, s'))

/-- **A reception that is answered with success** has passed its links one by one. -/
theorem rxTestStatus_ok {p : RxParams}
    (hrun : (rxTestStatus p).run (hostHandler b q) h = .ok (errSuccess, h')) :
    RxLinks b p h.device h'.device := by
  obtain ⟨h₁, hphy, hrun⟩ := (attempt_success (h := { h with device := dtmSetupPrepare b h.device })
    refusing_unsupportedOn).1 hrun
  obtain ⟨phy, hphyOf, hset⟩ := phySet_ok hphy
  obtain ⟨h₂, hmod, hrun⟩ := (attempt_success refusing_settingStatus).1 hrun
  obtain ⟨hstandard, hsame⟩ := modSet_ok hmod
  rw [hsame] at hrun
  split_ifs at hrun with hallowed
  · cases hrun
  obtain ⟨h₃, hcte, hrun⟩ := (attempt_success refusing_settingStatus).1 hrun
  obtain ⟨h₄, hslot, hrun⟩ := (attempt_success refusing_slotStatus).1 hrun
  obtain ⟨h₅, hreceive, hrun⟩ := (attempt_success refusing_testStatus).1 hrun
  cases hrun
  refine .intro hphyOf hset hstandard (Bool.eq_false_iff.2 hallowed) (cteSet_ok hcte) ?_
    (testReceive_ok hreceive)
  rcases cteSlotSet_ok hslot with ⟨hnone, rfl⟩ | hslot
  · exact .inl ⟨hnone, rfl⟩
  · exact .inr hslot

/-! ### Transmitter Test -/

/-- The links of a Transmitter Test. -/
inductive TxLinks (b : Build) (p : TxParams) (s s' : Device) : Prop
  | intro {pld : DtmPacket} {phy : DtmPhy} {request : DtmTxPowerRequest × Int8}
      {answer : DtmTxPower} {s₁ s₂ s₃ : Device} (payload : hciToDtmPayload p.payload = .ok pld)
      (hphy : phyOf p.phy = some phy)
      (phySet : dtmSetupSetPhy b phy (dtmSetupPrepare b s) = .ok (.ok, s₁))
      (allowed : cteDisallowed p.cteLen p.phy = false)
      (cteSet : CteSet b p.cteLen p.cteType p.patternLen p.pattern s₁ s₂)
      (hrequest : txPowerRequestOf p.power = some request)
      (powerSet : dtmSetupSetTransmitPower b request.1 request.2 p.chan s₂ = .ok (answer, s₃))
      (transmit : dtmTestTransmit b p.chan p.dataLen pld s₃ = .ok (.ok, s'))

/-- **So has a transmission.** The power request comes before the test, on the same channel. -/
theorem txTestStatus_ok {p : TxParams}
    (hrun : (txTestStatus p).run (hostHandler b q) h = .ok (errSuccess, h')) :
    TxLinks b p h.device h'.device := by
  rcases hpayload : hciToDtmPayload p.payload with e | pld
  · cases (txTestStatus_unknown h hpayload).symm.trans hrun
  have hrun := (txTestStatus_known h hpayload).symm.trans hrun
  obtain ⟨h₁, hphy, hrun⟩ := (attempt_success refusing_unsupportedOn).1 hrun
  obtain ⟨phy, hphyOf, hset⟩ := phySet_ok hphy
  split_ifs at hrun with hallowed
  · cases hrun
  obtain ⟨h₂, hcte, hrun⟩ := (attempt_success refusing_settingStatus).1 hrun
  obtain ⟨h₃, hpower, hrun⟩ := (attempt_success refusing_unsupportedOn).1 hrun
  obtain ⟨h₄, htransmit, hrun⟩ := (attempt_success refusing_testStatus).1 hrun
  cases hrun
  obtain ⟨request, answer, hrequest, hpower⟩ := txPowerSet_ok hpower
  exact .intro hpayload hphyOf hset (Bool.eq_false_iff.2 hallowed) (cteSet_ok hcte) hrequest hpower
    (testTransmit_ok htransmit)

/-! ### Answers -/

/-- The Command Complete event that `base_cc_evt` hands to the UART. -/
def baseCcEvtOp (opcode : UInt16) (status : UInt8) : transport.Op :=
  TransportOp.uartWrite h4TypeEvt [0x0E, 4] (1 :: (le16 opcode ++ [status]))

/-- The event tells its status. -/
theorem baseCcEvtOp_inj {opcode : UInt16} {status status' : UInt8}
    (h : baseCcEvtOp opcode status = baseCcEvtOp opcode status') : status = status' := by
  have hpld := (TransportOp.uartWrite.inj h).2.2
  simpa [le16] using hpld

/-- An operation that hands nothing to the UART. -/
def Silent (op : transport.Op) : Prop := ∀ type hdr pld, op ≠ .uartWrite type hdr pld

theorem silent_dtm (c : Call) : (Prog.perform (I := transport) (.dtm c)).Issues Silent :=
  Prog.issues_perform.2 nofun

theorem TestOp.silent {C : UInt8 → Prop} {op : TransportOp} (h : TestOp C op) : Silent op := by
  rintro type hdr pld rfl
  exact h

/-- A test command says nothing before its status is known, so its event is the only one. -/
theorem rxTestStatus_silent (p : RxParams) : (rxTestStatus p).Issues Silent :=
  (rxTestStatus_issues (C := fun _ ↦ True) p).mono fun _ h ↦ h.silent

theorem txTestStatus_silent (p : TxParams) : (txTestStatus p).Issues Silent :=
  (txTestStatus_issues (C := fun _ ↦ True) trivial).mono fun _ h ↦ h.silent

/-- **The answer of a command** is the status it comes to. -/
theorem answer_iff {p : Prog transport UInt8} (hp : p.Issues Silent) {opcode : UInt16}
    {status : UInt8} :
    baseCcEvtOp opcode status ∈
        (p >>= fun status ↦ baseCcEvt opcode status).calls (hostHandler b q) h ↔
      ∃ h', p.run (hostHandler b q) h = .ok (status, h') := by
  rw [Prog.calls_bind, List.mem_append]
  constructor
  · rintro (hmem | hmem)
    · exact absurd rfl (hp.calls _ hmem _ _ _)
    · rcases hrun : p.run (hostHandler b q) h with e | ⟨code, h'⟩
      · rw [hrun] at hmem
        cases hmem
      · rw [hrun] at hmem
        have hcode : baseCcEvtOp opcode status = baseCcEvtOp opcode code :=
          List.mem_singleton.1 hmem
        exact ⟨h', baseCcEvtOp_inj hcode ▸ rfl⟩
  · rintro ⟨h', hrun⟩
    rw [hrun]
    exact .inr (List.mem_singleton.2 rfl)

/-! ### Test commands -/

/-- The opcode in a buffer. -/
def cmdOpcode (buf : ℕ → UInt8) : UInt16 := (buf 0).toUInt16 ||| ((buf 1).toUInt16 <<< 8)

/-- The firmware answers the command in a buffer with a status. -/
def Answers (b : Build) (q : ℕ) (f : Firmware) (buf : ℕ → UInt8) (status : UInt8) : Prop :=
  baseCcEvtOp (cmdOpcode buf) status ∈ f.issues b q (dtmTrProcess h4TypeCmd buf)

variable {f f' : Firmware} {buf : ℕ → UInt8} {op : HciOp} {status : UInt8}

@[simp] theorem HciOp.ofCode_code (op : HciOp) : HciOp.ofCode op.code = some op := by
  cases op <;> decide

/-- A packet that is a Receiver Test, of any version, is its chain and the event. -/
theorem dtmTrProcess_rx {p : RxParams} (hop : cmdOpcode buf = op.code)
    (hp : rxParams op (fun i ↦ buf (3 + i)) = some p) :
    dtmTrProcess h4TypeCmd buf =
      rxTestStatus p >>= fun status ↦ baseCcEvt (cmdOpcode buf) status := by
  rw [dtmTrProcess, if_pos rfl, hop]
  change hciCmd (cmdOpcode buf) _ = _
  rw [hop, hciCmd, HciOp.ofCode_code]
  cases op <;> first
    | cases hp; done
    | simp only [hciRxTest, hp]

/-- A packet that is a Transmitter Test likewise. -/
theorem dtmTrProcess_tx {p : TxParams} (hop : cmdOpcode buf = op.code)
    (hp : txParams op (fun i ↦ buf (3 + i)) = some p) :
    dtmTrProcess h4TypeCmd buf =
      txTestStatus p >>= fun status ↦ baseCcEvt (cmdOpcode buf) status := by
  rw [dtmTrProcess, if_pos rfl, hop]
  change hciCmd (cmdOpcode buf) _ = _
  rw [hop, hciCmd, HciOp.ofCode_code]
  cases op <;> first
    | cases hp; done
    | simp only [hciTxTest, hp]

/-- **The status of a test command is its answer.** The firmware answers with a status exactly
when the program of the command ends in it. -/
theorem answers_iff {p : Prog transport UInt8} (hp : p.Issues Silent)
    (hprocess : dtmTrProcess h4TypeCmd buf = p >>= fun status ↦ baseCcEvt (cmdOpcode buf) status) :
    Answers b q f buf status ↔ ∃ h', p.run (hostHandler b q) f.host = .ok (status, h') := by
  rw [Answers, Firmware.issues, hprocess]
  exact answer_iff hp

/-- The device of the command is the one its program has left: the event does not touch it. -/
theorem process_device {p : Prog transport UInt8}
    (hprocess : dtmTrProcess h4TypeCmd buf = p >>= fun status ↦ baseCcEvt (cmdOpcode buf) status)
    (hrun : p.run (hostHandler b q) f.host = .ok (status, h')) {ret : Ret}
    (h : f.process b q h4TypeCmd buf = .ok (ret, f')) : f'.device = h'.device := by
  rw [Firmware.process, hprocess, Prog.run_bind, hrun] at h
  cases h
  rfl

end Hci

end DirectTestMode
