import DirectTestMode.Properties.PacketReport

/-!
# No stale bytes in reception

The two PDU buffers over whole runs, from power-on. `Device.Fresh` is the invariant: while a
reception runs, the radio has the current buffer and the other one is all zeros. A transmitter test
fills the same buffers and a test can be started in the middle of another; what keeps the invariant
is that a reception starts with both buffers cleared, and that an `END` event clears the buffer it
has looked at before the event is over.

The invariant has a parameter, a property of the buffer that the radio writes to. It is what tells
the runs in which the radio writes between the `END` events from those in which it does not: with
`J` always true it covers both, and with `J` "all zeros" it covers the second kind and says more.

## Which step could break it

* A set-up call leaves the buffers and both pointers alone (`api_keepsBuffers`), also in the middle
  of a reception, and starts none (`api_receiving`).
* A transmitter test writes its PDU to buffer 0, but is refused while a reception runs, and the
  state it leaves is not that of a reception (`dtmTestTransmit_fresh`).
* A receiver test may start over any test, and clears both buffers first (`dtmTestReceive_fresh`).
* An interrupt with an `END` event swaps the buffers and clears the one it has looked at
  (`radioIrq_ended`); one without may have let the radio write to its own buffer, and to no other
  (`radioDma_fresh`).

`reception_fresh` reads this off at the moment that matters, between the radio's write and the swap.
That the buffer handed over is empty is the invariant; that the received one is empty afterwards is
the step. Nothing is said of a run that an assertion stops, which has no state in which a packet
could arrive.
-/

namespace DirectTestMode

open Fallible

variable {b : Build} {s s' : Device}

/-! ### The frame of the buffers -/

/-- The buffers, and the pointers to them, are the same. -/
structure KeepsBuffers (s s' : Device) : Prop where
  pdu : s'.pdu = s.pdu
  currentPdu : s'.currentPdu = s.currentPdu
  packetPtr : s'.radio.packetPtr = s.radio.packetPtr

namespace KeepsBuffers

theorem refl (s : Device) : KeepsBuffers s s := ⟨rfl, rfl, rfl⟩

theorem trans {s'' : Device} (h : KeepsBuffers s s') (h' : KeepsBuffers s' s'') :
    KeepsBuffers s s'' where
  pdu := h'.pdu.trans h.pdu
  currentPdu := h'.currentPdu.trans h.currentPdu
  packetPtr := h'.packetPtr.trans h.packetPtr

end KeepsBuffers

theorem radioInit_keepsBuffers {x : Ret × Device} (h : radioInit b s = .ok x) :
    KeepsBuffers s x.2 := by
  have hkeeps := radioInit_keepsTest h
  refine ⟨hkeeps.pdu, hkeeps.currentPdu, ?_⟩
  rw [radioInit] at h
  split at h
  · cases h
    rfl
  · obtain ⟨radio, hradio, h⟩ := bind_eq_ok.1 h
    cases h
    show radio.packetPtr = s.radio.packetPtr
    rw [radioTxPowerSet_eq hradio]
    rfl

/-- The workarounds and the initialisation of the radio, as the set-up functions call them. -/
theorem setupInit_keepsBuffers {e191 e172 e117 : Bool} {t : Device} (hst : KeepsBuffers s t)
    {x : Ret × Device} (h : radioInit b (errataHandle b e191 e172 e117 t) = .ok x) :
    KeepsBuffers s x.2 := by
  refine .trans (hst.trans ?_) (radioInit_keepsBuffers h)
  rw [errataHandle_eq]
  exact ⟨rfl, rfl, rfl⟩

/-- A reset leaves the buffers alone. -/
theorem dtmSetupReset_keepsBuffers {x : Ret × Device} (h : dtmSetupReset b s = .ok x) :
    KeepsBuffers s x.2 :=
  setupInit_keepsBuffers (by constructor <;> rfl) h

theorem dtmSetupSetPhy_keepsBuffers {phy : DtmPhy} {x : Ret × Device}
    (h : dtmSetupSetPhy b phy s = .ok x) : KeepsBuffers s x.2 := by
  cases phy with
  | phy1m => exact setupInit_keepsBuffers (by constructor <;> rfl) h
  | phy2m => exact setupInit_keepsBuffers (by constructor <;> rfl) h
  | codedS8 | codedS2 =>
    simp only [dtmSetupSetPhy] at h
    split at h
    · exact setupInit_keepsBuffers (by constructor <;> rfl) h
    · cases h
      exact .refl s

theorem dtmInit_keepsBuffers {env : InitEnv} {callback : Option CodePtr} {x : Ret × Device}
    (h : dtmInit b env callback s = .ok x) : KeepsBuffers s x.2 := by
  have htimer : KeepsBuffers s (timerInit env s).2 := by
    rw [timerInit]
    split <;> exact ⟨rfl, rfl, rfl⟩
  rw [dtmInit] at h
  simp only at h
  split_ifs at h
  all_goals first | (cases h; exact .refl s) | (cases h; exact htimer) | skip
  obtain ⟨⟨err, t⟩, ht, h⟩ := bind_eq_ok.1 h
  have hradio : KeepsBuffers (timerInit env s).2 t := by
    refine .trans ?_ (radioInit_keepsBuffers ht)
    exact ⟨rfl, rfl, rfl⟩
  simp only at h
  split at h
  · cases h
    exact htimer.trans hradio
  · cases h
    exact (htimer.trans hradio).trans ⟨rfl, rfl, rfl⟩

/-- **A set-up call leaves the buffers to the radio**, in the middle of a reception as well. -/
theorem api_keepsBuffers {c : Call} {x : dtm.Res c × Device} (hc : c.isSetup = true)
    (h : api b c s = .ok x) : KeepsBuffers s x.2 := by
  cases c with
  | init env callback => exact dtmInit_keepsBuffers h
  | setupReset => exact dtmSetupReset_keepsBuffers h
  | setupSetPhy phy => exact dtmSetupSetPhy_keepsBuffers h
  | setupSetModulation | setupReadFeatures | setupReadMaxSupportedValue | setupSetCteMode
  | setupSetCteSlot | setupSetAntennaParams | setupSetTransmitPower =>
    rw [api_setting hc rfl h]
    exact ⟨rfl, rfl, rfl⟩
  | setupPrepare | testReceive | testTransmit | testEnd => cases hc

/-- A set-up call starts no reception. -/
theorem api_receiving {c : Call} {x : dtm.Res c × Device} (hc : c.isSetup = true)
    (h : api b c s = .ok x) (hrx : x.2.state = .receiverTest) : s.state = .receiverTest := by
  cases c with
  | init env callback =>
    rcases dtmInit_state h with hstate | hstate
    · rw [← hstate]
      exact hrx
    · cases hstate.symm.trans hrx
  | setupReset | setupSetPhy | setupSetModulation | setupReadFeatures | setupReadMaxSupportedValue
  | setupSetCteMode | setupSetCteSlot | setupSetAntennaParams | setupSetTransmitPower =>
    rw [← (api_keepsTest (by rintro _ _ ⟨⟩) hc h).state]
    exact hrx
  | setupPrepare | testReceive | testTransmit | testEnd => cases hc

/-! ### The invariant -/

@[simp] theorem nextPdu_nextPdu (i : Fin 2) : nextPdu (nextPdu i) = i := by
  revert i
  decide

theorem nextPdu_ne (i : Fin 2) : nextPdu i ≠ i := by
  revert i
  decide

/-- The buffers `pdu` of a reception on buffer `i`: the radio's satisfies `J`, the other is
empty. -/
structure FreshPdu (J : DtmPdu → Prop) (pdu : Fin 2 → DtmPdu) (i : Fin 2) : Prop where
  current : J (pdu i)
  next : pdu (nextPdu i) = DtmPdu.zero

/-- While a reception runs the radio has the current buffer, and the other one is empty. -/
def Device.Fresh (J : DtmPdu → Prop) (s : Device) : Prop :=
  s.state = .receiverTest →
    ∃ i, s.currentPdu = some i ∧ s.radio.packetPtr = some i ∧ FreshPdu J s.pdu i

variable {J : DtmPdu → Prop}

theorem Device.Fresh.keeps (hs : s.Fresh J) (hkeeps : KeepsBuffers s s')
    (hstate : s'.state = .receiverTest → s.state = .receiverTest) : s'.Fresh J := by
  intro hrx
  rw [hkeeps.currentPdu, hkeeps.packetPtr, hkeeps.pdu]
  exact hs (hstate hrx)

theorem anomalyTimerSet_keepsBuffers (b : Build) (enabled : Bool) (s : Device) :
    KeepsBuffers s (anomalyTimerSet b enabled s) := by
  rw [anomalyTimerSet_eq]
  exact ⟨rfl, rfl, rfl⟩

/-- A transmitter test is refused while a reception runs, and leaves none behind. -/
theorem dtmTestTransmit_fresh {channel length : UInt8} {pkt : DtmPacket} {x : Ret × Device}
    (hs : s.Fresh J) (h : dtmTestTransmit b channel length pkt s = .ok x) : x.2.Fresh J := by
  cases dtmTestTransmit_ok h with
  | busy => exact hs
  | channel hidle | setting hidle | refused hidle =>
    intro hrx
    cases hidle.symm.trans hrx
  | carrier | modulated =>
    intro hrx
    cases hrx

/-- **A reception starts with both buffers cleared**, over whatever test was running. -/
theorem dtmTestReceive_fresh (hzero : J DtmPdu.zero) {channel : UInt8} {x : Ret × Device}
    (hs : s.Fresh J) (h : dtmTestReceive b channel s = .ok x) : x.2.Fresh J := by
  rcases Nat.lt_or_ge physChMax channel.toNat with hc | hc
  · cases (dtmTestReceive_illegal b s hc).symm.trans h
    exact hs
  · obtain ⟨radio, hptr, heq⟩ := dtmTestReceive_legal b s hc
    cases heq.symm.trans h
    exact fun _ ↦ ⟨0, rfl, hptr, hzero, rfl⟩

/-- **Every call keeps the invariant.** -/
theorem api_fresh (hzero : J DtmPdu.zero) {c : Call} {x : dtm.Res c × Device} (hs : s.Fresh J)
    (h : api b c s = .ok x) : x.2.Fresh J := by
  cases hc : c.isSetup with
  | true => exact hs.keeps (api_keepsBuffers hc h) (api_receiving hc h)
  | false =>
    cases c with
    | setupPrepare =>
      cases h
      intro hrx
      cases hrx
    | testReceive channel => exact dtmTestReceive_fresh hzero hs h
    | testTransmit channel length pkt => exact dtmTestTransmit_fresh hs h
    | testEnd packCnt =>
      cases h
      cases packCnt with
      | false => exact hs
      | true =>
        intro hrx
        cases hrx
    | init | setupReset | setupSetPhy | setupSetModulation | setupReadFeatures
    | setupReadMaxSupportedValue | setupSetCteMode | setupSetCteSlot | setupSetAntennaParams
    | setupSetTransmitPower => cases hc

/-! ### An `END` event -/

/-- The radio writes to its own buffer only. -/
theorem radioDma_fresh (b : Build) (ev : RadioEvent) {i : Fin 2} (hrx : s.state = .receiverTest)
    (hptr : s.radio.packetPtr = some i) (hfresh : FreshPdu J s.pdu i) :
    FreshPdu (· = ev.content) (radioDma b ev s).pdu i := by
  have hother : some i ≠ some (nextPdu i) := fun h ↦ nextPdu_ne i (Option.some.inj h).symm
  rw [radioDma, if_pos hrx]
  constructor
  · exact if_pos hptr
  · show (if s.radio.packetPtr = some (nextPdu i) then _ else _) = _
    rw [hptr, if_neg hother]
    exact hfresh.next

/-- The buffer that was received into is cleared, and the other is left as it is. -/
theorem receivedPdu_pdu {ev : RadioEvent} {i : Fin 2} (h : receivedPdu b ev i s = .ok s') :
    s'.pdu = Function.update s.pdu i DtmPdu.zero := by
  rw [receivedPdu_ok h]

/-- **An `END` event leaves both buffers empty** and the radio on the other one. -/
theorem radioIrq_ended {ev : RadioEvent} {i : Fin 2} (hended : ev.ended = true)
    (hrx : s.state = .receiverTest) (hcur : s.currentPdu = some i)
    (hptr : s.radio.packetPtr = some i) (hfresh : FreshPdu J s.pdu i)
    (h : radioIrq b ev s = .ok s') :
    s'.currentPdu = some (nextPdu i) ∧ s'.radio.packetPtr = some (nextPdu i) ∧
      s'.pdu i = DtmPdu.zero ∧ s'.pdu (nextPdu i) = DtmPdu.zero := by
  obtain ⟨timer, hirq⟩ := radioIrq_receiving (b := b) hended hrx hcur
  obtain ⟨u, hu, h⟩ := bind_eq_ok.1 (hirq.symm.trans h)
  have hready : KeepsBuffers u s' := by
    cases h
    split
    · exact anomalyTimerSet_keepsBuffers b true u
    · exact .refl u
  obtain ⟨hucur, huptr⟩ := receivedPdu_next hu
  have hpdu := hready.pdu.trans (receivedPdu_pdu hu)
  refine ⟨hready.currentPdu.trans hucur, hready.packetPtr.trans huptr, ?_, ?_⟩
  · rw [hpdu, Function.update_self]
  -- the other buffer was empty before the event, and the radio did not write to it
  · rw [hpdu, Function.update_of_ne (nextPdu_ne i)]
    exact (radioDma_fresh b ev hrx hptr hfresh).next

/-- An interrupt without an `END` event leaves the pointers alone. -/
theorem radioIrq_not_ended {ev : RadioEvent} (hended : ev.ended = false)
    (h : radioIrq b ev s = .ok s') : KeepsBuffers (radioDma b ev s) s' := by
  obtain ⟨t, ht, h⟩ := bind_eq_ok.1 h
  have haddress : KeepsBuffers (radioDma b ev s) t := by
    rw [radioHandlerEnd, hended, if_neg (by decide)] at ht
    cases ht
    split
    · exact anomalyTimerSet_keepsBuffers b false _
    · exact .refl _
  refine haddress.trans ?_
  cases h
  split
  · exact anomalyTimerSet_keepsBuffers b true t
  · exact .refl t

/-! ### Runs -/

/-- **The invariant is kept by every call and interrupt.** What the radio writes between two `END`
events is all that can be in the buffer it has. -/
theorem Device.Fresh.step (hzero : J DtmPdu.zero) {i : Input} (hs : s.Fresh J)
    (hwrite : ∀ ev, i = .radio ev → ev.ended = false → J ev.content)
    (h : s.step b i = .ok s') : s'.Fresh J := by
  cases i with
  | call c =>
    obtain ⟨x, hx, h⟩ := bind_eq_ok.1 h
    cases h
    exact api_fresh hzero hs hx
  | anomaly ev =>
    have hkeeps := Device.step_anomaly_keepsSetup h
    cases h
    refine hs.keeps ?_ fun hrx ↦ hkeeps.state.symm.trans hrx
    split
    · rw [anomalyTimerHandler]
      simp only
      split_ifs <;> exact ⟨rfl, rfl, rfl⟩
    · exact .refl s
  | radio ev =>
    intro hrx'
    have hrx : s.state = .receiverTest := (radioIrq_keepsSetup h).state.symm.trans hrx'
    obtain ⟨i, hcur, hptr, hfresh⟩ := hs hrx
    cases hended : ev.ended with
    | true =>
      -- `END`: the buffers change places, and the one that was read is cleared
      obtain ⟨hcur', hptr', hi, hnext⟩ := radioIrq_ended hended hrx hcur hptr hfresh h
      refine ⟨nextPdu i, hcur', hptr', ?_, ?_⟩
      · rw [hnext]
        exact hzero
      · rw [nextPdu_nextPdu]
        exact hi
    | false =>
      have hkeeps := radioIrq_not_ended hended h
      -- any other event: the radio writes to the buffer it has, and the other one stays clear
      obtain ⟨hdmacur, hdmaptr, -⟩ := radioDma_pointers b ev s
      have hdma := radioDma_fresh b ev hrx hptr hfresh
      refine ⟨i, ?_, ?_, ?_, ?_⟩
      · rw [hkeeps.currentPdu, hdmacur, hcur]
      · rw [hkeeps.packetPtr, hdmaptr, hptr]
      · rw [hkeeps.pdu, hdma.current]
        exact hwrite ev rfl hended
      · rw [hkeeps.pdu]
        exact hdma.next

/-- The invariant after any run from power-on. -/
theorem Device.Fresh.run (hzero : J DtmPdu.zero) {is : List Input}
    (hwrite : ∀ ev, .radio ev ∈ is → ev.ended = false → J ev.content)
    (h : Fallible.run (Device.step b) Device.powerOn is = .ok s) : s.Fresh J := by
  let C : Input → Prop := fun i ↦ ∀ ev, i = .radio ev → ev.ended = false → J ev.content
  have hguard : Guarded (Device.step b) (fun _ ↦ C) Device.powerOn is := by
    refine .of_forall fun i hi ev hev ↦ hwrite ev ?_
    rw [← hev]
    exact hi
  have hpowerOn : Device.powerOn.Fresh J := fun h ↦ by cases h
  exact hguard.invariant (fun _ _ _ hs hC h ↦ hs.step hzero hC h) hpowerOn h

/-- **No stale bytes.** In every run from power-on, at every `END` event of a reception: the radio
has written to the current buffer, one of the two; the handler hands it the other one, which is all
zeros; and the received buffer is all zeros when the handler is done, so at the next `END` event it
is handed back that way. In a run of calls and `END` events the buffer was all zeros until the radio
wrote the packet. -/
theorem reception_fresh {is : List Input}
    (hrun : Fallible.run (Device.step b) Device.powerOn is = .ok s)
    (hrx : s.state = .receiverTest) {ev : RadioEvent} (hended : ev.ended = true) :
    ∃ i, s.currentPdu = some i ∧ s.radio.packetPtr = some i ∧
      ((∀ ev, .radio ev ∈ is → ev.ended = true) → s.pdu i = DtmPdu.zero) ∧
      (radioBufferSwap i (radioDma b ev s)).radio.packetPtr = some (nextPdu i) ∧
      (radioBufferSwap i (radioDma b ev s)).pdu (nextPdu i) = DtmPdu.zero ∧
      ∀ s', s.step b (.radio ev) = .ok s' →
        s'.currentPdu = some (nextPdu i) ∧ s'.radio.packetPtr = some (nextPdu i) ∧
          s'.pdu i = DtmPdu.zero ∧ s'.pdu (nextPdu i) = DtmPdu.zero := by
  obtain ⟨i, hcur, hptr, hfresh⟩ := Device.Fresh.run (J := fun _ ↦ True) trivial
    (fun _ _ _ ↦ trivial) hrun hrx
  refine ⟨i, hcur, hptr, fun hends ↦ ?_, rfl, ?_, fun s' h ↦ ?_⟩
  · obtain ⟨j, hj, -, hempty⟩ := Device.Fresh.run (J := (· = DtmPdu.zero)) rfl
      (fun ev hev hnot ↦ by cases (hends ev hev).symm.trans hnot) hrun hrx
    cases hcur.symm.trans hj
    exact hempty.current
  · exact (radioDma_fresh b ev hrx hptr hfresh).next
  · exact radioIrq_ended hended hrx hcur hptr hfresh h

/-- A transmitter test of 37 octets, which fills a buffer, and then a receiver test in which one
packet has arrived. -/
def testsThenPacket : List Input :=
  [.call (.init .ready none), .call (.testTransmit 5 37 .prbs9), .call (.testEnd true),
    .call (.testReceive 0), .radio (.ofOctets (testPacket .prbs9 37))]

/-- After a transmitter test and a first packet, a second packet still finds its buffer empty, is
handed over against an empty one, and leaves both empty. -/
theorem reception_fresh_secondPacket :
    ∃ s i s', Fallible.run (Device.step (.nrf5340 true false)) Device.powerOn testsThenPacket =
        .ok s ∧
      s.step (.nrf5340 true false) (.radio (.ofOctets (testPacket .pkt0F 20))) = .ok s' ∧
      s.currentPdu = some i ∧ s.pdu i = DtmPdu.zero ∧
      (radioBufferSwap i (radioDma (.nrf5340 true false) (.ofOctets (testPacket .pkt0F 20)) s)).pdu
        (nextPdu i) = DtmPdu.zero ∧
      s'.pdu i = DtmPdu.zero ∧ s'.pdu (nextPdu i) = DtmPdu.zero := by
  obtain ⟨t, htx, htoff⟩ : ∃ t, dtmTestTransmit (.nrf5340 true false) 5 37 .prbs9 .nrf5340 =
      .ok (.ok, t) ∧ t.cteInfo.mode = .off := by
    obtain ⟨pdu, radio, anomalyTimer, timer, -, htx⟩ := dtmTestTransmit_modulated
      (b := .nrf5340 true false) (s := .nrf5340) 5 37 rfl
      (show resolvePacket .ble1Mbit .prbs9 ≠ .vendor by decide) (by decide) rfl
    exact ⟨_, htx, rfl⟩
  obtain ⟨radio, -, hrx⟩ := dtmTestReceive_legal (.nrf5340 true false)
    (dtmTestDone (.nrf5340 true false) t) (show (0 : UInt8).toNat ≤ physChMax by decide)
  generalize hr : receiveState _ _ _ _ = r at hrx
  have hoff : r.cteInfo.mode = .off := by
    rw [← hr]
    exact htoff
  have hstate : r.state = .receiverTest := by
    rw [← hr]
    rfl
  -- both packets are received, whatever the timers of the transmitter test have left
  obtain ⟨s', hs'⟩ := (Receiving.start hrx).run_ok (b := .nrf5340 true false) hoff
    [.ofOctets (testPacket .prbs9 37), .ofOctets (testPacket .pkt0F 20)]
    (by simp [RadioEvent.ofOctets])
  obtain ⟨s, hfirst, hrest⟩ := bind_eq_ok.1 hs'
  obtain ⟨u, hsecond, hu⟩ := bind_eq_ok.1 hrest
  cases hu
  have hrun : Fallible.run (Device.step (.nrf5340 true false)) Device.powerOn testsThenPacket =
      .ok s := by
    refine bind_eq_ok.2 ⟨.nrf5340, rfl, ?_⟩
    refine bind_eq_ok.2 ⟨t, bind_eq_ok.2 ⟨(.ok, t), htx, rfl⟩, ?_⟩
    refine bind_eq_ok.2 ⟨dtmTestDone (.nrf5340 true false) t, rfl, ?_⟩
    refine bind_eq_ok.2 ⟨r, bind_eq_ok.2 ⟨(.ok, r), hrx, rfl⟩, ?_⟩
    exact bind_eq_ok.2 ⟨s, hfirst, rfl⟩
  have hreceiving : s.state = .receiverTest :=
    (radioIrq_keepsSetup hfirst).state.trans hstate
  have hended : (RadioEvent.ofOctets (testPacket .pkt0F 20)).ended = true := rfl
  obtain ⟨i, hcur, -, hempty, -, hnext, hdone⟩ := reception_fresh hrun hreceiving hended
  obtain ⟨-, -, hi, hnext'⟩ := hdone s' hsecond
  exact ⟨s, i, s', hrun, hsecond, hcur, hempty (by simp [testsThenPacket, RadioEvent.ofOctets]),
    hnext, hi, hnext'⟩

end DirectTestMode
