import DirectTestMode.Dtm.Receive

/-!
# Counting received packets

What a run of `END` interrupts does to the packet counter.

The verdict of `check_pdu` depends on the settings only (`checkPdu_verdict_congr`), and no interrupt
changes them, so the number of counted packets is a number of events. That is the whole argument,
and it makes the count of a run a `countP` over its events by a predicate that is fixed when the
test starts.

`Receiving` is the invariant of a running reception: the settings are those it started with, the
radio writes to the current buffer, and the counter is the number of counted packets, as far as
sixteen bits hold it. The clause about the buffer is what ties the packet in the air to the buffer
that is checked: without it the radio could write to one and the handler look at the other.
`Receiving.step` is the step lemma and `Receiving.run` the run.

The runs here are of `END` events and nothing else, and they are stated for a device that does come
to an end. That it does, where no constant tone extension is on, is `Receiving.run_ok`; with one on,
the assertions of the IQ report can stop it.
-/

namespace DirectTestMode

open Fallible

variable {b : Build} {ev : RadioEvent}

/-! ### The verdict -/

/-- The verdict of a check, without the device it leaves behind. -/
def verdict (r : Except Fault (Bool × Device)) : Except Fault Bool := r >>= fun x ↦ .ok x.1

/-- The settings that the checks read are the same. -/
structure SameChecks (s t : Device) : Prop where
  radioMode : t.radioMode = s.radioMode
  cteInfo : t.cteInfo = { s.cteInfo with data := t.cteInfo.data }

theorem KeepsSetup.sameChecks {s t : Device} (h : KeepsSetup s t) : SameChecks s t :=
  ⟨h.radioMode, h.cteInfo⟩

theorem SameChecks.trans {s t u : Device} (h : SameChecks s t) (h' : SameChecks t u) :
    SameChecks s u where
  radioMode := h'.radioMode.trans h.radioMode
  cteInfo := by
    rw [h'.cteInfo, h.cteInfo]

/-- With the same settings a report is made in both devices or in neither, and a failed assertion
is the same one. -/
theorem reportIqTo_congr (b : Build) (ev : RadioEvent) {s t : Device} (h : SameChecks s t) :
    (∃ e, reportIqTo b ev s = .error e ∧ reportIqTo b ev t = .error e) ∨
    (∃ u v, reportIqTo b ev s = .ok u ∧ reportIqTo b ev t = .ok v) := by
  have htype : iqReportType t.cteInfo = iqReportType s.cteInfo := by
    rw [h.cteInfo]
    rfl
  have hslot : iqReportSlot t.cteInfo = iqReportSlot s.cteInfo := by
    rw [h.cteInfo]
    rfl
  have hcb : t.cteInfo.iqRepCb = s.cteInfo.iqRepCb := by
    rw [h.cteInfo]
  unfold reportIqTo
  rw [hcb]
  rcases s.cteInfo.iqRepCb with - | cb
  · exact .inr ⟨_, _, rfl, rfl⟩
  · simp only [reportIq, htype, hslot]
    rcases iqReportType s.cteInfo with e | type
    · exact .inl ⟨e, rfl, rfl⟩
    · rcases iqReportSlot s.cteInfo with e | slot
      · exact .inl ⟨e, rfl, rfl⟩
      · exact .inr ⟨_, _, rfl, rfl⟩

/-- The CTE check reads the settings and the event. The sample memory it clears is not read. -/
theorem checkCte_verdict_congr {s t : Device} (h : SameChecks s t) (pdu : DtmPdu) :
    verdict (checkCte b ev pdu t) = verdict (checkCte b ev pdu s) := by
  have hmode : t.cteInfo.mode = s.cteInfo.mode := by
    rw [h.cteInfo]
  unfold checkCte
  rw [hmode]
  split
  · rcases reportIqTo_congr b ev h with ⟨e, hs, ht⟩ | ⟨u, v, hs, ht⟩
    · rw [hs, ht]
    · have hu : u.cteInfo = s.cteInfo := by
        rw [reportIqTo_ok hs]
      have hv : v.cteInfo = t.cteInfo := by
        rw [reportIqTo_ok ht]
      rw [hs, ht, ok_bind, ok_bind]
      simp only [hu, hv]
      rw [h.cteInfo]
      rfl
  · rfl

/-- **The verdict depends on the settings only.** -/
theorem checkPdu_verdict_congr {s t : Device} (h : SameChecks s t) (pdu : DtmPdu) :
    verdict (checkPdu b ev pdu t) = verdict (checkPdu b ev pdu s) := by
  have hmode : t.cteInfo.mode = s.cteInfo.mode := by
    rw [h.cteInfo]
  unfold checkPdu
  simp only [h.radioMode]
  split_ifs
  · rfl
  · rfl
  · rcases DtmPduType.ofCode (pdu 0 &&& 0x0F) with - | type
    · rfl
    · simp only [checkPayload, hmode]
      rcases type.reference with src | octet
      · simp only
        rcases inBounds (pdu.slice (headerLen s.cteInfo.mode) (pdu 1).toNat) with e | payload
        · rfl
        · rcases inBounds (Buffer.firstOf src (pdu 1).toNat) with e | expected <;> rfl
      · simp only
        rcases inBounds (pdu.slice 2 (pdu 1).toNat) with e | octets
        · rfl
        · simp only [ok_bind]
          split
          · exact checkCte_verdict_congr h pdu
          · rfl

/-- The event is a packet with a good CRC and a PDU that `check_pdu` accepts. -/
def packetAccepted (b : Build) (s : Device) (ev : RadioEvent) : Bool :=
  ev.crcOk && decide (verdict (checkPdu b ev ev.content s) = .ok true)

/-! ### One event -/

/-- The counter after an event is one higher when the packet is accepted. -/
theorem receivedPdu_count {received : Fin 2} {s s' : Device}
    (hpdu : s.pdu received = ev.content) (h : receivedPdu b ev received s = .ok s') :
    s'.rxPktCount = s.rxPktCount + (if packetAccepted b s ev then 1 else 0) := by
  obtain ⟨⟨pduOk, t⟩, ht, h⟩ := bind_eq_ok.1 h
  cases h
  have ht : checkReceived b ev (s.pdu received) (radioRestart b received s) = .ok (pduOk, t) := ht
  have hsame : SameChecks s (radioRestart b received s) := ⟨rfl, rfl⟩
  show (countPacket ev.crcOk pduOk t).rxPktCount = _
  rw [hpdu] at ht
  rw [checkReceived] at ht
  rw [packetAccepted, countPacket]
  cases hcrc : ev.crcOk with
  | true =>
    rw [hcrc, if_pos rfl] at ht
    have hverdict : verdict (checkPdu b ev ev.content s) = .ok pduOk := by
      rw [← checkPdu_verdict_congr hsame, ht]
      rfl
    have hcount : t.rxPktCount = s.rxPktCount := by
      rw [show t = _ from checkPdu_ok ht]
      rfl
    rw [hverdict]
    cases pduOk with
    | true => simp [hcount]
    | false => simp [hcount]
  -- a packet with a bad CRC is counted by the other counter
  | false =>
    rw [hcrc, if_neg (by decide)] at ht
    have hcount : t.rxPktCount = s.rxPktCount := by
      rw [← (Prod.mk.inj (Except.ok.inj ht)).2]
      rfl
    simp [hcount]

/-- The buffer that `radio_buffer_swap` takes next. -/
def nextPdu (i : Fin 2) : Fin 2 := if i = 0 then 1 else 0

/-- The radio goes on with the other buffer. -/
theorem receivedPdu_next {i : Fin 2} {s s' : Device} (h : receivedPdu b ev i s = .ok s') :
    s'.currentPdu = some (nextPdu i) ∧ s'.radio.packetPtr = some (nextPdu i) := by
  rw [receivedPdu_ok h]
  exact ⟨rfl, radioStart_packetPtr b true false _⟩

/-- A running reception that started in `s₀` and has accepted `n` packets. -/
structure Receiving (s₀ : Device) (n : ℕ) (s : Device) : Prop where
  receiving : s.state = .receiverTest
  checks : SameChecks s₀ s
  buffer : ∃ i, s.currentPdu = some i ∧ s.radio.packetPtr = some i
  count : s.rxPktCount = UInt16.ofNat n

/-- The anomaly timer has no part in it. -/
theorem Receiving.anomalyTimer {s₀ s : Device} {n : ℕ} (h : Receiving s₀ n s)
    (timer : AnomalyTimer) : Receiving s₀ n { s with anomalyTimer := timer } :=
  ⟨h.receiving, ⟨h.checks.radioMode, h.checks.cteInfo⟩, h.buffer, h.count⟩

/-- The radio writes to its buffer and nowhere else. -/
theorem radioDma_pointers (b : Build) (ev : RadioEvent) (s : Device) :
    (radioDma b ev s).currentPdu = s.currentPdu ∧ (radioDma b ev s).radio = s.radio ∧
      (radioDma b ev s).rxPktCount = s.rxPktCount := by
  rw [radioDma]
  split <;> exact ⟨rfl, rfl, rfl⟩

/-- The radio's writes: the reception goes on, and the current buffer holds what arrived. -/
theorem Receiving.dma {s₀ s : Device} {n : ℕ} (h : Receiving s₀ n s) (b : Build)
    (ev : RadioEvent) :
    Receiving s₀ n (radioDma b ev s) ∧
      ∀ i, s.currentPdu = some i → (radioDma b ev s).pdu i = ev.content := by
  have hkeeps := radioDma_keepsSetup b ev s
  obtain ⟨hcurrent, hradio, hcount⟩ := radioDma_pointers b ev s
  refine ⟨⟨hkeeps.state.trans h.receiving, h.checks.trans hkeeps.sameChecks, ?_,
    hcount.trans h.count⟩, fun i hi ↦ ?_⟩
  · rw [hcurrent, hradio]
    exact h.buffer
  -- the radio writes to the buffer at its pointer, which is the current one
  · obtain ⟨j, hcur, hptr⟩ := h.buffer
    cases hcur.symm.trans hi
    rw [radioDma, if_pos h.receiving]
    exact if_pos hptr

theorem packetAccepted_congr {s t : Device} (h : SameChecks s t) :
    packetAccepted b t ev = packetAccepted b s ev := by
  rw [packetAccepted, packetAccepted, checkPdu_verdict_congr h]

/-- An `END` event of a reception is one on its current buffer, whatever happened to the anomaly
timer before. -/
theorem radioIrq_receiving {s : Device} {i : Fin 2} (hended : ev.ended = true)
    (hrx : s.state = .receiverTest) (hcur : s.currentPdu = some i) :
    ∃ timer, radioIrq b ev s =
      receivedPdu b ev i { radioDma b ev s with anomalyTimer := timer } >>= fun t ↦
        .ok (if ev.ready then anomalyTimerSet b true t else t) := by
  have hbefore : ∃ timer, (if ev.address then anomalyTimerSet b false (radioDma b ev s)
      else radioDma b ev s) = { radioDma b ev s with anomalyTimer := timer } := by
    split
    · exact ⟨_, anomalyTimerSet_eq b false _⟩
    · exact ⟨(radioDma b ev s).anomalyTimer, rfl⟩
  obtain ⟨timer, htimer⟩ := hbefore
  have hstate : (radioDma b ev s).state = .receiverTest :=
    (radioDma_keepsSetup b ev s).state.trans hrx
  have hcurrent : (radioDma b ev s).currentPdu = some i :=
    (radioDma_pointers b ev s).1.trans hcur
  refine ⟨timer, ?_⟩
  rw [radioIrq, radioHandler, htimer, radioHandlerEnd, if_pos hended, onRadioEndEvent,
    if_neg (not_not.2 hstate)]
  simp only [hcurrent, pure_eq_ok]

/-- The buffer of the event holds what was received. -/
theorem Receiving.enter {s₀ s : Device} {n : ℕ} (h : Receiving s₀ n s)
    (hended : ev.ended = true) :
    ∃ t i, Receiving s₀ n t ∧ t.pdu i = ev.content ∧
      radioIrq b ev s = receivedPdu b ev i t >>= fun t ↦
        .ok (if ev.ready then anomalyTimerSet b true t else t) := by
  obtain ⟨hdma, hcontent⟩ := h.dma b ev
  obtain ⟨i, hcur, -⟩ := h.buffer
  obtain ⟨timer, heq⟩ := radioIrq_receiving (b := b) hended h.receiving hcur
  exact ⟨_, i, hdma.anomalyTimer timer, hcontent i hcur, heq⟩

/-- **One `END` event** counts its packet when it is accepted. -/
theorem Receiving.step {s₀ s s' : Device} {n : ℕ} (h : Receiving s₀ n s) (hended : ev.ended = true)
    (hs' : radioIrq b ev s = .ok s') :
    Receiving s₀ (n + if packetAccepted b s₀ ev then 1 else 0) s' := by
  obtain ⟨t, i, ht, hcontent, heq⟩ := h.enter (b := b) hended
  obtain ⟨u, hu, hs'⟩ := bind_eq_ok.1 (heq.symm.trans hs')
  have hkeeps := receivedPdu_keepsSetup hu
  have hcount : Receiving s₀ (n + if packetAccepted b s₀ ev then 1 else 0) u := by
    refine ⟨hkeeps.state.trans ht.receiving, ht.checks.trans hkeeps.sameChecks,
      ⟨_, receivedPdu_next hu⟩, ?_⟩
    rw [receivedPdu_count hcontent hu, ht.count, packetAccepted_congr ht.checks]
    split <;> simp
  cases hs'
  by_cases hready : ev.ready = true
  · rw [if_pos hready, anomalyTimerSet_eq]
    exact hcount.anomalyTimer _
  · rw [if_neg hready]
    exact hcount

/-! ### A run of events -/

/-- **The counter of a reception** after any run of `END` events. -/
theorem Receiving.run {s₀ : Device} {evs : List RadioEvent} (hended : ∀ ev ∈ evs, ev.ended = true)
    {n : ℕ} {s s' : Device} (h : Receiving s₀ n s)
    (hs' : Fallible.run (fun s ev ↦ radioIrq b ev s) s evs = .ok s') :
    Receiving s₀ (n + evs.countP (packetAccepted b s₀)) s' := by
  induction evs generalizing n s with
  | nil =>
    cases hs'
    exact h
  | cons ev evs ih =>
    obtain ⟨t, ht, hs'⟩ := bind_eq_ok.1 hs'
    -- the count so far is carried through the induction
    have hstep := h.step (hended ev (by simp)) ht
    have hrun := ih (fun ev hev ↦ hended ev (by simp [hev])) hstep hs'
    rw [List.countP_cons]
    convert hrun using 1
    omega

/-- An accepted Receiver Test starts with no packet counted. -/
theorem Receiving.start {channel : UInt8} {s s₀ : Device}
    (h : dtmTestReceive b channel s = .ok (.ok, s₀)) : Receiving s₀ 0 s₀ := by
  rcases Nat.lt_or_ge physChMax channel.toNat with hc | hc
  · cases (dtmTestReceive_illegal b s hc).symm.trans h
  · obtain ⟨radio, hptr, heq⟩ := dtmTestReceive_legal b s hc
    cases heq.symm.trans h
    exact ⟨rfl, ⟨rfl, rfl⟩, ⟨0, rfl, hptr⟩, rfl⟩

/-! ### A reception without a constant tone extension never stops -/

/-- Without an extension the check comes to an end: the slices lie inside the buffer and nothing
is reported. -/
theorem checkPdu_off_ok {s : Device} (hoff : s.cteInfo.mode = .off) (pdu : DtmPdu) :
    ∃ x, checkPdu b ev pdu s = .ok x := by
  have hlength : (pdu 1).toNat ≤ 255 := Nat.le_of_lt_succ (pdu 1).toNat_lt
  unfold checkPdu
  simp only
  split_ifs
  · exact ⟨_, rfl⟩
  · exact ⟨_, rfl⟩
  · split
    · exact ⟨_, rfl⟩
    · rename_i type _
      have hslice {off : ℕ} (hoff : off ≤ 3) : ∃ l, pdu.slice off (pdu 1).toNat = some l :=
        ⟨_, Buffer.slice_eq _ (by omega)⟩
      unfold checkPayload
      rcases hreference : type.reference with src | octet
      · obtain ⟨payload, hpayload⟩ := hslice (headerLen_le s.cteInfo.mode)
        simp only
        rw [hpayload, Buffer.firstOf_eq (length_reference hreference (pdu 1))]
        exact ⟨_, rfl⟩
      · obtain ⟨octets, hoctets⟩ := hslice (show 2 ≤ 3 by decide)
        simp only
        rw [hoctets, inBounds_some, ok_bind]
        split
        · rw [checkCte, hoff, if_neg (by simp)]
          exact ⟨_, rfl⟩
        · exact ⟨_, rfl⟩

/-- Without an extension every run of `END` events comes to an end. -/
theorem Receiving.run_ok {s₀ : Device} (hoff : s₀.cteInfo.mode = .off) (evs : List RadioEvent)
    (hended : ∀ ev ∈ evs, ev.ended = true) {n : ℕ} {s : Device} (h : Receiving s₀ n s) :
    ∃ s', Fallible.run (fun s ev ↦ radioIrq b ev s) s evs = .ok s' := by
  induction evs generalizing n s with
  | nil => exact ⟨s, rfl⟩
  | cons ev evs ih =>
    have hev : ev.ended = true := hended ev (by simp)
    obtain ⟨t, i, ht, -, heq⟩ := h.enter (b := b) hev
    have hmode : (radioRestart b i t).cteInfo.mode = .off := by
      show t.cteInfo.mode = .off
      rw [ht.checks.cteInfo]
      exact hoff
    obtain ⟨x, hx⟩ : ∃ x, checkReceived b ev ((radioRestart b i t).pdu i) (radioRestart b i t) =
        .ok x := by
      rw [checkReceived]
      split
      · exact checkPdu_off_ok hmode _
      · exact ⟨_, rfl⟩
    have hok : ∃ s', radioIrq b ev s = .ok s' := by
      rw [heq, receivedPdu, hx]
      exact ⟨_, rfl⟩
    obtain ⟨s', hs'⟩ := hok
    obtain ⟨s'', hs''⟩ := ih (fun ev hev ↦ hended ev (by simp [hev])) (h.step hev hs')
    exact ⟨s'', bind_eq_ok.2 ⟨s', hs', hs''⟩⟩

end DirectTestMode
