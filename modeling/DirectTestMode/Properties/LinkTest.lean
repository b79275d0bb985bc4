import DirectTestMode.Dtm.Link
import DirectTestMode.Properties.Accounting
import DirectTestMode.Properties.Loopback

/-!
# The test of a link

What Direct Test Mode is for: a Transmitter Test on one device, a Receiver Test on another, and the
report of the receiver is the number of packets that arrived. `link_report` says so for two devices
in the same PHY without a constant tone extension, whatever the interrupts of the two, the packets
that arrive with a bad CRC, and their order.

The transmitter goes on sending one PDU (`Sending`), of which the receiver makes one entry each time
(`packetEntry_delivers`). Its books are those of `Accounts`.

## The two devices

`RadioLink` of `Dtm.Link` is the pair, and its steps are an interrupt of one of them or the delivery
of what the transmitter has on air. Nothing is assumed of the air but that: a packet may be lost,
which is no step at all, or spoiled, which is a packet with a bad CRC at the receiver. What cannot
happen in a link test is an intact packet from elsewhere, and no call is made while the test runs
(`LinkInput.isQuiet`).

The two builds are different variables on purpose. A tester and a device under test need not be the
same chip, and what they must have in common is only the PHY.

## What it rests on

* `Loopback` says which PDU a Transmitter Test builds, octet by octet (`PduHolds`), and that the
  check of a receiver with the same PHY takes it if the PHY admits its type.
* `Accounting` counts. The entry of an arriving packet is one and the same throughout, so the
  packets that arrive are counted all of them or none.
* `RadioLink.run_books` is the induction. It also shows that neither device stops, so that there is
  a report to speak of.
-/

namespace DirectTestMode

open Fallible

variable {bt br b : Build} {s s' : Device}

/-! ### The transmitter -/

/-- A Transmitter Test in progress, with the PDU that it sends. -/
structure Sending (sent : DtmPdu) (s : Device) : Prop where
  sending : s.state = .transmitterTest
  onAir : s.onAir = some sent
  count : s.rxPktCount = 0

/-- A modulated Transmitter Test sends the PDU of its payload type. -/
theorem Sending.start {channel length : UInt8} {pkt : DtmPacket}
    (h : dtmTestTransmit b channel length pkt s = .ok (.ok, s'))
    (hs' : s'.state = .transmitterTest) :
    ∃ sent type, Sending sent s' ∧ (resolvePacket s.radioMode pkt).pduType = some type ∧
      PduHolds type length (headerLen s.cteInfo.mode) sent := by
  obtain ⟨type, htype, hholds, -⟩ := dtmTestTransmit_holds h hs'
  have hv : resolvePacket s.radioMode pkt ≠ .vendor := by
    intro hv
    rw [hv] at htype
    cases htype
  have hptr := dtmTestTransmit_packetPtr hv h
  refine ⟨s'.pdu 0, type, ⟨hs', ?_, ?_⟩, htype, hholds⟩
  · rw [Device.onAir, hptr]
    rfl
  · generalize hx : (Ret.ok, s') = x at h
    cases dtmTestTransmit_ok h with
    | busy | channel | refused => cases hx
    | setting | carrier | modulated =>
      cases hx
      rfl

/-- No interrupt changes what is sent, and none stops the transmitter. -/
theorem Sending.step {sent : DtmPdu} (h : Sending sent s) {i : Input} (hirq : i.isIrq = true) :
    ∃ s', s.step b i = .ok s' ∧ Sending sent s' := by
  cases i with
  | call c => cases hirq
  | radio ev =>
    refine ⟨s, radioIrq_idle ev ?_, h⟩
    rw [h.sending]
    decide
  | anomaly ev =>
    refine ⟨_, rfl, ?_⟩
    split
    · rw [anomalyTimerHandler]
      simp only
      split
      · exact ⟨h.sending, h.onAir, h.count⟩
      · exact ⟨h.sending, h.onAir, h.count⟩
    · exact h

/-! ### The receiver -/

/-- **What the receiver makes of a packet**: it counts one of an admitted payload type. -/
theorem packetEntry_delivers (phy : DtmPhy) (hphy : phy.supported b = true) {r : Device}
    (hmode : r.radioMode = phy.radioMode) (hoff : r.cteInfo.mode = .off) {type : DtmPduType}
    {length : UInt8} {sent : DtmPdu} (hsent : PduHolds type length 2 sent) (ev : RadioEvent) :
    packetEntry b r (ev.delivers sent) =
      if type.code ≤ phy.lastPduType.code then .counted else .refused := by
  have hheader : headerLen r.cteInfo.mode = 2 := by
    rw [hoff]
    rfl
  have hreceived : PduHolds type length (headerLen r.cteInfo.mode) (ev.delivers sent).content := by
    rw [hheader]
    refine hsent.congr le_rfl fun i hi ↦ if_pos ?_
    rwa [hsent.lengthOctet]
  have hverdict : packetAccepted b r (ev.delivers sent) =
      decide (type.code ≤ phy.lastPduType.code) := by
    rw [packetAccepted, checkPdu_off phy hphy hmode hoff hreceived]
    simp [verdict, RadioEvent.delivers]
  rw [packetEntry, hverdict]
  by_cases hle : type.code ≤ phy.lastPduType.code
  · simp only [hle, decide_true, if_true]
  · simp only [hle, decide_false, if_false, RadioEvent.delivers, Bool.false_eq_true, if_true]

/-! ### The link -/

/-- Nothing but interrupts happens to the two devices, and no packet of another transmitter arrives
with a good CRC. -/
def LinkInput.isQuiet : LinkInput → Bool
  | .tx i => i.isIrq
  | .rx (.radio ev) => !(ev.ended && ev.crcOk)
  | .rx (.anomaly _) => true
  | .rx (.call _) => false
  | .deliver _ => true

def LinkInput.arrives : LinkInput → Bool
  | .deliver _ => true
  | .tx _ | .rx _ => false

/-- A packet arrives with a bad CRC. -/
def LinkInput.spoiled : LinkInput → Bool
  | .rx i => i.isEnd
  | .tx _ | .deliver _ => false

/-- What the receiver enters, if `entry` is what it makes of the PDU that is sent. -/
def LinkInput.entry (entry : PacketEntry) (i : LinkInput) : Option PacketEntry :=
  if i.arrives then some entry else if i.spoiled then some .crcError else none

/-- What arrives from elsewhere is spoiled, and entered as a CRC error. -/
theorem entry_badCrc {r₀ : Device} {ev : RadioEvent} (h : (ev.ended && ev.crcOk) = false) :
    (Input.radio ev).entry b r₀ = if ev.ended then some .crcError else none := by
  rw [Input.entry]
  cases hended : ev.ended with
  | false => rfl
  | true =>
    rw [hended, Bool.true_and] at h
    rw [packetEntry, packetAccepted, h]
    rfl

/-- **One step of the link** never stops, leaves the transmitter sending, and makes one entry. -/
theorem RadioLink.step_books {sent : DtmPdu} {r₀ : Device} {entry : PacketEntry}
    (hoff : r₀.cteInfo.mode = .off)
    (hentry : ∀ ev : RadioEvent, packetEntry br r₀ (ev.delivers sent) = entry)
    {entries : List PacketEntry} {l : RadioLink} (htx : Sending sent l.tx)
    (hrx : Accounts r₀ entries l.rx) {i : LinkInput} (hi : i.isQuiet = true) :
    ∃ l', l.step bt br i = .ok l' ∧ Sending sent l'.tx ∧
      Accounts r₀ (entries ++ (i.entry entry).toList) l'.rx := by
  -- an interrupt of the receiver makes the entry of its event
  have hirq (j : Input) (hj : j.isIrq = true) :
      ∃ r, l.rx.step br j = .ok r ∧ Accounts r₀ (entries ++ (j.entry br r₀).toList) r := by
    obtain ⟨r, hr⟩ := hrx.step_ok (b := br) hoff hj
    exact ⟨r, hr, hrx.step hj hr⟩
  cases i with
  | tx i =>
    obtain ⟨t, ht, hsending⟩ := htx.step (b := bt) hi
    refine ⟨{ l with tx := t }, bind_eq_ok.2 ⟨t, ht, rfl⟩, hsending, ?_⟩
    rw [LinkInput.entry, LinkInput.arrives, LinkInput.spoiled, if_neg (by decide),
      if_neg (by decide), Option.toList_none, List.append_nil]
    exact hrx
  | rx i =>
    have hsame : i.isIrq = true ∧ i.entry br r₀ = (LinkInput.rx i).entry entry := by
      cases i with
      | call c => cases hi
      | anomaly ev => exact ⟨rfl, rfl⟩
      | radio ev =>
        exact ⟨rfl, entry_badCrc ((Bool.not_eq_true' _).mp hi)⟩
    obtain ⟨r, hr, hbooks⟩ := hirq i hsame.1
    rw [hsame.2] at hbooks
    exact ⟨{ l with rx := r }, bind_eq_ok.2 ⟨r, hr, rfl⟩, htx, hbooks⟩
  | deliver ev =>
    obtain ⟨r, hr, hbooks⟩ := hirq (.radio (ev.delivers sent)) rfl
    -- what is on air is always the same PDU, so its entry does not depend on when it arrives
    have hsame : (Input.radio (ev.delivers sent)).entry br r₀ = some entry := by
      rw [← hentry ev]
      rfl
    rw [hsame] at hbooks
    refine ⟨{ l with rx := r }, ?_, htx, hbooks⟩
    rw [step, htx.onAir]
    exact bind_eq_ok.2 ⟨r, hr, rfl⟩

/-- **A run of the link**, by induction on its steps, with the PDU on air as the invariant. -/
theorem RadioLink.run_books {sent : DtmPdu} {r₀ : Device} {entry : PacketEntry}
    (hoff : r₀.cteInfo.mode = .off)
    (hentry : ∀ ev : RadioEvent, packetEntry br r₀ (ev.delivers sent) = entry)
    {is : List LinkInput} (his : ∀ i ∈ is, i.isQuiet = true) {entries : List PacketEntry}
    {l : RadioLink} (htx : Sending sent l.tx) (hrx : Accounts r₀ entries l.rx) :
    ∃ l', Fallible.run (RadioLink.step bt br) l is = .ok l' ∧ Sending sent l'.tx ∧
      Accounts r₀ (entries ++ is.filterMap (LinkInput.entry entry)) l'.rx := by
  induction is generalizing entries l with
  | nil =>
    refine ⟨l, rfl, htx, ?_⟩
    rwa [List.filterMap_nil, List.append_nil]
  | cons i is ih =>
    obtain ⟨k, hk, htx, hrx⟩ := step_books hoff hentry htx hrx (his i List.mem_cons_self)
    obtain ⟨l', hl', htx, hrx⟩ := ih (fun j hj ↦ his j (List.mem_cons_of_mem i hj)) htx hrx
    refine ⟨l', bind_eq_ok.2 ⟨k, hk, hl'⟩, htx, ?_⟩
    have hcons : (i.entry entry).toList ++ is.filterMap (LinkInput.entry entry) =
        (i :: is).filterMap (LinkInput.entry entry) := by
      rw [List.filterMap_cons]
      cases i.entry entry <;> rfl
    rwa [List.append_assoc, hcons] at hrx

/-- Two kinds of entries are made in a link test, one for arrivals and one for spoiled packets. -/
theorem count_entry (entry kind : PacketEntry) (is : List LinkInput) :
    (is.filterMap (LinkInput.entry entry)).count kind =
      (if entry = kind then is.countP LinkInput.arrives else 0) +
        if PacketEntry.crcError = kind then is.countP LinkInput.spoiled else 0 := by
  induction is with
  | nil =>
    rw [List.filterMap_nil, List.count_nil, List.countP_nil, List.countP_nil, ite_self, ite_self]
  | cons i is ih =>
    rw [List.countP_cons, List.countP_cons, List.filterMap_cons, LinkInput.entry]
    cases i with
    | tx i => exact ih
    | rx i =>
      cases hend : i.isEnd with
      | false =>
        simp only [LinkInput.arrives, LinkInput.spoiled, hend, Bool.false_eq_true, if_false,
          Nat.add_zero]
        exact ih
      | true =>
        simp only [LinkInput.arrives, LinkInput.spoiled, hend, Bool.false_eq_true, if_false,
          if_true, Nat.add_zero, List.count_cons, beq_iff_eq, ih]
        split_ifs <;> omega
    | deliver ev =>
      simp only [LinkInput.arrives, LinkInput.spoiled, Bool.false_eq_true, if_false, if_true,
        Nat.add_zero, List.count_cons, beq_iff_eq, ih]
      split_ifs <;> omega

/-- **The report of a link test.** A device sends test packets and another one receives them, in the
same PHY and without a constant tone extension. In every run of interrupts, arriving packets and
packets with a bad CRC, neither device stops, and at the end the receiver reports the packets that
have arrived, if its PHY admits their payload type, and none otherwise. The transmitter reports
none. -/
theorem link_report (phy : DtmPhy) (hphy : phy.supported br = true) {channel length : UInt8}
    {pkt : DtmPacket} {s t t' : Device} (hmode : s.radioMode = phy.radioMode)
    (hoff : s.cteInfo.mode = .off)
    (htx : dtmTestTransmit bt channel length pkt s = .ok (.ok, s'))
    (hs' : s'.state = .transmitterTest) (htmode : t.radioMode = phy.radioMode)
    (htoff : t.cteInfo.mode = .off) (hrx : dtmTestReceive br channel t = .ok (.ok, t'))
    {is : List LinkInput} (his : ∀ i ∈ is, i.isQuiet = true) :
    ∃ l type, Fallible.run (RadioLink.step bt br) ⟨s', t'⟩ is = .ok l ∧
      (resolvePacket phy.radioMode pkt).pduType = some type ∧
      (dtmTestEnd br true l.rx).1 =
        .ok (UInt16.ofNat (if type.code ≤ phy.lastPduType.code then is.countP LinkInput.arrives
          else 0)) ∧
      l.rx.crcErrorCount = UInt32.ofNat (is.countP LinkInput.spoiled) ∧
      (dtmTestEnd bt true l.tx).1 = .ok 0 := by
  -- the PDU of the transmitter is fixed when the test starts
  obtain ⟨sent, type, hsending, htype, hholds⟩ := Sending.start htx hs'
  rw [hmode] at htype
  rw [hoff] at hholds
  have hkeeps := dtmTestReceive_keepsSettings hrx
  have hoff' : t'.cteInfo.mode = .off := by
    rw [hkeeps.cteInfo, htoff]
  have hentry (ev : RadioEvent) := packetEntry_delivers phy hphy (hkeeps.radioMode.trans htmode)
    hoff' hholds ev
  obtain ⟨l, hl, hsent, hbooks⟩ := RadioLink.run_books (l := ⟨s', t'⟩) hoff' hentry his hsending
    (.start hrx)
  rw [List.nil_append] at hbooks
  refine ⟨l, type, hl, htype, ?_, ?_, ?_⟩
  · show Except.ok l.rx.rxPktCount = _
    rw [hbooks.count, count_entry]
    by_cases hle : type.code ≤ phy.lastPduType.code
    · simp [hle]
    · simp [hle]
  · rw [hbooks.errors, count_entry]
    by_cases hle : type.code ≤ phy.lastPduType.code
    · simp [hle]
    · simp [hle]
  · show Except.ok l.tx.rxPktCount = _
    rw [hsent.count]

/-- Two PRBS9 packets arrive, and one in between is spoiled. -/
theorem link_report_prbs9 :
    ∃ s' t' l, dtmTestTransmit (.nrf5340 true false) 7 37 .prbs9 .nrf5340 = .ok (.ok, s') ∧
      dtmTestReceive (.nrf5340 false false) 7 .nrf5340 = .ok (.ok, t') ∧
      Fallible.run (RadioLink.step (.nrf5340 true false) (.nrf5340 false false)) ⟨s', t'⟩
        [.deliver badCrcPacket, .rx (.radio badCrcPacket), .tx (.radio badCrcPacket),
          .deliver badCrcPacket] = .ok l ∧
      (dtmTestEnd (.nrf5340 false false) true l.rx).1 = .ok 2 ∧ l.rx.crcErrorCount = 1 := by
  obtain ⟨pdu, radio, anomalyTimer, timer, -, htx⟩ := dtmTestTransmit_modulated
    (b := .nrf5340 true false) (s := .nrf5340) 7 37 rfl
    (show resolvePacket .ble1Mbit .prbs9 ≠ .vendor by decide) (by decide) rfl
  obtain ⟨radio', -, hrx⟩ := dtmTestReceive_legal (.nrf5340 false false) .nrf5340
    (show (7 : UInt8).toNat ≤ physChMax by decide)
  let is : List LinkInput := [.deliver badCrcPacket, .rx (.radio badCrcPacket),
    .tx (.radio badCrcPacket), .deliver badCrcPacket]
  have his : ∀ i ∈ is, i.isQuiet = true := by
    simp [is, LinkInput.isQuiet, Input.isIrq, badCrcPacket]
  obtain ⟨l, type, hl, htype, hreport, herrors, -⟩ :=
    link_report .phy1m rfl rfl rfl htx rfl rfl rfl hrx his
  cases htype
  exact ⟨_, _, l, htx, hrx, hl, hreport, herrors⟩

end DirectTestMode
