import DirectTestMode.Dtm.Invariant

/-!
# The channel

`radio_frequency_get` asserts that its channel is legal. The assertion is reached from the start of
a test, from the initialisation of the radio when the power control is automatic, and from a power
request. `api_onChannel` says what keeps it: on a device whose channel is legal, every call that
carries a legal channel, or none, raises no such fault and leaves the channel legal.

`dtm_test_transmit` stores its channel before it looks at it (`dtmTestTransmit_physCh`), so a call
that carries an illegal one and is refused still breaks what the next calls rely on. This is why the
condition of `api_onChannel` is about the channel a call carries and not about the call being
accepted: an accepted call is not the only one that leaves a mark.

The exact statements stand next to the safe one. `dtmTestTransmit_error` says when a transmit call
stops the device, and `dtmSetupSetPhy_ok_iff` when a change of PHY is accepted; both are
equivalences, since the results above them say for which runs the firmware is safe and not only that
some are.
-/

namespace DirectTestMode

open Fallible

/-- The device is in use and its channel is legal. -/
structure Device.OnChannel (s : Device) : Prop where
  timerInit : s.timerInit = true
  physCh : s.physCh.toNat ≤ physChMax

/-- The octet that the radio functions are given is the channel. -/
theorem Device.OnChannel.octet {s : Device} (hs : s.OnChannel) :
    s.physCh.toUInt8.toNat ≤ physChMax := by
  rw [UInt32.toNat_toUInt8]
  exact (Nat.mod_le _ _).trans hs.physCh

theorem Initialised.onChannel {b : Build} {s : Device} (h : Initialised b s) : s.OnChannel := by
  obtain ⟨env, callback, h⟩ := h
  obtain ⟨radio, rfl⟩ := dtmInit_ok h
  exact ⟨rfl, Nat.zero_le _⟩

/-! ### The channel of a transmitter test -/

/-- **The channel is stored whether or not the test is refused**, unless another one is running. -/
theorem dtmTestTransmit_physCh {b : Build} {channel length : UInt8} {pkt : DtmPacket} {s : Device}
    {x : Ret × Device} (hs : s.state = .idle)
    (h : dtmTestTransmit b channel length pkt s = .ok x) : x.2.physCh = channel.toUInt32 := by
  cases dtmTestTransmit_ok h with
  | busy hbusy => exact absurd hs hbusy
  | channel | setting | refused | carrier | modulated => rfl

/-- **A transmitter test stops the device exactly as a carrier test on an illegal channel.** -/
theorem dtmTestTransmit_error {b : Build} {channel length : UInt8} {pkt : DtmPacket} {s : Device}
    {e : Fault} :
    dtmTestTransmit b channel length pkt s = .error e ↔
      .channel = e ∧ s.state = .idle ∧ resolvePacket s.radioMode pkt = .vendor ∧
        carrierLength length = true ∧ physChMax < channel.toNat := by
  have hchannel : (channel.toUInt32.toUInt8).toNat = channel.toNat := by
    rw [UInt8.toUInt8_toUInt32]
  have hresult := dtmTestTransmit_result b channel length pkt s
  generalize dtmTestTransmit b channel length pkt s = r at hresult ⊢
  cases hresult with
  | busy hbusy => simp [hbusy]
  | channel hs hv hc => simp [hv]
  | vendor hs hv =>
    cases hl : carrierLength length with
    | false =>
      obtain ⟨ret, txpower, fem, -, heq⟩ := dtmVendorSpecificPkt_setting b channel.toUInt32
        (transmitState channel length pkt s) hl
      simp [heq]
    | true =>
      rw [dtmVendorSpecificPkt_carrier b _ _ hl, carrierTest_error]
      show _ ∧ physChMax < (channel.toUInt32.toUInt8).toNat ↔ _
      rw [hchannel]
      simp [hs, hv]
  | modulated hs hv hc pdu hpdu =>
    rw [modulatedTest_error (toNat_toUInt32_le length)]
    show _ ∧ physChMax < (channel.toUInt32.toUInt8).toNat ↔ _
    rw [hchannel]
    simp [hv, hc]

/-! ### Power requests -/

/-- The search for a level has one assertion. -/
theorem dtmRadioNearestPowerGet_error {b : Build} {txPower : Int8} {frequency : UInt16} {e : Fault}
    (h : dtmRadioNearestPowerGet b txPower frequency = .error e) : e = .nearestPower := by
  unfold dtmRadioNearestPowerGet nearestPowerOf at h
  simp only at h
  split_ifs at h
  cases h
  rfl

/-- On a legal channel a power request meets the assertion of the search only. -/
theorem dtmSetupSetTransmitPower_error {b : Build} {power : DtmTxPowerRequest} {val : Int8}
    {channel : UInt8} {s : Device} (hc : channel.toNat ≤ physChMax) {e : Fault}
    (h : dtmSetupSetTransmitPower b power val channel s = .error e) : e = .nearestPower := by
  rw [dtmSetupSetTransmitPower, radioFrequencyGet_ok hc, ok_bind] at h
  rcases bind_eq_error.1 h with h | ⟨level, -, h⟩
  · unfold txPowerRequested at h
    simp only at h
    split at h
    · cases h
    · cases h
    · split_ifs at h
      rcases bind_eq_error.1 h with h | ⟨level, -, h⟩
      · exact dtmRadioNearestPowerGet_error h
      · cases h
  · cases h

/-! ### Calls -/

/-- The channel a call carries to the radio is legal. A receiver test checks its own. -/
def Call.LegalChannel : Call → Prop
  | .testTransmit channel _ _ => channel.toNat ≤ physChMax
  | .setupSetTransmitPower _ _ channel => channel.toNat ≤ physChMax
  | _ => True

/-- **When a change to a supported PHY stops the device**: under automatic power control, with an
illegal channel left behind. -/
theorem dtmSetupSetPhy_error_iff {b : Build} {phy : DtmPhy} (hphy : phy.supported b = true)
    {s : Device} {e : Fault} :
    dtmSetupSetPhy b phy s = .error e ↔
      .channel = e ∧ b.powerControlAutomatic = true ∧ physChMax < s.physCh.toUInt8.toNat := by
  have hinit {t : Device} {e191 e172 e117 : Bool} (ht : t.physCh = s.physCh) :
      radioInit b (errataHandle b e191 e172 e117 t) = .error e ↔
        .channel = e ∧ b.powerControlAutomatic = true ∧ physChMax < s.physCh.toUInt8.toNat := by
    rw [radioInit_error, (errataHandle_keepsTest b _ _ _ _).physCh, ht]
  cases phy with
  | phy1m | phy2m => exact hinit rfl
  | codedS8 | codedS2 =>
    rw [dtmSetupSetPhy, if_pos (show b.hasBleCoded = true from hphy)]
    exact hinit rfl

theorem dtmSetupSetPhy_error {b : Build} {phy : DtmPhy} {s : Device} {e : Fault}
    (h : dtmSetupSetPhy b phy s = .error e) : physChMax < s.physCh.toUInt8.toNat := by
  cases hphy : phy.supported b with
  | true => exact ((dtmSetupSetPhy_error_iff hphy).1 h).2.2
  | false =>
    cases phy with
    | phy1m | phy2m => cases hphy
    | codedS8 | codedS2 =>
      rw [dtmSetupSetPhy, show b.hasBleCoded = false from hphy] at h
      cases h

/-- **A PHY is set exactly when it is accepted** and the automatic power control is not left with an
illegal channel. -/
theorem dtmSetupSetPhy_ok_iff {b : Build} {phy : DtmPhy} {s : Device} :
    (∃ s', dtmSetupSetPhy b phy s = .ok (.ok, s')) ↔
      dtmPhyAccepted b s.txpower phy = true ∧
        ¬ (b.powerControlAutomatic = true ∧ physChMax < s.physCh.toUInt8.toNat) := by
  constructor
  · rintro ⟨s', h⟩
    have haccepted := (dtmSetupSetPhy_ret h).1.1 rfl
    refine ⟨haccepted, fun hfault ↦ ?_⟩
    rw [dtmPhyAccepted, Bool.and_eq_true] at haccepted
    cases ((dtmSetupSetPhy_error_iff haccepted.1).2 ⟨rfl, hfault⟩).symm.trans h
  · rintro ⟨haccepted, hlegal⟩
    rcases hx : dtmSetupSetPhy b phy s with e | ⟨r, s'⟩
    · rw [dtmPhyAccepted, Bool.and_eq_true] at haccepted
      exact absurd ((dtmSetupSetPhy_error_iff haccepted.1).1 hx).2 hlegal
    · cases (dtmSetupSetPhy_ret hx).1.2 haccepted
      exact ⟨s', rfl⟩

/-- **On a legal channel, legal calls stay on one** and never fail the assertion on it. -/
theorem api_onChannel {b : Build} {c : Call} {s : Device} (hs : s.OnChannel)
    (hc : c.LegalChannel) :
    api b c s ≠ .error .channel ∧ ∀ x, api b c s = .ok x → x.2.OnChannel := by
  have hoctet : ¬ physChMax < s.physCh.toUInt8.toNat := Nat.not_lt.2 hs.octet
  refine ⟨fun h ↦ ?_, fun x h ↦ ⟨api_timerInit hs.timerInit h, ?_⟩⟩
  -- only these calls ask for a frequency
  · cases c with
    | init env callback =>
      obtain ⟨e, he⟩ := dtmInit_again b env callback hs.timerInit
      cases he.symm.trans h
    | setupReset => exact hoctet (dtmSetupReset_error.1 h).2.2
    | setupSetPhy phy => exact hoctet (dtmSetupSetPhy_error h)
    | setupSetTransmitPower power val channel => cases dtmSetupSetTransmitPower_error hc h
    | testReceive channel =>
      rcases Nat.lt_or_ge physChMax channel.toNat with hc | hc
      · cases (dtmTestReceive_illegal b s hc).symm.trans h
      · obtain ⟨radio, -, heq⟩ := dtmTestReceive_legal b s hc
        cases heq.symm.trans h
    | testTransmit channel length pkt =>
      exact absurd (dtmTestTransmit_error.1 h).2.2.2.2 (Nat.not_lt.2 hc)
    | setupPrepare | setupSetModulation | setupReadFeatures | setupReadMaxSupportedValue
    | setupSetCteMode | setupSetCteSlot | setupSetAntennaParams | testEnd => cases h
  -- and only the two starts of a test store a channel
  · cases hsetup : c.isSetup with
    | true =>
      rw [(api_keepsTest (fun _ _ _ ↦ hs.timerInit) hsetup h).physCh]
      exact hs.physCh
    | false =>
      cases c with
      | setupPrepare =>
        cases h
        exact hs.physCh
      | testReceive channel =>
        rcases Nat.lt_or_ge physChMax channel.toNat with hc | hc
        · cases (dtmTestReceive_illegal b s hc).symm.trans h
          exact hs.physCh
        · obtain ⟨radio, -, heq⟩ := dtmTestReceive_legal b s hc
          cases heq.symm.trans h
          show channel.toUInt32.toNat ≤ physChMax
          rwa [UInt8.toNat_toUInt32]
      | testTransmit channel length pkt =>
        by_cases hidle : s.state = .idle
        · rw [dtmTestTransmit_physCh hidle h, UInt8.toNat_toUInt32]
          exact hc
        · cases (if_pos hidle : dtmTestTransmit b channel length pkt s = _).symm.trans h
          exact hs.physCh
      | testEnd packCnt =>
        cases h
        cases packCnt <;> exact hs.physCh
      | init | setupReset | setupSetPhy | setupSetModulation | setupReadFeatures
      | setupReadMaxSupportedValue | setupSetCteMode | setupSetCteSlot | setupSetAntennaParams
      | setupSetTransmitPower => cases hsetup

end DirectTestMode
