import DirectTestMode.Transport.RemoteHci

/-!
# HCI split over two cores

Whether DTM on the network core sees the UART as if it were on its own core.

A packet for the UART goes through (`WriteTransparent`), and in both directions every message fits
in what its sender allocated for it. A packet from the UART arrives with the same octets, but its
type is stored in a user data area that `tx_buf` does not have: `split_transparent` says that the
network core never gets the packet with its type (`PutTransparent`), and that one octet of user
data, which `hci_rx_buf` does declare, is all that it takes.

* The pool's user data size is a parameter of the model, `RpcBuf ud`, so that the defect can be
  stated as an equivalence: a packet is put through exactly if there is a place for its type. The
  repository's own size is the instance zero, `txBufUserDataSize`.
* The encoder is a library that is not part of the repository. `Zcbor.Lawful` says what it
  documents, that what was encoded is decoded as itself and how much room it takes; every result
  here is for any encoder with these laws, and the witness has CBOR itself.
* `WriteTransparent` quantifies over what is behind the call, a function with a state, because the
  remote procedure returns the result of `hci_uart_write` and must not change it.

Nothing of the order of messages is in this module. It is about one packet; a stream of them is in
`Properties.RemoteStream`.
-/

namespace DirectTestMode.RemoteHci

open Fallible
open HciUart (NetBuf)

variable {z : Zcbor} {ud : ℕ}

/-- The callback on the network core gets the packet: the same octets, and its type where
`dtm_tr_process` looks for it, inside the user data area. -/
def PutTransparent (z : Zcbor) (queueSize : ℕ) (buf : NetBuf) (free : List (RpcBuf ud)) : Prop :=
  ∃ msg out, dtmHciPutRemote z buf = .ok msg ∧ dtmHciPutHandler z queueSize msg free = .ok out ∧
    out.1.data = buf.bytes ∧ out.1.type = some buf.userData ∧
    dtmTrProcess out.1 =
      .ok (Hci.dtmTrProcess buf.userData fun i ↦ buf.bytes.getD i 0)

/-- A call on the network core is a call of the UART, whatever that does. -/
def WriteTransparent (z : Zcbor) (type : UInt8) (hdr pld : List UInt8) : Prop :=
  ∀ (σ : Type) (write : UInt8 → List UInt8 → List UInt8 → σ → Int32 × σ) (s : σ),
    hciUartWrite z (hciUartWriteHandler z write) type hdr pld s = .ok (write type hdr pld s)

/-- What is stored in the first octet of user data is read back. -/
theorem type_update (buf : RpcBuf ud) (h : 0 < ud) (type : UInt8) (data : List UInt8) :
    RpcBuf.type (⟨Function.update buf.userData ⟨0, h⟩ type, data⟩ : RpcBuf ud) = some type := by
  rw [RpcBuf.type, Buffer.slice_eq _ (by omega)]
  simp

/-- A packet arrives exactly if the pool has a place for its type. -/
theorem putTransparent_iff (hz : z.Lawful) {queueSize : ℕ} {buf : NetBuf}
    (hbuf : buf.len < 2 ^ 32) (hsize : buf.len ≤ queueSize) {free : List (RpcBuf ud)}
    (hfree : free ≠ []) : PutTransparent z queueSize buf free ↔ 0 < ud := by
  have hbytes : buf.bytes.length = buf.len := buf.length_bytes
  obtain ⟨first, rest, rfl⟩ := List.exists_cons_of_ne_nil hfree
  have hhandler := dtmHciPutHandler_eq hz buf.userData (hbytes ▸ hbuf) (hbytes ▸ hsize) first rest
  constructor
  · rintro ⟨msg, out, hmsg, hout, -⟩
    rw [dtmHciPutRemote_ok hz hbuf] at hmsg
    cases hmsg
    rw [hhandler] at hout
    by_contra h
    rw [dif_neg h] at hout
    cases hout
  · intro h
    rw [dif_pos h] at hhandler
    have htype := type_update first h buf.userData buf.bytes
    refine ⟨_, _, dtmHciPutRemote_ok hz hbuf, hhandler, rfl, htype, ?_⟩
    rw [dtmTrProcess, htype]

/-- **A packet for the UART goes through.** -/
theorem writeTransparent (hz : z.Lawful) (type : UInt8) {hdr pld : List UInt8}
    (hhdr : hdr.length < 2 ^ 32) (hpld : pld.length < 2 ^ 32) :
    WriteTransparent z type hdr pld := by
  intro σ write s
  rw [hciUartWrite_eq hz _ type hhdr hpld, hciUartWriteHandler_eq hz write type hhdr hpld, ok_bind]
  dsimp only
  rw [rspErrorCodeHandle_put hz]

/-- **The split.** No packet from the UART arrives with its type, whatever the free buffers of
`tx_buf` are, since it declares no user data; with a pool that does, every packet would. All
messages fit, and a packet for the UART goes through with its result. -/
theorem split_transparent (z : Zcbor) (hz : z.Lawful) (queueSize : ℕ) (hqueue : queueSize < 2 ^ 32)
    (buf : NetBuf) (hsize : buf.len ≤ queueSize) (type : UInt8) (hdr pld : List UInt8)
    (hhdr : hdr.length < 2 ^ 32) (hpld : pld.length < 2 ^ 32) :
    (∀ free : List (RpcBuf txBufUserDataSize), ¬ PutTransparent z queueSize buf free) ∧
      (∀ (ud : ℕ) (free : List (RpcBuf ud)), free ≠ [] →
        (PutTransparent z queueSize buf free ↔ 0 < ud)) ∧
      (∃ msg, dtmHciPutRemote z buf = .ok msg) ∧ WriteTransparent z type hdr pld := by
  have hbuf : buf.len < 2 ^ 32 := by omega
  refine ⟨fun free ↦ ?_, fun ud free hfree ↦ putTransparent_iff hz hbuf hsize hfree,
    ⟨_, dtmHciPutRemote_ok hz hbuf⟩, writeTransparent hz type hhdr hpld⟩
  rintro ⟨msg, out, -, hout, -⟩
  exact dtmHciPutHandler_fault queueSize msg free out hout

/-- An HCI reset as the H4 parser leaves it. -/
def resetBuf : NetBuf where
  userData := 0x01
  mem k := [0x03, 0x0C, 0x00].getD k 0
  len := 3

/-- The event that answers a reset. -/
theorem split_transparent_reset :
    (∀ free : List (RpcBuf txBufUserDataSize), ¬ PutTransparent Zcbor.cbor 1024 resetBuf free) ∧
      (∀ (ud : ℕ) (free : List (RpcBuf ud)), free ≠ [] →
        (PutTransparent Zcbor.cbor 1024 resetBuf free ↔ 0 < ud)) ∧
      (∃ msg, dtmHciPutRemote Zcbor.cbor resetBuf = .ok msg) ∧
      WriteTransparent Zcbor.cbor 0x04 [0x0E, 0x04] [0x01, 0x03, 0x0C, 0x00] :=
  split_transparent Zcbor.cbor Zcbor.cbor_lawful 1024 (by decide) resetBuf (by decide) 0x04
    [0x0E, 0x04] [0x01, 0x03, 0x0C, 0x00] (by decide) (by decide)

/-- An HCI reset does not reach DTM with its type. -/
theorem reset_not_transparent :
    ¬ (PutTransparent Zcbor.cbor 1024 resetBuf
          [(⟨fun i ↦ i.elim0, []⟩ : RpcBuf txBufUserDataSize)] ∧
        WriteTransparent Zcbor.cbor 0x04 [0x0E, 0x04] [0x01, 0x03, 0x0C, 0x00]) := by
  rintro ⟨⟨msg, out, -, hout, -⟩, -⟩
  exact dtmHciPutHandler_fault 1024 msg _ out hout

end DirectTestMode.RemoteHci
