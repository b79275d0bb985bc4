import DirectTestMode.Machine.Buffer
import DirectTestMode.Machine.Cbor
import DirectTestMode.Machine.Run
import DirectTestMode.Transport.HciUart

/-!
# HCI over two cores (`hci_uart_remote.c`, `remote_hci/src/main.c`)

On a two-core chip the UART belongs to the application core and DTM runs on the network core. A
packet from the UART goes to the network core as an event, `dtm_hci_put_remote` to
`dtm_hci_put_handler`, and a packet to the UART goes the other way as a command with a response,
`hci_uart_write` to `hci_uart_write_handler`. A message is a sequence of CBOR items in a buffer that
the sender allocates in advance.

## zcbor

zcbor is a parameter: `Zcbor.Lawful` says that decoding undoes encoding and how long the items are,
and `Zcbor.cbor` meets it. The lengths matter because the sender allocates before it encodes: the
allowance of ten and of twenty octets in the source is a claim about the headers of the items, and
`dtmHciPutRemote_ok` and `hciUartWrite_eq` show that it is enough for every packet.

nRF RPC hands a message to the decoder at the other end once, so here a message is what one side
returns and the other takes.

## User data

A buffer for the network core has a user data area of as many octets as its pool declares, and the
handler writes the packet type there. `tx_buf` declares none. So the size is a parameter of the
buffers, the results say what happens for each size, and the one of the source is an instance: with
no place for the type, the handler writes outside the buffer for every packet
(`dtmHciPutHandler_fault`).

## The way back

In the other direction nothing is lost: the handler calls the UART with what it was sent
(`hciUartWriteHandler_eq`), and the error code comes back as it was returned
(`rspErrorCodeHandle_put`).
-/

namespace DirectTestMode

open Fallible

/-! ### The encoder -/

/-- The functions of zcbor that the two cores call. A decoder also returns what follows the item. -/
structure Zcbor where
  uintEncode : UInt8 → List UInt8
  bstrEncode : List UInt8 → List UInt8
  int32Put : Int32 → List UInt8
  uintDecode : List UInt8 → Option (UInt8 × List UInt8)
  bstrDecode : List UInt8 → Option (List UInt8 × List UInt8)
  int32Decode : List UInt8 → Option (Int32 × List UInt8)

/-- What is assumed of zcbor. A length is a `size_t`, of 32 bits on both cores. -/
structure Zcbor.Lawful (z : Zcbor) : Prop where
  uint (v : UInt8) (rest : List UInt8) : z.uintDecode (z.uintEncode v ++ rest) = some (v, rest)
  bstr (s : List UInt8) (hs : s.length < 2 ^ 32) (rest : List UInt8) :
    z.bstrDecode (z.bstrEncode s ++ rest) = some (s, rest)
  int32 (v : Int32) (rest : List UInt8) : z.int32Decode (z.int32Put v ++ rest) = some (v, rest)
  length_uint (v : UInt8) : (z.uintEncode v).length = Cbor.headerLen v.toNat
  length_bstr (s : List UInt8) (hs : s.length < 2 ^ 32) :
    (z.bstrEncode s).length = Cbor.headerLen s.length + s.length
  length_int32 (v : Int32) :
    (z.int32Put v).length =
      Cbor.headerLen (if 0 ≤ v.toInt then v.toInt.toNat else (-1 - v.toInt).toNat)

/-- A decoder fails on a number that its target does not hold. -/
def narrowUint8 (x : ℕ × List UInt8) : Option (UInt8 × List UInt8) :=
  if x.1 < 2 ^ 8 then some (UInt8.ofNat x.1, x.2) else none

/-- Likewise for a signed number. -/
def narrowInt32 (x : ℤ × List UInt8) : Option (Int32 × List UInt8) :=
  if -2 ^ 31 ≤ x.1 ∧ x.1 < 2 ^ 31 then some (Int32.ofInt x.1, x.2) else none

/-- The shortest CBOR encoding. -/
def Zcbor.cbor : Zcbor where
  uintEncode v := Cbor.uint v.toNat
  bstrEncode := Cbor.bstr
  int32Put v := Cbor.int v.toInt
  uintDecode bs := (Cbor.readUint bs).bind narrowUint8
  bstrDecode := Cbor.readBstr
  int32Decode bs := (Cbor.readInt bs).bind narrowInt32

/-- **The shortest encoding is lawful**, so the assumptions on zcbor can be met. -/
theorem Zcbor.cbor_lawful : Zcbor.cbor.Lawful where
  uint v rest := by
    have hv : v.toNat < 2 ^ 8 := v.toNat_lt
    have hread := Cbor.readUint_uint (n := v.toNat) (by omega) rest
    calc Zcbor.cbor.uintDecode (Zcbor.cbor.uintEncode v ++ rest)
        = narrowUint8 (v.toNat, rest) := congrArg (Option.bind · narrowUint8) hread
      _ = some (v, rest) := by rw [narrowUint8, if_pos hv, UInt8.ofNat_toNat]
  bstr s hs rest := Cbor.readBstr_bstr (by omega) rest
  int32 v rest := by
    have hlow : -2 ^ 31 ≤ v.toInt := Int32.le_toInt v
    have hhigh : v.toInt < 2 ^ 31 := Int32.toInt_lt v
    have hread := Cbor.readInt_int (i := v.toInt) (by omega) rest
    calc Zcbor.cbor.int32Decode (Zcbor.cbor.int32Put v ++ rest)
        = narrowInt32 (v.toInt, rest) := congrArg (Option.bind · narrowInt32) hread
      _ = some (v, rest) := by rw [narrowInt32, if_pos ⟨hlow, hhigh⟩, Int32.ofInt_toInt]
  length_uint v := Cbor.length_uint v.toNat
  length_bstr s _ := Cbor.length_bstr s
  length_int32 v := Cbor.length_int v.toInt

namespace RemoteHci

open HciUart (NetBuf)

/-- What stops a core. -/
inductive RpcFault
  /-- The assertion behind the label `error_exit`. -/
  | errorExit
  /-- An access outside a buffer or through a null pointer. -/
  | bounds
  deriving DecidableEq

/-- `NRF_RPC_CBOR_ALLOC`: a message of at most `size` octets, and what is in it so far. -/
structure RpcCtx where
  size : ℕ
  payload : List UInt8

/-- An empty message. -/
def RpcCtx.alloc (size : ℕ) : RpcCtx := ⟨size, []⟩

/-- Encode an item. An item that does not fit makes the caller go to `error_exit`. -/
def RpcCtx.encode (ctx : RpcCtx) (item : List UInt8) : Except RpcFault RpcCtx :=
  if ctx.payload.length + item.length ≤ ctx.size then
    .ok { ctx with payload := ctx.payload ++ item }
  else .error .errorExit

/-- The item that the decoder has found, or `error_exit`. -/
def decoded {α : Type} : Option α → Except RpcFault α
  | some x => .ok x
  | none => .error .errorExit

variable (z : Zcbor)

/-! ### From the UART to DTM -/

/-- A buffer of a pool that declares `ud` octets of user data. -/
structure RpcBuf (ud : ℕ) where
  userData : Buffer ud UInt8
  data : List UInt8

/-- The user data size in the definition of `tx_buf`. -/
def txBufUserDataSize : ℕ := 0

/-- On the application core. -/
def dtmHciPutRemote (buf : NetBuf) : Except RpcFault (List UInt8) := do
  let ctx ← (RpcCtx.alloc (10 + buf.len)).encode (z.uintEncode buf.userData)
  let ctx ← ctx.encode (z.bstrEncode buf.bytes)
  pure ctx.payload

variable {ud : ℕ}

/-- On the network core, with the free buffers of its pool, each for `queueSize` octets. The result
is the buffer for the callback. -/
def dtmHciPutHandler (queueSize : ℕ) (msg : List UInt8) (free : List (RpcBuf ud)) :
    Except RpcFault (RpcBuf ud × List (RpcBuf ud)) := do
  let type ← decoded (z.uintDecode msg)
  let tmp ← decoded (z.bstrDecode type.2)
  match free with
  -- `net_buf_alloc` is asked not to wait, and its result is not checked
  | [] => .error .bounds
  | buf :: free =>
    if queueSize < tmp.1.length then .error .bounds
    else
      match buf.userData.memcpy 0 [type.1] 1 with
      | some userData => .ok (⟨userData, tmp.1⟩, free)
      | none => .error .bounds

/-- The packet type as `dtm_tr_process` reads it. -/
def RpcBuf.type (buf : RpcBuf ud) : Option UInt8 := (buf.userData.slice 0 1).bind List.head?

/-- `dtm_tr_process` on a buffer of the callback. -/
def dtmTrProcess (buf : RpcBuf ud) : Except RpcFault (Prog transport Ret) :=
  match buf.type with
  | some type => .ok (Hci.dtmTrProcess type fun i ↦ buf.data.getD i 0)
  | none => .error .bounds

/-! ### From DTM to the UART -/

variable {σ : Type}

/-- The response with the result. -/
def rspErrorCodeSend (errCode : Int32) : Except RpcFault (List UInt8) := do
  let ctx ← (RpcCtx.alloc 5).encode (z.int32Put errCode)
  pure ctx.payload

/-- `-NRF_EINVAL`. -/
def nrfEinval : Int32 := -22

/-- What the network core makes of a response; one that cannot be decoded is an error of its own. -/
def rspErrorCodeHandle (rsp : List UInt8) : Int32 :=
  match z.int32Decode rsp with
  | some (val, _) => val
  | none => nrfEinval

/-- On the application core, where `write` is the `hci_uart_write` of the UART. -/
def hciUartWriteHandler (write : UInt8 → List UInt8 → List UInt8 → σ → Int32 × σ)
    (msg : List UInt8) (s : σ) : Except RpcFault (List UInt8 × σ) := do
  let type ← decoded (z.uintDecode msg)
  let hdr ← decoded (z.bstrDecode type.2)
  let pld ← decoded (z.bstrDecode hdr.2)
  let x := write type.1 hdr.1 pld.1 s
  let rsp ← rspErrorCodeSend z x.1
  pure (rsp, x.2)

/-- On the network core, where `handler` answers the command. -/
def hciUartWrite (handler : List UInt8 → σ → Except RpcFault (List UInt8 × σ)) (type : UInt8)
    (hdr pld : List UInt8) (s : σ) : Except RpcFault (Int32 × σ) := do
  let ctx ← (RpcCtx.alloc (20 + (hdr.length + pld.length))).encode (z.uintEncode type)
  let ctx ← ctx.encode (z.bstrEncode hdr)
  let ctx ← ctx.encode (z.bstrEncode pld)
  let x ← handler ctx.payload s
  pure (rspErrorCodeHandle z x.1, x.2)

/-! ### The messages -/

variable {z}

theorem RpcCtx.encode_ok {ctx : RpcCtx} {item : List UInt8}
    (h : ctx.payload.length + item.length ≤ ctx.size) :
    ctx.encode item = .ok ⟨ctx.size, ctx.payload ++ item⟩ :=
  if_pos h

/-- **A packet fits its message**: the ten octets of allowance are enough for the type and the
header of the string, whatever the length of the packet. -/
theorem dtmHciPutRemote_ok (hz : z.Lawful) {buf : NetBuf} (hbuf : buf.len < 2 ^ 32) :
    dtmHciPutRemote z buf = .ok (z.uintEncode buf.userData ++ z.bstrEncode buf.bytes) := by
  have htype := Cbor.headerLen_octet buf.userData.toNat_lt
  have hbytes := Cbor.headerLen_word hbuf
  have hlen := hz.length_uint buf.userData
  have hstr := hz.length_bstr buf.bytes (by rwa [NetBuf.length_bytes])
  rw [NetBuf.length_bytes] at hstr
  rw [dtmHciPutRemote, RpcCtx.alloc, RpcCtx.encode_ok, ok_bind, RpcCtx.encode_ok, ok_bind]
  · rfl
  · simp only [List.nil_append]
    omega
  · simp only [List.length_nil]
    omega

/-- An error code always fits in five octets. -/
theorem rspErrorCodeSend_ok (hz : z.Lawful) (errCode : Int32) :
    rspErrorCodeSend z errCode = .ok (z.int32Put errCode) := by
  have hlow : -2 ^ 31 ≤ errCode.toInt := Int32.le_toInt errCode
  have hhigh : errCode.toInt < 2 ^ 31 := Int32.toInt_lt errCode
  have hlen := hz.length_int32 errCode
  have hcode := Cbor.headerLen_word
    (n := if 0 ≤ errCode.toInt then errCode.toInt.toNat else (-1 - errCode.toInt).toNat)
    (by split <;> omega)
  rw [rspErrorCodeSend, RpcCtx.alloc, RpcCtx.encode_ok, ok_bind]
  · rfl
  · simp only [List.length_nil]
    omega

/-- An error code is read back as it was sent. -/
theorem rspErrorCodeHandle_put (hz : z.Lawful) (errCode : Int32) :
    rspErrorCodeHandle z (z.int32Put errCode) = errCode := by
  rw [rspErrorCodeHandle, ← List.append_nil (z.int32Put errCode), hz.int32]

/-- **A write on the network core** sends one message with the three items and returns what comes
back. The twenty octets of allowance are enough for the type and the headers of the strings. -/
theorem hciUartWrite_eq (hz : z.Lawful)
    (handler : List UInt8 → σ → Except RpcFault (List UInt8 × σ)) (type : UInt8)
    {hdr pld : List UInt8} (hhdr : hdr.length < 2 ^ 32) (hpld : pld.length < 2 ^ 32) (s : σ) :
    hciUartWrite z handler type hdr pld s =
      handler (z.uintEncode type ++ (z.bstrEncode hdr ++ z.bstrEncode pld)) s >>= fun x ↦
        .ok (rspErrorCodeHandle z x.1, x.2) := by
  have htype := Cbor.headerLen_octet type.toNat_lt
  have hheader := Cbor.headerLen_word hhdr
  have hpayload := Cbor.headerLen_word hpld
  have hlen := hz.length_uint type
  have hlen' := hz.length_bstr hdr hhdr
  have hlen'' := hz.length_bstr pld hpld
  rw [hciUartWrite, RpcCtx.alloc, RpcCtx.encode_ok, ok_bind, RpcCtx.encode_ok, ok_bind,
    RpcCtx.encode_ok, ok_bind]
  · simp only [List.nil_append, List.append_assoc]
    rfl
  · simp only [List.nil_append, List.length_append]
    omega
  · simp only [List.nil_append]
    omega
  · simp only [List.length_nil]
    omega

/-- **The handler calls the UART with what it was sent.** -/
theorem hciUartWriteHandler_eq (hz : z.Lawful)
    (write : UInt8 → List UInt8 → List UInt8 → σ → Int32 × σ) (type : UInt8)
    {hdr pld : List UInt8} (hhdr : hdr.length < 2 ^ 32) (hpld : pld.length < 2 ^ 32) (s : σ) :
    hciUartWriteHandler z write (z.uintEncode type ++ (z.bstrEncode hdr ++ z.bstrEncode pld)) s =
      .ok (z.int32Put (write type hdr pld s).1, (write type hdr pld s).2) := by
  have hlast := hz.bstr pld hpld []
  rw [List.append_nil] at hlast
  rw [hciUartWriteHandler, hz.uint, decoded, ok_bind, hz.bstr hdr hhdr, decoded, ok_bind, hlast,
    decoded, ok_bind]
  dsimp only
  rw [rspErrorCodeSend_ok hz, ok_bind, pure_eq_ok]

/-- **What the handler makes of a packet**: the same octets, and the type if there is a place
for it. -/
theorem dtmHciPutHandler_eq (hz : z.Lawful) {queueSize : ℕ} (type : UInt8) {packet : List UInt8}
    (hpacket : packet.length < 2 ^ 32) (hsize : packet.length ≤ queueSize) (buf : RpcBuf ud)
    (free : List (RpcBuf ud)) :
    dtmHciPutHandler z queueSize (z.uintEncode type ++ z.bstrEncode packet) (buf :: free) =
      if h : 0 < ud then .ok (⟨Function.update buf.userData ⟨0, h⟩ type, packet⟩, free)
      else .error .bounds := by
  have hlast := hz.bstr packet hpacket []
  rw [List.append_nil] at hlast
  rw [dtmHciPutHandler, hz.uint, decoded, ok_bind, hlast, decoded, ok_bind]
  dsimp only
  rw [if_neg (by omega), Buffer.memcpy_singleton]
  by_cases h : 0 < ud
  · rw [dif_pos h, dif_pos h]
  · rw [dif_neg h, dif_neg h]

/-- **A pool without user data has no place for the type**, so no packet gets through. -/
theorem dtmHciPutHandler_fault (queueSize : ℕ) (msg : List UInt8)
    (free : List (RpcBuf txBufUserDataSize)) (x : RpcBuf txBufUserDataSize × List (RpcBuf _)) :
    dtmHciPutHandler z queueSize msg free ≠ .ok x := by
  rw [dtmHciPutHandler]
  rcases decoded (z.uintDecode msg) with e | type
  · rintro ⟨⟩
  rw [ok_bind]
  rcases decoded (z.bstrDecode type.2) with e | tmp
  · rintro ⟨⟩
  rw [ok_bind]
  rcases free with - | ⟨buf, free⟩
  · rintro ⟨⟩
  · dsimp only
    rw [Buffer.memcpy_singleton, dif_neg (show ¬ 0 < txBufUserDataSize from lt_irrefl 0)]
    split <;> rintro ⟨⟩

end RemoteHci

end DirectTestMode
