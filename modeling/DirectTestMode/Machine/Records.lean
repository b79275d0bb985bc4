import Mathlib.Data.Nat.Init
import DirectTestMode.Machine.Run

/-!
# Streams of records

A `RecordReader` says where the first record of a stream ends. Two things are asked of it: it reads
something, and what it has found stays found when more of the stream arrives. From these, `read`
takes a whole stream apart into its records and a remainder that no record begins to end in.

Neither the format nor the receiver appears here. A receiver that keeps the unread remainder and
nothing else is right for any cutting of the stream, and that is a fact about readers, not about
receivers.

## The rules

* `read_append`: a stream that arrives in two parts is the first part, and then its remainder with
  the second part. So a receiver has to keep the remainder and nothing else.
* `read_encode` and `read_flatMap_encode`: what a sender has encoded is read back, whatever follows.
* `Reads` is one stretch of a receiver's work; `Reads.trans` joins two of them and `run_reads` is
  the rule for the runs of a machine.
* `RecordReader.induction` is the induction along the records, with one case for the end of the
  stream and one for a record or an octet that is skipped.

## Formats

A `Framing` is a format of records that begin with a type and a header that tells their length.
`Framing.reader` is its reader; that the payload size depends on the header alone (`congr`) is what
makes it one, since more of the stream must not change a size that has been read.
`reader_wellFormed` is what a record of it is known to be. `wordReader` reads words of two octets.
-/

universe u v w z

/-- Where the first record of a stream ends. There may be none yet, and what ends there may be no
record but something to skip. -/
structure RecordReader (α : Type u) (β : Type v) where
  /-- The first record, or something to skip, and what is behind it; `none` as long as it is not
  complete. -/
  next : List α → Option (Option β × List α)
  /-- Something is read, so that reading ends. -/
  progress : ∀ {stream r rest}, next stream = some (r, rest) → rest.length < stream.length
  /-- What has been found stays found when more of the stream arrives. -/
  extend : ∀ {stream r rest} (more : List α), next stream = some (r, rest) →
    next (stream ++ more) = some (r, rest ++ more)

namespace RecordReader

variable {α : Type u} {β : Type v} (R : RecordReader α β)

/-- The records of a stream, and what is left after the last of them. The recursion is on the
length of the stream, which `progress` says goes down. -/
def read (stream : List α) : List β × List α :=
  match _h : R.next stream with
  | none => ([], stream)
  | some (r, rest) => (r.toList ++ (read rest).1, (read rest).2)
termination_by stream.length
decreasing_by all_goals exact R.progress _h

variable {R}

/-- **Induction along the records.** -/
theorem induction {P : List α → Prop} (stop : ∀ stream, R.next stream = none → P stream)
    (step : ∀ stream r rest, R.next stream = some (r, rest) → P rest → P stream)
    (stream : List α) : P stream := by
  induction hlen : stream.length using Nat.strong_induction_on generalizing stream with
  | h len ih =>
    rcases hnext : R.next stream with - | ⟨r, rest⟩
    · exact stop stream hnext
    · refine step stream r rest hnext (ih _ ?_ rest rfl)
      rw [← hlen]
      exact R.progress hnext

/-- A stream in which no record ends is left as it is. -/
theorem read_none {stream : List α} (h : R.next stream = none) : R.read stream = ([], stream) := by
  rw [read]
  split
  · rfl
  · rename_i hsome
    cases h.symm.trans hsome

/-- One record, and then the rest of the stream. -/
theorem read_some {stream rest : List α} {r : Option β} (h : R.next stream = some (r, rest)) :
    R.read stream = (r.toList ++ (R.read rest).1, (R.read rest).2) := by
  rw [read]
  split
  · rename_i hnone
    cases h.symm.trans hnone
  · rename_i r' rest' hsome
    cases h.symm.trans hsome
    rfl

/-- **A stream in two parts.** What the first part leaves unread is read together with the second
part. The induction is along the records of the first part, and `extend` is what each of its
steps rests on. -/
theorem read_append (stream more : List α) :
    R.read (stream ++ more) =
      ((R.read stream).1 ++ (R.read ((R.read stream).2 ++ more)).1,
        (R.read ((R.read stream).2 ++ more)).2) := by
  induction stream using RecordReader.induction (R := R) with
  | stop stream h => rw [read_none h, List.nil_append]
  | step stream r rest h ih =>
    rw [read_some (R.extend more h), read_some h, ih]
    simp only [List.append_assoc]

/-! ### What a sender encodes -/

/-- A record whose encoding is read back. -/
theorem read_encode {stream : List α} {x : β} (h : R.next stream = some (some x, []))
    (more : List α) : R.read (stream ++ more) = (x :: (R.read more).1, (R.read more).2) := by
  rw [read_some (R.extend more h), List.nil_append]
  rfl

/-- **The round trip**, by induction on the records. -/
theorem read_flatMap_encode {encode : β → List α} {xs : List β}
    (h : ∀ x ∈ xs, R.next (encode x) = some (some x, [])) (more : List α) :
    R.read (xs.flatMap encode ++ more) = (xs ++ (R.read more).1, (R.read more).2) := by
  induction xs with
  | nil => rfl
  | cons x xs ih =>
    rw [List.flatMap_cons, List.append_assoc, read_encode (h x List.mem_cons_self),
      ih fun y hy ↦ h y (List.mem_cons_of_mem x hy)]
    rfl

/-! ### Receivers -/

variable (R)

/-- With `pending` in store, the input completes the records `out` and leaves `pending'`. It is
stated with the store in front of the input, so that it does not say how a receiver keeps what it
has in store. -/
def Reads (pending input : List α) (out : List β) (pending' : List α) : Prop :=
  R.read (pending ++ input) = (out, pending')

variable {R}

/-- Without input nothing is completed, if nothing was complete before. -/
theorem Reads.nil {pending : List α} (h : R.next pending = none) :
    R.Reads pending [] [] pending := by
  rw [Reads, List.append_nil]
  exact read_none h

/-- **One stretch after the other.** -/
theorem Reads.trans {pending input pending' input' pending'' : List α}
    {xs xs' : List β} (h : R.Reads pending input xs pending')
    (h' : R.Reads pending' input' xs' pending'') :
    R.Reads pending (input ++ input') (xs ++ xs') pending'' := by
  rw [Reads] at h h' ⊢
  rw [← List.append_assoc, read_append, h, h']

variable {σ : Type w} {ι : Type z} {ε : Type z} {step : σ → ι → Except ε σ} {I : σ → Prop}

/-- **The rule for runs.** If each step of a machine reads its input from where it stands, and adds
what it completes to what is out, so does a run. -/
theorem run_reads (pending : σ → List α) (out : σ → List β) (octets : ι → List α)
    (hready : ∀ s, I s → R.next (pending s) = none)
    (hstep : ∀ s i s', I s → step s i = .ok s' →
      I s' ∧ ∃ xs, out s' = out s ++ xs ∧ R.Reads (pending s) (octets i) xs (pending s'))
    {s s' : σ} {is : List ι} (hI : I s) (h : Fallible.run step s is = .ok s') :
    I s' ∧ ∃ xs, out s' = out s ++ xs ∧
      R.Reads (pending s) (is.flatMap octets) xs (pending s') := by
  induction is generalizing s with
  | nil =>
    cases h
    exact ⟨hI, [], (List.append_nil _).symm, Reads.nil (hready _ hI)⟩
  | cons i is ih =>
    obtain ⟨t, ht, h⟩ := Fallible.bind_eq_ok.1 h
    obtain ⟨hIt, xs, hout, hreads⟩ := hstep s i t hI ht
    obtain ⟨hI', ys, hout', hreads'⟩ := ih hIt h
    refine ⟨hI', xs ++ ys, ?_, ?_⟩
    · rw [hout', hout, List.append_assoc]
    · rw [List.flatMap_cons]
      exact hreads.trans hreads'

end RecordReader

/-! ### Records with a header -/

/-- A format of packets: an octet for the type, a header whose size goes with the type, and a
payload whose size is read from the header. Octets that are no type are skipped. -/
structure Framing where
  /-- The octets that are a type. -/
  accepts : UInt8 → Bool
  /-- The size of the header that goes with a type. -/
  hdrLen : UInt8 → ℕ
  /-- The size of the payload, read from the header. -/
  pldLen : UInt8 → (ℕ → UInt8) → ℕ
  /-- Only the header is read for it. -/
  congr : ∀ {type hdr hdr'}, (∀ k, k < hdrLen type → hdr k = hdr' k) →
    pldLen type hdr = pldLen type hdr'

namespace Framing

variable (F : Framing)

/-- The size of a packet after its type, as its header tells. -/
def len (type : UInt8) (content : List UInt8) : ℕ :=
  F.hdrLen type + F.pldLen type (content.getD · 0)

/-- The first packet of a stream: its type and its octets, or an octet to skip. -/
def next (stream : List UInt8) : Option (Option (UInt8 × List UInt8) × List UInt8) :=
  match stream with
  | [] => none
  | type :: rest =>
    if F.accepts type then
      if rest.length < F.hdrLen type then none
      else if rest.length < F.len type rest then none
      else some (some (type, rest.take (F.len type rest)), rest.drop (F.len type rest))
    else some (none, rest)

variable {F} {type : UInt8} {rest content : List UInt8}

/-- **The size of a packet is read from the header that it begins with**, so what arrives later
does not change it. -/
theorem len_append (h : F.hdrLen type ≤ rest.length) (more : List UInt8) :
    F.len type (rest ++ more) = F.len type rest := by
  refine congrArg (F.hdrLen type + ·) (F.congr fun k hk ↦ ?_)
  have hk : k < rest.length := by omega
  simp only [List.getD_eq_getElem?_getD, List.getElem?_append_left hk]

/-- So the packet alone tells the same. -/
theorem len_take (h : F.hdrLen type ≤ rest.length) :
    F.len type (rest.take (F.len type rest)) = F.len type rest := by
  have hheader : F.hdrLen type ≤ (rest.take (F.len type rest)).length := by
    rw [List.length_take]
    exact Nat.le_min.2 ⟨Nat.le_add_right _ _, h⟩
  calc F.len type (rest.take (F.len type rest))
      = F.len type (rest.take (F.len type rest) ++ rest.drop (F.len type rest)) :=
        (len_append hheader _).symm
    _ = F.len type rest := by rw [List.take_append_drop]

/-- An octet that is no type is skipped, and the one behind it is looked at. -/
theorem next_skip (h : F.accepts type = false) : F.next (type :: rest) = some (none, rest) := by
  rw [next, if_neg (by simp [h])]

/-- An incomplete header ends nothing. -/
theorem next_header (h : F.accepts type = true) (hlen : rest.length < F.hdrLen type) :
    F.next (type :: rest) = none := by
  rw [next, if_pos h, if_pos hlen]

/-- A complete header with an incomplete payload ends nothing either. -/
theorem next_payload (h : F.accepts type = true) (hheader : F.hdrLen type ≤ rest.length)
    (hlen : rest.length < F.len type rest) : F.next (type :: rest) = none := by
  rw [next, if_pos h, if_neg (Nat.not_lt.2 hheader), if_pos hlen]

/-- A packet that is as long as its header tells is read as one. -/
theorem next_packet (h : F.accepts type = true) (hlen : content.length = F.len type content) :
    F.next (type :: content) = some (some (type, content), []) := by
  have hheader : F.hdrLen type ≤ F.len type content := Nat.le_add_right _ _
  rw [next, if_pos h, if_neg (by omega), if_neg (by omega), ← hlen, List.take_length,
    List.drop_length]

variable (F)

/-- The packets of a stream. Both laws of a reader come from the cases of `next`: it drops at
least the octet it has looked at, and each of its tests has the same answer with more octets
behind. -/
def reader : RecordReader UInt8 (UInt8 × List UInt8) where
  next := F.next
  progress := by
    intro stream r rest h
    cases stream with
    | nil => cases h
    | cons type stream =>
      rw [next] at h
      split_ifs at h
      · cases h
        rw [List.length_drop, List.length_cons]
        omega
      · cases h
        exact Nat.lt_succ_self _
  extend := by
    intro stream r rest more h
    cases stream with
    | nil => cases h
    | cons type stream =>
      rw [List.cons_append]
      rw [next] at h ⊢
      split_ifs at h with htype hheader hlen
      · cases h
        rw [if_pos htype, len_append (by omega), List.length_append, if_neg (by omega),
          if_neg (by omega), List.take_append_of_le_length (by omega),
          List.drop_append_of_le_length (by omega)]
      · cases h
        rw [if_neg htype]

variable {F}

/-- An empty stream has no packets. -/
@[simp] theorem read_nil : F.reader.read [] = ([], []) := RecordReader.read_none rfl

/-- **What is read is well-formed**: of a type that is accepted, and as long as its header tells. -/
theorem reader_wellFormed (stream : List UInt8) :
    ∀ p ∈ (F.reader.read stream).1, F.accepts p.1 = true ∧ p.2.length = F.len p.1 p.2 := by
  induction stream using RecordReader.induction (R := F.reader) with
  | stop stream hnext =>
    rw [RecordReader.read_none hnext]
    exact fun p hp ↦ absurd hp List.not_mem_nil
  | step stream r rest hnext ih =>
    rw [RecordReader.read_some hnext]
    intro p hp
    rcases List.mem_append.1 hp with hmem | hmem
    · cases stream with
      | nil => cases hnext
      | cons type stream =>
        have hnext : F.next (type :: stream) = some (r, rest) := hnext
        rw [next] at hnext
        split_ifs at hnext with htype hheader hlen
        · cases hnext
          rw [List.mem_singleton.1 hmem]
          refine ⟨htype, ?_⟩
          rw [len_take (Nat.le_of_not_lt hheader)]
          exact List.length_take_of_le (Nat.le_of_not_lt hlen)
        · cases hnext
          exact absurd hmem List.not_mem_nil
    · exact ih p hmem

/-- A stream without a packet, and without the beginning of one, has nothing but octets to skip. -/
theorem skipped_of_read_nil {stream : List UInt8} (h : F.reader.read stream = ([], [])) :
    ∀ b ∈ stream, F.accepts b = false := by
  induction stream using RecordReader.induction (R := F.reader) with
  | stop stream hnext =>
    rw [RecordReader.read_none hnext] at h
    rw [(Prod.mk.inj h).2]
    exact fun b hb ↦ absurd hb List.not_mem_nil
  | step stream r rest hnext ih =>
    rw [RecordReader.read_some hnext] at h
    obtain ⟨hnil, hrest⟩ := Prod.mk.inj h
    obtain ⟨hr, hread⟩ := List.append_eq_nil_iff.1 hnil
    cases stream with
    | nil => cases hnext
    | cons b bs =>
      have hnext : F.next (b :: bs) = some (r, rest) := hnext
      rw [next] at hnext
      split_ifs at hnext with htype
      · cases hnext
        cases hr
      · cases hnext
        exact List.forall_mem_cons.2 ⟨Bool.eq_false_iff.2 htype, ih (Prod.ext hread hrest)⟩

end Framing

/-! ### Words -/

/-- The octets of a word, put together again. -/
theorem UInt16.low_or_high (v : UInt16) :
    v.toUInt8.toUInt16 ||| ((v >>> 8).toUInt8.toUInt16 <<< 8) = v := by
  refine UInt16.toBitVec_inj.1 (BitVec.eq_of_getLsbD_eq fun i hi ↦ ?_)
  simp only [UInt16.toBitVec_or, UInt16.toBitVec_shiftLeft, UInt16.toBitVec_shiftRight,
    UInt8.toBitVec_toUInt16, UInt16.toBitVec_toUInt8]
  rcases Nat.lt_or_ge i 8 with h | h
  · simp [h, hi]
  · have hhigh : i - 8 < 8 := by omega
    have hbit : 8 + (i - 8) = i := by omega
    simp [Nat.not_lt.2 h, hi, hhigh, hbit]

/-- Words of two octets, the upper one first. -/
def wordReader : RecordReader UInt8 UInt16 where
  next
    | first :: second :: rest => some (some (first.toUInt16 <<< 8 ||| second.toUInt16), rest)
    | _ => none
  progress {stream r rest} h := by
    rcases stream with - | ⟨first, - | ⟨second, tail⟩⟩ <;> cases h
    exact Nat.lt_succ_of_lt (Nat.lt_succ_self _)
  extend {stream r rest} more h := by
    rcases stream with - | ⟨first, - | ⟨second, tail⟩⟩ <;> cases h
    rfl

/-- A word on the wire. -/
def wordOctets (v : UInt16) : List UInt8 := [(v >>> 8).toUInt8, v.toUInt8]

/-- What is sent as two octets is read as one word. -/
theorem wordReader_next (v : UInt16) : wordReader.next (wordOctets v) = some (some v, []) :=
  congrArg (fun x ↦ some (some x, [])) ((UInt16.or_comm _ _).trans v.low_or_high)

/-- An empty stream has no words. -/
@[simp] theorem wordReader_nil : wordReader.read [] = ([], []) := RecordReader.read_none rfl
