import Commissioner.Cbor

/-!
# Reading CBOR back

A decoder for the data items the tool writes (RFC 8949: unsigned and negative integers,
definite-length byte strings and maps, and the bignum tags 2 and 3), and the round trip of
`cbor2.dumps` through it.  The decoder is the meaning of the bytes on the wire: the
authenticator parses the request it receives into these items.
-/

namespace Commissioner

/-- `count` bytes of payload, and what follows them. -/
def takeBytes (count : Nat) (data : Bytes) : Option (Bytes × Bytes) :=
  if count ≤ data.length then some (data.take count, data.drop count) else none

/-- The argument a head with additional information `info` carries, and the bytes after it. -/
def readArgument (info : Nat) (data : Bytes) : Option (Nat × Bytes) :=
  if info < 24 then some (info, data)
  else if info ≤ 27 then (takeBytes (2 ^ (info - 24)) data).map fun (arg, rest) => (readBE arg, rest)
  else none

/-- A definite-length byte string: its head, then its payload. -/
def decodeByteString : Bytes → Option (Bytes × Bytes)
  | [] => none
  | initial :: data =>
      if initial.toNat / 32 = 2 then
        (readArgument (initial.toNat % 32) data).bind fun (count, rest) => takeBytes count rest
      else none

/-- `count` keys and values, each read by `item`. -/
def decodeEntries (item : Bytes → Option (Cbor × Bytes)) :
    Nat → Bytes → Option (List (Cbor × Cbor) × Bytes)
  | 0, data => some ([], data)
  | count + 1, data => do
      let (k, data) ← item data
      let (v, data) ← item data
      let (rest, data) ← decodeEntries item count data
      return ((k, v) :: rest, data)

/-- One data item and the bytes after it, with `depth` levels of nesting allowed. -/
def decodeItem : Nat → Bytes → Option (Cbor × Bytes)
  | 0, _ => none
  | _ + 1, [] => none
  | depth + 1, initial :: data =>
      (readArgument (initial.toNat % 32) data).bind fun (arg, data) =>
        match initial.toNat / 32 with
        | 0 => some (.int arg, data)
        | 1 => some (.int (-1 - arg), data)
        | 2 => (takeBytes arg data).map fun (payload, rest) => (.bytes payload, rest)
        | 5 => (decodeEntries (decodeItem depth) arg data).map fun (entries, rest) =>
            (.map entries, rest)
        | 6 =>
            if arg = 2 then
              (decodeByteString data).map fun (payload, rest) => (.int (readBE payload), rest)
            else if arg = 3 then
              (decodeByteString data).map fun (payload, rest) => (.int (-1 - readBE payload), rest)
            else none
        | _ => none

/-- A whole byte string read as exactly one data item. -/
def decode (data : Bytes) : Option Cbor :=
  match decodeItem data.length data with
  | some (value, []) => some value
  | _ => none

mutual
/-- The nesting depth `decodeItem` needs for a value. -/
def Cbor.depth : Cbor → Nat
  | .int _ => 1
  | .bytes _ => 1
  | .map entries => entriesDepth entries + 1
/-- The largest depth among the keys and values of a dictionary. -/
def entriesDepth : List (Cbor × Cbor) → Nat
  | [] => 0
  | (k, v) :: rest => max k.depth (max v.depth (entriesDepth rest))
end

end Commissioner

namespace Commissioner

@[simp] theorem takeBytes_append (bytes rest : Bytes) :
    takeBytes bytes.length (bytes ++ rest) = some (bytes, rest) := by
  simp [takeBytes]

@[simp] theorem takeBytes_beBytes (width value : Nat) (rest : Bytes) :
    takeBytes width (beBytes width value ++ rest) = some (beBytes width value, rest) := by
  simpa using takeBytes_append (beBytes width value) rest

/-- `head` is a head of major type `major` whose argument is `arg`, whatever bytes follow. -/
def HeadOf (major arg : Nat) (head : Bytes) : Prop :=
  ∃ initial tail, head = initial :: tail ∧ initial.toNat / 32 = major ∧
    ∀ rest, readArgument (initial.toNat % 32) (tail ++ rest) = some (arg, rest)

theorem headOf_wide {major arg k : Nat} (hmajor : major < 8) (hk : k < 4)
    (harg : arg < 256 ^ 2 ^ k) :
    HeadOf major arg (headByte major (24 + k) :: beBytes (2 ^ k) arg) := by
  have hbyte := headByte_toNat hmajor (show 24 + k < 32 by omega)
  refine ⟨_, _, rfl, by omega, fun rest => ?_⟩
  have hinfo : (headByte major (24 + k)).toNat % 32 = 24 + k := by omega
  simp [readArgument, hinfo, show 24 + k ≤ 27 by omega, readBE_beBytes harg]

/-- Every head `encode_length` writes reads back as its major type and argument. -/
theorem encodeLength_headOf {major length : Nat} {head : Bytes} (hmajor : major < 8)
    (h : Cbor2.encodeLength major length = some head) : HeadOf major length head := by
  unfold Cbor2.encodeLength at h
  split_ifs at h <;> cases h
  · have hbyte := headByte_toNat hmajor (show length < 32 by omega)
    exact ⟨_, [], rfl, by omega, fun rest => by simp [readArgument, show
      (headByte major length).toNat % 32 = length by omega, ‹length < 24›]⟩
  · exact headOf_wide (k := 0) hmajor (by decide) (by omega)
  · exact headOf_wide (k := 1) hmajor (by decide) (by omega)
  · exact headOf_wide (k := 2) hmajor (by decide) (by omega)
  · exact headOf_wide (k := 3) hmajor (by decide) (by omega)

/-- The payload width `encode_int` picks for a bignum holds the value. -/
theorem lt_bignumWidth (n : Nat) : n < 256 ^ ((Cbor2.bitLength n + 7) / 8) := by
  unfold Cbor2.bitLength
  split_ifs with h
  · simp [h]
  · calc n < 2 ^ (n.log2 + 1) := Nat.lt_log2_self
      _ ≤ 2 ^ (8 * ((n.log2 + 1 + 7) / 8)) := Nat.pow_le_pow_right (by decide) (by omega)
      _ = 256 ^ ((n.log2 + 1 + 7) / 8) := by rw [Nat.pow_mul]

theorem decodeItem_encodeBignum {tag n : Nat} {bytes : Bytes}
    (h : Cbor2.encodeBignum tag n = some bytes) (fuel : Nat) (rest : Bytes) :
    decodeItem (fuel + 1) (bytes ++ rest) =
      if tag = 2 then some (.int n, rest) else if tag = 3 then some (.int (-1 - n), rest)
      else none := by
  simp only [Cbor2.encodeBignum, beBytes_length] at h
  cases htag : Cbor2.encodeLength 6 tag with
  | none => simp [htag] at h
  | some tagHead =>
      have hlen' := beBytes_length ((Cbor2.bitLength n + 7) / 8) n
      cases hlen : Cbor2.encodeLength 2 ((Cbor2.bitLength n + 7) / 8) with
      | none => simp [htag, hlen] at h
      | some lenHead =>
          simp only [htag, hlen, Option.bind_eq_bind, Option.some_bind, Option.pure_def,
            Option.some.injEq] at h
          subst h
          rw [← hlen'] at hlen
          obtain ⟨i6, t6, rfl, hm6, ha6⟩ := encodeLength_headOf (by decide) htag
          obtain ⟨i2, t2, rfl, hm2, ha2⟩ := encodeLength_headOf (by decide) hlen
          have hpayload := readBE_beBytes (lt_bignumWidth n)
          simp [decodeItem, decodeByteString, ha6, hm6, ha2, hm2, hpayload]

/-- Every integer `cbor2` writes, bignums included, reads back as itself. -/
theorem decodeItem_encodeInt {value : Int} {bytes : Bytes} (h : Cbor2.encodeInt value = some bytes)
    (fuel : Nat) (rest : Bytes) :
    decodeItem (fuel + 1) (bytes ++ rest) = some (.int value, rest) := by
  unfold Cbor2.encodeInt at h
  split_ifs at h with hbig hpos hpos'
  · rw [decodeItem_encodeBignum h, if_pos rfl, Int.toNat_of_nonneg hpos]
  · rw [decodeItem_encodeBignum h]
    simp only [show ¬(3 = 2) by decide, if_false, if_true]
    congr 3
    omega
  · obtain ⟨initial, tail, rfl, hmajor, harg⟩ := encodeLength_headOf (by decide) h
    simp [decodeItem, harg, hmajor, Int.toNat_of_nonneg hpos']
  · obtain ⟨initial, tail, rfl, hmajor, harg⟩ := encodeLength_headOf (by decide) h
    simp [decodeItem, harg, hmajor, Int.toNat_of_nonneg (by omega : 0 ≤ -(value + 1))]
    omega

mutual
/-- `cbor2.dumps` round-trips through the decoder, whatever bytes follow the item. -/
theorem decodeItem_dumps : ∀ (value : Cbor) (bytes : Bytes) (fuel : Nat),
    Cbor2.dumps value = some bytes → value.depth ≤ fuel →
    ∀ rest, decodeItem fuel (bytes ++ rest) = some (value, rest)
  | .int value => fun bytes fuel h hdepth rest => by
      obtain ⟨fuel, rfl⟩ : ∃ f, fuel = f + 1 := ⟨fuel - 1, by simp [Cbor.depth] at hdepth; omega⟩
      exact decodeItem_encodeInt h fuel rest
  | .bytes value => fun bytes fuel h hdepth rest => by
      obtain ⟨fuel, rfl⟩ : ∃ f, fuel = f + 1 := ⟨fuel - 1, by simp [Cbor.depth] at hdepth; omega⟩
      simp only [Cbor2.dumps, Option.bind_eq_bind, Option.bind_eq_some, Option.pure_def,
        Option.some.injEq] at h
      obtain ⟨head, hhead, rfl⟩ := h
      obtain ⟨initial, tail, rfl, hmajor, harg⟩ := encodeLength_headOf (by decide) hhead
      simp [decodeItem, harg, hmajor]
  | .map entries => fun bytes fuel h hdepth rest => by
      obtain ⟨fuel, rfl⟩ : ∃ f, fuel = f + 1 := ⟨fuel - 1, by simp [Cbor.depth] at hdepth; omega⟩
      simp only [Cbor2.dumps, Option.bind_eq_bind, Option.bind_eq_some, Option.pure_def,
        Option.some.injEq] at h
      obtain ⟨head, hhead, body, hbody, rfl⟩ := h
      obtain ⟨initial, tail, rfl, hmajor, harg⟩ := encodeLength_headOf (by decide) hhead
      have hentries := decodeEntries_dumpsEntries entries body fuel hbody
        (by simp only [Cbor.depth] at hdepth; omega) rest
      simp [decodeItem, harg, hmajor, hentries]
/-- The entries `encode_map` writes are read back one key and one value at a time. -/
theorem decodeEntries_dumpsEntries : ∀ (entries : List (Cbor × Cbor)) (bytes : Bytes)
    (fuel : Nat), Cbor2.dumpsEntries entries = some bytes → entriesDepth entries ≤ fuel →
    ∀ rest, decodeEntries (decodeItem fuel) entries.length (bytes ++ rest) = some (entries, rest)
  | [] => fun bytes fuel h _ rest => by
      simp only [Cbor2.dumpsEntries, Option.some.injEq] at h
      subst h
      rfl
  | (k, v) :: entries => fun bytes fuel h hdepth rest => by
      simp only [Cbor2.dumpsEntries, Option.bind_eq_bind, Option.bind_eq_some, Option.pure_def,
        Option.some.injEq] at h
      obtain ⟨kb, hk, vb, hv, rb, hr, rfl⟩ := h
      simp only [entriesDepth, Nat.max_le] at hdepth
      simp [decodeEntries, decodeItem_dumps k kb fuel hk hdepth.1,
        decodeItem_dumps v vb fuel hv hdepth.2.1, decodeEntries_dumpsEntries entries rb fuel hr hdepth.2.2]
end

theorem HeadOf.length_pos {major arg : Nat} {head : Bytes} (h : HeadOf major arg head) :
    0 < head.length := by
  obtain ⟨initial, tail, rfl, -⟩ := h
  simp

mutual
/-- Every level of nesting costs at least one byte, so a byte string's length is fuel enough. -/
theorem depth_le_length : ∀ (value : Cbor) (bytes : Bytes),
    Cbor2.dumps value = some bytes → value.depth ≤ bytes.length
  | .int value, bytes, h => by
      cases bytes with
      | nil => simpa [decodeItem] using decodeItem_encodeInt h 0 []
      | cons _ _ => simp [Cbor.depth]
  | .bytes value, bytes, h => by
      simp only [Cbor2.dumps, Option.bind_eq_bind, Option.bind_eq_some, Option.pure_def,
        Option.some.injEq] at h
      obtain ⟨head, hhead, rfl⟩ := h
      have := (encodeLength_headOf (by decide) hhead).length_pos
      simp only [Cbor.depth, List.length_append]
      omega
  | .map entries, bytes, h => by
      simp only [Cbor2.dumps, Option.bind_eq_bind, Option.bind_eq_some, Option.pure_def,
        Option.some.injEq] at h
      obtain ⟨head, hhead, body, hbody, rfl⟩ := h
      have := (encodeLength_headOf (by decide) hhead).length_pos
      have := entriesDepth_le_length entries body hbody
      simp only [Cbor.depth, List.length_append]
      omega
theorem entriesDepth_le_length : ∀ (entries : List (Cbor × Cbor)) (bytes : Bytes),
    Cbor2.dumpsEntries entries = some bytes → entriesDepth entries ≤ bytes.length
  | [], _, _ => Nat.zero_le _
  | (k, v) :: entries, bytes, h => by
      simp only [Cbor2.dumpsEntries, Option.bind_eq_bind, Option.bind_eq_some, Option.pure_def,
        Option.some.injEq] at h
      obtain ⟨kb, hk, vb, hv, rb, hr, rfl⟩ := h
      have := depth_le_length k kb hk
      have := depth_le_length v vb hv
      have := entriesDepth_le_length entries rb hr
      simp only [entriesDepth, List.length_append]
      omega
end

/-- Whatever `cbor2.dumps` writes decodes to exactly the value it was given. -/
theorem decode_dumps {value : Cbor} {bytes : Bytes} (h : Cbor2.dumps value = some bytes) :
    decode bytes = some value := by
  have hitem := decodeItem_dumps value bytes _ h (depth_le_length value bytes h) []
  rw [List.append_nil] at hitem
  simp [decode, hitem]

/-- The canonical encoder round-trips on every canonical value. -/
theorem decode_encode {value : Cbor} (h : Canonical value) :
    ∃ bytes, Fido2.encode value = some bytes ∧ decode bytes = some value := by
  obtain ⟨bytes, hencode, hdumps⟩ := encode_eq_dumps value h
  exact ⟨bytes, hencode, decode_dumps hdumps⟩

end Commissioner
