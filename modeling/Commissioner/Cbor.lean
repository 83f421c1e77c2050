import Mathlib

/-!
# CBOR as the tool writes it

`send_config_command` hands one Python dictionary to two encoders: `cbor2.dumps` produces the
bytes the PIN/UV auth tag is computed over, and `fido2.cbor.encode`, inside `Ctap2.send_cbor`,
produces the request the authenticator receives.  Each is modelled as its library computes it,
on the Python values the tool builds: integers, byte strings and dictionaries.  A `none` result
is the `struct.error` the library raises for an argument that does not fit its head.
-/

namespace Commissioner

/-- Python `bytes`. -/
abbrev Bytes := List UInt8

/-- The Python values the tool encodes.  A dictionary keeps its insertion order. -/
inductive Cbor where
  | int (value : Int)
  | bytes (value : Bytes)
  | map (entries : List (Cbor × Cbor))
deriving Repr

/-- `value.to_bytes(width, "big")` for a value that fits: the low `width` bytes of `value`,
most significant first. -/
def beBytes : Nat → Nat → Bytes
  | 0, _ => []
  | width + 1, value => beBytes width (value / 256) ++ [UInt8.ofNat (value % 256)]

/-- The unsigned big-endian number a byte string spells. -/
def readBE (bytes : Bytes) : Nat :=
  bytes.foldl (fun acc byte => acc * 256 + byte.toNat) 0

/-- The first byte of a head: major type `major` in the top three bits, `info` below. -/
def headByte (major info : Nat) : UInt8 :=
  UInt8.ofNat (major <<< 5 ||| info)

@[simp] theorem beBytes_length (width value : Nat) : (beBytes width value).length = width := by
  induction width generalizing value with
  | zero => rfl
  | succ width ih => simp [beBytes, ih]

theorem readBE_append_byte (bytes : Bytes) (byte : UInt8) :
    readBE (bytes ++ [byte]) = readBE bytes * 256 + byte.toNat := by
  simp [readBE, List.foldl_append]

/-- A value that fits its width is read back from its big-endian bytes. -/
theorem readBE_beBytes {width value : Nat} (h : value < 256 ^ width) :
    readBE (beBytes width value) = value := by
  induction width generalizing value with
  | zero =>
      simp only [Nat.pow_zero, Nat.lt_one_iff] at h
      simp [h, beBytes, readBE]
  | succ width ih =>
      have htail : value / 256 < 256 ^ width := by
        rw [Nat.pow_succ] at h
        omega
      rw [beBytes, readBE_append_byte, ih htail,
        UInt8.toNat_ofNat_of_lt (Nat.mod_lt _ (by decide))]
      exact Nat.div_add_mod' value 256

theorem headByte_toNat {major info : Nat} (hmajor : major < 8) (hinfo : info < 32) :
    (headByte major info).toNat = major * 32 + info := by
  have hor : major <<< 5 ||| info = major * 32 + info := by
    rw [Nat.shiftLeft_eq, Nat.mul_comm, ← Nat.mul_add_lt_is_or hinfo]
  rw [headByte, hor, UInt8.toNat_ofNat_of_lt (by change _ < 256; omega)]

namespace Fido2

/-- The head `struct.pack` writes in `fido2.cbor.dump_int` once the sign is settled. -/
def dumpHead (mt data : Nat) : Option Bytes :=
  if data ≤ 23 then some [headByte mt data]
  else if data ≤ 0xFF then some (headByte mt 24 :: beBytes 1 data)
  else if data ≤ 0xFFFF then some (headByte mt 25 :: beBytes 2 data)
  else if data ≤ 0xFFFFFFFF then some (headByte mt 26 :: beBytes 4 data)
  else if data < 2 ^ 64 then some (headByte mt 27 :: beBytes 8 data)
  else none

/-- `fido2.cbor.dump_int`: a negative integer switches to major type 1. -/
def dumpInt (data : Int) (mt : Nat) : Option Bytes :=
  if data < 0 then dumpHead 1 (-1 - data).toNat else dumpHead mt data.toNat

@[simp] theorem dumpInt_natCast (n mt : Nat) : dumpInt n mt = dumpHead mt n := by
  rw [dumpInt, if_neg (by omega), Int.toNat_ofNat]

/-- `fido2.cbor.dump_bytes`. -/
def dumpBytes (data : Bytes) : Option Bytes :=
  (dumpInt data.length 2).map (· ++ data)

/-- Python's bytes `<`. -/
def bytesLt : Bytes → Bytes → Bool
  | [], [] => false
  | [], _ :: _ => true
  | _ :: _, [] => false
  | a :: as, b :: bs => a < b || (a == b && bytesLt as bs)

/-- Python's `<` on `_sort_keys` of two encoded keys: `(key[0], len(key), key)`. -/
def sortKeyLt (a b : Bytes) : Bool :=
  let a0 := a.headD 0
  let b0 := b.headD 0
  a0 < b0 || (a0 == b0 && (a.length < b.length || (a.length == b.length && bytesLt a b)))

/-- The order `items.sort(key=_sort_keys)` leaves encoded entries in. -/
def SortedBefore (a b : Bytes × Bytes) : Prop :=
  sortKeyLt b.1 a.1 = false

instance : DecidableRel SortedBefore := fun a b =>
  inferInstanceAs (Decidable (sortKeyLt b.1 a.1 = false))

/-- `fido2.cbor.dump_dict` on the already encoded entries. -/
def dumpDict (items : List (Bytes × Bytes)) : Option Bytes :=
  let items := items.insertionSort SortedBefore
  (dumpInt items.length 5).map (· ++ (items.map fun item => item.1 ++ item.2).flatten)

mutual
/-- `fido2.cbor.encode`, the canonical CTAP2 encoder `Ctap2.send_cbor` uses. -/
def encode : Cbor → Option Bytes
  | .int value => dumpInt value 0
  | .bytes value => dumpBytes value
  | .map entries => encodeEntries entries >>= dumpDict
/-- `[(encode(k), encode(v)) for k, v in data.items()]` in `dump_dict`. -/
def encodeEntries : List (Cbor × Cbor) → Option (List (Bytes × Bytes))
  | [] => some []
  | (k, v) :: rest => do
    let k ← encode k
    let v ← encode v
    return (k, v) :: (← encodeEntries rest)
end

end Fido2

namespace Cbor2

/-- `CBOREncoder.encode_length`. -/
def encodeLength (major length : Nat) : Option Bytes :=
  if length < 24 then some [headByte major length]
  else if length < 256 then some (headByte major 24 :: beBytes 1 length)
  else if length < 65536 then some (headByte major 25 :: beBytes 2 length)
  else if length < 4294967296 then some (headByte major 26 :: beBytes 4 length)
  else if length < 2 ^ 64 then some (headByte major 27 :: beBytes 8 length)
  else none

/-- Python's `int.bit_length()`. -/
def bitLength (n : Nat) : Nat :=
  if n = 0 then 0 else n.log2 + 1

/-- The tagged byte string `encode_int` writes for an integer beyond 64 bits:
`encode_semantic(CBORTag(major_tag, value.to_bytes((value.bit_length() + 7) // 8, "big")))`. -/
def encodeBignum (majorTag value : Nat) : Option Bytes := do
  let payload := beBytes ((bitLength value + 7) / 8) value
  return (← encodeLength 6 majorTag) ++ (← encodeLength 2 payload.length) ++ payload

/-- `CBOREncoder.encode_int`. -/
def encodeInt (value : Int) : Option Bytes :=
  if 18446744073709551616 ≤ value ∨ value < -18446744073709551616 then
    if 0 ≤ value then encodeBignum 2 value.toNat else encodeBignum 3 (-value - 1).toNat
  else if 0 ≤ value then encodeLength 0 value.toNat
  else encodeLength 1 (-(value + 1)).toNat

mutual
/-- `cbor2.dumps` with its default settings: dictionaries in insertion order. -/
def dumps : Cbor → Option Bytes
  | .int value => encodeInt value
  | .bytes value => return (← encodeLength 2 value.length) ++ value
  | .map entries => return (← encodeLength 5 entries.length) ++ (← dumpsEntries entries)
/-- The loop of `encode_map`: each key, then its value. -/
def dumpsEntries : List (Cbor × Cbor) → Option Bytes
  | [] => some []
  | (k, v) :: rest => return (← dumps k) ++ (← dumps v) ++ (← dumpsEntries rest)
end

theorem encodeLength_isSome {major length : Nat} (h : length < 2 ^ 64) :
    ∃ head, encodeLength major length = some head := by
  unfold encodeLength
  split_ifs <;> exact ⟨_, rfl⟩

theorem encodeInt_isSome {value : Int} (hlow : -18446744073709551616 ≤ value)
    (hhigh : value < 18446744073709551616) : ∃ bytes, encodeInt value = some bytes := by
  unfold encodeInt
  rw [if_neg (by omega)]
  split_ifs <;> exact encodeLength_isSome (by omega)

end Cbor2

/-- Both libraries write the same head for every argument, and refuse the same ones. -/
theorem Fido2.dumpHead_eq_encodeLength (mt data : Nat) :
    Fido2.dumpHead mt data = Cbor2.encodeLength mt data := by
  have h23 : data ≤ 23 ↔ data < 24 := by omega
  have h255 : data ≤ 0xFF ↔ data < 256 := by omega
  have h65535 : data ≤ 0xFFFF ↔ data < 65536 := by omega
  have h32 : data ≤ 0xFFFFFFFF ↔ data < 4294967296 := by omega
  simp only [Fido2.dumpHead, Cbor2.encodeLength, h23, h255, h65535, h32]

/-- On the integers a 64-bit head holds, `dump_int` and `encode_int` write the same bytes. -/
theorem Fido2.dumpInt_eq_encodeInt {value : Int} (hlow : -18446744073709551616 ≤ value)
    (hhigh : value < 18446744073709551616) :
    Fido2.dumpInt value 0 = Cbor2.encodeInt value := by
  have hsmall : ¬(18446744073709551616 ≤ value ∨ value < -18446744073709551616) := by omega
  rw [Fido2.dumpInt, Cbor2.encodeInt, if_neg hsmall]
  by_cases hneg : value < 0
  · rw [if_pos hneg, if_neg (by omega), Fido2.dumpHead_eq_encodeLength]
    congr 2
    omega
  · rw [if_neg hneg, if_pos (by omega), Fido2.dumpHead_eq_encodeLength]

mutual
/-- A value `fido2.cbor.encode` writes exactly as `cbor2.dumps` does: every integer fits a
64-bit head and every dictionary already lists its keys in the order `dump_dict` sorts into. -/
def Canonical : Cbor → Prop
  | .int value => -18446744073709551616 ≤ value ∧ value < 18446744073709551616
  | .bytes value => value.length < 2 ^ 64
  | .map entries => entries.length < 2 ^ 64 ∧ CanonicalEntries entries ∧
      (entries.map fun entry => (Cbor2.dumps entry.1).getD []).Sorted
        fun a b => Fido2.sortKeyLt b a = false
/-- Every key and every value of a dictionary is `Canonical`. -/
def CanonicalEntries : List (Cbor × Cbor) → Prop
  | [] => True
  | (k, v) :: rest => Canonical k ∧ Canonical v ∧ CanonicalEntries rest
end

mutual
/-- On a canonical value the canonical encoder is `cbor2.dumps`: `dump_dict`'s sort changes
nothing and every head is written the same way. -/
theorem encode_eq_dumps : ∀ (value : Cbor), Canonical value →
    ∃ bytes, Fido2.encode value = some bytes ∧ Cbor2.dumps value = some bytes
  | .int value, ⟨hlow, hhigh⟩ => by
      obtain ⟨bytes, hbytes⟩ := Cbor2.encodeInt_isSome hlow hhigh
      exact ⟨bytes, (Fido2.dumpInt_eq_encodeInt hlow hhigh).trans hbytes, hbytes⟩
  | .bytes value, hlen => by
      obtain ⟨head, hhead⟩ := @Cbor2.encodeLength_isSome 2 value.length hlen
      refine ⟨head ++ value, ?_, by simp [Cbor2.dumps, hhead]⟩
      simp [Fido2.encode, Fido2.dumpBytes, Fido2.dumpHead_eq_encodeLength, hhead]
  | .map entries, ⟨hlen, hentries, hsorted⟩ => by
      obtain ⟨items, hencode, hdumps, hkeys⟩ := encodeEntries_eq_dumpsEntries entries hentries
      have hsort : items.insertionSort Fido2.SortedBefore = items := by
        apply List.Sorted.insertionSort_eq
        rw [← hkeys] at hsorted
        exact (List.pairwise_map (f := Prod.fst)).mp hsorted
      have hlength : items.length = entries.length := by
        simpa using congrArg List.length hkeys
      obtain ⟨head, hhead⟩ := @Cbor2.encodeLength_isSome 5 _ hlen
      refine ⟨head ++ (items.map fun item => item.1 ++ item.2).flatten, ?_, ?_⟩
      · simp [Fido2.encode, hencode, Fido2.dumpDict, hsort, hlength,
          Fido2.dumpHead_eq_encodeLength, hhead]
      · simp [Cbor2.dumps, hhead, hdumps]
/-- The entries of a canonical dictionary encode one by one as `cbor2` writes them. -/
theorem encodeEntries_eq_dumpsEntries : ∀ (entries : List (Cbor × Cbor)),
    CanonicalEntries entries → ∃ items, Fido2.encodeEntries entries = some items ∧
      Cbor2.dumpsEntries entries = some (items.map fun item => item.1 ++ item.2).flatten ∧
      items.map Prod.fst = entries.map fun entry => (Cbor2.dumps entry.1).getD []
  | [], _ => ⟨[], rfl, rfl, rfl⟩
  | (k, v) :: rest, ⟨hk, hv, hrest⟩ => by
      obtain ⟨kb, hke, hkd⟩ := encode_eq_dumps k hk
      obtain ⟨vb, hve, hvd⟩ := encode_eq_dumps v hv
      obtain ⟨items, hie, hid, hikeys⟩ := encodeEntries_eq_dumpsEntries rest hrest
      refine ⟨(kb, vb) :: items, ?_, ?_, ?_⟩
      · simp [Fido2.encodeEntries, hke, hve, hie]
      · simp [Cbor2.dumpsEntries, hkd, hvd, hid]
      · simp [hkd, hikeys]
end

end Commissioner
