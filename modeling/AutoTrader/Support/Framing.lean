import Mathlib

/-!
# Frames on a byte stream

A frame is the big-endian length of its payload and the payload.  The stream hands its bytes
out in pieces of any size, and takes them in pieces of any size.

* `bigEndian`, `ofBigEndian` — numbers of a fixed width.
* `frame` — a payload behind its length; `eq_frame_append` — bytes that begin with one.
* `InputStream.read` — some of the next bytes, none only at the end.
* `OutputStream.write` — some of the bytes given are taken.
-/

namespace Framing

/-! ## Numbers of a fixed width -/

/-- The big-endian bytes of a number. -/
def bigEndian : ℕ → ℕ → List UInt8
  | 0, _ => []
  | width + 1, number =>
      UInt8.ofNat (number / 256 ^ width) :: bigEndian width (number % 256 ^ width)

/-- The number of big-endian bytes. -/
def ofBigEndian : List UInt8 → ℕ
  | [] => 0
  | byte :: bytes => byte.toNat * 256 ^ bytes.length + ofBigEndian bytes

@[simp] theorem length_bigEndian (width number : ℕ) : (bigEndian width number).length = width := by
  induction width generalizing number with
  | zero => rfl
  | succ width ih => simp [bigEndian, ih]

theorem ofBigEndian_bigEndian {width number : ℕ} (h : number < 256 ^ width) :
    ofBigEndian (bigEndian width number) = number := by
  induction width generalizing number with
  | zero =>
      rw [pow_zero] at h
      have hzero : number = 0 := by omega
      rw [hzero]
      rfl
  | succ width ih =>
      have hpos : 0 < 256 ^ width := by positivity
      have hdigit : number / 256 ^ width < 256 := by
        rw [Nat.div_lt_iff_lt_mul hpos, Nat.mul_comm, ← pow_succ]
        exact h
      rw [bigEndian, ofBigEndian, length_bigEndian, ih (Nat.mod_lt _ hpos),
        UInt8.toNat_ofNat', Nat.mod_eq_of_lt hdigit]
      exact Nat.div_add_mod' number (256 ^ width)

theorem ofBigEndian_lt (bytes : List UInt8) : ofBigEndian bytes < 256 ^ bytes.length := by
  induction bytes with
  | nil => simp [ofBigEndian]
  | cons byte bytes ih =>
      have hbyte : byte.toNat < 256 := byte.toNat_lt
      rw [ofBigEndian, List.length_cons, pow_succ]
      nlinarith

/-- Bytes of a width are the bytes of their number. -/
theorem bigEndian_ofBigEndian (bytes : List UInt8) :
    bigEndian bytes.length (ofBigEndian bytes) = bytes := by
  induction bytes with
  | nil => rfl
  | cons byte bytes ih =>
      have hpos : 0 < 256 ^ bytes.length := by positivity
      have hlt := ofBigEndian_lt bytes
      have hdigit : (byte.toNat * 256 ^ bytes.length + ofBigEndian bytes) / 256 ^ bytes.length =
          byte.toNat := by
        rw [Nat.mul_comm, Nat.mul_add_div hpos, Nat.div_eq_of_lt hlt, Nat.add_zero]
      have hrest : (byte.toNat * 256 ^ bytes.length + ofBigEndian bytes) % 256 ^ bytes.length =
          ofBigEndian bytes := by
        rw [Nat.mul_comm, Nat.mul_add_mod, Nat.mod_eq_of_lt hlt]
      rw [List.length_cons, bigEndian, ofBigEndian, hdigit, hrest, ih, UInt8.ofNat_toNat]

/-! ## Frames -/

/-- A payload behind its length in four bytes. -/
def frame (payload : List UInt8) : List UInt8 := bigEndian 4 payload.length ++ payload

@[simp] theorem length_frame (payload : List UInt8) :
    (frame payload).length = payload.length + 4 := by
  simp [frame, Nat.add_comm]

theorem take_frame (payload rest : List UInt8) :
    (frame payload ++ rest).take 4 = bigEndian 4 payload.length := by
  rw [frame, List.append_assoc, List.take_append_of_le_length (by simp)]
  exact List.take_of_length_le (by simp)

theorem drop_frame (payload rest : List UInt8) :
    (frame payload ++ rest).drop 4 = payload ++ rest := by
  rw [frame, List.append_assoc, List.drop_append_of_le_length (by simp),
    List.drop_of_length_le (by simp), List.nil_append]

/-- Bytes that announce a length and hold it begin with a frame. -/
theorem eq_frame_append {bytes : List UInt8} {size : ℕ} (hsize : ofBigEndian (bytes.take 4) = size)
    (hlength : size + 4 ≤ bytes.length) :
    bytes = frame ((bytes.drop 4).take size) ++ bytes.drop (size + 4) := by
  have hpayload : ((bytes.drop 4).take size).length = size := by
    rw [List.length_take, List.length_drop]
    omega
  have hprefix : bigEndian 4 size = bytes.take 4 := by
    have h := bigEndian_ofBigEndian (bytes.take 4)
    rwa [hsize, List.length_take, min_eq_left (by omega)] at h
  rw [frame, hpayload, hprefix, List.append_assoc, Nat.add_comm size 4, ← List.drop_drop,
    List.take_append_drop, List.take_append_drop]

/-! ## Streams -/

/-- The bytes that are still to come, in the pieces they come in. -/
structure InputStream where
  chunks : List (List UInt8)
  chunk_ne : ∀ chunk ∈ chunks, chunk ≠ []

/-- All the bytes that are still to come. -/
def InputStream.bytes (stream : InputStream) : List UInt8 := stream.chunks.flatten

/-- `read`: at most so many of the next bytes, and none only at the end. -/
def InputStream.read (stream : InputStream) (count : ℕ) : List UInt8 × InputStream :=
  match h : stream.chunks with
  | [] => ([], stream)
  | chunk :: chunks =>
      if hlong : count < chunk.length then
        (chunk.take count,
          { chunks := chunk.drop count :: chunks
            chunk_ne := by
              intro other hother
              rcases List.mem_cons.mp hother with rfl | hmem
              · exact fun hnil => by
                  have := congrArg List.length hnil
                  rw [List.length_drop, List.length_nil] at this
                  omega
              · exact stream.chunk_ne other (h ▸ List.mem_cons_of_mem chunk hmem) })
      else
        (chunk,
          { chunks
            chunk_ne := fun other hother =>
              stream.chunk_ne other (h ▸ List.mem_cons_of_mem chunk hother) })

/-- What is read and what is left are the bytes there were. -/
theorem InputStream.read_bytes (stream : InputStream) (count : ℕ) :
    (stream.read count).1 ++ (stream.read count).2.bytes = stream.bytes := by
  unfold read bytes
  split
  · rename_i hchunks
    simp [hchunks]
  · rename_i chunk chunks hchunks
    split
    · simp [hchunks, ← List.append_assoc]
    · simp [hchunks]

theorem InputStream.read_length (stream : InputStream) (count : ℕ) :
    (stream.read count).1.length ≤ count := by
  unfold read
  split
  · exact Nat.zero_le _
  · split
    · exact List.length_take_le _ _
    · exact Nat.le_of_not_lt ‹_›

/-- Nothing is read of a positive count only at the end. -/
theorem InputStream.read_eq_nil_iff (stream : InputStream) {count : ℕ} (hcount : 0 < count) :
    (stream.read count).1 = [] ↔ stream.bytes = [] := by
  constructor
  · intro hnil
    unfold read at hnil
    unfold bytes
    split at hnil
    · rename_i hchunks
      simp [hchunks]
    · rename_i chunk chunks hchunks
      have hchunk := stream.chunk_ne chunk (hchunks ▸ List.mem_cons_self)
      split at hnil
      · rcases List.take_eq_nil_iff.mp hnil with hzero | hempty
        · omega
        · exact absurd hempty hchunk
      · exact absurd hnil hchunk
  · intro hbytes
    have h := stream.read_bytes count
    rw [hbytes] at h
    exact (List.append_eq_nil_iff.mp h).1

/-- What was taken so far, and how many bytes each of the next writes takes. -/
structure OutputStream where
  written : List UInt8 := []
  accepts : List ℕ

/-- `write`: how many of the bytes are taken, or nothing. -/
def OutputStream.write (stream : OutputStream) (data : List UInt8) : ℕ × OutputStream :=
  match stream.accepts with
  | [] => (0, stream)
  | accept :: accepts =>
      (min accept data.length, { written := stream.written ++ data.take accept, accepts })

end Framing
