import AutoTrader.Support.Framing

/-!
# The frames between the desktop shell and the backend

The backend reads and writes framed JSON on its standard streams; the desktop shell writes
frames and collects the bytes of one until it is complete.

* `readExactBytes`, `readJsonFrame`, `writeJsonFrame` — the backend's side.
* `writeFrame`, `completedFramePayload` — the shell's side.
* `readFrames` — calls of `read_json_frame`, one after the other.
* `frames_law` — what the backend's reader gets of what its writer wrote.
* `sides_law` — both sides agree on all bytes.

What a payload says is up to the decoder; the framing does not look at it.
-/

namespace Transport

open Framing

/-! ## The backend's side -/

/-- `MAX_SIDECAR_FRAME_BYTES`, and `MAXIMUM_FRAME_BYTES` of the shell. -/
def maxSidecarFrameBytes : ℕ := 1024 * 1024

/-- The exceptions of the framing. -/
inductive FrameError where
  | valueError (message : String)
  | osError (message : String)
  deriving DecidableEq, Repr

/-- The loop of `_read_exact_bytes`. -/
def readExactBytes (count : ℕ) (allowEof : Bool) (payload : List UInt8) (stream : InputStream) :
    Except FrameError (Option (List UInt8)) × InputStream :=
  if _hmore : payload.length < count then
    if _hchunk : (stream.read (count - payload.length)).1 = [] then
      if allowEof && payload.isEmpty then (.ok none, (stream.read (count - payload.length)).2)
      else
        (.error (.valueError "sidecar frame was truncated"),
          (stream.read (count - payload.length)).2)
    else
      readExactBytes count allowEof (payload ++ (stream.read (count - payload.length)).1)
        (stream.read (count - payload.length)).2
  else (.ok (some payload), stream)
termination_by count - payload.length
decreasing_by
  have := List.length_pos_of_ne_nil _hchunk
  rw [List.length_append]
  omega

/-- `read_json_frame`, with the decoder of a payload. -/
def readJsonFrame {β : Type} (decode : List UInt8 → Except FrameError β) (maximumBytes : ℕ)
    (stream : InputStream) : Except FrameError (Option β) × InputStream :=
  if maximumBytes = 0 ∨ maxSidecarFrameBytes < maximumBytes then
    (.error (.valueError "sidecar frame limit is invalid"), stream)
  else
    match readExactBytes 4 true [] stream with
    | (.error error, stream) => (.error error, stream)
    | (.ok none, stream) => (.ok none, stream)
    | (.ok (some header), stream) =>
        let payloadSize := ofBigEndian header
        if payloadSize = 0 ∨ maximumBytes < payloadSize then
          (.error (.valueError "sidecar frame length is invalid"), stream)
        else
          match readExactBytes payloadSize false [] stream with
          | (.error error, stream) => (.error error, stream)
          | (.ok none, stream) => (.ok none, stream)
          | (.ok (some payload), stream) =>
              match decode payload with
              | .error error => (.error error, stream)
              | .ok value => (.ok (some value), stream)

/-- The loop of `write_json_frame`. -/
def writeAll (data : List UInt8) (stream : OutputStream) :
    Except FrameError Unit × OutputStream :=
  if data = [] then (.ok (), stream)
  else
    if _hwritten : (stream.write data).1 = 0 then
      (.error (.osError "sidecar frame write did not advance"), (stream.write data).2)
    else writeAll (data.drop (stream.write data).1) (stream.write data).2
termination_by data.length
decreasing_by
  have hpos : 0 < data.length := List.length_pos_of_ne_nil ‹_›
  rw [List.length_drop]
  omega

/-- `write_json_frame` of an encoded payload. -/
def writeJsonFrame (maximumBytes : ℕ) (payload : List UInt8) (stream : OutputStream) :
    Except FrameError Unit × OutputStream :=
  if maximumBytes = 0 ∨ maxSidecarFrameBytes < maximumBytes then
    (.error (.valueError "sidecar frame limit is invalid"), stream)
  else if payload.length = 0 ∨ maximumBytes < payload.length then
    (.error (.valueError "sidecar frame length is invalid"), stream)
  else writeAll (frame payload) stream

/-! ## The shell's side -/

/-- `write_frame` of the shell, whose writer takes everything or fails. -/
def writeFrame (payload : List UInt8) (limit : ℕ) : Except FrameError (List UInt8) :=
  if payload = [] ∨ limit < payload.length ∨ maxSidecarFrameBytes < limit then
    .error (.valueError "Invalid IPC frame size")
  else .ok (frame payload)

/-- `completed_frame_payload` of the shell. -/
def completedFramePayload (bytes : List UInt8) (limit : ℕ) :
    Except FrameError (Option (List UInt8)) :=
  if bytes.length < 4 then .ok none
  else
    let size := ofBigEndian (bytes.take 4)
    if size = 0 ∨ limit < size ∨ maxSidecarFrameBytes < limit ∨ size + 4 < bytes.length then
      .error (.valueError "Invalid IPC frame size")
    else .ok (if bytes.length = size + 4 then some (bytes.drop 4) else none)

/-! ## Reading -/

/-- How a reader is told that the bytes end: at the edge of a frame, or inside it. -/
def endOfStream (allowEof : Bool) (payload bytes : List UInt8) :
    Except FrameError (Option (List UInt8)) :=
  if allowEof && payload.isEmpty && bytes.isEmpty then .ok none
  else .error (.valueError "sidecar frame was truncated")

/-- The pieces do not matter: the reader gets the bytes it asks for, or learns that they end,
and nothing else is taken from the stream. -/
theorem readExactBytes_eq (count : ℕ) (allowEof : Bool) (payload : List UInt8)
    (stream : InputStream) (hpayload : payload.length ≤ count) :
    if count ≤ payload.length + stream.bytes.length then
      (readExactBytes count allowEof payload stream).1 =
          .ok (some (payload ++ stream.bytes.take (count - payload.length))) ∧
        (readExactBytes count allowEof payload stream).2.bytes =
          stream.bytes.drop (count - payload.length)
    else
      (readExactBytes count allowEof payload stream).1 =
          endOfStream allowEof payload stream.bytes ∧
        (readExactBytes count allowEof payload stream).2.bytes = [] := by
  fun_induction readExactBytes count allowEof payload stream with
  | case1 payload stream hmore hchunk heof =>
      have hbytes := (stream.read_eq_nil_iff (Nat.sub_pos_of_lt hmore)).mp hchunk
      have hrest := stream.read_bytes (count - payload.length)
      rw [hchunk, hbytes, List.nil_append] at hrest
      rw [if_neg (by rw [hbytes, List.length_nil]; omega)]
      refine ⟨?_, hrest⟩
      simp only [Bool.and_eq_true] at heof
      simp [endOfStream, heof, hbytes]
  | case2 payload stream hmore hchunk heof =>
      have hbytes := (stream.read_eq_nil_iff (Nat.sub_pos_of_lt hmore)).mp hchunk
      have hrest := stream.read_bytes (count - payload.length)
      rw [hchunk, hbytes, List.nil_append] at hrest
      rw [if_neg (by rw [hbytes, List.length_nil]; omega)]
      refine ⟨?_, hrest⟩
      rw [endOfStream, hbytes]
      simp [heof]
  | case3 payload stream hmore hchunk ih =>
      have hlength := stream.read_length (count - payload.length)
      have hread := stream.read_bytes (count - payload.length)
      generalize (stream.read (count - payload.length)).1 = chunk at *
      generalize (stream.read (count - payload.length)).2 = rest at *
      have hpos := List.length_pos_of_ne_nil hchunk
      have hih := ih (by rw [List.length_append]; omega)
      rw [List.length_append] at hih
      rw [← hread, List.length_append]
      by_cases henough : count ≤ payload.length + (chunk.length + rest.bytes.length)
      · rw [if_pos (by omega)] at hih ⊢
        obtain ⟨hvalue, hleft⟩ := hih
        refine ⟨?_, ?_⟩
        · rw [hvalue, List.take_append, List.take_of_length_le hlength, List.append_assoc,
            Nat.sub_sub]
        · rw [hleft, List.drop_append, List.drop_of_length_le hlength, List.nil_append,
            Nat.sub_sub]
      · rw [if_neg (by omega)] at hih ⊢
        obtain ⟨hvalue, hleft⟩ := hih
        refine ⟨?_, hleft⟩
        rw [hvalue]
        cases chunk with
        | nil => exact absurd rfl hchunk
        | cons byte chunk => cases payload <;> simp [endOfStream]
  | case4 payload stream hmore =>
      have hcount : payload.length = count := by omega
      rw [if_pos (by omega), hcount, Nat.sub_self, List.take_zero, List.append_nil,
        List.drop_zero]
      exact ⟨rfl, rfl⟩

/-- What a call of `read_json_frame` makes of the bytes that are still to come. -/
def parseFrame {β : Type} (decode : List UInt8 → Except FrameError β) (maximumBytes : ℕ)
    (bytes : List UInt8) : Except FrameError (Option β) × List UInt8 :=
  if maximumBytes = 0 ∨ maxSidecarFrameBytes < maximumBytes then
    (.error (.valueError "sidecar frame limit is invalid"), bytes)
  else if bytes = [] then (.ok none, [])
  else if bytes.length < 4 then (.error (.valueError "sidecar frame was truncated"), [])
  else
    let size := ofBigEndian (bytes.take 4)
    if size = 0 ∨ maximumBytes < size then
      (.error (.valueError "sidecar frame length is invalid"), bytes.drop 4)
    else if bytes.length < size + 4 then
      (.error (.valueError "sidecar frame was truncated"), [])
    else ((decode ((bytes.drop 4).take size)).map some, bytes.drop (size + 4))

/-- A call depends on the bytes alone, and takes no byte beyond its frame. -/
theorem readJsonFrame_eq {β : Type} (decode : List UInt8 → Except FrameError β) (maximumBytes : ℕ)
    (stream : InputStream) :
    (readJsonFrame decode maximumBytes stream).1 =
        (parseFrame decode maximumBytes stream.bytes).1 ∧
      (readJsonFrame decode maximumBytes stream).2.bytes =
        (parseFrame decode maximumBytes stream.bytes).2 := by
  unfold readJsonFrame parseFrame
  by_cases hlimit : maximumBytes = 0 ∨ maxSidecarFrameBytes < maximumBytes
  · simp only [if_pos hlimit, and_self]
  simp only [if_neg hlimit]
  have hheader := readExactBytes_eq 4 true [] stream (Nat.zero_le _)
  simp only [List.length_nil, Nat.zero_add, Nat.sub_zero, List.nil_append] at hheader
  generalize readExactBytes 4 true [] stream = header at hheader ⊢
  obtain ⟨header, rest⟩ := header
  by_cases hlong : 4 ≤ stream.bytes.length
  · rw [if_pos hlong] at hheader
    obtain ⟨hvalue, hrest⟩ := hheader
    dsimp only at hvalue hrest
    subst hvalue
    have hne : stream.bytes ≠ [] := by
      intro hnil
      rw [hnil, List.length_nil] at hlong
      omega
    simp only [if_neg hne, if_neg (Nat.not_lt.mpr hlong)]
    generalize ofBigEndian (stream.bytes.take 4) = size
    by_cases hsize : size = 0 ∨ maximumBytes < size
    · simp only [if_pos hsize, hrest, and_self]
    simp only [if_neg hsize]
    have hpayload := readExactBytes_eq size false [] rest (Nat.zero_le _)
    simp only [List.length_nil, Nat.zero_add, Nat.sub_zero, List.nil_append, hrest,
      List.length_drop] at hpayload
    generalize readExactBytes size false [] rest = payload at hpayload ⊢
    obtain ⟨payload, rest'⟩ := payload
    by_cases hwhole : stream.bytes.length < size + 4
    · rw [if_neg (by omega)] at hpayload
      obtain ⟨hvalue, hleft⟩ := hpayload
      dsimp only at hvalue hleft
      subst hvalue
      simp [if_pos hwhole, endOfStream, hleft]
    · rw [if_pos (by omega)] at hpayload
      obtain ⟨hvalue, hleft⟩ := hpayload
      dsimp only at hvalue hleft
      subst hvalue
      simp only [if_neg hwhole]
      rw [List.drop_drop, Nat.add_comm] at hleft
      cases decode ((stream.bytes.drop 4).take size) with
      | error error => exact ⟨rfl, hleft⟩
      | ok value => exact ⟨rfl, hleft⟩
  · rw [if_neg hlong] at hheader
    obtain ⟨hvalue, hrest⟩ := hheader
    dsimp only at hvalue hrest
    subst hvalue
    by_cases hnil : stream.bytes = []
    · simp [endOfStream, hnil, hrest]
    · simp [endOfStream, hnil, hrest, Nat.lt_of_not_le hlong]

/-- A frame that is there is read as such. -/
theorem parseFrame_frame {β : Type} (decode : List UInt8 → Except FrameError β)
    {maximumBytes : ℕ} (hmaximum : maximumBytes ≤ maxSidecarFrameBytes) {payload : List UInt8}
    (hpayload : payload ≠ []) (hlength : payload.length ≤ maximumBytes) (rest : List UInt8) :
    parseFrame decode maximumBytes (frame payload ++ rest) =
      ((decode payload).map some, rest) := by
  have hpos := List.length_pos_of_ne_nil hpayload
  have hwidth : payload.length < 256 ^ 4 := by
    have : maxSidecarFrameBytes < 256 ^ 4 := by decide
    omega
  unfold parseFrame
  rw [if_neg (by omega), if_neg (by simp [frame, bigEndian]), if_neg (by simp; omega), take_frame,
    ofBigEndian_bigEndian hwidth]
  dsimp only
  rw [if_neg (by omega), if_neg (by simp), drop_frame, List.take_left, ← length_frame,
    List.drop_left]

/-- A frame that is cut is not read. -/
theorem parseFrame_cut {β : Type} (decode : List UInt8 → Except FrameError β)
    {maximumBytes : ℕ} (hmaximum : maximumBytes ≤ maxSidecarFrameBytes) {payload : List UInt8}
    (hpayload : payload ≠ []) (hlength : payload.length ≤ maximumBytes) {bytes : List UInt8}
    (hcut : bytes <+: frame payload) (hne : bytes ≠ frame payload) :
    parseFrame decode maximumBytes bytes =
      (if bytes = [] then .ok none else .error (.valueError "sidecar frame was truncated"), []) := by
  have hpos := List.length_pos_of_ne_nil hpayload
  have hwidth : payload.length < 256 ^ 4 := by
    have : maxSidecarFrameBytes < 256 ^ 4 := by decide
    omega
  have hshort : bytes.length < payload.length + 4 := by
    rw [← length_frame]
    exact lt_of_le_of_ne hcut.length_le fun heq => hne (hcut.eq_of_length heq)
  unfold parseFrame
  rw [if_neg (by omega)]
  by_cases hnil : bytes = []
  · rw [if_pos hnil, if_pos hnil]
  rw [if_neg hnil, if_neg hnil]
  by_cases hheader : bytes.length < 4
  · rw [if_pos hheader]
  have htake : bytes.take 4 = bigEndian 4 payload.length := by
    obtain ⟨rest, hrest⟩ := hcut
    rw [← take_frame payload [], List.append_nil, ← hrest,
      List.take_append_of_le_length (by omega)]
  rw [if_neg hheader, htake, ofBigEndian_bigEndian hwidth]
  dsimp only
  rw [if_neg (by omega), if_pos hshort]

/-! ## Writing -/

/-- A writer that stops leaves a beginning of its data behind, and all of it when it is done. -/
theorem writeAll_cases (data : List UInt8) (stream : OutputStream) :
    ∃ taken, (writeAll data stream).2.written = stream.written ++ taken ∧ taken <+: data ∧
      ((writeAll data stream).1 = .ok () ↔ taken = data) := by
  fun_induction writeAll data stream with
  | case1 stream => exact ⟨[], by simp, List.nil_prefix, by simp⟩
  | case2 data stream hdata hwritten =>
      refine ⟨[], ?_, List.nil_prefix, ?_⟩
      · unfold OutputStream.write at hwritten ⊢
        have hpos := List.length_pos_of_ne_nil hdata
        cases haccepts : stream.accepts with
        | nil => simp
        | cons accept accepts =>
            rw [haccepts] at hwritten
            have hzero : accept = 0 := by
              have : min accept data.length = 0 := hwritten
              omega
            simp [hzero]
      · simpa using fun heq : data = [] => hdata heq
  | case3 data stream hdata hwritten ih =>
      obtain ⟨taken, hleft, hprefix, hdone⟩ := ih
      have hwrite : (stream.write data).2.written =
          stream.written ++ data.take (stream.write data).1 := by
        unfold OutputStream.write
        cases stream.accepts with
        | nil => simp
        | cons accept accepts =>
            show stream.written ++ data.take accept =
              stream.written ++ data.take (min accept data.length)
            rw [List.take_eq_take_min]
      refine ⟨data.take (stream.write data).1 ++ taken, ?_, ?_, ?_⟩
      · rw [hleft, hwrite, List.append_assoc]
      · obtain ⟨rest, hrest⟩ := hprefix
        exact ⟨rest, by rw [List.append_assoc, hrest, List.take_append_drop]⟩
      · rw [hdone]
        constructor
        · rintro rfl
          exact List.take_append_drop _ _
        · intro heq
          have hsplit := heq.trans (List.take_append_drop (stream.write data).1 data).symm
          exact List.append_cancel_left hsplit

/-- A payload that may be sent. -/
def Sendable (maximumBytes : ℕ) (payload : List UInt8) : Prop :=
  payload ≠ [] ∧ payload.length ≤ maximumBytes

/-- A frame is written whole, or cut; one that may not be sent leaves nothing behind. -/
theorem writeJsonFrame_cases {maximumBytes : ℕ} (hpositive : 0 < maximumBytes)
    (hmaximum : maximumBytes ≤ maxSidecarFrameBytes) (payload : List UInt8)
    (stream : OutputStream) :
    ((writeJsonFrame maximumBytes payload stream).1 = .ok () ∧ Sendable maximumBytes payload ∧
      (writeJsonFrame maximumBytes payload stream).2.written =
        stream.written ++ frame payload) ∨
    ((writeJsonFrame maximumBytes payload stream).1 ≠ .ok () ∧
      ∃ cut, (writeJsonFrame maximumBytes payload stream).2.written = stream.written ++ cut ∧
        (cut = [] ∨
          Sendable maximumBytes payload ∧ cut <+: frame payload ∧ cut ≠ frame payload)) := by
  unfold writeJsonFrame
  rw [if_neg (by omega)]
  split
  · exact .inr ⟨by simp, [], by simp, .inl rfl⟩
  · rename_i hsize
    have hsendable : Sendable maximumBytes payload := by
      refine ⟨fun hnil => hsize (.inl (by rw [hnil]; rfl)), ?_⟩
      omega
    obtain ⟨taken, hwritten, hprefix, hdone⟩ := writeAll_cases (frame payload) stream
    by_cases htaken : taken = frame payload
    · exact .inl ⟨hdone.mpr htaken, hsendable, by rw [hwritten, htaken]⟩
    · exact .inr ⟨fun hok => htaken (hdone.mp hok), taken, hwritten,
        .inr ⟨hsendable, hprefix, htaken⟩⟩

/-- Calls of `write_json_frame` until one raises. -/
def writeFrames (maximumBytes : ℕ) :
    List (List UInt8) → OutputStream → Except FrameError Unit × OutputStream
  | [], stream => (.ok (), stream)
  | payload :: payloads, stream =>
      match writeJsonFrame maximumBytes payload stream with
      | (.error error, stream) => (.error error, stream)
      | (.ok _, stream) => writeFrames maximumBytes payloads stream

/-- The bytes of whole frames. -/
def frames (payloads : List (List UInt8)) : List UInt8 := (payloads.map frame).flatten

/-- What is on the stream: so many whole frames, and perhaps a cut one. -/
theorem writeFrames_cases {maximumBytes : ℕ} (hpositive : 0 < maximumBytes)
    (hmaximum : maximumBytes ≤ maxSidecarFrameBytes) (payloads : List (List UInt8))
    (stream : OutputStream) :
    ∃ count ≤ payloads.length, ∃ cut,
      (writeFrames maximumBytes payloads stream).2.written =
        stream.written ++ (frames (payloads.take count) ++ cut) ∧
      (∀ payload ∈ payloads.take count, Sendable maximumBytes payload) ∧
      ((writeFrames maximumBytes payloads stream).1 = .ok () ↔ count = payloads.length) ∧
      (cut = [] ∨ ∃ payload, payloads[count]? = some payload ∧ Sendable maximumBytes payload ∧
        cut <+: frame payload ∧ cut ≠ frame payload) := by
  induction payloads generalizing stream with
  | nil => exact ⟨0, le_rfl, [], by simp [writeFrames, frames], by simp, by simp [writeFrames],
      .inl rfl⟩
  | cons payload payloads ih =>
      have hcases := writeJsonFrame_cases hpositive hmaximum payload stream
      unfold writeFrames
      generalize writeJsonFrame maximumBytes payload stream = result at hcases ⊢
      obtain ⟨outcome, after⟩ := result
      rcases hcases with ⟨hok, hsendable, hwritten⟩ | ⟨hfailed, cut, hwritten, hcut⟩
      · dsimp only at hok hwritten
        subst hok
        obtain ⟨count, hcount, cut, hrest, hall, hdone, hcut⟩ := ih after
        refine ⟨count + 1, by simpa using hcount, cut, ?_, ?_, ?_, ?_⟩
        · show (writeFrames maximumBytes payloads after).2.written = _
          rw [hrest, hwritten]
          simp [frames]
        · simpa [hsendable] using hall
        · show (writeFrames maximumBytes payloads after).1 = .ok () ↔ _
          simpa using hdone
        · rcases hcut with hnil | ⟨other, hother, hrest⟩
          · exact .inl hnil
          · exact .inr ⟨other, by rwa [List.getElem?_cons_succ], hrest⟩
      · cases outcome with
        | ok _ => exact absurd rfl hfailed
        | error error =>
            refine ⟨0, Nat.zero_le _, cut, by simpa [frames] using hwritten, by simp, by simp, ?_⟩
            rcases hcut with hnil | hrest
            · exact .inl hnil
            · exact .inr ⟨payload, rfl, hrest⟩

/-! ## The laws -/

/-- Calls of `read_json_frame` one after the other. -/
def readFrames {β : Type} (decode : List UInt8 → Except FrameError β) (maximumBytes : ℕ) :
    ℕ → InputStream → List (Except FrameError (Option β)) × InputStream
  | 0, stream => ([], stream)
  | calls + 1, stream =>
      let first := readJsonFrame decode maximumBytes stream
      let others := readFrames decode maximumBytes calls first.2
      (first.1 :: others.1, others.2)

theorem readFrames_frames {β : Type} (decode : List UInt8 → Except FrameError β)
    {maximumBytes : ℕ} (hmaximum : maximumBytes ≤ maxSidecarFrameBytes)
    {payloads : List (List UInt8)} (hall : ∀ payload ∈ payloads, Sendable maximumBytes payload)
    {cut : List UInt8} (calls : ℕ) {stream : InputStream}
    (hbytes : stream.bytes = frames payloads ++ cut) :
    ∃ after : InputStream, after.bytes = cut ∧
      readFrames decode maximumBytes (payloads.length + calls) stream =
        (payloads.map (fun payload => (decode payload).map some) ++
          (readFrames decode maximumBytes calls after).1,
          (readFrames decode maximumBytes calls after).2) := by
  induction payloads generalizing stream with
  | nil => exact ⟨stream, by simpa [frames] using hbytes, by simp⟩
  | cons payload payloads ih =>
      have hsendable := hall payload List.mem_cons_self
      obtain ⟨hvalue, hrest⟩ := readJsonFrame_eq decode maximumBytes stream
      have hsplit : stream.bytes = frame payload ++ (frames payloads ++ cut) := by
        rw [hbytes]
        simp [frames]
      rw [hsplit, parseFrame_frame decode hmaximum hsendable.1 hsendable.2] at hvalue hrest
      obtain ⟨after, hafter, hothers⟩ :=
        ih (fun other hother => hall other (List.mem_cons_of_mem _ hother)) hrest
      refine ⟨after, hafter, ?_⟩
      rw [List.length_cons, Nat.add_right_comm, readFrames]
      simp [hvalue, hothers]

/-- Frames cross a pipe whatever it does to them.  The writer's calls take as many bytes at a
time as they like and may stop anywhere; the reader gets the bytes in any pieces.  What is on
the pipe are the frames that were written whole and perhaps a cut one, the next one's.  The
reader gets the values that were written whole, in order and each of them once, and then the
end of the stream or, when a frame was cut, an error; it never gets anything of a cut frame. -/
theorem frames_law {β : Type} (encode : β → List UInt8)
    (decode : List UInt8 → Except FrameError β) (maximumBytes : ℕ)
    (hpositive : 0 < maximumBytes) (hmaximum : maximumBytes ≤ maxSidecarFrameBytes)
    (values : List β) (hdecode : ∀ value ∈ values, decode (encode value) = .ok value)
    (accepts : List ℕ) (stream : InputStream)
    (hstream : stream.bytes =
      (writeFrames maximumBytes (values.map encode) { accepts }).2.written) :
    ∃ count ≤ values.length, ∃ cut,
      stream.bytes = frames ((values.take count).map encode) ++ cut ∧
      (cut = [] ∨ ∃ value, values[count]? = some value ∧
        cut <+: frame (encode value) ∧ cut ≠ frame (encode value)) ∧
      ((writeFrames maximumBytes (values.map encode) { accepts }).1 = .ok () ↔
        count = values.length) ∧
      (∀ value ∈ values.take count, Sendable maximumBytes (encode value)) ∧
      (readFrames decode maximumBytes (count + 1) stream).1 =
        (values.take count).map (fun value => .ok (some value)) ++
          [if cut = [] then .ok none
            else .error (.valueError "sidecar frame was truncated")] ∧
      (readFrames decode maximumBytes (count + 1) stream).2.bytes = [] := by
  obtain ⟨count, hcount, cut, hwritten, hall, hdone, hcut⟩ :=
    writeFrames_cases hpositive hmaximum (values.map encode) { accepts }
  rw [hwritten, List.nil_append, ← List.map_take] at hstream
  rw [← List.map_take, List.forall_mem_map] at hall
  rw [List.length_map] at hcount hdone
  have hnext : cut = [] ∨ ∃ value, values[count]? = some value ∧
      Sendable maximumBytes (encode value) ∧ cut <+: frame (encode value) ∧
      cut ≠ frame (encode value) := by
    refine hcut.imp id fun ⟨payload, hpayload, hrest⟩ => ?_
    rw [List.getElem?_map, Option.map_eq_some_iff] at hpayload
    obtain ⟨value, hvalue, rfl⟩ := hpayload
    exact ⟨value, hvalue, hrest⟩
  have hlength : ((values.take count).map encode).length = count := by
    rw [List.length_map, List.length_take]
    omega
  obtain ⟨after, hafter, hread⟩ := readFrames_frames decode hmaximum
    (List.forall_mem_map.mpr hall) 1 hstream
  rw [hlength] at hread
  obtain ⟨hvalue, hrest⟩ := readJsonFrame_eq decode maximumBytes after
  have hparse : parseFrame decode maximumBytes after.bytes =
      (if cut = [] then .ok none else .error (.valueError "sidecar frame was truncated"), []) := by
    rw [hafter]
    rcases hnext with hnil | ⟨value, -, hsendable, hprefix, hne⟩
    · rw [hnil, if_pos rfl, parseFrame, if_neg (by omega), if_pos rfl]
    · exact parseFrame_cut decode hmaximum hsendable.1 hsendable.2 hprefix hne
  rw [hparse] at hvalue hrest
  have hvalues : ((values.take count).map encode).map
      (fun payload => (decode payload).map some) =
        (values.take count).map (fun value => .ok (some value)) := by
    rw [List.map_map]
    refine List.map_congr_left fun value hmem => ?_
    show (decode (encode value)).map some = _
    rw [hdecode value (List.mem_of_mem_take hmem)]
    rfl
  refine ⟨count, hcount, cut, hstream, ?_, hdone, hall, ?_, ?_⟩
  · exact hnext.imp id fun ⟨value, hnextValue, _, hprefix, hne⟩ =>
      ⟨value, hnextValue, hprefix, hne⟩
  · rw [hread, ← hvalues]
    simp [readFrames, hvalue]
  · rw [hread]
    exact hrest

/-- A decoder of numbers that were written twice. -/
def decodeTwice : List UInt8 → Except FrameError UInt8
  | [first, second] =>
      if first = second then .ok first else .error (.valueError "sidecar frame is invalid JSON")
  | _ => .error (.valueError "sidecar frame is invalid JSON")

/-- The second frame is cut behind its length. -/
theorem frames_law_cut :
    (writeFrames 8 [[7, 7], [8, 8]] { accepts := [1, 5, 4] }).1 ≠ .ok () ∧
      (readFrames decodeTwice 8 2 ⟨[[0], [0, 0, 2, 7, 7, 0, 0], [0, 2]], by decide⟩).1 =
        [.ok (some 7), .error (.valueError "sidecar frame was truncated")] := by
  have hwritten : (writeFrames 8 [[7, 7], [8, 8]] { accepts := [1, 5, 4] }).2.written =
      [0, 0, 0, 2, 7, 7, 0, 0, 0, 2] := by
    simp [writeFrames, writeJsonFrame, writeAll, OutputStream.write, frame, bigEndian,
      maxSidecarFrameBytes]
  obtain ⟨count, hcount, cut, hbytes, hcut, hdone, -, hread, -⟩ :=
    frames_law (fun number => [number, number]) decodeTwice 8 (by decide) (by decide) [7, 8]
      (by simp [decodeTwice]) [1, 5, 4] ⟨[[0], [0, 0, 2, 7, 7, 0, 0], [0, 2]], by decide⟩
      hwritten.symm
  have hlength := congrArg List.length hbytes
  simp only [InputStream.bytes, frames, List.length_append, List.length_flatten, List.map_map,
    List.flatten_cons, List.flatten_nil, List.length_cons, List.length_nil] at hlength
  have hshort : cut.length < 6 := by
    rcases hcut with hnil | ⟨value, -, hpart, hne⟩
    · simp [hnil]
    · exact lt_of_le_of_ne hpart.length_le fun heq => hne (hpart.eq_of_length heq)
  have hone : count = 1 := by
    have htwo : count ≤ 2 := hcount
    obtain rfl | rfl | rfl : count = 0 ∨ count = 1 ∨ count = 2 := by omega
    · simp at hlength
      omega
    · rfl
    · simp at hlength
      omega
  subst hone
  have hne : cut ≠ [] := by
    rintro rfl
    simp at hlength
  refine ⟨fun hok => absurd (hdone.mp hok) (by decide), ?_⟩
  rw [hread, if_neg hne]
  rfl

/-- What `read_json_frame` makes of a payload: `json.loads` raises, gives an object, or gives
something else. -/
def decodeObject {β : Type} (loads : List UInt8 → Option (Option β)) (payload : List UInt8) :
    Except FrameError β :=
  match loads payload with
  | none => .error (.valueError "sidecar frame is invalid JSON")
  | some none => .error (.valueError "sidecar frame must be a JSON object")
  | some (some value) => .ok value

/-- The decoder does not raise what the framing raises. -/
theorem decodeObject_ne {β : Type} (loads : List UInt8 → Option (Option β))
    (payload : List UInt8) :
    (decodeObject loads payload).map some ≠ .ok none ∧
      (decodeObject loads payload).map some ≠
        .error (.valueError "sidecar frame was truncated") ∧
      (decodeObject loads payload).map some ≠
        .error (.valueError "sidecar frame length is invalid") := by
  unfold decodeObject
  split <;> simp [Except.map]

/-- The bytes collected so far, as both sides see them. -/
theorem completedFramePayload_cases {β : Type} (decode : List UInt8 → Except FrameError β)
    {limit : ℕ} (hpositive : 0 < limit) (hmaximum : limit ≤ maxSidecarFrameBytes)
    (bytes : List UInt8) :
    (completedFramePayload bytes limit = .ok none ∧
      ((parseFrame decode limit bytes).1 = .ok none ∨
        (parseFrame decode limit bytes).1 =
          .error (.valueError "sidecar frame was truncated"))) ∨
    (completedFramePayload bytes limit = .error (.valueError "Invalid IPC frame size") ∧
      ((parseFrame decode limit bytes).1 =
          .error (.valueError "sidecar frame length is invalid") ∨
        ∃ payload, bytes = frame payload ++ (parseFrame decode limit bytes).2 ∧
          (parseFrame decode limit bytes).1 = (decode payload).map some ∧
          (parseFrame decode limit bytes).2 ≠ [])) ∨
    ∃ payload, completedFramePayload bytes limit = .ok (some payload) ∧
      Sendable limit payload ∧ bytes = frame payload ∧
      parseFrame decode limit bytes = ((decode payload).map some, []) := by
  unfold completedFramePayload parseFrame
  have hlimit : ¬ (limit = 0 ∨ maxSidecarFrameBytes < limit) := by omega
  simp only [if_neg hlimit]
  by_cases hshort : bytes.length < 4
  · rw [if_pos hshort]
    refine .inl ⟨rfl, ?_⟩
    by_cases hnil : bytes = []
    · rw [if_pos hnil]
      exact .inl rfl
    · rw [if_neg hnil, if_pos hshort]
      exact .inr rfl
  have hne : bytes ≠ [] := by
    rintro rfl
    exact hshort (by simp)
  simp only [if_neg hshort, if_neg hne]
  generalize hsize : ofBigEndian (bytes.take 4) = size
  by_cases hinvalid : size = 0 ∨ limit < size
  · rw [if_pos (by omega), if_pos hinvalid]
    exact .inr (.inl ⟨rfl, .inl rfl⟩)
  rw [if_neg hinvalid]
  by_cases hcut : bytes.length < size + 4
  · rw [if_neg (by omega), if_neg (by omega), if_pos hcut]
    exact .inl ⟨rfl, .inr rfl⟩
  rw [if_neg hcut]
  have hframe := eq_frame_append hsize (by omega)
  by_cases hlonger : size + 4 < bytes.length
  · rw [if_pos (by omega)]
    refine .inr (.inl ⟨rfl, .inr ⟨(bytes.drop 4).take size, hframe, rfl, fun hnil => ?_⟩⟩)
    have := List.drop_eq_nil_iff.mp hnil
    omega
  have hlength : bytes.length = size + 4 := by omega
  have hdrop : bytes.drop (size + 4) = [] := List.drop_eq_nil_of_le (by omega)
  have htake : (bytes.drop 4).take size = bytes.drop 4 :=
    List.take_of_length_le (by rw [List.length_drop]; omega)
  rw [hdrop, htake, List.append_nil] at hframe
  rw [if_neg (by omega), if_pos hlength, hdrop, htake]
  refine .inr (.inr ⟨bytes.drop 4, rfl, ⟨fun hnil => ?_, ?_⟩, hframe, rfl⟩)
  · have := List.drop_eq_nil_iff.mp hnil
    omega
  · rw [List.length_drop]
    omega

/-- What the shell writes is what the backend takes for one frame. -/
theorem writeFrame_eq_ok_iff {limit : ℕ} (hmaximum : limit ≤ maxSidecarFrameBytes)
    {payload bytes : List UInt8} :
    writeFrame payload limit = .ok bytes ↔ Sendable limit payload ∧ bytes = frame payload := by
  unfold writeFrame
  by_cases hsendable : Sendable limit payload
  · have hlimits := hsendable.2
    have hfits : ¬ (limit < payload.length ∨ maxSidecarFrameBytes < limit) := by omega
    rw [if_neg (not_or.mpr ⟨hsendable.1, hfits⟩)]
    simp [hsendable, eq_comm]
  · have hrefused : payload = [] ∨ limit < payload.length ∨ maxSidecarFrameBytes < limit := by
      by_contra hnot
      push Not at hnot
      exact hsendable ⟨hnot.1, hnot.2.1⟩
    rw [if_pos hrefused]
    simp [hsendable]

/-- The shell has a payload exactly when its own writer made the bytes of it. -/
theorem completedFramePayload_eq_some_iff {limit : ℕ} (hpositive : 0 < limit)
    (hmaximum : limit ≤ maxSidecarFrameBytes) {payload bytes : List UInt8} :
    completedFramePayload bytes limit = .ok (some payload) ↔
      writeFrame payload limit = .ok bytes := by
  rw [writeFrame_eq_ok_iff hmaximum]
  have hframe : Sendable limit payload → bytes = frame payload →
      parseFrame .ok limit bytes = (.ok (some payload), []) := by
    intro hsendable hbytes
    have h := parseFrame_frame (.ok : List UInt8 → Except FrameError _) hmaximum hsendable.1
      hsendable.2 []
    rw [List.append_nil, ← hbytes] at h
    exact h
  rcases completedFramePayload_cases .ok hpositive hmaximum bytes with
    ⟨hcompleted, hparse⟩ | ⟨hcompleted, hparse⟩ | ⟨other, hcompleted, hsendable, hbytes, hparse⟩
  · rw [hcompleted]
    refine iff_of_false (by simp) ?_
    rintro ⟨hsendable, hbytes⟩
    rw [hframe hsendable hbytes] at hparse
    simp at hparse
  · rw [hcompleted]
    refine iff_of_false (by simp) ?_
    rintro ⟨hsendable, hbytes⟩
    rw [hframe hsendable hbytes] at hparse
    simp at hparse
  · rw [hcompleted]
    constructor
    · intro hsame
      cases hsame
      exact ⟨hsendable, hbytes⟩
    · rintro ⟨hother, hbytes'⟩
      have h := hframe hother hbytes'
      rw [hparse] at h
      have hsame : other = payload := by simpa [Except.map] using h
      rw [hsame]

/-- The two sides of the pipe agree on all bytes, whatever `json.loads` makes of the payloads.
The shell's collector has a payload exactly when the bytes are what its own writer makes of the
payload, and exactly when the backend hands this payload to its decoder, returns or raises what
the decoder does, and nothing is left; it waits exactly when the backend finds the end of the
stream or a cut frame; and it rejects exactly when the backend rejects the length or finds
more bytes behind the frame. -/
theorem sides_law (limit : ℕ) (hpositive : 0 < limit) (hmaximum : limit ≤ maxSidecarFrameBytes)
    (stream : InputStream) :
    (∀ payload, (completedFramePayload stream.bytes limit = .ok (some payload) ↔
        writeFrame payload limit = .ok stream.bytes) ∧
      (completedFramePayload stream.bytes limit = .ok (some payload) ↔
        ∀ {β : Type} (loads : List UInt8 → Option (Option β)),
          (readJsonFrame (decodeObject loads) limit stream).1 =
              (decodeObject loads payload).map some ∧
            (readJsonFrame (decodeObject loads) limit stream).2.bytes = [])) ∧
    ∀ {β : Type} (loads : List UInt8 → Option (Option β)),
      (completedFramePayload stream.bytes limit = .ok none ↔
        (readJsonFrame (decodeObject loads) limit stream).1 = .ok none ∨
          (readJsonFrame (decodeObject loads) limit stream).1 =
            .error (.valueError "sidecar frame was truncated")) ∧
      (completedFramePayload stream.bytes limit =
          .error (.valueError "Invalid IPC frame size") ↔
        (readJsonFrame (decodeObject loads) limit stream).1 =
            .error (.valueError "sidecar frame length is invalid") ∨
          ∃ payload,
            stream.bytes =
              frame payload ++ (readJsonFrame (decodeObject loads) limit stream).2.bytes ∧
            (readJsonFrame (decodeObject loads) limit stream).1 =
              (decodeObject loads payload).map some ∧
            (readJsonFrame (decodeObject loads) limit stream).2.bytes ≠ []) := by
  refine ⟨fun payload => ⟨completedFramePayload_eq_some_iff hpositive hmaximum, ?_⟩, ?_⟩
  · constructor
    · intro hcompleted β loads
      obtain ⟨hvalue, hrest⟩ := readJsonFrame_eq (decodeObject loads) limit stream
      obtain ⟨hsendable, hbytes⟩ := (writeFrame_eq_ok_iff hmaximum).mp
        ((completedFramePayload_eq_some_iff hpositive hmaximum).mp hcompleted)
      have hparse := parseFrame_frame (decodeObject loads) hmaximum hsendable.1 hsendable.2 []
      rw [List.append_nil, ← hbytes] at hparse
      rw [hvalue, hrest, hparse]
      exact ⟨rfl, rfl⟩
    · intro hreads
      -- a decoder that keeps the payload tells which one was read
      obtain ⟨hread, hleft⟩ := hreads fun bytes => some (some bytes)
      obtain ⟨hvalue, hrest⟩ :=
        readJsonFrame_eq (decodeObject fun bytes => some (some bytes)) limit stream
      rw [hvalue] at hread
      rw [hrest] at hleft
      rcases completedFramePayload_cases (decodeObject fun bytes => some (some bytes)) hpositive
        hmaximum stream.bytes with
        ⟨-, hparse⟩ | ⟨-, hparse⟩ | ⟨other, hcompleted, -, -, hparse⟩
      · rw [hread] at hparse
        simp [decodeObject, Except.map] at hparse
      · rw [hread, hleft] at hparse
        simp [decodeObject, Except.map] at hparse
      · rw [hparse] at hread
        have hsame : other = payload := by simpa [decodeObject, Except.map] using hread
        rw [hcompleted, hsame]
  · intro β loads
    obtain ⟨hvalue, hrest⟩ := readJsonFrame_eq (decodeObject loads) limit stream
    simp only [hvalue, hrest]
    rcases completedFramePayload_cases (decodeObject loads) hpositive hmaximum stream.bytes with
      ⟨hcompleted, hparse⟩ | ⟨hcompleted, hparse⟩ | ⟨payload, hcompleted, -, -, hparse⟩
    · refine ⟨iff_of_true hcompleted hparse, ?_⟩
      rw [hcompleted]
      refine iff_of_false (by simp) ?_
      rintro (hinvalid | ⟨payload, -, hdecoded, -⟩)
      · rw [hinvalid] at hparse
        simp at hparse
      · obtain ⟨hnone, hcut, -⟩ := decodeObject_ne loads payload
        rw [hdecoded] at hparse
        exact hparse.elim hnone hcut
    · refine ⟨?_, iff_of_true hcompleted hparse⟩
      rw [hcompleted]
      refine iff_of_false (by simp) ?_
      intro hwaits
      rcases hparse with hinvalid | ⟨payload, -, hdecoded, -⟩
      · rw [hinvalid] at hwaits
        simp at hwaits
      · obtain ⟨hnone, hcut, -⟩ := decodeObject_ne loads payload
        rw [hdecoded] at hwaits
        exact hwaits.elim hnone hcut
    · obtain ⟨hnone, hcut, hinvalid⟩ := decodeObject_ne loads payload
      rw [hcompleted, hparse]
      exact ⟨iff_of_false (by simp) fun hwaits => hwaits.elim hnone hcut,
        iff_of_false (by simp) fun hrejects =>
          hrejects.elim hinvalid fun ⟨_, _, _, hleft⟩ => hleft rfl⟩

/-- The shell has a payload that is no JSON, and the backend says so. -/
theorem sides_law_two :
    completedFramePayload [0, 0, 0, 2, 7, 8] 8 = .ok (some [7, 8]) ∧
      (readJsonFrame (decodeObject fun _ => (none : Option (Option ℕ))) 8
          ⟨[[0, 0], [0, 2, 7, 8]], by decide⟩).1 =
        .error (.valueError "sidecar frame is invalid JSON") := by
  have hlaw := (sides_law 8 (by decide) (by decide)
    ⟨[[0, 0], [0, 2, 7, 8]], by decide⟩).1 [7, 8]
  have hcompleted := hlaw.1.mpr (by decide)
  exact ⟨hcompleted, (hlaw.2.mp hcompleted fun _ => none).1⟩

end Transport
