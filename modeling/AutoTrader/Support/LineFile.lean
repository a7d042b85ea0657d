import Mathlib

/-!
# Text files by lines

The bytes of a text and the lines of a file, as a writer appends and a reader splits them.

* `utf8Encode`, `utf8Decode` — the bytes of a text; a prefix of them that can be decoded
  is the bytes of a prefix of the text.
* `splitLines` — the lines of a file, the last one with or without its line feed.
* `foldLines` — a reader that goes through them, and what it preserves.
-/

namespace LineFile

/-! ## Text and bytes -/

/-- `str.encode("utf-8")`. -/
def utf8Encode (chars : List Char) : List UInt8 := chars.flatMap String.utf8EncodeChar

/-- `bytes.decode("utf-8")`. -/
def utf8Decode (bytes : List UInt8) : Option (List Char) :=
  bytes.toByteArray.utf8Decode?.map Array.toList

theorem toByteArray_utf8Encode (chars : List Char) :
    (utf8Encode chars).toByteArray = chars.utf8Encode := rfl

theorem utf8Decode_utf8Encode (chars : List Char) : utf8Decode (utf8Encode chars) = some chars := by
  rw [utf8Decode, toByteArray_utf8Encode, List.utf8Decode?_utf8Encode]
  rfl

/-- What can be decoded are the bytes of its text. -/
theorem toByteArray_of_utf8Decode {bytes : List UInt8} {chars : List Char}
    (h : utf8Decode bytes = some chars) : bytes.toByteArray = chars.utf8Encode := by
  obtain ⟨decoded, hdecoded, rfl⟩ := Option.map_eq_some_iff.mp h
  have hsome : bytes.toByteArray.utf8Decode?.isSome := by rw [hdecoded]; rfl
  have hencode := ByteArray.utf8Encode_get_utf8Decode? (b := bytes.toByteArray) (h := hsome)
  simp only [hdecoded, Option.get_some] at hencode
  exact hencode.symm

/-- A prefix of the bytes of a text that can be decoded is a prefix of the text. -/
theorem utf8Decode_of_append {bytes more : List UInt8} {text chars : List Char}
    (h : bytes ++ more = utf8Encode text) (hdecode : utf8Decode bytes = some chars) :
    ∃ rest, chars ++ rest = text ∧ (more ≠ [] → rest ≠ []) := by
  have hbytes := toByteArray_of_utf8Decode hdecode
  have happend : chars.utf8Encode ++ more.toByteArray = text.utf8Encode := by
    rw [← hbytes, ← toByteArray_utf8Encode, ← h, List.toByteArray_append]
  obtain ⟨rest, rfl⟩ := List.isPrefix_of_utf8Encode_append_eq_utf8Encode _ happend
  refine ⟨rest, rfl, fun hmore hrest => hmore ?_⟩
  subst hrest
  have hsize := congrArg ByteArray.size happend
  rw [List.append_nil, ByteArray.size_append, List.size_toByteArray] at hsize
  exact List.length_eq_zero_iff.mp (by omega)

theorem le_toNat_ofNat {n : ℕ} (hlow : 32 ≤ n) (hhigh : n < 256) : 32 ≤ (UInt8.ofNat n).toNat := by
  rw [UInt8.toNat_ofNat', Nat.mod_eq_of_lt hhigh]
  exact hlow

theorem le_of_mem_utf8EncodeChar {c : Char} (hc : 32 ≤ c.toNat) :
    ∀ b ∈ String.utf8EncodeChar c, 32 ≤ b.toNat := by
  intro b hb
  have hvalue : c.val.toNat = c.toNat := rfl
  simp only [String.utf8EncodeChar, hvalue] at hb
  split_ifs at hb
  all_goals
    simp only [List.mem_cons, List.not_mem_nil, or_false] at hb
    rcases hb with rfl | rfl | rfl | rfl
  all_goals exact le_toNat_ofNat (by omega) (by omega)

/-- A text without control characters has none in its bytes. -/
theorem le_of_mem_utf8Encode {chars : List Char} (h : ∀ c ∈ chars, 32 ≤ c.toNat) :
    ∀ b ∈ utf8Encode chars, 32 ≤ b.toNat := by
  intro b hb
  obtain ⟨c, hc, hb⟩ := List.mem_flatMap.mp hb
  exact le_of_mem_utf8EncodeChar (h c hc) b hb

/-! ## Lines -/

/-- A line of a file without its line feed, and whether there is one. -/
structure Line where
  bytes : List UInt8
  hasLineFeed : Bool
  deriving DecidableEq, Repr

/-- The line feed. -/
def lineFeed : UInt8 := 10

/-- The lines of a file: `readline` until the end. -/
def splitLines : List UInt8 → List Line
  | [] => []
  | b :: rest =>
      if b = lineFeed then ⟨[], true⟩ :: splitLines rest
      else match splitLines rest with
        | [] => [⟨[b], false⟩]
        | line :: lines => ⟨b :: line.bytes, line.hasLineFeed⟩ :: lines

attribute [local simp] splitLines

/-- The bytes of a line with its line feed. -/
def Line.length (line : Line) : ℕ := line.bytes.length + if line.hasLineFeed then 1 else 0

/-- A line that is ended. -/
theorem splitLines_line {bytes : List UInt8} (h : lineFeed ∉ bytes) (rest : List UInt8) :
    splitLines (bytes ++ lineFeed :: rest) = ⟨bytes, true⟩ :: splitLines rest := by
  induction bytes with
  | nil => rw [List.nil_append, splitLines, if_pos rfl]
  | cons b bytes ih =>
      obtain ⟨hb, hbytes⟩ := not_or.mp (List.mem_cons.not.mp h)
      rw [List.cons_append, splitLines, if_neg (Ne.symm hb), ih hbytes]

/-- A last line without a line feed. -/
theorem splitLines_last {bytes : List UInt8} (h : lineFeed ∉ bytes) (hne : bytes ≠ []) :
    splitLines bytes = [⟨bytes, false⟩] := by
  induction bytes with
  | nil => exact absurd rfl hne
  | cons b bytes ih =>
      obtain ⟨hb, hbytes⟩ := not_or.mp (List.mem_cons.not.mp h)
      rw [splitLines, if_neg (Ne.symm hb)]
      cases bytes with
      | nil => rfl
      | cons c bytes => rw [ih hbytes (List.cons_ne_nil c bytes)]

/-- The bytes of a line with its line feed. -/
def Line.toBytes (line : Line) : List UInt8 :=
  if line.hasLineFeed then line.bytes ++ [lineFeed] else line.bytes

/-- A file is its lines. -/
theorem flatMap_splitLines (file : List UInt8) : (splitLines file).flatMap Line.toBytes = file := by
  induction file with
  | nil => rfl
  | cons b rest ih =>
      rw [splitLines]
      split
      · rename_i hb
        rw [List.flatMap_cons, ih, hb]
        rfl
      · cases hlines : splitLines rest with
        | nil =>
            rw [hlines] at ih
            rw [← ih]
            rfl
        | cons line lines =>
            rw [hlines, List.flatMap_cons] at ih
            simp only [List.flatMap_cons, ← ih]
            unfold Line.toBytes
            split <;> simp

/-- No line has a line feed inside. -/
theorem lineFeed_notMem_splitLines (file : List UInt8) :
    ∀ line ∈ splitLines file, lineFeed ∉ line.bytes := by
  induction file with
  | nil => simp
  | cons b rest ih =>
      rw [splitLines]
      split
      · exact List.forall_mem_cons.mpr ⟨by simp, ih⟩
      · rename_i hb
        cases hlines : splitLines rest with
        | nil => simp [Ne.symm hb]
        | cons line lines =>
            rw [hlines] at ih
            obtain ⟨hline, hlines⟩ := List.forall_mem_cons.mp ih
            exact List.forall_mem_cons.mpr ⟨by simp [Ne.symm hb, hline], hlines⟩

/-- After ended lines the next ones begin. -/
theorem splitLines_flatMap {lines : List Line}
    (h : ∀ line ∈ lines, lineFeed ∉ line.bytes ∧ line.hasLineFeed = true) (rest : List UInt8) :
    splitLines (lines.flatMap Line.toBytes ++ rest) = lines ++ splitLines rest := by
  induction lines with
  | nil => rfl
  | cons line lines ih =>
      obtain ⟨⟨hbytes, hended⟩, hlines⟩ := List.forall_mem_cons.mp h
      have hline : line = ⟨line.bytes, true⟩ := by rw [← hended]
      rw [List.flatMap_cons, Line.toBytes, if_pos hended, List.append_assoc, List.append_assoc,
        List.singleton_append, splitLines_line hbytes, ih hlines, ← hline, List.cons_append]

/-- A file of ended lines goes on with a fresh line. -/
theorem splitLines_append {file : List UInt8}
    (h : ∀ line ∈ splitLines file, line.hasLineFeed = true) (rest : List UInt8) :
    splitLines (file ++ rest) = splitLines file ++ splitLines rest := by
  have hlines := splitLines_flatMap (fun line hline =>
    ⟨lineFeed_notMem_splitLines file line hline, h line hline⟩) rest
  rwa [flatMap_splitLines] at hlines

/-- A line without its line feed is the last one. -/
theorem splitLines_of_unended {bytes : List UInt8} {line : Line} {lines : List Line}
    (h : splitLines bytes = line :: lines) (hended : line.hasLineFeed = false) : lines = [] := by
  induction bytes generalizing line lines with
  | nil => cases h
  | cons b rest ih =>
      rw [splitLines] at h
      split at h
      · obtain ⟨rfl, -⟩ := List.cons.inj h
        cases hended
      · cases hrest : splitLines rest with
        | nil =>
            rw [hrest] at h
            exact (List.cons.inj h).2.symm
        | cons line' lines' =>
            rw [hrest] at h
            obtain ⟨rfl, rfl⟩ := List.cons.inj h
            exact ih hrest hended

theorem length_toBytes (line : Line) : line.toBytes.length = line.length := by
  unfold Line.toBytes Line.length
  split <;> simp

/-- After its first line a file goes on with the other ones. -/
theorem splitLines_tail {bytes : List UInt8} {line : Line} {lines : List Line}
    (h : splitLines bytes = line :: lines) :
    bytes = line.toBytes ++ lines.flatMap Line.toBytes ∧
      splitLines (lines.flatMap Line.toBytes) = lines := by
  have hbytes : bytes = line.toBytes ++ lines.flatMap Line.toBytes := by
    rw [← List.flatMap_cons, ← h, flatMap_splitLines]
  refine ⟨hbytes, ?_⟩
  cases hended : line.hasLineFeed with
  | false =>
      rw [splitLines_of_unended h hended]
      rfl
  | true =>
      have hline : lineFeed ∉ line.bytes :=
        lineFeed_notMem_splitLines bytes line (h ▸ List.mem_cons_self)
      have hsplit := @splitLines_flatMap [line] (by simpa using And.intro hline hended)
        (lines.flatMap Line.toBytes)
      rw [List.flatMap_singleton, ← hbytes, h, List.singleton_append] at hsplit
      exact (List.cons.inj hsplit).2.symm

/-- Only the last line may have no line feed. -/
theorem hasLineFeed_of_append {file : List UInt8} {whole rest : List Line}
    (h : splitLines file = whole ++ rest) (hrest : rest ≠ []) :
    ∀ line ∈ whole, lineFeed ∉ line.bytes ∧ line.hasLineFeed = true := by
  intro line hline
  refine ⟨lineFeed_notMem_splitLines file line (h ▸ List.mem_append_left rest hline), ?_⟩
  by_contra hended
  rw [Bool.not_eq_true] at hended
  induction whole generalizing file with
  | nil => cases hline
  | cons first whole ih =>
      rw [List.cons_append] at h
      rcases List.mem_cons.mp hline with rfl | hline
      · have hlast := splitLines_of_unended h hended
        exact hrest (List.append_eq_nil_iff.mp hlast).2
      · exact ih (splitLines_tail h).2 hline

/-! ## Readers -/

section Readers

variable {σ ε : Type} {step : Line → ℕ → σ → Except ε σ} {lines rest : List Line} {number : ℕ}
  {state state' : σ}

/-- A reader that takes the lines of a file one after another, with their numbers. -/
def foldLines (step : Line → ℕ → σ → Except ε σ) : List Line → ℕ → σ → Except ε σ
  | [], _, state => .ok state
  | line :: lines, number, state =>
      match step line number state with
      | .error error => .error error
      | .ok state => foldLines step lines (number + 1) state

theorem foldLines_cons_eq_ok {line : Line}
    (h : foldLines step (line :: lines) number state = .ok state') :
    ∃ next, step line number state = .ok next ∧
      foldLines step lines (number + 1) next = .ok state' := by
  rw [foldLines] at h
  split at h
  · cases h
  · rename_i next hnext
    exact ⟨next, hnext, h⟩

/-- The reader goes on where it was. -/
theorem foldLines_append (h : foldLines step lines number state = .ok state') :
    foldLines step (lines ++ rest) number state =
      foldLines step rest (number + lines.length) state' := by
  induction lines generalizing number state with
  | nil =>
      rw [← Except.ok.inj h]
      rfl
  | cons line lines ih =>
      obtain ⟨next, hnext, h⟩ := foldLines_cons_eq_ok h
      rw [List.cons_append, foldLines, hnext]
      dsimp only
      rw [ih h, List.length_cons, Nat.add_assoc, Nat.add_comm 1]

/-- What every line preserves the reader preserves. -/
theorem foldLines_preserves {property : σ → Prop}
    (hstep : ∀ line number state next, property state → step line number state = .ok next →
      property next)
    (hstate : property state) (h : foldLines step lines number state = .ok state') :
    property state' := by
  induction lines generalizing number state with
  | nil =>
      rw [← Except.ok.inj h]
      exact hstate
  | cons line lines ih =>
      obtain ⟨next, hnext, h⟩ := foldLines_cons_eq_ok h
      exact ih (hstep line number state next hstate hnext) h

/-- What is asked of every line holds of the lines that were read. -/
theorem forall_mem_of_foldLines {property : Line → Prop}
    (hstep : ∀ line number state next, step line number state = .ok next → property line)
    (h : foldLines step lines number state = .ok state') : ∀ line ∈ lines, property line := by
  induction lines generalizing number state with
  | nil => simp
  | cons line lines ih =>
      obtain ⟨next, hnext, h⟩ := foldLines_cons_eq_ok h
      exact List.forall_mem_cons.mpr ⟨hstep line number state next hnext, ih h⟩

end Readers

end LineFile
