import AutoTrader.Support.CaseMapping
import AutoTrader.Support.Except
import AutoTrader.Trading.History.Wire

/-!
# Names of exported files

`_validate_and_normalize_file_name` of `domain/history/csv_export_options.py`.

* `checkFileName` — the checks of a name, `FileNameRules` what they ask for.
* `hasCsvExtension` — the test of the extension; it folds the case of the whole name.
* `validateAndNormalizeFileName` — the name with its extension.
* `SafeFileName` — what a file name must be on every file system.
* `safeAndStable_iff` — names are safe and stable unless the extension is spelled with a
  long s.
-/

namespace Trading

/-- A refused option of an export: which one, and why. -/
structure CSVExportValidationError where
  field : String
  reason : String
  deriving DecidableEq, Repr

/-- `_WINDOWS_RESERVED_BASENAMES`. -/
def windowsReservedBasenames : List String :=
  ["AUX", "CON", "NUL", "PRN"] ++
    (List.range' 1 9).map (fun deviceNumber => "COM" ++ toString deviceNumber) ++
    (List.range' 1 9).map (fun deviceNumber => "LPT" ++ toString deviceNumber)

/-- `_WINDOWS_FORBIDDEN_CHARACTERS`. -/
def windowsForbiddenCharacters : List Char := ['<', '>', ':', '"', '|', '?', '*']

def csvExtension : List Char := ['.', 'c', 's', 'v']

/-- The category `Cc` of Unicode. -/
def isControl (c : Char) : Bool := c.toNat < 32 || (127 ≤ c.toNat && c.toNat ≤ 159)

/-- `str.strip()`. -/
def strip (text : List Char) : List Char := (text.dropWhile isSpace).rdropWhile isSpace

/-- The part before the first period, without blanks and periods at its end. -/
def basename (text : List Char) : List Char :=
  (text.takeWhile (· ≠ '.')).rdropWhile fun c => c == ' ' || c == '.'

/-- The name that Windows looks up among its devices. -/
def windowsBasename (text : List Char) : List Char := upperCase.text (basename text)

/-- A name that is refused. -/
def invalidFileName (reason : String) : CSVExportValidationError := ⟨"file_name", reason⟩

/-- The checks before the extension is looked at. -/
def checkFileName (text : List Char) : Except CSVExportValidationError Unit := do
  Except.require (text ≠ []) (invalidFileName "must_not_be_empty")
  Except.require (text = strip text) (invalidFileName "must_not_have_outer_whitespace")
  Except.require (¬ ('/' ∈ text ∨ '\\' ∈ text)) (invalidFileName "must_not_contain_path_separators")
  Except.require (¬ ['.', '.'] <:+: text) (invalidFileName "must_not_contain_traversal")
  Except.require (text.any isControl = false)
    (invalidFileName "must_not_contain_control_characters")
  Except.require (text.any (· ∈ windowsForbiddenCharacters) = false)
    (invalidFileName "must_not_contain_forbidden_characters")
  Except.require (¬ ['.'] <:+ text) (invalidFileName "must_not_end_with_a_period")
  Except.require (windowsBasename text ∉ windowsReservedBasenames.map String.toList)
    (invalidFileName "must_not_use_a_windows_reserved_name")

/-- `file_name.casefold().endswith(".csv")`. -/
def hasCsvExtension (text : List Char) : Bool := decide (csvExtension <:+ caseFolding.text text)

/-- `_validate_and_normalize_file_name`. -/
def validateAndNormalizeFileName (fileName : String) :
    Except CSVExportValidationError String := do
  checkFileName fileName.toList
  Except.require (¬ (hasCsvExtension fileName.toList = true ∧
      fileName.toList.length = csvExtension.length))
    (invalidFileName "must_have_a_non_empty_basename")
  return if hasCsvExtension fileName.toList then fileName else fileName ++ ".csv"

/-! ## The checks -/

/-- What the checks of a name ask for. -/
structure FileNameRules (text : List Char) : Prop where
  nonempty : text ≠ []
  stripped : text = strip text
  separators : '/' ∉ text ∧ '\\' ∉ text
  traversal : ¬ ['.', '.'] <:+: text
  control : ∀ c ∈ text, isControl c = false
  forbidden : ∀ c ∈ text, c ∉ windowsForbiddenCharacters
  ending : ¬ ['.'] <:+ text
  unreserved : windowsBasename text ∉ windowsReservedBasenames.map String.toList

variable {text : List Char} {fileName name : String}

theorem checkFileName_eq_ok_iff : checkFileName text = .ok () ↔ FileNameRules text := by
  unfold checkFileName
  simp only [Except.require_bind_eq_ok_iff, Except.require_eq_ok_iff, not_or, List.any_eq_false,
    decide_eq_true_eq]
  constructor
  · rintro ⟨h₁, h₂, h₃, h₄, h₅, h₆, h₇, h₈⟩
    exact ⟨h₁, h₂, h₃, h₄, fun c hc => by simpa using h₅ c hc, h₆, h₇, h₈⟩
  · rintro ⟨h₁, h₂, h₃, h₄, h₅, h₆, h₇, h₈⟩
    exact ⟨h₁, h₂, h₃, h₄, fun c hc => by simp [h₅ c hc], h₆, h₇, h₈⟩

/-- What a call of the normalisation returns. -/
theorem validateAndNormalizeFileName_eq_ok_iff :
    validateAndNormalizeFileName fileName = .ok name ↔ FileNameRules fileName.toList ∧
      if hasCsvExtension fileName.toList then
        fileName.toList.length ≠ csvExtension.length ∧ name = fileName
      else name = fileName ++ ".csv" := by
  unfold validateAndNormalizeFileName
  rw [Except.bind_eq_ok_iff]
  constructor
  · rintro ⟨u, hcheck, h⟩
    refine ⟨checkFileName_eq_ok_iff.mp hcheck, ?_⟩
    rw [Except.require_bind_eq_ok_iff] at h
    obtain ⟨hlength, h⟩ := h
    cases h
    split
    · rename_i hext
      exact ⟨fun heq => hlength ⟨hext, heq⟩, rfl⟩
    · rfl
  · rintro ⟨hrules, h⟩
    refine ⟨(), checkFileName_eq_ok_iff.mpr hrules, ?_⟩
    rw [Except.require_bind_eq_ok_iff]
    split at h
    · rename_i hext
      obtain ⟨hlength, rfl⟩ := h
      exact ⟨fun hboth => hlength hboth.2, by rw [if_pos hext]; rfl⟩
    · rename_i hext
      subst h
      exact ⟨fun hboth => hext hboth.1, by rw [if_neg hext]; rfl⟩

/-- Every error names the option it is about. -/
def OnFileName {α : Type} (result : Except CSVExportValidationError α) : Prop :=
  ∀ error, result = .error error → error.field = "file_name"

theorem OnFileName.bind {α β : Type} {result : Except CSVExportValidationError α}
    {rest : α → Except CSVExportValidationError β} (h : OnFileName result)
    (hrest : ∀ a, OnFileName (rest a)) : OnFileName (result >>= rest) := by
  cases result with
  | ok a => exact hrest a
  | error error =>
      rintro _ ⟨⟩
      exact h error rfl

theorem onFileName_require (condition : Prop) [Decidable condition] (reason : String) :
    OnFileName (Except.require condition (invalidFileName reason)) := by
  unfold Except.require
  split
  · rintro error ⟨⟩
  · rintro _ ⟨⟩
    rfl

theorem onFileName_checkFileName (text : List Char) : OnFileName (checkFileName text) := by
  unfold checkFileName
  iterate 7 refine (onFileName_require _ _).bind fun _ => ?_
  exact onFileName_require _ _

theorem onFileName_validateAndNormalizeFileName (fileName : String) :
    OnFileName (validateAndNormalizeFileName fileName) := by
  unfold validateAndNormalizeFileName
  refine (onFileName_checkFileName _).bind fun _ => ?_
  refine (onFileName_require _ _).bind fun _ => ?_
  rintro error ⟨⟩

/-! ## The extension -/

/-- The characters that fold to a text with the given one. -/
theorem mem_of_mem_caseFolding {c source : Char} {sources : List Char} (hc : 0 < c.toNat)
    (hsources : (caseFolding.sources c.toNat).map Char.ofNat = sources)
    (h : c ∈ caseFolding.char source) : source ∈ sources := by
  rw [← hsources]
  exact CaseMapping.mem_sources_of_mem_char hc h

theorem caseFolding_special_ne_nil : ∀ entry ∈ caseFolding.special, entry.2 ≠ [] := by
  decide +kernel

/-- What the characters of the extension fold to, and those that fold to two letters of it. -/
theorem caseFolding_letters : ∀ entry ∈
    [('.', ['.']), ('c', ['c']), ('C', ['c']), ('s', ['s']), ('S', ['s']), ('ſ', ['s']),
      ('v', ['v']), ('V', ['v']), ('ß', ['s', 's']), ('ẞ', ['s', 's']), ('ﬅ', ['s', 't']),
      ('ﬆ', ['s', 't'])],
    caseFolding.char entry.1 = entry.2 := by decide +kernel

theorem caseFolding_period : caseFolding.char '.' = ['.'] :=
  caseFolding_letters ('.', ['.']) (by simp)

theorem caseFolding_c {c : Char} (h : c = 'c' ∨ c = 'C') : caseFolding.char c = ['c'] := by
  rcases h with rfl | rfl
  · exact caseFolding_letters ('c', ['c']) (by simp)
  · exact caseFolding_letters ('C', ['c']) (by simp)

theorem caseFolding_s {s : Char} (h : s = 's' ∨ s = 'S' ∨ s = 'ſ') :
    caseFolding.char s = ['s'] := by
  rcases h with rfl | rfl | rfl
  · exact caseFolding_letters ('s', ['s']) (by simp)
  · exact caseFolding_letters ('S', ['s']) (by simp)
  · exact caseFolding_letters ('ſ', ['s']) (by simp)

theorem caseFolding_v {v : Char} (h : v = 'v' ∨ v = 'V') : caseFolding.char v = ['v'] := by
  rcases h with rfl | rfl
  · exact caseFolding_letters ('v', ['v']) (by simp)
  · exact caseFolding_letters ('V', ['v']) (by simp)

/-- A folded text that ends with a character: its last character folds to a text with it. -/
theorem exists_last (before : List Char) {c : Char}
    (h : before ++ [c] <:+ caseFolding.text text) :
    ∃ init last, text = init ++ [last] ∧ c ∈ caseFolding.char last ∧
      before ++ [c] <:+ caseFolding.text init ++ caseFolding.char last :=
  CaseMapping.exists_of_concat_suffix caseFolding_special_ne_nil h

/-- What is before it, when the last character folds to it alone. -/
theorem suffix_of_concat_suffix {before init : List Char} {c last : Char}
    (hlast : caseFolding.char last = [c])
    (h : before ++ [c] <:+ caseFolding.text init ++ caseFolding.char last) :
    before <:+ caseFolding.text init := by
  rw [hlast] at h
  obtain ⟨rest, hrest⟩ := h
  rw [← List.append_assoc] at hrest
  exact ⟨rest, (List.append_inj' hrest rfl).1⟩

/-- A character that folds to two letters is none of the extension. -/
theorem not_suffix_of_two {init : List Char} {source a b : Char}
    (hsource : caseFolding.char source = [a, b]) (ha : a ≠ 'c') :
    ¬ ['.', 'c'] ++ ['s'] <:+ caseFolding.text init ++ caseFolding.char source := by
  rintro ⟨rest, hrest⟩
  rw [hsource] at hrest
  have hsplit : (rest ++ ['.']) ++ ['c', 's'] = caseFolding.text init ++ [a, b] := by
    rw [← hrest]
    simp
  have htwo := (List.append_inj' hsplit rfl).2
  exact ha (List.cons.inj htwo).1.symm

theorem eq_of_cs_suffix {init : List Char} {s : Char}
    (hmem : s ∈ ['s', 'S', 'ſ', 'ß', 'ẞ', 'ﬅ', 'ﬆ'])
    (h : ['.', 'c'] ++ ['s'] <:+ caseFolding.text init ++ caseFolding.char s) :
    s = 's' ∨ s = 'S' ∨ s = 'ſ' := by
  have hsharp := caseFolding_letters ('ß', ['s', 's']) (by simp)
  have hcapital := caseFolding_letters ('ẞ', ['s', 's']) (by simp)
  have hlong := caseFolding_letters ('ﬅ', ['s', 't']) (by simp)
  have hligature := caseFolding_letters ('ﬆ', ['s', 't']) (by simp)
  simp only [List.mem_cons, List.not_mem_nil, or_false] at hmem
  rcases hmem with rfl | rfl | rfl | rfl | rfl | rfl | rfl
  · exact .inl rfl
  · exact .inr (.inl rfl)
  · exact .inr (.inr rfl)
  · exact absurd h (not_suffix_of_two hsharp (by decide))
  · exact absurd h (not_suffix_of_two hcapital (by decide))
  · exact absurd h (not_suffix_of_two hlong (by decide))
  · exact absurd h (not_suffix_of_two hligature (by decide))

/-- The test of the extension takes the case variants of `.csv`, and those with a long s. -/
theorem hasCsvExtension_iff : hasCsvExtension text = true ↔
    ∃ base c s v, text = base ++ ['.', c, s, v] ∧ (c = 'c' ∨ c = 'C') ∧
      (s = 's' ∨ s = 'S' ∨ s = 'ſ') ∧ (v = 'v' ∨ v = 'V') := by
  unfold hasCsvExtension
  rw [decide_eq_true_iff]
  constructor
  · intro h
    obtain ⟨text₁, v, rfl, hv, h⟩ := exists_last ['.', 'c', 's'] h
    have hv : v ∈ ['v', 'V'] := mem_of_mem_caseFolding (by decide) (by decide +kernel) hv
    have hv : v = 'v' ∨ v = 'V' := by simpa using hv
    obtain ⟨text₂, s, rfl, hs, h⟩ :=
      exists_last ['.', 'c'] (suffix_of_concat_suffix (caseFolding_v hv) h)
    have hs := eq_of_cs_suffix (mem_of_mem_caseFolding (by decide) (by decide +kernel) hs) h
    obtain ⟨text₃, c, rfl, hc, h⟩ :=
      exists_last ['.'] (suffix_of_concat_suffix (caseFolding_s hs) h)
    have hc : c ∈ ['c', 'C'] := mem_of_mem_caseFolding (by decide) (by decide +kernel) hc
    have hc : c = 'c' ∨ c = 'C' := by simpa using hc
    obtain ⟨base, period, rfl, hperiod, -⟩ :=
      exists_last [] (suffix_of_concat_suffix (caseFolding_c hc) h)
    have hperiod : period ∈ ['.'] := mem_of_mem_caseFolding (by decide) (by decide +kernel) hperiod
    obtain rfl := List.mem_singleton.mp hperiod
    exact ⟨base, c, s, v, by simp, hc, hs, hv⟩
  · rintro ⟨base, c, s, v, rfl, hc, hs, hv⟩
    have hfold : caseFolding.text ['.', c, s, v] = csvExtension := by
      simp only [CaseMapping.text, List.flatMap_cons, List.flatMap_nil, caseFolding_period,
        caseFolding_c hc, caseFolding_s hs, caseFolding_v hv]
      rfl
    rw [CaseMapping.text_append, hfold]
    exact List.suffix_append _ _

/-! ## A name with its extension -/

theorem strip_eq_self_iff : strip text = text ↔
    (∀ c ∈ text.head?, isSpace c = false) ∧ ∀ c ∈ text.getLast?, isSpace c = false := by
  have hleft : text.dropWhile isSpace = text ↔ ∀ c ∈ text.head?, isSpace c = false := by
    cases text with
    | nil => simp
    | cons c rest => rw [List.dropWhile_eq_self_iff]; simp
  have hright : text.rdropWhile isSpace = text ↔ ∀ c ∈ text.getLast?, isSpace c = false := by
    rcases List.eq_nil_or_concat' text with rfl | ⟨init, last, rfl⟩
    · simp
    · rw [List.rdropWhile_eq_self_iff]
      simp
  rw [← hleft, ← hright]
  unfold strip
  constructor
  · intro h
    have hprefix := (List.rdropWhile_prefix isSpace (l := text.dropWhile isSpace)).length_le
    have hsuffix := List.dropWhile_suffix isSpace (l := text)
    have hdrop : text.dropWhile isSpace = text := by
      refine hsuffix.eq_of_length (le_antisymm hsuffix.length_le ?_)
      rwa [h] at hprefix
    rw [hdrop] at h
    exact ⟨hdrop, h⟩
  · rintro ⟨hdrop, hrdrop⟩
    rw [hdrop, hrdrop]

/-- The part before the first period does not change when an extension follows. -/
theorem basename_append_csvExtension : basename (text ++ csvExtension) = basename text := by
  have htake : (text ++ csvExtension).takeWhile (· ≠ '.') = text.takeWhile (· ≠ '.') := by
    induction text with
    | nil => rfl
    | cons c rest ih =>
        rw [List.cons_append, List.takeWhile_cons, List.takeWhile_cons, ih]
  unfold basename
  rw [htake]

/-- No two periods follow each other. -/
theorem no_traversal_iff : ¬ ['.', '.'] <:+: text ↔
    text.IsChain fun a b => ¬ (a = '.' ∧ b = '.') := by
  rw [List.isChain_iff_forall_rel_of_append_cons_cons]
  constructor
  · rintro h a b before after rfl ⟨rfl, rfl⟩
    exact h ⟨before, after, by simp⟩
  · rintro h ⟨before, after, rfl⟩
    exact @h '.' '.' before after (by simp) ⟨rfl, rfl⟩

/-- A checked name stays one when the extension is appended. -/
theorem FileNameRules.append (h : FileNameRules text) : FileNameRules (text ++ csvExtension) where
  nonempty := by simp [h.nonempty]
  stripped := by
    obtain ⟨hhead, -⟩ := strip_eq_self_iff.mp h.stripped.symm
    refine (strip_eq_self_iff.mpr ⟨?_, ?_⟩).symm
    · rw [List.head?_append_of_ne_nil _ h.nonempty]
      exact hhead
    · intro c hc
      rw [List.getLast?_append] at hc
      obtain rfl : c = 'v' := by simpa [csvExtension] using hc.symm
      decide
  separators := by
    obtain ⟨hslash, hbackslash⟩ := h.separators
    simp [csvExtension, hslash, hbackslash]
  traversal := by
    have htext := no_traversal_iff.mp h.traversal
    refine no_traversal_iff.mpr (htext.append ?_ ?_)
    · rw [csvExtension]
      decide
    · rintro c hc d - ⟨rfl, -⟩
      exact h.ending ⟨text.dropLast, List.dropLast_append_getLast? '.' hc⟩
  control := by
    intro c hc
    rcases List.mem_append.mp hc with hc | hc
    · exact h.control c hc
    · have hall : csvExtension.any isControl = false := by decide
      exact Bool.eq_false_of_not_eq_true (List.any_eq_false.mp hall c hc)
  forbidden := by
    intro c hc
    rcases List.mem_append.mp hc with hc | hc
    · exact h.forbidden c hc
    · have hall : csvExtension.any (· ∈ windowsForbiddenCharacters) = false := by decide
      simpa using List.any_eq_false.mp hall c hc
  ending := by
    rintro ⟨before, hbefore⟩
    have hlast := congrArg List.getLast? hbefore
    rw [List.getLast?_append, List.getLast?_append] at hlast
    have hlast : some '.' = some 'v' := hlast
    cases hlast
  unreserved := by
    unfold windowsBasename
    rw [basename_append_csvExtension]
    exact h.unreserved

/-! ## Safe names -/

/-- What the name of a file must be on every file system. -/
structure SafeFileName (name : List Char) : Prop where
  extension : ∃ base ext, name = base ++ ext ∧ base ≠ [] ∧ ext.map Char.toLower = csvExtension
  separators : '/' ∉ name ∧ '\\' ∉ name
  traversal : ¬ ['.', '.'] <:+: name
  control : ∀ c ∈ name, isControl c = false
  forbidden : ∀ c ∈ name, c ∉ windowsForbiddenCharacters
  ending : ∀ c ∈ name.getLast?, c ≠ '.' ∧ isSpace c = false
  unreserved : (basename name).map Char.toUpper ∉ windowsReservedBasenames.map String.toList

/-- Every name that is returned is safe, and is returned unchanged the next time. -/
def SafeAndStable (fileName : String) : Prop :=
  ∀ name, validateAndNormalizeFileName fileName = .ok name →
    SafeFileName name.toList ∧ validateAndNormalizeFileName name = .ok name

/-- The extension is a case variant of `.csv` with the long s, U+017F. -/
def HasLongSExtension (text : List Char) : Prop :=
  ∃ base c v, base ≠ [] ∧ text = base ++ ['.', c, 'ſ', v] ∧ (c = 'c' ∨ c = 'C') ∧
    (v = 'v' ∨ v = 'V')

/-- The letters of ASCII in `upperCase`. -/
def asciiRun : CaseRun := ⟨0x61, 0x7A, 1, -32⟩

theorem upperCase_ascii {c : Char} (hc : c.toNat < 128) : upperCase.char c = [c.toUpper] := by
  have hruns : upperCase.runs = asciiRun :: upperCase.runs.tail := rfl
  have hcodes := CaseMapping.codes_of_lt hruns (by decide +kernel) (by decide +kernel) hc
  have hall : ((List.range 128).all fun code =>
      (if asciiRun.covers code then [asciiRun.target code] else [code]) ==
        [(Char.ofNat code).toUpper.toNat]) = true := by decide +kernel
  have hcode := eq_of_beq (List.all_eq_true.mp hall c.toNat (List.mem_range.mpr hc))
  rw [Char.ofNat_toNat] at hcode
  unfold CaseMapping.char
  rw [hcodes, hcode, List.map_singleton, Char.ofNat_toNat]

theorem toNat_lt_of_toUpper {c : Char} (h : c.toUpper.toNat < 128) : c.toNat < 128 := by
  unfold Char.toUpper at h
  split at h
  · rename_i hlower
    have hz : c.toNat ≤ 122 := UInt32.le_iff_toNat_le.mp hlower.2
    omega
  · exact h

/-- On the device names upper-casing does what it does on ASCII. -/
theorem upperCase_of_reserved {basename : List Char}
    (h : basename.map Char.toUpper ∈ windowsReservedBasenames.map String.toList) :
    upperCase.text basename = basename.map Char.toUpper := by
  have hall : (windowsReservedBasenames.map String.toList).all
      (fun device => device.all fun c => decide (c.toNat < 128)) = true := by decide +kernel
  have hdevice := List.all_eq_true.mp (List.all_eq_true.mp hall _ h)
  have hascii : ∀ c ∈ basename, upperCase.char c = [c.toUpper] := by
    intro c hc
    have hupper := hdevice c.toUpper (List.mem_map_of_mem hc)
    exact upperCase_ascii (toNat_lt_of_toUpper (of_decide_eq_true hupper))
  unfold CaseMapping.text
  rw [List.flatMap_congr hascii, List.map_eq_flatMap]

theorem FileNameRules.safe (h : FileNameRules text)
    (hextension : ∃ base ext, text = base ++ ext ∧ base ≠ [] ∧
      ext.map Char.toLower = csvExtension) : SafeFileName text := by
  refine ⟨hextension, h.separators, h.traversal, h.control, h.forbidden, ?_, ?_⟩
  · intro c hc
    refine ⟨?_, (strip_eq_self_iff.mp h.stripped.symm).2 c hc⟩
    rintro rfl
    exact h.ending ⟨text.dropLast, List.dropLast_append_getLast? '.' hc⟩
  · intro hreserved
    refine h.unreserved ?_
    unfold windowsBasename
    rwa [upperCase_of_reserved hreserved]

/-- A returned name is safe and is returned unchanged unless the name that was given has an
extension with a long s: folding takes it for an s. -/
theorem safeAndStable_iff : SafeAndStable fileName ↔
    ¬ (FileNameRules fileName.toList ∧ HasLongSExtension fileName.toList) := by
  constructor
  · rintro h ⟨hrules, base, c, v, hbase, htext, hc, hv⟩
    have hext : hasCsvExtension fileName.toList = true :=
      hasCsvExtension_iff.mpr ⟨base, c, 'ſ', v, htext, hc, .inr (.inr rfl), hv⟩
    have hlength : fileName.toList.length ≠ csvExtension.length := by
      have hpos := List.length_pos_iff.mpr hbase
      rw [htext, List.length_append]
      simp [csvExtension]
      omega
    have hreturned : validateAndNormalizeFileName fileName = .ok fileName := by
      rw [validateAndNormalizeFileName_eq_ok_iff, if_pos hext]
      exact ⟨hrules, hlength, rfl⟩
    obtain ⟨⟨⟨base', ext, hsplit, -, hlower⟩, -⟩, -⟩ := h fileName hreturned
    have hextLength : ext.length = 4 := by
      have hmap := congrArg List.length hlower
      simpa [csvExtension] using hmap
    rw [htext] at hsplit
    obtain ⟨-, rfl⟩ := List.append_inj' hsplit hextLength.symm
    have hthird : 'ſ'.toLower = 's' := by
      simp only [csvExtension, List.map_cons, List.cons.injEq] at hlower
      exact hlower.2.2.1
    exact absurd hthird (by decide)
  · intro hlong name hname
    obtain ⟨hrules, hcase⟩ := validateAndNormalizeFileName_eq_ok_iff.mp hname
    by_cases hext : hasCsvExtension fileName.toList = true
    · rw [if_pos hext] at hcase
      obtain ⟨hlength, rfl⟩ := hcase
      refine ⟨hrules.safe ?_, hname⟩
      obtain ⟨base, c, s, v, htext, hc, hs, hv⟩ := hasCsvExtension_iff.mp hext
      have hbase : base ≠ [] := by
        rintro rfl
        exact hlength (by rw [htext]; rfl)
      refine ⟨base, ['.', c, s, v], htext, hbase, ?_⟩
      rcases hs with rfl | rfl | rfl
      · rcases hc with rfl | rfl <;> rcases hv with rfl | rfl <;> decide
      · rcases hc with rfl | rfl <;> rcases hv with rfl | rfl <;> decide
      · exact absurd ⟨hrules, base, c, v, hbase, htext, hc, hv⟩ hlong
    · rw [if_neg hext] at hcase
      subst hcase
      have htext : (fileName ++ ".csv").toList = fileName.toList ++ csvExtension := by
        rw [String.toList_append]
        rfl
      have hagain : hasCsvExtension (fileName ++ ".csv").toList = true :=
        hasCsvExtension_iff.mpr
          ⟨fileName.toList, 'c', 's', 'v', htext, .inl rfl, .inl rfl, .inl rfl⟩
      have hrules' : FileNameRules (fileName ++ ".csv").toList := htext ▸ hrules.append
      have hlength : (fileName ++ ".csv").toList.length ≠ csvExtension.length := by
        have hpos := List.length_pos_iff.mpr hrules.nonempty
        rw [htext, List.length_append]
        omega
      refine ⟨hrules'.safe ⟨fileName.toList, csvExtension, htext, hrules.nonempty, by decide⟩, ?_⟩
      rw [validateAndNormalizeFileName_eq_ok_iff, if_pos hagain]
      exact ⟨hrules', hlength, rfl⟩

/-- A name with a long s in its extension is returned as it is. -/
theorem not_safeAndStable_longS :
    validateAndNormalizeFileName "trades.cſv" = .ok "trades.cſv" ∧
      ¬ SafeAndStable "trades.cſv" := by
  have hreturned : validateAndNormalizeFileName "trades.cſv" = .ok "trades.cſv" := by
    decide +kernel
  refine ⟨hreturned, fun h => ?_⟩
  obtain ⟨⟨⟨base, ext, hsplit, -, hlower⟩, -⟩, -⟩ := h _ hreturned
  have hextLength : ext.length = 4 := by
    have hmap := congrArg List.length hlower
    simpa [csvExtension] using hmap
  have htext : "trades.cſv".toList = "trades".toList ++ ['.', 'c', 'ſ', 'v'] := by decide
  rw [htext] at hsplit
  obtain ⟨-, rfl⟩ := List.append_inj' hsplit hextLength.symm
  exact absurd hlower (by decide)

end Trading
