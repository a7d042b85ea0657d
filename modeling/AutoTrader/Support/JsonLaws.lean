import AutoTrader.Support.Json

/-!
# Laws of compact JSON

* `loadsValue_dumps`, `loads_dumps` — the reader inverts the writer.
* `loadsValue_append` — a value that was read does not depend on what
  follows it, nor on spare fuel.
* `loads_of_prefix` — the text of an object has no proper prefix that can be read.
* `printable_dumps` — the text of a value has no control characters, so no line break.
* `Reader` — any reader of JSON texts that has these two laws; `compact` is the one above.
-/

namespace Json

/-! ## Strings and numerals -/

theorem hexValue_digitChar : ∀ d, d < 16 → hexValue (Nat.digitChar d) = some d := by
  decide

theorem unicodeEscape_control {c : Char} (hc : c.toNat < 32) :
    unicodeEscape '0' '0' (Nat.digitChar (c.toNat / 16)) (Nat.digitChar (c.toNat % 16)) =
      some c := by
  have hzero : hexValue '0' = some 0 := by decide
  have hhigh := hexValue_digitChar (c.toNat / 16) (by omega)
  have hlow := hexValue_digitChar (c.toNat % 16) (by omega)
  have hcode : c.toNat / 16 * 16 + c.toNat % 16 = c.toNat := by omega
  simp only [unicodeEscape, hzero, hhigh, hlow, Option.bind_eq_bind, Option.bind_some, Nat.zero_mul,
    Nat.zero_add, hcode]
  rw [if_pos (.inl (by omega)), Char.ofNat_toNat]

theorem loadsString_escapeChar (c : Char) (rest : List Char) :
    loadsString (escapeChar c ++ rest) =
      (loadsString rest).map fun (text, rest) => (c :: text, rest) := by
  unfold escapeChar
  split
  · rename_i h
    subst h
    rfl
  split
  · rename_i h
    subst h
    rfl
  split
  · rename_i h
    subst h
    rfl
  split
  · rename_i h
    subst h
    rfl
  split
  · rename_i h
    subst h
    rfl
  split
  · rename_i h
    subst h
    rfl
  split
  · rename_i h
    subst h
    rfl
  split
  · rename_i h
    simp only [List.cons_append, List.nil_append, loadsString, unicodeEscape_control h]
  · rename_i hquote hbackslash _ _ _ _ _ hcontrol
    simp only [List.singleton_append]
    rw [loadsString.eq_def]
    split
    · rename_i heq
      cases heq
    · rename_i heq
      cases heq
      exact absurd rfl hquote
    · rename_i heq
      cases heq
      exact absurd rfl hbackslash
    · rename_i heq
      cases heq
      exact absurd rfl hbackslash
    · rename_i heq
      cases heq
      rw [if_neg (by simp [hcontrol, hbackslash])]

/-- A written string is read back. -/
theorem loadsString_dumps (text rest : List Char) :
    loadsString (text.flatMap escapeChar ++ '"' :: rest) = some (text, rest) := by
  induction text with
  | nil => simp [loadsString]
  | cons c text ih =>
      rw [List.flatMap_cons, List.append_assoc, loadsString_escapeChar, ih]
      rfl

/-- A text that does not continue a numeral. -/
def EndsNumeral (rest : List Char) : Prop := ∀ c ∈ rest.head?, c.isDigit = false

theorem endsNumeral_nil : EndsNumeral [] := by simp [EndsNumeral]

theorem endsNumeral_cons {c : Char} {rest : List Char} (h : c.isDigit = false) :
    EndsNumeral (c :: rest) := by
  intro d hd
  cases hd
  exact h

theorem takeWhile_isDigit_append {digits rest : List Char} (hdigits : ∀ c ∈ digits, c.isDigit = true)
    (hrest : EndsNumeral rest) :
    (digits ++ rest).takeWhile Char.isDigit = digits ∧
      (digits ++ rest).dropWhile Char.isDigit = rest := by
  rw [List.takeWhile_append_of_pos hdigits, List.dropWhile_append_of_pos hdigits]
  cases rest with
  | nil => simp
  | cons c rest =>
      have hc := hrest c rfl
      simp [hc]

/-- A decimal numeral starts with a zero only when it is that zero. -/
theorem toDigits_cases (n : ℕ) : Nat.toDigits 10 n = ['0'] ∧ n = 0 ∨
    ∃ c digits, Nat.toDigits 10 n = c :: digits ∧ c ≠ '0' ∧
      ∀ d ∈ c :: digits, d.isDigit = true := by
  induction n using Nat.strong_induction_on with
  | _ n ih =>
      have hdigits : ∀ d ∈ Nat.toDigits 10 n, d.isDigit = true := fun d hd =>
        Nat.isDigit_of_mem_toDigits (by omega) (by omega) hd
      by_cases hn : n < 10
      · rw [Nat.toDigits_of_lt_base hn] at hdigits ⊢
        by_cases hzero : n = 0
        · subst hzero
          exact .inl ⟨rfl, rfl⟩
        · exact .inr ⟨_, [], rfl, by simpa using hzero, hdigits⟩
      · have hsplit := Nat.toDigits_append_toDigits (b := 10) (n := n / 10) (d := n % 10) (by omega)
          (by omega) (by omega)
        rw [Nat.div_add_mod] at hsplit
        rcases ih (n / 10) (by omega) with ⟨-, hzero⟩ | ⟨c, digits, hhead, hc, -⟩
        · omega
        · refine .inr ⟨c, digits ++ Nat.toDigits 10 (n % 10), ?_, hc, ?_⟩
          · rw [← hsplit, hhead, List.cons_append]
          · rw [← List.cons_append, ← hhead, hsplit]
            exact hdigits

theorem loadsNat_toDigits (n : ℕ) {rest : List Char} (hrest : EndsNumeral rest) :
    loadsNat (Nat.toDigits 10 n ++ rest) = some (n, rest) := by
  rcases toDigits_cases n with ⟨hdigits, rfl⟩ | ⟨c, digits, hdigits, hc, hall⟩
  · rw [hdigits]
    rfl
  · have htail := takeWhile_isDigit_append (fun d hd => hall d (List.mem_cons_of_mem _ hd)) hrest
    have hvalue : Nat.ofDigitChars 10 (c :: digits) 0 = n := by
      rw [← hdigits]
      exact Nat.ofDigitChars_ten_toDigits
    rw [hdigits, List.cons_append, loadsNat.eq_def]
    split
    · rename_i heq
      cases heq
      exact absurd rfl hc
    · rename_i heq
      cases heq
      rw [if_pos (hall c List.mem_cons_self), htail.1, htail.2, hvalue]
    · rename_i heq
      cases heq

/-! ## Values -/

theorem loadsValue_of_isDigit {c : Char} (hc : c.isDigit = true) (fuel : ℕ) (rest : List Char) :
    loadsValue (fuel + 1) (c :: rest) =
      (loadsNat (c :: rest)).map fun (n, rest) => (.int n, rest) := by
  rw [loadsValue.eq_def]
  dsimp only
  split
  all_goals first
    | rfl
    | (rename_i heq
       cases heq
       exact absurd hc (by decide))

theorem loadsValue_dumpsInt (n : Int) (fuel : ℕ) {rest : List Char} (hrest : EndsNumeral rest) :
    loadsValue (fuel + 1) (dumpsInt n ++ rest) = some (.int n, rest) := by
  cases n with
  | ofNat n =>
      have hloads := loadsNat_toDigits n hrest
      rcases toDigits_cases n with ⟨hdigits, -⟩ | ⟨c, digits, hdigits, -, hall⟩
      · rw [hdigits] at hloads
        rw [dumpsInt, hdigits, List.cons_append, loadsValue_of_isDigit (by decide),
          ← List.cons_append, hloads]
        rfl
      · rw [hdigits] at hloads
        rw [dumpsInt, hdigits, List.cons_append, loadsValue_of_isDigit (hall c List.mem_cons_self),
          ← List.cons_append, hloads]
        rfl
  | negSucc n =>
      simp only [dumpsInt, List.cons_append, loadsValue, loadsNat_toDigits (n + 1) hrest,
        Option.map_some]
      rfl

/-- No value begins with a closing bracket. -/
theorem dumps_ne_close (value : JsonValue) (rest : List Char) :
    ∃ c chars, dumps value ++ rest = c :: chars ∧ c ≠ ']' := by
  cases value with
  | null => exact ⟨_, _, rfl, by decide⟩
  | bool b => cases b <;> exact ⟨_, _, rfl, by decide⟩
  | int n =>
      cases n with
      | ofNat n =>
          rcases toDigits_cases n with ⟨hdigits, -⟩ | ⟨c, digits, hdigits, -, hall⟩
          · exact ⟨'0', rest, by rw [dumps, dumpsInt, hdigits]; rfl, by decide⟩
          · refine ⟨c, digits ++ rest, by rw [dumps, dumpsInt, hdigits]; rfl, ?_⟩
            rintro rfl
            exact absurd (hall ']' List.mem_cons_self) (by decide)
      | negSucc n => exact ⟨_, _, rfl, by decide⟩
  | string text => exact ⟨_, _, rfl, by decide⟩
  | array items => cases items <;> exact ⟨_, _, rfl, by decide⟩
  | object members =>
      cases members with
      | nil => exact ⟨_, _, rfl, by decide⟩
      | cons member members => exact ⟨_, _, rfl, by decide⟩

theorem loadsValue_array {c : Char} (hc : c ≠ ']') (fuel : ℕ) (rest : List Char) :
    loadsValue (fuel + 1) ('[' :: c :: rest) =
      (loadsItems (loadsValue fuel) ']' fuel (c :: rest)).map fun (items, rest) =>
        (.array items, rest) := by
  rw [loadsValue.eq_def]
  dsimp only
  split
  all_goals first
    | rfl
    | (rename_i heq
       cases heq
       exact absurd rfl hc)
    | (rename_i heq
       cases heq
       rfl)
    | simp_all

theorem loadsValue_object (fuel : ℕ) (rest : List Char) :
    loadsValue (fuel + 1) ('{' :: '"' :: rest) =
      (loadsItems (loadsMember (loadsValue fuel)) '}' fuel ('"' :: rest)).map
        fun (members, rest) => (.object members, rest) := rfl

theorem endsNumeral_dumpsItems (items : List JsonValue) (rest : List Char) :
    EndsNumeral (dumpsItems items ++ rest) := by
  cases items <;> exact endsNumeral_cons (by decide)

theorem endsNumeral_dumpsMembers (members : List (String × JsonValue)) (rest : List Char) :
    EndsNumeral (dumpsMembers members ++ rest) := by
  rcases members with _ | ⟨⟨key, value⟩, members⟩ <;> exact endsNumeral_cons (by decide)

/-- A member is read back when its value is. -/
theorem loadsMember_dumps {value : List Char → Option (JsonValue × List Char)} {key : String}
    {item : JsonValue} {rest : List Char} (h : value (dumps item ++ rest) = some (item, rest)) :
    loadsMember value (dumpsString key.toList ++ ':' :: (dumps item ++ rest)) =
      some ((key, item), rest) := by
  simp only [dumpsString, List.cons_append, List.append_assoc, List.nil_append, loadsMember,
    loadsString_dumps, h, Option.map_some, String.ofList_toList]

/-- The last item, or the next one. -/
theorem loadsItems_last {α : Type} {item : List Char → Option (α × List Char)} {close : Char}
    {fuel : ℕ} {chars rest : List Char} {first : α}
    (h : item chars = some (first, close :: rest)) (hclose : close ≠ ',') :
    loadsItems item close (fuel + 1) chars = some ([first], rest) := by
  rw [loadsItems, h]
  dsimp only
  split
  all_goals simp_all

theorem loadsItems_next {α : Type} {item : List Char → Option (α × List Char)} {close : Char}
    {fuel : ℕ} {chars middle rest : List Char} {first : α} {items : List α}
    (h : item chars = some (first, ',' :: middle))
    (htail : loadsItems item close fuel middle = some (items, rest)) :
    loadsItems item close (fuel + 1) chars = some (first :: items, rest) := by
  rw [loadsItems, h]
  simp [htail]

/-- The reader inverts the writer on values whose text is shorter than the fuel. -/
def Inverts (fuel : ℕ) : Prop :=
  ∀ (value : JsonValue) (rest : List Char), (dumps value).length < fuel → EndsNumeral rest →
    loadsValue fuel (dumps value ++ rest) = some (value, rest)

/-- The items of an array are read back when values are. -/
theorem loadsItems_dumps {fuel : ℕ} (hvalues : Inverts fuel) (item : JsonValue)
    (items : List JsonValue) (count : ℕ) (rest : List Char)
    (hfuel : (dumps item).length + (dumpsItems items).length ≤ fuel)
    (hcount : (dumps item).length + (dumpsItems items).length ≤ count) :
    loadsItems (loadsValue fuel) ']' count (dumps item ++ (dumpsItems items ++ rest)) =
      some (item :: items, rest) := by
  induction items generalizing item count with
  | nil =>
      simp only [dumpsItems, List.length_cons, List.length_nil] at hfuel hcount
      obtain ⟨count, rfl⟩ := Nat.exists_eq_add_of_lt (show 0 < count by omega)
      have hitem := hvalues item (dumpsItems [] ++ rest) (by omega)
        (endsNumeral_dumpsItems [] rest)
      rw [Nat.zero_add]
      exact loadsItems_last hitem (by decide)
  | cons next items ih =>
      simp only [dumpsItems, List.length_cons, List.length_append] at hfuel hcount
      obtain ⟨count, rfl⟩ := Nat.exists_eq_add_of_lt (show 0 < count by omega)
      have hitem := hvalues item (dumpsItems (next :: items) ++ rest) (by omega)
        (endsNumeral_dumpsItems (next :: items) rest)
      have htail := ih next count (by omega) (by omega)
      have hsplit : dumpsItems (next :: items) ++ rest =
          ',' :: (dumps next ++ (dumpsItems items ++ rest)) := by
        simp [dumpsItems]
      rw [Nat.zero_add]
      rw [hsplit] at hitem ⊢
      exact loadsItems_next hitem htail

/-- The members of an object are read back when values are. -/
theorem loadsMembers_dumps {fuel : ℕ} (hvalues : Inverts fuel) (key : String) (value : JsonValue)
    (members : List (String × JsonValue)) (count : ℕ) (rest : List Char)
    (hfuel : (dumps value).length + (dumpsMembers members).length ≤ fuel)
    (hcount : (dumps value).length + (dumpsMembers members).length ≤ count) :
    loadsItems (loadsMember (loadsValue fuel)) '}' count
        (dumpsString key.toList ++ ':' :: (dumps value ++ (dumpsMembers members ++ rest))) =
      some ((key, value) :: members, rest) := by
  induction members generalizing key value count with
  | nil =>
      simp only [dumpsMembers, List.length_cons, List.length_nil] at hfuel hcount
      obtain ⟨count, rfl⟩ := Nat.exists_eq_add_of_lt (show 0 < count by omega)
      have hvalue := hvalues value (dumpsMembers [] ++ rest) (by omega)
        (endsNumeral_dumpsMembers [] rest)
      rw [Nat.zero_add]
      exact loadsItems_last (loadsMember_dumps hvalue) (by decide)
  | cons member members ih =>
      obtain ⟨nextKey, next⟩ := member
      simp only [dumpsMembers, List.length_cons, List.length_append] at hfuel hcount
      obtain ⟨count, rfl⟩ := Nat.exists_eq_add_of_lt (show 0 < count by omega)
      have hvalue := hvalues value (dumpsMembers ((nextKey, next) :: members) ++ rest) (by omega)
        (endsNumeral_dumpsMembers ((nextKey, next) :: members) rest)
      have htail := ih nextKey next count (by omega) (by omega)
      have hsplit : dumpsMembers ((nextKey, next) :: members) ++ rest =
          ',' :: (dumpsString nextKey.toList ++
            ':' :: (dumps next ++ (dumpsMembers members ++ rest))) := by
        simp [dumpsMembers]
      rw [Nat.zero_add]
      rw [hsplit] at hvalue ⊢
      exact loadsItems_next (loadsMember_dumps hvalue) htail

/-- A written value is read back, whatever follows it. -/
theorem loadsValue_dumps (fuel : ℕ) : Inverts fuel := by
  induction fuel with
  | zero => exact fun value rest hfuel => absurd hfuel (Nat.not_lt_zero _)
  | succ fuel ih =>
      intro value rest hfuel hrest
      cases value with
      | null => simp [dumps, loadsValue]
      | bool b => cases b <;> simp [dumps, loadsValue]
      | int n =>
          rw [dumps]
          exact loadsValue_dumpsInt n fuel hrest
      | string text =>
          simp only [dumps, dumpsString, List.cons_append, List.append_assoc, List.nil_append,
            loadsValue, loadsString_dumps, Option.map_some, String.ofList_toList]
      | array items =>
          cases items with
          | nil => simp [dumps, loadsValue]
          | cons item items =>
              simp only [dumps, List.length_cons, List.length_append] at hfuel
              have hitems := loadsItems_dumps ih item items fuel rest (by omega) (by omega)
              obtain ⟨c, chars, hhead, hc⟩ := dumps_ne_close item (dumpsItems items ++ rest)
              rw [dumps, List.cons_append, List.append_assoc, hhead, loadsValue_array hc, ← hhead,
                hitems]
              rfl
      | object members =>
          cases members with
          | nil => simp [dumps, loadsValue]
          | cons member members =>
              obtain ⟨key, value⟩ := member
              simp only [dumps, List.length_cons, List.length_append] at hfuel
              have hmembers := loadsMembers_dumps ih key value members fuel rest (by omega)
                (by omega)
              simp only [dumps, dumpsString, List.cons_append, List.append_assoc] at hmembers ⊢
              rw [loadsValue_object, hmembers]
              rfl

/-- `json.loads` inverts `json.dumps`. -/
theorem loads_dumps (value : JsonValue) : loads (dumps value) = some value := by
  have h := loadsValue_dumps ((dumps value).length + 1) value [] (Nat.lt_succ_self _)
    endsNumeral_nil
  rw [List.append_nil] at h
  rw [loads, h]

/-! ## What follows a value -/

theorem loadsString_append {chars text rest : List Char} (h : loadsString chars = some (text, rest))
    (more : List Char) : loadsString (chars ++ more) = some (text, rest ++ more) := by
  induction chars using loadsString.induct generalizing text with
  | case1 => cases h
  | case2 tail =>
      cases h
      rfl
  | case3 a b c d tail hnone =>
      rw [loadsString, hnone] at h
      cases h
  | case4 a b c d tail char hsome ih =>
      rw [loadsString, hsome] at h
      obtain ⟨⟨inner, after⟩, hinner, heq⟩ := Option.map_eq_some_iff.mp h
      cases heq
      simp only [List.cons_append, loadsString, hsome, ih hinner, Option.map_some]
  | case5 c tail hu hnone =>
      rw [loadsString.eq_4 _ _ hu, hnone] at h
      cases h
  | case6 c tail hu char hsome ih =>
      rw [loadsString.eq_4 _ _ hu, hsome] at h
      obtain ⟨⟨inner, after⟩, hinner, heq⟩ := Option.map_eq_some_iff.mp h
      cases heq
      have hc : c ≠ 'u' := by
        rintro rfl
        cases hsome
      simp only [List.cons_append]
      rw [loadsString.eq_4 _ _ (by rintro _ _ _ _ _ rfl; exact absurd rfl hc), hsome, ih hinner]
      rfl
  | case7 c tail hquote hu hescape hcontrol =>
      rw [loadsString.eq_5 _ _ hquote hu hescape, if_pos hcontrol] at h
      cases h
  | case8 c tail hquote hu hescape hcontrol ih =>
      rw [loadsString.eq_5 _ _ hquote hu hescape, if_neg hcontrol] at h
      obtain ⟨⟨inner, after⟩, hinner, heq⟩ := Option.map_eq_some_iff.mp h
      cases heq
      have hbackslash : c ≠ '\\' := fun heq => hcontrol (.inr heq)
      simp only [List.cons_append]
      rw [loadsString.eq_5 _ _ hquote (by rintro _ _ _ _ _ rfl; exact absurd rfl hbackslash)
        (by rintro _ _ rfl; exact absurd rfl hbackslash), if_neg hcontrol, ih hinner]
      rfl

theorem loadsNat_append {chars rest : List Char} {n : ℕ} (h : loadsNat chars = some (n, rest))
    (hrest : rest ≠ []) (more : List Char) : loadsNat (chars ++ more) = some (n, rest ++ more) := by
  rw [loadsNat.eq_def] at h
  split at h
  · cases h
    rfl
  · rename_i c tail hc
    split at h
    · rename_i hdigit
      cases h
      have htake : (tail ++ more).takeWhile Char.isDigit = tail.takeWhile Char.isDigit := by
        rw [List.takeWhile_append, if_neg]
        intro hlength
        have hsplit := congrArg List.length
          (@List.takeWhile_append_dropWhile _ Char.isDigit tail)
        rw [List.length_append] at hsplit
        exact hrest (List.eq_nil_of_length_eq_zero (by omega))
      have hdrop : (tail ++ more).dropWhile Char.isDigit = tail.dropWhile Char.isDigit ++ more := by
        rw [List.dropWhile_append, if_neg (by simpa using hrest)]
      rw [List.cons_append, loadsNat.eq_2 _ _ hc, if_pos hdigit, htake, hdrop]
    · cases h
  · cases h

/-- A reader whose answers do not depend on what follows, and that finds `next` at least
what `item` finds. -/
def Extends {α : Type} (item next : List Char → Option (α × List Char)) : Prop :=
  ∀ {chars rest : List Char} {value : α}, item chars = some (value, rest) → rest ≠ [] →
    ∀ more, next (chars ++ more) = some (value, rest ++ more)

theorem loadsItems_append {α : Type} {item next : List Char → Option (α × List Char)}
    {close : Char} (hitem : Extends item next) {fuel spare : ℕ} {chars rest : List Char}
    {items : List α} (hfuel : fuel ≤ spare)
    (h : loadsItems item close fuel chars = some (items, rest)) (more : List Char) :
    loadsItems next close spare (chars ++ more) = some (items, rest ++ more) := by
  induction fuel generalizing spare chars items with
  | zero => cases h
  | succ fuel ih =>
      obtain ⟨spare, rfl⟩ := Nat.exists_eq_add_of_lt (show 0 < spare by omega)
      rw [Nat.zero_add] at hfuel ⊢
      rw [loadsItems] at h
      split at h
      · cases h
      · rename_i first tail hfirst
        obtain ⟨⟨inner, after⟩, hinner, heq⟩ := Option.map_eq_some_iff.mp h
        cases heq
        exact loadsItems_next (hitem hfirst (by simp) more) (ih (by omega) hinner)
      · rename_i first c tail hc hfirst
        split at h
        · rename_i hclose
          subst hclose
          cases h
          exact loadsItems_last (hitem hfirst (by simp) more) (fun heq => hc heq)
        · cases h
      · cases h

theorem loadsMember_extends {value next : List Char → Option (JsonValue × List Char)}
    (hvalue : Extends value next) : Extends (loadsMember value) (loadsMember next) := by
  intro chars rest member h hrest more
  rw [loadsMember.eq_def] at h
  split at h
  · split at h
    · rename_i key tail hkey
      obtain ⟨⟨inner, after⟩, hinner, heq⟩ := Option.map_eq_some_iff.mp h
      cases heq
      simp only [List.cons_append, loadsMember, loadsString_append hkey,
        hvalue hinner hrest more, Option.map_some]
    · cases h
  · cases h

theorem loadsMember_head {value : List Char → Option (JsonValue × List Char)}
    {chars rest : List Char} {member : String × JsonValue}
    (h : loadsMember value chars = some (member, rest)) : ∃ tail, chars = '"' :: tail := by
  rw [loadsMember.eq_def] at h
  split at h
  · exact ⟨_, rfl⟩
  · cases h

theorem loadsItems_head {α : Type} {item : List Char → Option (α × List Char)} {close : Char}
    {fuel : ℕ} {chars rest : List Char} {items : List α}
    (h : loadsItems item close fuel chars = some (items, rest)) :
    ∃ first after, item chars = some (first, after) := by
  cases fuel with
  | zero => cases h
  | succ fuel =>
      rw [loadsItems] at h
      cases hitem : item chars with
      | none =>
          rw [hitem] at h
          cases h
      | some answer => exact ⟨answer.1, answer.2, rfl⟩

theorem loadsNat_head {chars rest : List Char} {n : ℕ} (h : loadsNat chars = some (n, rest)) :
    ∃ c tail, chars = c :: tail ∧ c.isDigit = true := by
  rw [loadsNat.eq_def] at h
  split at h
  · exact ⟨_, _, rfl, by decide⟩
  · split at h
    · exact ⟨_, _, rfl, by assumption⟩
    · cases h
  · cases h

/-- Nothing is read from an empty text. -/
theorem loadsValue_nil (fuel : ℕ) : loadsValue fuel [] = none := by
  cases fuel <;> rfl

/-- A value is read up to its end: something follows it, or it is an object. -/
def Delimited (value : JsonValue) (rest : List Char) : Prop :=
  rest ≠ [] ∨ ∃ members, value = .object members

/-- A value that was read is read again, whatever more follows and with any more fuel. -/
theorem loadsValue_append {fuel spare : ℕ} {chars rest : List Char} {value : JsonValue}
    (hfuel : fuel ≤ spare) (h : loadsValue fuel chars = some (value, rest))
    (hrest : Delimited value rest) (more : List Char) :
    loadsValue spare (chars ++ more) = some (value, rest ++ more) := by
  induction fuel generalizing spare chars rest value more with
  | zero => cases h
  | succ fuel ih =>
      obtain ⟨spare, rfl⟩ := Nat.exists_eq_add_of_lt (show 0 < spare by omega)
      rw [Nat.zero_add] at hfuel ⊢
      have hvalues : Extends (loadsValue fuel) (loadsValue spare) :=
        fun hvalue hrest more => ih (by omega) hvalue (.inl hrest) more
      rw [loadsValue.eq_def] at h
      dsimp only at h
      split at h
      · cases h; rfl
      · cases h; rfl
      · cases h; rfl
      · obtain ⟨⟨text, after⟩, htext, heq⟩ := Option.map_eq_some_iff.mp h
        cases heq
        simp only [List.cons_append, loadsValue, loadsString_append htext, Option.map_some]
      · cases h; rfl
      · rename_i tail hclose
        obtain ⟨⟨items, after⟩, hitems, heq⟩ := Option.map_eq_some_iff.mp h
        cases heq
        have happend := loadsItems_append hvalues (show fuel ≤ spare by omega) hitems more
        cases tail with
        | nil =>
            obtain ⟨first, after, hfirst⟩ := loadsItems_head hitems
            rw [loadsValue_nil] at hfirst
            cases hfirst
        | cons c tail =>
            rw [List.cons_append, List.cons_append,
              loadsValue_array (by rintro rfl; exact hclose _ rfl), ← List.cons_append, happend]
            rfl
      · cases h; rfl
      · rename_i tail hclose
        obtain ⟨⟨members, after⟩, hmembers, heq⟩ := Option.map_eq_some_iff.mp h
        cases heq
        have happend := loadsItems_append (loadsMember_extends hvalues) (show fuel ≤ spare by omega)
          hmembers more
        obtain ⟨first, after, hfirst⟩ := loadsItems_head hmembers
        obtain ⟨tail, rfl⟩ := loadsMember_head hfirst
        rw [List.cons_append, List.cons_append, loadsValue_object, ← List.cons_append, happend]
        rfl
      · obtain ⟨⟨n, after⟩, hn, heq⟩ := Option.map_eq_some_iff.mp h
        cases heq
        have hsome := hrest.resolve_right (by simp)
        simp only [List.cons_append, loadsValue, loadsNat_append hn hsome, Option.map_some]
      · obtain ⟨⟨n, after⟩, hn, heq⟩ := Option.map_eq_some_iff.mp h
        cases heq
        have hsome := hrest.resolve_right (by simp)
        obtain ⟨c, tail, rfl, hc⟩ := loadsNat_head hn
        rw [List.cons_append, loadsValue_of_isDigit hc, ← List.cons_append,
          loadsNat_append hn hsome]
        rfl

/-- A text that begins like an object is read as an object. -/
theorem loadsValue_brace {fuel : ℕ} {chars rest : List Char} {value : JsonValue}
    (h : loadsValue fuel ('{' :: chars) = some (value, rest)) :
    ∃ members, value = .object members := by
  cases fuel with
  | zero => cases h
  | succ fuel =>
      rw [loadsValue.eq_def] at h
      dsimp only at h
      split at h
      case h_7 =>
        cases h
        exact ⟨[], rfl⟩
      case h_8 =>
        obtain ⟨⟨members, after⟩, -, heq⟩ := Option.map_eq_some_iff.mp h
        cases heq
        exact ⟨members, rfl⟩
      all_goals simp_all

/-- No proper prefix of the text of an object can be read. -/
theorem loads_of_prefix {members : List (String × JsonValue)} {chars more : List Char}
    (h : chars ++ more = dumps (.object members)) (hmore : more ≠ []) : loads chars = none := by
  cases chars with
  | nil => rfl
  | cons c tail =>
      have hc : c = '{' := by
        cases members with
        | nil => exact (List.cons.inj h).1
        | cons member members => exact (List.cons.inj h).1
      subst hc
      rw [loads]
      split
      · rename_i value hvalue
        have hfull := loadsValue_dumps ((dumps (.object members)).length + 1) (.object members) []
          (Nat.lt_succ_self _) endsNumeral_nil
        have hlength := congrArg List.length h
        rw [List.length_append] at hlength
        have happend := loadsValue_append (show _ ≤ (dumps (.object members)).length + 1 by omega)
          hvalue (.inr (loadsValue_brace hvalue)) more
        rw [List.append_nil] at hfull
        rw [h, hfull] at happend
        exact absurd (congrArg Prod.snd (Option.some.inj happend)).symm (by simpa using hmore)
      · rfl

/-! ## Readers -/

/-- A reader of JSON texts.  What it makes of a text that `dumps` does not write is left open:
white space, fractions, exponents, surrogates. -/
class Reader where
  loads : List Char → Option JsonValue
  loads_dumps : ∀ value : JsonValue, loads (dumps value) = some value
  loads_of_prefix : ∀ {members : List (String × JsonValue)} {chars more : List Char},
    chars ++ more = dumps (.object members) → more ≠ [] → loads chars = none

/-- The reader of compact texts. -/
instance compact : Reader where
  loads := loads
  loads_dumps := loads_dumps
  loads_of_prefix := loads_of_prefix

/-! ## Control characters -/

/-- A text without control characters. -/
def Printable (chars : List Char) : Prop := ∀ c ∈ chars, 32 ≤ c.toNat

theorem printable_append {xs ys : List Char} :
    Printable (xs ++ ys) ↔ Printable xs ∧ Printable ys := List.forall_mem_append

theorem printable_cons {c : Char} {chars : List Char} :
    Printable (c :: chars) ↔ 32 ≤ c.toNat ∧ Printable chars := List.forall_mem_cons

theorem printable_toDigits (n : ℕ) : Printable (Nat.toDigits 10 n) := by
  intro c hc
  have hdigit := Nat.isDigit_of_mem_toDigits (by omega) (by omega) hc
  simp only [Char.isDigit, Bool.and_eq_true, decide_eq_true_eq] at hdigit
  have hle := UInt32.le_iff_toNat_le.mp hdigit.1
  exact le_trans (by decide) hle

theorem printable_digitChar : ∀ d, d < 16 → 32 ≤ (Nat.digitChar d).toNat := by decide

theorem printable_escapeChar (c : Char) : Printable (escapeChar c) := by
  unfold escapeChar
  repeat' split
  all_goals first
    | (simp only [Printable, List.mem_cons, List.not_mem_nil, or_false, forall_eq_or_imp,
         forall_eq]
       decide)
    | skip
  · simp only [Printable, List.mem_cons, List.not_mem_nil, or_false, forall_eq_or_imp, forall_eq]
    exact ⟨by decide, by decide, by decide, by decide, printable_digitChar _ (by omega),
      printable_digitChar _ (by omega)⟩
  · rename_i hcontrol
    simpa [Printable] using hcontrol

theorem printable_dumpsString (text : List Char) : Printable (dumpsString text) := by
  rw [dumpsString, printable_cons, printable_append]
  refine ⟨by decide, ?_, by simp [Printable]⟩
  intro c hc
  obtain ⟨d, -, hd⟩ := List.mem_flatMap.mp hc
  exact printable_escapeChar d c hd

theorem printable_dumpsInt (n : Int) : Printable (dumpsInt n) := by
  cases n with
  | ofNat n => exact printable_toDigits n
  | negSucc n => exact printable_cons.mpr ⟨by decide, printable_toDigits _⟩

mutual

/-- The text of a value has no control characters, so no line break. -/
theorem printable_dumps : ∀ value : JsonValue, Printable (dumps value)
  | .null => by simp [dumps, Printable]
  | .bool true => by simp [dumps, Printable]
  | .bool false => by simp [dumps, Printable]
  | .int n => by
      rw [dumps]
      exact printable_dumpsInt n
  | .string text => by
      rw [dumps]
      exact printable_dumpsString _
  | .array [] => by simp [dumps, Printable]
  | .array (item :: items) => by
      rw [dumps, printable_cons, printable_append]
      exact ⟨by decide, printable_dumps item, printable_dumpsItems items⟩
  | .object [] => by simp [dumps, Printable]
  | .object ((key, value) :: members) => by
      rw [dumps, printable_cons, printable_append, printable_cons, printable_append]
      exact ⟨by decide, printable_dumpsString _, by decide, printable_dumps value,
        printable_dumpsMembers members⟩

theorem printable_dumpsItems : ∀ items : List JsonValue, Printable (dumpsItems items)
  | [] => by simp [dumpsItems, Printable]
  | item :: items => by
      rw [dumpsItems, printable_cons, printable_append]
      exact ⟨by decide, printable_dumps item, printable_dumpsItems items⟩

theorem printable_dumpsMembers : ∀ members : List (String × JsonValue),
    Printable (dumpsMembers members)
  | [] => by simp [dumpsMembers, Printable]
  | (key, value) :: members => by
      rw [dumpsMembers, printable_cons, printable_append, printable_cons, printable_append]
      exact ⟨by decide, printable_dumpsString _, by decide, printable_dumps value,
        printable_dumpsMembers members⟩

end

end Json
