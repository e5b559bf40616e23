/-
# JSON texts

Python's `json.dumps` and `json.loads`, on lists of characters: `Json.text` is the text of a
value and `Json.read` reads a value back.  A float stands for itself by its `repr`; what
Python makes of the text of a float is a parameter, `repr(float(·))`.

Main result: `Json.loads_dumps`, that a JSON value is read back as it was.
-/
import Calld.Transfers.System

namespace Calld

/-- A reader takes a value off the front of a text. -/
abbrev Reader (α : Type) := List Char → Option (α × List Char)

namespace Json

/-! ## Writing -/

/-- A hexadecimal digit, in lower case. -/
def hexDigit (n : ℕ) : Char := Nat.digitChar (n % 16)

/-- `'\\u{0:04x}'.format(n)`. -/
def unicodeEscape (n : ℕ) : List Char :=
  ['\\', 'u', hexDigit (n / 4096), hexDigit (n / 256), hexDigit (n / 16), hexDigit n]

/-- The escapes of one character, `ESCAPE_DCT`. -/
def shortEscape : Char → Option Char
  | '"' => some '"'
  | '\\' => some '\\'
  | '\n' => some 'n'
  | '\r' => some 'r'
  | '\t' => some 't'
  | '\x0c' => some 'f'
  | '\x08' => some 'b'
  | _ => none

/-- `py_encode_basestring_ascii`, for one character: what is not printable ASCII is escaped,
in a surrogate pair when it has to be. -/
def escape (c : Char) : List Char :=
  match shortEscape c with
  | some e => ['\\', e]
  | none =>
    if 32 ≤ c.toNat ∧ c.toNat ≤ 126 then [c]
    else if c.toNat < 65536 then unicodeEscape c.toNat
    else
      unicodeEscape (55296 + (c.toNat - 65536) / 1024) ++
        unicodeEscape (56320 + (c.toNat - 65536) % 1024)

/-- The text of a string, after its first quote. -/
def quoted : List Char → List Char
  | [] => ['"']
  | c :: cs => escape c ++ quoted cs

/-- `float.__repr__`, but for the floats that JSON lacks. -/
def floatText (lexeme : String) : List Char :=
  if lexeme = "nan" then "NaN".toList
  else if lexeme = "inf" then "Infinity".toList
  else if lexeme = "-inf" then "-Infinity".toList
  else lexeme.toList

mutual
/-- The text of a value. -/
def text : Json → List Char
  | null => "null".toList
  | bool b => if b then "true".toList else "false".toList
  | int n => n.repr.toList
  | float lexeme => floatText lexeme
  | str s => '"' :: quoted s.toList
  | arr [] => ['[', ']']
  | arr (v :: vs) => '[' :: (v.text ++ itemsText vs)
  | obj [] => ['{', '}']
  | obj ((name, v) :: fields) =>
    '{' :: '"' :: (quoted name.toList ++ ':' :: ' ' :: (v.text ++ fieldsText fields))

/-- The items of a list after the first one. -/
def itemsText : List Json → List Char
  | [] => [']']
  | v :: vs => ',' :: ' ' :: (v.text ++ itemsText vs)

/-- The fields of a dictionary after the first one. -/
def fieldsText : List (String × Json) → List Char
  | [] => ['}']
  | (name, v) :: fields =>
    ',' :: ' ' :: '"' :: (quoted name.toList ++ ':' :: ' ' :: (v.text ++ fieldsText fields))
end

/-- `json.dumps`. -/
def dumps (v : Json) : String := String.ofList v.text

/-! ## Reading -/

/-- The text after its blanks. -/
def skip (cs : List Char) : List Char :=
  cs.dropWhile fun c => c = ' ' || c = '\t' || c = '\n' || c = '\r'

/-- The value of a hexadecimal digit. -/
def hexValue (c : Char) : Option ℕ :=
  if '0' ≤ c ∧ c ≤ '9' then some (c.toNat - 48)
  else if 'a' ≤ c ∧ c ≤ 'f' then some (c.toNat - 87)
  else if 'A' ≤ c ∧ c ≤ 'F' then some (c.toNat - 55)
  else none

/-- Four hexadecimal digits. -/
def readHex : Reader ℕ
  | a :: b :: c :: d :: cs => do
    return (4096 * (← hexValue a) + 256 * (← hexValue b) + 16 * (← hexValue c) + (← hexValue d), cs)
  | _ => none

/-- `BACKSLASH`. -/
def backslash : Char → Option Char
  | '"' => some '"'
  | '\\' => some '\\'
  | '/' => some '/'
  | 'b' => some '\x08'
  | 'f' => some '\x0c'
  | 'n' => some '\n'
  | 'r' => some '\r'
  | 't' => some '\t'
  | _ => none

/-- A code point, from the number of its escape and the text that follows: a high surrogate
takes its low surrogate with it.  A surrogate alone, which is no character, is refused. -/
def readCodePoint (n : ℕ) (cs : List Char) : Option (Char × List Char) :=
  if 55296 ≤ n ∧ n ≤ 56319 then
    match cs with
    | '\\' :: 'u' :: cs => do
      let (m, cs) ← readHex cs
      if 56320 ≤ m ∧ m ≤ 57343 then
        return (Char.ofNat (65536 + (n - 55296) * 1024 + (m - 56320)), cs)
      else none
    | _ => none
  else if 56320 ≤ n ∧ n ≤ 57343 then none
  else some (Char.ofNat n, cs)

/-- One character of a string, escaped or not; a control character is refused. -/
def readChar : Reader Char
  | '\\' :: 'u' :: cs => do
    let (n, cs) ← readHex cs
    readCodePoint n cs
  | '\\' :: e :: cs => (backslash e).map (·, cs)
  | c :: cs => if c.toNat < 32 ∨ c = '"' ∨ c = '\\' then none else some (c, cs)
  | [] => none

/-- `scanstring`: a string after its first quote.  A string is no longer than its text. -/
def readString : ℕ → Reader (List Char)
  | _, '"' :: cs => some ([], cs)
  | 0, _ => none
  | n + 1, cs => do
    let (c, cs) ← readChar cs
    let (s, cs) ← readString n cs
    return (c :: s, cs)

/-- The parts of the text of a number. -/
structure Number where
  negative : Bool
  digits : List Char
  /-- the digits after the point -/
  fraction : Option (List Char)
  /-- `e` or `E`, the sign and the digits -/
  exponent : Option (Char × Option Char × List Char)
  deriving DecidableEq, Repr

def Number.text (p : Number) : List Char :=
  (if p.negative then ['-'] else []) ++ p.digits ++
    (p.fraction.elim [] fun ds => '.' :: ds) ++
    p.exponent.elim [] fun (e, sign, ds) => e :: (sign.toList ++ ds)

/-- The digits before the point: no zero leads. -/
def readDigits : Reader (List Char)
  | '0' :: cs => some (['0'], cs)
  | cs =>
    match cs.takeWhile Char.isDigit with
    | [] => none
    | ds => some (ds, cs.dropWhile Char.isDigit)

def readFraction : List Char → Option (List Char) × List Char
  | '.' :: cs =>
    match cs.takeWhile Char.isDigit with
    | [] => (none, '.' :: cs)
    | ds => (some ds, cs.dropWhile Char.isDigit)
  | cs => (none, cs)

/-- An exponent after its letter. -/
def readSign : List Char → Option Char × List Char
  | '-' :: cs => (some '-', cs)
  | '+' :: cs => (some '+', cs)
  | cs => (none, cs)

def readExponent : List Char → Option (Char × Option Char × List Char) × List Char
  | e :: cs =>
    if e = 'e' ∨ e = 'E' then
      let (sign, rest) := readSign cs
      match rest.takeWhile Char.isDigit with
      | [] => (none, e :: cs)
      | ds => (some (e, sign, ds), rest.dropWhile Char.isDigit)
    else (none, e :: cs)
  | [] => (none, [])

/-- `NUMBER_RE`. -/
def readNumber (cs : List Char) : Option (Number × List Char) := do
  let (negative, cs) := match cs with
    | '-' :: cs => (true, cs)
    | cs => (false, cs)
  let (digits, cs) ← readDigits cs
  let (fraction, cs) := readFraction cs
  let (exponent, cs) := readExponent cs
  return (⟨negative, digits, fraction, exponent⟩, cs)

/-- An `int` without fraction and exponent, and else a `float`. -/
def Number.value (reprFloat : String → String) (p : Number) : Json :=
  match p.fraction, p.exponent with
  | none, none =>
    let n : ℤ := Nat.ofDigitChars 10 p.digits 0
    int (if p.negative then -n else n)
  | _, _ => float (reprFloat (String.ofList p.text))

/-- A constant: the text goes on after it. -/
def readConstant (constant : String) (v : Json) (cs : List Char) : Option (Json × List Char) :=
  if constant.toList.isPrefixOf cs then some (v, cs.drop constant.length) else none

/-- A number, or a float that JSON lacks. -/
def readAtom (reprFloat : String → String) (cs : List Char) : Option (Json × List Char) :=
  (readNumber cs).map (fun (p, cs) => (p.value reprFloat, cs)) <|>
    readConstant "null" null cs <|> readConstant "true" (bool true) cs <|>
    readConstant "false" (bool false) cs <|> readConstant "NaN" (float "nan") cs <|>
    readConstant "Infinity" (float "inf") cs <|> readConstant "-Infinity" (float "-inf") cs

variable (reprFloat : String → String)

mutual
/-- `scan_once`. -/
def read : ℕ → Reader Json
  | 0, _ => none
  | _ + 1, '"' :: cs => do
    let (s, cs) ← readString cs.length cs
    return (str (String.ofList s), cs)
  | n + 1, '[' :: cs =>
    match skip cs with
    | ']' :: cs => some (arr [], cs)
    | cs => do
      let (vs, cs) ← readItems n cs
      return (arr vs, cs)
  | n + 1, '{' :: cs =>
    match skip cs with
    | '}' :: cs => some (obj [], cs)
    | '"' :: cs => do
      let (fields, cs) ← readFields n cs
      return (obj (fields.foldl (fun d p => Dict.set d p.1 p.2) []), cs)
    | _ => none
  | _ + 1, cs => readAtom reprFloat cs

/-- The loop of `JSONArray`. -/
def readItems : ℕ → Reader (List Json)
  | 0, _ => none
  | n + 1, cs => do
    let (v, cs) ← read n cs
    match skip cs with
    | ']' :: cs => return ([v], cs)
    | ',' :: cs => do
      let (vs, cs) ← readItems n (skip cs)
      return (v :: vs, cs)
    | _ => none

/-- The loop of `JSONObject`, after the quote of a key. -/
def readFields : ℕ → Reader (List (String × Json))
  | 0, _ => none
  | n + 1, cs => do
    let (name, cs) ← readString cs.length cs
    match skip cs with
    | ':' :: cs => do
      let (v, cs) ← read n (skip cs)
      match skip cs with
      | '}' :: cs => return ([(String.ofList name, v)], cs)
      | ',' :: cs =>
        match skip cs with
        | '"' :: cs => do
          let (fields, cs) ← readFields n cs
          return ((String.ofList name, v) :: fields, cs)
        | _ => none
      | _ => none
    | _ => none
end

/-- `json.loads`; `none` where it raises `ValueError`. -/
def loads (s : String) : Option Json := do
  let (v, cs) ← read reprFloat (s.toList.length + 1) (skip s.toList)
  if skip cs = [] then return v else none

/-! ## Strings are read back -/

theorem hexValue_digitChar : ∀ d < 16, hexValue (Nat.digitChar d) = some d := by
  decide

@[simp] theorem hexValue_hexDigit (n : ℕ) : hexValue (hexDigit n) = some (n % 16) :=
  hexValue_digitChar _ (Nat.mod_lt n (by omega))

/-- Four digits are read back. -/
theorem readHex_hexDigits {n : ℕ} (hn : n < 65536) (cs : List Char) :
    readHex (hexDigit (n / 4096) :: hexDigit (n / 256) :: hexDigit (n / 16) :: hexDigit n :: cs) =
      some (n, cs) := by
  have hvalue :
      4096 * (n / 4096 % 16) + 256 * (n / 256 % 16) + 16 * (n / 16 % 16) + n % 16 = n := by omega
  simp [readHex, hvalue]

/-- A character that is no surrogate is read back from its number. -/
theorem readCodePoint_toNat (c : Char) (cs : List Char) :
    readCodePoint c.toNat cs = some (c, cs) := by
  have hvalid : c.toNat < 55296 ∨ 57343 < c.toNat ∧ c.toNat < 1114112 := c.valid
  unfold readCodePoint
  rw [if_neg (by omega), if_neg (by omega), Char.ofNat_toNat]

theorem readCodePoint_pair {n m : ℕ} (hn : 55296 ≤ n ∧ n ≤ 56319) (hm : 56320 ≤ m ∧ m ≤ 57343)
    (cs : List Char) : readCodePoint n (unicodeEscape m ++ cs) =
      some (Char.ofNat (65536 + (n - 55296) * 1024 + (m - 56320)), cs) := by
  have hlow : readHex _ = some (m, cs) := readHex_hexDigits (by omega) cs
  unfold readCodePoint
  rw [if_pos hn]
  simp only [unicodeEscape, List.cons_append, List.nil_append, hlow, Option.bind_eq_bind,
    Option.bind_some, if_pos hm, Option.pure_def]

/-- A character beyond the first plane is read back from its surrogates. -/
theorem readCodePoint_surrogates {c : Char} (hc : 65536 ≤ c.toNat) (cs : List Char) :
    readCodePoint (55296 + (c.toNat - 65536) / 1024)
      (unicodeEscape (56320 + (c.toNat - 65536) % 1024) ++ cs) = some (c, cs) := by
  have hvalid : c.toNat < 55296 ∨ 57343 < c.toNat ∧ c.toNat < 1114112 := c.valid
  have hsum : 65536 + (55296 + (c.toNat - 65536) / 1024 - 55296) * 1024 +
      (56320 + (c.toNat - 65536) % 1024 - 56320) = c.toNat := by omega
  rw [readCodePoint_pair (by omega) (by omega), hsum, Char.ofNat_toNat]

theorem readChar_unicodeEscape {n : ℕ} (hn : n < 65536) (cs : List Char) :
    readChar (unicodeEscape n ++ cs) = readCodePoint n cs := by
  simp [unicodeEscape, readChar, readHex_hexDigits hn]

theorem backslash_shortEscape {c e : Char} (h : shortEscape c = some e) :
    backslash e = some c ∧ e ≠ 'u' := by
  unfold shortEscape at h
  split at h <;> cases h <;> exact ⟨rfl, by decide⟩

theorem shortEscape_of_none {c : Char} (h : shortEscape c = none) : c ≠ '"' ∧ c ≠ '\\' := by
  refine ⟨?_, ?_⟩ <;> rintro rfl <;> cases h

/-- A character is read back. -/
theorem readChar_escape (c : Char) (cs : List Char) : readChar (escape c ++ cs) = some (c, cs) := by
  unfold escape
  cases hshort : shortEscape c with
  | some e =>
    obtain ⟨hback, hu⟩ := backslash_shortEscape hshort
    simp only [List.cons_append, List.nil_append]
    rw [readChar.eq_2 _ _ hu, hback]
    rfl
  | none =>
    obtain ⟨hquote, hslash⟩ := shortEscape_of_none hshort
    have hvalid : c.toNat < 55296 ∨ 57343 < c.toNat ∧ c.toNat < 1114112 := c.valid
    by_cases hplain : 32 ≤ c.toNat ∧ c.toNat ≤ 126
    · simp only [hplain, and_self, if_true, List.cons_append, List.nil_append]
      rw [readChar.eq_3 _ _ (fun _ h => absurd h hslash) (fun _ _ h => absurd h hslash),
        if_neg (by simp [hquote, hslash]; omega)]
    · by_cases hplane : c.toNat < 65536
      · simp only [hplain, hplane, if_true, if_false]
        rw [readChar_unicodeEscape hplane, readCodePoint_toNat]
      · simp only [hplain, hplane, if_false, List.append_assoc]
        rw [readChar_unicodeEscape (by omega), readCodePoint_surrogates (by omega)]

theorem escape_ne_quote (c : Char) (cs : List Char) :
    ∃ d ds, escape c ++ cs = d :: ds ∧ d ≠ '"' := by
  unfold escape
  cases hshort : shortEscape c with
  | some e => exact ⟨'\\', e :: cs, rfl, by decide⟩
  | none =>
    dsimp only
    split_ifs
    · exact ⟨c, cs, rfl, (shortEscape_of_none hshort).1⟩
    · exact ⟨'\\', _, rfl, by decide⟩
    · exact ⟨'\\', _, rfl, by decide⟩

/-- A string is read back. -/
theorem readString_quoted {s : List Char} {n : ℕ} (hn : s.length ≤ n) (cs : List Char) :
    readString n (quoted s ++ cs) = some (s, cs) := by
  induction s generalizing n with
  | nil => rw [quoted, List.cons_append, readString, List.nil_append]
  | cons c s ih =>
    obtain ⟨n, rfl⟩ : ∃ m, n = m + 1 := ⟨n - 1, by rw [List.length_cons] at hn; omega⟩
    obtain ⟨d, ds, hd, hquote⟩ := escape_ne_quote c (quoted s ++ cs)
    have hchar := readChar_escape c (quoted s ++ cs)
    rw [quoted, List.append_assoc]
    rw [hd] at hchar ⊢
    rw [readString.eq_3 _ _ (fun _ h => hquote (List.cons.inj h).1), hchar]
    simp only [Option.bind_eq_bind, Option.bind_some,
      ih (Nat.le_of_succ_le_succ hn)]
    rfl

theorem length_le_quoted (s : List Char) : s.length ≤ (quoted s).length := by
  induction s with
  | nil => exact Nat.zero_le _
  | cons c s ih =>
    obtain ⟨d, ds, hd, -⟩ := escape_ne_quote c []
    rw [List.append_nil] at hd
    rw [quoted, hd, List.length_append, List.length_cons, List.length_cons]
    omega

/-! ## Numbers are read back -/

/-- Digits, at least one. -/
def AreDigits (ds : List Char) : Prop := ds ≠ [] ∧ ∀ d ∈ ds, d.isDigit = true

/-- The parts are those of a number. -/
structure Number.Valid (p : Number) : Prop where
  digits : AreDigits p.digits
  /-- no zero leads -/
  leading : p.digits = ['0'] ∨ p.digits.head? ≠ some '0'
  fraction : ∀ ds ∈ p.fraction, AreDigits ds
  exponent : ∀ x ∈ p.exponent, (x.1 = 'e' ∨ x.1 = 'E') ∧
    (∀ c ∈ x.2.1, c = '-' ∨ c = '+') ∧ AreDigits x.2.2

/-- No number goes on with the text. -/
def Ends (cs : List Char) : Prop :=
  ∀ c ∈ cs.head?, c.isDigit = false ∧ c ≠ '.' ∧ c ≠ 'e' ∧ c ≠ 'E'

/-- The text does not start with a digit. -/
def NoDigit (cs : List Char) : Prop := ∀ c ∈ cs.head?, c.isDigit = false

theorem Ends.noDigit {cs : List Char} (h : Ends cs) : NoDigit cs := fun c hc => (h c hc).1

theorem Ends.nil : Ends [] := nofun

theorem Ends.cons {c : Char} (cs : List Char)
    (h : c.isDigit = false ∧ c ≠ '.' ∧ c ≠ 'e' ∧ c ≠ 'E') : Ends (c :: cs) := by
  intro d hd
  obtain rfl : c = d := Option.some.inj hd
  exact h

/-- The digits that a text starts with. -/
theorem span_digits {ds cs : List Char} (hds : ∀ d ∈ ds, d.isDigit = true) (hcs : NoDigit cs) :
    (ds ++ cs).takeWhile Char.isDigit = ds ∧ (ds ++ cs).dropWhile Char.isDigit = cs := by
  rw [List.takeWhile_append_of_pos hds, List.dropWhile_append_of_pos hds]
  cases cs with
  | nil => simp
  | cons c cs =>
    have hc : c.isDigit = false := hcs c rfl
    simp [hc]

theorem readDigits_append {ds cs : List Char} (hds : AreDigits ds)
    (hlead : ds = ['0'] ∨ ds.head? ≠ some '0') (hcs : NoDigit cs) :
    readDigits (ds ++ cs) = some (ds, cs) := by
  by_cases hzero : ds = ['0']
  · subst hzero
    rfl
  · cases ds with
    | nil => exact absurd rfl hds.1
    | cons d ds =>
      have hd : d ≠ '0' := by
        rintro rfl
        exact hlead.elim hzero fun h => h rfl
      obtain ⟨htake, hdrop⟩ := span_digits hds.2 hcs
      rw [List.cons_append] at htake hdrop ⊢
      unfold readDigits
      split
      · exact absurd (List.cons.inj ‹d :: _ = '0' :: _›).1 hd
      · simp only [htake, hdrop]

theorem readFraction_append {fraction : Option (List Char)} {cs : List Char}
    (hf : ∀ ds ∈ fraction, AreDigits ds) (hcs : NoDigit cs)
    (hpoint : fraction = none → ∀ c ∈ cs.head?, c ≠ '.') :
    readFraction ((fraction.elim [] fun ds => '.' :: ds) ++ cs) = (fraction, cs) := by
  cases fraction with
  | none =>
    simp only [Option.elim_none, List.nil_append]
    unfold readFraction
    split
    · exact absurd rfl (hpoint rfl '.' rfl)
    · rfl
  | some ds =>
    obtain ⟨htake, hdrop⟩ := span_digits (hf ds rfl).2 hcs
    simp only [Option.elim_some, List.cons_append, readFraction, htake, hdrop]
    cases ds with
    | nil => exact absurd rfl (hf [] rfl).1
    | cons d ds => rfl

theorem readSign_append {sign : Option Char} {ds : List Char} (cs : List Char)
    (hsign : ∀ c ∈ sign, c = '-' ∨ c = '+') (hds : AreDigits ds) :
    readSign (sign.toList ++ (ds ++ cs)) = (sign, ds ++ cs) := by
  cases sign with
  | none =>
    cases ds with
    | nil => exact absurd rfl hds.1
    | cons d ds =>
      have hd : d.isDigit = true := hds.2 d (List.mem_cons_self ..)
      simp only [Option.toList_none, List.nil_append, List.cons_append]
      unfold readSign
      split
      · cases (List.cons.inj ‹d :: _ = '-' :: _›).1
        cases hd
      · cases (List.cons.inj ‹d :: _ = '+' :: _›).1
        cases hd
      · rfl
  | some c =>
    rcases hsign c rfl with rfl | rfl <;> rfl

theorem readExponent_append {exponent : Option (Char × Option Char × List Char)} {cs : List Char}
    (he : ∀ x ∈ exponent, (x.1 = 'e' ∨ x.1 = 'E') ∧ (∀ c ∈ x.2.1, c = '-' ∨ c = '+') ∧
      AreDigits x.2.2) (hcs : Ends cs) :
    readExponent ((exponent.elim [] fun (e, sign, ds) => e :: (sign.toList ++ ds)) ++ cs) =
      (exponent, cs) := by
  cases exponent with
  | none =>
    cases cs with
    | nil => rfl
    | cons c cs =>
      obtain ⟨-, -, hlow, hup⟩ := hcs c rfl
      simp [readExponent, hlow, hup]
  | some x =>
    obtain ⟨e, sign, ds⟩ := x
    obtain ⟨hletter, hsign, hds⟩ := he _ rfl
    obtain ⟨htake, hdrop⟩ := span_digits hds.2 hcs.noDigit
    have hread := readSign_append cs hsign hds
    simp only [Option.elim_some, List.cons_append, List.append_assoc, readExponent, hletter,
      if_true, hread, htake, hdrop]
    cases ds with
    | nil => exact absurd rfl hds.1
    | cons d ds => rfl

/-- A number is read back. -/
theorem readNumber_text {p : Number} (hp : p.Valid) {cs : List Char} (hcs : Ends cs) :
    readNumber (p.text ++ cs) = some (p, cs) := by
  obtain ⟨negative, digits, fraction, exponent⟩ := p
  set exponentText : List Char :=
    exponent.elim [] fun (e, sign, ds) => e :: (sign.toList ++ ds) with hexponent
  have hletter : ∀ c ∈ (exponentText ++ cs).head?, c.isDigit = false ∧ c ≠ '.' := by
    intro c hc
    cases exponent with
    | none => exact ⟨(hcs c hc).1, (hcs c hc).2.1⟩
    | some x =>
      obtain rfl : x.1 = c := Option.some.inj hc
      rcases (hp.exponent x rfl).1 with h | h <;> rw [h] <;> exact ⟨rfl, by decide⟩
  have hread : readFraction ((fraction.elim [] fun ds => '.' :: ds) ++ (exponentText ++ cs)) =
      (fraction, exponentText ++ cs) :=
    readFraction_append hp.fraction (fun c hc => (hletter c hc).1) fun _ c hc => (hletter c hc).2
  have hpoint : NoDigit ((fraction.elim [] fun ds => '.' :: ds) ++ (exponentText ++ cs)) := by
    intro c hc
    cases fraction with
    | none => exact (hletter c hc).1
    | some ds =>
      obtain rfl : '.' = c := Option.some.inj hc
      rfl
  have hdigits : readDigits (digits ++ _) = some (digits, _) :=
    readDigits_append hp.digits hp.leading hpoint
  have hexp : readExponent (exponentText ++ cs) = (exponent, cs) :=
    readExponent_append hp.exponent hcs
  have hunsigned : (match digits ++ ((fraction.elim [] fun ds => '.' :: ds) ++
      (exponentText ++ cs)) with
      | '-' :: cs => (true, cs)
      | cs => (false, cs)) = (false, digits ++ ((fraction.elim [] fun ds => '.' :: ds) ++
      (exponentText ++ cs))) := by
    cases hd : digits with
    | nil => exact absurd hd hp.digits.1
    | cons d ds =>
      have hdigit : d.isDigit = true := hp.digits.2 d (by
        change d ∈ digits
        rw [hd]
        exact List.mem_cons_self ..)
      rw [List.cons_append]
      split
      · cases (List.cons.inj ‹d :: _ = '-' :: _›).1
        cases hdigit
      · rfl
  cases negative with
  | false =>
    simp only [Number.text, Bool.false_eq_true, if_false, List.nil_append, List.append_assoc,
      readNumber, ← hexponent, hunsigned, hdigits, hread, hexp, Option.bind_eq_bind,
      Option.bind_some, Option.pure_def]
  | true =>
    simp only [Number.text, if_true, List.append_assoc, List.cons_append, List.nil_append,
      readNumber, ← hexponent, hdigits, hread, hexp, Option.bind_eq_bind, Option.bind_some,
      Option.pure_def]

/-- The number that an integer is. -/
def numberOf (n : ℤ) : Number := ⟨n < 0, Nat.toDigits 10 n.natAbs, none, none⟩

theorem head_toDigits {n : ℕ} (hn : 0 < n) : (Nat.toDigits 10 n).head? ≠ some '0' := by
  induction n using Nat.strong_induction_on with
  | _ n ih =>
    by_cases hsmall : n < 10
    · rw [Nat.toDigits_of_lt_base hsmall]
      interval_cases n <;> decide
    · rw [Nat.toDigits_of_base_le (by omega) (by omega), List.head?_append_of_ne_nil _
        Nat.toDigits_ne_nil]
      exact ih (n / 10) (by omega) (by omega)

theorem numberOf_valid (n : ℤ) : (numberOf n).Valid where
  digits := ⟨Nat.toDigits_ne_nil, fun _ hd => Nat.isDigit_of_mem_toDigits (by omega) le_rfl hd⟩
  leading := by
    by_cases hn : n.natAbs = 0
    · left
      rw [numberOf, hn]
      rfl
    · exact .inr (head_toDigits (by omega))
  fraction _ h := nomatch h
  exponent _ h := nomatch h

theorem numberOf_text (n : ℤ) : (numberOf n).text = n.repr.toList := by
  cases n with
  | ofNat m => simp [numberOf, Number.text, Int.repr]
  | negSucc m => simp [numberOf, Number.text, Int.repr]

theorem numberOf_value (reprFloat : String → String) (n : ℤ) :
    (numberOf n).value reprFloat = int n := by
  simp only [numberOf, Number.value, Nat.ofDigitChars_ten_toDigits, decide_eq_true_eq]
  split <;> congr 1 <;> omega

/-! ## Values are read back -/

section Values

variable {reprFloat : String → String}

/-- The text of a float: the `repr` that Python gives to it again, and that only a float has. -/
def FloatLexeme (reprFloat : String → String) (lexeme : String) : Prop :=
  lexeme ∈ ["nan", "inf", "-inf"] ∨ reprFloat lexeme = lexeme ∧ ∃ p : Number, p.Valid ∧
    (p.fraction.isSome ∨ p.exponent.isSome) ∧ p.text = lexeme.toList

mutual
/-- The JSON values of Python: the floats are those that there are, and the keys of a dictionary
are distinct. -/
def Valid (reprFloat : String → String) : Json → Prop
  | float lexeme => FloatLexeme reprFloat lexeme
  | arr vs => ValidItems reprFloat vs
  | obj fields => (fields.map (·.1)).Nodup ∧ ValidFields reprFloat fields
  | _ => True

def ValidItems (reprFloat : String → String) : List Json → Prop
  | [] => True
  | v :: vs => v.Valid reprFloat ∧ ValidItems reprFloat vs

def ValidFields (reprFloat : String → String) : List (String × Json) → Prop
  | [] => True
  | (_, v) :: fields => v.Valid reprFloat ∧ ValidFields reprFloat fields
end

mutual
/-- The fuel that `read` needs for a value. -/
def need : Json → ℕ
  | arr vs => needItems vs + 1
  | obj fields => needFields fields + 1
  | _ => 1

def needItems : List Json → ℕ
  | [] => 0
  | v :: vs => max v.need (needItems vs) + 1

def needFields : List (String × Json) → ℕ
  | [] => 0
  | (_, v) :: fields => max v.need (needFields fields) + 1
end

/-- A value that is neither a string, nor a list, nor a dictionary. -/
theorem read_atom {n : ℕ} {c : Char} {cs : List Char} (hquote : c ≠ '"') (hbracket : c ≠ '[')
    (hbrace : c ≠ '{') : read reprFloat (n + 1) (c :: cs) = readAtom reprFloat (c :: cs) := by
  rw [read.eq_def]
  split
  · exact absurd ‹n + 1 = 0› (by omega)
  · exact absurd (List.cons.inj ‹c :: cs = '"' :: _›).1 hquote
  · exact absurd (List.cons.inj ‹c :: cs = '[' :: _›).1 hbracket
  · exact absurd (List.cons.inj ‹c :: cs = '{' :: _›).1 hbrace
  · rfl

/-- The first character of a number. -/
theorem Number.Valid.head {p : Number} (hp : p.Valid) :
    ∃ c cs, p.text = c :: cs ∧ (c = '-' ∨ c.isDigit = true) := by
  obtain ⟨negative, digits, fraction, exponent⟩ := p
  cases negative with
  | true => exact ⟨'-', _, rfl, .inl rfl⟩
  | false =>
    cases hd : digits with
    | nil => exact absurd hd hp.digits.1
    | cons d ds =>
      refine ⟨d, _, rfl, .inr (hp.digits.2 d ?_)⟩
      change d ∈ digits
      rw [hd]
      exact List.mem_cons_self ..

/-- No blank, and no character that ends a list or a dictionary. -/
def Opens (c : Char) : Prop :=
  (c = ' ' || c = '\t' || c = '\n' || c = '\r') = false ∧ c ≠ ']' ∧ c ≠ '}'

theorem opens_of_number {c : Char} (hc : c = '-' ∨ c.isDigit = true) :
    Opens c ∧ c ≠ '"' ∧ c ≠ '[' ∧ c ≠ '{' := by
  rcases hc with rfl | hc
  · exact ⟨⟨rfl, by decide, by decide⟩, by decide, by decide, by decide⟩
  · have hne (d : Char) (hd : d.isDigit = false) : c ≠ d := by
      rintro rfl
      rw [hd] at hc
      cases hc
    refine ⟨⟨?_, hne _ rfl, hne _ rfl⟩, hne _ rfl, hne _ rfl, hne _ rfl⟩
    simp [hne ' ' rfl, hne '\t' rfl, hne '\n' rfl, hne '\r' rfl]

/-- A number is read back as its value. -/
theorem read_number {p : Number} (hp : p.Valid) {n : ℕ} {cs : List Char} (hcs : Ends cs) :
    read reprFloat (n + 1) (p.text ++ cs) = some (p.value reprFloat, cs) := by
  obtain ⟨c, ds, htext, hc⟩ := hp.head
  obtain ⟨-, hquote, hbracket, hbrace⟩ := opens_of_number hc
  have hread := readNumber_text hp hcs
  rw [htext] at hread ⊢
  rw [List.cons_append, read_atom hquote hbracket hbrace, ← List.cons_append, readAtom, hread]
  rfl

theorem floatText_of_number {p : Number} (hp : p.Valid) {lexeme : String}
    (h : p.text = lexeme.toList) : floatText lexeme = lexeme.toList := by
  have hne (s : String) (c : Char) (cs : List Char) (hs : s.toList = c :: cs)
      (hread : readNumber s.toList = none) : lexeme ≠ s := by
    rintro rfl
    have hback := readNumber_text hp Ends.nil
    rw [List.append_nil, h, hread] at hback
    cases hback
  unfold floatText
  rw [if_neg (hne "nan" _ _ rfl rfl), if_neg (hne "inf" _ _ rfl rfl),
    if_neg (hne "-inf" _ _ rfl rfl)]

theorem read_float {lexeme : String} (hv : FloatLexeme reprFloat lexeme) {n : ℕ} {cs : List Char}
    (hcs : Ends cs) :
    read reprFloat (n + 1) (floatText lexeme ++ cs) = some (float lexeme, cs) := by
  rcases hv with hspecial | ⟨hrepr, p, hp, hfloat, htext⟩
  · simp only [List.mem_cons, List.not_mem_nil, or_false] at hspecial
    rcases hspecial with rfl | rfl | rfl <;> rfl
  · rw [floatText_of_number hp htext, ← htext, read_number hp hcs]
    have hvalue : p.value reprFloat = float (reprFloat (String.ofList p.text)) := by
      unfold Number.value
      split
      · simp_all
      · rfl
    rw [hvalue, htext, String.ofList_toList, hrepr]

/-- The first character of a value. -/
theorem head_text {v : Json} (hv : v.Valid reprFloat) : ∃ c cs, v.text = c :: cs ∧ Opens c := by
  have hopens (c : Char) (hc : (c = ' ' || c = '\t' || c = '\n' || c = '\r') = false)
      (hbracket : c ≠ ']') (hbrace : c ≠ '}') : Opens c := ⟨hc, hbracket, hbrace⟩
  cases v with
  | null => exact ⟨'n', _, rfl, hopens _ rfl (by decide) (by decide)⟩
  | bool b =>
    cases b
    · exact ⟨'f', _, rfl, hopens _ rfl (by decide) (by decide)⟩
    · exact ⟨'t', _, rfl, hopens _ rfl (by decide) (by decide)⟩
  | int n =>
    obtain ⟨c, cs, htext, hc⟩ := (numberOf_valid n).head
    exact ⟨c, cs, (numberOf_text n).symm.trans htext, (opens_of_number hc).1⟩
  | float lexeme =>
    rw [Valid] at hv
    rcases hv with hspecial | ⟨-, p, hp, -, htext⟩
    · simp only [List.mem_cons, List.not_mem_nil, or_false] at hspecial
      rcases hspecial with rfl | rfl | rfl
      · exact ⟨'N', _, rfl, hopens _ rfl (by decide) (by decide)⟩
      · exact ⟨'I', _, rfl, hopens _ rfl (by decide) (by decide)⟩
      · exact ⟨'-', _, rfl, hopens _ rfl (by decide) (by decide)⟩
    · obtain ⟨c, cs, hcs, hc⟩ := hp.head
      refine ⟨c, cs, ?_, (opens_of_number hc).1⟩
      rw [text, floatText_of_number hp htext, ← htext, hcs]
  | str s => exact ⟨'"', _, rfl, hopens _ rfl (by decide) (by decide)⟩
  | arr vs => cases vs <;> exact ⟨'[', _, rfl, hopens _ rfl (by decide) (by decide)⟩
  | obj fields =>
    cases fields <;> exact ⟨'{', _, rfl, hopens _ rfl (by decide) (by decide)⟩

/-- A value starts with no blank. -/
theorem skip_text {v : Json} (hv : v.Valid reprFloat) (cs : List Char) :
    skip (v.text ++ cs) = v.text ++ cs := by
  obtain ⟨c, ds, htext, hc, -⟩ := head_text hv
  rw [htext, skip, List.cons_append, List.dropWhile_cons_of_neg (by simpa using hc)]

theorem skip_cons {c : Char} (cs : List Char)
    (hc : (c = ' ' || c = '\t' || c = '\n' || c = '\r') = false) : skip (c :: cs) = c :: cs := by
  rw [skip, List.dropWhile_cons_of_neg (by simpa using hc)]

/-- The text of the items, or of the fields, that follow a value ends it. -/
theorem ends_itemsText (vs : List Json) (cs : List Char) : Ends (itemsText vs ++ cs) := by
  cases vs with
  | nil => exact .cons _ ⟨rfl, by decide, by decide, by decide⟩
  | cons v vs => exact .cons _ ⟨rfl, by decide, by decide, by decide⟩

theorem ends_fieldsText (fields : List (String × Json)) (cs : List Char) :
    Ends (fieldsText fields ++ cs) := by
  cases fields with
  | nil => exact .cons _ ⟨rfl, by decide, by decide, by decide⟩
  | cons p fields => exact .cons _ ⟨rfl, by decide, by decide, by decide⟩

theorem readString_name (name : List Char) (cs : List Char) :
    readString (quoted name ++ cs).length (quoted name ++ cs) = some (name, cs) := by
  refine readString_quoted ?_ cs
  have hle := length_le_quoted name
  rw [List.length_append]
  omega

/-- Distinct keys are set one after the other. -/
theorem foldl_set (fields d : List (String × Json))
    (hd : (d.map (·.1) ++ fields.map (·.1)).Nodup) :
    fields.foldl (fun d p => Dict.set d p.1 p.2) d = d ++ fields := by
  induction fields generalizing d with
  | nil => simp
  | cons p fields ih =>
    have hset : Dict.set d p.1 p.2 = d ++ [p] := by
      have hnew : d.any (·.1 = p.1) = false := by
        rw [List.any_eq_false]
        intro q hq hname
        have hmem : q.1 ∈ d.map (·.1) := List.mem_map_of_mem hq
        exact (List.nodup_append.mp hd).2.2 _ hmem _ (List.mem_cons_self ..) (by simpa using hname)
      rw [Dict.set, hnew]
      rfl
    rw [List.foldl_cons, hset, ih, List.append_assoc, List.singleton_append]
    simpa [List.append_assoc] using hd

/-- With the fuel `n`, what does not need more is read back. -/
structure ReadsBack (reprFloat : String → String) (n : ℕ) : Prop where
  value : ∀ v : Json, v.Valid reprFloat → v.need ≤ n → ∀ cs, Ends cs →
    read reprFloat n (v.text ++ cs) = some (v, cs)
  items : ∀ (v : Json) (vs : List Json), ValidItems reprFloat (v :: vs) →
    needItems (v :: vs) ≤ n → ∀ cs,
    readItems reprFloat n (v.text ++ (itemsText vs ++ cs)) = some (v :: vs, cs)
  fields : ∀ (name : String) (v : Json) (fields : List (String × Json)),
    ValidFields reprFloat ((name, v) :: fields) → needFields ((name, v) :: fields) ≤ n → ∀ cs,
    readFields reprFloat n
      (quoted name.toList ++ ':' :: ' ' :: (v.text ++ (fieldsText fields ++ cs))) =
      some ((name, v) :: fields, cs)

namespace ReadsBack

variable {n : ℕ}

theorem zero : ReadsBack reprFloat 0 where
  value v _ hn := by cases v <;> simp [need] at hn
  items v vs _ hn := by simp [needItems] at hn
  fields name v fields _ hn := by simp [needFields] at hn

theorem read_succ (h : ReadsBack reprFloat n) (v : Json) (hv : v.Valid reprFloat)
    (hn : v.need ≤ n + 1) (cs : List Char) (hcs : Ends cs) :
    read reprFloat (n + 1) (v.text ++ cs) = some (v, cs) := by
  match v with
  | .null => rfl
  | .bool true => rfl
  | .bool false => rfl
  | .int k => rw [text, ← numberOf_text, read_number (numberOf_valid k) hcs, numberOf_value]
  | .float lexeme =>
    rw [Valid] at hv
    exact read_float hv hcs
  | .str s =>
    rw [text, List.cons_append, read, readString_name]
    simp
  | .arr [] => rfl
  | .arr (v :: vs) =>
    rw [Valid] at hv
    rw [need] at hn
    have hitems := h.items v vs hv (by omega) cs
    rw [ValidItems] at hv
    have hskip := skip_text hv.1 (itemsText vs ++ cs)
    obtain ⟨c, ds, htext, -, hbracket, -⟩ := head_text hv.1
    rw [htext, List.cons_append] at hskip hitems
    rw [text, htext]
    simp only [List.cons_append, List.append_assoc]
    rw [read, hskip]
    split
    · exact absurd (List.cons.inj ‹c :: _ = ']' :: _›).1 hbracket
    · rw [hitems]
      rfl
  | .obj [] => rfl
  | .obj ((name, v) :: fields) =>
    rw [Valid] at hv
    rw [need] at hn
    have hfields := h.fields name v fields hv.2 (by omega) cs
    have hset := foldl_set ((name, v) :: fields) [] (by simpa using hv.1)
    have hskip : skip ('"' :: (quoted name.toList ++ ':' :: ' ' ::
      (v.text ++ (fieldsText fields ++ cs)))) = _ := skip_cons _ rfl
    rw [text]
    simp only [List.cons_append, List.append_assoc]
    rw [read]
    simp only [hskip, hfields, Option.bind_eq_bind, Option.bind_some, Option.pure_def, hset,
      List.nil_append]

theorem readItems_succ (h : ReadsBack reprFloat n) (v : Json) (vs : List Json)
    (hvs : ValidItems reprFloat (v :: vs)) (hn : needItems (v :: vs) ≤ n + 1) (cs : List Char) :
    readItems reprFloat (n + 1) (v.text ++ (itemsText vs ++ cs)) = some (v :: vs, cs) := by
  rw [ValidItems] at hvs
  rw [needItems] at hn
  rw [readItems, h.value v hvs.1 (by omega) _ (ends_itemsText vs cs)]
  match vs with
  | [] => rfl
  | w :: ws =>
    have hitems := h.items w ws hvs.2 (by omega) cs
    have hw := hvs.2
    rw [ValidItems] at hw
    have hskip : skip (' ' :: (w.text ++ (itemsText ws ++ cs))) =
      w.text ++ (itemsText ws ++ cs) := skip_text hw.1 _
    have hcomma : skip (itemsText (w :: ws) ++ cs) =
        ',' :: ' ' :: (w.text ++ (itemsText ws ++ cs)) := by
      rw [itemsText]
      simp only [List.cons_append, List.append_assoc]
      exact skip_cons _ rfl
    simp only [hcomma, hskip, hitems, Option.bind_eq_bind, Option.bind_some, Option.pure_def]

theorem readFields_succ (h : ReadsBack reprFloat n) (name : String) (v : Json)
    (fields : List (String × Json)) (hv : ValidFields reprFloat ((name, v) :: fields))
    (hn : needFields ((name, v) :: fields) ≤ n + 1) (cs : List Char) :
    readFields reprFloat (n + 1)
      (quoted name.toList ++ ':' :: ' ' :: (v.text ++ (fieldsText fields ++ cs))) =
      some ((name, v) :: fields, cs) := by
  rw [ValidFields] at hv
  rw [needFields] at hn
  have hread := h.value v hv.1 (by omega) _ (ends_fieldsText fields cs)
  have hcolon : skip (':' :: ' ' :: (v.text ++ (fieldsText fields ++ cs))) =
    ':' :: ' ' :: (v.text ++ (fieldsText fields ++ cs)) := skip_cons _ rfl
  have hskip : skip (' ' :: (v.text ++ (fieldsText fields ++ cs))) =
    v.text ++ (fieldsText fields ++ cs) := skip_text hv.1 _
  rw [readFields, readString_name]
  simp only [Option.bind_eq_bind, Option.bind_some, hcolon, hskip, hread]
  match fields with
  | [] => simp [fieldsText, skip_cons]
  | (name', w) :: fields =>
    have hfields := h.fields name' w fields hv.2 (by omega) cs
    have hcomma : skip (fieldsText ((name', w) :: fields) ++ cs) = ',' :: ' ' :: '"' ::
        (quoted name'.toList ++ ':' :: ' ' :: (w.text ++ (fieldsText fields ++ cs))) := by
      rw [fieldsText]
      simp only [List.cons_append, List.append_assoc]
      exact skip_cons _ rfl
    have hquote : skip (' ' :: '"' ::
        (quoted name'.toList ++ ':' :: ' ' :: (w.text ++ (fieldsText fields ++ cs)))) =
      '"' :: (quoted name'.toList ++ ':' :: ' ' :: (w.text ++ (fieldsText fields ++ cs))) := rfl
    simp only [hcomma, hquote, hfields, Option.bind_some, Option.pure_def, String.ofList_toList]

/-- The induction is on the fuel. -/
theorem all (n : ℕ) : ReadsBack reprFloat n := by
  induction n with
  | zero => exact zero
  | succ n ih => exact ⟨ih.read_succ, ih.readItems_succ, ih.readFields_succ⟩

end ReadsBack

mutual
/-- A text is longer than the fuel that its value needs. -/
theorem need_le_text (v : Json) (hv : v.Valid reprFloat) : v.need ≤ v.text.length := by
  have hone : 1 ≤ v.text.length := by
    obtain ⟨c, cs, htext, -⟩ := head_text hv
    rw [htext, List.length_cons]
    omega
  match v with
  | .null | .bool _ | .int _ | .float _ | .str _ => exact hone
  | .arr [] => decide
  | .arr (v :: vs) =>
    rw [Valid, ValidItems] at hv
    have hv₁ := need_le_text v hv.1
    have hvs := needItems_le vs hv.2
    simp only [need, needItems, text, List.length_cons, List.length_append]
    omega
  | .obj [] => decide
  | .obj ((name, v) :: fields) =>
    rw [Valid, ValidFields] at hv
    have hv₁ := need_le_text v hv.2.1
    have hfields := needFields_le fields hv.2.2
    simp only [need, needFields, text, List.length_cons, List.length_append]
    omega

theorem needItems_le (vs : List Json) (hvs : ValidItems reprFloat vs) :
    needItems vs + 1 ≤ (itemsText vs).length := by
  match vs with
  | [] => decide
  | v :: vs =>
    rw [ValidItems] at hvs
    have hv := need_le_text v hvs.1
    have hvs := needItems_le vs hvs.2
    simp only [needItems, itemsText, List.length_cons, List.length_append]
    omega

theorem needFields_le (fields : List (String × Json)) (hfields : ValidFields reprFloat fields) :
    needFields fields + 1 ≤ (fieldsText fields).length := by
  match fields with
  | [] => decide
  | (name, v) :: fields =>
    rw [ValidFields] at hfields
    have hv := need_le_text v hfields.1
    have hfields := needFields_le fields hfields.2
    simp only [needFields, fieldsText, List.length_cons, List.length_append]
    omega
end

/-- **A JSON value is read back as it was.** -/
theorem loads_dumps {v : Json} (hv : v.Valid reprFloat) : loads reprFloat v.dumps = some v := by
  have hneed := need_le_text v hv
  have hread := (ReadsBack.all (v.text.length + 1)).value v hv (by omega) [] Ends.nil
  have hskip := skip_text hv []
  rw [List.append_nil] at hread hskip
  rw [loads, dumps, String.toList_ofList, hskip, hread]
  rfl

/-- The text of a value is not empty. -/
theorem dumps_ne_empty {v : Json} (hv : v.Valid reprFloat) : v.dumps ≠ "" := by
  obtain ⟨c, cs, htext, -⟩ := head_text hv
  intro h
  have hnil : v.dumps.toList = [] := by rw [h]; rfl
  rw [dumps, String.toList_ofList, htext] at hnil
  cases hnil

/-- What is not ASCII is escaped. -/
example : (arr [str "é", arr [], int (-7)]).dumps = "[\"\\u00e9\", [], -7]" := rfl

end Values

end Json

end Calld
