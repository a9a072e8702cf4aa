import XCron.Platform.Hex

/-!
# Texts and numbers of JavaScript

A string is a list of UTF-16 code units. What is here of the standard library is
what the clients call on strings: UTF-8 encoding, hexadecimal buffers, `parseInt`
with radix sixteen, the sign of `parseFloat`, and `BigInt`.
-/

namespace Platform

abbrev JsString := List UInt16

def jsAscii (text : String) : JsString := text.toList.map fun char => UInt16.ofNat char.toNat

namespace JsString

def isHighSurrogate (unit : UInt16) : Bool := decide (0xD800 ≤ unit ∧ unit ≤ 0xDBFF)

def isLowSurrogate (unit : UInt16) : Bool := decide (0xDC00 ≤ unit ∧ unit ≤ 0xDFFF)

def codePoints : JsString → List Nat
  | [] => []
  | [unit] => [unit.toNat]
  | high :: low :: rest =>
      if isHighSurrogate high && isLowSurrogate low then
        (0x10000 + (high.toNat - 0xD800) * 0x400 + (low.toNat - 0xDC00)) :: codePoints rest
      else high.toNat :: codePoints (low :: rest)

def isSurrogate (point : Nat) : Bool := decide (0xD800 ≤ point ∧ point ≤ 0xDFFF)

def utf8 (point : Nat) : Text :=
  if point < 0x80 then [UInt8.ofNat point]
  else if point < 0x800 then
    [UInt8.ofNat (0xC0 + point / 0x40), UInt8.ofNat (0x80 + point % 0x40)]
  else if point < 0x10000 then
    [UInt8.ofNat (0xE0 + point / 0x1000), UInt8.ofNat (0x80 + point / 0x40 % 0x40),
      UInt8.ofNat (0x80 + point % 0x40)]
  else
    [UInt8.ofNat (0xF0 + point / 0x40000), UInt8.ofNat (0x80 + point / 0x1000 % 0x40),
      UInt8.ofNat (0x80 + point / 0x40 % 0x40), UInt8.ofNat (0x80 + point % 0x40)]

/-- `TextEncoder.encode`: a lone surrogate is replaced. -/
def textEncode (text : JsString) : Text :=
  (codePoints text).flatMap fun point => utf8 (if isSurrogate point then 0xFFFD else point)

/-! ## Hexadecimal -/

def hexUnit (unit : UInt16) : Option Nat :=
  if unit < 128 then hexValue (UInt8.ofNat unit.toNat) else none

def hexBytes : JsString → Option Bytes
  | [] => some []
  | [_] => none
  | high :: low :: rest => do
      let first ← hexUnit high
      let second ← hexUnit low
      let bytes ← hexBytes rest
      pure (UInt8.ofNat (16 * first + second) :: bytes)

/-- `Buffer.from(text, "hex")`: it stops in front of the first pair that is not two
digits. -/
def bufferFromHex : JsString → Bytes
  | high :: low :: rest =>
      match hexUnit high, hexUnit low with
      | some first, some second => UInt8.ofNat (16 * first + second) :: bufferFromHex rest
      | _, _ => []
  | _ => []

def hexString (bytes : Bytes) : JsString := (hexEncode bytes).map fun char => UInt16.ofNat char.toNat

def spaces : List UInt16 :=
  [9, 10, 11, 12, 13, 32, 160, 5760, 8192, 8193, 8194, 8195, 8196, 8197, 8198, 8199, 8200, 8201,
    8202, 8232, 8233, 8239, 8287, 12288, 65279]

def isSpace (unit : UInt16) : Bool := decide (unit ∈ spaces)

def skipSpaces (text : JsString) : JsString := text.dropWhile isSpace

def takeSign : JsString → Bool × JsString
  | [] => (false, [])
  | unit :: rest =>
      if unit = 45 then (true, rest) else if unit = 43 then (false, rest) else (false, unit :: rest)

def skipHexMark : JsString → JsString
  | zero :: mark :: rest =>
      if zero = 48 ∧ (mark = 120 ∨ mark = 88) then rest else zero :: mark :: rest
  | text => text

def positional (radix : Nat) (digits : List Nat) : Nat :=
  digits.foldl (fun value digit => value * radix + digit) 0

/-- `parseInt(text, 16)`: the longest prefix of digits, `none` where it is not a number. -/
def parseIntHex (text : JsString) : Option Int :=
  let (negative, text) := takeSign (skipSpaces text)
  let digits := ((skipHexMark text).takeWhile fun unit => (hexUnit unit).isSome).filterMap hexUnit
  if digits = [] then none
  else some (if negative then -(positional 16 digits : Int) else positional 16 digits)

/-- What a byte buffer makes of a number: its lowest eight bits, zero for `NaN`. -/
def toByte (number : Option Int) : UInt8 := UInt8.ofNat ((number.getD 0) % 256).toNat

/-! ## Big integers -/

def digitsValue (radix : Nat) (digits : JsString) : Option Nat := do
  let values ← digits.mapM hexUnit
  if digits ≠ [] ∧ ∀ value ∈ values, value < radix then
    some (positional radix values)
  else none

/-- Digits of the radix that `0x`, `0o` or `0b` announces, decimal ones otherwise;
only these may have a sign. -/
def integerLiteral (text : JsString) : Option Int :=
  let decimal :=
    let (negative, digits) := takeSign text
    (digitsValue 10 digits).map fun value => if negative then -(value : Int) else value
  match text with
  | zero :: mark :: digits =>
      if zero ≠ 48 then decimal
      else if mark = 120 ∨ mark = 88 then (digitsValue 16 digits).map Int.ofNat
      else if mark = 111 ∨ mark = 79 then (digitsValue 8 digits).map Int.ofNat
      else if mark = 98 ∨ mark = 66 then (digitsValue 2 digits).map Int.ofNat
      else decimal
  | _ => decimal

/-- `BigInt(text)`: the empty text is zero, `none` where it throws. -/
def bigInt (text : JsString) : Option Int :=
  let trimmed := (skipSpaces (skipSpaces text).reverse).reverse
  if trimmed = [] then some 0 else integerLiteral trimmed

/-! ## Well-formed hexadecimal is read alike -/

theorem spaces_not_digits {unit : UInt16} (member : unit ∈ spaces) : hexUnit unit = none := by
  have checked : (spaces.all fun unit => (hexUnit unit).isNone) = true := by decide
  exact Option.isNone_iff_eq_none.mp (List.all_eq_true.mp checked unit member)

theorem not_space_of_digit {unit : UInt16} {value : Nat} (digit : hexUnit unit = some value) :
    isSpace unit = false := by
  by_contra space
  have member : unit ∈ spaces := by simpa [isSpace] using space
  rw [spaces_not_digits member] at digit
  cases digit

theorem parseIntHex_pair {high low : UInt16} {first second : Nat} (highDigit : hexUnit high = some first)
    (lowDigit : hexUnit low = some second) : parseIntHex [high, low] = some (16 * first + second) := by
  have unsigned : high ≠ 45 ∧ high ≠ 43 := by
    constructor <;> rintro rfl <;> cases highDigit
  have unmarked : ¬(low = 120 ∨ low = 88) := by
    rintro (rfl | rfl) <;> cases lowDigit
  have started : skipSpaces [high, low] = [high, low] := by
    simp [skipSpaces, not_space_of_digit highDigit]
  simp only [parseIntHex, started, takeSign, unsigned.1, unsigned.2, if_false, skipHexMark, unmarked,
    and_false, List.takeWhile_cons, highDigit, lowDigit, Option.isSome_some, if_true,
    List.takeWhile_nil, List.filterMap_cons, List.filterMap_nil, reduceCtorEq, positional,
    List.foldl_cons, List.foldl_nil, Bool.false_eq_true]
  congr 1
  omega

theorem toByte_natCast (value : Nat) : toByte (some (value : Int)) = UInt8.ofNat value := by
  have low : ((value : Int) % 256).toNat = value % 256 := by omega
  rw [toByte, Option.getD_some, low]
  exact UInt8.toNat_inj.mp (by simp)

theorem hexBytes_eq_some_cons {high low : UInt16} {rest : JsString} {bytes : Bytes}
    (read : hexBytes (high :: low :: rest) = some bytes) :
    ∃ first second tail, hexUnit high = some first ∧ hexUnit low = some second ∧
      hexBytes rest = some tail ∧ bytes = UInt8.ofNat (16 * first + second) :: tail := by
  simp only [hexBytes, Option.bind_eq_bind, Option.bind_eq_some_iff, Option.pure_def,
    Option.some.injEq] at read
  obtain ⟨first, highDigit, second, lowDigit, tail, tailRead, rfl⟩ := read
  exact ⟨first, second, tail, highDigit, lowDigit, tailRead, rfl⟩

theorem hexUnit_hexDigit {value : Nat} (small : value < 16) :
    hexUnit (UInt16.ofNat (hexDigit value).toNat) = some value := by
  revert value
  decide

theorem bufferFromHex_hexString (bytes : Bytes) : bufferFromHex (hexString bytes) = bytes := by
  induction bytes with
  | nil => rfl
  | cons byte rest inductionHypothesis =>
      have bound := byte.toNat_lt
      have halves : 16 * (byte.toNat / 16) + byte.toNat % 16 = byte.toNat := Nat.div_add_mod _ _
      change bufferFromHex (_ :: _ :: hexString rest) = _
      rw [bufferFromHex, hexUnit_hexDigit (by omega), hexUnit_hexDigit (by omega)]
      simp only [halves, inductionHypothesis, UInt8.ofNat_toNat]

end JsString

end Platform
