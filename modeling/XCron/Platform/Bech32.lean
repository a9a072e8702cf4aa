import XCron.Platform.Bytes

/-!
# Bech32

A text of a prefix, a separator and symbols of five bits, the last six of which are a
checksum over all the others.
-/

namespace Platform.Bech32

def charset : Text := ascii "qpzry9x8gf2tvdw0s3jn54khce6mua7l"

def lowercase (char : UInt8) : UInt8 := if 65 ≤ char ∧ char ≤ 90 then char + 32 else char

def symbol (char : UInt8) : Option Nat := charset.idxOf? (lowercase char)

/-! ## The checksum -/

def generators : List Nat := [0x3b6a57b2, 0x26508e6d, 0x1ea119fa, 0x3d4233dd, 0x2a1462b3]

def polymodStep (remainder value : Nat) : Nat :=
  generators.zipIdx.foldl
    (fun sum generator =>
      if (remainder >>> 25).testBit generator.2 then sum ^^^ generator.1 else sum)
    ((remainder % 2 ^ 25) <<< 5 ^^^ value)

def polymod (values : List Nat) : Nat := values.foldl polymodStep 1

/-- How the prefix goes into the checksum: the high bits of its characters, then the low ones. -/
def expand (hrp : Text) : List Nat :=
  hrp.map (fun char => char.toNat / 32) ++ 0 :: hrp.map (fun char => char.toNat % 32)

def separator : UInt8 := 49

def dataPart (text : Text) : Text := (text.reverse.takeWhile (· ≠ separator)).reverse

def parts (text : Text) : Option (Text × List Nat) := do
  if (dataPart text).length < text.length then
    let symbols ← (dataPart text).mapM symbol
    pure ((text.take (text.length - (dataPart text).length - 1)).map lowercase, symbols)
  else none

def remainder (text : Text) : Option Nat :=
  (parts text).map fun read => polymod (expand read.1 ++ read.2)

/-- The checksum is that of Bech32, or of Bech32m. -/
def Checked (text : Text) : Prop := remainder text = some 1 ∨ remainder text = some 0x2bc830a3

instance (text : Text) : Decidable (Checked text) := inferInstanceAs (Decidable (_ ∨ _))

/-! ## Decoding -/

/-- The symbols of a text whose checksum is right, without the checksum. -/
def decode (text : Text) : Option (List Nat) :=
  if Checked text then (parts text).map fun read => read.2.take (read.2.length - 6) else none

theorem decode_unchecked {text : Text} (wrong : ¬Checked text) : decode text = none := if_neg wrong

/-- The bytes that symbols make up, after some bits that are left over. What is left in the end
is less than a symbol, and zero. -/
def regroup (pending width : Nat) : List Nat → Option Bytes
  | [] => if width < 5 ∧ pending = 0 then some [] else none
  | value :: rest =>
      let pending := pending * 32 + value
      if 8 ≤ width + 5 then
        (regroup (pending % 2 ^ (width - 3)) (width - 3) rest).map
          (UInt8.ofNat (pending / 2 ^ (width - 3)) :: ·)
      else regroup pending (width + 5) rest

end Platform.Bech32
