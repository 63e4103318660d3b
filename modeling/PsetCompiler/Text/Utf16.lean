import PsetCompiler.Text.Utf8

/-!
# UTF-16

Two octets make a unit, the less significant one first or last; two units of the surrogate ranges
make one character. A surrogate that stands alone is refused.

## Main definitions

* `ByteOrder` — which octet of a unit comes first.
* `encodeUtf16` — the octets of a text.
* `Utf16.State`, `Utf16.step` — the machine that reads octets.
-/

namespace PsetCompiler.Text

/-- Which octet of a unit comes first. -/
inductive ByteOrder where
  /-- The less significant octet first. -/
  | little
  /-- The more significant octet first. -/
  | big
deriving DecidableEq, Repr

/-- The octets of a unit. -/
def ByteOrder.encode : ByteOrder → Nat → Bytes
  | .little, unit => [(unit % 256).toUInt8, (unit / 256).toUInt8]
  | .big, unit => [(unit / 256).toUInt8, (unit % 256).toUInt8]

/-- The unit of two octets in the order they come. -/
def ByteOrder.unit : ByteOrder → UInt8 → UInt8 → Nat
  | .little, first, second => first.toNat + 256 * second.toNat
  | .big, first, second => 256 * first.toNat + second.toNat

/-- The units of a character. -/
def utf16Units (c : Char) : List Nat :=
  if c.toNat < 0x10000 then [c.toNat]
  else [0xD800 + (c.toNat - 0x10000) / 1024, 0xDC00 + (c.toNat - 0x10000) % 1024]

/-- The octets of a text, without a mark. -/
def encodeUtf16 (order : ByteOrder) (cs : List Char) : Bytes :=
  cs.flatMap fun c => (utf16Units c).flatMap order.encode

namespace Utf16

/-- What the reader knows between two octets. -/
structure State where
  /-- The first unit of a pair whose second one is still to come. -/
  high : Option Nat := none
  /-- The first octet of a unit whose second one is still to come. -/
  octet : Option UInt8 := none
deriving DecidableEq, Repr

/-- A complete unit: the character that it completes, if any, and the next state. -/
def unitStep (high : Option Nat) (unit : Nat) : Option (Option Char × State) :=
  match high with
  | some first =>
    if 0xDC00 ≤ unit ∧ unit < 0xE000 then
      some (some (Char.ofNat (0x10000 + (first - 0xD800) * 1024 + (unit - 0xDC00))), {})
    else none
  | none =>
    if 0xD800 ≤ unit ∧ unit < 0xDC00 then some (none, { high := some unit })
    else if 0xDC00 ≤ unit ∧ unit < 0xE000 then none
    else some (some (Char.ofNat unit), {})

/-- One octet: the character that it completes, if any, and the next state. -/
def step (order : ByteOrder) (state : State) (octet : UInt8) : Option (Option Char × State) :=
  match state.octet with
  | none => some (none, { state with octet := some octet })
  | some first => unitStep state.high (order.unit first octet)

end Utf16

end PsetCompiler.Text
