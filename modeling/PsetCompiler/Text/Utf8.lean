/-!
# UTF-8

Strict UTF-8: no overlong form, no surrogate and nothing above U+10FFFF. The reader is a machine
that takes one octet at a time and refuses an octet as soon as no well-formed text can follow, so
it also says what is known about a text that is cut off. Surrogates are an exception: their first
two octets are taken, and what follows them is refused, whatever it is.

## Main definitions

* `encodeUtf8` — the octets of a text.
* `Utf8.State`, `Utf8.step` — the machine that reads octets.
* `decodeUtf8?` — the text that octets encode, if they are well formed.
-/

namespace PsetCompiler.Text

/-- The octets of a file. -/
abbrev Bytes := List UInt8

/-- The octets of a character. -/
def encodeCharUtf8 (c : Char) : Bytes :=
  let n := c.toNat
  if n < 0x80 then [n.toUInt8]
  else if n < 0x800 then [(0xC0 + n / 64).toUInt8, (0x80 + n % 64).toUInt8]
  else if n < 0x10000 then
    [(0xE0 + n / 4096).toUInt8, (0x80 + n / 64 % 64).toUInt8, (0x80 + n % 64).toUInt8]
  else
    [(0xF0 + n / 262144).toUInt8, (0x80 + n / 4096 % 64).toUInt8, (0x80 + n / 64 % 64).toUInt8,
      (0x80 + n % 64).toUInt8]

/-- The octets of a text. -/
def encodeUtf8 (cs : List Char) : Bytes :=
  cs.flatMap encodeCharUtf8

namespace Utf8

/-- What the reader knows between two octets. -/
inductive State where
  /-- At the border between two characters. -/
  | between
  /-- Inside a character whose bits so far are `code`: the next octet lies between `low` and
  `high`, and `after` more follow it. -/
  | within (code low high after : Nat)
  /-- Behind the first two octets of a surrogate, where every octet is refused. -/
  | surrogate
deriving DecidableEq, Repr

/-- The state after the first octet of a character that takes more than one. -/
def leadState? (n : Nat) : Option State :=
  if 0xC2 ≤ n ∧ n ≤ 0xDF then some (.within (n - 0xC0) 0x80 0xBF 0)
  else if n = 0xE0 then some (.within 0 0xA0 0xBF 1)
  else if n = 0xED then some (.within 0xD 0x80 0x9F 1)
  else if 0xE1 ≤ n ∧ n ≤ 0xEF then some (.within (n - 0xE0) 0x80 0xBF 1)
  else if n = 0xF0 then some (.within 0 0x90 0xBF 2)
  else if 0xF1 ≤ n ∧ n ≤ 0xF3 then some (.within (n - 0xF0) 0x80 0xBF 2)
  else if n = 0xF4 then some (.within 4 0x80 0x8F 2)
  else none

/-- One octet: the character that it completes, if any, and the next state; `none` when the octet is
refused. -/
def step : State → UInt8 → Option (Option Char × State)
  | .between, octet =>
    let n := octet.toNat
    if n < 0x80 then some (some (Char.ofNat n), .between)
    else (leadState? n).map fun state => (none, state)
  | .within code low high after, octet =>
    let n := octet.toNat
    if low ≤ n ∧ n ≤ high then
      let code := code * 64 + (n - 0x80)
      match after with
      | 0 => some (some (Char.ofNat code), .between)
      | after + 1 => some (none, .within code 0x80 0xBF after)
    else if (code = 0xD ∧ after = 1) ∧ 0xA0 ≤ n ∧ n ≤ 0xBF then some (none, .surrogate)
    else none
  | .surrogate, _ => none

end Utf8

/-- The characters that a machine reads from octets, and the state it ends in; `none` when it
refuses one of them. -/
def runOctets {σ : Type} (step : σ → UInt8 → Option (Option Char × σ)) :
    σ → Bytes → Option (List Char × σ)
  | state, [] => some ([], state)
  | state, octet :: rest =>
    match step state octet with
    | none => none
    | some (produced, next) =>
      match runOctets step next rest with
      | none => none
      | some (cs, last) =>
        match produced with
        | some c => some (c :: cs, last)
        | none => some (cs, last)

/-- The text that octets encode in UTF-8, if they are well formed. -/
def decodeUtf8? (bytes : Bytes) : Option (List Char) :=
  match runOctets Utf8.step .between bytes with
  | some (cs, .between) => some cs
  | _ => none

@[simp] theorem encodeUtf8_nil : encodeUtf8 [] = [] := rfl

@[simp] theorem encodeUtf8_append (cs ds : List Char) :
    encodeUtf8 (cs ++ ds) = encodeUtf8 cs ++ encodeUtf8 ds := by
  simp [encodeUtf8]

end PsetCompiler.Text
