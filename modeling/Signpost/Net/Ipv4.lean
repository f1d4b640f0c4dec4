import Signpost.Text.Cut
import Signpost.Text.Digit
import Signpost.Text.Percent

/-!
# IPv4 addresses

An address is its 32-bit number. `Ipv4.ofDotted?` reads the canonical dotted quad alone;
`Ipv4.ofNumeric?` reads what a browser takes for a number: one to four parts, each decimal, octal
after a leading zero or hexadecimal after `0x`, the last part filling the octets that remain.
-/

namespace Signpost.Net

/-- A 32-bit address. -/
structure Ipv4 where
  val : Nat
  lt : val < 1 <<< 32
deriving DecidableEq, Repr

namespace Ipv4

/-- The address with a number, if it has 32 bits. -/
def ofNat? (n : Nat) : Option Ipv4 :=
  if h : n < 1 <<< 32 then some ⟨n, h⟩ else none

/-- Whether an address lies in the network of the leading `len` bits of `base`. -/
def inNetwork (a : Ipv4) (base len : Nat) : Bool :=
  a.val >>> (32 - len) == base >>> (32 - len)

/-- The number of four octets. -/
def quad (a b c d : Nat) : Nat :=
  ((a * 256 + b) * 256 + c) * 256 + d

/-- Networks that are not public, each with the length of its network part. -/
def privateNetworks : List (Nat × Nat) :=
  [(quad 0 0 0 0, 8), (quad 10 0 0 0, 8), (quad 127 0 0 0, 8), (quad 169 254 0 0, 16),
    (quad 172 16 0 0, 12), (quad 192 0 0 0, 24), (quad 192 0 2 0, 24), (quad 192 168 0 0, 16),
    (quad 198 18 0 0, 15), (quad 198 51 100 0, 24), (quad 203 0 113 0, 24), (quad 224 0 0 0, 4),
    (quad 240 0 0 0, 4)]

/-- Addresses inside a network that is not public which are public all the same. -/
def publicExceptions : List Nat :=
  [quad 192 0 0 9, quad 192 0 0 10]

/-- Whether an address is private, loopback, link-local, unspecified, reserved or multicast. -/
def isNonPublic (a : Ipv4) : Bool :=
  privateNetworks.any (fun (base, len) => a.inNetwork base len) && !publicExceptions.contains a.val

/-! ## Canonical text -/

/-- An ASCII digit's value. -/
def digit? (c : Char) : Option Nat :=
  if '0' ≤ c ∧ c ≤ '9' then some (c.toNat - '0'.toNat) else none

/-- The number that the digits of a base write, `none` for no digits or another character. -/
def numeral? (base : Nat) (s : List Char) : Option Nat :=
  if s.isEmpty then none
  else s.foldlM (fun value c => do
    let d ← Text.hexValue? c
    if d < base then some (value * base + d) else none) 0

/-- An octet in decimal without a leading zero. -/
def octet? (s : List Char) : Option Nat := do
  let n ← numeral? 10 s
  if s.length ≤ 3 ∧ n ≤ 255 ∧ (s.length = 1 ∨ s.head? ≠ some '0') then some n else none

/-- The address that four dotted octets write. -/
def ofDotted? (s : List Char) : Option Ipv4 :=
  match Text.pieces '.' s with
  | [a, b, c, d] => do
    let a ← octet? a
    let b ← octet? b
    let c ← octet? c
    let d ← octet? d
    ofNat? (quad a b c d)
  | _ => none

/-! ## Numeric hosts -/

/-- A part of a numeric host: `0x` and hexadecimal digits, or decimal digits of any script. -/
def isNumericPart (s : List Char) : Bool :=
  match s with
  | '0' :: 'x' :: digits =>
    !digits.isEmpty && digits.all fun c => (Text.hexValue? c).isSome && !c.isUpper
  | _ => !s.isEmpty && s.all Text.isDecimal

/-- Whether a host is one to four numeric parts, which a browser reads as an address. -/
def isNumericHost (s : List Char) : Bool :=
  let parts := Text.pieces '.' s
  parts.length ≤ 4 && parts.all isNumericPart

/-- A part's number: hexadecimal after `0x`, octal after another leading zero, else decimal. -/
def numericPart? : List Char → Option Nat
  | '0' :: 'x' :: digits => numeral? 16 digits
  | ['0'] => some 0
  | '0' :: digits => numeral? 8 digits
  | s => numeral? 10 s

/-- The number of a list of parts: an octet each, and the last part whatever remains of `bits`. -/
def joinParts? (bits : Nat) : List Nat → Option Nat
  | [] => none
  | [last] => if last < 1 <<< bits then some last else none
  | n :: rest =>
    if n < 256 ∧ 8 < bits then do
      let low ← joinParts? (bits - 8) rest
      some ((n <<< (bits - 8)) + low)
    else none

/-- The address that a numeric host stands for. -/
def ofNumeric? (s : List Char) : Option Ipv4 := do
  let parts ← (Text.pieces '.' s).mapM numericPart?
  let n ← joinParts? 32 parts
  ofNat? n

end Ipv4

end Signpost.Net
