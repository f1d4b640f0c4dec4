import Signpost.Net.Ipv4

/-!
# IPv6 addresses

An address is its 128-bit number. Its text is eight groups of hexadecimal digits, of which one run
of zero groups may be left out as `::` and the last two may be a dotted quad. A scope after `%` is
admitted and has no say in what the address is.
-/

namespace Signpost.Net

/-- A 128-bit address. -/
structure Ipv6 where
  val : Nat
  lt : val < 1 <<< 128
deriving DecidableEq, Repr

namespace Ipv6

/-- The address with a number, if it has 128 bits. -/
def ofNat? (n : Nat) : Option Ipv6 :=
  if h : n < 1 <<< 128 then some ⟨n, h⟩ else none

/-- The number of groups of sixteen bits. -/
def ofGroups (groups : List Nat) : Nat :=
  groups.foldl (fun value g => (value <<< 16) + g) 0

/-- Whether an address lies in the network of the leading `len` bits of some leading groups. -/
def inNetwork (a : Ipv6) (groups : List Nat) (len : Nat) : Bool :=
  let base := ofGroups (groups ++ List.replicate (8 - groups.length) 0)
  a.val >>> (128 - len) == base >>> (128 - len)

/-- Networks that are not public, each with the length of its network part. -/
def privateNetworks : List (List Nat × Nat) :=
  [([0, 0, 0, 0, 0, 0, 0, 1], 128), ([], 128), ([0, 0, 0, 0, 0, 0xFFFF], 96),
    ([0x64, 0xFF9B, 1], 48), ([0x100], 64), ([0x2001], 23), ([0x2001, 0xDB8], 32),
    ([0x2002], 16), ([0xFC00], 7), ([0xFE80], 10)]

/-- Networks inside a network that is not public which are public all the same. -/
def publicExceptions : List (List Nat × Nat) :=
  [([0x2001, 1, 0, 0, 0, 0, 0, 1], 128), ([0x2001, 1, 0, 0, 0, 0, 0, 2], 128),
    ([0x2001, 3], 32), ([0x2001, 4, 0x112], 48), ([0x2001, 0x20], 28), ([0x2001, 0x30], 28)]

/-- Networks that are reserved or multicast. -/
def reservedNetworks : List (List Nat × Nat) :=
  [([], 8), ([0x100], 8), ([0x200], 7), ([0x400], 6), ([0x800], 5), ([0x1000], 4), ([0x4000], 3),
    ([0x6000], 3), ([0x8000], 3), ([0xA000], 3), ([0xC000], 3), ([0xE000], 4), ([0xF000], 5),
    ([0xF800], 6), ([0xFE00], 9), ([0xFF00], 8)]

/-- Whether an address is private, loopback, link-local, unspecified, reserved or multicast. -/
def isNonPublic (a : Ipv6) : Bool :=
  let among (networks : List (List Nat × Nat)) := networks.any fun (g, len) => a.inNetwork g len
  (among privateNetworks && !among publicExceptions) || among reservedNetworks

/-- The IPv4 address that an address maps, if it is of the form `::ffff:a.b.c.d`. -/
def mapped? (a : Ipv6) : Option Ipv4 :=
  if a.val >>> 32 = 0xFFFF then Ipv4.ofNat? (a.val % 0x100000000) else none

/-! ## Text -/

/-- A group of one to four hexadecimal digits. -/
def group? (s : List Char) : Option Nat :=
  if s.length ≤ 4 then Ipv4.numeral? 16 s else none

/-- Groups of which the last may be a dotted quad standing for two. -/
def groups? : List (List Char) → Option (List Nat)
  | [] => some []
  | [last] =>
    if last.contains '.' then do
      let a ← Ipv4.ofDotted? last
      some [a.val >>> 16, a.val % 0x10000]
    else (group? last).map ([·])
  | g :: rest => do
    let n ← group? g
    let more ← groups? rest
    some (n :: more)

/-- Where the interior pieces of a text hold an empty one: the pieces before and after it. -/
def gap? : List (List Char) → Option (List (List Char) × List (List Char))
  | [] => none
  | p :: rest =>
    if p.isEmpty then some ([], rest)
    else (gap? rest).map fun (before, after) => (p :: before, after)

/-- The pieces on one side of `::`: an end of the text next to it leaves a single empty piece. -/
def side? (pieces : List (List Char)) : Option (List Nat) :=
  if pieces = [[]] then some [] else groups? pieces

/-- The number that the pieces between colons write. -/
def ofPieces? (pieces : List (List Char)) : Option Nat :=
  match pieces with
  | first :: rest =>
    match rest.getLast? with
    | none => none
    | some last =>
      match gap? rest.dropLast with
      | none => do
        let groups ← groups? pieces
        if groups.length = 8 then some (ofGroups groups) else none
      | some (before, after) => do
        let high ← side? (first :: before)
        let low ← side? (after ++ [last])
        if (first :: before).any (·.contains '.') then none
        else if high.length + low.length ≤ 7 then
          some (ofGroups (high ++ List.replicate (8 - high.length - low.length) 0 ++ low))
        else none
  | [] => none

/-- The address without its scope, `none` when the scope is empty or holds another `%`. -/
def dropScope? (s : List Char) : Option (List Char) :=
  match Text.cutFirst '%' s with
  | none => some s
  | some (address, scope) => if scope.isEmpty || scope.contains '%' then none else some address

/-- The address that a text writes. -/
def ofText? (s : List Char) : Option Ipv6 :=
  if s.contains '/' then none
  else do
    let address ← dropScope? s
    let n ← ofPieces? (Text.pieces ':' address)
    ofNat? n

end Ipv6

end Signpost.Net
