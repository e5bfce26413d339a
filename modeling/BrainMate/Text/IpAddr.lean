import Mathlib.Data.List.Basic

/-! IP addresses in text: the reader of `core::net`, which takes no leading zeros in an IPv4
address and at most one `::` in an IPv6 address, and the writer that shortens the longest run of
zeros. -/

namespace BrainMate.Text

inductive IpAddr where
  | v4 (octets : Fin 4 → UInt8)
  | v6 (segments : Fin 8 → UInt16)

namespace IpAddr

/-- `char::to_digit`. -/
def toDigit (radix : Nat) (c : Char) : Option Nat :=
  let value :=
    if '0' ≤ c ∧ c ≤ '9' then some (c.toNat - '0'.toNat)
    else if 'a' ≤ c ∧ c ≤ 'z' then some (c.toNat - 'a'.toNat + 10)
    else if 'A' ≤ c ∧ c ≤ 'Z' then some (c.toNat - 'A'.toNat + 10)
    else none
  value.filter (· < radix)

def readGivenChar (given : Char) : List Char → Option (List Char)
  | [] => none
  | c :: rest => if c = given then some rest else none

/-- All the digits there are, not more than `maxDigits`, with a value below the bound. -/
def readNumber (radix maxDigits bound : Nat) (allowZeroPrefix : Bool) (input : List Char) :
    Option (Nat × List Char) :=
  let digits := input.takeWhile fun c => (toDigit radix c).isSome
  let value := (digits.filterMap (toDigit radix)).foldl (fun value digit => value * radix + digit) 0
  if digits.isEmpty ∨ maxDigits < digits.length then none
  else if !allowZeroPrefix ∧ digits.head? = some '0' ∧ 1 < digits.length then none
  else if bound ≤ value then none
  else some (value, input.drop digits.length)

/-- The separator stands before every part but the first. -/
def readSeparator {α : Type} (separator : Char) (first : Bool)
    (inner : List Char → Option (α × List Char)) (input : List Char) : Option (α × List Char) :=
  if first then inner input else (readGivenChar separator input).bind inner

def readOctets : Nat → Bool → List Char → Option (List Nat × List Char)
  | 0, _, input => some ([], input)
  | remaining + 1, first, input => do
    let (octet, input) ← readSeparator '.' first (readNumber 10 3 256 false) input
    let (octets, input) ← readOctets remaining false input
    return (octet :: octets, input)

def readIpv4Addr (input : List Char) : Option (List Nat × List Char) := readOctets 4 true input

/-- Groups up to a limit, the last two of which may be written as an IPv4 address; and whether
they were. -/
def readGroups : Nat → Bool → List Char → List Nat × Bool × List Char
  | 0, _, input => ([], false, input)
  | remaining + 1, first, input =>
    match if 1 ≤ remaining then readSeparator ':' first readIpv4Addr input else none with
    | some ([one, two, three, four], input) => ([one * 256 + two, three * 256 + four], true, input)
    | _ =>
      match readSeparator ':' first (readNumber 16 4 65536 true) input with
      | none => ([], false, input)
      | some (group, input) =>
        let (groups, ipv4, input) := readGroups remaining false input
        (group :: groups, ipv4, input)

/-- All eight groups, or those before and those after a `::`, which stands for one at least. -/
def readIpv6Addr (input : List Char) : Option (List Nat × List Char) :=
  let (head, headIpv4, input) := readGroups 8 true input
  if head.length = 8 then some (head, input)
  else if headIpv4 then none
  else do
    let input ← readGivenChar ':' input
    let input ← readGivenChar ':' input
    let (tail, _, input) := readGroups (8 - (head.length + 1)) true input
    return (head ++ List.replicate (8 - head.length - tail.length) 0 ++ tail, input)

def readIpAddr (input : List Char) : Option (IpAddr × List Char) :=
  match readIpv4Addr input with
  | some (octets, input) => some (.v4 fun i => UInt8.ofNat (octets.getD i 0), input)
  | none => (readIpv6Addr input).map fun (groups, input) =>
    (.v6 fun i => UInt16.ofNat (groups.getD i 0), input)

/-- `IpAddr::from_str`: the whole text is an address. -/
def parse (text : List Char) : Option IpAddr :=
  match readIpAddr text with
  | some (address, []) => some address
  | _ => none

def separated (separator : String) (parts : List String) : String := separator.intercalate parts

def hex (segment : UInt16) : String := String.ofList (Nat.toDigits 16 segment.toNat)

def dotted (octets : List Nat) : String := separated "." (octets.map toString)

/-- Where the longest run of zeros starts, and how long it is; the first of several. -/
def longestZeros : List UInt16 → Nat → (current longest : Nat × Nat) → Nat × Nat
  | [], _, _, longest => longest
  | segment :: rest, index, current, longest =>
    if segment = 0 then
      let current := if current.2 = 0 then (index, 1) else (current.1, current.2 + 1)
      longestZeros rest (index + 1) current (if longest.2 < current.2 then current else longest)
    else longestZeros rest (index + 1) (0, 0) longest

/-- `IpAddr`'s `Display`. -/
def display : IpAddr → String
  | .v4 octets => dotted ((List.ofFn octets).map UInt8.toNat)
  | .v6 segments =>
    let groups := List.ofFn segments
    if groups.take 6 = [0, 0, 0, 0, 0, 0xFFFF] then
      "::ffff:" ++ dotted ((groups.drop 6).flatMap fun group =>
        [group.toNat / 256, group.toNat % 256])
    else
      let (start, length) := longestZeros groups 0 (0, 0) (0, 0)
      if 1 < length then
        separated ":" ((groups.take start).map hex) ++ "::" ++
          separated ":" ((groups.drop (start + length)).map hex)
      else separated ":" (groups.map hex)

example : (["10.0.0.1", "1.2.3.04", "::ffff:10.0.0.1", "2001:db8::1", "::", "1::2::3", "x"].map
      fun text => (parse text.toList).map display) =
    [some "10.0.0.1", none, some "::ffff:10.0.0.1", some "2001:db8::1", some "::", none, none] := by
  decide +kernel

end IpAddr

end BrainMate.Text
