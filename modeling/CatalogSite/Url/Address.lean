import CatalogSite.Json.Number
import CatalogSite.Url.Error

namespace CatalogSite.Url

/-!
# Network addresses

An IPv4 address is written as up to four numbers, decimal, octal or hexadecimal,
of which the last one fills the remaining bytes. An IPv6 address is written as
eight pieces of sixteen bits, with at most one run of zeros left out and the last
two pieces possibly as an IPv4 address. Both have one normal text.
-/

/-- The value of a digit in a base up to sixteen. -/
def digitInBase?
    (base : Nat)
    (c : Char) :
    Option Nat :=
  let n := c.toNat
  let value :=
    if 48 ≤ n ∧ n ≤ 57 then n - 48
    else if 97 ≤ n ∧ n ≤ 102 then n - 87
    else if 65 ≤ n ∧ n ≤ 70 then n - 55
    else base
  if value < base then some value else none

/-- The value of a run of digits in a base. -/
def numberInBase?
    (base : Nat)
    (digits : List Char) :
    Option Nat :=
  digits.foldl
    (fun value c => do
      let value ← value
      let digit ← digitInBase? base c
      some (base * value + digit))
    (some 0)

/-- The value of one number of an IPv4 address; a bare prefix counts as zero. -/
def ipv4Number? (text : List Char) : Option Nat :=
  match text with
  | [] => none
  | '0' :: 'x' :: digits | '0' :: 'X' :: digits => numberInBase? 16 digits
  | '0' :: c :: digits => numberInBase? 8 (c :: digits)
  | digits => numberInBase? 10 digits

/-- The labels of a domain without the empty one behind a final dot. -/
def labelsWithoutFinalDot (domain : List Char) : List (List Char) :=
  let labels := domain.splitOnP (· == '.')
  match labels.reverse with
  | [] :: others@(_ :: _) => others.reverse
  | _ => labels

/--
Whether the last label of a domain is a number, so that it has to be an address.
-/
def endsInNumber (domain : List Char) : Bool :=
  match (labelsWithoutFinalDot domain).getLast? with
  | none => false
  | some last =>
      (!last.isEmpty && last.all Char.isDigit) || (ipv4Number? last).isSome

/-- Combine the numbers of an IPv4 address. -/
def combineIpv4? (numbers : List Nat) : Option Nat :=
  match numbers.reverse with
  | [] => none
  | last :: leading =>
      let room := Nat.pow 256 (4 - leading.length)
      if leading.any (255 < ·) ∨ room ≤ last then none
      else
        some
          (leading.reverse.foldl (fun value n => 256 * value + n) 0 * room + last)

/-- Read an IPv4 address. -/
def parseIpv4 (domain : List Char) : Except UrlError Nat :=
  let labels := labelsWithoutFinalDot domain
  if 4 < labels.length then .error .invalidIpv4
  else
    match (labels.mapM ipv4Number?).bind combineIpv4? with
    | some address => .ok address
    | none => .error .invalidIpv4

/-- The text of an IPv4 address. -/
def ipv4Text (address : Nat) : List Char :=
  let byte (index : Nat) := Number.natText (address / Nat.pow 256 index % 256)
  byte 3 ++ '.' :: (byte 2 ++ '.' :: (byte 1 ++ '.' :: byte 0))

/-- Read one byte of an IPv4 address in decimal, without leading zeros. -/
def decimalByte? (text : List Char) : Option Nat :=
  match text with
  | [] => none
  | '0' :: _ :: _ => none
  | digits => do
      let value ← numberInBase? 10 digits
      if value ≤ 255 then some value else none

/-- Read an IPv4 address in its normal form. -/
def dottedIpv4? (text : List Char) : Option Nat :=
  match (text.splitOnP (· == '.')).map decimalByte? with
  | [some a, some b, some c, some d] => some (((a * 256 + b) * 256 + c) * 256 + d)
  | _ => none

/-- Read one piece of an IPv6 address. -/
def ipv6Piece? (text : List Char) : Option Nat :=
  if text.isEmpty ∨ 4 < text.length then none else numberInBase? 16 text

/-- Read pieces, of which the last two may be an IPv4 address. -/
def ipv6Pieces? : List (List Char) → Option (List Nat)
  | [] => some []
  | [last] =>
      if last.contains '.' then
        (dottedIpv4? last).map fun address => [address / 65536, address % 65536]
      else
        (ipv6Piece? last).map ([·])
  | piece :: rest => do
      let value ← ipv6Piece? piece
      let values ← ipv6Pieces? rest
      some (value :: values)

/-- Read the pieces of one side of an address; an empty side has none. -/
def ipv6Side? (text : List Char) : Option (List Nat) :=
  if text.isEmpty then some [] else ipv6Pieces? (text.splitOnP (· == ':'))

/-- The parts before and after the first pair of colons. -/
def splitDoubleColon : List Char → Option (List Char × List Char)
  | ':' :: ':' :: rest => some ([], rest)
  | c :: rest =>
      (splitDoubleColon rest).map fun (before, after) => (c :: before, after)
  | [] => none

/-- Read an IPv6 address as its eight pieces. -/
def ipv6? (text : List Char) : Option (List Nat) :=
  match splitDoubleColon text with
  | none => do
      let pieces ← ipv6Side? text
      if pieces.length = 8 then some pieces else none
  | some (before, after) => do
      let first ← if before.contains '.' then none else ipv6Side? before
      let last ← ipv6Side? after
      if first.length + last.length ≤ 7 then
        some (first ++ List.replicate (8 - first.length - last.length) 0 ++ last)
      else
        none

/-- Read an IPv6 address. -/
def parseIpv6 (text : List Char) : Except UrlError (List Nat) :=
  match ipv6? text with
  | some pieces => .ok pieces
  | none => .error .invalidIpv6

/-- The number of zeros at the front of some pieces. -/
def zeroRun : List Nat → Nat
  | 0 :: rest => zeroRun rest + 1
  | _ => 0

/-- The start and the length of the first longest run of at least two zeros. -/
def longestZeroRun (pieces : List Nat) : Option (Nat × Nat) :=
  (List.range pieces.length).foldl
    (fun best start =>
      let length := zeroRun (pieces.drop start)
      let known := (best.map Prod.snd).getD 1
      if known < length then some (start, length) else best)
    none

/-- A piece in hexadecimal. -/
def pieceText (piece : Nat) : List Char :=
  Nat.toDigits 16 piece

/-- Pieces joined by colons. -/
def piecesText (pieces : List Nat) : List Char :=
  [':'].intercalate (pieces.map pieceText)

/-- The text of an IPv6 address. -/
def ipv6Text (pieces : List Nat) : List Char :=
  match longestZeroRun pieces with
  | none => piecesText pieces
  | some (start, length) =>
      piecesText (pieces.take start) ++
        ':' :: ':' :: piecesText (pieces.drop (start + length))

end CatalogSite.Url
