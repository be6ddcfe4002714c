import Telemetry.Text.Split
import Telemetry.Url.Domain
import Telemetry.Url.Percent
/-!
Hosts: domains, and addresses of four or of sixteen bytes.
-/
namespace Telemetry.Url

/-- Why a text is no address. -/
inductive Fault where
  | relativeWithoutBase
  | relativeToUnstructured
  | emptyHost
  | invalidPort
  | invalidIpv4
  | invalidIpv6
  | invalidDomain
  | invalidDomainCharacter
deriving DecidableEq, Repr

/-- A fault in words. -/
def Fault.message : Fault → String
  | relativeWithoutBase => "relative URL without a base"
  | relativeToUnstructured => "relative URL with a cannot-be-a-base base"
  | emptyHost => "empty host"
  | invalidPort => "invalid port number"
  | invalidIpv4 => "invalid IPv4 address"
  | invalidIpv6 => "invalid IPv6 address"
  | invalidDomain => "invalid international domain name"
  | invalidDomainCharacter => "invalid domain character"

/-- A host. -/
inductive Host where
  | domain (name : List Char)
  | ipv4 (address : Nat)
  /-- Eight pieces of sixteen bits. -/
  | ipv6 (pieces : List Nat)
deriving DecidableEq

/-- The characters that no host of an unknown scheme has. -/
def forbiddenInHost (c : Char) : Bool :=
  ['\x00', '\t', '\n', '\r', ' ', '#', '/', ':', '<', '>', '?', '@', '[', '\\', ']', '^',
    '|'].contains c

/-- The number that some digits of a base denote, if all of them are digits of it. -/
def numberOfBase? (base : Nat) (digits : List Char) : Option Nat :=
  digits.foldl (fun n c => match n, hexValue? c with
    | some n, some d => if d < base then some (base * n + d) else none
    | _, _ => none) (some 0)

/-- A part of a four-byte address: decimal, octal behind a zero, or of base sixteen behind `0x`. -/
def ipv4Part? (part : List Char) : Option Nat :=
  match part with
  | [] => none
  | '0' :: 'x' :: digits | '0' :: 'X' :: digits => numberOfBase? 16 digits
  | '0' :: digit :: digits => numberOfBase? 8 (digit :: digits)
  | digits => numberOfBase? 10 digits

/-- The parts of a domain between its dots; a dot at the end does not count. -/
def domainParts (domain : List Char) : List (List Char) :=
  let parts := Text.splitOn '.' domain
  if 1 < parts.length ∧ parts.getLast? = some [] then parts.dropLast else parts

/-- Whether a domain ends in a number and so has to be an address. -/
def endsInNumber (domain : List Char) : Bool :=
  match (domainParts domain).getLast? with
  | none => false
  | some last => (!last.isEmpty && last.all Char.isDigit) || (ipv4Part? last).isSome

/-- The address of some parts: each but the last is a byte, and the last fills what is left. -/
def ipv4OfParts? (parts : List Nat) : Option Nat :=
  match parts.reverse with
  | [] => none
  | last :: bytes =>
    if 3 < bytes.length ∨ 256 ^ (4 - bytes.length) ≤ last ∨ bytes.any (255 < ·) then none
    else
      let front := bytes.reverse.foldl (fun n byte => 256 * n + byte) 0
      some (front * 256 ^ (4 - bytes.length) + last)

/-- A four-byte address. -/
def ipv4? (domain : List Char) : Option Nat := do
  let parts ← (domainParts domain).mapM ipv4Part?
  ipv4OfParts? parts

/-- A piece of a sixteen-byte address: one to four digits of base sixteen. -/
def ipv6Piece? (piece : List Char) : Option Nat :=
  if piece.isEmpty ∨ 4 < piece.length then none else numberOfBase? 16 piece

/-- The two pieces of a four-byte address in plain decimal parts. -/
def ipv4Pieces? (text : List Char) : Option (List Nat) := do
  let parts := Text.splitOn '.' text
  let bytes ← parts.mapM fun part =>
    if part.isEmpty ∨ (1 < part.length ∧ part.head? = some '0') then none else numberOfBase? 10 part
  match bytes with
  | [a, b, c, d] =>
    if bytes.any (255 < ·) then none else some [256 * a + b, 256 * c + d]
  | _ => none

/-- Pieces between colons; the last may be a four-byte address. -/
def ipv6Pieces? : List (List Char) → Option (List Nat)
  | [] => some []
  | [last] => if last.contains '.' then ipv4Pieces? last else (ipv6Piece? last).map ([·])
  | piece :: rest => do
    let first ← ipv6Piece? piece
    let others ← ipv6Pieces? rest
    return first :: others

/-- Splits a text at the first pair of colons. -/
def splitDoubleColon? : List Char → Option (List Char × List Char)
  | [] => none
  | ':' :: ':' :: rest => some ([], rest)
  | c :: rest => (splitDoubleColon? rest).map fun (before, after) => (c :: before, after)

/-- A sixteen-byte address; a pair of colons stands for one or more pieces of zero. -/
def ipv6? (text : List Char) : Option (List Nat) := do
  let pieces (part : List Char) : Option (List Nat) :=
    if part.isEmpty then some [] else ipv6Pieces? (Text.splitOn ':' part)
  match splitDoubleColon? text with
  | none =>
    let all ← pieces text
    if all.length = 8 then some all else none
  | some (before, after) =>
    if before.contains '.' then none
    else
      let front ← pieces before
      let back ← pieces after
      if 7 < front.length + back.length then none
      else some (front ++ List.replicate (8 - front.length - back.length) 0 ++ back)

/-- The host of a scheme that says what hosts are. -/
def Host.read (text : List Char) : Except Fault Host :=
  match text with
  | '[' :: rest =>
    if rest.getLast? = some ']' then
      match ipv6? rest.dropLast with
      | some pieces => .ok (.ipv6 pieces)
      | none => .error .invalidIpv6
    else .error .invalidIpv6
  | _ =>
    match asciiDomain? (decode text) with
    | none => .error .invalidDomain
    | some name =>
      if name.isEmpty then .error .emptyHost
      else if endsInNumber name then
        match ipv4? name with
        | some address => .ok (.ipv4 address)
        | none => .error .invalidIpv4
      else .ok (.domain name)

/-- The host of a scheme that says nothing about hosts. -/
def Host.readUnknown (text : List Char) : Except Fault Host :=
  match text with
  | '[' :: rest =>
    if rest.getLast? = some ']' then
      match ipv6? rest.dropLast with
      | some pieces => .ok (.ipv6 pieces)
      | none => .error .invalidIpv6
    else .error .invalidIpv6
  | _ =>
    if text.any forbiddenInHost then .error .invalidDomainCharacter
    else .ok (.domain (encode [] text))

/-- How many zeros a list begins with. -/
def leadingZeros (pieces : List Nat) : Nat := (pieces.takeWhile (· = 0)).length

/-- Where the longest run of two or more zeros begins, and its length. -/
def longestZeros (pieces : List Nat) : Option (Nat × Nat) :=
  (List.range pieces.length).foldl (fun best start =>
    let length := leadingZeros (pieces.drop start)
    if length < 2 then best
    else match best with
      | some (_, longest) => if longest < length then some (start, length) else best
      | none => some (start, length)) none

/-- Pieces with colons between. -/
def piecesText (pieces : List Nat) : List Char :=
  List.intercalate [':'] (pieces.map (Nat.toDigits 16))

/-- A host as text. -/
def Host.text : Host → List Char
  | domain name => name
  | ipv4 address => List.intercalate ['.'] ([24, 16, 8, 0].map fun shift =>
      Nat.toDigits 10 (address >>> shift % 256))
  | ipv6 pieces =>
    let inner := match longestZeros pieces with
      | none => piecesText pieces
      | some (start, length) =>
        piecesText (pieces.take start) ++ [':', ':'] ++ piecesText (pieces.drop (start + length))
    '[' :: (inner ++ [']'])

end Telemetry.Url
