import CatalogSearch.Text.Hex
import CatalogSearch.Text.Quoted
import CatalogSearch.Text.Substring

/-! # Hosts in links

The host of a link leads nowhere in a search, but it has to be well formed: brackets enclose an address of
version six or of a later one, with nothing before them and at most a port behind them, and no character may
stand for one that divides a link. A user's name may come first, up to an at sign.
-/

namespace CatalogSearch.Link

open Text (splitAtChar)

/-- Why a link cannot be read. -/
inductive LinkError where
  | badBrackets
  | badFutureAddress
  | notAnAddress (host : String)
  | bracketedVersion4
  | disguisedDelimiter (host : String)
  deriving DecidableEq, Repr

def LinkError.message : LinkError → String
  | .badBrackets => "Invalid IPv6 URL"
  | .badFutureAddress => "IPvFuture address is invalid"
  | .notAnAddress host => Text.quoted host ++ " does not appear to be an IPv4 or IPv6 address"
  | .bracketedVersion4 => "An IPv4 address cannot be in brackets"
  | .disguisedDelimiter host => "netloc '" ++ host ++ "' contains invalid characters under NFKC normalization"

def isOctet (text : List Char) : Bool :=
  !text.isEmpty && text.length ≤ 3 && text.all Char.isDigit && (text == ['0'] || text.head? != some '0') &&
    text.foldl (fun total c => 10 * total + (c.toNat - '0'.toNat)) 0 ≤ 255

def isVersion4 (text : List Char) : Bool :=
  let octets := splitAtChar '.' text
  octets.length == 4 && octets.all isOctet

/-- One of the eight groups of a version six address. -/
def isGroup (text : List Char) : Bool :=
  !text.isEmpty && text.length ≤ 4 && text.all Text.isHex

/-- The groups of a version six address; one gap in their middle stands for groups of zeros. -/
def areGroups (groups : List (List Char)) : Bool :=
  let inner := (groups.drop 1).dropLast
  if inner.any List.isEmpty then
    let before := groups.takeWhile (!·.isEmpty)
    let (before, rest) := if before.isEmpty then ([], groups.drop 1) else (before, groups.drop before.length)
    let after := rest.drop 1
    let after := if after == [[]] then [] else after
    before.length + after.length ≤ 7 && before.all isGroup && after.all isGroup
  else groups.length == 8 && groups.all isGroup

/-- A version six address, which may end with a version four one and name a zone. -/
def isVersion6 (text : List Char) : Bool :=
  let address := text.takeWhile (· != '%')
  let zone := text.drop address.length
  let zoneFits := zone.isEmpty || (zone.length ≥ 2 && !(zone.drop 1).contains '%')
  let groups := splitAtChar ':' address
  let last := groups.getLast?.getD []
  let (fits, groups) :=
    if last.contains '.' then (isVersion4 last, groups.dropLast ++ [['0'], ['0']]) else (true, groups)
  !text.contains '/' && zoneFits && (splitAtChar ':' address).length ≥ 3 && fits && groups.length ≤ 9 &&
    areGroups groups

/-- A host of a later version: a hexadecimal version, a point and at least one more character. -/
def isFutureAddress (text : List Char) : Bool :=
  match text with
  | 'v' :: rest =>
    let version := rest.takeWhile Text.isHex
    !version.isEmpty && (match rest.drop version.length with
      | '.' :: _ :: _ => true
      | _ => false)
  | _ => false

/-- Check the host of a link with brackets, itself without them. -/
def checkBracketed (host : List Char) : Except LinkError Unit :=
  if host.head? == some 'v' then
    if isFutureAddress host then .ok () else .error .badFutureAddress
  else if isVersion4 host then .error .bracketedVersion4
  else if isVersion6 host then .ok ()
  else .error (.notAnAddress (String.ofList host))

/-- Characters that stand for text with a delimiter in it, such as the sign for "a/c". -/
def disguises : List Nat := [
  0x2047, 0x2048, 0x2049, 0x2100, 0x2101, 0x2105, 0x2106, 0x2A74, 0xFE13, 0xFE16, 0xFE55, 0xFE56, 0xFE5F,
  0xFE6B, 0xFF03, 0xFF0F, 0xFF1A, 0xFF1F, 0xFF20]

def dropUser (place : List Char) : List Char :=
  (place.reverse.takeWhile (· != '@')).reverse

/-- Check a host and port of a link with brackets. They may have stood in the user's name; then the host has to
be an address all the same. -/
def checkAddress (place : List Char) : Except LinkError Unit :=
  match place with
  | '[' :: enclosed =>
    let host := enclosed.takeWhile (· != ']')
    match enclosed.drop (host.length + 1) with
    | [] | ':' :: _ => checkBracketed host
    | _ => .error .badBrackets
  | _ =>
    if place.contains '[' then .error .badBrackets
    else checkBracketed (place.takeWhile (· != ':'))

/-- Check the brackets in what a link has for its host, with the user's name and the port. -/
def checkBrackets (place : List Char) : Except LinkError Unit :=
  match place.contains '[', place.contains ']' with
  | false, false => .ok ()
  | true, true => checkAddress (dropUser place)
  | _, _ => .error .badBrackets

/-- Check that no character of a host stands for a delimiter. -/
def checkDisguises (host : List Char) : Except LinkError Unit :=
  if host.any fun c => disguises.contains c.toNat then .error (.disguisedDelimiter (String.ofList host))
  else .ok ()

end CatalogSearch.Link
