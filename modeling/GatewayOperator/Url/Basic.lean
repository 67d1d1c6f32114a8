/-
This file reads absolute addresses of resources as far as the operator asks for them: the
scheme, the user name and the host. The schemes of the web have a host of their own that follows
the rules of host names; other schemes may do without and take their host as it is written.
-/

import GatewayOperator.Text.Utf8
import GatewayOperator.Text.Blank
import GatewayOperator.Url.Address
import GatewayOperator.Url.Domain

namespace GatewayOperator

/-- Why an address cannot be read. -/
inductive UrlError where
  | emptyHost
  | invalidDomain
  | invalidPort
  | invalidIpv4
  | invalidIpv6
  | invalidDomainCharacter
  | relativeWithoutBase
  deriving DecidableEq

/-- The text of the error. -/
def UrlError.message : UrlError → String
  | emptyHost => "empty host"
  | invalidDomain => "invalid international domain name"
  | invalidPort => "invalid port number"
  | invalidIpv4 => "invalid IPv4 address"
  | invalidIpv6 => "invalid IPv6 address"
  | invalidDomainCharacter => "invalid domain character"
  | relativeWithoutBase => "relative URL without a base"

/-- The host of an address. -/
inductive Host where
  | domain (name : String)
  | ipv4 (address : Nat)
  | ipv6 (parts : List Nat)
  deriving DecidableEq

/-- An address as far as it is asked for. The user name stands as it is written. -/
structure Url where
  scheme : String
  username : String
  host : Option Host
  deriving DecidableEq

namespace Url

/-! ### Schemes -/

/-- The schemes that are told apart: files, the others of the web, and all others. -/
inductive SchemeKind where
  | file
  | web
  | other
  deriving DecidableEq

/-- The kind of a scheme. -/
def schemeKind (scheme : List Char) : SchemeKind :=
  if scheme = "file".toList then .file
  else if scheme ∈ ["http".toList, "https".toList, "ws".toList, "wss".toList, "ftp".toList] then
    .web
  else .other

/-- Whether a backslash counts as a slash under a scheme. -/
def SchemeKind.isSpecial : SchemeKind → Bool
  | .other => false
  | _ => true

/-- Whether a character may stand in a scheme behind its first one. -/
def isSchemeCharacter (character : Char) : Bool :=
  character.isAlphanum || character = '+' || character = '-' || character = '.'

/-- The scheme, in lower case, and what follows its colon. -/
def readScheme? (text : List Char) : Option (List Char × List Char) :=
  match text with
  | first :: _ =>
    if first.isAlpha then
      match text.dropWhile isSchemeCharacter with
      | ':' :: rest => some ((text.takeWhile isSchemeCharacter).map Char.toLower, rest)
      | _ => none
    else none
  | [] => none

/-! ### Hosts -/

/-- The value of a hexadecimal digit among bytes. -/
def hexByte? (byte : UInt8) : Option UInt8 :=
  if 0x30 ≤ byte ∧ byte ≤ 0x39 then some (byte - 0x30)
  else if 0x61 ≤ byte ∧ byte ≤ 0x66 then some (byte - 0x61 + 10)
  else if 0x41 ≤ byte ∧ byte ≤ 0x46 then some (byte - 0x41 + 10)
  else none

/-- Replaces a percent sign and two hexadecimal digits by the byte they stand for. -/
def percentDecode : List UInt8 → List UInt8
  | 0x25 :: high :: low :: rest =>
    match hexByte? high, hexByte? low with
    | some high, some low => (high * 16 + low) :: percentDecode rest
    | _, _ => 0x25 :: percentDecode (high :: low :: rest)
  | byte :: rest => byte :: percentDecode rest
  | [] => []

/-- The text of a host after its percent signs were replaced. A text without one stays. -/
def decodeHost (text : List Char) : List Char :=
  if text.contains '%' then Text.Utf8.decode (percentDecode (Text.Utf8.encode text)) else text

/-- A host between brackets. -/
def readBracketed (text : List Char) : Except UrlError Host :=
  if text.getLast? = some ']' then
    match ipv6? text.dropLast with
    | some parts => .ok (.ipv6 parts)
    | none => .error .invalidIpv6
  else .error .invalidIpv6

/-- The host of a scheme of the web. -/
def readHost (text : List Char) : Except UrlError Host :=
  match text with
  | '[' :: rest => readBracketed rest
  | text =>
    match toAscii? ((decodeHost text).map Char.toNat) with
    | none => .error .invalidDomain
    | some [] => .error .emptyHost
    | some codes =>
      let name := codes.map Char.ofNat
      if endsInNumber name then
        match ipv4? name with
        | some address => .ok (.ipv4 address)
        | none => .error .invalidIpv4
      else .ok (.domain (String.ofList name))

/-- Whether a character may not stand in the host of another scheme. -/
def isForbiddenInHost (character : Char) : Bool :=
  character == '\x00' || "\t\n\r #/:<>?@[\\]^|".toList.contains character

/-- The host of a scheme that is not of the web; it stands as it is written. -/
def readPlainHost (text : List Char) : Except UrlError Host :=
  match text with
  | '[' :: rest => readBracketed rest
  | text =>
    if text.any isForbiddenInHost then .error .invalidDomainCharacter
    else .ok (.domain (String.ofList text))

/-! ### The part between the slashes -/

/-- Whether a character ends the part with the user and the host. -/
def endsAuthority (kind : SchemeKind) (character : Char) : Bool :=
  character = '/' || character = '?' || character = '#' || (kind.isSpecial && character = '\\')

/-- Splits a text at its last at sign; nothing if there is none. -/
def splitLastAt? (text : List Char) : Option (List Char × List Char) :=
  let reversed := text.reverse
  match reversed.dropWhile (· != '@') with
  | [] => none
  | _ :: before => some (before.reverse, (reversed.takeWhile (· != '@')).reverse)

/-- The text of a host up to its port, and the rest. A colon between brackets belongs to the
host. -/
def splitHost (inBrackets : Bool) : List Char → List Char × List Char
  | [] => ([], [])
  | character :: rest =>
    if character = ':' && !inBrackets then ([], character :: rest)
    else
      let inside := if character = '[' then true else if character = ']' then false else inBrackets
      let (host, port) := splitHost inside rest
      (character :: host, port)

/-- Checks a port: decimal digits with a value of 16 bits, or nothing. A backslash ends it under
every scheme. -/
def checkPort (text : List Char) : Except UrlError Unit :=
  let port := text.takeWhile (· != '\\')
  if !port.all Char.isDigit then .error .invalidPort
  else
    let value := port.foldl (fun value digit => value * 10 + (digit.toNat - '0'.toNat)) 0
    if value ≤ 65535 then .ok () else .error .invalidPort

/-- The host and the port of an address. -/
def readHostAndPort (kind : SchemeKind) (text : List Char) : Except UrlError (Option Host) := do
  let (hostText, portText) := splitHost false text
  if kind = .web && hostText.isEmpty then
    throw .emptyHost
  let host ← if kind = .other then readPlainHost hostText else readHost hostText
  match host, portText with
  | .domain "", _ :: _ => throw .emptyHost
  | .domain "", [] => return none
  | host, [] => return some host
  | host, _ :: port => do
    checkPort port
    return some host

/-- The user name of a user part: what stands before its first colon. -/
def userName (userPart : List Char) : List Char := userPart.takeWhile (· != ':')

/-- Whether a user part leaves a trace in the address: a name, or a password behind a colon. -/
def leavesTrace (userPart : List Char) : Bool := !userPart.isEmpty && userPart != [':']

/-- The user name and the host of what follows the two slashes. -/
def readAuthority (kind : SchemeKind) (text : List Char) :
    Except UrlError (List Char × Option Host) := do
  let authority := text.takeWhile (!endsAuthority kind ·)
  let rest := text.dropWhile (!endsAuthority kind ·)
  match splitLastAt? authority with
  | none => do
    let host ← readHostAndPort kind authority
    return ([], host)
  | some ([], hostText) => do
    if hostText.isEmpty && !rest.isEmpty then
      throw .emptyHost
    let host ← readHostAndPort kind hostText
    return ([], host)
  | some (userPart, hostText) => do
    let host ← readHostAndPort kind hostText
    if host.isNone && leavesTrace userPart then
      throw .emptyHost
    return (userName userPart, host)

/-! ### Files -/

/-- Whether a text is a letter and a colon or a bar, which names a drive and no host. -/
def isDriveLetter : List Char → Bool
  | [letter, mark] => letter.isAlpha && (mark = ':' || mark = '|')
  | _ => false

/-- Whether a character is a slash of either kind. -/
def isSlash (character : Char) : Bool := character = '/' || character = '\\'

/-- The host of a file. -/
def readFileHost (text : List Char) : Except UrlError (Option Host) :=
  match text with
  | first :: second :: rest =>
    if isSlash first && isSlash second then
      let host := rest.takeWhile (!endsAuthority .file ·)
      if host.isEmpty || isDriveLetter host then .ok none
      else (readHost host).map fun host => if host = .domain "localhost" then none else some host
    else .ok none
  | _ => .ok none

/-! ### Addresses -/

/-- Whether a character is dropped at both ends of an address. -/
def isControlOrSpace (character : Char) : Bool := character.toNat ≤ 0x20

/-- Whether a character is passed over inside an address. -/
def isIgnored (character : Char) : Bool :=
  character = '\t' || character = '\n' || character = '\r'

/-- An address without the characters that do not count. -/
def clean (text : List Char) : List Char :=
  (Text.dropTrailing isControlOrSpace (text.dropWhile isControlOrSpace)).filter (!isIgnored ·)

/-- Reads what follows a scheme. -/
def readRest (scheme rest : List Char) : Except UrlError Url := do
  let name := String.ofList scheme
  match schemeKind scheme with
  | .file => do
    let host ← readFileHost rest
    return ⟨name, "", host⟩
  | .web => do
    let (user, host) ← readAuthority .web (rest.dropWhile isSlash)
    return ⟨name, String.ofList user, host⟩
  | .other =>
    match rest with
    | '/' :: '/' :: authority => do
      let (user, host) ← readAuthority .other authority
      return ⟨name, String.ofList user, host⟩
    | _ => return ⟨name, "", none⟩

/-- Reads an absolute address. -/
def parse (text : List Char) : Except UrlError Url :=
  match readScheme? (clean text) with
  | none => .error .relativeWithoutBase
  | some (scheme, rest) => readRest scheme rest

end Url

end GatewayOperator
