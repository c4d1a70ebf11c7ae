/-
**Addresses of the web.**

`Target.read` reads an absolute address. Those of the schemes `http` and `https` are taken apart; of any
other it only matters that they are well formed. `Address.written` prints an address.
-/

import SecretSource.Url.Host
import SecretSource.Url.Path

namespace SecretSource.Url

open SecretSource.Text

/-- An address of `http`, or of `https` if it is secure. User and password are encoded and empty if there
is none; the port is none if it is that of the scheme. -/
structure Address where
  isSecure : Bool
  user : List Char
  password : List Char
  host : Host
  port : Option Nat
  path : Path
  query : Option (List Char)
  fragment : Option (List Char)
deriving DecidableEq, Repr

/-- What an absolute address leads to: the web, or something of another scheme. -/
inductive Target where
  | web (address : Address)
  | other (scheme : List Char)
deriving DecidableEq, Repr

/-- What a user and a password refuse. -/
def isUserRefused (letter : Char) : Bool :=
  isPathRefused letter || ['/', ':', ';', '=', '@', '[', '\\', ']', '^', '|'].contains letter

/-- What a query refuses. -/
def isQueryRefused (letter : Char) : Bool :=
  [' ', '"', '#', '<', '>', '\''].contains letter

/-- What a fragment refuses. -/
def isFragmentRefused (letter : Char) : Bool :=
  [' ', '"', '<', '>', '\x60'].contains letter

/-- Whether a character ends the host part of an address; a backslash does in the schemes of the web. -/
def endsAuthority (isSpecial : Bool) (letter : Char) : Bool :=
  letter == '/' || letter == '?' || letter == '#' || (isSpecial && letter == '\\')

/-- A text without controls and spaces at its ends, and without tabs and line ends anywhere. -/
def cleaned (text : List Char) : List Char :=
  (trim (·.toNat ≤ 0x20) text).filter (! isDropped ·)

/-- Whether a character may stand in a scheme. -/
def isSchemePart (letter : Char) : Bool :=
  letter.isAlphanum || ['+', '-', '.'].contains letter

/-- The scheme before the first colon, in small letters, and what follows it. -/
def readScheme (text : List Char) : Option (List Char × List Char) :=
  match text.takeWhile isSchemePart, text.dropWhile isSchemePart with
  | first :: others, ':' :: rest =>
    if first.isAlpha then some ((first :: others).map Char.toLower, rest) else none
  | _, _ => none

/-- User, password and what follows the at sign. -/
structure UserPart where
  user : List Char
  password : List Char
  rest : List Char

/-- What stands behind the last at sign of a host part; all of it if there is none. -/
def behindUser (authority : List Char) : List Char :=
  (authority.reverse.takeWhile (· != '@')).reverse

/-- Reads user and password, which stand before the last at sign of the host part. -/
def readUser (isSpecial : Bool) (text : List Char) : Except Fault UserPart :=
  let authority := text.takeWhile (! endsAuthority isSpecial ·)
  let behind := behindUser authority
  if behind.length = authority.length then .ok ⟨[], [], text⟩
  else
    let credentials := authority.take (authority.length - behind.length - 1)
    let rest := text.drop (credentials.length + 1)
    match credentials, rest with
    | [], letter :: _ =>
      if endsAuthority isSpecial letter then .error .noHost else .ok ⟨[], [], rest⟩
    | _, _ =>
      .ok ⟨Percent.encode isUserRefused (credentials.takeWhile (· != ':')),
        Percent.encode isUserRefused ((credentials.dropWhile (· != ':')).drop 1), rest⟩

/-- The characters of a host and what follows it. A colon between brackets does not end a host. -/
def splitHost (isSpecial inBrackets : Bool) : List Char → List Char × List Char
  | [] => ([], [])
  | letter :: rest =>
    if endsAuthority isSpecial letter || (letter == ':' && ! inBrackets) then ([], letter :: rest)
    else
      let inBrackets := letter == '[' || (inBrackets && letter != ']')
      let (host, behind) := splitHost isSpecial inBrackets rest
      (letter :: host, behind)

/-- Reads a port, if a colon follows. -/
def readPort : List Char → Except Fault (Option Nat × List Char)
  | ':' :: text =>
    let digits := text.takeWhile Char.isDigit
    let rest := text.dropWhile Char.isDigit
    let port := digits.foldl (fun number digit => 10 * number + (digit.toNat - 48)) 0
    if 65535 < port ∨ ! rest.head?.all (endsAuthority true) then .error .badPort
    else .ok (if digits.isEmpty then none else some port, rest)
  | text => .ok (none, text)

/-- Path, query and fragment. -/
structure Tail where
  path : Path
  query : Option (List Char)
  fragment : Option (List Char)

/-- Reads what follows the host and the port. -/
def readTail (text : List Char) : Tail :=
  let beforeFragment := text.takeWhile (· != '#')
  let path := beforeFragment.takeWhile (· != '?')
  let query := match beforeFragment.dropWhile (· != '?') with
    | _ :: query => some (Percent.encode isQueryRefused query)
    | [] => none
  let fragment := match text.dropWhile (· != '#') with
    | _ :: fragment => some (Percent.encode isFragmentRefused fragment)
    | [] => none
  ⟨Path.read path, query, fragment⟩

/-- The port of a scheme. -/
def standardPort (isSecure : Bool) : Nat := if isSecure then 443 else 80

/-- Whether a character is a slash; in the schemes of the web and of files a backslash is one. -/
def isSlash (letter : Char) : Bool :=
  letter == '/' || letter == '\\'

/-- Reads what follows the slashes of an address of the web. -/
def readBehindSlashes (isSecure : Bool) (text : List Char) : Except Fault Address := do
  let part ← readUser true text
  let (host, rest) := splitHost true false part.rest
  if host.isEmpty then .error .noHost
  else
    let host ← Host.read host
    let (port, rest) ← readPort rest
    let tail := readTail rest
    .ok {
      isSecure
      user := part.user
      password := part.password
      host
      port := if port = some (standardPort isSecure) then none else port
      path := tail.path
      query := tail.query
      fragment := tail.fragment }

/-- Reads what follows the colon of a scheme of the web; any number of slashes comes first. -/
def readWeb (isSecure : Bool) (text : List Char) : Except Fault Address :=
  readBehindSlashes isSecure (text.dropWhile isSlash)

/-- Checks what follows the colon of `file`: a host may stand between slashes. -/
def checkFile (text : List Char) : Except Fault Unit :=
  match text with
  | first :: second :: rest =>
    if isSlash first ∧ isSlash second then
      let host := rest.takeWhile (! endsAuthority true ·)
      if host.isEmpty ∨ Path.isDrive host then .ok ()
      else (Host.read host).map fun _ => ()
    else .ok ()
  | _ => .ok ()

/-- Checks what follows the colon of a scheme that has no meaning here: two slashes announce a host. -/
def checkOther (text : List Char) : Except Fault Unit :=
  match text with
  | '/' :: '/' :: rest => do
    let part ← readUser false rest
    let (host, behind) := splitHost false false part.rest
    Host.checkOpaque host
    let _ ← if host.isEmpty ∧ behind.head? = some ':' then .error .noHost else readPort behind
    if host.isEmpty ∧ (part.user ≠ [] ∨ part.password ≠ []) then .error .noHost else .ok ()
  | _ => .ok ()

namespace Target

/-- Reads an absolute address from a cleaned text. -/
def readCleaned (text : List Char) : Except Fault Target :=
  match readScheme text with
  | none => .error .noScheme
  | some (scheme, rest) =>
    match String.ofList scheme with
    | "http" => (readWeb false rest).map .web
    | "https" => (readWeb true rest).map .web
    | "ws" | "wss" | "ftp" => (readWeb false rest).map fun _ => .other scheme
    | "file" => (checkFile rest).map fun _ => .other scheme
    | _ => (checkOther rest).map fun _ => .other scheme

/-- Reads an absolute address. -/
def read (text : String) : Except Fault Target :=
  readCleaned (cleaned text.toList)

end Target

namespace Address

/-- User and password as they are printed, with the at sign behind them. -/
def userText (address : Address) : List Char :=
  if address.user.isEmpty && address.password.isEmpty then []
  else if address.password.isEmpty then address.user ++ ['@']
  else address.user ++ ':' :: address.password ++ ['@']

/-- Host and port. -/
def hostText (address : Address) : List Char :=
  address.host.written ++ match address.port with
    | some port => ':' :: Nat.toDigits 10 port
    | none => []

/-- The scheme with what divides it from the rest. -/
def schemeText (address : Address) : List Char :=
  if address.isSecure then "https://".toList else "http://".toList

/-- The query with its question mark. -/
def queryText (address : Address) : List Char :=
  match address.query with
  | some query => '?' :: query
  | none => []

/-- The fragment with its number sign. -/
def fragmentText (address : Address) : List Char :=
  match address.fragment with
  | some fragment => '#' :: fragment
  | none => []

/-- The text of an address. -/
def written (address : Address) : List Char :=
  address.schemeText ++ address.userText ++ address.hostText ++ address.path.written
    ++ address.queryText ++ address.fragmentText

/-- The address without user and password. -/
def withoutUser (address : Address) : Address := { address with user := [], password := [] }

/-- The address with a pair added to its query. -/
def withPair (address : Address) (name value : List Char) : Address :=
  let pair := name ++ '=' :: value
  { address with
    query := some <| match address.query with
      | none | some [] => pair
      | some query => query ++ '&' :: pair }

end Address

end SecretSource.Url
