import Ddl.Api.Host
import Ddl.Api.Path
import Ddl.Text.Basic
import Ddl.Text.Digit
import Ddl.Text.Numeral
import Ddl.Text.Quoted

/-! An address names a path of the service, and may do so in more than one way. -/

namespace Ddl

/-- Why a text is no address of the service. -/
inductive AddressError where
  /-- The address has too many characters. -/
  | tooLong
  /-- A control character stands after a number of other characters. -/
  | unprintable (char : Char) (position : Nat)
  /-- The host is none. -/
  | badHost (fault : HostFault) (host : Text)
  /-- The port is no integer. -/
  | badPort (port : Text)
  /-- The path begins with two slashes, and nothing stands before it. -/
  | doubleSlash
  /-- The path begins with a colon, and nothing stands before it. -/
  | leadingColon
  /-- The path has too many characters once it is escaped. -/
  | pathTooLong
  /-- The query has too many characters once it is escaped. -/
  | queryTooLong
  /-- The address belongs to another kind of service. -/
  | unknownScheme (scheme : Text)
  deriving DecidableEq

/-- The words for what is wrong with a host. -/
def HostFault.message : HostFault → Text
  | badIPv4 => "Invalid IPv4 address".toList
  | badIPv6 => "Invalid IPv6 address".toList
  | badName => "Invalid IDNA hostname".toList

/-- The words for what is wrong with an address. -/
def AddressError.message : AddressError → Text
  | tooLong => "URL too long".toList
  | unprintable char position =>
    "Invalid non-printable ASCII character in URL, ".toList ++ Quoted.encode [char] ++
      " at position ".toList ++ Text.ofNat position ++ ['.']
  | badHost fault host => fault.message ++ ": ".toList ++ Quoted.encode host
  | badPort port => "Invalid port: ".toList ++ Quoted.encode port
  | doubleSlash => "Relative URLs cannot have a path starting with '//'".toList
  | leadingColon => "Relative URLs cannot have a path starting with ':'".toList
  | pathTooLong => "URL component 'path' too long".toList
  | queryTooLong => "URL component 'query' too long".toList
  | unknownScheme scheme => Quoted.encode scheme

/-- Who serves an address. -/
structure Authority where
  /-- The user who asks, which is empty when none is named. -/
  user : Text
  /-- The host, which is empty when none is named. -/
  host : Text
  /-- The port, which is empty when none is named. -/
  port : Text
  deriving DecidableEq

/-- The parts of an address, each as it is written. -/
structure Address where
  /-- The scheme, which is empty when the address has none. -/
  scheme : Text
  /-- The authority, whose parts are all empty when the address has none. -/
  authority : Authority
  /-- The path. -/
  path : Text
  /-- The query, which is empty when the address has none. -/
  query : Text
  deriving DecidableEq

namespace Authority

/-- The user before the last at sign, and the text after that sign. -/
def splitUser (text : Text) : Text × Text :=
  let rest := (text.reverse.takeWhile (· ≠ '@')).reverse
  ((text.take (text.length - rest.length)).dropLast, rest)

/-- The host at the beginning of a text, and the text after it. -/
def splitHost (text : Text) : Text × Text :=
  -- What stands in brackets may hold colons, and ends with the last bracket that closes.
  let tail := (text.reverse.takeWhile (· ≠ ']')).reverse
  if text.head? = some '[' ∧ tail ≠ text then (text.take (text.length - tail.length), tail)
  else text.span (· ≠ ':')

/-- The port in a text, before which there may be a colon. -/
def portOf : Text → Text
  | ':' :: port => port
  | port => port

/-- The authority that a text writes. -/
def ofText (text : Text) : Authority :=
  let (user, place) := splitUser text
  let (host, rest) := splitHost place
  ⟨user, host, portOf rest⟩

/-- Whether the authority names anything. -/
def isNamed (authority : Authority) : Bool :=
  authority.user ≠ [] || authority.host ≠ [] || authority.port ≠ []

/-- What is wrong with an authority, if anything is. -/
def fault? (authority : Authority) : Option AddressError :=
  -- The host is looked at before the port.
  match Host.fault? authority.host, Numeral.integer authority.port with
  | some fault, _ => some (.badHost fault authority.host)
  | none, .ok _ => none
  | none, .error _ => if authority.port = [] then none else some (.badPort authority.port)

end Authority

namespace Address

/-- The greatest number of characters of an address, and of its path and its query. -/
def maxLength : Nat :=
  65536

/-- Whether the character is an ASCII letter. -/
def isLetter (char : Char) : Bool :=
  ('a' ≤ char && char ≤ 'z') || ('A' ≤ char && char ≤ 'Z')

/-- Whether the character may stand in a scheme. -/
def isSchemeChar (char : Char) : Bool :=
  isLetter char || isAsciiDigit char || char == '+' || char == '.' || char == '-'

/-- Whether the character is a control character of ASCII. -/
def isControl (char : Char) : Bool :=
  char.toNat < 0x20 || char.toNat = 0x7F

/-- Whether the character stands in a query as it is. -/
def isPlainInQuery (char : Char) : Bool :=
  0x20 < char.toNat && char.toNat < 0x7F && char ∉ ['"', '#', '<', '>']

/-- Whether the character stands in a path as it is. -/
def isPlainInPath (char : Char) : Bool :=
  isPlainInQuery char && char ∉ ['?', '\x60', '\x7b', '\x7d']

/-- Whether the character ends the path of an address. -/
def endsPath (char : Char) : Bool :=
  char == '?' || char == '#'

/-- The scheme at the beginning of an address, and the text after its colon. -/
def splitScheme (text : Text) : Text × Text :=
  -- What stands before the colon is no scheme when it begins with anything but a letter.
  match text.span isSchemeChar with
  | (name, ':' :: rest) => if name.head?.all isLetter then (name, rest) else ([], text)
  | _ => ([], text)

/-- The authority after two slashes at the beginning of a text, and the text after it. -/
def splitAuthority : Text → Text × Text
  | '/' :: '/' :: rest => rest.span fun char => char != '/' && !endsPath char
  | text => ([], text)

/-- The query after a question mark at the beginning of a text. -/
def queryOf : Text → Text
  | '?' :: rest => rest.takeWhile (· ≠ '#')
  | _ => []

/-- The parts of an address as it is written. -/
def ofText (text : Text) : Address :=
  let (scheme, later) := splitScheme text
  let (authority, rest) := splitAuthority later
  let (path, last) := rest.span (!endsPath ·)
  ⟨scheme, Authority.ofText authority, path, queryOf last⟩

/-- Whether nothing stands before the path of an address. -/
def isPathOnly (address : Address) : Bool :=
  address.scheme = [] && !address.authority.isNamed

/-- Whether the address says by itself who serves it. -/
def isAbsolute (address : Address) : Bool :=
  address.scheme ≠ [] && address.authority.host ≠ []

/-- What is wrong with the characters of an address, if anything is. -/
def textFault? (text : Text) : Option AddressError :=
  -- The first control character is the one that is reported.
  if maxLength < text.length then some .tooLong
  else
    match text.span (!isControl ·) with
    | (before, char :: _) => some (.unprintable char before.length)
    | (_, []) => none

/-- What is wrong with the beginning of a path, if anything is. -/
def pathFault? (address : Address) : Option AddressError :=
  -- A scheme or an authority sets such a path apart from what could be taken for them.
  if !address.isPathOnly then none
  else
    match address.path with
    | '/' :: '/' :: _ => some .doubleSlash
    | ':' :: _ => some .leadingColon
    | _ => none

/-- The path without dots, except where an address is nothing but a path. -/
def followedPath (address : Address) : Text :=
  if address.isPathOnly then address.path else Path.withoutDots address.path

/-- What is wrong with the length of a relative address, if anything is. -/
def lengthFault? (address : Address) : Option AddressError :=
  -- A path is put behind the root before it is measured.
  let path := Path.fromRoot address.followedPath
  if maxLength < Path.escapedLength isPlainInPath path then some .pathTooLong
  else if maxLength < Path.escapedLength isPlainInQuery address.query then some .queryTooLong
  else none

/-- What is wrong with the scheme of an absolute address, if anything is. -/
def schemeFault? (address : Address) : Option AddressError :=
  let scheme := address.scheme.map Char.toLower
  if scheme = "http".toList ∨ scheme = "https".toList then none
  else some (.unknownScheme scheme)

/-- What is wrong with the parts of an address, if anything is. -/
def fault? (address : Address) : Option AddressError :=
  address.authority.fault? <|> address.pathFault? <|>
    if address.isAbsolute then address.schemeFault? else address.lengthFault?

/-- The path that an address asks for, written with its escapes. -/
def writtenPath (address : Address) : Text :=
  -- The path of a relative address leads from the root of the service.
  let path :=
    if address.isAbsolute then address.followedPath
    else Path.withoutDots (Path.fromRoot address.followedPath)
  if path = [] then ['/'] else path

/-- The path that the address in a text asks for. -/
def resolve (text : Text) : Except AddressError Text :=
  -- The two sides of a request decode escapes one after the other.
  let address := ofText text
  match textFault? text <|> address.fault? with
  | some error => .error error
  | none => .ok (Path.decodeEscapes (Path.decodeEscapes address.writtenPath))

end Address

end Ddl
