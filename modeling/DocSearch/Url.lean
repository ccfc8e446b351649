/-
Addresses of an engine: what comes behind `http://` or `https://`. The part
before the first slash, question mark or number sign names the host, behind an
optional user name and before an optional port. A host in brackets is an IPv6
address, and any other stands for a domain name; a name that ends in a number is
an IPv4 address. What comes behind the host is not looked at.
-/
import DocSearch.Domain.Name
import DocSearch.Text.Percent

namespace DocSearch.Url

/-- Why an address names no engine. -/
inductive UrlError where
  | emptyHost
  /-- The port is no number of 16 bits. -/
  | port
  /-- The brackets hold no IPv6 address. -/
  | ipv6
  /-- The host ends in a number but is no IPv4 address. -/
  | ipv4
  /-- The host stands for no domain name. -/
  | domain
  deriving DecidableEq

/-- How the reason is reported. -/
def UrlError.message : UrlError → String
  | emptyHost => "empty host"
  | port => "invalid port number"
  | ipv6 => "invalid IPv6 address"
  | ipv4 => "invalid IPv4 address"
  | domain => "invalid international domain name"

/-! ## Pieces of a text -/

/-- The text before and after the first two marks in a row. -/
def splitDouble (mark : Char) : List Char → Option (List Char × List Char)
  | a :: b :: rest =>
    if a = mark ∧ b = mark then some ([], rest)
    else (splitDouble mark (b :: rest)).map fun halves => (a :: halves.1, halves.2)
  | _ => none

/-- What comes behind the last mark, or the whole text if there is none. -/
def afterLast (mark : Char) (text : List Char) : List Char :=
  (text.reverse.takeWhile (· != mark)).reverse

/-! ## IPv4 addresses -/

/-- The digits of a number in an IPv4 address and their base, which leading characters tell. -/
def numberForm (text : List Char) : Nat × List Char :=
  match text with
  | '0' :: 'x' :: digits => (16, digits)
  | '0' :: 'X' :: digits => (16, digits)
  | '0' :: d :: digits => (8, d :: digits)
  | digits => (10, digits)

/-- The value of digits in a base. -/
def valueIn (base : Nat) : Nat → List Char → Option Nat
  | acc, [] => some acc
  | acc, c :: rest =>
    match Text.Numeral.hexValue? c with
    | some d => if d < base then valueIn base (base * acc + d) rest else none
    | none => none

/-- A number in an IPv4 address: decimal, octal behind a zero, or in base sixteen behind `0x`. -/
def number? (text : List Char) : Option Nat :=
  if text.isEmpty then none
  else
    let (base, digits) := numberForm text
    valueIn base 0 digits

/-- The pieces of a domain between dots, without an empty one at the end. -/
def labels (host : List Char) : List (List Char) :=
  let all := Text.pieces '.' host
  if all.getLast? = some [] then all.dropLast else all

/-- Whether the last piece of a domain is a number. -/
def endsInNumber (host : List Char) : Bool :=
  match (labels host).getLast? with
  | some last => (!last.isEmpty && last.all Char.isDigit) || (number? last).isSome
  | none => false

/-- Whether a domain is an IPv4 address: up to four numbers, of which the last fills the bytes
that the others leave. -/
def isIPv4 (host : List Char) : Bool :=
  match (labels host).mapM number? with
  | some numbers =>
    numbers.length ≤ 4 && numbers.dropLast.all (· < 256)
      && numbers.getLast?.all (· < Nat.pow 256 (5 - numbers.length))
  | none => false

/-! ## IPv6 addresses -/

/-- Whether a text is up to four digits in base sixteen. -/
def isGroup (text : List Char) : Bool :=
  !text.isEmpty && text.length ≤ 4 && text.all fun c => (Text.Numeral.hexValue? c).isSome

/-- Whether a text is a byte in decimal, without leading zeros. -/
def isByte (text : List Char) : Bool :=
  !text.isEmpty && text.all Char.isDigit && Text.Numeral.value text < 256
    && (text.length = 1 || text.head? != some '0')

/-- Whether a text is four bytes between dots. -/
def isDotted (text : List Char) : Bool :=
  let bytes := Text.pieces '.' text
  bytes.length = 4 && bytes.all isByte

/-- The number of 16 bit groups that pieces stand for; four bytes may stand at the end. -/
def groups? : List (List Char) → Option Nat
  | [] => some 0
  | [last] => if isGroup last then some 1 else if isDotted last then some 2 else none
  | piece :: rest => if isGroup piece then (· + 1) <$> groups? rest else none

/-- The number of groups between colons; nothing at all is none. -/
def groupCount? (text : List Char) : Option Nat :=
  if text.isEmpty then some 0 else groups? (Text.pieces ':' text)

/-- Whether a text is an IPv6 address: eight groups, or fewer with one gap between two colons. -/
def isIPv6 (text : List Char) : Bool :=
  match splitDouble ':' text with
  | none => groupCount? text = some 8
  | some (before, after) =>
    !before.contains '.' && match groupCount? before, groupCount? after with
      | some m, some n => m + n ≤ 7
      | _, _ => false

/-! ## Hosts and ports -/

/-- The domain that a host stands for, its percent signs resolved. -/
def domain? (host : String) : Option (List Char) := do
  let text ← String.fromUTF8? ⟨(Text.Percent.decode (Text.Percent.utf8 host)).toArray⟩
  Domain.name? text.toList

/-- Checks a host. A domain may be empty even if the host is not. -/
def checkHost (host : List Char) : Except UrlError Unit :=
  match host with
  | '[' :: rest =>
    if rest.getLast? = some ']' && isIPv6 rest.dropLast then .ok () else .error .ipv6
  | _ =>
    match domain? (String.ofList host) with
    | none => .error .domain
    | some domain =>
      if domain.isEmpty then .error .emptyHost
      else if endsInNumber domain && !isIPv4 domain then .error .ipv4
      else .ok ()

/-- Checks what follows the host: nothing, or a colon and the port. -/
def checkPort : List Char → Except UrlError Unit
  | ':' :: digits =>
    if digits.all Char.isDigit && Text.Numeral.value digits ≤ 65535 then .ok () else .error .port
  | _ => .ok ()

/-- The number of characters before the first colon outside brackets. -/
def hostLength (inBrackets : Bool) : List Char → Nat
  | [] => 0
  | c :: rest =>
    if c = ':' && !inBrackets then 0
    else hostLength (if c = '[' then true else if c = ']' then false else inBrackets) rest + 1

/-- The characters that end the part with the host. -/
def endsAuthority (c : Char) : Bool := c = '/' || c = '?' || c = '#' || c = '\\'

/-- Checks the part of an address that names the host. -/
def checkAuthority (authority : List Char) : Except UrlError Unit := do
  let hostAndPort := afterLast '@' authority
  let length := hostLength false hostAndPort
  if length = 0 then .error .emptyHost
  checkHost (hostAndPort.take length)
  checkPort (hostAndPort.drop length)

/-- Whether a character at the end of an address does not count. -/
def isEdge (c : Char) : Bool := c.toNat ≤ 0x20

/-- Whether a character anywhere in an address does not count. -/
def isIgnored (c : Char) : Bool := c = '\t' || c = '\n' || c = '\r'

/-- The characters of an address that count. -/
def significant (text : String) : List Char :=
  ((text.toList.dropWhile isEdge).reverse.dropWhile isEdge).reverse.filter (!isIgnored ·)

/-- Checks an address that starts with a scheme and a colon. -/
def check (text : String) : Except UrlError Unit :=
  let behind := ((significant text).dropWhile (· != ':')).drop 1
  checkAuthority ((behind.dropWhile fun c => c = '/' || c = '\\').takeWhile (!endsAuthority ·))

example : isIPv6 "::ffff:1.2.3.4".toList = true := by decide +kernel

example : (check "http://u@[::1]:9200").isOk = true := by decide +kernel

example : (check "http://u@[::1]:99999").isOk = false := by decide +kernel

end DocSearch.Url
