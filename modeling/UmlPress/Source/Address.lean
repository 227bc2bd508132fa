import UmlPress.Text.Blank
import UmlPress.Text.Quoted

/-!
# Addresses

The scheme and the host part of an address. White space and control characters
in front are not part of it, and tabs and line ends inside are dropped. A host
in brackets has to be a numeric address of the newer kind.
-/
namespace UmlPress.Source

inductive AddressFault where
  | brackets
  | future
  | olderInBrackets
  | notNumeric (host : List Char)
  /-- A character of the host stands for one that ends a host. -/
  | disguised (host : List Char)
  deriving Repr, DecidableEq

def AddressFault.message : AddressFault → String
  | .brackets => "Invalid IPv6 URL"
  | .future => "IPvFuture address is invalid"
  | .olderInBrackets => "An IPv4 address cannot be in brackets"
  | .notNumeric host =>
    .ofList (Text.quoted host) ++ " does not appear to be an IPv4 or IPv6 address"
  | .disguised host =>
    "netloc '" ++ .ofList host ++ "' contains invalid characters under NFKC normalization"

def isLetter (c : Char) : Bool := Text.within [(65, 90), (97, 122)] c
def isDigit (c : Char) : Bool := Text.within [(48, 57)] c
def isHex (c : Char) : Bool := Text.within [(48, 57), (65, 70), (97, 102)] c

def splitOn (sep : Char) : List Char → List (List Char)
  | [] => [[]]
  | c :: r =>
    if c = sep then [] :: splitOn sep r
    else match splitOn sep r with
      | [] => [[c]]
      | p :: ps => (c :: p) :: ps

def isOctet (s : List Char) : Bool :=
  !s.isEmpty && s.all isDigit && s.length ≤ 3 && (s = ['0'] || s.head? ≠ some '0') &&
    s.foldl (fun n c => 10 * n + (c.toNat - 48)) 0 ≤ 255

/-- Four numbers up to 255 with dots between them. -/
def isOlder (s : List Char) : Bool :=
  let octets := splitOn '.' s
  octets.length = 4 && octets.all isOctet

def isGroup (s : List Char) : Bool := !s.isEmpty && s.all isHex && s.length ≤ 4

/-- The positions of the empty groups that are neither first nor last. -/
def gaps (groups : List (List Char)) : List Nat :=
  (List.range groups.length).filter fun i =>
    0 < i && i + 1 < groups.length && (groups.getD i []).isEmpty

/-- Eight groups with colons between them, a run of which may be left out. -/
def areGroups (groups : List (List Char)) : Bool :=
  match gaps groups with
  | [] => groups.length = 8 && groups.all isGroup
  | [gap] =>
    let front := groups.take gap
    let back := groups.drop (gap + 1)
    let front? := if front.head? = some [] then (if front.length = 1 then some [] else none)
      else some front
    let back? := if back.getLast? = some [] then (if back.length = 1 then some [] else none)
      else some back
    match front?, back? with
    | some front, some back =>
      front.length + back.length < 8 && front.all isGroup && back.all isGroup
    | _, _ => false
  | _ => false

/-- The older form may stand for the last two groups of the newer one. -/
def isNewer (s : List Char) : Bool :=
  let scope := s.dropWhile (· ≠ '%')
  let named := scope.isEmpty || (scope.length ≠ 1 && !(scope.drop 1).contains '%')
  let groups := splitOn ':' (s.takeWhile (· ≠ '%'))
  let last := groups.getLast?.getD []
  let groups? := if last.contains '.' then
      if isOlder last then some (groups.dropLast ++ [['0'], ['0']]) else none
    else some groups
  match groups? with
  | some gs => named && !s.contains '/' && 3 ≤ groups.length && gs.length ≤ 9 && areGroups gs
  | none => false

/-- The form reserved for later: a version in hexadecimal, a dot and more. -/
def isFuture (s : List Char) : Bool :=
  let rest := (s.drop 1).dropWhile isHex
  (s.drop 1).head?.any isHex && rest.head? = some '.' && 2 ≤ rest.length && !rest.contains '\n'

def checkBracketed (host : List Char) : Except AddressFault Unit :=
  if host.head? = some 'v' then if isFuture host then .ok () else .error .future
  else if isOlder host then .error .olderInBrackets
  else if isNewer host then .ok ()
  else .error (.notNumeric host)

/-- Characters whose plain form holds one that ends a host. -/
def disguises : List Nat :=
  [0x2047, 0x2048, 0x2049, 0x2100, 0x2101, 0x2105, 0x2106, 0x2a74, 0xfe13, 0xfe16, 0xfe55,
   0xfe56, 0xfe5f, 0xfe6b, 0xff03, 0xff0f, 0xff1a, 0xff1f, 0xff20]

structure Address where
  scheme : List Char
  host : List Char
  deriving Repr, DecidableEq

def isSchemeChar (c : Char) : Bool :=
  isLetter c || isDigit c || c = '+' || c = '-' || c = '.'

def dropSpaces (s : List Char) : List Char :=
  (s.dropWhile fun c => c.toNat ≤ 32).filter fun c => c ≠ '\t' && c ≠ '\r' && c ≠ '\n'

/-- The scheme and what follows its colon. -/
def splitScheme (s : List Char) : List Char × List Char :=
  let scheme := s.takeWhile (· ≠ ':')
  let rest := s.drop scheme.length
  if rest ≠ [] && scheme.head?.any isLetter && scheme.all isSchemeChar then (scheme, rest.drop 1)
  else ([], s)

def hostOf : List Char → List Char
  | '/' :: '/' :: r => r.takeWhile fun c => c ≠ '/' && c ≠ '?' && c ≠ '#'
  | _ => []

/-- What stands behind the last sign that ends the name of a user. -/
def afterUser (host : List Char) : List Char := (host.reverse.takeWhile (· ≠ '@')).reverse

/-- Checks a host that has brackets somewhere. Behind the name of a user, nothing
may stand in front of the brackets and only a port behind them; without brackets
there, all that comes before a port is checked in their place. -/
def checkNumeric (host : List Char) : Except AddressFault Unit :=
  let place := afterUser host
  if place.contains '[' then
    let inside := (place.dropWhile (· ≠ '[')).drop 1
    let after := (inside.dropWhile (· ≠ ']')).drop 1
    if place.head? ≠ some '[' then .error .brackets
    else if after.head?.any (· ≠ ':') then .error .brackets
    else checkBracketed (inside.takeWhile (· ≠ ']'))
  else checkBracketed (place.takeWhile (· ≠ ':'))

def checkHost (host : List Char) : Except AddressFault Unit := do
  if host.contains '[' != host.contains ']' then .error .brackets
  if host.contains '[' then checkNumeric host
  if host.any fun c => disguises.contains c.toNat then .error (.disguised host)

def Address.parse (s : List Char) : Except AddressFault Address := do
  let (scheme, rest) := splitScheme (dropSpaces s)
  let host := hostOf rest
  checkHost host
  return ⟨scheme, host⟩

/-- An address can be asked only if it names both a scheme and a host. -/
def Address.isComplete (a : Address) : Bool := !a.scheme.isEmpty && !a.host.isEmpty

end UmlPress.Source
