import Pushdown.Http.Host

/-!
# Addresses on the web

`Address.ofUrl?` reads where a URL points to: the host and the port to connect to, the credentials
to show there, and the target that is asked for. Only the two web schemes are read. The segments
of a path that stand for its own folder or the one above are carried out, and what may not stand
in a target as it is, such as blanks and everything beyond ASCII, is written as percent signs with
the bytes of its UTF-8 form in base sixteen. A URL that is too long then names no address.
-/

namespace Pushdown

namespace Http

/-- Where a request goes. -/
structure Address where
  /-- Whether the connection is encrypted. -/
  secure : Bool
  /-- A user and a password. -/
  credentials : Option (String × String)
  host : Host
  port : Nat
  /-- The path and what follows it, as it is asked for. -/
  target : String
  deriving DecidableEq, Repr, Inhabited

namespace Address

/-- A part of a URL behind its host. -/
inductive Part where
  | path
  /-- What stands behind a question mark. -/
  | query
  /-- What stands behind a number sign. -/
  | fragment
  deriving DecidableEq, Repr, Inhabited

/-- The characters of ASCII, besides blanks, that may not stand in a part as they are. -/
def Part.escaped : Part → List Char
  | .path => "\x22<>\x60\x7b\x7d".toList
  | .query => "\x22<>'".toList
  | .fragment => "\x22<>\x60".toList

/-! ## Targets -/

/-- Whether a character is written by its bytes in a part of a URL. -/
def isEncoded (part : Part) (c : Char) : Bool :=
  c.val ≤ 0x20 || 0x7F ≤ c.val || part.escaped.contains c

/-- A digit of base sixteen, in upper case. -/
def hexDigit (n : Nat) : Char := ("0123456789ABCDEF".toList[n]?).getD '0'

/-- A character as it stands in a part of a URL. -/
def encodeChar (part : Part) (c : Char) : List Char :=
  if isEncoded part c then
    (String.singleton c).toUTF8.toList.flatMap fun b =>
      ['%', hexDigit (b.toNat / 16), hexDigit (b.toNat % 16)]
  else [c]

/-- A segment with its points plain, also those that are written by their bytes. -/
def plainPoints : List Char → List Char
  | '%' :: '2' :: 'e' :: rest => '.' :: plainPoints rest
  | '%' :: '2' :: 'E' :: rest => '.' :: plainPoints rest
  | c :: rest => c :: plainPoints rest
  | [] => []

/-- The segments of a path after some others (`above`, the last one first). A segment that stands
for its own folder or the one above leaves an empty one when it is the last. -/
def foldSegments (above : List (List Char)) : List (List Char) → List (List Char)
  | [] => above.reverse
  | segment :: rest =>
    let folder :=
      if plainPoints segment = ['.', '.'] then some (above.drop 1)
      else if plainPoints segment = ['.'] then some above
      else none
    match folder with
    | some folder => foldSegments (if rest.isEmpty then [] :: folder else folder) rest
    | none => foldSegments (segment :: above) rest

/-- A path that starts with a slash, or an empty one. Both slashes are the same here. -/
def pathOf (cs : List Char) : List Char :=
  let segments := Text.splitChars '/' ((cs.map fun c => if c = '\\' then '/' else c).drop 1)
  (foldSegments [] segments).flatMap fun segment => '/' :: segment.flatMap (encodeChar .path)

/-- What is asked for: a path, and behind a question mark a query. What follows a number sign
stays with the caller. -/
def targetOf (cs : List Char) : String :=
  let cs := cs.takeWhile (· ≠ '#')
  String.ofList
    (pathOf (cs.takeWhile (· ≠ '?')) ++ (cs.dropWhile (· ≠ '?')).flatMap (encodeChar .query))

/-- What stays with the caller, with its number sign. -/
def fragmentOf (cs : List Char) : String :=
  String.ofList ((cs.dropWhile (· ≠ '#')).flatMap (encodeChar .fragment))

/-! ## Hosts and ports -/

/-- Whether a character ends the host and the port. -/
def endsAuthority (c : Char) : Bool := c = '/' || c = '\\' || c = '?' || c = '#'

/-- The host at the front and what follows it from the first colon on that is not in brackets. -/
def splitHost (inBrackets : Bool) : List Char → List Char × List Char
  | [] => ([], [])
  | c :: rest =>
    if c = ':' && !inBrackets then ([], c :: rest)
    else
      let (host, after) := splitHost (c = '[' || inBrackets && c ≠ ']') rest
      (c :: host, after)

/-- The port behind a host. -/
def port? (usual : Nat) : List Char → Option Nat
  | [] => some usual
  | [':'] => some usual
  | _ :: digits =>
    (Text.natOfDigits? digits).bind fun port => if port < 65536 then some port else none

/-- The text that is written with some characters in the credentials of a URL. -/
def credential? (cs : List Char) : Option String :=
  (Host.charsOfBytes? (Host.bytesOf cs)).map String.ofList

/-- The user and the password in the credentials of a URL. -/
def credentialsOf? (cs : List Char) : Option (String × String) := do
  let password := cs.dropWhile (· ≠ ':')
  let user ← credential? (cs.takeWhile (· ≠ ':'))
  if user = "" ∧ password.length ≤ 1 then none
  return (user, (credential? (password.drop 1)).getD "")

/-- What stands before and after the last character of a kind. -/
def splitLast? (c : Char) (cs : List Char) : Option (List Char × List Char) :=
  let after := (cs.reverse.takeWhile (· ≠ c)).reverse
  if after.length = cs.length then none
  else some (cs.take (cs.length - after.length - 1), after)

/-! ## Addresses -/

/-- What follows a scheme and its colon. -/
def afterScheme? (scheme : String) (cs : List Char) : Option (List Char) :=
  let front := String.ofList ((cs.take (scheme.length + 1)).map Char.toLower)
  if front = scheme ++ ":" then some (cs.drop (scheme.length + 1)) else none

/-- The port of a scheme. -/
def usualPort (secure : Bool) : Nat := if secure then 443 else 80

/-- The host and the port as they are written, the port of the scheme being left out. -/
def authority (a : Address) : String :=
  if a.port = usualPort a.secure then a.host.written
  else a.host.written ++ ":" ++ toString a.port

/-- The URL of an address. -/
def url (a : Address) : String :=
  (if a.secure then "https://" else "http://") ++ a.authority ++ a.target

/-- The most characters a URL may have once it is written out. -/
def maxLength : Nat := 65534

/-- The address of what follows a scheme. -/
def ofRest? (secure : Bool) (cs : List Char) : Option Address := do
  let cs := cs.dropWhile fun c => c = '/' || c = '\\'
  let authority := cs.takeWhile (!endsAuthority ·)
  let (credentials, place) := match splitLast? '@' authority with
    | some (credentials, place) => (credentialsOf? credentials, place)
    | none => (none, authority)
  let (host, after) := splitHost false place
  let host ← Host.ofText? host
  let port ← port? (usualPort secure) after
  let rest := cs.dropWhile (!endsAuthority ·)
  let address : Address := { secure, credentials, host, port, target := targetOf rest }
  if maxLength < address.url.length + (fragmentOf rest).length then none
  return address

/-- Whether a character at the edge of a URL does not count. -/
def isEdge (c : Char) : Bool := c.val ≤ 0x20

/-- The address a URL names. -/
def ofUrl? (url : String) : Option Address :=
  let cs := (url.toList.dropWhile isEdge).reverse.dropWhile isEdge |>.reverse
  let cs := cs.filter fun c => c ≠ '\t' ∧ c ≠ '\n' ∧ c ≠ '\r'
  match afterScheme? "http" cs with
  | some rest => ofRest? false rest
  | none => (afterScheme? "https" cs).bind (ofRest? true)

end Address

end Http

end Pushdown
