import Pushdown.Http.Address
import Pushdown.Json.Printer

/-!
# Requests over the web

A `Request` as a client makes it and what comes of it, its `Exchange`; a `Transport` carries
requests out. `Request.encode` is a request as it is sent, and `Response.ofBytes?` reads what
comes back on a connection that is closed after one answer, in one piece or in chunks.
-/

namespace Pushdown

namespace Http

/-- What is done with the target of a request. -/
inductive Method where
  | get
  | post
  | delete
  deriving DecidableEq, Repr, Inhabited

/-- The name of a method. -/
def Method.name : Method → String
  | .get => "GET"
  | .post => "POST"
  | .delete => "DELETE"

/-- A request, with a JSON body or without one. -/
structure Request where
  method : Method
  address : Address
  authorization : Option String
  body : Option Json
  deriving DecidableEq, Repr, Inhabited

/-- An answer: its status and the bytes of its body. -/
structure Response where
  status : Nat
  body : List UInt8
  deriving DecidableEq, Repr, Inhabited

/-- What comes of a request. -/
inductive Exchange where
  | answered (response : Response)
  | tooSlow
  /-- Nobody listens at the address. -/
  | unreachable
  /-- The connection ended before there was an answer. -/
  | broken
  deriving DecidableEq, Repr, Inhabited

/-- Whether a status says that a request was carried out. -/
def Response.isSuccess (r : Response) : Bool := 200 ≤ r.status ∧ r.status ≤ 299

/-- Carries requests out, each within a time budget in milliseconds. -/
abbrev Transport (m : Type → Type) := Request → (budget : Nat) → m Exchange

/-! ## Credentials -/

/-- The sixty-four digits of the encoding of credentials. -/
def digits64 : List Char :=
  "ABCDEFGHIJKLMNOPQRSTUVWXYZabcdefghijklmnopqrstuvwxyz0123456789+/".toList

/-- So many digits of base sixty-four, the most significant first. -/
def group64 (n : Nat) (count : Nat) : List Char :=
  [n / 262144 % 64, n / 4096 % 64, n / 64 % 64, n % 64].take count
    |>.map fun d => digits64.getD d '='

/-- Bytes in base sixty-four, three at a time, the last group filled up with equals signs. -/
def base64 : List UInt8 → List Char
  | a :: b :: c :: rest =>
    group64 (a.toNat * 65536 + b.toNat * 256 + c.toNat) 4 ++ base64 rest
  | [a, b] => group64 (a.toNat * 65536 + b.toNat * 256) 3 ++ ['=']
  | [a] => group64 (a.toNat * 65536) 2 ++ ['=', '=']
  | [] => []

/-- The authorization of a user by a password. -/
def basicAuthorization (username password : String) : String :=
  "Basic " ++ String.ofList (base64 (username ++ ":" ++ password).toUTF8.toList)

/-! ## The written form -/

/-- The end of a line. -/
def lineEnd : String := "\x0d\n"

/-- A request as it is sent. -/
def Request.encode (r : Request) : List UInt8 :=
  let body := (r.body.map Json.compact).getD ""
  let lines :=
    [r.method.name ++ " " ++ r.address.target ++ " HTTP/1.1", "host: " ++ r.address.authority,
      "accept: */*", "connection: close"]
    ++ (r.authorization.map ("authorization: " ++ ·)).toList
    ++ (if r.body.isSome then
        ["content-type: application/json", "content-length: " ++ toString body.utf8ByteSize]
      else [])
    ++ ["", ""]
  (lineEnd.intercalate lines ++ body).toUTF8.toList

/-! ## Reading an answer -/

/-- The line some bytes start with, without its end, and what follows it. -/
def takeLine? : List UInt8 → Option (List UInt8 × List UInt8)
  | [] => none
  | 0x0D :: 0x0A :: rest => some ([], rest)
  | b :: rest => (takeLine? rest).map fun (line, rest) => (b :: line, rest)

/-- Bytes as characters of one byte each. -/
def charsOf (bytes : List UInt8) : List Char := bytes.map fun b => Char.ofNat b.toNat

/-- The lines up to the first empty one, of which there are at most so many, and what follows. -/
def takeHead? : Nat → List UInt8 → Option (List (List Char) × List UInt8)
  | 0, _ => none
  | n + 1, bytes => do
    let (line, rest) ← takeLine? bytes
    if line = [] then return ([], rest)
    let (lines, rest) ← takeHead? n rest
    return (charsOf line :: lines, rest)

/-- The value of a header, its name being in lower case. -/
def header? (name : String) (lines : List (List Char)) : Option String :=
  lines.findSome? fun line =>
    if (String.ofList (line.takeWhile (· ≠ ':'))).toLower = name then
      some ((String.ofList ((line.dropWhile (· ≠ ':')).drop 1)).trimAscii.toString.toLower)
    else none

/-- The value of digits of base sixteen, up to the first character that is none. -/
def natOfHex (cs : List Char) : Nat :=
  (cs.takeWhile fun c => c.isDigit || ('a' ≤ c.toLower && c.toLower ≤ 'f')).foldl
    (fun n c =>
      16 * n + (if c.isDigit then c.toNat - '0'.toNat else c.toLower.toNat - 'a'.toNat + 10)) 0

/-- A body in at most so many chunks, each after a line with its size, up to an empty one. -/
def joinChunks? : Nat → List UInt8 → Option (List UInt8)
  | 0, _ => none
  | n + 1, bytes => do
    let (line, rest) ← takeLine? bytes
    let size := natOfHex (charsOf line)
    if size = 0 then return []
    if rest.length < size then none
    let later ← joinChunks? n (rest.drop (size + 2))
    return rest.take size ++ later

/-- The status in the first line of an answer. -/
def statusOf? (line : List Char) : Option Nat :=
  let rest := line.dropWhile (· ≠ ' ')
  Text.natOfDigits? ((rest.drop 1).take 3)

/-- Reads all that came back on a connection. -/
def Response.ofBytes? (bytes : List UInt8) : Option Response := do
  let (lines, rest) ← takeHead? bytes.length bytes
  let status ← lines.head?.bind statusOf?
  if header? "transfer-encoding" lines = some "chunked" then
    return ⟨status, ← joinChunks? rest.length rest⟩
  match (header? "content-length" lines).bind (Text.natOfDigits? ·.toList) with
  | some size => if rest.length < size then none else return ⟨status, rest.take size⟩
  | none => return ⟨status, rest⟩

end Http

end Pushdown
