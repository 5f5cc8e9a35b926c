import Pushdown.Connection.Sha256
import Pushdown.Text.Shown

/-!
# Connection identities

An identity stands for the place and the credentials of a connection without showing them: it is
the hash of the labelled parts. Two connections with the same parts share their cached schema and
their pooled connection. Each part is written as its label, a zero byte, its value and a byte
that no UTF-8 text holds (`Identity.encode`).
-/

namespace Pushdown

/-- The hash of the parts of a connection, in base sixteen. -/
structure Identity where
  hash : String
  deriving DecidableEq, Repr, Inhabited

namespace Identity

/-- The bytes that are hashed for some labelled parts. -/
def encode (parts : List (String × String)) : List UInt8 :=
  parts.flatMap fun part =>
    part.1.toUTF8.toList ++ 0x00 :: part.2.toUTF8.toList ++ [0xFF]

/-- Bytes in base sixteen. -/
def hex (bytes : List UInt8) : String :=
  String.ofList (bytes.flatMap fun b =>
    [Text.baseSixteenDigit (b.toNat / 16), Text.baseSixteenDigit (b.toNat % 16)])

/-- The identity of some labelled parts. -/
def ofParts (parts : List (String × String)) : Identity :=
  ⟨hex (Sha256.hash (encode parts))⟩

/-- The start of the hash, which is enough for reports. -/
def brief (i : Identity) : String :=
  String.ofList (i.hash.toList.take 12)

/-- The identity as reports for operators show it. -/
def describe (i : Identity) : String :=
  "ConnectionIdentity(" ++ i.brief ++ ")"

end Identity

end Pushdown
