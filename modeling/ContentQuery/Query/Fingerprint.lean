/-
# Fingerprints of queries

A query's fingerprint is the digest of its text, after a mark that keeps these digests apart from
those of other things. Queries of one text have one fingerprint.
-/

import ContentQuery.Digest.Sha256
import ContentQuery.Query.Text

namespace ContentQuery

/-- A fingerprint, the octets of a digest. -/
structure Fingerprint where
  octets : List UInt8
deriving DecidableEq

namespace Fingerprint

/-- The octets that the fingerprint of a text is the digest of. -/
def preimage (text : String) : List UInt8 :=
  "queryfp:v1".toUTF8.toList ++ text.toUTF8.toList

/-- The fingerprint of a text. -/
def ofText (text : String) : Fingerprint := ⟨Sha256.digest (preimage text)⟩

/-- The fingerprint in hexadecimal digits, two to the octet. -/
def toHex (fingerprint : Fingerprint) : String :=
  String.ofList (fingerprint.octets.flatMap fun octet =>
    [Nat.digitChar (octet.toNat / 16), Nat.digitChar (octet.toNat % 16)])

end Fingerprint

/-- The fingerprint of a query. -/
def Query.fingerprint (query : Query) : Fingerprint := Fingerprint.ofText query.toText

end ContentQuery
