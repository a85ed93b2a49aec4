import CrowdTask.Calendar.Stamp
import CrowdTask.Credentials
import CrowdTask.Digest.Sha256

/-!
# Signed requests

Every request carries the time at which it was signed and a signature by the secret of the
requester. What is signed is the digest of a canonical text of the request, in which the headers
stand in the order of their names and the body is represented by its digest. The signing key is
derived from the secret for one day, one region and one service.

## Main definitions

* `CrowdTask.Signer`: who signs, and for which service.
* `CrowdTask.Signer.canonicalRequest`, `CrowdTask.Signer.stringToSign`: the signed texts.
* `CrowdTask.Signer.sign`: the headers of a signed request.
-/

namespace CrowdTask

/-- Who signs requests, and for which service. -/
structure Signer where
  credentials : Credentials
  region : String
  service : String

/-- What a signed request carries. -/
structure SignatureHeaders where
  date : String
  authorization : String
  deriving DecidableEq, Repr

namespace Signer

/-- The method of signing. -/
def method : String := "AWS4-HMAC-SHA256"

/-- The type of the bodies of requests. -/
def contentType : String := "application/x-amz-json-1.1"

/-- The names of the signed headers. -/
def headerNames : String := "content-type;host;x-amz-date;x-amz-target"

/-- The word that ends the scope of a signature. -/
def scopeEnd : String := "aws4_request"

/-- The canonical text of a request. -/
def canonicalRequest (host target date : String) (body : List UInt8) : String :=
  "POST\n/\n\ncontent-type:" ++ contentType ++ "\nhost:" ++ host ++ "\nx-amz-date:" ++ date ++
    "\nx-amz-target:" ++ target ++ "\n\n" ++ headerNames ++ "\n" ++
    Digest.hex (Digest.sha256 body)

/-- What a signature made on the given day is valid for. -/
def scope (s : Signer) (day : String) : String :=
  day ++ "/" ++ s.region ++ "/" ++ s.service ++ "/" ++ scopeEnd

/-- The text whose keyed digest is the signature. -/
def stringToSign (s : Signer) (host target : String) (body : List UInt8) (now : Instant) :
    String :=
  method ++ "\n" ++ now.compactStamp ++ "\n" ++ s.scope now.dayStamp ++ "\n" ++
    Digest.hex
      (Digest.sha256 (Digest.utf8 (canonicalRequest host target now.compactStamp body)))

/-- The key for the given day. -/
def signingKey (s : Signer) (day : String) : List UInt8 :=
  let dayKey :=
    Digest.hmac (Digest.utf8 ("AWS4" ++ s.credentials.secretAccessKey)) (Digest.utf8 day)
  let regionKey := Digest.hmac dayKey (Digest.utf8 s.region)
  let serviceKey := Digest.hmac regionKey (Digest.utf8 s.service)
  Digest.hmac serviceKey (Digest.utf8 scopeEnd)

/-- The signature of a request. -/
def signature (s : Signer) (host target : String) (body : List UInt8) (now : Instant) : String :=
  Digest.hex
    (Digest.hmac (s.signingKey now.dayStamp) (Digest.utf8 (s.stringToSign host target body now)))

/-- The headers of a request that is signed now. -/
def sign (s : Signer) (host target : String) (body : List UInt8) (now : Instant) :
    SignatureHeaders where
  date := now.compactStamp
  authorization :=
    method ++ " Credential=" ++ s.credentials.accessKeyId ++ "/" ++ s.scope now.dayStamp ++
      ", SignedHeaders=" ++ headerNames ++ ", Signature=" ++ s.signature host target body now

end Signer

end CrowdTask
