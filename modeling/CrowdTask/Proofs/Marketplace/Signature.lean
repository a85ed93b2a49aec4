import CrowdTask.Marketplace.Signature
import CrowdTask.Proofs.Digest
import CrowdTask.Proofs.Json.Digits
import CrowdTask.Proofs.Text.Words

/-!
# What a signature binds

The signed text of a request holds its time stamp and the digest of its canonical text, and that
holds the host, the target and the digest of the body. Each part ends where its line ends, so the
signed text tells the request up to messages that collide. The date of the time stamp is the one
for which the signature is valid and for which the signing key was derived.

## Main definitions

* `CrowdTask.Signer.Subject`: what is signed.
* `CrowdTask.Signer.IsDated`: where the date of a signed request stands.
* `CrowdTask.Signer.Tells`: what is told by a signed text.

## Main results

* `CrowdTask.Instant.day_compactStamp`: the date of a time stamp.
* `CrowdTask.Signer.canonicalRequest_inj`, `CrowdTask.Signer.stringToSign_inj`: the parts of the
  signed texts can be told.
* `CrowdTask.Signer.whole_request_bound`: signatures bind the whole request.
-/

namespace CrowdTask

/-! ### Time stamps -/

namespace Instant

/-- A date is written with digits and perhaps a sign. -/
theorem isDigit_or_sign_of_mem_dayChars {t : Instant} {c : Char} (hc : c ∈ t.dayChars) :
    c.isDigit = true ∨ c = '-' ∨ c = '+' := by
  have hyear : ∀ year, ∀ c ∈ yearChars year, c.isDigit = true ∨ c = '-' ∨ c = '+' := by
    intro year c hc
    rw [yearChars] at hc
    split at hc
    · exact .inl (Text.isDigit_of_mem_padded hc)
    · rcases List.mem_cons.mp hc with rfl | hc
      · split
        · exact .inr (.inl rfl)
        · exact .inr (.inr rfl)
      · exact .inl (Text.isDigit_of_mem_padded hc)
  rcases List.mem_append.mp hc with hc | hday
  · rcases List.mem_append.mp hc with hc | hmonth
    · exact hyear _ c hc
    · exact .inl (Text.isDigit_of_mem_padded hmonth)
  · exact .inl (Text.isDigit_of_mem_padded hday)

theorem letter_notMem_dayChars (t : Instant) : 'T' ∉ t.dayChars := fun h =>
  absurd (isDigit_or_sign_of_mem_dayChars h) (by decide)

theorem newline_notMem_dayChars (t : Instant) : '\n' ∉ t.dayChars := fun h =>
  absurd (isDigit_or_sign_of_mem_dayChars h) (by decide)

theorem newline_notMem_compactStamp (t : Instant) : '\n' ∉ t.compactStamp.toList := by
  have hpadded : ∀ width n, '\n' ∉ Text.padded width n := fun width n h =>
    absurd (Text.isDigit_of_mem_padded h) (by decide)
  simp [compactStamp, newline_notMem_dayChars, hpadded]

/-- The date of a time stamp is what stands before the letter T. -/
theorem day_compactStamp (t : Instant) :
    t.compactStamp.toList.takeWhile (· ≠ 'T') = t.dayStamp.toList := by
  rw [compactStamp, dayStamp, String.toList_ofList, String.toList_ofList]
  simp only [List.append_assoc, List.cons_append, List.nil_append]
  exact Text.takeWhile_ne_append_cons (letter_notMem_dayChars t) _

end Instant

namespace Signer

open Digest

/-! ### Lines -/

/-- Where two texts are the same, so are their first lines, and what follows these. -/
theorem firstLine_inj {a b x y : String} (h : a ++ ("\n" ++ x) = b ++ ("\n" ++ y))
    (ha : '\n' ∉ a.toList) (hb : '\n' ∉ b.toList) : a = b ∧ x = y := by
  have hlist : a.toList ++ '\n' :: x.toList = b.toList ++ '\n' :: y.toList := by
    simpa using congrArg String.toList h
  have hline : a.toList = b.toList := by
    rw [← Text.takeWhile_ne_append_cons ha x.toList, hlist,
      Text.takeWhile_ne_append_cons hb y.toList]
  obtain rfl := String.toList_inj.mp hline
  exact ⟨rfl, (String.append_right_inj _).mp ((String.append_right_inj _).mp h)⟩

/-- What is signed: the host, the target and the body of a request, and the time. -/
structure Subject where
  host : String
  target : String
  body : List UInt8
  now : Instant

/-- Whether neither the host nor the target goes over the end of a line. -/
structure Subject.IsPlain (r : Subject) : Prop where
  host : '\n' ∉ r.host.toList
  target : '\n' ∉ r.target.toList

/-- The canonical text of what is signed. -/
def Subject.canonical (r : Subject) : String :=
  canonicalRequest r.host r.target r.now.compactStamp r.body

/-- The signed text of what is signed. -/
def Subject.toSign (s : Signer) (r : Subject) : String :=
  s.stringToSign r.host r.target r.body r.now

/-- The headers of what is signed. -/
def Subject.headers (s : Signer) (r : Subject) : SignatureHeaders :=
  s.sign r.host r.target r.body r.now

/-- The canonical text tells the host, the target, the time stamp and the digest of the body. -/
theorem canonicalRequest_inj {r r' : Subject} (hr : r.IsPlain) (hr' : r'.IsPlain)
    (h : r.canonical = r'.canonical) :
    r.host = r'.host ∧ r.target = r'.target ∧ r.now.compactStamp = r'.now.compactStamp ∧
      hex (sha256 r.body) = hex (sha256 r'.body) := by
  have hlines : ∀ q : Subject, q.canonical =
      "POST\n/\n\ncontent-type:" ++ contentType ++ "\nhost:" ++
        (q.host ++ ("\n" ++ ("x-amz-date:" ++ (q.now.compactStamp ++ ("\n" ++ ("x-amz-target:" ++
          (q.target ++ ("\n" ++ ("\n" ++ headerNames ++ "\n" ++ hex (sha256 q.body)))))))))) := by
    intro q
    have hdate : "\nx-amz-date:" = "\n" ++ "x-amz-date:" := rfl
    have htarget : "\nx-amz-target:" = "\n" ++ "x-amz-target:" := rfl
    have hnames : "\n\n" = "\n" ++ "\n" := rfl
    unfold Subject.canonical canonicalRequest
    rw [hdate, htarget, hnames]
    simp only [String.append_assoc, -String.reduceAppend]
  rw [hlines, hlines, String.append_right_inj] at h
  obtain ⟨hhost, h⟩ := firstLine_inj h hr.host hr'.host
  rw [String.append_right_inj] at h
  obtain ⟨hstamp, h⟩ := firstLine_inj h r.now.newline_notMem_compactStamp
    r'.now.newline_notMem_compactStamp
  rw [String.append_right_inj] at h
  obtain ⟨htarget, h⟩ := firstLine_inj h hr.target hr'.target
  rw [String.append_right_inj] at h
  exact ⟨hhost, htarget, hstamp, h⟩

/-- The signed text tells the time stamp and the digest of the canonical text. -/
theorem stringToSign_inj (s : Signer) {r r' : Subject} (h : r.toSign s = r'.toSign s) :
    r.now.compactStamp = r'.now.compactStamp ∧
      hex (sha256 (utf8 r.canonical)) = hex (sha256 (utf8 r'.canonical)) := by
  have hlines : ∀ q : Subject, q.toSign s = method ++ "\n" ++ (q.now.compactStamp ++ ("\n" ++
      (s.scope q.now.dayStamp ++ "\n" ++ hex (sha256 (utf8 q.canonical))))) := by
    intro q
    unfold Subject.toSign stringToSign Subject.canonical
    simp only [String.append_assoc, -String.reduceAppend]
  rw [hlines, hlines, String.append_right_inj] at h
  obtain ⟨hstamp, h⟩ := firstLine_inj h r.now.newline_notMem_compactStamp
    r'.now.newline_notMem_compactStamp
  have hday : r.now.dayStamp = r'.now.dayStamp := by
    rw [← String.toList_inj, ← Instant.day_compactStamp, ← Instant.day_compactStamp, hstamp]
  rw [hday, String.append_right_inj] at h
  exact ⟨hstamp, h⟩

/-! ### Requests -/

/-- The date of a signed request: what stands before the letter T in its time stamp. -/
def dateOf (headers : SignatureHeaders) : String :=
  String.ofList (headers.date.toList.takeWhile (· ≠ 'T'))

/-- Whether the date of a signed request is the date in the scope of the signature, both in the
header and in the signed text, and the one that the signing key is derived from. -/
structure IsDated (s : Signer) (r : Subject) : Prop where
  /-- The key is derived from the secret by keyed digests of the date, the region, the service and
  the end of the scope, each of which is the key of the next one. -/
  authorization :
    let date := dateOf (r.headers s)
    let dayKey := hmac (utf8 ("AWS4" ++ s.credentials.secretAccessKey)) (utf8 date)
    let regionKey := hmac dayKey (utf8 s.region)
    let serviceKey := hmac regionKey (utf8 s.service)
    let key := hmac serviceKey (utf8 "aws4_request")
    (r.headers s).authorization =
      "AWS4-HMAC-SHA256 Credential=" ++ s.credentials.accessKeyId ++ "/" ++
        (date ++ "/" ++ s.region ++ "/" ++ s.service ++ "/aws4_request") ++
        ", SignedHeaders=content-type;host;x-amz-date;x-amz-target, Signature=" ++
        hex (hmac key (utf8 (r.toSign s)))
  toSign : r.toSign s =
    "AWS4-HMAC-SHA256\n" ++ (r.headers s).date ++ "\n" ++
      (dateOf (r.headers s) ++ "/" ++ s.region ++ "/" ++ s.service ++ "/aws4_request") ++ "\n" ++
      hex (sha256 (utf8 r.canonical))

/-- What is told by the signed text of a request, if it is that of another request too. -/
inductive Tells (s : Signer) (r r' : Subject) : Prop where
  | request (host : r.host = r'.host) (target : r.target = r'.target) (body : r.body = r'.body)
    (date : (r.headers s).date = (r'.headers s).date)
  | bodies (h : Collide r.body r'.body)
  | canonicals (h : Collide (utf8 r.canonical) (utf8 r'.canonical))

/-- The date of a signed request stands where it should. -/
theorem isDated (s : Signer) (r : Subject) : s.IsDated r := by
  have hdate : dateOf (r.headers s) = r.now.dayStamp := by
    have hday : (r.headers s).date.toList.takeWhile (· ≠ 'T') = r.now.dayStamp.toList :=
      r.now.day_compactStamp
    rw [dateOf, hday, String.ofList_toList]
  have hscope : dateOf (r.headers s) ++ "/" ++ s.region ++ "/" ++ s.service ++ "/aws4_request" =
      s.scope r.now.dayStamp := by
    have hend : "/aws4_request" = "/" ++ scopeEnd := rfl
    rw [hdate, scope, hend, String.append_assoc]
    simp only [String.append_assoc, -String.reduceAppend]
  refine ⟨?_, ?_⟩
  · have hmethod : "AWS4-HMAC-SHA256 Credential=" = method ++ " Credential=" := rfl
    have hnames : ", SignedHeaders=content-type;host;x-amz-date;x-amz-target, Signature=" =
        ", SignedHeaders=" ++ headerNames ++ ", Signature=" := rfl
    have hkey : hmac (hmac (hmac (hmac (utf8 ("AWS4" ++ s.credentials.secretAccessKey))
        (utf8 r.now.dayStamp)) (utf8 s.region)) (utf8 s.service)) (utf8 "aws4_request") =
          s.signingKey r.now.dayStamp := rfl
    dsimp only
    rw [hscope, hdate, hkey, hmethod, hnames, Subject.headers, sign, signature, Subject.toSign]
    simp only [String.append_assoc, -String.reduceAppend]
  · have hmethod : "AWS4-HMAC-SHA256\n" = method ++ "\n" := rfl
    rw [hscope, hmethod, Subject.toSign, stringToSign]
    rfl

example : hex (signingKey ⟨⟨"", "wJalrXUtnFEMI/K7MDENG+bPxRfiCYEXAMPLEKEY"⟩, "us-east-1", "iam"⟩
    "20120215") = "f4780e2d9f65fa895f9c67b32ce1baf0b0d8a43505a000a1a9e090d414db404d" := by
  decide +kernel

/-- **Signatures bind the whole request.** If two requests without line ends in their hosts and
targets have the same signed text, they are the same request at the same time stamp, or their
bodies or their canonical texts collide. The date of every request is the one of its scope and of
its signing key. -/
theorem whole_request_bound (s : Signer) :
    (∀ r, s.IsDated r) ∧
      ∀ r r' : Subject, r.IsPlain → r'.IsPlain → r.toSign s = r'.toSign s → s.Tells r r' := by
  refine ⟨s.isDated, fun r r' hr hr' h => ?_⟩
  obtain ⟨hstamp, hdigest⟩ := s.stringToSign_inj h
  rcases eq_or_collide_of_hex hdigest with hcanonical | hcollide
  · obtain ⟨hhost, htarget, -, hbody⟩ := canonicalRequest_inj hr hr' (utf8_inj.mp hcanonical)
    rcases eq_or_collide_of_hex hbody with hbody | hcollide
    · exact .request hhost htarget hbody hstamp
    · exact .bodies hcollide
  · exact .canonicals hcollide

/-- A request for the balance of the account, at the given instant. -/
def balanceRequest (now : Instant) : Subject where
  host := "mturk-requester.us-east-1.amazonaws.com"
  target := "MTurkRequesterServiceV20170117.GetAccountBalance"
  body := utf8 "\x7b\x7d"
  now := now

theorem balanceRequest_isPlain (now : Instant) : (balanceRequest now).IsPlain :=
  ⟨by dsimp only [balanceRequest]; decide, by dsimp only [balanceRequest]; decide⟩

/-- Who signs that request. -/
def requester : Signer := ⟨⟨"id", "secret"⟩, "us-east-1", "mturk-requester"⟩

/-- A request that is made again within a second has the same signed text, and the same date. -/
theorem repeated_request_bound :
    (balanceRequest ⟨0⟩).toSign requester = (balanceRequest ⟨1⟩).toSign requester ∧
      requester.Tells (balanceRequest ⟨0⟩) (balanceRequest ⟨1⟩) ∧
      requester.IsDated (balanceRequest ⟨0⟩) ∧
      dateOf ((balanceRequest ⟨0⟩).headers requester) = "19700101" := by
  have hstamp : (⟨0⟩ : Instant).compactStamp = (⟨1⟩ : Instant).compactStamp := by decide +kernel
  have hday : (⟨0⟩ : Instant).dayStamp = (⟨1⟩ : Instant).dayStamp := by decide +kernel
  have hsame : (balanceRequest ⟨0⟩).toSign requester = (balanceRequest ⟨1⟩).toSign requester := by
    unfold balanceRequest Subject.toSign stringToSign
    rw [hstamp, hday]
  obtain ⟨hdated, hbound⟩ := whole_request_bound requester
  exact ⟨hsame, hbound _ _ (balanceRequest_isPlain _) (balanceRequest_isPlain _) hsame, hdated _,
    by decide +kernel⟩

end Signer

end CrowdTask
