import Provision.Cloud.Signature
import Provision.Proofs.Number.Texts
import Provision.Proofs.Text.Plain

/-!
# What a signature says

The texts of a signature are made of parts of any length with line feeds and slashes between them, and a part may have
line feeds and slashes of its own. Even so they are cut into their parts in one way only: the digest at the end has
always the same length (`append_inj_of_length`), the number in front has no line feed (`line_inj`), and at most one part
of any length is left between the two. Main statement: the text that is signed tells the time, the service and the
digest of the canonical request, the canonical request tells the host and the digest of the payload, and the header of
given credentials tells the service of a request of a given day (`stringToSign_unambiguous`).
-/

namespace Provision

namespace Text

/-! ## Cutting texts -/

/-- Ends of the same length are cut off in one way. -/
theorem append_inj_of_length {a b x y : String} (hlen : x.length = y.length) (h : a ++ x = b ++ y) :
    a = b ∧ x = y := by
  have hchars : a.toList ++ x.toList = b.toList ++ y.toList := by
    rw [← String.toList_append, h, String.toList_append]
  have hboth := List.append_inj' hchars (by rwa [String.length_toList, String.length_toList])
  exact ⟨String.toList_inj.1 hboth.1, String.toList_inj.1 hboth.2⟩

/-- A first line is cut off in one way. -/
theorem line_inj {a b x y : String} (ha : Plain a) (hb : Plain b) (h : a ++ ("\n" ++ x) = b ++ ("\n" ++ y)) :
    a = b ∧ x = y := by
  have hfeed : ∀ {s : String}, Plain s → '\n' ∉ s.toList := fun hs hmem => Bool.noConfusion (hs _ hmem)
  have hchars : a.toList ++ '\n' :: x.toList = b.toList ++ '\n' :: y.toList := by
    simpa using congrArg String.toList h
  have hfirst : a.toList = b.toList := by
    have hsplit := congrArg (Segments.split '\n') hchars
    rw [Segments.split_append (hfeed ha), Segments.split_append (hfeed hb)] at hsplit
    exact (List.cons.inj hsplit).1
  rw [hfirst] at hchars
  exact ⟨String.toList_inj.1 hfirst, String.toList_inj.1 (List.cons.inj (List.append_cancel_left hchars)).2⟩

end Text

namespace Signature

open Text

variable {digest : String → String} {service service' host host' payload payload' secretId a b : String}
variable {timestamp timestamp' : Int}

/-! ## The texts of a signature -/

/-- A scope of a given date tells the service. -/
theorem scope_inj (hday : Time.dayOf timestamp = Time.dayOf timestamp')
    (h : scope service timestamp = scope service' timestamp') : service = service' := by
  have hdate : Time.dateText timestamp = Time.dateText timestamp' := by
    rw [Time.dateText, Time.dateText, hday]
  rw [scope, scope, hdate] at h
  exact (String.append_right_inj _).1 ((String.append_left_inj _).1 h)

/-- The canonical form of a request tells the host and the digest of the payload. -/
theorem canonicalRequest_inj (hdigest : ∀ text, (digest text).length = 64) :
    canonicalRequest digest host payload = canonicalRequest digest host' payload' ↔
      host = host' ∧ digest payload = digest payload' := by
  constructor
  · intro h
    unfold canonicalRequest at h
    obtain ⟨hhead, htail⟩ := append_inj_of_length ((hdigest payload).trans (hdigest payload').symm) h
    -- what is left after the host is the same in both
    have hheads := (String.append_left_inj _).1 ((String.append_left_inj _).1 ((String.append_left_inj _).1 hhead))
    exact ⟨(String.append_right_inj _).1 hheads, htail⟩
  · rintro ⟨rfl, hpayload⟩
    unfold canonicalRequest
    rw [hpayload]

/-- The text that is signed tells the time, the service and the digest of the canonical request. -/
theorem stringToSign_inj (hdigest : ∀ text, (digest text).length = 64) :
    stringToSign digest service host payload timestamp = stringToSign digest service' host' payload' timestamp' ↔
      timestamp = timestamp' ∧ service = service' ∧
        digest (canonicalRequest digest host payload) = digest (canonicalRequest digest host' payload') := by
  constructor
  · intro h
    unfold stringToSign at h
    obtain ⟨hhead, htail⟩ := append_inj_of_length ((hdigest _).trans (hdigest _).symm) h
    have hlines : Decimal.text timestamp ++ ("\n" ++ scope service timestamp) =
        Decimal.text timestamp' ++ ("\n" ++ scope service' timestamp') := by
      have hbefore := (String.append_left_inj _).1 hhead
      simp only [String.append_assoc] at hbefore
      exact (String.append_right_inj _).1 ((String.append_right_inj _).1 hbefore)
    obtain ⟨htext, hscope⟩ := line_inj (plain_decimal _) (plain_decimal _) hlines
    obtain rfl := Decimal.text_inj htext
    exact ⟨rfl, scope_inj rfl hscope, htail⟩
  · rintro ⟨rfl, rfl, hrequest⟩
    unfold stringToSign
    rw [hrequest]

/-- A header with a signature of a given length tells the service of a request of a given day. -/
theorem header_inj (hlen : a.length = b.length) (hday : Time.dayOf timestamp = Time.dayOf timestamp')
    (h : header secretId service timestamp a = header secretId service' timestamp' b) : service = service' := by
  unfold header at h
  obtain ⟨hhead, -⟩ := append_inj_of_length hlen h
  have hscopes := (String.append_left_inj _).1 ((String.append_left_inj _).1 ((String.append_left_inj _).1 hhead))
  exact scope_inj hday ((String.append_right_inj _).1 hscopes)

theorem length_hmac (key message : List UInt8) : (Digest.hex (Digest.hmac key message)).length = 64 := by
  rw [Digest.length_hex, Digest.hmac, Digest.length_sha256]

/-- **The text that is signed is unambiguous**, whatever its parts are, and with any digest of a fixed length. It tells
the time, the service and the digest of the canonical request; the canonical request tells the host and the digest of
the payload. The header of given credentials tells the service of a request of a given day. -/
theorem stringToSign_unambiguous (digest : String → String) (hdigest : ∀ text, (digest text).length = 64) :
    (∀ service service' host host' payload payload' timestamp timestamp',
      stringToSign digest service host payload timestamp = stringToSign digest service' host' payload' timestamp' ↔
        timestamp = timestamp' ∧ service = service' ∧
          digest (canonicalRequest digest host payload) = digest (canonicalRequest digest host' payload')) ∧
    (∀ host host' payload payload',
      canonicalRequest digest host payload = canonicalRequest digest host' payload' ↔
        host = host' ∧ digest payload = digest payload') ∧
    ∀ (c : Credentials) service service' host host' payload payload' timestamp timestamp',
      Time.dayOf timestamp = Time.dayOf timestamp' →
      c.authorization service host payload timestamp = c.authorization service' host' payload' timestamp' →
      service = service' :=
  ⟨fun _ _ _ _ _ _ _ _ => stringToSign_inj hdigest, fun _ _ _ _ => canonicalRequest_inj hdigest,
    fun _ _ _ _ _ _ _ _ _ hday h => header_inj ((length_hmac _ _).trans (length_hmac _ _).symm) hday h⟩

/-- With the digest of the program: a service that ends like a scope, a host that ends a line, and two services at the
two ends of one day. -/
theorem stringToSign_hexDigest :
    (∀ text, (Digest.hexDigest text).length = 64) ∧
    stringToSign Digest.hexDigest "cvm/tc3_request\n" "host" "{}" 86399 ≠
      stringToSign Digest.hexDigest "cvm" "host" "{}" 86399 ∧
    canonicalRequest Digest.hexDigest "host\n\ncontent-type;host" "{}" ≠
      canonicalRequest Digest.hexDigest "host" "{}" ∧
    (Time.dayOf 0 = Time.dayOf 86399 ∧ Credentials.authorization ⟨"id", "key", none⟩ "cvm" "host" "{}" 0 ≠
      Credentials.authorization ⟨"id", "key", none⟩ "cvm/" "host" "{}" 86399) := by
  obtain ⟨hsigned, hrequest, hheader⟩ := stringToSign_unambiguous Digest.hexDigest Digest.length_hexDigest
  refine ⟨Digest.length_hexDigest, ?_, ?_, by decide, ?_⟩
  · intro h
    exact absurd ((hsigned _ _ _ _ _ _ _ _).1 h).2.1 (by decide)
  · intro h
    exact absurd ((hrequest _ _ _ _).1 h).1 (by decide)
  · intro h
    exact absurd (hheader _ _ _ _ _ _ _ _ _ (by decide) h) (by decide)

end Signature

end Provision
