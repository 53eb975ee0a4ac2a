import Provision.Cloud.Client

/-!
# Requests that can be written

A request is sent if its URL is one of the web and its headers are texts without line breaks. The signature never
stands in the way: it is made of a date, of digits and of fixed words (`isHeaderValue_authorization`). So neither the
body of a request nor its time decides whether it can be written (`posting_cases`), and a client of which the rest can
be written sends every request (`Writable.posting`).
-/

namespace Provision

namespace Client

/-! ## Header values -/

/-- A character that can stand in the value of a header. -/
def isHeaderChar (c : Char) : Bool := (0x20 ≤ c.toNat && c.toNat != 0x7F) || c == '\t'

theorem isHeaderValue_iff {s : String} : isHeaderValue s = true ↔ ∀ c ∈ s.toList, isHeaderChar c = true :=
  List.all_eq_true

theorem isHeaderValue_append {s t : String} :
    isHeaderValue (s ++ t) = true ↔ isHeaderValue s = true ∧ isHeaderValue t = true := by
  simp only [isHeaderValue_iff, String.toList_append, List.mem_append]
  exact ⟨fun h => ⟨fun c hc => h c (.inl hc), fun c hc => h c (.inr hc)⟩, fun h c hc => hc.elim (h.1 c) (h.2 c)⟩

theorem isHeaderChar_of_isDigit {c : Char} (h : c.isDigit = true) : isHeaderChar c = true := by
  simp only [Char.isDigit, Bool.and_eq_true, decide_eq_true_eq, ge_iff_le] at h
  have h1 : 48 ≤ c.toNat := UInt32.le_iff_toNat_le.1 h.1
  have h2 : c.toNat ≤ 57 := UInt32.le_iff_toNat_le.1 h.2
  simp only [isHeaderChar, Bool.or_eq_true, Bool.and_eq_true, decide_eq_true_eq, bne_iff_ne]
  exact .inl ⟨by omega, by omega⟩

theorem isHeaderChar_hexDigit : ∀ {n : Nat}, n < 16 → isHeaderChar (Digest.hexDigit n) = true := by decide

theorem isHeaderValue_hex (bytes : List UInt8) : isHeaderValue (Digest.hex bytes) = true := by
  rw [isHeaderValue_iff]
  intro c hc
  simp only [Digest.hex, String.toList_ofList, List.mem_flatMap, List.mem_cons, List.not_mem_nil, or_false] at hc
  obtain ⟨b, -, rfl | rfl⟩ := hc
  · exact isHeaderChar_hexDigit (by have := b.toNat_lt; omega)
  · exact isHeaderChar_hexDigit (Nat.mod_lt _ (by omega))

theorem isHeaderChar_of_mem_padded {width n : Nat} {c : Char} (h : c ∈ Time.padded width n) :
    isHeaderChar c = true := by
  rcases List.mem_append.1 h with h | h
  · rw [List.eq_of_mem_replicate h]
    decide
  · exact isHeaderChar_of_isDigit (Nat.isDigit_of_mem_toDigits (by omega) (by omega) h)

theorem isHeaderValue_dateText (timestamp : Int) : isHeaderValue (Time.dateText timestamp) = true := by
  rw [isHeaderValue_iff]
  intro c hc
  have dash : isHeaderChar '-' = true := by decide
  simp only [Time.dateText, Time.Date.text, Time.yearText, String.toList_ofList, List.mem_append, List.mem_cons] at hc
  rcases hc with ((h | h) | rfl | h) | rfl | h
  · split at h
    · rw [List.mem_singleton.1 h]
      exact dash
    · split at h
      · rw [List.mem_singleton.1 h]
        decide
      · simp at h
  · exact isHeaderChar_of_mem_padded h
  · exact dash
  · exact isHeaderChar_of_mem_padded h
  · exact dash
  · exact isHeaderChar_of_mem_padded h

/-- **The signature can always be written.** -/
theorem isHeaderValue_authorization {c : Credentials} {service : String} (hid : isHeaderValue c.secretId = true)
    (hs : isHeaderValue service = true) (host payload : String) (timestamp : Int) :
    isHeaderValue (c.authorization service host payload timestamp) = true := by
  have words : isHeaderValue Signature.method = true ∧ isHeaderValue " Credential=" = true ∧
      isHeaderValue "/" = true ∧ isHeaderValue "/tc3_request" = true ∧ isHeaderValue ", SignedHeaders=" = true ∧
      isHeaderValue Signature.signedHeaders = true ∧ isHeaderValue ", Signature=" = true := by decide
  obtain ⟨h1, h2, h3, h4, h5, h6, h7⟩ := words
  simp only [Credentials.authorization, Signature.header, Signature.scope, isHeaderValue_append]
  simp [h1, h2, h3, h4, h5, h6, h7, hid, hs, isHeaderValue_dateText, isHeaderValue_hex]

/-! ## Clients -/

/-- A client whose requests can be written. -/
structure Writable (c : Client) : Prop where
  secretId : isHeaderValue c.credentials.secretId = true
  region : isHeaderValue c.region = true
  token : ∀ t, c.credentials.token = some t → isHeaderValue t = true
  url : ∀ product, ∃ url name, c.readUrl (c.url product) = .ok url ∧ url.host = some name ∧
    (url.scheme = "http" ∨ url.scheme = "https")

variable {c : Client} {action : String}

theorem Writable.posting (h : c.Writable) (ha : isHeaderValue action = true) (product : Product) (body : Json)
    (timestamp : Int) : ∃ x, c.posting product action body timestamp = .ok x := by
  obtain ⟨url, name, hu, hn, hs⟩ := h.url product
  have hp : isHeaderValue product.name = true := by cases product <;> decide
  simp only [Client.posting, hu, hn]
  rw [if_pos]
  · exact ⟨_, rfl⟩
  · refine ⟨?_, hs⟩
    simp only [List.all_append, List.all_cons, List.all_nil, Bool.and_true, Bool.and_eq_true]
    refine ⟨⟨⟨isHeaderValue_authorization h.secretId hp _ _ _, ha⟩, ?_⟩, ?_⟩
    · split
      · rfl
      · simpa using h.region
    · simpa using h.token

/-- The name in a signature that can be written can be written. -/
theorem secretId_of_authorization {c : Credentials} {service host payload : String} {timestamp : Int}
    (h : isHeaderValue (c.authorization service host payload timestamp) = true) : isHeaderValue c.secretId = true := by
  simp only [Credentials.authorization, Signature.header, isHeaderValue_append] at h
  exact h.1.1.1.1.1.1.2

/-- **Whether a request can be written depends on neither its body nor its time**, and of its action only on whether
that can stand in a header. -/
theorem posting_cases (c : Client) (product : Product) :
    (∃ e, ∀ action body timestamp, c.posting product action body timestamp = .error e) ∨
    ∃ url name region, ∀ action body timestamp, c.posting product action body timestamp =
      if isHeaderValue action = true then
        .ok ⟨url, product, action, region, c.credentials.token,
          c.credentials.authorization product.name (Posting.hostOf url name) body.compact timestamp, timestamp, body⟩
      else .error .unanswered := by
  have hp : isHeaderValue product.name = true := by cases product <;> decide
  have hsigned : ∀ host payload timestamp,
      isHeaderValue (c.credentials.authorization product.name host payload timestamp) =
        isHeaderValue c.credentials.secretId := fun host payload timestamp =>
    Bool.eq_iff_iff.2 ⟨secretId_of_authorization, fun hid => isHeaderValue_authorization hid hp host payload timestamp⟩
  simp only [Client.posting]
  cases c.readUrl (c.url product) with
  | error why => exact .inl ⟨_, fun _ _ _ => rfl⟩
  | ok url =>
    dsimp only
    cases url.host with
    | none => exact .inl ⟨_, fun _ _ _ => rfl⟩
    | some name =>
      dsimp only
      generalize (if c.region = "" then none else some c.region) = region
      simp only [List.cons_append, List.nil_append, List.all_cons, hsigned, Bool.and_eq_true]
      by_cases hrest : (isHeaderValue c.credentials.secretId = true ∧
          (region.toList ++ c.credentials.token.toList).all isHeaderValue = true) ∧
            (url.scheme = "http" ∨ url.scheme = "https")
      · refine .inr ⟨url, name, region, fun action body timestamp => ite_congr (propext ?_) (fun _ => rfl) fun _ => rfl⟩
        obtain ⟨⟨hid, hvalues⟩, hscheme⟩ := hrest
        exact ⟨fun h => h.1.2.1, fun h => ⟨⟨hid, h, hvalues⟩, hscheme⟩⟩
      · exact .inl ⟨_, fun action body timestamp => if_neg fun h => hrest ⟨⟨h.1.1, h.1.2.2⟩, h.2⟩⟩

/-- Either no request of an action can be written, always for the same reason, or all of them can. -/
theorem posting_fate (c : Client) (product : Product) (action : String) :
    (∃ e, ∀ body timestamp, c.posting product action body timestamp = .error e) ∨
    ∀ body timestamp, ∃ x, c.posting product action body timestamp = .ok x := by
  rcases c.posting_cases product with ⟨e, he⟩ | ⟨url, name, region, hx⟩
  · exact .inl ⟨e, he action⟩
  · by_cases ha : isHeaderValue action = true
    · exact .inr fun body timestamp => ⟨_, (hx action body timestamp).trans (if_pos ha)⟩
    · exact .inl ⟨.unanswered, fun body timestamp => (hx action body timestamp).trans (if_neg ha)⟩

/-- **If one request to a product can be written, so can every other**, whatever its body and time. -/
theorem posting_of_posting {product : Product} {body : Json} {timestamp : Int} {x : Posting} {other : String}
    (h : c.posting product action body timestamp = .ok x) (ho : isHeaderValue other = true) (body' : Json)
    (timestamp' : Int) : ∃ y, c.posting product other body' timestamp' = .ok y := by
  rcases c.posting_cases product with ⟨e, he⟩ | ⟨url, name, region, hx⟩
  · rw [he] at h
    cases h
  · rw [hx, if_pos ho]
    exact ⟨_, rfl⟩

/-- A client that sends everything to one address. -/
def plain : Client where
  credentials := ⟨"id", "key", none⟩
  region := ""
  rates := ⟨0, []⟩
  endpoint := some "http://vendor"

theorem plain_writable : plain.Writable where
  secretId := by decide
  region := by decide
  token := by simp [plain]
  url := fun product => by
    have parsed : (Url.parse "http://vendor/").toOption = some ⟨"http", some "vendor", none, "/"⟩ := by decide +kernel
    have hurl : plain.url product = "http://vendor/" := by cases product <;> decide
    rw [hurl]
    cases hp : Url.parse "http://vendor/" with
    | error why => simp [hp, Except.toOption] at parsed
    | ok url =>
      simp only [hp, Except.toOption, Option.some.injEq] at parsed
      exact ⟨url, "vendor", hp, by rw [parsed], .inl (by rw [parsed])⟩

end Client

end Provision
