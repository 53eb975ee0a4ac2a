import Provision.Proofs.Json.Faults
import Provision.Provider

/-!
# What lines of the log show

A line of the log is a notice about a call, about an answer whose status is no success, or about an attempt
(`Notice`). Its text is put together from words, numbers, an excerpt of what was sent or came back, and the wording of
a failure, which shows some texts as they are: those of a refusal, the identifier of an instance that is not ready, and
the address of an endpoint (`Failure.foreign`). Main statements: the wording of a failure stays on its line if and only
if the texts in it do (`Failure.plain_message_iff`); a notice that is proper stays on its line if and only if the
foreign texts do (`Notice.plain_iff`), and it shows these in full (`Notice.shows_foreign`).
-/

namespace Provision

open Text

/-! ## Texts in failures -/

/-- The texts that the wording of a violation shows as they are. -/
def Violation.texts (typeName : String) : Violation → List String
  | .notAnObject => [typeName]
  | .unsupported text | .required text | .length text _ _ _ => [typeName, text]
  | .conflict field other => [field, other]

/-- The texts that the wording of a reason shows as they are. -/
def Invalid.texts : Invalid → List String
  | .noSecretId | .noSecretKey => []
  | .region text | .endpoint text _ | .hostless text | .projectId text _ | .stated text => [text]
  | .foreignState found expected => [found, expected]

namespace Failure

/-- The texts that the wording of a failure shows as they are. -/
def texts : Failure → List String
  | .refused code text requestId => [code, text, requestId]
  | .badStatus _ | .unanswered => []
  | .unreadable action why => action :: why.texts
  | .unnamed text | .notReady text _ | .brokenId text | .notUpdatable text | .unknownType text => [text]
  | .absent kind id => [kind, id]
  | .violation typeName why => why.texts typeName
  | .invalid why => why.texts
  | .badAttributes kind why => kind :: why.texts
  | .unwritten path cause => [path, cause]
  | .timedOut operation _ last => operation :: last.texts

end Failure

-- In each case below, the shape of the wording is stated, and its own words are plain by evaluation.

theorem Violation.plain_message_iff (typeName : String) :
    ∀ why : Violation, Plain (why.message typeName) ↔ ∀ t ∈ why.texts typeName, Plain t
  | .notAnObject => by
    change Plain (_ ++ _) ↔ ∀ t ∈ [_], Plain t
    simp +decide
  | .unsupported _ | .required _ => by
    change Plain (_ ++ _ ++ _ ++ _) ↔ ∀ t ∈ [_, _], Plain t
    simp +decide
  | .conflict _ _ => by
    change Plain (_ ++ _ ++ _ ++ _) ↔ ∀ t ∈ [_, _], Plain t
    simp +decide
  | .length _ least most actual => by
    change Plain (_ ++ _ ++ _ ++ _ ++ Decimal.text least ++ _ ++ Decimal.text most ++ _ ++ Decimal.text actual) ↔
      ∀ t ∈ [_, _], Plain t
    simp +decide

@[simp] theorem Url.Fault.plain_message (why : Url.Fault) : Plain why.message := by
  cases why <;> decide

@[simp] theorem Text.Decimal.Fault.plain_message (why : Decimal.Fault) : Plain why.message := by
  cases why <;> decide

theorem Invalid.plain_message_iff : ∀ why : Invalid, Plain why.message ↔ ∀ t ∈ why.texts, Plain t
  | .noSecretId | .noSecretKey => by decide
  | .region _ => by
    change Plain (_ ++ _ ++ _) ↔ ∀ t ∈ [_], Plain t
    simp +decide
  | .endpoint _ why => by
    change Plain (_ ++ _ ++ _ ++ why.message) ↔ ∀ t ∈ [_], Plain t
    simp +decide
  | .hostless _ => by
    change Plain (_ ++ _ ++ _) ↔ ∀ t ∈ [_], Plain t
    simp +decide
  | .foreignState _ _ => by
    change Plain (_ ++ _ ++ _ ++ _ ++ _) ↔ ∀ t ∈ [_, _], Plain t
    simp +decide
  | .projectId _ why => by
    change Plain (_ ++ _ ++ _ ++ why.message) ↔ ∀ t ∈ [_], Plain t
    simp +decide
  | .stated _ => List.forall_mem_singleton.symm

namespace Failure

/-- **The wording of a failure stays on its line if and only if the texts in it do.** -/
theorem plain_message_iff : ∀ e : Failure, Plain e.message ↔ ∀ t ∈ e.texts, Plain t
  | .refused _ _ _ => by
    change Plain (_ ++ _ ++ _ ++ _ ++ _ ++ _) ↔ ∀ t ∈ [_, _, _], Plain t
    simp +decide [and_assoc]
  | .badStatus status => by
    change Plain (_ ++ Decimal.text status) ↔ ∀ t ∈ [], Plain t
    simp +decide
  | .unanswered => by decide
  | .unreadable _ why => by
    change Plain (_ ++ _ ++ _ ++ why.message) ↔ ∀ t ∈ _ :: why.texts, Plain t
    simp +decide [why.plain_message_iff]
  | .unnamed _ => by
    change Plain (_ ++ _) ↔ ∀ t ∈ [_], Plain t
    simp +decide
  | .notReady _ status => by
    change Plain (_ ++ _ ++ _ ++ Decimal.text status ++ _) ↔ ∀ t ∈ [_], Plain t
    simp +decide
  | .absent _ _ => by
    change Plain (_ ++ _ ++ _ ++ _ ++ _) ↔ ∀ t ∈ [_, _], Plain t
    simp +decide
  | .brokenId _ | .unknownType _ => by
    change Plain (_ ++ _) ↔ ∀ t ∈ [_], Plain t
    simp +decide
  | .notUpdatable _ => by
    change Plain (_ ++ _ ++ _) ↔ ∀ t ∈ [_], Plain t
    simp +decide
  | .violation typeName why => by
    have hwhy := why.plain_message_iff typeName
    cases why with
    | conflict field other => exact hwhy
    | _ =>
      change Plain (_ ++ Violation.message typeName _) ↔ _
      simp +decide
      exact hwhy
  | .invalid why => by
    change Plain (_ ++ why.message) ↔ ∀ t ∈ why.texts, Plain t
    simp +decide [why.plain_message_iff]
  | .badAttributes _ why => by
    change Plain (_ ++ _ ++ _ ++ why.message) ↔ ∀ t ∈ _ :: why.texts, Plain t
    simp +decide [why.plain_message_iff]
  | .unwritten _ _ => by
    change Plain (_ ++ _ ++ _ ++ _) ↔ ∀ t ∈ [_, _], Plain t
    simp +decide
  | .timedOut _ elapsed last => by
    change Plain (_ ++ _ ++ Time.spanText elapsed ++ _ ++ last.message) ↔ ∀ t ∈ _ :: last.texts, Plain t
    simp +decide [plain_message_iff last]

/-! ## Texts from outside -/

/-- The texts that come from the vendor or from the settings. -/
def foreign : Failure → List String
  | .refused code text requestId => [code, text, requestId]
  | .notReady id _ => [id]
  | .invalid (.endpoint url _) | .invalid (.hostless url) => [url]
  | .timedOut _ _ last => last.foreign
  | _ => []

/-- **Whatever else the wording of a failure shows is plain.** -/
def Tidy (e : Failure) : Prop := ∀ t ∈ e.texts, t ∈ e.foreign ∨ Plain t

theorem foreign_subset_texts : ∀ e : Failure, e.foreign ⊆ e.texts
  | .refused _ _ _ | .notReady _ _ | .invalid (.endpoint _ _) | .invalid (.hostless _) => List.Subset.refl _
  | .timedOut operation _ last => List.Subset.trans (foreign_subset_texts last) (List.subset_cons_self operation _)
  | .badStatus _ | .unanswered | .unreadable _ _ | .unnamed _ | .absent _ _ | .brokenId _ | .notUpdatable _
  | .violation _ _ | .badAttributes _ _ | .unwritten _ _ | .unknownType _ | .invalid .noSecretId
  | .invalid .noSecretKey | .invalid (.region _) | .invalid (.foreignState _ _) | .invalid (.projectId _ _)
  | .invalid (.stated _) => List.nil_subset _

/-- A failure after which another attempt is made shows nothing of its own. -/
theorem tidy_of_retryable {e : Failure} (h : e.retryable = true) : e.Tidy := by
  cases e with
  | refused code text requestId => exact fun t ht => .inl ht
  | badStatus status => exact fun t ht => by cases ht
  | unanswered => exact fun t ht => by cases ht
  | notReady id status => exact fun t ht => .inl ht
  | _ => cases h

theorem Tidy.plain_message_iff {e : Failure} (h : e.Tidy) : Plain e.message ↔ ∀ t ∈ e.foreign, Plain t := by
  rw [e.plain_message_iff]
  constructor
  · exact fun hall t ht => hall t (e.foreign_subset_texts ht)
  · exact fun hall t ht => (h t ht).elim (hall t) id

end Failure

/-- A text is shown in full in another one. -/
def Text.Shows (line t : String) : Prop := t.toList <:+: line.toList

namespace Text

variable {line rest t : String}

theorem shows_self (t : String) : Shows t t := List.infix_rfl

theorem Shows.append_right (h : Shows line t) (rest : String) : Shows (line ++ rest) t := by
  rw [Shows, String.toList_append]
  exact h.trans (List.prefix_append _ _).isInfix

theorem Shows.append_left (h : Shows line t) (rest : String) : Shows (rest ++ line) t := by
  rw [Shows, String.toList_append]
  exact h.trans (List.suffix_append _ _).isInfix

end Text

/-- **The wording of a failure shows the texts from outside in full,** however long they are. -/
theorem Failure.shows_foreign : ∀ {e : Failure}, ∀ t ∈ e.foreign, Shows e.message t
  | .refused code text requestId, t, ht => by
    change Shows (_ ++ code ++ _ ++ text ++ _ ++ requestId) t
    rcases List.mem_cons.1 ht with rfl | ht
    · exact ((((shows_self _).append_left _).append_right _).append_right _).append_right _ |>.append_right _
    · rcases List.mem_cons.1 ht with rfl | ht
      · exact ((shows_self _).append_left _).append_right _ |>.append_right _
      · obtain rfl := List.mem_singleton.1 ht
        exact (shows_self _).append_left _
  | .notReady id status, t, ht => by
    obtain rfl := List.mem_singleton.1 ht
    change Shows (_ ++ t ++ _ ++ _ ++ _) t
    exact ((shows_self t).append_left _).append_right _ |>.append_right _ |>.append_right _
  | .invalid (.endpoint url why), t, ht => by
    obtain rfl := List.mem_singleton.1 ht
    change Shows (_ ++ (_ ++ t ++ _ ++ _)) t
    exact (((shows_self t).append_left _).append_right _ |>.append_right _).append_left _
  | .invalid (.hostless url), t, ht => by
    obtain rfl := List.mem_singleton.1 ht
    change Shows (_ ++ (_ ++ t ++ _)) t
    exact (((shows_self t).append_left _).append_right _).append_left _
  | .timedOut operation elapsed last, t, ht => by
    change Shows (_ ++ _ ++ _ ++ _ ++ last.message) t
    exact (shows_foreign (e := last) t ht).append_left _

/-! ## Notices -/

/-- **What a line of the log is about.** -/
inductive Notice where
  /-- A call that succeeded. -/
  | success (action : String) (body : Json)
  /-- A call that failed. -/
  | failure (action : String) (body : Json) (e : Failure)
  /-- An answer with a status that is no success. -/
  | badStatus (status : Nat) (answer : String)
  /-- An attempt after which another one is made, and the pause before that. -/
  | again (operation : String) (number : Nat) (e : Failure) (pause : Nat)
  /-- The last attempt of an operation. -/
  | exhausted (operation : String) (number : Nat) (e : Failure)

namespace Notice

/-- The line of a notice. -/
def line : Notice → LogLine
  | .success action body => Provider.successLine action body
  | .failure action body e => Provider.failureLine action body e
  | .badStatus status answer => ⟨.error, "API error: " ++ Status.text status ++ " - " ++ excerptText answer, []⟩
  | .again operation number e pause => Run.again operation number e pause
  | .exhausted operation number e => Run.exhausted operation number e

/-- The texts from outside that a line shows as they are. -/
def foreign : Notice → List String
  | .success _ _ | .badStatus _ _ => []
  | .failure _ _ e | .again _ _ e _ | .exhausted _ _ e => e.foreign

/-- The body that was sent, without passwords, or the text that came back. -/
def content? : Notice → Option String
  | .success _ body | .failure _ body _ => some (Provider.shownBody body).compact
  | .badStatus _ answer => some answer
  | .again _ _ _ _ | .exhausted _ _ _ => none

/-- **The names in a notice are plain, and so is what its failure shows** but for the texts from outside. Attempts are
made again only after failures that promise something of it. -/
def Proper : Notice → Prop
  | .success action _ => Plain action
  | .failure action _ e => Plain action ∧ e.Tidy
  | .badStatus _ _ => True
  | .again operation _ e _ | .exhausted operation _ e => Plain operation ∧ e.retryable = true

section Lines

variable {level : Level} {message : String}

theorem text_bare : LogLine.text ⟨level, message, []⟩ = level.name ++ " " ++ message := rfl

theorem text_attempt (operation : String) (number : Nat) (e : Failure) :
    LogLine.text ⟨level, message, Run.attemptValues operation number e⟩ =
      level.name ++ " " ++ message ++ " " ++ "operation" ++ "=" ++ operation ++ " " ++ "attempt" ++ "=" ++
        Decimal.text number ++ " " ++ "error" ++ "=" ++ e.message := rfl

/-- The line about an attempt after which another one is made has the pause at its end. -/
theorem text_again (operation : String) (number : Nat) (e : Failure) (pause : Nat) :
    (Run.again operation number e pause).text =
      LogLine.text ⟨.warn, "Retryable error, retrying", Run.attemptValues operation number e⟩ ++ " " ++ "delay_ms" ++
        "=" ++ Decimal.text (pause / Time.millisecond) := rfl

@[simp] theorem plain_status (status : Nat) : Plain (Status.text status) := by
  have reasons : ∀ r ∈ Status.reasons, Plain r.2 := by decide +kernel
  refine plain_append.2 ⟨plain_append.2 ⟨plain_decimal _, by decide⟩, ?_⟩
  cases h : Status.reasons.lookup status with
  | none => decide
  | some reason =>
    obtain ⟨before, after, hsplit, -⟩ := List.lookup_eq_some_iff.1 h
    exact reasons (status, reason) (by rw [hsplit]; simp)

/-- The line about an attempt. -/
theorem plain_attempt {operation : String} (hoperation : Plain operation) (number : Nat) {e : Failure} (he : e.Tidy)
    (hlevel : Plain level.name) (hmessage : Plain message) :
    Plain (LogLine.text ⟨level, message, Run.attemptValues operation number e⟩) ↔ ∀ t ∈ e.foreign, Plain t := by
  rw [text_attempt, ← he.plain_message_iff]
  simp +decide [hlevel, hmessage, hoperation]

end Lines

/-- **A line stays a line if and only if the texts from outside do** that it shows as they are. -/
theorem plain_iff {x : Notice} (h : x.Proper) : Plain x.line.text ↔ ∀ t ∈ x.foreign, Plain t := by
  cases x with
  | success action body =>
    have haction : Plain action := h
    rw [line, Provider.successLine, text_bare, Provider.loggedBody, foreign]
    simp +decide [haction]
  | failure action body e =>
    obtain ⟨haction, he⟩ := h
    rw [line, Provider.failureLine, text_bare, Provider.loggedBody, foreign, ← he.plain_message_iff]
    simp +decide [haction]
  | badStatus status answer =>
    rw [line, text_bare, foreign]
    simp +decide
  | again operation number e pause =>
    have hattempt : Plain (LogLine.text ⟨.warn, "Retryable error, retrying", Run.attemptValues operation number e⟩) ↔
        ∀ t ∈ e.foreign, Plain t :=
      plain_attempt h.1 number (Failure.tidy_of_retryable h.2) (by decide) (by decide)
    rw [line, text_again, foreign, ← hattempt]
    simp +decide
  | exhausted operation number e =>
    exact plain_attempt h.1 number (Failure.tidy_of_retryable h.2) (by decide) (by decide)

/-- **A line shows the texts from outside in full.** -/
theorem shows_foreign (x : Notice) : ∀ t ∈ x.foreign, Shows x.line.text t := by
  intro t ht
  cases x with
  | success action body => cases ht
  | badStatus status answer => cases ht
  | failure action body e =>
    rw [line, Provider.failureLine, text_bare]
    exact (((Failure.shows_foreign t ht).append_left _).append_right _).append_left _
  | again operation number e pause =>
    rw [line, text_again, text_attempt]
    exact (((((Failure.shows_foreign t ht).append_left _).append_right _).append_right _).append_right _).append_right _
  | exhausted operation number e =>
    rw [line, Run.exhausted, text_attempt]
    exact (Failure.shows_foreign t ht).append_left _

/-- The parts of a line between its words: names, numbers, a pause, an excerpt of what was sent or came back, and the
wording of a failure. -/
def parts : Notice → List String
  | .success action body => [action, Provider.loggedBody body]
  | .failure action body e => [action, Provider.loggedBody body, e.message]
  | .badStatus status answer => [Status.text status, excerptText answer]
  | .again operation number e pause =>
    [operation, Decimal.text number, e.message, "delay_ms=" ++ Decimal.text (pause / Time.millisecond)]
  | .exhausted operation number e => [operation, Decimal.text number, e.message]

/-- **A line has at most 64 bytes besides its parts.** -/
theorem size_line_le (x : Notice) : size x.line.text ≤ 64 + size (String.join x.parts) := by
  cases x with
  | success action body =>
    have words : size Level.debug.name = 5 ∧ size " " = 1 ∧ size "api[" = 4 ∧
        size "] success, request body [" = 25 ∧ size "]" = 1 := by decide
    rw [line, Provider.successLine, text_bare]
    simp only [parts, String.join, List.foldl_cons, List.foldl_nil, size_append]
    omega
  | failure action body e =>
    have words : size Level.error.name = 5 ∧ size " " = 1 ∧ size "api[" = 4 ∧
        size "] fail, request body [" = 22 ∧ size "], reason[" = 10 ∧ size "]" = 1 := by decide
    rw [line, Provider.failureLine, text_bare]
    simp only [parts, String.join, List.foldl_cons, List.foldl_nil, size_append]
    omega
  | badStatus status answer =>
    have words : size Level.error.name = 5 ∧ size " " = 1 ∧ size "API error: " = 11 ∧ size " - " = 3 := by decide
    rw [line, text_bare]
    simp only [parts, String.join, List.foldl_cons, List.foldl_nil, size_append]
    omega
  | again operation number e pause =>
    have words : size Level.warn.name = 4 ∧ size "Retryable error, retrying" = 25 ∧ size " " = 1 ∧
        size "operation" = 9 ∧ size "attempt" = 7 ∧ size "error" = 5 ∧ size "delay_ms" = 8 ∧ size "delay_ms=" = 9 ∧
        size "=" = 1 := by decide
    rw [line, text_again, text_attempt]
    simp only [parts, String.join, List.foldl_cons, List.foldl_nil, size_append]
    omega
  | exhausted operation number e =>
    have words : size Level.error.name = 5 ∧ size "Retry budget exhausted" = 22 ∧ size " " = 1 ∧
        size "operation" = 9 ∧ size "attempt" = 7 ∧ size "error" = 5 ∧ size "=" = 1 := by decide
    rw [line, Run.exhausted, text_attempt]
    simp only [parts, String.join, List.foldl_cons, List.foldl_nil, size_append]
    omega

/-- **What was sent or came back is a part of a line only as an excerpt.** -/
theorem excerpt_mem_parts (x : Notice) : ∀ t ∈ x.content?, excerptText t ∈ x.parts := by
  intro t ht
  cases x with
  | success action body =>
    obtain rfl := Option.some.inj ht
    exact List.mem_cons_of_mem _ List.mem_cons_self
  | failure action body e =>
    obtain rfl := Option.some.inj ht
    exact List.mem_cons_of_mem _ List.mem_cons_self
  | badStatus status answer =>
    obtain rfl := Option.some.inj ht
    exact List.mem_cons_of_mem _ List.mem_cons_self
  | again operation number e pause => cases ht
  | exhausted operation number e => cases ht

end Notice

end Provision
