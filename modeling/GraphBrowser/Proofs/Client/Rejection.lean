import GraphBrowser.Proofs.Client.Outcome
import GraphBrowser.Proofs.Json.Accepted.Verbatim
import GraphBrowser.Proofs.Json.Members

namespace GraphBrowser

open Json Text

namespace Text

theorem notBlank_append {s t : String} (h : isBlankString s = false) :
    isBlankString (s ++ t) = false := by
  rw [isBlankString] at h ⊢
  rw [String.toList_append, List.all_append, h, Bool.false_and]

theorem notBlank_prepend {s t : String} (h : isBlankString t = false) :
    isBlankString (s ++ t) = false := by
  rw [isBlankString] at h ⊢
  rw [String.toList_append, List.all_append, h, Bool.and_false]

end Text

namespace Reply

/-- The body is the text of an object with these members, not nested too deep. -/
def HasMembers (body : String) (ms : List (String × Value)) : Prop :=
  ∃ depth ≤ maxDepth, (Value.object ms).verbatim.Text depth body

/-- The last member with the given key is this string, and it is not blank. -/
def Tells (ms : List (String × Value)) (key text : String) : Prop :=
  lastValue? key ms = some (.string text) ∧ isBlankString text = false

/-- The message of a rejection with this status and body. -/
inductive Chosen (status : Nat) (body : String) : String → Prop
  | message {ms : List (String × Value)} {text : String} : HasMembers body ms →
    Tells ms "message" text → Chosen status body text
  | error {ms : List (String × Value)} {text : String} : HasMembers body ms →
    (∀ other, ¬ Tells ms "message" other) → Tells ms "error" text → Chosen status body text
  | status : (∀ ms, HasMembers body ms → ∀ text, ¬ Tells ms "message" text ∧ ¬ Tells ms "error" text) →
    Chosen status body ("HTTP " ++ Status.text status)

theorem HasMembers.parse {body : String} {ms : List (String × Value)} (h : HasMembers body ms) :
    Json.parse body = .ok (Value.object ms).sorted := by
  obtain ⟨depth, hdepth, htext⟩ := h
  exact parse_eq_ok_iff.mpr ⟨_, depth, rfl, hdepth, htext⟩

theorem string_sorted {v : Value} {s : String} : v.sorted.string? = some s ↔ v = .string s := by
  cases v <;> simp [Value.sorted, Value.string?]

theorem errorField_sorted {ms : List (String × Value)} {key text : String} :
    errorField? (Value.object ms).sorted key = some text ↔ Tells ms key text := by
  obtain ⟨sorted, heq, -, hget⟩ := sorted_object ms
  unfold errorField? Tells
  rw [heq, hget, Option.filter_eq_some_iff, Option.bind_eq_some_iff]
  simp [Option.map_eq_some_iff, string_sorted]

theorem members_of_errorField {body key text : String} {v : Value} (h : Json.parse body = .ok v)
    (hfield : errorField? v key = some text) :
    ∃ ms, HasMembers body ms ∧ v = (Value.object ms).sorted := by
  obtain ⟨t, depth, rfl, hdepth, htext⟩ := parse_eq_ok_iff.mp h
  cases t with
  | object ms => exact ⟨ms, ⟨depth, hdepth, htext⟩, rfl⟩
  | null | bool | number | string | array => cases hfield

theorem rejection_parsed {body : String} {v : Value} (status : Nat) (h : Json.parse body = .ok v) :
    rejection status body = ((errorField? v "message" <|> errorField? v "error").getD
      ("HTTP " ++ Status.text status)) := by
  simp only [rejection, h]

theorem errorField_none {ms : List (String × Value)} {key : String} (h : ∀ text, ¬ Tells ms key text) :
    errorField? (Value.object ms).sorted key = none :=
  Option.eq_none_iff_forall_ne_some.mpr fun text htext => h text (errorField_sorted.mp htext)

theorem Chosen.eq_rejection {status : Nat} {body text : String} (h : Chosen status body text) :
    rejection status body = text := by
  cases h with
  | message hms htells =>
    rw [rejection_parsed status hms.parse, errorField_sorted.mpr htells]
    rfl
  | error hms hnone htells =>
    rw [rejection_parsed status hms.parse, errorField_none hnone, errorField_sorted.mpr htells]
    rfl
  | status hnone =>
    cases hparse : Json.parse body with
    | error e => simp only [rejection, hparse, Option.getD_none]
    | ok v =>
      -- A field that says something would be one of the members.
      have hmessage : errorField? v "message" = none := by
        refine Option.eq_none_iff_forall_ne_some.mpr fun text htext => ?_
        obtain ⟨ms, hms, rfl⟩ := members_of_errorField hparse htext
        exact (hnone ms hms text).1 (errorField_sorted.mp htext)
      have herror : errorField? v "error" = none := by
        refine Option.eq_none_iff_forall_ne_some.mpr fun text htext => ?_
        obtain ⟨ms, hms, rfl⟩ := members_of_errorField hparse htext
        exact (hnone ms hms text).2 (errorField_sorted.mp htext)
      rw [rejection_parsed status hparse, hmessage, herror]
      rfl

theorem chosen_rejection (status : Nat) (body : String) :
    Chosen status body (rejection status body) := by
  cases hparse : Json.parse body with
  | error e =>
    simp only [rejection, hparse, Option.getD_none]
    refine .status fun ms hms => ?_
    rw [hms.parse] at hparse
    cases hparse
  | ok v =>
    rw [rejection_parsed status hparse]
    cases hmessage : errorField? v "message" with
    | some text =>
      obtain ⟨ms, hms, rfl⟩ := members_of_errorField hparse hmessage
      exact .message hms (errorField_sorted.mp hmessage)
    | none =>
      cases herror : errorField? v "error" with
      | some text =>
        obtain ⟨ms, hms, rfl⟩ := members_of_errorField hparse herror
        refine .error hms (fun other hother => ?_) (errorField_sorted.mp herror)
        rw [errorField_sorted.mpr hother] at hmessage
        cases hmessage
      | none =>
        refine .status fun ms hms text => ?_
        rw [hms.parse] at hparse
        cases hparse
        rw [← errorField_sorted, ← errorField_sorted, hmessage, herror]
        exact ⟨nofun, nofun⟩

theorem chosen_iff {status : Nat} {body text : String} :
    Chosen status body text ↔ rejection status body = text :=
  ⟨Chosen.eq_rejection, fun h => h ▸ chosen_rejection status body⟩

end Reply

theorem Reply.rejection_not_blank (status : Nat) (body : String) :
    isBlankString (rejection status body) = false := by
  have h := chosen_rejection status body
  generalize rejection status body = text at h
  cases h with
  | message _ htells => exact htells.2
  | error _ _ htells => exact htells.2
  | status => exact notBlank_append (by decide)

theorem Call.refusal_not_blank {call : Call α} {e : Error} (h : call.refusal? = some e) :
    isBlankString e.message = false := by
  obtain rfl | ⟨what, rfl⟩ := refusal_cases h
  · decide
  · exact notBlank_prepend (by decide)

namespace Client

variable {client : Client} {call : Call α} {e : Error}

theorem message_rejected (text : String) (call : Call α) : (rejected text call).message = text := by
  cases call <;> rfl

theorem unsendable_not_blank (address : String) (url? : Option Url) :
    isBlankString (unsendable address url?).message = false :=
  notBlank_append (notBlank_append (notBlank_append (by decide)))

theorem request_not_blank (h : client.request call = .error e) : isBlankString e.message = false := by
  obtain ⟨url?, rfl⟩ := request_unsendable h
  exact unsendable_not_blank _ url?

theorem faultText_not_blank (address url : String) (f : Fault) :
    isBlankString (faultText address url f) = false := by
  cases f with
  | noConnection =>
    exact notBlank_append (notBlank_append (notBlank_append (notBlank_append (by decide))))
  | timedOut | truncated => exact notBlank_append (notBlank_append (by decide))

theorem undecodable_not_blank (what : String) (d : DecodeError) :
    isBlankString (undecodable what d).message = false :=
  notBlank_append (notBlank_append (notBlank_append (by decide)))

theorem decode_not_blank {text : String} (h : decode text call = .error e) :
    isBlankString e.message = false := by
  cases call with
  | info =>
    rw [decode] at h
    cases hparse : GraphInfo.parse text <;> simp [hparse] at h
  | node | nodes | edge =>
    obtain ⟨d, -, rfl⟩ := mapError_eq_error.mp h
    exact undecodable_not_blank _ d

theorem conclude_not_blank {request : Request} {reply : Reply}
    (h : (client.conclude call request reply).result = .error e) : isBlankString e.message = false := by
  cases reply with
  | fault f =>
    cases h
    exact faultText_not_blank _ _ f
  | response status body =>
    cases hstatus : Status.isSuccess status with
    | true =>
      rw [result_answered body hstatus] at h
      exact decode_not_blank h
    | false =>
      rw [result_rejected body hstatus] at h
      cases h
      rw [message_rejected]
      exact Reply.rejection_not_blank status _

/-- Whatever a call fails for, it says something. -/
theorem failure_not_blank {send : Request → Reply} (h : (client.asked send call).1.result = .error e) :
    isBlankString e.message = false := by
  cases hrefusal : call.refusal? with
  | some refusal =>
    rw [asked_refused hrefusal] at h
    cases h
    exact Call.refusal_not_blank hrefusal
  | none =>
    cases hrequest : client.request call with
    | error unsent =>
      rw [asked_unsendable hrefusal hrequest] at h
      cases h
      exact request_not_blank hrequest
    | ok request =>
      rw [asked_sent hrefusal hrequest] at h
      exact conclude_not_blank h

theorem asked_rejected {send : Request → Reply} {request : Request} {status : Nat} {body : List UInt8}
    (hsent : (client.asked send call).2 = [request]) (hreply : send request = .response status body)
    (hstatus : ¬ (200 ≤ status ∧ status < 300)) : (client.asked send call).1.result =
      .error (rejected (Reply.rejection status (Reply.bodyText body)) call) := by
  have hfailed : Status.isSuccess status = false := by
    rw [← Bool.not_eq_true, Status.isSuccess_iff]
    exact hstatus
  rw [asked_of_sent hsent, hreply, result_rejected body hfailed]

end Client

end GraphBrowser
