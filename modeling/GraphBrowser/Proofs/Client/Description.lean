import GraphBrowser.Proofs.Client.Outcome
import GraphBrowser.Proofs.Graph.Described
import GraphBrowser.Proofs.Json.Compact
import GraphBrowser.Proofs.Text.Basic

namespace GraphBrowser

open Json

namespace Client

variable {client : Client} {send : Request → Reply} {request : Request} {status : Nat}
  {body : List UInt8}

theorem decode_info {text description : String} (h : GraphInfo.parse text = .ok ⟨description⟩) :
    decode text .info = .ok description := by
  rw [decode, h]

theorem decode_plain {text : String}
    (h : ∀ s, ¬ GraphInfo.InObject text s ∧ ¬ GraphInfo.InList text s) :
    decode text .info = .ok (Text.trim text) := by
  cases hparse : GraphInfo.parse text with
  | error e => rw [decode, hparse]
  | ok g =>
    obtain ⟨description⟩ := g
    obtain hobject | hlist := GraphInfo.parse_eq_ok_iff.mp hparse
    · exact absurd hobject (h description).1
    · exact absurd hlist (h description).2

/-- Every text is an answer. An object with one string as its member `info` tells that string, as does
a list of one string; any other text tells itself, without the white space at its ends. -/
theorem description_told (hsent : (client.asked send .info).2 = [request])
    (hreply : send request = .response status body) (hstatus : 200 ≤ status ∧ status < 300) :
    ∃ description, (client.asked send .info).1.result = .ok description ∧
      (∀ s, GraphInfo.InObject (Reply.bodyText body) s → description = s) ∧
      (∀ s, GraphInfo.InList (Reply.bodyText body) s → description = s) ∧
      ((∀ s, ¬ GraphInfo.InObject (Reply.bodyText body) s ∧
          ¬ GraphInfo.InList (Reply.bodyText body) s) →
        Text.Trimmed (Reply.bodyText body) description) := by
  rw [asked_answered hsent hreply hstatus]
  generalize Reply.bodyText body = text
  by_cases hheld : ∃ s, GraphInfo.InObject text s ∨ GraphInfo.InList text s
  · obtain ⟨s, hs⟩ := hheld
    have hparse := GraphInfo.parse_eq_ok_iff.mpr hs
    -- The text is read in one way only, so that no other string can be held by it.
    have hsame : ∀ other, GraphInfo.InObject text other ∨ GraphInfo.InList text other → s = other := by
      intro other hother
      rw [GraphInfo.parse_eq_ok_iff.mpr hother] at hparse
      cases hparse
      rfl
    refine ⟨s, decode_info hparse, fun other h => hsame other (.inl h),
      fun other h => hsame other (.inr h), fun hnone => ?_⟩
    obtain h | h := hs
    · exact absurd h (hnone s).1
    · exact absurd h (hnone s).2
  · have hnone : ∀ s, ¬ GraphInfo.InObject text s ∧ ¬ GraphInfo.InList text s :=
      fun s => ⟨fun h => hheld ⟨s, .inl h⟩, fun h => hheld ⟨s, .inr h⟩⟩
    exact ⟨Text.trim text, decode_plain hnone, fun s h => absurd h (hnone s).1,
      fun s h => absurd h (hnone s).2, fun _ => Text.trimmed_trim text⟩

theorem asked_info_loopback (send : Request → Reply) : ∃ request,
    asked ⟨trimSlashes Site.loopback.address, 30000, "depview/0.1.0"⟩ send .info =
      (conclude ⟨trimSlashes Site.loopback.address, 30000, "depview/0.1.0"⟩ .info request (send request),
        [request]) := by
  have hcall : ¬ Call.info.LacksArgument := id
  exact Site.asked_once Site.ofConfig_loopback send hcall (by decide +kernel)

def releasedInfo : Value := .object [("release", .number (.int 7)), ("info", .string " x ")]

theorem inObject_releasedInfo : GraphInfo.InObject releasedInfo.text " x " := by
  have hrelease : Compact .foreign (.number (.int 7)) := ⟨rfl, .number (numberText_int 7)⟩
  have hcompact : Compact _ releasedInfo :=
    compact_object (.cons ⟨_, rfl, hrelease⟩ (.cons ⟨_, rfl, compact_string " x "⟩ .nil))
  exact ⟨_, _, .foreign (by decide) (.field .done), hcompact.text⟩

theorem description_told_object :
    ∃ client, Client.ofConfig ⟨Site.loopback.address, 30000, "depview/0.1.0"⟩ = .ok client ∧
      (client.asked (fun _ => .response 200 (Text.utf8Bytes releasedInfo.print)) .info).1.result =
        .ok " x " := by
  refine ⟨_, Site.ofConfig_loopback, ?_⟩
  generalize hbody : Text.utf8Bytes releasedInfo.print = body
  have htext : Reply.bodyText body = releasedInfo.text := hbody ▸ Reply.bodyText_print releasedInfo
  obtain ⟨request, hasked⟩ := asked_info_loopback fun _ => .response 200 body
  obtain ⟨description, hresult, hobject, -, -⟩ :=
    description_told (congrArg Prod.snd hasked) rfl (by decide : 200 ≤ 200 ∧ 200 < 300)
  rw [htext] at hobject
  rw [hresult, hobject " x " inObject_releasedInfo]

def listedInfo : Value := .array [.string "x"]

theorem inList_listedInfo : GraphInfo.InList listedInfo.text "x" :=
  ⟨_, (compact_list (.cons (compact_string "x") .nil)).text⟩

theorem not_inObject_listedInfo (s : String) : ¬ GraphInfo.InObject listedInfo.text s := by
  rintro ⟨ms, depth, -, w, x, w', hw, ⟨d, row, -, -, rfl⟩, -, htext⟩
  have hopen : w ++ ('\x7b' :: row ++ w') = '[' :: ['"', 'x', '"', ']'] := htext.symm.trans rfl
  cases w with
  | nil => cases hopen
  | cons c w =>
    obtain ⟨rfl, -⟩ := List.cons.inj hopen
    exact absurd (hw '[' List.mem_cons_self) (by decide)

/-- A list of one string is no object, and yet it is not told as the text that it is. -/
theorem list_not_told :
    ∃ client, Client.ofConfig ⟨Site.loopback.address, 30000, "depview/0.1.0"⟩ = .ok client ∧
      (∀ s, ¬ GraphInfo.InObject listedInfo.text s) ∧ ¬ Text.Trimmed listedInfo.text "x" ∧
      (client.asked (fun _ => .response 200 (Text.utf8Bytes listedInfo.print)) .info).1.result =
        .ok "x" := by
  refine ⟨_, Site.ofConfig_loopback, not_inObject_listedInfo, ?_, ?_⟩
  · rintro ⟨front, back, htext, hfront, -⟩
    have hopen : front ++ (['x'] ++ back) = '[' :: ['"', 'x', '"', ']'] := htext.symm.trans rfl
    cases front with
    | nil => cases hopen
    | cons c front =>
      obtain ⟨rfl, -⟩ := List.cons.inj hopen
      exact absurd (hfront '[' List.mem_cons_self) (by decide)
  · generalize hbody : Text.utf8Bytes listedInfo.print = body
    have htext : Reply.bodyText body = listedInfo.text := hbody ▸ Reply.bodyText_print listedInfo
    obtain ⟨request, hasked⟩ := asked_info_loopback fun _ => .response 200 body
    rw [asked_answered (congrArg Prod.snd hasked) rfl (by decide : 200 ≤ 200 ∧ 200 < 300), htext]
    exact decode_info (GraphInfo.parse_eq_ok_iff.mpr (.inr inList_listedInfo))

end Client

end GraphBrowser
