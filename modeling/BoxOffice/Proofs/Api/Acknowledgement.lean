import BoxOffice.Proofs.Api.Pulling
import BoxOffice.Proofs.Service.Notification

/-! Answers to notifications. Without a good signature a notification is refused before anybody is
asked for anything. Behind a good one no failure is one of the signature, and all others are
answered like a success: the answer tells nothing of the store or of the processor. -/

namespace BoxOffice

open Program

namespace Api

/-! ### Signatures of requests -/

namespace HttpRequest

/-- The first header with the name of the signature's, as it was sent. -/
def signature? (r : HttpRequest) : Option String :=
  (r.headers.find? fun (n, _) => Text.lowerAscii n.toList == signatureHeader.toList).map (·.2)

/-- The value of a header is a text: tabs and the visible characters of ASCII. -/
def isHeaderText (value : String) : Bool :=
  value.toList.all fun c => c = '\t' || (32 ≤ c.toNat && c.toNat < 127)

/-- The signature of a request is no good. -/
inductive Unsigned (secret : Bytes) (r : HttpRequest) : Prop
  | absent (header : r.signature? = none)
  | unreadable {value : String} (header : r.signature? = some value)
      (text : isHeaderText value = false)
  /-- It is not that of the bytes of the body. -/
  | unverified {value : String} (header : r.signature? = some value)
      (verified : Signature.verify secret r.body value = false)

/-- A notification that is sent to the office. -/
structure Notifies (r : HttpRequest) : Prop where
  path : Route.ofPath? r.path = some .notification
  method : r.method = "POST"
  size : r.body.length ≤ bodyLimit

end HttpRequest

variable {setup : Setup} {r : HttpRequest}

theorem unsigned_iff :
    r.Unsigned setup.secret ↔ ¬ isGenuine setup r.body (r.header? signatureHeader) := by
  have hheader : r.header? signatureHeader = r.signature?.filter HttpRequest.isHeaderText := rfl
  rw [hheader]
  constructor
  · rintro (hsent | ⟨hsent, htext⟩ | ⟨hsent, hverified⟩)
    · simp [hsent, isGenuine]
    · simp [hsent, htext, isGenuine]
    · simp only [hsent, Option.filter]
      split <;> simp [isGenuine, hverified]
  · intro hforged
    cases hsent : r.signature? with
    | none => exact .absent hsent
    | some value =>
      by_cases htext : HttpRequest.isHeaderText value
      · refine .unverified hsent (eq_false_of_ne_true fun hverified => hforged ?_)
        simp [hsent, htext, isGenuine, hverified]
      · exact .unreadable hsent (eq_false_of_ne_true htext)

/-! ### Answers to notifications -/

/-- The answer to a notification without a good signature. -/
def unauthorized : Response := .ofProblem (.unauthorized "invalid webhook signature")

/-- The answer to any other. -/
def acknowledged : Response := .ofJson 200 (.object [("status", .string "ok")])

theorem handle_notification (hr : r.Notifies) : handle setup r =
    (Service.onNotification setup r.body (r.header? signatureHeader)).run.bind fun result =>
      .pure (acknowledge result) := by
  have hpost : Method.ofName? r.method = some .post := by
    rw [hr.method]
    rfl
  have hbody : r.limitedBody = .ok r.body := if_pos hr.size
  rw [handle_of_route hr.path hpost rfl nofun, serve, hbody]
  rfl

theorem handle_unsigned (hr : r.Notifies) (hunsigned : r.Unsigned setup.secret) :
    handle setup r = (count (.webhooks .rejected)).bind fun _ => .pure unauthorized := by
  rw [handle_notification hr, Service.onNotification,
    Service.reconcile_forged (unsigned_iff.1 hunsigned)]
  rfl

theorem handle_signed (hr : r.Notifies) (hsigned : ¬ r.Unsigned setup.secret) :
    (handle setup r).Gives (fun _ => True) (· = acknowledged) := by
  have hgenuine : isGenuine setup r.body (r.header? signatureHeader) :=
    Decidable.of_not_not fun h => hsigned (unsigned_iff.2 h)
  have hresult := Service.onNotification_gives setup r.body (r.header? signatureHeader)
  rw [handle_notification hr]
  apply Gives.bind hresult
  rintro (e | outcome) hx
  · cases e with
    | invalidSignature => exact absurd rfl (hx hgenuine)
    | _ => rfl
  · rfl

/-- How a notification is answered, whatever the store holds and whatever the others do. -/
structure Acknowledged (setup : Setup) (r : HttpRequest) : Prop where
  /-- Nobody is asked for anything; the refusal is counted. -/
  refused : r.Unsigned setup.secret → ∀ w s, (handle setup r).alone w s [] =
    ⟨some unauthorized, s, [⟨.count (.webhooks .rejected), ()⟩]⟩
  /-- The calls of the store may fail as well. -/
  accepted : ¬ r.Unsigned setup.secret →
    (handle setup r).Gives (fun _ => True) (· = acknowledged)
  unauthorized_iff (w : Surroundings) (s : Store) :
    (∃ response, ((handle setup r).alone w s []).result = some response ∧
      response.status = 401) ↔ r.Unsigned setup.secret
  acknowledged_iff (w : Surroundings) (s : Store) :
    ((handle setup r).alone w s []).result = some acknowledged ↔ ¬ r.Unsigned setup.secret
  /-- The answer tells nothing of the store, nor of the processor. -/
  alike (w w' : Surroundings) (s s' : Store) :
    ((handle setup r).alone w s []).result = ((handle setup r).alone w' s' []).result

theorem notification_acknowledged (setup : Setup) (hr : r.Notifies) : Acknowledged setup r := by
  have hrefused : r.Unsigned setup.secret → ∀ w s, (handle setup r).alone w s [] =
      ⟨some unauthorized, s, [⟨.count (.webhooks .rejected), ()⟩]⟩ := by
    intro hunsigned w s
    rw [handle_unsigned hr hunsigned]
    rfl
  have haccepted : ¬ r.Unsigned setup.secret →
      ∀ w s, ((handle setup r).alone w s []).result = some acknowledged := by
    intro hsigned w s
    obtain ⟨_, s', h', hrun, rfl, -⟩ := (handle_signed hr hsigned).alone w s []
    rw [hrun]
  have hne : unauthorized.status ≠ acknowledged.status := by decide
  constructor
  case refused => exact hrefused
  case accepted => exact handle_signed hr
  case unauthorized_iff =>
    intro w s
    by_cases hunsigned : r.Unsigned setup.secret
    · rw [hrefused hunsigned]
      exact ⟨fun _ => hunsigned, fun _ => ⟨unauthorized, rfl, rfl⟩⟩
    · rw [haccepted hunsigned]
      constructor
      · rintro ⟨_, ⟨⟩, hstatus⟩
        exact absurd hstatus.symm hne
      · exact fun h => absurd h hunsigned
  case acknowledged_iff =>
    intro w s
    constructor
    · intro hresult hunsigned
      rw [hrefused hunsigned] at hresult
      exact hne (congrArg Response.status (Option.some.inj hresult))
    · exact fun hsigned => haccepted hsigned w s
  case alike =>
    intro w w' s s'
    by_cases hunsigned : r.Unsigned setup.secret
    · rw [hrefused hunsigned, hrefused hunsigned]
    · rw [haccepted hunsigned, haccepted hunsigned]

/-- A body that is no event is acknowledged if it is signed, and refused if it is not. -/
theorem notification_acknowledged_malformed :
    let body := Text.encodeUtf8 "no event"
    let r : HttpRequest := ⟨"POST", "/webhooks/payment",
      [("X-Lightning-Signature", Signature.sign Office.sampleSetup.secret body)], body⟩
    let r' : HttpRequest := { r with headers := [] }
    (r.Notifies ∧ ¬ r.Unsigned Office.sampleSetup.secret ∧
        Acknowledged Office.sampleSetup r) ∧
      r'.Notifies ∧ r'.Unsigned Office.sampleSetup.secret ∧
        Acknowledged Office.sampleSetup r' := by
  intro body r r'
  have hr : r.Notifies := ⟨by decide +kernel, rfl, by decide⟩
  have hr' : r'.Notifies := ⟨by decide +kernel, rfl, by decide⟩
  have hgenuine : isGenuine Office.sampleSetup body (r.header? signatureHeader) := by
    decide +kernel
  exact ⟨⟨hr, fun h => unsigned_iff.1 h hgenuine, notification_acknowledged _ hr⟩,
    hr', .absent rfl, notification_acknowledged _ hr'⟩

end Api

end BoxOffice
