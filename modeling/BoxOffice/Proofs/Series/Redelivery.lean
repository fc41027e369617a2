import BoxOffice.Proofs.Alone.Settling
import BoxOffice.Proofs.Office.Changes
import BoxOffice.Proofs.Office.Invoices
import BoxOffice.Proofs.Series.Basic

/-! A notification that is delivered again, after one that settled a payment. Whatever was served in
between, the payment is still paid and has the invoice that it was settled for, and no other payment
has that invoice, so it is found in any order of rows. -/

namespace BoxOffice

open Program

/-- What was fetched from the processor before is fetched from it again. -/
structure Surroundings.Recalls (w : Surroundings) (h : List Turn) : Prop where
  settlement {entity : String} {x : SettlementEntity} : ⟨.fetchSettlement entity, .ok x⟩ ∈ h →
    ∀ later, w later (.fetchSettlement entity) = .ok x
  invoice {id : String} {x : ProcessorInvoice} : ⟨.fetchInvoice id, .ok x⟩ ∈ h →
    ∀ later, w later (.fetchInvoice id) = .ok x

theorem Surroundings.Recalls.resolve_eq {w : Surroundings} {h : List Turn} (hw : w.Recalls h)
    {entity encoded : String} (hr : Resolved entity encoded h) :
    w.resolve entity = .ok encoded := by
  obtain ⟨settlement, hm, hshows⟩ := hr
  simp only [resolve, hw.settlement hm]
  cases settlement with
  | incoming id invoiceId =>
    obtain ⟨x, hx, rfl, hnonempty⟩ := hshows
    simp only [invoiceOf, hw.invoice hx, if_neg hnonempty]
  | outgoing id request =>
    have hencoded : request.bind (·.encoded?) = some encoded := hshows
    simp only [invoiceOf, hencoded]

/-- Whether the answer would be given again, if it is something fetched from the processor. -/
def Turn.isRecalled (outside : (r : Request) → r.Answer) : Turn → Bool
  | ⟨.fetchSettlement entity, .ok x⟩ =>
    match outside (.fetchSettlement entity) with
    | .ok y => y = x
    | .error _ => false
  | ⟨.fetchInvoice id, .ok x⟩ =>
    match outside (.fetchInvoice id) with
    | .ok y => y = x
    | .error _ => false
  | _ => true

theorem Surroundings.recalls_of_all {outside : (r : Request) → r.Answer} {h : List Turn}
    (hh : h.all (·.isRecalled outside)) : Surroundings.Recalls (fun _ => outside) h := by
  constructor
  case settlement =>
    intro entity x hm _
    have ht := List.all_eq_true.1 hh _ hm
    simp only [Turn.isRecalled] at ht
    split at ht
    · next y hy => rw [hy, of_decide_eq_true ht]
    · cases ht
  case invoice =>
    intro id x hm _
    have ht := List.all_eq_true.1 hh _ hm
    simp only [Turn.isRecalled] at ht
    split at ht
    · next y hy => rw [hy, of_decide_eq_true ht]
    · cases ht

/-- A payment that was settled is found again, paid, as long as invoices tell payments. -/
theorem Lawful.verdict_paid {later log : List Entry} (h : Lawful (later ++ log))
    (hunique : (storeAfter (later ++ log)).InvoiceUnique) {p : Payment}
    (hp : (storeAfter log).payments.find? p.id = some p) (hpaid : p.status = .paid) {s : Store}
    (hs : (storeAfter (later ++ log)).SameRows s) :
    s.verdict p.invoice = .alreadySettled p.ticketId := by
  obtain ⟨callback, hq⟩ := h.paid_stays hp hpaid
  rw [hs.payments.find?] at hq
  have hfound := (hs.invoiceUnique hunique).paymentByInvoice_eq hq
  dsimp only at hfound
  simp only [Store.verdict, hfound, Payment.verdict, hpaid]

section Delivery

variable {setup : Setup} {body : Bytes} {signature : Option String} {k : TicketId}
  {w : Surroundings} {log : List Entry} {s : Store}

/-- A notification that settled has left a paid payment with the invoice that was fetched. -/
theorem Job.settled_shows (hlog : (storeAfter log).Coherent) (hs : (storeAfter log).SameRows s)
    (hsettled : ((Job.notification body signature).served setup w s).result =
      some (.ok (.settled k))) : ∃ entity p, Announces setup body signature entity ∧
    Resolved entity p.invoice
      (((Job.notification body signature).logged setup w s log).map (·.turn)) ∧
    (storeAfter ((Job.notification body signature).logged setup w s log)).payments.find? p.id =
      some p ∧ p.status = .paid ∧ p.ticketId = k := by
  have hcoherent := hs.coherent hlog
  obtain ⟨x, s', h', hrun, hx⟩ := Service.onNotification_alone hcoherent setup w body signature
  have hserved : (Job.notification body signature).served setup w s = ⟨some x, s', h'⟩ := hrun
  rw [hserved] at hsettled
  cases hsettled
  obtain ⟨entity, p, t, now, hannounced, -, hresolved, -, rfl, -, -, -, rfl⟩ :=
    hx.settled hcoherent
  refine ⟨entity, { p with status := .paid, paidAt := some now }, hannounced, ?_, ?_, rfl, rfl⟩
  · refine hresolved.mono fun t ht => ?_
    rw [logged, List.map_append, map_turn_entries, hserved]
    exact List.mem_append_left _ ht
  · rw [(Job.sameRows_logged hs setup w _).payments.find?, hserved]
    exact Table.find?_set_self ..

/-- What a notification of a paid payment comes to. -/
theorem Job.notification_paid (hs : s.Coherent) {entity encoded : String}
    (hannounced : Announces setup body signature entity) (hresolve : w.resolve entity = .ok encoded)
    (hverdict : s.verdict encoded = .alreadySettled k) :
    ∃ h, (Job.notification body signature).served setup w s =
      ⟨some (.ok (.alreadySettled k)), s, h⟩ ∧ Untold h := by
  obtain ⟨x, s', h', hrun, hx⟩ := Service.onNotification_alone hs setup w body signature
  obtain rfl : x = .ok (.alreadySettled k) := by
    rw [hx.answer, answerTo_announced hannounced, hresolve, Except.map, hverdict]
  obtain ⟨rfl, huntold⟩ := hx.handling.kept nofun
  exact ⟨h', hrun, huntold⟩

end Delivery

/-- The ticket that a notification reports as settled. -/
def Ran.settled? (r : Ran (Except ReconcileError ReconcileOutcome)) : Option TicketId :=
  match r.result with
  | some (.ok (.settled k)) => some k
  | _ => none

theorem Ran.result_of_settled {r : Ran (Except ReconcileError ReconcileOutcome)} {k : TicketId}
    (h : r.settled? = some k) : r.result = some (.ok (.settled k)) := by
  unfold settled? at h
  split at h
  · next hr =>
    cases h
    exact hr
  · cases h

/-- Once a notification has settled a payment, it finds it settled whenever it comes again. -/
theorem Series.redelivered {setup : Setup} {body : Bytes} {signature : Option String}
    {k : TicketId} {w w' : Surroundings} {before after : List Entry} {s s' : Store}
    (hbefore : Series setup [] before) (hs : (storeAfter before).SameRows s)
    (hsettled : ((Job.notification body signature).served setup w s).result =
      some (.ok (.settled k)))
    (hafter : Series setup ((Job.notification body signature).logged setup w s before) after)
    (hs' : (storeAfter after).SameRows s')
    (hnames : (namesOf after).Nodup) (hissued : (after.filterMap Entry.issued?).Nodup)
    (hrecalls : w'.Recalls (after.map (·.turn))) :
    ∃ h, (Job.notification body signature).served setup w' s' =
      ⟨some (.ok (.alreadySettled k)), s', h⟩ ∧ Untold h := by
  have hlawful :=
    ((hbefore.serve w hs (.notification body signature) nofun).trans hafter).lawful hnames
  obtain ⟨later, rfl⟩ := hafter.append
  have hstart : Lawful before := hlawful.suffix.suffix
  obtain ⟨entity, p, hannounced, hresolved, hp, hpaid, rfl⟩ :=
    Job.settled_shows hstart.coherent hs hsettled
  have hresolve : w'.resolve entity = .ok p.invoice :=
    hrecalls.resolve_eq (hresolved.mono fun t ht => by
      rw [List.map_append]
      exact List.mem_append_right _ ht)
  exact Job.notification_paid (hs'.coherent hlawful.coherent) hannounced hresolve
    (hlawful.verdict_paid (hlawful.invoiceUnique hissued) hp hpaid hs')

/-- A sale is settled, a sweep passes, a retry is refused, and the notification comes again. -/
theorem redelivered_afterRetry :
    let w : Surroundings := fun _ => Office.Outside.answer { invoice := "a" }
    let body := Text.encodeUtf8 "[\"PAYMENT_FINISHED\",\"e\"]"
    let notification := Job.notification body (some (Signature.sign [] body))
    let before := loggedAll Office.sampleSetup w []
      [.putEvent Office.sampleEvent, .purchase Office.sampleEvent.id default (some "$a@b")]
    let after := loggedAll Office.sampleSetup w
      (notification.logged Office.sampleSetup w (storeAfter before) before)
      [.sweep, .retry ⟨⟨0⟩⟩]
    ∃ h, notification.served Office.sampleSetup w (storeAfter after) =
      ⟨some (.ok (.alreadySettled ⟨⟨0⟩⟩)), storeAfter after, h⟩ ∧ Untold h := by
  intro w body notification before after
  have hbefore : Series Office.sampleSetup [] before := Series.nil.serveAll w (by simp)
  have hafter : Series Office.sampleSetup _ after := Series.nil.serveAll w (by simp)
  obtain ⟨hsettled, hnames, hissued, hrecalls⟩ :
      Ran.settled? (notification.served Office.sampleSetup w (storeAfter before)) =
          some ⟨⟨0⟩⟩ ∧
        (namesOf after).Nodup ∧ (after.filterMap Entry.issued?).Nodup ∧
        (after.map (·.turn)).all (·.isRecalled (w [])) := by
    decide +kernel
  exact hbefore.redelivered (.refl _) (Ran.result_of_settled hsettled) hafter (.refl _) hnames
    hissued (Surroundings.recalls_of_all hrecalls)

end BoxOffice
