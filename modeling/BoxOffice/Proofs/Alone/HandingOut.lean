import BoxOffice.Proofs.Office.Basic
import BoxOffice.Proofs.Program.Idle
import BoxOffice.Proofs.Store.Expiry
import BoxOffice.Proofs.Store.History
import BoxOffice.Service.Responding

/-! Handing out the invoice of a ticket, when nobody else takes a turn. Whether there is one to hand
out does not depend on the request: the payment is pending, and a sweep at that time would not
close it. What is handed out is the invoice that was issued last. The request decides on the quote
that goes with it, and on the callback that the payment remembers. -/

namespace BoxOffice

open Program Protocol Json

/-! ### What a request asks for -/

/-- A letter of the Latin alphabet folds to its small form. -/
theorem toLower_eq_iff {c lower upper : Char} (hupper : 'A' ≤ upper ∧ upper ≤ 'Z')
    (hlower : lower.val = upper.val + 32) : c.toLower = lower ↔ c = upper ∨ c = lower := by
  have hA : 'A'.val.toNat = 65 := rfl
  have hZ : 'Z'.val.toNat = 90 := rfl
  have hgap : ('a'.val - 'A'.val).toNat = 32 := rfl
  have hnumeral : (32 : UInt32).toNat = 32 := rfl
  simp only [Char.le_def, ← UInt32.toNat_inj, UInt32.le_iff_toNat_le, UInt32.toNat_add]
    at hupper hlower
  unfold Char.toLower
  split
  · next h =>
    simp only [ge_iff_le, UInt32.le_iff_toNat_le] at h
    simp only [Char.ext_iff, ← UInt32.toNat_inj, UInt32.toNat_add]
    omega
  · next h =>
    simp only [ge_iff_le, UInt32.le_iff_toNat_le] at h
    simp only [Char.ext_iff, ← UInt32.toNat_inj]
    omega

namespace Protocol

/-- The currency is SAT, each letter in either case. -/
def FullRequest.AsksSats (r : FullRequest) : Prop :=
  ∃ s a t, r.currencyCode.toList = [s, a, t] ∧ (s = 'S' ∨ s = 's') ∧ (a = 'A' ∨ a = 'a') ∧
    (t = 'T' ∨ t = 't')

theorem FullRequest.asksSats_iff (r : FullRequest) :
    r.AsksSats ↔ Service.sameLetters r.currencyCode "SAT" := by
  have hsat : Text.lowerAscii "SAT".toList = ['s', 'a', 't'] := rfl
  have hs : ∀ {c : Char}, c.toLower = 's' ↔ c = 'S' ∨ c = 's' :=
    toLower_eq_iff (by decide) (by decide)
  have ha : ∀ {c : Char}, c.toLower = 'a' ↔ c = 'A' ∨ c = 'a' :=
    toLower_eq_iff (by decide) (by decide)
  have ht : ∀ {c : Char}, c.toLower = 't' ↔ c = 'T' ∨ c = 't' :=
    toLower_eq_iff (by decide) (by decide)
  rw [Service.sameLetters, beq_iff_eq, hsat, Text.lowerAscii]
  constructor
  · rintro ⟨c₁, c₂, c₃, hcode, h₁, h₂, h₃⟩
    rw [hcode, List.map_cons, List.map_cons, List.map_singleton, hs.2 h₁, ha.2 h₂, ht.2 h₃]
  · intro h
    obtain ⟨c₁, _, hcode, h₁, h⟩ := List.map_eq_cons_iff.1 h
    obtain ⟨c₂, _, rfl, h₂, h⟩ := List.map_eq_cons_iff.1 h
    obtain ⟨c₃, _, rfl, h₃, h⟩ := List.map_eq_cons_iff.1 h
    cases List.map_eq_nil_iff.1 h
    exact ⟨c₁, c₂, c₃, hcode, hs.1 h₁, ha.1 h₂, ht.1 h₃⟩

/-- The request has a text at compliance.utxoCallback, and it is not empty. -/
def PayRequest.Carries (body : PayRequest) (url : String) : Prop :=
  url ≠ "" ∧ ∃ r members compliance, body = .full r ∧ r.payerData = .object members ∧
    member? members "compliance" = some (.object compliance) ∧
    member? compliance "utxoCallback" = some (.string url)

theorem FullRequest.callback?_eq_some {r : FullRequest} {url : String} :
    r.callback? = some url ↔ PayRequest.Carries (.full r) url := by
  unfold callback? PayRequest.Carries
  cases hpayer : r.payerData with
  | object members =>
    cases hcompliance : member? members "compliance" with
    | none => simp [hpayer, hcompliance]
    | some compliance =>
      cases compliance with
      | object inner =>
        cases hfound : member? inner "utxoCallback" with
        | none => simp [hpayer, hcompliance, hfound]
        | some found =>
          cases found with
          | string text => simp +contextual [hpayer, hcompliance, hfound]
          | _ => simp [hpayer, hcompliance, hfound]
      | _ => simp [hpayer, hcompliance]
  | _ => simp [hpayer]

/-- Of two sides, one speaks a single version. -/
theorem negotiate_singleton (ours : List UInt32) (v : UInt32) :
    negotiate ours [v] = if v ∈ ours then some v else none := by
  have hspoken : ∀ u ∈ ours.filter [v].contains, u = v := by
    intro u hu
    simpa using (List.mem_filter.1 hu).2
  have hkept : ∀ (f : Option UInt32 → UInt32 → Option UInt32), f (some v) v = some v →
      ∀ us : List UInt32, (∀ u ∈ us, u = v) → us.foldl f (some v) = some v := by
    intro f hf us hus
    induction us with
    | nil => rfl
    | cons u rest ih =>
      obtain ⟨rfl, hrest⟩ := List.forall_mem_cons.1 hus
      rw [List.foldl_cons, hf]
      exact ih hrest
  unfold negotiate
  cases hours : ours.filter [v].contains with
  | nil =>
    have hnot : v ∉ ours := by simpa using List.filter_eq_nil_iff.1 hours v
    rw [if_neg hnot, List.foldl_nil]
  | cons u rest =>
    have hmem : u ∈ ours := (List.mem_filter.1 (hours ▸ List.mem_cons_self)).1
    rw [hours] at hspoken
    obtain ⟨rfl, hrest⟩ := List.forall_mem_cons.1 hspoken
    rw [if_pos hmem, List.foldl_cons]
    exact hkept _ (by simp) rest hrest

end Protocol

/-- The payment remembers where the payer's side asks to be told of the settlement. -/
def Store.remembering (s : Store) (p : Payment) (url : String) : Store :=
  { s with payments := s.payments.set p.id { p with counterpartyCallback := some url } }

theorem Store.perform_recordCallback {s : Store} {p : Payment}
    (hp : s.payments.find? p.id = some p) (url : String) :
    s.perform (.recordCallback p.id url) = (.ok (), s.remembering p url) := by
  simp only [perform, recordCallback, hp, Except.map, changed, remembering]

namespace Service

variable {setup : Setup} {w : Surroundings} {s : Store} {h : List Turn} {now : Time.Instant}
  {k : TicketId} {p : Payment} {body : PayRequest} {cs : List Store.Call}

/-! ### Quotes -/

/-- The version is one of ours, and it is asked for, or is our first when none is asked for. -/
def AnsweredIn (setup : Setup) (r : FullRequest) (v : UInt32) : Prop :=
  v ∈ setup.versions ∧ r.version.or setup.versions.head? = some v

/-- The quote of a payment, in satoshis. -/
def satEnvelope (setup : Setup) (p : Payment) (v : UInt32) : Envelope where
  converted := {
    amount := p.amount.count
    currencyCode := "SAT"
    decimals := 0
    multiplier := msatsPerSat
    fee := 0 }
  payeeData := .object [("identifier", .string setup.receiver.toString)]
  version := v
  disposable := false

theorem answeredIn_iff {r : FullRequest} {v : UInt32} : AnsweredIn setup r v ↔
    v ∈ setup.versions ∧ r.version.getD (setup.versions.head?.getD 1) = v := by
  refine and_congr_right fun hv => ?_
  cases hversions : setup.versions with
  | nil =>
    rw [hversions] at hv
    cases hv
  | cons u rest => cases r.version <;> simp

/-- A quote is given in satoshis only, and in a version that is ours. -/
theorem envelope_eq_ok {r : FullRequest} {e : Envelope} : envelope setup r p = .ok e ↔
    r.AsksSats ∧ ∃ v, AnsweredIn setup r v ∧ e = satEnvelope setup p v := by
  simp only [r.asksSats_iff, answeredIn_iff, and_assoc]
  unfold envelope
  dsimp only
  rw [negotiate_singleton]
  generalize r.version.getD (setup.versions.head?.getD 1) = requested
  cases sameLetters r.currencyCode "SAT" with
  | false => simp
  | true =>
    by_cases hours : requested ∈ setup.versions
    · simp only [hours, if_true, Bool.not_true, Bool.false_eq_true, if_false, Except.ok.injEq,
        true_and]
      constructor
      · rintro rfl
        exact ⟨requested, hours, rfl, rfl⟩
      · rintro ⟨_, _, rfl, rfl⟩
        rfl
    · simp only [hours, if_false, Bool.not_true, Bool.false_eq_true, reduceCtorEq, true_and,
        false_iff]
      rintro ⟨_, hv, rfl, _⟩
      exact hours hv

/-- The response hands out an invoice, with the quote of a payment if the request asks for one that
can be given. -/
structure Quotes (setup : Setup) (body : PayRequest) (p : Payment) (i : Invoice)
    (response : PayResponse) : Prop where
  invoice : response.invoice = i.encoded
  routes : response.routes = []
  envelope {e : Envelope} : response.envelope = some e ↔ ∃ r v, body = .full r ∧ r.AsksSats ∧
    AnsweredIn setup r v ∧ e = satEnvelope setup p v

theorem bare_quotes {query : AmountQuery} {i : Invoice} :
    Quotes setup (.amount query) p i (.bare i.encoded) := by
  refine ⟨rfl, rfl, fun {e} => ?_⟩
  constructor
  · intro he
    cases he
  · rintro ⟨_, _, hbody, -⟩
    cases hbody

theorem quoted_quotes {r : FullRequest} {i : Invoice} :
    Quotes setup (.full r) p i (quoted setup r p i.encoded) := by
  have henvelope : ∀ e, (quoted setup r p i.encoded).envelope = some e ↔
      envelope setup r p = .ok e := by
    intro e
    unfold quoted
    cases envelope setup r p <;> simp [PayResponse.bare]
  have hinvoice : (quoted setup r p i.encoded).invoice = i.encoded ∧
      (quoted setup r p i.encoded).routes = [] := by
    unfold quoted
    split <;> exact ⟨rfl, rfl⟩
  refine ⟨hinvoice.1, hinvoice.2, fun {e} => ?_⟩
  rw [henvelope, envelope_eq_ok]
  constructor
  · rintro ⟨hsats, v, hv, he⟩
    exact ⟨r, v, rfl, hsats, hv, he⟩
  · rintro ⟨_, v, ⟨⟩, hsats, hv, he⟩
    exact ⟨hsats, v, hv, he⟩

/-! ### What is handed out -/

theorem responderStore_alone {c : Store.Call} {reply : c.Reply} {s' : Store}
    (hc : s.perform c = (.ok reply, s')) :
    (responderStore c).run.alone w s h = ⟨some (.ok reply), s', .call c (.ok reply) :: h⟩ :=
  alone_within (alone_store hc) _

/-- The invoice of a payment, if it can still be paid. -/
theorem currentInvoice_alone {i : Invoice} (hi : s.invoices.find? p.ticketId = some i)
    (hclock : ∀ h, w h .now = now) (h : List Turn) :
    Keeps w (fun x _ => x = if i.expiresAt ≤ now then .error (.ofReason "invoice expired")
        else .ok i.encoded)
      (currentInvoice p).run s h := by
  have hread : s.perform (.invoiceForTicket p.ticketId) = (.ok (some i), s) := by
    rw [← hi]
    rfl
  unfold currentInvoice
  refine Ends.keeps (.ok (responderStore_alone hread) (.ok (alone_lift rfl) ?_))
  have hnow : ∀ h, Request.answer w s h .now = now := hclock
  simp only [hnow, Invoice.isExpired, decide_eq_true_eq]
  split
  · exact ⟨_, _, _, rfl, rfl, rfl⟩
  · exact ⟨_, _, _, rfl, rfl, rfl⟩

/-- The response with an invoice that is known; a callback is recorded before. -/
def respond (setup : Setup) (p : Payment) (encoded : String) :
    PayRequest → ExceptT ErrorEnvelope Program PayResponse
  | .amount _ => return .bare encoded
  | .full request => do
    if let some url := request.callback? then
      let _ ← Program.request (.store (.recordCallback p.id url))
    return quoted setup request p encoded

theorem payRequest_eq (setup : Setup) (k : TicketId) (body : PayRequest) :
    payRequest setup k body = (do
      let payment ← Program.orThrow (.ofReason ("no payment for ticket " ++ k.toString))
        (← responderStore (.paymentForTicket k))
      if payment.status ≠ .pending then
        throw (.ofReason ("payment for ticket " ++ k.toString ++ " is " ++ payment.status.name))
      respond setup payment (← currentInvoice payment) body) := by
  cases body <;> rfl

theorem respond_alone (hp : s.payments.find? p.id = some p) (setup : Setup) (body : PayRequest)
    (i : Invoice) (w : Surroundings) (h : List Turn) :
    Ends w (fun x s' _ => ∃ response, x = .ok response ∧ Quotes setup body p i response ∧
        (∀ url, body.Carries url → s' = s.remembering p url) ∧
        ((∀ url, ¬ body.Carries url) → s' = s))
      (respond setup p i.encoded body).run s h := by
  cases body with
  | amount query =>
    refine ⟨_, _, _, rfl, _, rfl, bare_quotes, ?_, fun _ => rfl⟩
    rintro url ⟨_, _, _, _, hbody, -⟩
    cases hbody
  | full r =>
    unfold respond
    dsimp only
    split
    · next url hurl =>
      have hrecorded : (s.perform (.recordCallback p.id url)).2 = s.remembering p url := by
        rw [Store.perform_recordCallback hp]
      refine ⟨.ok (quoted setup r p i.encoded), (s.perform (.recordCallback p.id url)).2, _, rfl,
        _, rfl, quoted_quotes, ?_, ?_⟩
      · intro url' hcarries
        cases hurl.symm.trans (FullRequest.callback?_eq_some.2 hcarries)
        exact hrecorded
      · exact fun hnone => absurd (FullRequest.callback?_eq_some.1 hurl) (hnone url)
    · next hnone =>
      refine ⟨_, _, _, rfl, _, rfl, quoted_quotes, ?_, fun _ => rfl⟩
      intro url hcarries
      exact absurd (FullRequest.callback?_eq_some.2 hcarries) (hnone url)

/-- What a request for the invoice of a ticket comes to from the store that calls led to: the
answer, and the store after it. -/
structure HandsOut (setup : Setup) (cs : List Store.Call) (k : TicketId) (now : Time.Instant)
    (body : PayRequest) (x : Except ErrorEnvelope PayResponse) (s' : Store) : Prop where
  /-- There is a response if the payment is pending and is not listed as due, and only then. -/
  answered : (∃ response, x = .ok response) ↔ ∃ p, (Store.ofCalls cs).paymentForTicket k = some p ∧
    p.status = .pending ∧ p ∉ (Store.ofCalls cs).expiredPending now
  refused {e : ErrorEnvelope} : x = .error e → s' = Store.ofCalls cs
  /-- The invoice is the one issued last. The payment remembers a callback that is carried, and
  nothing else is changed. -/
  responds {response : PayResponse} : x = .ok response → ∃ p i,
    (Store.ofCalls cs).paymentForTicket k = some p ∧ Store.lastIssued k cs = some i ∧
    p.invoice = i.encoded ∧ Quotes setup body p i response ∧
    (∀ url, body.Carries url → s' = (Store.ofCalls cs).remembering p url) ∧
    ((∀ url, ¬ body.Carries url) → s' = Store.ofCalls cs)

/-- Without a payment that is pending and not due nothing is handed out. -/
theorem HandsOut.of_error {e : ErrorEnvelope}
    (h : ∀ p, (Store.ofCalls cs).paymentForTicket k = some p → p.status = .pending →
      p ∈ (Store.ofCalls cs).expiredPending now) :
    HandsOut setup cs k now body (.error e) (Store.ofCalls cs) := by
  constructor
  case answered =>
    constructor
    · rintro ⟨_, ⟨⟩⟩
    · rintro ⟨p, hp, hpending, hnot⟩
      exact absurd (h p hp hpending) hnot
  case refused => exact fun _ => rfl
  case responds =>
    intro response hx
    cases hx

/-- The invoice of a payment that is pending and not due is handed out. -/
theorem HandsOut.of_response {i : Invoice} {response : PayResponse} {s' : Store}
    (hp : (Store.ofCalls cs).paymentForTicket k = some p) (hpending : p.status = .pending)
    (hnot : p ∉ (Store.ofCalls cs).expiredPending now) (hissued : Store.lastIssued k cs = some i)
    (hencoded : p.invoice = i.encoded) (hquotes : Quotes setup body p i response)
    (hcarried : ∀ url, body.Carries url → s' = (Store.ofCalls cs).remembering p url)
    (hkept : (∀ url, ¬ body.Carries url) → s' = Store.ofCalls cs) :
    HandsOut setup cs k now body (.ok response) s' := by
  constructor
  case answered => exact ⟨fun _ => ⟨p, hp, hpending, hnot⟩, fun _ => ⟨response, rfl⟩⟩
  case refused =>
    intro e he
    cases he
  case responds =>
    rintro _ ⟨⟩
    exact ⟨p, i, hp, hissued, hencoded, hquotes, hcarried, hkept⟩

theorem payRequest_handsOut (hcs : Store.FreshCalls cs) (hclock : ∀ h, w h .now = now)
    (setup : Setup) (k : TicketId) (body : PayRequest) (h : List Turn) :
    Ends w (fun x s' _ => HandsOut setup cs k now body x s')
      (payRequest setup k body).run (Store.ofCalls cs) h := by
  have hs := (Store.reachable_ofCalls hcs).coherent
  have hread : (Store.ofCalls cs).perform (.paymentForTicket k) =
      (.ok ((Store.ofCalls cs).paymentForTicket k), Store.ofCalls cs) := rfl
  rw [payRequest_eq]
  refine .ok (responderStore_alone hread) ?_
  cases hp : (Store.ofCalls cs).paymentForTicket k with
  | none => exact .error rfl (.of_error fun p hp' => nomatch hp.symm.trans hp')
  | some p =>
    refine .ok rfl ?_
    dsimp only
    split
    · next hclosed =>
      refine .error rfl (.of_error fun q hq hpending => ?_)
      cases hp.symm.trans hq
      exact absurd hpending hclosed
    · next hopen =>
      have hpending : p.status = .pending := Decidable.not_not.1 hopen
      obtain ⟨hfind, rfl⟩ := hs.paymentForTicket_iff.1 hp
      obtain ⟨_, i, _, hi, ha⟩ := hs.records hfind
      have hdue : p ∈ (Store.ofCalls cs).expiredPending now ↔ i.expiresAt ≤ now :=
        hs.mem_expiredPending_iff hp hi hpending
      obtain ⟨_, h', hrun, rfl⟩ := currentInvoice_alone hi hclock
        (.call (.paymentForTicket p.ticketId) (.ok (some p)) :: h)
      by_cases hexpired : i.expiresAt ≤ now
      · rw [if_pos hexpired] at hrun
        refine .error hrun (.of_error fun q hq _ => ?_)
        cases hp.symm.trans hq
        exact hdue.2 hexpired
      · rw [if_neg hexpired] at hrun
        refine .ok hrun ((respond_alone hfind setup body i w h').mono ?_)
        rintro _ s' _ - ⟨response, rfl, hquotes, hcarried, hkept⟩
        have hissued := (Store.find?_invoices_ofCalls hcs _).symm.trans hi
        exact .of_response hp hpending (mt hdue.1 hexpired) hissued ha.encoded.symm hquotes
          hcarried hkept

/-- A full request, with a callback and a currency in letters of both cases. -/
def sampleRequest : FullRequest where
  amount := 5000
  currencyCode := "sAt"
  payerData := .object [("compliance", .object [("utxoCallback", .string "u")])]
  version := none

theorem sampleRequest_carries : PayRequest.Carries (.full sampleRequest) "u" :=
  FullRequest.callback?_eq_some.1 rfl

/-- The payment that was opened again is asked for just before its invoice expires. -/
theorem payRequest_handsOut_soldAgain : ∃ (response : PayResponse) (s' : Store),
    Store.FreshCalls Store.soldAgain ∧
    HandsOut Office.sampleSetup Store.soldAgain ⟨⟨3⟩⟩ (.ofSeconds (-1)) (.full sampleRequest)
      (.ok response) s' ∧
    response.invoice = "c" ∧ response.envelope.isSome ∧
    s'.payments.values.map (·.counterpartyCallback) = [none, some "u"] := by
  let w : Surroundings := fun _ => Office.Outside.answer { now := .ofSeconds (-1) }
  obtain ⟨x, s', _, -, hout⟩ := payRequest_handsOut (w := w) Store.soldAgain_fresh (fun _ => rfl)
    Office.sampleSetup ⟨⟨3⟩⟩ (.full sampleRequest) []
  obtain ⟨response, rfl⟩ := hout.answered.2 ⟨_, rfl, rfl, by decide +kernel⟩
  obtain ⟨p, i, hp, hi, -, hquotes, hcarried, -⟩ := hout.responds rfl
  cases hp
  cases hi
  have henvelope := hquotes.envelope.2 ⟨_, 1, rfl, ⟨'s', 'A', 't', rfl, .inr rfl, .inl rfl,
    .inr rfl⟩, ⟨by decide, rfl⟩, rfl⟩
  refine ⟨response, s', Store.soldAgain_fresh, hout, hquotes.invoice, ?_, ?_⟩
  · rw [henvelope, Option.isSome_some]
  · rw [hcarried "u" sampleRequest_carries]
    decide +kernel

end Service

end BoxOffice
