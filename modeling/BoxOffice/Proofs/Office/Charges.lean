import BoxOffice.Client.Processor
import BoxOffice.Proofs.Office.Invoices
import BoxOffice.Proofs.Office.Notices
import BoxOffice.Proofs.Service.Charging
import BoxOffice.Rehearsal.Processor

/-! What is charged for a ticket, whatever else is asked of the office. A payment keeps its amount,
and its invoice was issued for that amount; whoever is told of its settlement is told of that
amount. It is written in millisatoshis, and one that is too large is written as the largest there
is. -/

namespace BoxOffice

open Store Program

/-! ### Rules -/

/-- Each turn was allowed after those before it. -/
def Heeded (rule : Rule) : List Turn → Prop
  | [] => True
  | t :: h => rule h t.request ∧ Heeded rule h

theorem Heeded.suffix {rule : Rule} {later h : List Turn} (hh : Heeded rule (later ++ h)) :
    Heeded rule h := by
  induction later with
  | nil => exact hh
  | cons _ later ih => exact ih hh.2

theorem turnsOf_append (i : Nat) (later log : List Entry) :
    turnsOf i (later ++ log) = turnsOf i later ++ turnsOf i log := by
  simp [turnsOf]

/-- Each entry is what the rule allows after the earlier turns of its task. -/
def Rules (rule : Rule) : List Entry → Prop
  | [] => True
  | e :: log => rule (turnsOf e.task log) e.turn.request ∧ Rules rule log

theorem Rules.suffix {rule : Rule} {later log : List Entry} (hr : Rules rule (later ++ log)) :
    Rules rule log := by
  induction later with
  | nil => exact hr
  | cons _ later ih => exact ih hr.2

theorem rules_of_heeded {rule : Rule} {log : List Entry}
    (hh : ∀ i, Heeded rule (turnsOf i log)) : Rules rule log := by
  suffices H : ∀ later earlier, log = later ++ earlier → Rules rule earlier from H [] log rfl
  intro later earlier
  induction earlier generalizing later with
  | nil => exact fun _ => trivial
  | cons e earlier ih =>
    intro hlog
    have he := hh e.task
    rw [hlog, turnsOf_append, turnsOf_cons_self] at he
    refine ⟨he.suffix.1, ih (later ++ [e]) ?_⟩
    rw [hlog, List.append_assoc, List.singleton_append]

/-- What every job conforms to rules the log of every run. -/
theorem Office.rules_run {rule : Rule} {setup : Setup}
    (hjob : ∀ job : Job, Conforms rule (fun _ _ => True) (job.program setup) [])
    (moves : List Office.Move) : Rules rule (Office.run setup moves).log := by
  have htracks : (Office.run setup moves).Tracks fun _ p h =>
      Conforms rule (fun _ _ => True) p h ∧ Heeded rule h :=
    Office.tracks_run (fun job => ⟨hjob job, trivial⟩)
      (fun hp hx => ⟨hp.1.2 _ hx, hp.1.1, hp.2⟩) moves
  refine rules_of_heeded fun i => ?_
  by_cases hi : i < (Office.run setup moves).tasks.length
  · exact (htracks i _ (List.getElem?_eq_getElem hi)).2
  · have hnil : turnsOf i (Office.run setup moves).log = [] :=
      turnsOf_eq_nil fun e he hei => hi (hei ▸ (Office.sound_run setup moves).task_lt he)
    rw [hnil]
    trivial

/-! ### What a payment is charged -/

/-- The turns of all tasks, latest first. -/
def turnsIn (log : List Entry) : List Turn := log.map (·.turn)

theorem mem_turnsIn_of_turnsOf {i : Nat} {log : List Entry} {t : Turn} (ht : t ∈ turnsOf i log) :
    t ∈ turnsIn log := by
  obtain ⟨e, he, -, rfl⟩ := mem_turnsOf.1 ht
  exact List.mem_map_of_mem he

/-- An invoice that a call puts into a payment was charged before. -/
theorem charged_of_invoice? {h : List Turn} {c : Call} {i : Invoice}
    (hrule : Charges h (.store c)) (hi : c.invoice? = some i) :
    Charged i.amount i.encoded h := by
  cases c with
  | createPurchase n id => exact hrule i hi
  | reissue id j =>
    cases hi
    exact hrule.1
  | _ => cases hi

namespace Lawful

variable {log : List Entry} {id : PaymentId} {p : Payment}

/-- What a call that only reads has replied was true of an earlier store. -/
theorem read_before (h : Lawful log) {i : Nat} {c : Call} {x : Except StoreError c.Reply}
    (hread : .call c x ∈ turnsOf i log) : ∃ later earlier s, log = later ++ earlier ∧
      (storeAfter earlier).SameRows s ∧ (s.perform c).1 = x := by
  obtain ⟨e, he, -, ht⟩ := mem_turnsOf.1 hread
  obtain ⟨later, earlier, hlog, -, hl⟩ := h.of_mem he
  refine ⟨later ++ [e], earlier, e.before, ?_, hl.before, (hl.reply ht).symm⟩
  rw [hlog, List.append_assoc, List.singleton_append]

/-- The processor was asked for the amount of a payment when it issued its invoice. -/
theorem charged (h : Lawful log) (hr : Rules Charges log)
    (hp : (storeAfter log).payments.find? id = some p) :
    Charged p.amount p.invoice (turnsIn log) := by
  refine h.billed (P := fun log encoded amount => Rules Charges log →
    Charged amount encoded (turnsIn log)) ?_ ?_ hp hr
  · exact fun hearlier hr => (hearlier hr.2).mono fun _ => .tail _
  · rintro e log - c x i ht hi ⟨hrule, -⟩
    rw [ht] at hrule
    have hcharged := charged_of_invoice? hrule hi
    exact hcharged.mono fun _ ht => .tail _ (mem_turnsIn_of_turnsOf ht)

/-- A payment keeps its amount. A fresh invoice is for the amount that was read, and the payment has
had no other since. -/
theorem amount_kept (h : Lawful log) (hr : Rules Charges log) {later earlier : List Entry}
    (hlog : log = later ++ earlier) (hp : (storeAfter earlier).payments.find? id = some p) :
    ∃ q, (storeAfter log).payments.find? id = some q ∧ q.amount = p.amount := by
  induction h generalizing later earlier p with
  | nil =>
    obtain ⟨-, rfl⟩ := List.append_eq_nil_iff.1 hlog.symm
    exact ⟨p, hp, rfl⟩
  | @cons e log h he ih =>
    obtain ⟨hrule, hr⟩ := hr
    cases later with
    | nil =>
      subst hlog
      exact ⟨p, hp, rfl⟩
    | cons _ later =>
      obtain ⟨rfl, hrest⟩ := List.cons.inj hlog
      obtain ⟨q, hq, hamount⟩ := ih hr hrest hp
      obtain ⟨q', hq', hstep⟩ := h.step he hq
      refine ⟨q', hq', ?_⟩
      generalize hchange : e.change? id = change at hstep
      cases hstep with
      | kept => exact hamount
      | closed => exact hamount
      | @reopened i =>
        rcases Entry.of_change? hchange with ⟨_, _, hclosed, -⟩ | ⟨_, _, hreopened, ht⟩
        · cases hclosed
        · cases hreopened
          rw [ht] at hrule
          obtain ⟨-, p₀, hread, hprice⟩ := hrule
          obtain ⟨later₀, earlier₀, s₀, hlog₀, hsame, hreply⟩ := h.read_before hread
          have hfound := (hsame.payments.find? id).trans (Except.ok.inj hreply)
          obtain ⟨q₀, hq₀, hamount₀⟩ := ih hr hlog₀ hfound
          cases hq.symm.trans hq₀
          exact hprice.trans (hamount₀.symm.trans hamount)

end Lawful

/-! ### Millisatoshis -/

/-- The number of millisatoshis that the amount is written as. -/
def Sats.written (a : Sats) : Nat := min (1000 * a.count.toNat) (UInt64.size - 1)

theorem Sats.toNat_millisats_eq (a : Sats) : a.millisats.toNat = a.written := by
  rw [Sats.toNat_millisats, Sats.written, Nat.mul_comm]

/-- The member of the body with the name. -/
def Client.Outgoing.member? (o : Client.Outgoing) (name : String) : Option Json :=
  match o.body with
  | some (.object members) => members.lookup name
  | _ => none

theorem Client.Processor.createInvoiceRequest_asks (base token : String) (spec : InvoiceSpec) :
    (createInvoiceRequest base token spec).member? "amount_msats" =
      some (.ofNat spec.amount.written) := by
  rw [← Sats.toNat_millisats_eq]
  rfl

theorem Rehearsal.Processor.createInvoice_records {m m' : Rehearsal.Processor} {spec : InvoiceSpec}
    {x : ProcessorInvoice} (hm : m.createInvoice spec = (.ok x, m')) :
    m'.invoices.find? x.id = some x ∧ x.amountMsats.toNat = spec.amount.written := by
  unfold createInvoice at hm
  split at hm
  · cases hm
  · cases hm
    exact ⟨Table.find?_set_self .., spec.amount.toNat_millisats_eq⟩

theorem Request.notice?_eq_some {r : Request} {url : String} {n : SettlementNotice} :
    r.notice? = some (url, n) ↔ r = .notify url n := by
  cases r <;> simp [notice?]

theorem mem_told {h : List Turn} {url : String} {n : SettlementNotice} :
    (url, n) ∈ told h ↔ ∃ t ∈ h, t.request = .notify url n := by
  simp [told, Request.notice?_eq_some]

namespace Office

/-- What is written of amounts, by the end of a run. -/
structure Accounts (o : Office) : Prop where
  /-- The invoice of a payment was issued for the amount that both are stored with. -/
  payment {id : PaymentId} {p : Payment} : o.store.payments.find? id = some p →
    Charged p.amount p.invoice (turnsIn o.log) ∧
      ∃ i, o.store.invoices.find? p.ticketId = some i ∧ i.encoded = p.invoice ∧ i.amount = p.amount
  /-- Whoever is told of a settlement is told of the amount of the payment that was looked up, which
  it still has. -/
  notice {e : Entry} {url : String} {n : SettlementNotice} : e ∈ o.log →
    e.turn.request = .notify url n →
    ∃ encoded p q, .call (.paymentByInvoice encoded) (.ok (some p)) ∈ turnsOf e.task o.log ∧
      n.invoice = p.invoice ∧ n.amountMsats.toNat = p.amount.written ∧
      Charged p.amount p.invoice (turnsIn o.log) ∧
      o.store.payments.find? p.id = some q ∧ q.amount = p.amount

theorem accounts_run (setup : Setup) (moves : List Move) : (run setup moves).Accounts := by
  have hsound := sound_run setup moves
  have hrules := rules_run (Job.charges setup) moves
  generalize run setup moves = o at hsound hrules
  constructor
  case payment =>
    intro id p hp
    obtain ⟨t, i, -, hi, hagree⟩ := hsound.coherent.records hp
    rw [← hsound.store.payments.find?] at hp
    exact ⟨hsound.lawful.charged hrules hp, i, hi, hagree.encoded, hagree.amount⟩
  case notice =>
    intro e url n he hr
    obtain ⟨later, earlier, hlog, hlawful, -⟩ := hsound.lawful.of_mem he
    rw [hlog] at hrules
    obtain ⟨hrule, hrules'⟩ := hrules.suffix
    rw [hr] at hrule
    obtain ⟨encoded, p, hread, hinvoice, hamount⟩ := hrule
    -- the payment is in the store that it was looked up in
    obtain ⟨between, before, s, hearlier, hsame, hreply⟩ := hlawful.read_before hread
    subst hearlier
    obtain ⟨⟨id, hp⟩, -⟩ := find?_of_paymentByInvoice (Except.ok.inj hreply)
    rw [← hsame.payments.find?] at hp
    cases hlawful.suffix.coherent.payment_key hp
    have hcharged := hlawful.suffix.charged hrules'.suffix hp
    have hall : o.log = (later ++ e :: between) ++ before := by
      rw [hlog, List.append_assoc, List.cons_append]
    obtain ⟨q, hq, hqp⟩ := hsound.lawful.amount_kept (hlog ▸ hrules) hall hp
    refine ⟨encoded, p, q, ?_, hinvoice, by rw [hamount, Sats.toNat_millisats_eq], ?_,
      (hsound.store.payments.find? p.id).symm.trans hq, hqp⟩
    · rw [hlog, turnsOf_append, turnsOf_cons_self]
      exact List.mem_append_right _ (.tail _ hread)
    · rw [hall]
      exact hcharged.mono fun t ht => by
        rw [turnsIn, List.map_append]
        exact List.mem_append_right _ ht

/-- An amount is stored with the payment and the invoice, asked for and told of, as one number. Over
the wire to the processor, in a rehearsal, and in a notice it is written as a thousand times that
number, or the largest there is if that is more, and no amount but zero is refused for that. -/
theorem amounts_written :
    (∀ setup moves, (run setup moves).Accounts) ∧
    (∀ base token spec, (Client.Processor.createInvoiceRequest base token spec).member?
      "amount_msats" = some (.ofNat spec.amount.written)) ∧
    (∀ (m m' : Rehearsal.Processor) spec x, m.createInvoice spec = (.ok x, m') →
      m'.invoices.find? x.id = some x ∧ x.amountMsats.toNat = spec.amount.written) ∧
    ∀ setup k buyer amount description h, Conforms (fun _ _ => True) (fun h' x =>
      ∀ error, x = .error error → (∃ e, Address.parse buyer = .error e) ∨ amount.isZero ∨
        ∃ e, ⟨.createInvoice ⟨amount, description, setup.invoiceExpirySecs⟩, .error e⟩ ∈ h' ∧
          error = .processor e) (Service.issue setup k buyer amount description).run h :=
  ⟨accounts_run, Client.Processor.createInvoiceRequest_asks,
    fun _ _ _ _ => Rehearsal.Processor.createInvoice_records, Service.issue_refuses⟩

theorem amounts_written_sampleTimely :
    let o := run sampleSetup sampleTimely
    (∃ p, o.store.payments.find? ⟨⟨0⟩⟩ = some p ∧ Charged p.amount p.invoice (turnsIn o.log)) ∧
    (∃ (n : SettlementNotice) (p q : Payment), ("u", n) ∈ told (turnsIn o.log) ∧
      n.amountMsats.toNat = p.amount.written ∧ o.store.payments.find? p.id = some q ∧
      q.amount = p.amount) ∧
    ∃ x m, Rehearsal.Processor.fresh.createInvoice ⟨⟨5⟩, "", 600⟩ = (.ok x, m) ∧
      x.amountMsats.toNat = 5000 := by
  have hpayment : ((run sampleSetup sampleTimely).store.payments.find? ⟨⟨0⟩⟩).isSome := by
    decide +kernel
  have htold : (told (turnsIn (run sampleSetup sampleTimely).log)).map (·.1) = ["u"] := by
    decide +kernel
  obtain ⟨haccounts, -, hrecords, -⟩ := amounts_written
  have haccounts := haccounts sampleSetup sampleTimely
  have hfive : (⟨5⟩ : Sats).written = 5000 := by decide
  refine ⟨?_, ?_, _, _, rfl, (hrecords .fresh _ ⟨⟨5⟩, "", 600⟩ _ rfl).2.trans hfive⟩
  · obtain ⟨p, hp⟩ := Option.isSome_iff_exists.1 hpayment
    exact ⟨p, hp, (haccounts.payment hp).1⟩
  · obtain ⟨⟨_, n⟩, hn, rfl⟩ := List.mem_map.1 (htold ▸ List.mem_singleton_self "u")
    obtain ⟨_, ht, hrequest⟩ := mem_told.1 hn
    obtain ⟨e, he, rfl⟩ := List.mem_map.1 ht
    obtain ⟨_, p, q, -, -, hamount, -, hq, hkept⟩ := haccounts.notice he hrequest
    exact ⟨n, p, q, hn, hamount, hq, hkept⟩

/-- The least amount that does not fit. -/
def dearest : Sats := ⟨18446744073709552⟩

/-- A place for that amount is sold, and the counterparty is told of the settlement. -/
def sampleDear : List Move :=
  .begin (.putEvent { sampleEvent with price := dearest }) :: sampleTimely.tail

/-- The payment is stored, the invoice is stored and asked for, and the settlement is told of for
that amount, but what is written is less than a thousand times as much. -/
theorem amounts_written_dear :
    let o := run sampleSetup sampleDear
    (o.store.payments.values.map (fun p => (p.amount, p.invoice, p.status)) =
        [(dearest, "a", .paid)] ∧
      o.store.invoices.values.map (fun i => (i.amount, i.encoded)) = [(dearest, "a")] ∧
      (charged (turnsIn o.log)).map (fun c => (c.1.amount, c.2.encoded)) = [(dearest, "a")] ∧
      (told (turnsIn o.log)).map (fun t => (t.2.invoice, t.2.amountMsats)) =
        [("a", 18446744073709551615)]) ∧
      (∀ base token memo secs, (Client.Processor.createInvoiceRequest base token
        ⟨dearest, memo, secs⟩).member? "amount_msats" = some (.ofNat 18446744073709551615)) ∧
      (Rehearsal.Processor.fresh.createInvoice ⟨dearest, "", 0⟩).1.toOption.map (·.amountMsats) =
        some 18446744073709551615 ∧
      18446744073709551615 < 1000 * dearest.count.toNat := by
  have hwritten : dearest.written = 18446744073709551615 := by decide +kernel
  refine ⟨by decide +kernel, fun base token memo secs => ?_, by decide +kernel, by decide +kernel⟩
  rw [Client.Processor.createInvoiceRequest_asks, hwritten]

end Office

end BoxOffice
