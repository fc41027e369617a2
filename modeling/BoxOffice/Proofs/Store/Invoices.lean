import BoxOffice.Proofs.Store.Reachable

/-! Whether an invoice tells the payment. A ticket is not created with an invoice that a payment
has, but nothing is compared when a payment gets a fresh one, so two payments may come to have one
invoice. They do not while each reissue brings an invoice that no other payment has. -/

namespace BoxOffice.Store

variable {s s' : Store}

/-- No two payments have one encoded invoice. -/
def InvoiceUnique (s : Store) : Prop :=
  ∀ ⦃i j : PaymentId⦄ ⦃p q : Payment⦄, s.payments.find? i = some p →
    s.payments.find? j = some q → p.invoice = q.invoice → i = j

/-- A payment other than the one under the name has the encoded invoice. -/
def HeldBeside (s : Store) (id : PaymentId) (encoded : String) : Prop :=
  ∃ j q, id ≠ j ∧ s.payments.find? j = some q ∧ q.invoice = encoded

/-- The call does not put an invoice into a payment that another one has. -/
def Call.Spares (s : Store) : Call → Prop
  | .reissue id i => ¬ s.HeldBeside id i.encoded
  | _ => True

theorem not_heldBeside {id : PaymentId} {encoded : String}
    (h : encoded ∉ s.payments.values.map (·.invoice)) : ¬ s.HeldBeside id encoded := by
  rintro ⟨j, q, -, hq, rfl⟩
  exact h (List.mem_map.2 ⟨q, Table.mem_values.2 ⟨j, hq⟩, rfl⟩)

theorem InvoiceUnique.paymentByInvoice_eq (hu : s.InvoiceUnique) {id : PaymentId} {p : Payment}
    (hp : s.payments.find? id = some p) : s.paymentByInvoice p.invoice = some p := by
  have hsome : (s.paymentByInvoice p.invoice).isSome := by
    rw [paymentByInvoice, List.find?_isSome]
    exact ⟨p, Table.mem_values.2 ⟨id, hp⟩, by simp⟩
  obtain ⟨q, hq⟩ := Option.isSome_iff_exists.1 hsome
  obtain ⟨⟨j, hj⟩, hinvoice⟩ := find?_of_paymentByInvoice hq
  cases hu hj hp hinvoice
  rw [hq, ← hj, hp]

theorem SameRows.invoiceUnique (h : s.SameRows s') (hu : s.InvoiceUnique) : s'.InvoiceUnique := by
  intro i j p q hp hq
  rw [← h.payments.find?] at hp hq
  exact hu hp hq

theorem paymentByInvoice_eq_none {encoded : String}
    (h : ∀ id p, s.payments.find? id = some p → p.invoice ≠ encoded) :
    s.paymentByInvoice encoded = none := by
  cases hfound : s.paymentByInvoice encoded with
  | none => rfl
  | some p =>
    obtain ⟨⟨id, hp⟩, hinvoice⟩ := find?_of_paymentByInvoice hfound
    exact absurd hinvoice (h id p hp)

/-! ### One call -/

theorem InvoiceUnique.set (hu : s.InvoiceUnique) {id : PaymentId} {p : Payment}
    (hp : ¬ s.HeldBeside id p.invoice) (hs' : s'.payments = s.payments.set id p) :
    s'.InvoiceUnique := by
  intro i j q r hq hr
  rw [hs'] at hq hr
  exact Table.unique_set (fun hq hr => hu hq hr)
    (fun hne hq he => hp ⟨_, _, hne, hq, he.symm⟩) hq hr

/-- A payment that is changed and keeps its invoice shares it with no other. -/
theorem InvoiceUnique.set_same (hu : s.InvoiceUnique) {p q : Payment}
    (hp : s.payments.find? p.id = some p) (hinvoice : q.invoice = p.invoice)
    (hs' : s'.payments = s.payments.set p.id q) : s'.InvoiceUnique := by
  refine hu.set ?_ hs'
  rintro ⟨j, r, hne, hr, he⟩
  exact hne (hu hp hr (hinvoice.symm.trans he.symm))

theorem Outcome.invoiceUnique {c : Call} {x : Except StoreError c.Reply} (h : Outcome s c x s')
    (hu : s.InvoiceUnique) (hspares : c.Spares s) : s'.InvoiceUnique := by
  cases h with
  | kept => exact hu
  | eventPut => exact hu
  | credentialPut => exact hu
  | @created n id _ _ _ _ hfresh =>
    cases hi : n.invoice with
    | none =>
      simp only [InvoiceUnique, adding, NewPurchase.payment, hi, Option.map_none]
      exact hu
    | some i =>
      refine hu.set ?_ (by simp only [adding, NewPurchase.payment, hi, Option.map_some]; rfl)
      rintro ⟨j, q, -, hq, he⟩
      exact hfresh i hi q (Table.mem_values.2 ⟨j, hq⟩) he
  | @applied _ tr p _ _ hp => exact hu.set_same (q := moved p tr) hp rfl rfl
  | @reissued p _ _ i => exact hu.set (p := renewed p i) hspares rfl
  | @recorded p _ _ url hp =>
    exact hu.set_same (q := { p with counterpartyCallback := some url }) hp rfl rfl

/-- The invoice that the call is to put into a payment. -/
def Call.invoice? : Call → Option Invoice
  | .createPurchase n _ => n.invoice
  | .reissue _ i => some i
  | _ => none

/-- What is true of the invoice and the amount of each payment, and of the invoice that a call is to
put into one, stays true of each payment. -/
theorem Outcome.billed {c : Call} {x : Except StoreError c.Reply} (h : Outcome s c x s')
    {P : String → Sats → Prop} (hs : ∀ {id p}, s.payments.find? id = some p → P p.invoice p.amount)
    (hc : ∀ i, c.invoice? = some i → P i.encoded i.amount) {id : PaymentId} {p : Payment}
    (hp : s'.payments.find? id = some p) : P p.invoice p.amount := by
  have hset : ∀ {k : PaymentId} {q : Payment}, P q.invoice q.amount →
      (s.payments.set k q).find? id = some p → P p.invoice p.amount := fun hq hp =>
    Table.forall_set (P := fun _ p => P p.invoice p.amount) hq (fun _ => hs) hp
  cases h with
  | kept => exact hs hp
  | eventPut => exact hs hp
  | credentialPut => exact hs hp
  | @created n id' =>
    cases hi : n.invoice with
    | none =>
      simp only [adding, NewPurchase.payment, hi, Option.map_none] at hp
      exact hs hp
    | some i =>
      simp only [adding, NewPurchase.payment, hi, Option.map_some] at hp
      exact hset (hc i hi) hp
  | @applied _ tr q _ _ hq =>
    have hold : P q.invoice q.amount := hs hq
    exact hset (q := moved q tr) hold hp
  | @reissued q _ _ i => exact hset (q := renewed q i) (hc i rfl) hp
  | @recorded q _ _ url hq =>
    have hold : P q.invoice q.amount := hs hq
    exact hset (q := { q with counterpartyCallback := some url }) hold hp

/-- A ticket is not created with an invoice that a payment has. -/
theorem createPurchase_held {n : NewPurchase} {i : Invoice} (hi : n.invoice = some i)
    {j : PaymentId} {q : Payment} (hq : s.payments.find? j = some q)
    (hinvoice : q.invoice = i.encoded) (id : PaymentId) :
    ∃ e, s.perform (.createPurchase n id) = (.error e, s) ∧
      ∀ event, s.openEvent n.eventId = .ok event → ∃ detail, e = .conflict detail := by
  have hheld : n.invoice.any fun i => s.payments.values.any (·.invoice = i.encoded) := by
    simp only [hi, Option.any_some, List.any_eq_true, decide_eq_true_eq]
    exact ⟨q, Table.mem_values.2 ⟨j, hq⟩, hinvoice⟩
  obtain ⟨e, he, hconflict⟩ : ∃ e, s.createPurchase n id = .error e ∧
      ∀ event, s.openEvent n.eventId = .ok event → ∃ detail, e = .conflict detail := by
    unfold createPurchase
    cases s.openEvent n.eventId with
    | error e => exact ⟨e, rfl, nofun⟩
    | ok event =>
      simp only [bind, Except.bind, hheld, if_true]
      split
      · exact ⟨_, rfl, fun _ _ => ⟨_, rfl⟩⟩
      · exact ⟨_, rfl, fun _ _ => ⟨_, rfl⟩⟩
  exact ⟨e, by simp only [perform, he, changed], hconflict⟩

/-! ### Many calls -/

/-- As `Reachable`, where each reissue brings an invoice that no other payment has. -/
inductive CarefullyReachable : Store → Prop
  | empty : CarefullyReachable .empty
  | call {s : Store} (h : CarefullyReachable s) (c : Call) (fresh : c.Fresh s)
      (spares : c.Spares s) : CarefullyReachable (s.perform c).2
  | reordered {s s' : Store} (h : CarefullyReachable s) (same : s.SameRows s') :
      CarefullyReachable s'

theorem CarefullyReachable.reachable (h : CarefullyReachable s) : s.Reachable := by
  induction h with
  | empty => exact .empty
  | call _ c fresh _ ih => exact ih.call c fresh
  | reordered _ same ih => exact ih.reordered same

theorem invoiceUnique_empty : InvoiceUnique .empty := by
  simp [InvoiceUnique, empty]

theorem CarefullyReachable.unique (h : CarefullyReachable s) : s.InvoiceUnique := by
  induction h with
  | empty => exact invoiceUnique_empty
  | call h c _ hspares ih => exact (perform_outcome h.reachable.coherent c).invoiceUnique ih hspares
  | reordered _ same ih => exact same.invoiceUnique ih

/-- An invoice tells the payment, and is not taken for another ticket. -/
structure InvoiceTells (s : Store) : Prop where
  unique : s.InvoiceUnique
  refused {n : NewPurchase} {i : Invoice} {j : PaymentId} {q : Payment} : n.invoice = some i →
    s.payments.find? j = some q → q.invoice = i.encoded → ∀ id, ∃ e,
      s.perform (.createPurchase n id) = (.error e, s) ∧
      ∀ event, s.openEvent n.eventId = .ok event → ∃ detail, e = .conflict detail

theorem CarefullyReachable.invoice_tells (h : CarefullyReachable s) : s.InvoiceTells :=
  ⟨h.unique, fun hi hq hinvoice => createPurchase_held hi hq hinvoice⟩

/-! ### Two sales to look at -/

def saleEvent : Event := ⟨⟨⟨1⟩⟩, "", default, default, 2, ⟨5⟩, true⟩

def saleInvoice (encoded : String) : Invoice :=
  ⟨"", ⟨⟨0⟩⟩, "", encoded, ⟨5⟩, default, "", ""⟩

/-- The sale of a ticket that has the name of its payment. -/
def saleCall (name : Uuid) (encoded : String) : Call :=
  .createPurchase ⟨⟨name⟩, saleEvent.id, default, ⟨encoded⟩, none, some (saleInvoice encoded),
    default⟩ ⟨name⟩

/-- Two tickets are sold, and the payment of the second fails. -/
def twoSales : Store :=
  let s := (empty.perform (.putEvent saleEvent)).2
  let s := (s.perform (saleCall ⟨2⟩ "a")).2
  let s := (s.perform (saleCall ⟨3⟩ "b")).2
  (s.perform (.applyTransition ⟨⟨3⟩⟩ ⟨.pending, .failed, default⟩)).2

theorem twoSales_reachable : twoSales.CarefullyReachable := by
  have put := CarefullyReachable.empty.call (.putEvent saleEvent) trivial trivial
  have first := put.call (saleCall ⟨2⟩ "a") ⟨rfl, fun _ => rfl⟩ trivial
  have second := first.call (saleCall ⟨3⟩ "b") ⟨rfl, fun _ => rfl⟩ trivial
  exact second.call _ trivial trivial

/-- The second payment gets the invoice of the first, which is not refused. -/
theorem invoice_shared : ∃ (s : Store) (id : PaymentId) (i : Invoice), s.Reachable ∧
    s.HeldBeside id i.encoded ∧ (∃ p, (s.perform (.reissue id i)).1 = .ok p) ∧
    ¬ (s.perform (.reissue id i)).2.InvoiceUnique := by
  refine ⟨twoSales, ⟨⟨3⟩⟩, saleInvoice "a", twoSales_reachable.reachable, ?_, ⟨_, rfl⟩, ?_⟩
  · exact ⟨⟨⟨2⟩⟩, _, by decide, rfl, rfl⟩
  · intro hu
    exact absurd (hu (i := ⟨⟨2⟩⟩) (j := ⟨⟨3⟩⟩) rfl rfl rfl) (by decide)

/-- The second payment gets an invoice of its own. -/
theorem invoice_tells_freshInvoice : ∃ s : Store,
    (s.payments.values.map fun p => (p.status, p.invoice)) = [(.pending, "a"), (.pending, "c")] ∧
      s.InvoiceTells := by
  have again := twoSales_reachable.call (.reissue ⟨⟨3⟩⟩ (saleInvoice "c")) trivial
    (not_heldBeside (by decide +kernel))
  exact ⟨_, by decide +kernel, again.invoice_tells⟩

end BoxOffice.Store
