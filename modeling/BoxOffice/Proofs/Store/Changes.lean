import BoxOffice.Proofs.Store.Outcome

/-! What calls make of one payment, when statuses are changed from pending only. The payment stays,
is closed when pending, or is opened again with a fresh invoice when closed without being paid. -/

namespace BoxOffice

inductive Change where
  /-- A change of status from pending. -/
  | closed (transition : Transition)
  | reopened (invoice : Invoice)

namespace Store

/-- What a call with this reply makes of the payment. -/
def Call.change? (s : Store) (id : PaymentId) : (c : Call) → Except StoreError c.Reply → Option Change
  | .applyTransition k tr, .ok true =>
    if tr.source = .pending ∧ (s.paymentForTicket k).any (·.id = id) then some (.closed tr) else none
  | .reissue id' i, .ok _ => if id' = id then some (.reopened i) else none
  | _, _ => none

/-- A call that changes a status changes it from pending to another. -/
def Call.Guarded : Call → Prop
  | .applyTransition _ tr => tr.source = .pending ∧ tr.target ≠ .pending
  | _ => True

/-- How a payment may look after a call, by the change that the call made. -/
inductive Step (p : Payment) : Option Change → Payment → Prop
  | kept (callback : Option String) : Step p none { p with counterpartyCallback := callback }
  | closed {tr : Transition} (source : p.status = .pending) (target : tr.target ≠ .pending) :
      Step p (some (.closed tr)) (moved p tr)
  | reopened {i : Invoice} (retryable : p.status.isRetryable) :
      Step p (some (.reopened i)) (renewed p i)

theorem Step.same (p : Payment) : Step p none p := .kept p.counterpartyCallback

theorem Call.change?_kept {s : Store} {id : PaymentId} {c : Call} {x : Except StoreError c.Reply}
    (hx : c.writes x = false) : c.change? s id x = none := by
  cases c with
  | applyTransition k tr =>
    cases x with
    | error => rfl
    | ok b => cases b <;> first | rfl | cases hx
  | reissue id' i =>
    cases x with
    | error => rfl
    | ok q => cases hx
  | _ => rfl

variable {s s' : Store} {c : Call} {x : Except StoreError c.Reply} {id : PaymentId}

theorem find?_payments_update (s : Store) (p : Payment) (t : Ticket) (i : Invoice) (id : PaymentId) :
    (s.update p t i).payments.find? id = if p.id = id then some p else s.payments.find? id :=
  Table.find?_set ..

theorem find?_payments_adding (s : Store) (n : NewPurchase) (id' id : PaymentId) :
    (s.adding n id').payments.find? id =
      if id' = id ∧ n.invoice.isSome then n.payment id' else s.payments.find? id := by
  cases hi : n.invoice with
  | none => simp [adding, NewPurchase.payment, hi]
  | some i =>
    simp only [adding, NewPurchase.payment, hi, Option.map_some, Table.find?_set, Option.isSome_some,
      and_true]

/-- An update changes its own payment and leaves the others. -/
theorem step_update {p q q' : Payment} {t : Ticket} {i : Invoice} {change : Option Change}
    (hp : s.payments.find? id = some p) (hq : s.payments.find? q.id = some q)
    (hstep : Step q change q') (hid : q'.id = q.id) :
    ∃ p', (s.update q' t i).payments.find? id = some p' ∧
      Step p (if q.id = id then change else none) p' := by
  rw [find?_payments_update, hid]
  by_cases h : q.id = id
  · subst h
    cases hp.symm.trans hq
    rw [if_pos rfl, if_pos rfl]
    exact ⟨q', rfl, hstep⟩
  · rw [if_neg h, if_neg h]
    exact ⟨p, hp, .same p⟩

/-- What becomes of a payment that is stored. -/
theorem Outcome.step (h : Outcome s c x s') (hs : s.Coherent) (hfresh : c.Fresh s)
    (hguard : c.Guarded) {p : Payment} (hp : s.payments.find? id = some p) :
    ∃ p', s'.payments.find? id = some p' ∧ Step p (c.change? s id x) p' := by
  cases h with
  | kept hx =>
    rw [Call.change?_kept hx]
    exact ⟨p, hp, .same p⟩
  | eventPut => exact ⟨p, hp, .same p⟩
  | credentialPut => exact ⟨p, hp, .same p⟩
  | @created n id' =>
    refine ⟨p, ?_, .same p⟩
    have hne : ¬ (id' = id ∧ n.invoice.isSome) := by
      rintro ⟨rfl, hi⟩
      cases hp.symm.trans (hfresh.payment hi)
    rw [find?_payments_adding, if_neg hne, hp]
  | @applied k tr q t i hq hk ht hi ha hst =>
    subst hk
    simp only [Call.change?, hs.paymentForTicket_eq hq, Option.any_some, decide_eq_true_eq, hguard.1,
      true_and]
    exact step_update hp hq (.closed (hst.trans hguard.1) hguard.2) rfl
  | reissued hq hr => exact step_update hp hq (.reopened hr) rfl
  | @recorded q t i url hq =>
    have hstep := step_update (t := t) (i := i) hp hq (.kept (some url)) rfl
    rwa [ite_self] at hstep

/-- A payment that is not stored is not changed, and is pending if it comes in. -/
theorem Outcome.step_none (h : Outcome s c x s') (hs : s.Coherent)
    (hp : s.payments.find? id = none) :
    c.change? s id x = none ∧ ∀ p, s'.payments.find? id = some p → p.status = .pending := by
  have hne : ∀ {q : Payment}, s.payments.find? q.id = some q → q.id ≠ id := by
    rintro q hq rfl
    cases hp.symm.trans hq
  have hstill : ∀ {s₁ : Store}, s₁.payments.find? id = none →
      ∀ p, s₁.payments.find? id = some p → p.status = .pending :=
    fun h₁ p h₂ => by cases h₁.symm.trans h₂
  cases h with
  | kept hx => exact ⟨Call.change?_kept hx, hstill hp⟩
  | eventPut => exact ⟨rfl, hstill hp⟩
  | credentialPut => exact ⟨rfl, hstill hp⟩
  | @created n id' =>
    refine ⟨rfl, fun p hp' => ?_⟩
    rw [find?_payments_adding, hp] at hp'
    split at hp'
    · obtain ⟨i, -, rfl⟩ := Option.map_eq_some_iff.1 hp'
      rfl
    · cases hp'
  | applied hq hk =>
    subst hk
    simp only [Call.change?, hs.paymentForTicket_eq hq, Option.any_some, decide_eq_true_eq, hne hq,
      and_false, if_false, true_and]
    exact hstill ((find?_payments_update ..).trans ((if_neg (hne hq)).trans hp))
  | reissued hq =>
    simp only [Call.change?, if_neg (hne hq), true_and]
    exact hstill ((find?_payments_update ..).trans ((if_neg (hne hq)).trans hp))
  | recorded hq =>
    exact ⟨rfl, hstill ((find?_payments_update ..).trans ((if_neg (hne hq)).trans hp))⟩

end Store

end BoxOffice
