import BoxOffice.Proofs.Office.Changes

/-! The callback of a payment, as the turns tell it. A payment comes in without one, a recording puts
one in, a fresh invoice takes it out again, and nothing else touches it. -/

namespace BoxOffice

open Store

/-- What a call with this reply leaves as the callback of the payment, if it sets one or takes it
out. -/
def Store.Call.callback? (id : PaymentId) :
    (c : Call) → Except StoreError c.Reply → Option (Option String)
  | .createPurchase n id', .ok _ => if id' = id ∧ n.invoice.isSome then some none else none
  | .reissue id' _, .ok _ => if id' = id then some none else none
  | .recordCallback id' url, .ok _ => if id' = id then some (some url) else none
  | _, _ => none

def Turn.callback? (id : PaymentId) : Turn → Option (Option String)
  | ⟨.store c, x⟩ => c.callback? id x
  | _ => none

/-- The callback that was recorded last for the payment, since it was created or got its last
invoice. The latest turn comes first. -/
def recordedCallback (id : PaymentId) : List Turn → Option String
  | [] => none
  | t :: h => (t.callback? id).getD (recordedCallback id h)

namespace Store

variable {s s' : Store} {c : Call} {x : Except StoreError c.Reply} {id : PaymentId}

def callback? (s : Store) (id : PaymentId) : Option String :=
  (s.payments.find? id).bind (·.counterpartyCallback)

theorem callback?_eq {p : Payment} (hp : s.payments.find? id = some p) :
    s.callback? id = p.counterpartyCallback := by
  rw [callback?, hp]
  rfl

theorem SameRows.callback? (h : s.SameRows s') (id : PaymentId) :
    s.callback? id = s'.callback? id := by
  rw [Store.callback?, Store.callback?, h.payments.find?]

theorem Call.callback?_kept (hx : c.writes x = false) : c.callback? id x = none := by
  cases c with
  | createPurchase | reissue | recordCallback =>
    cases x with
    | error => rfl
    | ok => cases hx
  | _ => rfl

theorem callback?_update {p : Payment} {t : Ticket} {i : Invoice} :
    (s.update p t i).callback? id =
      if p.id = id then p.counterpartyCallback else s.callback? id := by
  rw [callback?, find?_payments_update]
  split <;> rfl

theorem Outcome.callback (h : Outcome s c x s') (id : PaymentId) :
    s'.callback? id = (c.callback? id x).getD (s.callback? id) := by
  cases h with
  | kept hx => rw [Call.callback?_kept hx, Option.getD_none]
  | eventPut => rfl
  | credentialPut => rfl
  | @created n id' =>
    show _ = Option.getD (if id' = id ∧ n.invoice.isSome then some none else none) _
    rw [callback?, find?_payments_adding]
    by_cases hid : id' = id ∧ n.invoice.isSome
    · obtain ⟨i, hi⟩ := Option.isSome_iff_exists.1 hid.2
      rw [if_pos hid, if_pos hid, NewPurchase.payment, hi]
      rfl
    · rw [if_neg hid, if_neg hid]
      rfl
  | @applied k tr p t i hp =>
    show _ = s.callback? id
    rw [callback?_update]
    by_cases hid : p.id = id
    · rw [← hid, callback?_eq hp]
      exact if_pos rfl
    · exact if_neg hid
  | @reissued p t e i =>
    show _ = Option.getD (if p.id = id then some none else none) _
    rw [callback?_update]
    by_cases hid : p.id = id <;> simp [renewed, hid]
  | @recorded p t i url =>
    show _ = Option.getD (if p.id = id then some (some url) else none) _
    rw [callback?_update]
    by_cases hid : p.id = id <;> simp [hid]

end Store

/-- The store has the callback that the turns tell. -/
theorem Lawful.callback {log : List Entry} (h : Lawful log) (id : PaymentId) :
    (storeAfter log).callback? id = recordedCallback id (log.map (·.turn)) := by
  induction h with
  | nil => rfl
  | @cons e log h he ih =>
    rw [List.map_cons, recordedCallback, storeAfter, ← ih, he.before.callback?]
    rcases e.call_or_kept with ⟨c, x, ht⟩ | ⟨hafter, hnot⟩
    · rw [ht]
      exact (h.outcome he ht).callback id
    · have hnone : e.turn.callback? id = none := by
        unfold Turn.callback?
        split
        · next hturn => exact absurd hturn (hnot _ _)
        · rfl
      rw [hafter, hnone, Option.getD_none]

/-! ### Invoices -/

theorem Entry.callback?_of_reopened {e : Entry} {id : PaymentId} {i : Invoice}
    (h : e.change? id = some (.reopened i)) : e.turn.callback? id = some none := by
  rcases of_change? h with ⟨_, _, hclosed, -⟩ | ⟨i, p, -, ht⟩
  · cases hclosed
  · rw [ht]
    exact if_pos rfl

/-- A payment whose callback is left alone gets no fresh invoice. -/
theorem Lawful.unrenewed {mid start : List Entry} (h : Lawful (mid ++ start)) {id : PaymentId}
    (hmid : ∀ e ∈ mid, e.turn.callback? id = none) {q : Payment}
    (hq : (storeAfter start).payments.find? id = some q) :
    ∃ p, (storeAfter (mid ++ start)).payments.find? id = some p ∧ p.ticketId = q.ticketId ∧
      p.invoice = q.invoice ∧ p.amount = q.amount := by
  induction mid with
  | nil => exact ⟨q, hq, rfl, rfl, rfl⟩
  | cons e mid ih =>
    obtain ⟨hnone, hmid⟩ := List.forall_mem_cons.1 hmid
    cases h with
    | cons h he =>
      obtain ⟨p, hp, hsame⟩ := ih h hmid
      obtain ⟨p', hp', hstep⟩ := h.step he hp
      refine ⟨p', hp', ?_⟩
      generalize hchange : e.change? id = change at hstep
      cases hstep with
      | kept => exact hsame
      | closed => exact hsame
      | reopened => cases hnone.symm.trans (Entry.callback?_of_reopened hchange)

end BoxOffice
