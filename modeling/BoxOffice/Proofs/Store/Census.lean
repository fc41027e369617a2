import BoxOffice.Counter
import BoxOffice.Proofs.Store.Changes
import BoxOffice.Proofs.Store.Rows

/-! The number of payments in each status and of free tickets, and the counters that go with a
change of them. A sale raises one number, an invoice that is put in again raises the number of
pending payments, and a payment that is closed moves from these to those of another status. -/

namespace BoxOffice

/-- The sale of a ticket is counted by whether it is to be paid for. -/
def NewPurchase.kind (n : NewPurchase) : PurchaseKind := if n.invoice.isSome then .priced else .free

/-- Whether a counter tells of a change of the numbers. -/
def Counter.tells : Counter → Bool
  | .payments _ | .purchases .free | .purchases .priced => true
  | _ => false

theorem PaymentStatus.ticketStatus_ne_free (status : PaymentStatus) :
    status.ticketStatus ≠ .free := by
  cases status <;> exact nofun

namespace Store

variable {s s' s'' : Store} {cs cs' : List Counter}

/-- The number of payments in a status. -/
def countStatus (s : Store) (status : PaymentStatus) : Nat :=
  s.payments.values.countP (·.status = status)

/-- The number of tickets that nothing was ever owed for. -/
def countFree (s : Store) : Nat := s.tickets.values.countP (·.status = .free)

/-- The counters tell what became of the numbers from one store to the other. -/
structure Posted (cs : List Counter) (s s' : Store) : Prop where
  pending : s'.countStatus .pending + cs.count (.payments .paid) + cs.count (.payments .failed) +
      cs.count (.payments .expired) =
    s.countStatus .pending + cs.count (.purchases .priced) + cs.count (.payments .pending)
  paid : s'.countStatus .paid = s.countStatus .paid + cs.count (.payments .paid)
  free : s'.countFree = s.countFree + cs.count (.purchases .free)

namespace Posted

theorem of_same (hpayments : s'.payments = s.payments) (htickets : s'.tickets = s.tickets) :
    Posted [] s s' := by
  constructor
  case pending => simp only [countStatus, hpayments, List.count_nil]
  case paid => simp only [countStatus, hpayments, List.count_nil, Nat.add_zero]
  case free => simp only [countFree, htickets, List.count_nil, Nat.add_zero]

theorem refl (s : Store) : Posted [] s s := .of_same rfl rfl

theorem trans (h : Posted cs s s') (h' : Posted cs' s' s'') : Posted (cs' ++ cs) s s'' := by
  obtain ⟨hpending, hpaid, hfree⟩ := h
  obtain ⟨hpending', hpaid', hfree'⟩ := h'
  constructor <;> simp only [List.count_append] <;> omega

/-- The numbers are the same in any order of rows. -/
theorem of_sameRows (h : s.SameRows s') : Posted [] s s' := by
  have hpayments : ∀ status, s.countStatus status = s'.countStatus status :=
    fun _ => h.payments.values.countP_eq _
  have htickets : s.countFree = s'.countFree := h.tickets.values.countP_eq _
  constructor
  case pending => simp only [hpayments, List.count_nil]
  case paid => simp only [hpayments, List.count_nil, Nat.add_zero]
  case free => simp only [htickets, List.count_nil, Nat.add_zero]

/-- What tells of no change may be counted besides. -/
theorem cons {c : Counter} (h : Posted cs s s') (hc : c.tells = false) :
    Posted (c :: cs) s s' := by
  obtain ⟨hpending, hpaid, hfree⟩ := h
  cases c with
  | payments => cases hc
  | purchases kind =>
    cases kind with
    | rejected => constructor <;> simpa
    | _ => cases hc
  | _ => constructor <;> simpa

end Posted

/-! ### Updates -/

/-- A payment that is replaced is counted in place of the one before it. -/
theorem countStatus_update {p p' : Payment} (hp : s.payments.find? p'.id = some p) (t : Ticket)
    (i : Invoice) (status : PaymentStatus) :
    (s.update p' t i).countStatus status + (decide (p.status = status)).toNat =
      s.countStatus status + (decide (p'.status = status)).toNat := by
  have hcount := s.payments.countP_set p'.id p' fun q => decide (q.status = status)
  rwa [hp, Option.any_some] at hcount

/-- A ticket that follows a payment is not free, and does not become free. -/
theorem countFree_update {p' : Payment} {t t' : Ticket}
    (ht : s.tickets.find? p'.ticketId = some t) {status : PaymentStatus}
    (hstatus : t.status = status.ticketStatus) (hstatus' : t'.status = p'.status.ticketStatus)
    (i : Invoice) : (s.update p' t' i).countFree = s.countFree := by
  have hcount := s.tickets.countP_set p'.ticketId t' fun k => decide (k.status = .free)
  rw [ht, Option.any_some, hstatus, hstatus'] at hcount
  simp only [PaymentStatus.ticketStatus_ne_free, decide_false, Bool.toNat_false, Nat.add_zero]
    at hcount
  exact hcount

/-- What is counted when a payment goes from one status to another. -/
inductive Moves : PaymentStatus → List Counter → PaymentStatus → Prop
  | kept (a : PaymentStatus) : Moves a [] a
  | closed {b : PaymentStatus} (target : b ≠ .pending) : Moves .pending [.payments b] b
  | reopened {a : PaymentStatus} (retryable : a.isRetryable) :
      Moves a [.payments .pending] .pending

/-- The numbers follow the counters when a payment is replaced, and its ticket with it. -/
theorem Posted.update {p q : Payment} {t t' : Ticket} (hp : s.payments.find? q.id = some p)
    (ht : s.tickets.find? q.ticketId = some t) (hstatus : t.status = p.status.ticketStatus)
    (hstatus' : t'.status = q.status.ticketStatus) (hmoves : Moves p.status cs q.status)
    (i : Invoice) : Posted cs s (s.update q t' i) := by
  have hpending := countStatus_update hp t' i .pending
  have hpaid := countStatus_update hp t' i .paid
  have hfree := countFree_update ht hstatus hstatus' i
  generalize p.status = a at hmoves hpending hpaid
  generalize q.status = b at hmoves hpending hpaid
  cases hmoves with
  | kept => constructor <;> simp only [List.count_nil] <;> omega
  | closed hclosed =>
    cases b with
    | pending => exact absurd rfl hclosed
    | _ => constructor <;> simp_all
  | reopened hretryable =>
    cases a with
    | failed | expired => constructor <;> simp_all
    | _ => cases hretryable

/-! ### Additions -/

/-- A sale that is to be paid for has a pending payment. -/
theorem countStatus_adding {n : NewPurchase} {id : PaymentId} (hn : s.Unused n id)
    (status : PaymentStatus) : (s.adding n id).countStatus status =
      s.countStatus status + (decide (n.kind = .priced ∧ status = .pending)).toNat := by
  cases hi : n.invoice with
  | none =>
    have hpayments : (s.adding n id).payments = s.payments := by
      simp only [Store.adding, NewPurchase.payment, hi, Option.map_none]
    simp [countStatus, hpayments, NewPurchase.kind, hi]
  | some invoice =>
    obtain ⟨p, hset, hpending⟩ : ∃ p, (s.adding n id).payments = s.payments.set id p ∧
        p.status = .pending := by
      simp only [Store.adding, NewPurchase.payment, hi, Option.map_some]
      exact ⟨_, rfl, rfl⟩
    have hcount := s.payments.countP_set id p fun q => decide (q.status = status)
    rw [hn.payment (by rw [hi]; rfl), Option.any_none, Bool.toNat_false, Nat.add_zero] at hcount
    rw [countStatus, hset, hcount, hpending]
    simp [countStatus, NewPurchase.kind, hi, @eq_comm _ status]

theorem countFree_adding {n : NewPurchase} {id : PaymentId} (hn : s.Unused n id) :
    (s.adding n id).countFree = s.countFree + (decide (n.kind = .free)).toNat := by
  have hcount := s.tickets.countP_set n.ticketId n.ticket fun k => decide (k.status = .free)
  rw [hn.ticket, Option.any_none, Bool.toNat_false, Nat.add_zero] at hcount
  rw [countFree, Store.adding, hcount]
  cases hi : n.invoice <;> simp [countFree, NewPurchase.kind, NewPurchase.ticket, hi]

theorem Posted.adding {n : NewPurchase} {id : PaymentId} (hn : s.Unused n id) :
    Posted [.purchases n.kind] s (s.adding n id) := by
  have hpending := countStatus_adding hn .pending
  have hpaid := countStatus_adding hn .paid
  have hfree := countFree_adding hn
  have hkind : n.kind = .free ∨ n.kind = .priced := by
    unfold NewPurchase.kind
    split
    · exact .inr rfl
    · exact .inl rfl
  rcases hkind with hkind | hkind
  all_goals
    rw [hkind] at hpending hpaid hfree ⊢
    constructor <;> simpa

/-! ### Calls -/

/-- What a call is counted as if it writes. -/
def Call.posts : Call → List Counter
  | .createPurchase n _ => [.purchases n.kind]
  | .applyTransition _ tr => [.payments tr.target]
  | .reissue _ _ => [.payments .pending]
  | _ => []

/-- What a call with a reply is counted as. -/
def Call.entries (c : Call) (x : Except StoreError c.Reply) : List Counter :=
  if c.writes x then c.posts else []

theorem Outcome.posted {c : Call} {x : Except StoreError c.Reply} (h : Outcome s c x s')
    (hs : s.Coherent) (hfresh : c.Fresh s) (hguard : c.Guarded) :
    Posted (c.entries x) s s' := by
  cases h with
  | kept hkept =>
    rw [Call.entries, hkept]
    exact .refl s
  | eventPut => exact .of_same rfl rfl
  | credentialPut => exact .of_same rfl rfl
  | created => exact .adding hfresh
  | @applied k tr p t i hp hk ht hi ha hsource =>
    subst hk
    have hmoves : Moves p.status [.payments tr.target] tr.target := by
      rw [hsource, hguard.1]
      exact .closed hguard.2
    exact .update (q := moved p tr) hp ht ha.status rfl hmoves _
  | @reissued p t e i hp hr ht =>
    obtain ⟨t', _, ht', _, ha⟩ := hs.records hp
    cases ht.symm.trans ht'
    exact .update (q := renewed p i) hp ht ha.status rfl (.reopened hr) _
  | @recorded p t i url hp ht hi ha =>
    exact .update (q := { p with counterpartyCallback := some url }) hp ht ha.status ha.status
      (.kept _) _

end Store

end BoxOffice
