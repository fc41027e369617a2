import BoxOffice.Proofs.Store.Rows

/-! Payments that are due: pending, with an invoice that can no longer be paid. What a store becomes
when some of its payments expire depends on which these are, not on the order in which they come,
nor on the order of the rows. -/

namespace BoxOffice

namespace Table

variable {κ ν : Type}

def keys (t : Table κ ν) : List κ := t.rows.map (·.1)

/-- Change each row by its key. -/
def map (t : Table κ ν) (f : κ → ν → ν) : Table κ ν :=
  ⟨t.rows.map fun r => (r.1, f r.1 r.2), by simpa [Function.comp_def] using t.nodup⟩

theorem keys_map (t : Table κ ν) (f : κ → ν → ν) : (t.map f).keys = t.keys := by
  simp [keys, map, Function.comp_def]

theorem map_id (t : Table κ ν) : t.map (fun _ v => v) = t := by
  simp [map]

variable [DecidableEq κ] {t u : Table κ ν} {k : κ} {v : ν}

theorem find?_map (t : Table κ ν) (f : κ → ν → ν) (k : κ) :
    (t.map f).find? k = (t.find? k).map (f k) := by
  simp only [find?, map]
  induction t.rows with
  | nil => rfl
  | cons r rest ih =>
    obtain ⟨a, b⟩ := r
    by_cases hak : a = k
    · simp [lookupRow, hak]
    · simp [lookupRow, hak, ih]

theorem keys_set (h : t.find? k = some v) (v' : ν) : (t.set k v').keys = t.keys := by
  obtain ⟨rows, nodup⟩ := t
  simp only [find?] at h
  simp only [keys, set]
  clear nodup
  induction rows with
  | nil => cases h
  | cons r rest ih =>
    obtain ⟨a, b⟩ := r
    by_cases hak : a = k
    · simp [setRow, hak]
    · simp only [lookupRow, hak, if_false] at h
      simp [setRow, hak, ih h]

/-- Rows in one order under the same keys are the same. -/
theorem ext_find? (hkeys : t.keys = u.keys) (h : ∀ k, t.find? k = u.find? k) : t = u := by
  obtain ⟨rows, nodup⟩ := t
  obtain ⟨rows', nodup'⟩ := u
  simp only [keys] at hkeys
  simp only [find?] at h
  rw [Table.mk.injEq]
  induction rows generalizing rows' with
  | nil => exact (List.map_eq_nil_iff.1 hkeys.symm).symm
  | cons r rest ih =>
    cases rows' with
    | nil => cases hkeys
    | cons r' rest' =>
      obtain ⟨a, b⟩ := r
      obtain ⟨a', b'⟩ := r'
      obtain ⟨rfl, hrest⟩ := List.cons.inj hkeys
      obtain ⟨hnot, hnodup⟩ := List.nodup_cons.1 nodup
      obtain ⟨hnot', hnodup'⟩ := List.nodup_cons.1 nodup'
      have hb : b = b' := by simpa [lookupRow] using h a
      have hlookup : ∀ k, lookupRow k rest = lookupRow k rest' := by
        intro k
        by_cases hak : a = k
        · subst hak
          have hnone : ∀ {rows : List (κ × ν)}, a ∉ rows.map (·.1) → lookupRow a rows = none :=
            fun ha => Option.eq_none_iff_forall_ne_some.2 fun v hv =>
              ha (List.mem_map.2 ⟨_, mem_of_lookupRow hv, rfl⟩)
          rw [hnone hnot, hnone hnot']
        · simpa [lookupRow, hak] using h k
      rw [hb, ih hnodup rest' hnodup' hrest hlookup]

theorem Keyed.nodup_values {key : ν → κ} (h : t.Keyed key) : t.values.Nodup := by
  have hkeys : t.rows.map (·.1) = t.values.map key := by
    rw [values, List.map_map]
    exact List.map_congr_left fun r hr => (h (find?_eq_some.2 hr)).symm
  have hnodup : (t.values.map key).Nodup := hkeys ▸ t.nodup
  exact List.Pairwise.of_map key (fun _ _ hne heq => hne (congrArg key heq)) hnodup

theorem SameRows.map {f g : κ → ν → ν} (h : t.SameRows u)
    (hfg : ∀ k v, t.find? k = some v → f k v = g k v) : (t.map f).SameRows (u.map g) := by
  have hrows : t.rows.map (fun r => (r.1, f r.1 r.2)) = t.rows.map fun r => (r.1, g r.1 r.2) := by
    refine List.map_congr_left fun r hr => ?_
    rw [hfg r.1 r.2 (find?_eq_some.2 hr)]
  simp only [SameRows, Table.map]
  rw [hrows]
  exact List.Perm.map _ h

end Table

def Payment.expired (p : Payment) : Payment := { p with status := .expired }

def Ticket.expired (t : Ticket) : Ticket := { t with status := .expired }

namespace Store

/-! ### Payments that are due -/

/-- The payment is pending, and its invoice can no longer be paid. -/
def due (s : Store) (now : Time.Instant) (p : Payment) : Bool :=
  p.status = .pending && (s.invoices.find? p.ticketId).any (·.expiresAt ≤ now)

theorem expiredPending_perm (s : Store) (now : Time.Instant) :
    (s.expiredPending now).Perm (s.payments.values.filter (s.due now)) :=
  List.mergeSort_perm _ _

theorem mem_expiredPending {s : Store} {now : Time.Instant} {p : Payment} :
    p ∈ s.expiredPending now ↔ p ∈ s.payments.values ∧ s.due now p :=
  (s.expiredPending_perm now).mem_iff.trans List.mem_filter

theorem due_find?_invoices {s s' : Store} (h : ∀ k, s.invoices.find? k = s'.invoices.find? k)
    (now : Time.Instant) : s.due now = s'.due now := by
  funext p
  rw [due, due, h]

/-! ### Payments that expire -/

/-- Some payments expire, and their tickets with them. -/
def expiring (s : Store) (which : Payment → Bool) : Store :=
  { s with
    payments := s.payments.map fun _ p => if which p then p.expired else p
    tickets := s.tickets.map fun k t =>
      if (s.paymentForTicket k).any which then t.expired else t }

/-- All payments that are due expire. -/
def swept (s : Store) (now : Time.Instant) : Store := s.expiring (s.due now)

variable {s s' : Store} {which which' : Payment → Bool} {now : Time.Instant} {p : Payment}
  {t : Ticket} {k : TicketId}

theorem mem_values_of_paymentForTicket (h : s.paymentForTicket k = some p) :
    p ∈ s.payments.values :=
  List.mem_of_find?_eq_some h

/-- Where the payment of a ticket is kept, or expires in both stores, so is the ticket. -/
theorem any_paymentForTicket (h : ∀ p, s.paymentForTicket k = some p → which p = which' p) :
    (s.paymentForTicket k).any which = (s.paymentForTicket k).any which' := by
  cases hp : s.paymentForTicket k with
  | none => rfl
  | some p => exact h p hp

/-- A pending payment is listed when its invoice can no longer be paid. -/
theorem Coherent.mem_expiredPending_iff (hs : s.Coherent) (hp : s.paymentForTicket k = some p)
    {i : Invoice} (hi : s.invoices.find? k = some i) (hpending : p.status = .pending) :
    p ∈ s.expiredPending now ↔ i.expiresAt ≤ now := by
  obtain ⟨-, rfl⟩ := hs.paymentForTicket_iff.1 hp
  have hstored := mem_values_of_paymentForTicket hp
  simp [mem_expiredPending, hstored, due, hpending, hi]

theorem expiring_congr (h : ∀ p ∈ s.payments.values, which p = which' p) :
    s.expiring which = s.expiring which' := by
  have hpayments : s.payments.map (fun _ p => if which p then p.expired else p) =
      s.payments.map fun _ p => if which' p then p.expired else p := by
    refine Table.ext_find? (by rw [Table.keys_map, Table.keys_map]) fun id => ?_
    rw [Table.find?_map, Table.find?_map]
    refine Option.map_congr fun p hp => ?_
    rw [h p (Table.mem_values.2 ⟨id, hp⟩)]
  have htickets : ∀ k, (s.paymentForTicket k).any which = (s.paymentForTicket k).any which' :=
    fun k => any_paymentForTicket fun p hp => h p (mem_values_of_paymentForTicket hp)
  simp only [expiring, hpayments, htickets]

theorem expiring_none (s : Store) : s.expiring (fun _ => false) = s := by
  have hkept : ∀ o : Option Payment, o.any (fun _ => false) = false := by
    rintro (_ | p) <;> rfl
  simp only [expiring, hkept, Bool.false_eq_true, if_false, Table.map_id]

/-- One payment expires. -/
def expire (s : Store) (p : Payment) (t : Ticket) : Store :=
  { s with
    payments := s.payments.set p.id p.expired
    tickets := s.tickets.set p.ticketId t.expired }

theorem Agree.paidAt_eq_none {i : Invoice} (h : Agree p t i) (hpending : p.status = .pending) :
    p.paidAt = none := by
  rw [← Option.not_isSome_iff_eq_none, h.paid, hpending]
  decide

theorem Coherent.expire (hs : s.Coherent) (hp : s.payments.find? p.id = some p)
    (ht : s.tickets.find? p.ticketId = some t) (hpending : p.status = .pending) :
    (s.expire p t).Coherent := by
  obtain ⟨t', i, ht', hi, ha⟩ := hs.records hp
  cases ht.symm.trans ht'
  have hunpaid := ha.paidAt_eq_none hpending
  have hupdate : (s.update p.expired t.expired i).Coherent :=
    hs.update hp ht ⟨rfl, rfl, rfl, rfl, rfl, ha.paidAt, by simp [Payment.expired, hunpaid],
      ha.encoded, ha.amount, ha.name⟩
  have heq : s.update p.expired t.expired i = s.expire p t :=
    congrArg (fun invoices => { s.expire p t with invoices }) (Table.set_of_find hi)
  rwa [← heq]

theorem paymentForTicket_expire (hs : s.Coherent) (hp : s.payments.find? p.id = some p)
    (ht : s.tickets.find? p.ticketId = some t) (hpending : p.status = .pending)
    (hk : p.ticketId ≠ k) : (s.expire p t).paymentForTicket k = s.paymentForTicket k := by
  ext q
  rw [(hs.expire hp ht hpending).paymentForTicket_iff, hs.paymentForTicket_iff, Store.expire,
    Table.find?_set]
  refine and_congr_left fun hq => ?_
  by_cases hid : p.id = q.id
  · -- under the name of `p` there is a payment of another ticket in neither store
    rw [if_pos hid, ← hid, hp, Option.some.injEq, Option.some.injEq]
    constructor <;> rintro rfl <;> exact absurd hq hk
  · rw [if_neg hid]

section

variable (hs : s.Coherent) (hp : s.payments.find? p.id = some p)
  (ht : s.tickets.find? p.ticketId = some t) (hpending : p.status = .pending) (hwhich : which p)
  (hrest : ∀ q ∈ s.payments.values, q ≠ p → which' q = which q)

include hs hp hwhich hrest

theorem payments_expire_expiring (hgone : which' p.expired = false) :
    ((s.expire p t).expiring which').payments = (s.expiring which).payments := by
  rw [expiring, expiring, expire]
  refine Table.ext_find? (by rw [Table.keys_map, Table.keys_map, Table.keys_set hp]) fun id => ?_
  rw [Table.find?_map, Table.find?_map, Table.find?_set]
  split
  · next hid => simp [← hid, hp, hwhich, hgone]
  · next hid =>
    refine Option.map_congr fun q hq => ?_
    have hne : q ≠ p := by
      rintro rfl
      exact hid (hs.payment_key hq)
    rw [hrest q (Table.mem_values.2 ⟨id, hq⟩) hne]

include ht hpending

theorem tickets_expire_expiring :
    ((s.expire p t).expiring which').tickets = (s.expiring which).tickets := by
  simp only [expiring]
  refine Table.ext_find? (by rw [Table.keys_map, Table.keys_map, expire, Table.keys_set ht])
    fun k => ?_
  rw [Table.find?_map, Table.find?_map, expire, Table.find?_set, ← expire]
  by_cases hk : p.ticketId = k
  · subst hk
    simp [ht, hs.paymentForTicket_eq hp, hwhich, Ticket.expired]
  · rw [if_neg hk, paymentForTicket_expire hs hp ht hpending hk]
    refine Option.map_congr fun u _ => ?_
    have hsame : (s.paymentForTicket k).any which' = (s.paymentForTicket k).any which := by
      refine any_paymentForTicket fun q hq => hrest q (mem_values_of_paymentForTicket hq) ?_
      rintro rfl
      exact hk (hs.paymentForTicket_iff.1 hq).2
    rw [hsame]

/-- When one payment has expired, the others may follow. -/
theorem expire_expiring (hgone : which' p.expired = false) :
    (s.expire p t).expiring which' = s.expiring which := by
  rw [expiring, expiring, Store.mk.injEq]
  exact ⟨rfl, tickets_expire_expiring hs hp ht hpending hwhich hrest,
    payments_expire_expiring hs hp hwhich hrest hgone, rfl, rfl⟩

end

/-- Nothing is due when all that was due has expired. -/
theorem due_swept (h : p ∈ (s.swept now).payments.values) : (s.swept now).due now p = false := by
  obtain ⟨id, hid⟩ := Table.mem_values.1 h
  rw [swept, expiring, Table.find?_map] at hid
  obtain ⟨q, -, rfl⟩ := Option.map_eq_some_iff.1 hid
  have hsame : (s.swept now).due now = s.due now := due_find?_invoices (fun _ => rfl) now
  rw [hsame]
  split
  · rfl
  · next hq => exact Bool.eq_false_iff.2 hq

theorem expiredPending_swept (s : Store) (now : Time.Instant) :
    (s.swept now).expiredPending now = [] := by
  rw [List.eq_nil_iff_forall_not_mem]
  intro p hp
  obtain ⟨hstored, hdue⟩ := mem_expiredPending.1 hp
  rw [due_swept hstored] at hdue
  cases hdue

/-! ### The order of rows -/

namespace SameRows

theorem due (h : s.SameRows s') (now : Time.Instant) : s.due now = s'.due now :=
  due_find?_invoices h.invoices.find? now

theorem swept (h : s.SameRows s') (hs : s.Coherent) (now : Time.Instant) :
    (s.swept now).SameRows (s'.swept now) := by
  constructor
  case events => exact h.events
  case tickets =>
    refine h.tickets.map fun k t _ => ?_
    rw [h.paymentForTicket hs, h.due]
  case payments =>
    refine h.payments.map fun id p _ => ?_
    rw [h.due]
  case invoices => exact h.invoices
  case credentials => exact h.credentials

end SameRows

end Store

end BoxOffice
