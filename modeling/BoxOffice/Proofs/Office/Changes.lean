import BoxOffice.Proofs.Office.Sound
import BoxOffice.Proofs.Store.Changes

/-! How a payment changes over a log: it is closed and opened again in turn, and stays once it is
paid. -/

namespace BoxOffice

open Store

/-- What an entry makes of the payment. -/
def Entry.change? (id : PaymentId) (e : Entry) : Option Change :=
  match e.turn with
  | ⟨.store c, x⟩ => c.change? e.before id x
  | _ => none

/-- The changes of a payment, earliest first. -/
def changesOf (id : PaymentId) (log : List Entry) : List Change :=
  log.reverse.filterMap (·.change? id)

theorem changesOf_cons (id : PaymentId) (e : Entry) (log : List Entry) :
    changesOf id (e :: log) = changesOf id log ++ (e.change? id).toList := by
  rw [changesOf, List.reverse_cons, List.filterMap_append]
  cases h : e.change? id <;> simp [changesOf, h]

variable {e : Entry} {log : List Entry} {id : PaymentId}

/-- What an entry has done that changes the payment. -/
theorem Entry.of_change? {change : Change} (h : e.change? id = some change) :
    (∃ k tr, change = .closed tr ∧ e.turn = .call (.applyTransition k tr) (.ok true) ∧
      tr.source = .pending ∧ ∃ p, e.before.paymentForTicket k = some p ∧ p.id = id) ∨
    ∃ i p, change = .reopened i ∧ e.turn = .call (.reissue id i) (.ok p) := by
  unfold change? at h
  split at h
  · next c x ht =>
    cases c with
    | applyTransition k tr =>
      cases x with
      | error => cases h
      | ok stored =>
        cases stored with
        | false => cases h
        | true =>
          simp only [Call.change?] at h
          split at h
          · next hfound =>
            cases h
            obtain ⟨hsource, hfound⟩ := hfound
            obtain ⟨p, hp, hid⟩ := (Option.any_eq_true _ _).1 hfound
            exact .inl ⟨k, tr, rfl, ht, hsource, p, hp, of_decide_eq_true hid⟩
          · cases h
    | reissue id' i =>
      cases x with
      | error => cases h
      | ok p =>
        simp only [Call.change?] at h
        split at h
        · next hid =>
          cases h
          subst hid
          exact .inr ⟨i, p, rfl, ht⟩
        · cases h
    | _ => cases h
  · cases h

namespace Lawful

/-- Statuses are changed from pending to another one. -/
theorem guarded (he : e.Lawful log) {c : Call} {x : Except StoreError c.Reply}
    (ht : e.turn = .call c x) : c.Guarded := by
  have hallowed := he.allowed
  rw [ht] at hallowed
  cases c with
  | applyTransition k tr =>
    refine ⟨hallowed.1, fun htarget => ?_⟩
    have := hallowed.2
    rwa [htarget] at this
  | _ => trivial

theorem change?_eq {c : Call} {x : Except StoreError c.Reply} (ht : e.turn = .call c x) :
    e.change? id = c.change? e.before id x := by
  rw [Entry.change?, ht]

theorem change?_of_not_call (ht : ∀ c x, e.turn ≠ .call c x) : e.change? id = none := by
  unfold Entry.change?
  split
  · next hturn => exact absurd hturn (ht _ _)
  · rfl

theorem step (h : Lawful log) (he : e.Lawful log) {p : Payment}
    (hp : (storeAfter log).payments.find? id = some p) :
    ∃ p', e.after.payments.find? id = some p' ∧ Step p (e.change? id) p' := by
  rw [he.before.payments.find?] at hp
  rcases e.call_or_kept with ⟨c, x, ht⟩ | ⟨hafter, hnot⟩
  · rw [change?_eq ht]
    exact (h.outcome he ht).step (h.coherent_before he) (h.fresh he ht) (guarded he ht) hp
  · rw [hafter, change?_of_not_call hnot]
    exact ⟨p, hp, .same p⟩

theorem step_none (h : Lawful log) (he : e.Lawful log)
    (hp : (storeAfter log).payments.find? id = none) :
    e.change? id = none ∧ ∀ p, e.after.payments.find? id = some p → p.status = .pending := by
  rw [he.before.payments.find?] at hp
  rcases e.call_or_kept with ⟨c, x, ht⟩ | ⟨hafter, hnot⟩
  · rw [change?_eq ht]
    exact (h.outcome he ht).step_none (h.coherent_before he) hp
  · rw [hafter, change?_of_not_call hnot, hp]
    exact ⟨rfl, nofun⟩

/-- A change of status that is stored finds the payment pending. -/
theorem applied (h : Lawful log) {e : Entry} (he : e.Lawful log) {k : TicketId} {tr : Transition}
    (ht : e.turn = .call (.applyTransition k tr) (.ok true)) :
    ∃ p, e.before.paymentForTicket k = some p ∧ p.status = .pending ∧
      e.after.payments.find? p.id = some (moved p tr) := by
  have hs := h.coherent_before he
  have houtcome := h.outcome he ht
  have hguard := guarded he ht
  generalize e.after = s' at houtcome
  cases houtcome with
  | kept hx => cases hx
  | @applied k tr p t i hp hk _ _ _ hsource =>
    subst hk
    refine ⟨p, hs.paymentForTicket_eq hp, hsource.trans hguard.1, ?_⟩
    rw [find?_payments_update]
    exact if_pos rfl

end Lawful

/-! ### In turn -/

/-- Closings and reopenings in turn, a closing first. -/
def Alternate : List Change → Prop
  | [] => True
  | [.closed _] => True
  | .closed _ :: .reopened _ :: rest => Alternate rest
  | _ => False

theorem alternate_append_closed {cs : List Change} (h : Alternate cs) (heven : cs.length % 2 = 0)
    (tr : Transition) : Alternate (cs ++ [.closed tr]) := by
  fun_induction Alternate cs with
  | case1 => trivial
  | case2 => cases heven
  | case3 tr' i rest ih => exact ih h (by simp only [List.length_cons] at heven; omega)
  | case4 => exact h.elim

theorem alternate_append_reopened {cs : List Change} (h : Alternate cs) (hodd : cs.length % 2 = 1)
    (i : Invoice) : Alternate (cs ++ [.reopened i]) := by
  fun_induction Alternate cs with
  | case1 => cases hodd
  | case2 => trivial
  | case3 tr i' rest ih => exact ih h (by simp only [List.length_cons] at hodd; omega)
  | case4 => exact h.elim

namespace Lawful

/-- The changes of a payment so far, and whether it is open. -/
def Tracked (id : PaymentId) (log : List Entry) : Prop :=
  Alternate (changesOf id log) ∧
    match (storeAfter log).payments.find? id with
    | none => changesOf id log = []
    | some p => (changesOf id log).length % 2 = 0 ↔ p.status = .pending

theorem tracked_step {p p' : Payment} {change : Option Change} {cs : List Change}
    (hcs : Alternate cs) (hopen : cs.length % 2 = 0 ↔ p.status = .pending) (h : Step p change p') :
    Alternate (cs ++ change.toList) ∧
      ((cs ++ change.toList).length % 2 = 0 ↔ p'.status = .pending) := by
  cases h with
  | kept => simpa using ⟨hcs, hopen⟩
  | @closed tr hsource htarget =>
    have heven := hopen.2 hsource
    refine ⟨alternate_append_closed hcs heven tr, ?_⟩
    simp only [Option.toList_some, List.length_append, List.length_singleton, moved, htarget,
      iff_false]
    omega
  | @reopened i hretry =>
    have hodd : cs.length % 2 = 1 := by
      have : p.status ≠ .pending := by
        intro hp
        rw [hp] at hretry
        cases hretry
      have := mt hopen.1 this
      omega
    refine ⟨alternate_append_reopened hcs hodd i, ?_⟩
    simp only [Option.toList_some, List.length_append, List.length_singleton, renewed, iff_true]
    omega

theorem tracked (h : Lawful log) (id : PaymentId) : Tracked id log := by
  induction h with
  | nil => exact ⟨trivial, rfl⟩
  | @cons e log h he ih =>
    obtain ⟨halt, hopen⟩ := ih
    rw [Tracked, changesOf_cons, storeAfter]
    cases hp : (storeAfter log).payments.find? id with
    | none =>
      rw [hp] at hopen
      obtain ⟨hnone, hpending⟩ := h.step_none he hp
      rw [hnone, hopen]
      refine ⟨trivial, ?_⟩
      cases hp' : e.after.payments.find? id with
      | none => rfl
      | some p' => simpa using hpending p' hp'
    | some p =>
      rw [hp] at hopen
      obtain ⟨p', hp', hstep⟩ := h.step he hp
      rw [hp']
      exact tracked_step halt hopen hstep

/-! ### For good -/

/-- Once a payment is paid, nothing of it changes but the callback of its counterparty. -/
theorem paid_stays {later : List Entry} (h : Lawful (later ++ log)) {p : Payment}
    (hp : (storeAfter log).payments.find? id = some p) (hpaid : p.status = .paid) :
    ∃ callback, (storeAfter (later ++ log)).payments.find? id =
      some { p with counterpartyCallback := callback } := by
  induction later with
  | nil => exact ⟨p.counterpartyCallback, hp⟩
  | cons e later ih =>
    cases h with
    | cons h he =>
      obtain ⟨callback, hq⟩ := ih h
      obtain ⟨q', hq', hstep⟩ := h.step he hq
      generalize e.change? id = change at hstep
      cases hstep with
      | kept callback' => exact ⟨callback', hq'⟩
      | closed hsource => exact absurd (hpaid.symm.trans hsource) (by decide)
      | reopened hretry =>
        have : PaymentStatus.paid.isRetryable := hpaid ▸ hretry
        cases this

end Lawful

end BoxOffice
