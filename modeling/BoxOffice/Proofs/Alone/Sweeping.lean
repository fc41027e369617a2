import BoxOffice.Proofs.Alone.Running
import BoxOffice.Proofs.Office.Basic
import BoxOffice.Proofs.Store.Expiry
import BoxOffice.Proofs.Store.History
import BoxOffice.Service.Sweeping

/-! A sweep that runs alone. The payments that are due are listed once, and then loaded and closed
one by one; those that were closed before leave the rest as they were listed. So they all expire
with their tickets and nothing else changes, in whatever order they come. -/

namespace BoxOffice

open Program

namespace Service

open Lifecycle

variable {setup : Setup} {w : Surroundings} {s : Store} {h : List Turn} {now : Time.Instant}
  {p : Payment} {t : Ticket} {ps : List Payment}

/-- A payment that is pending has no time of payment to lose. -/
theorem moving_expired (hs : s.Coherent) (hp : s.payments.find? p.id = some p)
    (ht : s.tickets.find? p.ticketId = some t) (hpending : p.status = .pending)
    (source : PaymentStatus) (time : Time.Instant) :
    s.moving p t ⟨source, .expired, time⟩ = s.expire p t := by
  obtain ⟨t', i, ht', _, ha⟩ := hs.records hp
  cases ht.symm.trans ht'
  have hunpaid := ha.paidAt_eq_none hpending
  have hpayment : Store.moved p ⟨source, .expired, time⟩ = p.expired :=
    congrArg (fun paidAt => { p with status := .expired, paidAt }) hunpaid.symm
  have hticket : { t with status := .expired, paidAt := none } = t.expired :=
    congrArg (fun paidAt => { t with status := .expired, paidAt }) (ha.paidAt.trans hunpaid).symm
  rw [Store.moving, Store.expire, hpayment, ← hticket]
  rfl

/-- A pending payment expires with its ticket. -/
theorem apply_expires (hs : s.Coherent) (hp : s.payments.find? p.id = some p)
    (ht : s.tickets.find? p.ticketId = some t) (hpending : p.status = .pending) (setup : Setup)
    (now : Time.Instant) (w : Surroundings) (h : List Turn) :
    Ends w (fun x s' _ => ∃ o, x = .ok o ∧ o.persisted = true ∧ s' = s.expire p t)
      (apply setup p.ticketId (.invoiceExpired now)).run s h := by
  have hreduce : ∀ env, reduce env (.ofRecords t p) (.invoiceExpired now) =
      ({ (ofRecords t p).setStatus .expired with
          stage := .failed, failureReason := some ("invoice expired at " ++ now.inMessage) },
        []) := by
    intro env
    simp only [reduce, ofRecords, hpending, ne_eq, not_true, if_false]
  have hchange : PaymentStatus.expired ≠ p.status := by
    rw [hpending]
    decide
  obtain ⟨_, _, h', hrun, rfl, -, time, rfl, -⟩ :=
    apply_changes hs (hs.paymentForTicket_eq hp) ht hreduce hchange setup w h
  exact ⟨_, _, h', hrun, _, rfl, rfl, moving_expired hs hp ht hpending _ _⟩

/-- Pending payments, each listed once, expire one after the other. -/
theorem expireAll_alone (hs : s.Coherent) (hnodup : ps.Nodup)
    (hps : ∀ p ∈ ps, p ∈ s.payments.values ∧ p.status = .pending) (setup : Setup)
    (now : Time.Instant) (w : Surroundings) (h : List Turn) :
    ∃ h', (expireAll setup now ps).alone w s h =
      ⟨some ps.length, s.expiring fun p => p ∈ ps, h'⟩ := by
  induction ps generalizing s h with
  | nil =>
    have hnone : s.expiring (fun p => p ∈ ([] : List Payment)) = s := by
      simpa using s.expiring_none
    exact ⟨h, by rw [hnone]; rfl⟩
  | cons p rest ih =>
    obtain ⟨hnot, hrest⟩ := List.nodup_cons.1 hnodup
    obtain ⟨⟨hmem, hpending⟩, hothers⟩ := List.forall_mem_cons.1 hps
    obtain ⟨id, hp⟩ := Table.mem_values.1 hmem
    cases hs.payment_key hp
    obtain ⟨t, _, ht, _, _⟩ := hs.records hp
    obtain ⟨_, _, h₁, hrun, o, rfl, hpersisted, rfl⟩ :=
      apply_expires hs hp ht hpending setup now w h
    -- `p` is not pending any more, and those behind it are still as they were listed
    have hgone : p.expired ∉ rest := fun hm => nomatch (hothers _ hm).2
    have hstill : ∀ q ∈ rest, q ∈ (s.expire p t).payments.values ∧ q.status = .pending := by
      intro q hq
      obtain ⟨hstored, hqpending⟩ := hothers q hq
      obtain ⟨id, hfind⟩ := Table.mem_values.1 hstored
      have hne : p.id ≠ id := by
        rintro rfl
        cases hp.symm.trans hfind
        exact hnot hq
      exact ⟨Table.mem_values.2 ⟨id, (Table.find?_set_ne _ hne _).trans hfind⟩, hqpending⟩
    obtain ⟨h₂, hrest⟩ := ih (hs.expire hp ht hpending) hrest hstill h₁
    have hstore : (s.expire p t).expiring (fun q => q ∈ rest) =
        s.expiring fun q => q ∈ p :: rest := by
      refine Store.expire_expiring hs hp ht hpending (by simp) ?_ (by simpa using hgone)
      intro q _ hq
      simp [hq]
    refine ⟨h₂, ?_⟩
    rw [expireAll, alone_bind hrun, alone_bind hrest, hstore]
    simp only [hpersisted, if_true, List.length_cons, Nat.add_comm]
    rfl

/-- The payments that are listed as due, in any order, are all that expire. -/
theorem expireAll_due (hs : s.Coherent) (hps : ps.Perm (s.expiredPending now)) (setup : Setup)
    (w : Surroundings) (h : List Turn) :
    ∃ h', (expireAll setup now ps).alone w s h =
      ⟨some (s.payments.values.countP (s.due now)), s.swept now, h'⟩ := by
  have hdue := hps.trans (s.expiredPending_perm now)
  have hmem : ∀ p, p ∈ ps ↔ p ∈ s.payments.values ∧ s.due now p :=
    fun p => hdue.mem_iff.trans List.mem_filter
  have hnodup : ps.Nodup := hdue.nodup_iff.2 (hs.payment_key.nodup_values.filter _)
  have hpending : ∀ p ∈ ps, p ∈ s.payments.values ∧ p.status = .pending := by
    intro p hp
    obtain ⟨hstored, hd⟩ := (hmem p).1 hp
    exact ⟨hstored, of_decide_eq_true (Bool.and_eq_true_iff.1 hd).1⟩
  obtain ⟨h', hrun⟩ := expireAll_alone hs hnodup hpending setup now w h
  have hstore : s.expiring (fun p => p ∈ ps) = s.swept now := by
    refine Store.expiring_congr fun p hp => ?_
    rw [Bool.eq_iff_iff, decide_eq_true_iff, hmem, and_iff_right hp]
  refine ⟨h', ?_⟩
  rw [hrun, hstore, hdue.length_eq, List.countP_eq_length_filter]

/-- A sweep closes the payments that are listed at the time that it reads from the clock. -/
theorem sweep_of_expireAll {n : Nat} {s' : Store} {h' : List Turn}
    (hrun : (expireAll setup (w h .now) (s.expiredPending (w h .now))).alone w s
      (.call (.expiredPending (w h .now)) (.ok (s.expiredPending (w h .now))) ::
        ⟨.now, w h .now⟩ :: h) = ⟨some n, s', h'⟩) :
    ∃ h', (sweep setup).run.alone w s h = ⟨some (.ok n), s', h'⟩ := by
  have hlisted : s.perform (.expiredPending (w h .now)) =
      (.ok (s.expiredPending (w h .now)), s) := rfl
  have hclosed : Ends w (fun x s₁ _ => x = .ok n ∧ s₁ = s') (sweep setup).run s h := by
    unfold sweep
    exact .ok (alone_lift rfl) (.ok (alone_store hlisted) (.seq hrun ⟨_, _, _, rfl, rfl, rfl⟩))
  obtain ⟨_, _, h', hsweep, rfl, rfl⟩ := hclosed
  exact ⟨h', hsweep⟩

/-- What a sweep comes to from a store, when it reads a time from the clock. -/
structure Sweeps (setup : Setup) (s : Store) (now : Time.Instant) : Prop where
  /-- The payments that are due expire, and are counted. -/
  expires (w : Surroundings) (h : List Turn) : w h .now = now →
    ∃ h', (sweep setup).run.alone w s h =
      ⟨some (.ok (s.payments.values.countP (s.due now))), s.swept now, h'⟩
  /-- A second sweep at that time finds nothing. -/
  again (w : Surroundings) (h : List Turn) : w h .now = now →
    ∃ h', (sweep setup).run.alone w (s.swept now) h = ⟨some (.ok 0), s.swept now, h'⟩
  /-- Rows and candidates may come in any order. -/
  ordered (w : Surroundings) (h : List Turn) {s' : Store} {ps : List Payment} : s.SameRows s' →
    ps.Perm (s'.expiredPending now) → ∃ s'' h', (expireAll setup now ps).alone w s' h =
      ⟨some (s.payments.values.countP (s.due now)), s'', h'⟩ ∧ (s.swept now).SameRows s''

theorem sweep_sweeps (hs : s.Reachable) (setup : Setup) (now : Time.Instant) :
    Sweeps setup s now := by
  constructor
  case expires =>
    rintro w h rfl
    obtain ⟨_, hrun⟩ := expireAll_due hs.coherent (.refl _) setup w _
    exact sweep_of_expireAll hrun
  case again =>
    rintro w h rfl
    have hnone := s.expiredPending_swept (w h .now)
    exact sweep_of_expireAll (by rw [hnone]; rfl)
  case ordered =>
    intro w h s' ps hsame hps
    obtain ⟨h', hrun⟩ := expireAll_due (hsame.coherent hs.coherent) hps setup w h
    have hcount : s'.payments.values.countP (s'.due now) =
        s.payments.values.countP (s.due now) := by
      rw [← hsame.due, hsame.payments.values.countP_eq]
    exact ⟨s'.swept now, h', by rw [hrun, hcount], hsame.swept hs.coherent now⟩

/-- The payments of two sales are due, the second one with a fresh invoice, and both expire. -/
theorem sweep_sweeps_soldAgain : ∃ s : Store, s.Reachable ∧
    s.payments.values.countP (s.due default) = 2 ∧
    (s.swept default).payments.values.map (·.status) = [.expired, .expired] ∧
    (s.swept default).tickets.values.map (·.status) = [.expired, .expired] ∧
    Sweeps Office.sampleSetup s default := by
  have hs := Store.reachable_ofCalls Store.soldAgain_fresh
  exact ⟨_, hs, by decide +kernel, by decide +kernel, by decide +kernel,
    sweep_sweeps hs Office.sampleSetup default⟩

end Service

end BoxOffice
