import BoxOffice.Proofs.Alone.HandingOut

/-! Handing out an invoice by its amount, when nobody else takes a turn. Of the pending payments of
the amount only the one created first is looked at. While its invoice can be paid it is handed out;
afterwards nothing is, though a payment created later might still be paid. -/

namespace BoxOffice

open Program Protocol

namespace Time.Instant

variable {a b c : Instant}

theorem lt_iff : a < b ↔ a.second < b.second ∨ (a.second = b.second ∧ a.nanos < b.nanos) := .rfl

theorem not_le : ¬ a ≤ b ↔ b < a := by
  have hle : a ≤ b ↔ a.second < b.second ∨ (a.second = b.second ∧ a.nanos ≤ b.nanos) := .rfl
  rw [hle, lt_iff]
  omega

theorem not_lt_of_lt (h : a < b) : ¬ b < a := by
  rw [lt_iff] at h ⊢
  omega

theorem not_lt_trans (hab : ¬ a < b) (hbc : ¬ b < c) : ¬ a < c := by
  rw [lt_iff] at hab hbc ⊢
  omega

end Time.Instant

namespace Sats

theorem whole_iff {m : UInt64} : m % 1000 = 0 ↔ 1000 ∣ m.toNat := by
  rw [Nat.dvd_iff_mod_eq_zero, ← UInt64.toNat_inj, UInt64.toNat_mod]
  rfl

/-- An amount is read from its thousandfold, and from no other number. -/
theorem ofMillisats?_eq_some {m : UInt64} {a : Sats} :
    ofMillisats? m = some a ↔ m.toNat = 1000 * a.count.toNat := by
  have hcount : m / 1000 = a.count ↔ m.toNat / 1000 = a.count.toNat := by
    rw [← UInt64.toNat_inj, UInt64.toNat_div]
    rfl
  have hname : (⟨m / 1000⟩ : Sats) = a ↔ m / 1000 = a.count := by
    cases a
    rw [Sats.mk.injEq]
  rw [ofMillisats?, Option.ite_none_right_eq_some, Option.some_inj, hname, whole_iff, hcount]
  omega

theorem ofMillisats?_eq_none {m : UInt64} : ofMillisats? m = none ↔ ¬ 1000 ∣ m.toNat := by
  rw [ofMillisats?, ← whole_iff]
  simp

end Sats

namespace Store

variable {s s' : Store} {now : Time.Instant} {a : Sats} {p : Payment} {ps : List Payment}

/-! ### The oldest payment -/

theorem oldest_eq_none : oldest ps = none ↔ ps = [] := by
  cases ps with
  | nil => simp [oldest]
  | cons p rest =>
    simp only [oldest, reduceCtorEq, iff_false]
    cases oldest rest with
    | none => nofun
    | some q =>
      dsimp only
      split <;> nofun

/-- The oldest of payments is one of them, and none of them was created before. -/
theorem oldest_eq_some (h : oldest ps = some p) :
    p ∈ ps ∧ ∀ q ∈ ps, ¬ q.createdAt < p.createdAt := by
  induction ps generalizing p with
  | nil => cases h
  | cons first rest ih =>
    have hself : ¬ first.createdAt < first.createdAt := fun hlt =>
      Time.Instant.not_lt_of_lt hlt hlt
    rw [oldest] at h
    cases hrest : oldest rest with
    | none =>
      rw [hrest] at h
      cases h
      cases oldest_eq_none.1 hrest
      exact ⟨List.mem_cons_self, by simpa using hself⟩
    | some q =>
      obtain ⟨hmem, hfirst⟩ := ih hrest
      simp only [hrest] at h
      split at h
      · next hbefore =>
        cases h
        exact ⟨List.mem_cons_of_mem _ hmem,
          List.forall_mem_cons.2 ⟨Time.Instant.not_lt_of_lt hbefore, hfirst⟩⟩
      · next hbefore =>
        cases h
        exact ⟨List.mem_cons_self, List.forall_mem_cons.2
          ⟨hself, fun r hr => Time.Instant.not_lt_trans (hfirst r hr) hbefore⟩⟩

/-- The payment is pending, and is for the amount. -/
structure Awaits (s : Store) (a : Sats) (p : Payment) : Prop where
  stored : p ∈ s.payments.values
  pending : p.status = .pending
  amount : p.amount = a

/-- No pending payment for the amount was created before this one. -/
structure First (s : Store) (a : Sats) (p : Payment) : Prop where
  awaits : s.Awaits a p
  oldest {q : Payment} : s.Awaits a q → ¬ q.createdAt < p.createdAt

/-- The payment has an invoice that can still be paid. -/
def Payable (s : Store) (now : Time.Instant) (p : Payment) : Prop :=
  ∃ i, s.invoices.find? p.ticketId = some i ∧ i.encoded = p.invoice ∧ now < i.expiresAt

theorem awaits_iff : s.Awaits a p ↔
    p ∈ s.payments.values.filter fun p => p.status = .pending && p.amount = a := by
  simp only [List.mem_filter, Bool.and_eq_true, decide_eq_true_eq]
  exact ⟨fun h => ⟨h.stored, h.pending, h.amount⟩, fun h => ⟨h.1, h.2.1, h.2.2⟩⟩

theorem oldestPending_eq_none : s.oldestPending a = none ↔ ∀ p, ¬ s.Awaits a p := by
  simp only [oldestPending, oldest_eq_none, List.eq_nil_iff_forall_not_mem, awaits_iff]

theorem first_of_oldestPending (h : s.oldestPending a = some p) : s.First a p := by
  obtain ⟨hmem, hfirst⟩ := oldest_eq_some h
  exact ⟨awaits_iff.2 hmem, fun hq => hfirst _ (awaits_iff.1 hq)⟩

/-! ### The order of rows -/

theorem SameRows.awaits_iff (h : s.SameRows s') : s.Awaits a p ↔ s'.Awaits a p := by
  simp only [Store.awaits_iff, (h.payments.values.filter _).mem_iff]

theorem SameRows.first (h : s.SameRows s') (hp : s'.First a p) : s.First a p :=
  ⟨h.awaits_iff.2 hp.awaits, fun hq => hp.oldest (h.awaits_iff.1 hq)⟩

theorem SameRows.payable_iff (h : s.SameRows s') : s.Payable now p ↔ s'.Payable now p := by
  simp only [Payable, h.invoices.find?]

/-! ### Two sales to look at -/

/-- The sale of a ticket that has the name of its payment, with the seconds of its creation and of
its expiry. -/
def timedSale (name : Uuid) (encoded : String) (created expires : Int) : Call :=
  .createPurchase ⟨⟨name⟩, saleEvent.id, default, ⟨encoded⟩, none,
    some { saleInvoice encoded with expiresAt := .ofSeconds expires }, .ofSeconds created⟩ ⟨name⟩

/-- The invoice of the first sale is payable up to second 5, that of the second up to second 9. -/
def staggeredSales : List Call :=
  [timedSale ⟨3⟩ "b" 1 9, timedSale ⟨2⟩ "a" 0 5, .putEvent saleEvent]

theorem staggeredSales_reachable : (ofCalls staggeredSales).Reachable :=
  reachable_ofCalls ⟨⟨rfl, fun _ => rfl⟩, ⟨rfl, fun _ => rfl⟩, trivial, trivial⟩

end Store

namespace Service

variable {w : Surroundings} {s s' : Store} {now : Time.Instant} {m : UInt64} {a : Sats}
  {x : Except ErrorEnvelope PayResponse}

/-! ### What is handed out -/

/-- What a request for an amount comes to from a store. -/
inductive Matching (s : Store) (now : Time.Instant) (m : UInt64) :
    Except ErrorEnvelope PayResponse → Prop
  | broken (rest : ¬ 1000 ∣ m.toNat) :
      Matching s now m (.error (.ofReason "amount must be whole satoshis"))
  | unmatched {a : Sats} (amount : m.toNat = 1000 * a.count.toNat) (none : ∀ p, ¬ s.Awaits a p) :
      Matching s now m (.error (.ofReason ("no pending payment for " ++ a.toString)))
  | expired {a : Sats} {p : Payment} (amount : m.toNat = 1000 * a.count.toNat)
      (first : s.First a p) (unpayable : ¬ s.Payable now p) :
      Matching s now m (.error (.ofReason "invoice expired"))
  | found {a : Sats} {p : Payment} (amount : m.toNat = 1000 * a.count.toNat)
      (first : s.First a p) (payable : s.Payable now p) : Matching s now m (.ok (.bare p.invoice))

theorem Matching.of_sameRows (h : s.SameRows s') (hx : Matching s' now m x) :
    Matching s now m x := by
  cases hx with
  | broken hrest => exact .broken hrest
  | unmatched hm hnone => exact .unmatched hm fun p hp => hnone p (h.awaits_iff.1 hp)
  | expired hm hp hexpired => exact .expired hm (h.first hp) (mt h.payable_iff.1 hexpired)
  | found hm hp hpayable => exact .found hm (h.first hp) (h.payable_iff.2 hpayable)

/-- The invoice of a pending payment is handed out if it can still be paid. -/
theorem currentInvoice_first (hs : s.Coherent) {p : Payment} (hp : s.First a p)
    (hclock : ∀ h, w h .now = now) (h : List Turn) :
    Keeps w (fun x _ => (x = .ok p.invoice ∧ s.Payable now p) ∨
        (x = .error (.ofReason "invoice expired") ∧ ¬ s.Payable now p))
      (currentInvoice p).run s h := by
  obtain ⟨id, hid⟩ := Table.mem_values.1 hp.awaits.stored
  obtain ⟨_, i, _, hi, ha⟩ := hs.records hid
  obtain ⟨x, h', hrun, hx⟩ := currentInvoice_alone hi hclock h
  refine ⟨x, h', hrun, ?_⟩
  have hpayable : s.Payable now p ↔ ¬ i.expiresAt ≤ now := by
    rw [Time.Instant.not_le]
    constructor
    · rintro ⟨j, hj, -, hnow⟩
      cases hi.symm.trans hj
      exact hnow
    · exact fun hnow => ⟨i, hi, ha.encoded, hnow⟩
  by_cases hexpired : i.expiresAt ≤ now
  · rw [if_pos hexpired] at hx
    exact .inr ⟨hx, fun h => hpayable.1 h hexpired⟩
  · rw [if_neg hexpired, ha.encoded] at hx
    exact .inl ⟨hx, hpayable.2 hexpired⟩

theorem payByAmount_alone (hs : s.Coherent) (hclock : ∀ h, w h .now = now) (m : UInt64)
    (h : List Turn) :
    Keeps w (fun x _ => Matching s now m x) (payByAmount (some m)).run s h := by
  unfold payByAmount
  refine Ends.keeps (.ok (a := m) rfl ?_)
  cases hm : Sats.ofMillisats? m with
  | none => exact .error rfl ⟨rfl, .broken (Sats.ofMillisats?_eq_none.1 hm)⟩
  | some a =>
    have hread : s.perform (.oldestPending a) = (.ok (s.oldestPending a), s) := rfl
    have hamount := Sats.ofMillisats?_eq_some.1 hm
    refine .ok (a := a) rfl (.ok (responderStore_alone hread) ?_)
    cases hfirst : s.oldestPending a with
    | none => exact .error rfl ⟨rfl, .unmatched hamount (Store.oldestPending_eq_none.1 hfirst)⟩
    | some p =>
      have hp := Store.first_of_oldestPending hfirst
      refine .ok (a := p) rfl ?_
      obtain ⟨_, _, hrun, ⟨rfl, hpayable⟩ | ⟨rfl, hunpayable⟩⟩ :=
        currentInvoice_first hs hp hclock _
      · exact .ok hrun ⟨_, _, _, rfl, rfl, .found hamount hp hpayable⟩
      · exact .error hrun ⟨rfl, .expired hamount hp hunpayable⟩

/-! ### By what is in the store -/

/-- A response hands out the invoice of a payment that the amount is for. -/
structure Matches (s : Store) (now : Time.Instant) (m : UInt64)
    (x : Except ErrorEnvelope PayResponse) : Prop where
  responds {response : PayResponse} : x = .ok response → ∃ (a : Sats) (p : Payment) (i : Invoice),
    m.toNat = 1000 * a.count.toNat ∧ p ∈ s.payments.values ∧ p.status = .pending ∧ p.amount = a ∧
    (∀ q ∈ s.payments.values, q.status = .pending → q.amount = a →
      ¬ q.createdAt < p.createdAt) ∧
    s.invoices.find? p.ticketId = some i ∧ i.encoded = p.invoice ∧ now < i.expiresAt ∧
    response = .bare i.encoded
  /-- Without a response the amount is not whole, or nothing of it is pending, or a payment that
  none was created before has an invoice that can no longer be paid. -/
  refused {e : ErrorEnvelope} : x = .error e → ¬ 1000 ∣ m.toNat ∨
    ∃ a : Sats, m.toNat = 1000 * a.count.toNat ∧
      ((∀ p, ¬ s.Awaits a p) ∨ ∃ p, s.First a p ∧ ¬ s.Payable now p)

theorem payByAmount_matches (hs : s.Reachable) (hsame : s.SameRows s')
    (hclock : ∀ h, w h .now = now) (m : UInt64) (h : List Turn) :
    Keeps w (fun x _ => Matches s now m x) (payByAmount (some m)).run s' h := by
  obtain ⟨x, h', hrun, hmatching⟩ := payByAmount_alone (hsame.coherent hs.coherent) hclock m h
  refine ⟨x, h', hrun, ?_⟩
  cases hmatching.of_sameRows hsame with
  | broken hrest => exact ⟨nofun, fun _ => .inl hrest⟩
  | unmatched hm hnone => exact ⟨nofun, fun _ => .inr ⟨_, hm, .inl hnone⟩⟩
  | expired hm hp hexpired => exact ⟨nofun, fun _ => .inr ⟨_, hm, .inr ⟨_, hp, hexpired⟩⟩⟩
  | @found a p hm hp hpayable =>
    obtain ⟨i, hi, hencoded, hnow⟩ := hpayable
    refine ⟨?_, nofun⟩
    rintro _ ⟨⟩
    exact ⟨a, p, i, hm, hp.awaits.stored, hp.awaits.pending, hp.awaits.amount,
      fun q hq hpending hamount => hp.oldest ⟨hq, hpending, hamount⟩, hi, hencoded, hnow,
      by rw [hencoded]⟩

/-- Of two sales the first is found, also when its row comes last. -/
theorem payByAmount_matches_staggeredSales :
    let w : Surroundings := fun _ => Office.Outside.answer { now := .ofSeconds 2 }
    let s := Store.ofCalls Store.staggeredSales
    let s' := Store.ofCalls
      [Store.timedSale ⟨2⟩ "a" 0 5, Store.timedSale ⟨3⟩ "b" 1 9, .putEvent Store.saleEvent]
    s.Reachable ∧ s.SameRows s' ∧
      (s'.payments.values.map (·.invoice) = ["b", "a"]) ∧
      ((payByAmount (some 5000)).run.alone w s' []).result = some (.ok (.bare "a")) ∧
      Keeps w (fun x _ => Matches s (.ofSeconds 2) 5000 x) (payByAmount (some 5000)).run s' [] := by
  intro w s s'
  have hsame : s.SameRows s' := by constructor <;> decide +kernel
  exact ⟨Store.staggeredSales_reachable, hsame, by decide +kernel, rfl,
    payByAmount_matches Store.staggeredSales_reachable hsame (fun _ => rfl) 5000 []⟩

/-- What asking for an amount comes to, where it depends on the payments for it only. -/
structure Answers (s : Store) (now : Time.Instant) (a : Sats)
    (x : Except ErrorEnvelope PayResponse) : Prop where
  /-- A payable invoice is handed out if there is one from before all that are not payable. -/
  payable {p : Payment} : s.Awaits a p → s.Payable now p →
    (∀ q, s.Awaits a q → ¬ s.Payable now q → p.createdAt < q.createdAt) →
    ∃ q, s.Awaits a q ∧ s.Payable now q ∧ x = .ok (.bare q.invoice)
  /-- One that is not payable, from before all that are, stands in the way of them. -/
  blocked {p : Payment} : s.Awaits a p → ¬ s.Payable now p →
    (∀ q, s.Awaits a q → s.Payable now q → p.createdAt < q.createdAt) →
    x = .error (.ofReason "invoice expired")
  unmatched : (∀ p, ¬ s.Awaits a p) →
    x = .error (.ofReason ("no pending payment for " ++ a.toString))

theorem payByAmount_answers (hs : s.Reachable) (hsame : s.SameRows s')
    (hclock : ∀ h, w h .now = now) (hm : m.toNat = 1000 * a.count.toNat) (h : List Turn) :
    Keeps w (fun x _ => Answers s now a x) (payByAmount (some m)).run s' h := by
  obtain ⟨x, h', hrun, hmatching⟩ := payByAmount_alone (hsame.coherent hs.coherent) hclock m h
  refine ⟨x, h', hrun, ?_⟩
  have hread {b : Sats} (hb : m.toNat = 1000 * b.count.toNat) : b = a :=
    Option.some.inj ((Sats.ofMillisats?_eq_some.2 hb).symm.trans (Sats.ofMillisats?_eq_some.2 hm))
  cases hmatching.of_sameRows hsame with
  | broken hrest => exact absurd ⟨_, hm⟩ hrest
  | unmatched hb hnone =>
    cases hread hb
    exact ⟨fun hp _ _ => absurd hp (hnone _), fun hp _ _ => absurd hp (hnone _), fun _ => rfl⟩
  | @expired b q hb hq hexpired =>
    cases hread hb
    refine ⟨fun {p} hp _ hbefore => ?_, fun _ _ _ => rfl, fun hnone => absurd hq.awaits (hnone q)⟩
    exact absurd (hbefore q hq.awaits hexpired) (hq.oldest hp)
  | @found b q hb hq hpayable =>
    cases hread hb
    refine ⟨fun _ _ _ => ⟨q, hq.awaits, hpayable, rfl⟩, fun {p} hp _ hbefore => ?_,
      fun hnone => absurd hq.awaits (hnone q)⟩
    exact absurd (hbefore q hq.awaits hpayable) (hq.oldest hp)

/-- While the invoice of the first of two sales is payable it is handed out. -/
theorem payByAmount_answers_staggeredSales :
    let w : Surroundings := fun _ => Office.Outside.answer { now := .ofSeconds 2 }
    let s := Store.ofCalls Store.staggeredSales
    s.Reachable ∧ (5000 : UInt64).toNat = 1000 * (5 : UInt64).toNat ∧
      ((payByAmount (some 5000)).run.alone w s []).result = some (.ok (.bare "a")) ∧
      Keeps w (fun x _ => Answers s (.ofSeconds 2) ⟨5⟩ x) (payByAmount (some 5000)).run s [] :=
  ⟨Store.staggeredSales_reachable, rfl, rfl,
    payByAmount_answers Store.staggeredSales_reachable (.refl _) (fun _ => rfl) rfl []⟩

/-- Of two sales the first can no longer be paid. The second one could be, and is not found. -/
theorem payByAmount_blocked : ∃ (s : Store) (w : Surroundings) (now : Time.Instant) (p : Payment),
    s.Reachable ∧ (∀ h, w h .now = now) ∧ s.Awaits ⟨5⟩ p ∧ s.Payable now p ∧
    ((payByAmount (some 5000)).run.alone w s []).result =
      some (.error (.ofReason "invoice expired")) := by
  let second : Payment := ⟨⟨⟨3⟩⟩, ⟨⟨3⟩⟩, "b", ⟨5⟩, .pending, none, none, .ofSeconds 1⟩
  have hstored : second ∈ (Store.ofCalls Store.staggeredSales).payments.values := by
    decide +kernel
  exact ⟨Store.ofCalls Store.staggeredSales,
    fun _ => Office.Outside.answer { now := .ofSeconds 6 }, .ofSeconds 6, second,
    Store.staggeredSales_reachable, fun _ => rfl, ⟨hstored, rfl, rfl⟩,
    ⟨_, rfl, rfl, by decide⟩, rfl⟩

end Service

end BoxOffice
