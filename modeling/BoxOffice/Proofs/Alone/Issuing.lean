import BoxOffice.Proofs.Office.Basic
import BoxOffice.Proofs.Program.Alone
import BoxOffice.Service.Issuing

/-! Calls for an invoice whose expiry the processor leaves to us. It expires as long after the clock
is read as is configured, or an hour after where that is longer than can be counted, so a longer
time that can be counted makes no invoice expire earlier. A time past the end of the calendar makes
the call break off, and nothing else does. -/

namespace BoxOffice

open Program

namespace Time.Instant

theorem addSeconds_zero (t : Instant) : t.addSeconds 0 = t := by
  obtain ⟨second, nanos, hlt⟩ := t
  have hsecond : nanosPerSecond = 1000000000 := rfl
  simp only [addSeconds, Nat.zero_mul, addNanos, Nat.add_zero]
  split
  · rfl
  · have hshort : nanos < nanosPerSecond := by omega
    simp [Nat.mod_eq_of_lt hshort, Nat.div_eq_of_lt hshort]

theorem second_addSeconds (t : Instant) (n : Nat) : (t.addSeconds n).second = t.second + n := by
  have hsecond : nanosPerSecond = 1000000000 := rfl
  rcases Nat.eq_zero_or_pos n with rfl | hn
  · rw [addSeconds_zero]
    omega
  · -- a second or more leads past the rest of a leap second
    have hpast : ¬ (nanosPerSecond ≤ t.nanos ∧
        t.nanos + n * nanosPerSecond < 2 * nanosPerSecond) := by
      rw [hsecond]
      omega
    rw [addSeconds, addNanos, dif_neg hpast]
    simp only [hsecond]
    omega

theorem addSeconds_le_addSeconds (t : Instant) {m n : Nat} (h : m ≤ n) :
    t.addSeconds m ≤ t.addSeconds n := by
  rcases Nat.eq_or_lt_of_le h with rfl | hlt
  · exact .inr ⟨rfl, Nat.le_refl _⟩
  · refine .inl ?_
    rw [second_addSeconds, second_addSeconds]
    omega

theorem le_addSeconds (t : Instant) (n : Nat) : t ≤ t.addSeconds n := by
  have h := t.addSeconds_le_addSeconds (Nat.zero_le n)
  rwa [addSeconds_zero] at h

/-- The second at which the calendar ends. -/
def calendarEnd : Int := Date.daysToYear (lastYear + 1) * secondsPerDay

theorem onCalendar_addSeconds {t : Instant} (ht : t.onCalendar) (n : Nat) :
    (t.addSeconds n).onCalendar ↔ t.second + n < calendarEnd := by
  simp only [onCalendar, Bool.and_eq_true, decide_eq_true_eq, second_addSeconds] at ht ⊢
  rw [calendarEnd]
  omega

end Time.Instant

namespace Service

/-- The seconds that an expiry counts for. -/
def countedExpiry (secs : UInt64) : Nat :=
  if secs.toNat ≤ longestExpiry then secs.toNat else 3600

theorem expiryAfter_of_onCalendar {now : Time.Instant} {secs : UInt64}
    (hcalendar : (now.addSeconds (countedExpiry secs)).onCalendar) :
    expiryAfter now secs = some (now.addSeconds (countedExpiry secs)) :=
  if_pos hcalendar

theorem expiryAfter_eq_some {now t : Time.Instant} {secs : UInt64}
    (ht : expiryAfter now secs = some t) :
    t = now.addSeconds (countedExpiry secs) ∧ t.onCalendar := by
  have hown : (if (now.addSeconds (countedExpiry secs)).onCalendar then
      some (now.addSeconds (countedExpiry secs)) else none) = some t := ht
  split at hown
  · next hcalendar =>
    cases hown
    exact ⟨rfl, hcalendar⟩
  · cases hown

/-- Without a word of the processor the clock is read once. -/
theorem invoiceExpiry_alone (setup : Setup) (w : Surroundings) (s : Store) (h : List Turn) :
    (invoiceExpiry setup none).alone w s h =
      ⟨expiryAfter (w h .now) setup.invoiceExpirySecs, s, ⟨.now, w h .now⟩ :: h⟩ := by
  have hread : Program.now.alone w s h = ⟨some (w h .now), s, ⟨.now, w h .now⟩ :: h⟩ := rfl
  refine (alone_bind hread _).trans ?_
  cases expiryAfter (w h .now) setup.invoiceExpirySecs with
  | some t => rfl
  | none => rfl

/-- A call for an invoice, and what it meets with. -/
structure Issuing where
  setup : Setup
  surroundings : Surroundings
  store : Store
  /-- The turns taken before. -/
  turns : List Turn
  ticket : TicketId
  buyer : String
  amount : Sats
  description : String

namespace Issuing

variable {c c' : Issuing} {now : Time.Instant} {i i' : Invoice}

def spec (c : Issuing) : InvoiceSpec := ⟨c.amount, c.description, c.setup.invoiceExpirySecs⟩

/-- The seconds that the configured expiry counts for. -/
def expiry (c : Issuing) : Nat := countedExpiry c.setup.invoiceExpirySecs

def ran (c : Issuing) : Ran (Except IssueError Invoice) :=
  (issue c.setup c.ticket c.buyer c.amount c.description).run.alone c.surroundings c.store c.turns

/-- The buyer's address and the amount are good, and the processor issues the invoice without a
word on its expiry; the clock shows `now` then. -/
structure Silent (c : Issuing) (now : Time.Instant) : Prop where
  buyer : ∃ a, Address.parse c.buyer = .ok a
  amount : c.amount.isZero = false
  issued : ∃ issued, c.surroundings c.turns (.createInvoice c.spec) = .ok issued ∧
    issued.expiresAt = none ∧
    c.surroundings (⟨.createInvoice c.spec, .ok issued⟩ :: c.turns) .now = now

/-- The invoice expires when our own reckoning says, and issuing it breaks off if that names no
time. -/
theorem Silent.ran_eq (hc : c.Silent now) :
    c.ran.result = none ∧ expiryAfter now c.setup.invoiceExpirySecs = none ∨
    ∃ i, c.ran.result = some (.ok i) ∧
      expiryAfter now c.setup.invoiceExpirySecs = some i.expiresAt := by
  obtain ⟨⟨a, hbuyer⟩, hamount, issued, hissued, hsilent, hnow⟩ := hc
  have hasked : (ExceptT.mk (request (.createInvoice c.spec))).run.alone c.surroundings c.store
      c.turns = ⟨some (.ok issued), c.store, ⟨.createInvoice c.spec, .ok issued⟩ :: c.turns⟩ :=
    congrArg (fun answer : Except ProcessorError ProcessorInvoice => (⟨some answer, c.store,
      ⟨.createInvoice c.spec, answer⟩ :: c.turns⟩ : Ran _)) hissued
  have hexpiry := invoiceExpiry_alone c.setup c.surroundings c.store
    (⟨.createInvoice c.spec, .ok issued⟩ :: c.turns)
  rw [hnow] at hexpiry
  have hissues : Comes c.surroundings (fun x _ _ =>
      x = none ∧ expiryAfter now c.setup.invoiceExpirySecs = none ∨
      ∃ i, x = some (.ok i) ∧ expiryAfter now c.setup.invoiceExpirySecs = some i.expiresAt)
      (issue c.setup c.ticket c.buyer c.amount c.description).run c.store c.turns := by
    unfold issue
    simp only [hbuyer, hamount]
    refine .ok (alone_within hasked _) ?_
    rw [run_lift_bind, hsilent]
    cases hown : expiryAfter now c.setup.invoiceExpirySecs with
    | none =>
      rw [hown] at hexpiry
      exact comes_of_alone (alone_bind_none hexpiry _) (.inl ⟨rfl, rfl⟩)
    | some t =>
      rw [hown] at hexpiry
      exact .seq hexpiry (.inr ⟨_, rfl, rfl⟩)
  exact hissues

theorem Silent.expiresAt_eq (hc : c.Silent now) (hi : c.ran.result = some (.ok i)) :
    i.expiresAt = now.addSeconds c.expiry := by
  rcases hc.ran_eq with ⟨hnone, -⟩ | ⟨j, hj, hown⟩
  · cases hi.symm.trans hnone
  · cases hi.symm.trans hj
    exact (expiryAfter_eq_some hown).1

theorem Silent.issues (hc : c.Silent now) (hcalendar : (now.addSeconds c.expiry).onCalendar) :
    ∃ i, c.ran.result = some (.ok i) := by
  rcases hc.ran_eq with ⟨-, hnone⟩ | ⟨i, hi, -⟩
  · rw [expiryAfter_of_onCalendar hcalendar] at hnone
    cases hnone
  · exact ⟨i, hi⟩

/-- What a call comes to whose invoice the processor says nothing on. -/
structure Expires (c : Issuing) (now : Time.Instant) : Prop where
  /-- There is an invoice as long as the calendar reaches to its expiry. -/
  issued : (∃ i, c.ran.result = some (.ok i)) ↔ now.second + c.expiry < Time.Instant.calendarEnd
  /-- It expires as long after the call as the configured expiry counts for. -/
  expiresAt {i : Invoice} : c.ran.result = some (.ok i) → i.expiresAt = now.addSeconds c.expiry
  later {i : Invoice} : c.ran.result = some (.ok i) → now ≤ i.expiresAt
  accepted (e : IssueError) : c.ran.result ≠ some (.error e)

theorem Silent.expires (hc : c.Silent now) (hnow : now.onCalendar) : c.Expires now := by
  have hcalendar := Time.Instant.onCalendar_addSeconds hnow c.expiry
  constructor
  case issued =>
    rw [← hcalendar]
    refine ⟨?_, hc.issues⟩
    rintro ⟨i, hi⟩
    rcases hc.ran_eq with ⟨hnone, -⟩ | ⟨_, -, hown⟩
    · cases hi.symm.trans hnone
    · obtain ⟨hexpires, hreached⟩ := expiryAfter_eq_some hown
      exact hexpires ▸ hreached
  case expiresAt => exact hc.expiresAt_eq
  case later =>
    intro i hi
    rw [hc.expiresAt_eq hi]
    exact now.le_addSeconds c.expiry
  case accepted =>
    intro e he
    rcases hc.ran_eq with ⟨hnone, -⟩ | ⟨i, hi, -⟩
    · cases he.symm.trans hnone
    · cases he.symm.trans hi

/-- An invoice that the processor says nothing on expires as long after the call as the configured
expiry counts for, so a call with a longer expiry makes no invoice that expires earlier. It is
issued unless that is past the end of the calendar. -/
theorem issue_expires :
    (∀ (c : Issuing) now, c.Silent now → now.onCalendar → c.Expires now) ∧
    (∀ (c c' : Issuing) now i i', c.Silent now → c'.Silent now → c.ran.result = some (.ok i) →
      c'.ran.result = some (.ok i') → c.expiry ≤ c'.expiry → i.expiresAt ≤ i'.expiresAt) := by
  constructor
  case left => exact fun c now hc hnow => hc.expires hnow
  case right =>
    intro c c' now i i' hc hc' hi hi' hexpiry
    rw [hc.expiresAt_eq hi, hc'.expiresAt_eq hi']
    exact now.addSeconds_le_addSeconds hexpiry

/-- A call in 1970, answered by a processor that leaves the expiry to us. -/
def sample (secs : UInt64) : Issuing where
  setup := { Office.sampleSetup with invoiceExpirySecs := secs }
  surroundings := fun _ => fun
    | .createInvoice _ => .ok ⟨"", "", "a", 0, none⟩
    | r => Office.Outside.answer {} r
  store := .empty
  turns := []
  ticket := ⟨⟨0⟩⟩
  buyer := "$a@b"
  amount := ⟨5⟩
  description := ""

theorem sample_silent (secs : UInt64) : (sample secs).Silent default :=
  have hbuyer : Address.parse "$a@b" = .ok ⟨"a", "b"⟩ := by rfl
  ⟨⟨_, hbuyer⟩, rfl, _, rfl, rfl, rfl⟩

/-- Ten minutes, and two hours. -/
theorem issue_expires_sample :
    ((sample 600).Silent default ∧ (default : Time.Instant).onCalendar ∧
      (sample 600).Expires default ∧
      ∃ i, (sample 600).ran.result = some (.ok i) ∧ i.expiresAt = .ofSeconds 600) ∧
    (sample 7200).Silent default ∧ (sample 600).expiry ≤ (sample 7200).expiry ∧
      ∀ i i', (sample 600).ran.result = some (.ok i) → (sample 7200).ran.result = some (.ok i') →
        i.expiresAt ≤ i'.expiresAt := by
  obtain ⟨hissues, hlater⟩ := issue_expires
  have hcalendar : (default : Time.Instant).onCalendar := by decide +kernel
  have hexpiry : (sample 600).expiry ≤ (sample 7200).expiry := by decide +kernel
  have hexpires := hissues (sample 600) default (sample_silent 600) hcalendar
  obtain ⟨i, hi⟩ := hexpires.issued.2 (by decide +kernel)
  have hten : (default : Time.Instant).addSeconds (sample 600).expiry = .ofSeconds 600 := by
    decide +kernel
  refine ⟨⟨sample_silent 600, hcalendar, hexpires, i, hi, (hexpires.expiresAt hi).trans hten⟩,
    sample_silent 7200, hexpiry, ?_⟩
  exact fun i i' hi hi' => hlater _ _ default i i' (sample_silent 600) (sample_silent 7200) hi hi'
    hexpiry

/-- Of two calls with an expiry too long to be counted or to fit the calendar, one makes an invoice
that expires sooner than after two hours, and the other breaks off when the processor has issued its
invoice. -/
theorem issue_expires_overlong :
    (∀ secs, (sample secs).Silent default) ∧ (default : Time.Instant).onCalendar ∧
    (∃ i i', (sample 7200).ran.result = some (.ok i) ∧
      (sample 9223372036854776).ran.result = some (.ok i') ∧ i'.expiresAt < i.expiresAt) ∧
    (sample 9223372036854775).ran.result = none := by
  have hsooner : (default : Time.Instant).addSeconds (sample 9223372036854776).expiry <
      (default : Time.Instant).addSeconds (sample 7200).expiry := by decide +kernel
  have hpast : expiryAfter default 9223372036854775 = none := by decide +kernel
  obtain ⟨i, hi⟩ := (sample_silent 7200).issues (by decide +kernel)
  obtain ⟨i', hi'⟩ := (sample_silent 9223372036854776).issues (by decide +kernel)
  refine ⟨sample_silent, by decide +kernel, ⟨i, i', hi, hi', ?_⟩, ?_⟩
  · rwa [(sample_silent _).expiresAt_eq hi, (sample_silent _).expiresAt_eq hi']
  · rcases (sample_silent 9223372036854775).ran_eq with ⟨hnone, -⟩ | ⟨j, -, hown⟩
    · exact hnone
    · cases hpast.symm.trans hown

end Issuing

end Service
end BoxOffice
