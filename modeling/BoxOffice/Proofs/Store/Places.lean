import BoxOffice.Proofs.Store.Changes
import BoxOffice.Proofs.Store.Rows

/-! The places that tickets of an event take up. A call takes one place at most, and it takes one
only where the count of those taken, which stops at the largest number of 32 bits, is below the
capacity of the event. -/

namespace BoxOffice

/-- The ticket takes up a place of the event. -/
def Ticket.holds (id : EventId) (t : Ticket) : Bool := t.eventId = id && t.status.holdsPlace

theorem Ticket.eventId_of_holds {id : EventId} {t : Ticket} (h : t.holds id) : t.eventId = id := by
  simp only [Ticket.holds, Bool.and_eq_true, decide_eq_true_eq] at h
  exact h.1

namespace Store

variable {s s' : Store} {id : EventId}

/-- There is room where places are left, although the count of those taken stops somewhere. -/
theorem hasRoom_heldCount {e : Event} :
    e.hasRoom (s.heldCount id) ↔ s.heldPlaces id < e.capacity.toNat := by
  have hcount : (s.heldCount id).toNat = min (s.heldPlaces id) (UInt32.size - 1) := by
    rw [heldCount, UInt32.toNat_ofNat']
    exact Nat.mod_eq_of_lt (Nat.lt_of_le_of_lt (Nat.min_le_right _ _) (by decide))
  -- a capacity is a number of 32 bits, so a count below it did not stop
  have := e.capacity.toNat_lt
  rw [Event.hasRoom_iff, hcount]
  simp only [UInt32.size]
  omega

theorem Coherent.heldPlaces_eq_zero (hs : s.Coherent) (h : s.events.find? id = none) :
    s.heldPlaces id = 0 := by
  rw [heldPlaces, List.countP_eq_zero]
  intro t ht
  obtain ⟨k, hk⟩ := Table.mem_values.1 ht
  obtain ⟨e, he⟩ := hs.event_of_ticket hk
  have hne : t.eventId ≠ id := by
    rintro rfl
    cases h.symm.trans he
  simp [hne]

/-- The call puts an event in with fewer places than it has. -/
def Call.lowers (s : Store) (id : EventId) : Call → Bool
  | .putEvent new => new.id = id && (s.events.find? id).any (new.capacity < ·.capacity)
  | _ => false

/-- The event has no more tickets that take up a place than places. -/
def Fits (id : EventId) (s : Store) : Prop :=
  ∀ event, s.events.find? id = some event → s.heldPlaces id ≤ event.capacity.toNat

theorem SameRows.fits (h : s.SameRows s') (hfits : s.Fits id) : s'.Fits id := by
  intro event hevent
  rw [← h.events.find?] at hevent
  exact Nat.le_trans (Nat.le_of_eq (h.tickets.values.countP_eq _).symm) (hfits event hevent)

theorem fits_putEvent (hs : s.Coherent) (hfits : s.Fits id) {e : Event}
    (hlow : (Call.putEvent e).lowers s id = false) :
    Fits id { s with events := s.events.set e.id e } := by
  intro event hevent
  rw [Table.find?_set] at hevent
  split at hevent
  · next hid =>
    cases hevent
    subst hid
    cases hold : s.events.find? e.id with
    | none =>
      have := hs.heldPlaces_eq_zero hold
      exact Nat.le_trans (Nat.le_of_eq this) (Nat.zero_le _)
    | some old =>
      simp only [Call.lowers, hold, decide_true, Option.any_some, Bool.true_and,
        decide_eq_false_iff_not, UInt32.not_lt] at hlow
      exact Nat.le_trans (hfits old hold) hlow
  · exact hfits event hevent

/-- A ticket that takes up a place now took it up before, or found room for it. -/
theorem fits_setTicket {k : TicketId} {t : Ticket} (hfits : s.Fits id)
    (hevents : s'.events = s.events) (htickets : s'.tickets = s.tickets.set k t)
    (h : t.holds id → (s.tickets.find? k).any (Ticket.holds id) ∨
      ∃ e, s.events.find? id = some e ∧ e.hasRoom (s.heldCount id)) : s'.Fits id := by
  intro event hevent
  have hcount : s'.heldPlaces id + ((s.tickets.find? k).any (Ticket.holds id)).toNat =
      s.heldPlaces id + (t.holds id).toNat := by
    rw [heldPlaces, htickets]
    exact s.tickets.countP_set k t (Ticket.holds id)
  rw [hevents] at hevent
  have hle := hfits event hevent
  cases ht : t.holds id with
  | false =>
    rw [ht, Bool.toNat_false] at hcount
    omega
  | true =>
    rw [ht, Bool.toNat_true] at hcount
    rcases h ht with hold | ⟨e, he, hroom⟩
    · rw [hold, Bool.toNat_true] at hcount
      omega
    · cases hevent.symm.trans he
      have := hasRoom_heldCount.1 hroom
      omega

/-- A call that changes a status finds the place taken; the others that take one find room. -/
theorem Outcome.fits {c : Call} {x : Except StoreError c.Reply} (h : Outcome s c x s')
    (hs : s.Coherent) (hguard : c.Guarded) (hlow : c.lowers s id = false) (hfits : s.Fits id) :
    s'.Fits id := by
  cases h with
  | kept => exact hfits
  | eventPut => exact fits_putEvent hs hfits hlow
  | credentialPut => exact hfits
  | @created n p e he _ hroom =>
    refine fits_setTicket hfits rfl rfl fun h => .inr ⟨e, ?_⟩
    cases Ticket.eventId_of_holds h
    rw [hs.event_key he] at hroom
    exact ⟨he, hroom⟩
  | applied hp hk ht hi ha hsource =>
    subst hk
    refine fits_setTicket hfits rfl rfl fun h => .inl ?_
    have hpending := ha.status
    rw [hsource, hguard.1] at hpending
    rw [moved, ht, Option.any_some, Ticket.holds, hpending, ← Ticket.eventId_of_holds h]
    simp [PaymentStatus.ticketStatus, TicketStatus.holdsPlace]
  | @reissued p t e i hp hr ht he _ hroom =>
    refine fits_setTicket hfits rfl rfl fun h => .inr ⟨e, ?_⟩
    cases Ticket.eventId_of_holds h
    rw [hs.event_key he] at hroom
    exact ⟨he, hroom⟩
  | recorded hp ht =>
    refine fits_setTicket hfits rfl rfl fun h => .inl ?_
    rw [ht]
    exact h

end Store

end BoxOffice
