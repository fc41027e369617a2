import BoxOffice.Proofs.Office.Changes
import BoxOffice.Proofs.Store.Places

/-! No event has more tickets out than places, however late those who sell learn of one another,
as long as its capacity is not lowered. -/

namespace BoxOffice

open Store

/-- The entry puts the event in with fewer places than it has. -/
def Entry.lowers (id : EventId) (e : Entry) : Bool :=
  match e.turn.request with
  | .store c => c.lowers e.before id
  | _ => false

theorem Lawful.fits {log : List Entry} {id : EventId} (h : Lawful log)
    (hlow : ∀ e ∈ log, e.lowers id = false) : (storeAfter log).Fits id := by
  induction h with
  | nil =>
    intro event hevent
    cases hevent
  | @cons e log h he ih =>
    obtain ⟨hlow, hbefore⟩ := List.forall_mem_cons.1 hlow
    have hfits := he.before.fits (ih hbefore)
    rcases e.call_or_kept with ⟨c, x, ht⟩ | ⟨hkept, -⟩
    · rw [Entry.lowers, ht] at hlow
      exact (h.outcome he ht).fits (h.coherent_before he) (guarded he ht) hlow hfits
    · rw [storeAfter, hkept]
      exact hfits

namespace Office

theorem tickets_le_capacity (setup : Setup) (moves : List Move) (id : EventId)
    (hlow : ∀ e ∈ (run setup moves).log, e.lowers id = false) {event : Event}
    (hevent : (run setup moves).store.events.find? id = some event) :
    (((run setup moves).store.tickets.values.filter fun t =>
      t.eventId = id && t.status ∈ [TicketStatus.pending, .paid, .free]).length) ≤
      event.capacity.toNat := by
  have ho := sound_run setup moves
  have hfits := ho.store.fits (ho.lawful.fits hlow)
  have hholds : ∀ status : TicketStatus,
      decide (status ∈ [TicketStatus.pending, .paid, .free]) = status.holdsPlace := by
    intro status
    cases status <;> rfl
  simp only [hholds, ← List.countP_eq_length_filter]
  exact hfits event hevent

/-- Two buyers see the last place, and both go on to create a ticket for it. -/
def sampleContest : List Move :=
  .begin (.putEvent sampleEvent) :: Move.turns 1 0 {} ++ [samplePurchase, samplePurchase] ++
  Move.turns 6 1 { invoice := "a" } ++
  Move.turns 6 2 { invoice := "b", ticket := ⟨⟨9⟩⟩, payment := ⟨⟨9⟩⟩ } ++
  Move.turns 6 1 { invoice := "a" } ++
  Move.turns 6 2 { invoice := "b", ticket := ⟨⟨9⟩⟩, payment := ⟨⟨9⟩⟩ }

theorem tickets_le_capacity_sampleContest :
    let o := run sampleSetup sampleContest
    (o.log.filter fun e => e.turn.request matches .store (.createPurchase _ _)).length = 2 ∧
      (o.store.tickets.values.filter fun t =>
        t.eventId = sampleEvent.id && t.status ∈ [TicketStatus.pending, .paid, .free]).length ≤
        sampleEvent.capacity.toNat :=
  ⟨by decide +kernel, tickets_le_capacity sampleSetup sampleContest sampleEvent.id
    (by decide +kernel) (by decide +kernel)⟩

end Office

end BoxOffice
