import BoxOffice.Proofs.Office.Lawful
import BoxOffice.Proofs.Store.Invoices
import Mathlib.Data.List.Pairwise

/-! Invoices over a log. A payment has an invoice that was issued to the task that put it there, and
a task puts one. So two payments do not have one invoice unless the processor issued it twice. -/

namespace BoxOffice

open Store

/-- The encoded invoice that the processor issued. -/
def Entry.issued? (e : Entry) : Option String :=
  match e.turn with
  | ⟨.createInvoice _, .ok x⟩ => some x.encoded
  | _ => none

theorem issued_turnsOf {i : Nat} {log : List Entry} {encoded : String}
    (h : Issued encoded (turnsOf i log)) : ∃ e ∈ log, e.task = i ∧ e.issued? = some encoded := by
  obtain ⟨spec, x, hm, rfl⟩ := h
  obtain ⟨e, he, htask, hturn⟩ := mem_turnsOf.1 hm
  exact ⟨e, he, htask, by rw [Entry.issued?, hturn]⟩

theorem eq_of_nodup_filterMap {α β : Type} {f : α → Option β} {l : List α}
    (h : (l.filterMap f).Nodup) {a b : α} (ha : a ∈ l) (hb : b ∈ l) {y : β} (hfa : f a = some y)
    (hfb : f b = some y) : a = b := by
  by_contra hne
  have : Std.Symm fun a b => ∀ u, f a = some u → ∀ v, f b = some v → u ≠ v :=
    ⟨fun _ _ h u hu v hv => (h v hv u hu).symm⟩
  exact (List.pairwise_filterMap.1 h).forall ha hb hne y hfa y hfb rfl

/-- An invoice that a call puts into a payment was issued to the task, which put none before. -/
theorem Entry.Lawful.put {e : Entry} {log : List Entry} (he : e.Lawful log) {c : Call}
    {x : Except StoreError c.Reply} (ht : e.turn = .call c x) {i : Invoice}
    (hi : c.invoice? = some i) : e.turn.request.puts ∧
      (∃ d ∈ log, d.task = e.task ∧ d.issued? = some i.encoded) ∧
      ∀ d ∈ log, d.task = e.task → d.turn.request.puts = false := by
  have hallowed := he.allowed
  rw [ht] at hallowed ⊢
  obtain ⟨hputs, hissued, hnone⟩ : (Request.store c).puts ∧
      Issued i.encoded (turnsOf e.task log) ∧
      ∀ t ∈ turnsOf e.task log, t.request.puts = false := by
    cases c with
    | createPurchase n id => exact ⟨rfl, hallowed.2.2.1 i hi, hallowed.2.2.2⟩
    | reissue id j =>
      cases hi
      exact ⟨rfl, hallowed⟩
    | _ => cases hi
  exact ⟨hputs, issued_turnsOf hissued,
    fun d hd htask => hnone d.turn (mem_turnsOf.2 ⟨d, hd, htask, rfl⟩)⟩

namespace Lawful

variable {log : List Entry}

/-- What is true of each invoice and its amount when a call puts it into a payment, and stays so, is
true of every payment. -/
theorem billed {P : List Entry → String → Sats → Prop}
    (hmono : ∀ {e log encoded amount}, P log encoded amount → P (e :: log) encoded amount)
    (hput : ∀ {e log}, e.Lawful log → ∀ {c : Call} {x i}, e.turn = .call c x →
      c.invoice? = some i → P (e :: log) i.encoded i.amount)
    (h : Lawful log) {id : PaymentId} {p : Payment}
    (hp : (storeAfter log).payments.find? id = some p) : P log p.invoice p.amount := by
  induction h generalizing id p with
  | nil => cases hp
  | @cons e log h he ih =>
    have hbefore : ∀ {id q}, e.before.payments.find? id = some q →
        P (e :: log) q.invoice q.amount := by
      intro id q hq
      rw [← he.before.payments.find?] at hq
      exact hmono (ih hq)
    rcases e.call_or_kept with ⟨c, x, ht⟩ | ⟨hkept, -⟩
    · exact (h.outcome he ht).billed hbefore (fun _ hi => hput he ht hi) hp
    · rw [storeAfter, hkept] at hp
      exact hbefore hp

/-- The invoice of a payment was issued to a task that put it there. -/
theorem invoice_issued (h : Lawful log) {id : PaymentId} {p : Payment}
    (hp : (storeAfter log).payments.find? id = some p) : ∃ d ∈ log, ∃ e ∈ log,
      d.issued? = some p.invoice ∧ d.task = e.task ∧ e.turn.request.puts := by
  refine h.billed (P := fun log encoded _ => ∃ d ∈ log, ∃ e ∈ log, d.issued? = some encoded ∧
    d.task = e.task ∧ e.turn.request.puts) ?_ ?_ hp
  · rintro e log encoded amount ⟨d, hd, u, hu, hissued⟩
    exact ⟨d, .tail _ hd, u, .tail _ hu, hissued⟩
  · intro e log he c x i ht hi
    obtain ⟨hputs, ⟨d, hd, htask, hissued⟩, -⟩ := he.put ht hi
    exact ⟨d, .tail _ hd, e, List.mem_cons_self, hissued, htask, hputs⟩

/-- No two payments have one invoice if the processor issues none twice. -/
theorem invoiceUnique (h : Lawful log) (hissued : (log.filterMap Entry.issued?).Nodup) :
    (storeAfter log).InvoiceUnique := by
  induction h with
  | nil => exact invoiceUnique_empty
  | @cons e log h he ih =>
    have hlog := hissued.sublist ((List.sublist_cons_self e log).filterMap _)
    have hunique := he.before.invoiceUnique (ih hlog)
    rcases e.call_or_kept with ⟨c, x, ht⟩ | ⟨hkept, -⟩
    · refine (h.outcome he ht).invoiceUnique hunique ?_
      cases c with
      | reissue id i =>
        rintro ⟨j, q, -, hq, hinvoice⟩
        rw [← he.before.payments.find?] at hq
        obtain ⟨-, ⟨d, hd, htask, hd'⟩, hnone⟩ := he.put ht rfl
        obtain ⟨u, hu, v, hv, hu', huv, hputs⟩ := h.invoice_issued hq
        -- what was issued to this task would have been put by it before
        cases eq_of_nodup_filterMap hlog hd hu hd' (hinvoice ▸ hu')
        cases (hnone v hv (huv.symm.trans htask)).symm.trans hputs
      | _ => trivial
    · rw [storeAfter, hkept]
      exact hunique

end Lawful

end BoxOffice
