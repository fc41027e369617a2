import BoxOffice.Proofs.Office.Basic
import BoxOffice.Proofs.Service.Conduct
import BoxOffice.Proofs.Store.Outcome

/-! What the log of an office shows. Each entry follows from those before it: the store is the one
they lead to, but for the order of rows, and replies as such, a name that is made up is none of
theirs, and the job asked for what it was allowed to after its own turns among them. All else that
is proved of an office is proved of lawful logs, by induction on the log. -/

namespace BoxOffice

open Store

/-- The turns of a task, latest first. -/
def turnsOf (i : Nat) (log : List Entry) : List Turn := (log.filter (·.task = i)).map (·.turn)

/-- The store that a log leads to. -/
def storeAfter : List Entry → Store
  | [] => .empty
  | e :: _ => e.after

/-- An entry that may follow a log. -/
structure Entry.Lawful (e : Entry) (log : List Entry) : Prop where
  before : (storeAfter log).SameRows e.before
  reply {c : Call} {x : Except StoreError c.Reply} : e.turn = .call c x → x = (e.before.perform c).1
  fresh {n : Name} : e.turn.name? = some n → ∀ d ∈ log, d.turn.name? ≠ some n
  allowed : e.job.Allowed (turnsOf e.task log) e.turn.request
  dispatched {c : DispatchContext} : e.job = .route c → ∃ d ∈ log, d.turn.request = .dispatch c

inductive Lawful : List Entry → Prop
  | nil : Lawful []
  | cons {e : Entry} {log : List Entry} (h : Lawful log) (he : e.Lawful log) : Lawful (e :: log)

theorem mem_turnsOf {i : Nat} {log : List Entry} {t : Turn} :
    t ∈ turnsOf i log ↔ ∃ e ∈ log, e.task = i ∧ e.turn = t := by
  simp [turnsOf, and_assoc]

theorem turnsOf_cons_self (e : Entry) (log : List Entry) :
    turnsOf e.task (e :: log) = e.turn :: turnsOf e.task log := by
  simp [turnsOf]

theorem turnsOf_cons_ne {i : Nat} {e : Entry} (h : e.task ≠ i) (log : List Entry) :
    turnsOf i (e :: log) = turnsOf i log := by
  simp [turnsOf, h]

theorem turnsOf_eq_nil {i : Nat} {log : List Entry} (h : ∀ e ∈ log, e.task ≠ i) :
    turnsOf i log = [] := by
  simpa [turnsOf] using h

namespace Lawful

variable {log : List Entry}

theorem suffix {later : List Entry} (h : Lawful (later ++ log)) : Lawful log := by
  induction later with
  | nil => exact h
  | cons e later ih =>
    cases h with
    | cons h he => exact ih h

/-- Every entry follows from those before it. -/
theorem of_mem (h : Lawful log) {e : Entry} (hm : e ∈ log) :
    ∃ later earlier, log = later ++ e :: earlier ∧ Lawful earlier ∧ e.Lawful earlier := by
  obtain ⟨later, earlier, rfl⟩ := List.append_of_mem hm
  cases h.suffix with
  | cons h he => exact ⟨later, earlier, rfl, h, he⟩

/-- What no entry does after another has done it is done by one entry at most. -/
theorem unique {P : Entry → Prop}
    (hP : ∀ {e log}, Lawful log → e.Lawful log → P e → ∀ d ∈ log, ¬ P d) (h : Lawful log)
    {d e : Entry} (hd : d ∈ log) (he : e ∈ log) (hdP : P d) (heP : P e) : d = e := by
  induction h with
  | nil => cases hd
  | cons h hl ih =>
    rcases List.mem_cons.1 hd with rfl | hd' <;> rcases List.mem_cons.1 he with rfl | he'
    · rfl
    · exact absurd heP (hP h hl hdP e he')
    · exact absurd hdP (hP h hl heP d hd')
    · exact ih hd' he'

/-- A name is made up once. -/
theorem name_unique (h : Lawful log) {d e : Entry} {n : Name} (hd : d ∈ log) (he : e ∈ log)
    (hdn : d.turn.name? = some n) (hen : e.turn.name? = some n) : d = e :=
  unique (fun _ hl hn => hl.fresh hn) h hd he hdn hen

end Lawful

/-! ### Names in the store -/

def Store.Has (s : Store) : Name → Prop
  | .ticket k => (s.tickets.find? k).isSome
  | .payment id => (s.payments.find? id).isSome

theorem Store.SameRows.has {s s' : Store} (h : s.SameRows s') {name : Name} (hn : s'.Has name) :
    s.Has name := by
  cases name with
  | ticket k => rwa [Has, h.tickets.find?]
  | payment id => rwa [Has, h.payments.find?]

/-- The call brings the name into the store. -/
def Store.Call.Brings (c : Call) (name : Name) : Prop :=
  ∃ n id, c = .createPurchase n id ∧ (name = .ticket n.ticketId ∨ name = .payment id)

theorem Table.isSome_find?_set {κ ν : Type} [DecidableEq κ] {t : Table κ ν} {k k' : κ} {v : ν}
    (h : ((t.set k v).find? k').isSome) : k = k' ∨ (t.find? k').isSome := by
  rw [find?_set] at h
  split at h
  · exact .inl ‹_›
  · exact .inr h

theorem Store.has_of_update {s : Store} {p p' : Payment} {t t' : Ticket} {i : Invoice}
    (hp : s.payments.find? p.id = some p) (ht : s.tickets.find? p.ticketId = some t)
    {name : Name} (hn : (s.update p' t' i).Has name) (hid : p'.id = p.id)
    (hk : p'.ticketId = p.ticketId) : s.Has name := by
  cases name with
  | ticket k =>
    rcases Table.isSome_find?_set hn with rfl | hn
    · simp [Has, hk, ht]
    · exact hn
  | payment id =>
    rcases Table.isSome_find?_set hn with rfl | hn
    · simp [Has, hid, hp]
    · exact hn

/-- Only the creation of a ticket brings names into a store. -/
theorem Store.Outcome.has {s s' : Store} {c : Call} {x : Except StoreError c.Reply}
    (h : Outcome s c x s') {name : Name} (hn : s'.Has name) : s.Has name ∨ c.Brings name := by
  cases h with
  | kept => exact .inl hn
  | eventPut => exact .inl hn
  | credentialPut => exact .inl hn
  | @created n id =>
    cases name with
    | ticket k =>
      rcases Table.isSome_find?_set hn with rfl | hn
      · exact .inr ⟨n, id, rfl, .inl rfl⟩
      · exact .inl hn
    | payment id' =>
      cases hi : n.invoice with
      | none =>
        simp only [Has, adding, NewPurchase.payment, hi] at hn
        exact .inl hn
      | some i =>
        simp only [Has, adding, NewPurchase.payment, hi] at hn
        rcases Table.isSome_find?_set hn with rfl | hn
        · exact .inr ⟨n, id, rfl, .inr rfl⟩
        · exact .inl hn
  | applied hp hk ht =>
    subst hk
    exact .inl (has_of_update hp ht hn rfl rfl)
  | reissued hp _ ht => exact .inl (has_of_update hp ht hn rfl rfl)
  | recorded hp ht => exact .inl (has_of_update hp ht hn rfl rfl)

/-! ### Every store on the way -/

theorem Entry.Lawful.outcome {e : Entry} {log : List Entry} (he : e.Lawful log)
    (hs : e.before.Coherent) {c : Call} {x : Except StoreError c.Reply}
    (ht : e.turn = .call c x) : Outcome e.before c x e.after := by
  have hx := he.reply ht
  obtain ⟨i, job, before, turn⟩ := e
  cases ht
  rw [hx]
  exact perform_outcome hs c

/-- A task makes up the names that it creates a ticket under. -/
theorem Entry.Lawful.made_up {e : Entry} {log : List Entry} (he : e.Lawful log) {c : Call}
    {x : Except StoreError c.Reply} (ht : e.turn = .call c x) {name : Name} (hb : c.Brings name) :
    ∃ d ∈ log, d.task = e.task ∧ d.turn.name? = some name := by
  obtain ⟨n, id, rfl, hname⟩ := hb
  have hallowed := he.allowed
  rw [ht] at hallowed
  obtain ⟨hticket, hpayment, -⟩ := hallowed
  rcases hname with rfl | rfl
  · obtain ⟨d, hd, htask, hturn⟩ := mem_turnsOf.1 hticket
    exact ⟨d, hd, htask, by rw [hturn]; rfl⟩
  · obtain ⟨d, hd, htask, hturn⟩ := mem_turnsOf.1 hpayment
    exact ⟨d, hd, htask, by rw [hturn]; rfl⟩

/-- A task creates one ticket. -/
theorem Entry.Lawful.creates_once {e : Entry} {log : List Entry} (he : e.Lawful log) {c c' : Call}
    {x : Except StoreError c.Reply} {x' : Except StoreError c'.Reply} (ht : e.turn = .call c x)
    {name name' : Name} (hb : c.Brings name) {d : Entry} (hd : d ∈ log) (htask : d.task = e.task)
    (ht' : d.turn = .call c' x') : ¬ c'.Brings name' := by
  rintro ⟨n', id', rfl, -⟩
  obtain ⟨n, id, rfl, -⟩ := hb
  have hallowed := he.allowed
  rw [ht] at hallowed
  have hputs := hallowed.2.2.2 d.turn (mem_turnsOf.2 ⟨d, hd, htask, rfl⟩)
  rw [ht'] at hputs
  cases hputs

/-- An entry makes a call, or leaves the store as it was. -/
theorem Entry.call_or_kept (e : Entry) :
    (∃ c x, e.turn = .call c x) ∨ e.after = e.before ∧ ∀ c x, e.turn ≠ .call c x := by
  obtain ⟨i, job, before, r, x⟩ := e
  cases r with
  | store c => exact .inl ⟨c, x, rfl⟩
  | _ => exact .inr ⟨rfl, fun _ _ h => nomatch congrArg Turn.request h⟩

namespace Lawful

variable {log : List Entry}

/-- What the store has comes from an entry that created it. -/
def Traced (s : Store) (log : List Entry) : Prop :=
  ∀ name, s.Has name → ∃ e ∈ log, ∃ c x, e.turn = .call c x ∧ c.Brings name

/-- A ticket is created under names that the store does not have: whoever had made them up for
another creation was the same task, and a task creates one ticket. -/
theorem fresh_call (h : Lawful log) {e : Entry} (he : e.Lawful log)
    (htraced : Traced e.before log) {c : Call} {x : Except StoreError c.Reply}
    (ht : e.turn = .call c x) : c.Fresh e.before := by
  have hnew : ∀ name, c.Brings name → ¬ e.before.Has name := by
    intro name hb hhas
    obtain ⟨d, hd, c', x', ht', hb'⟩ := htraced name hhas
    obtain ⟨later, earlier, rfl, -, hd'⟩ := h.of_mem hd
    obtain ⟨u, hu, hutask, huname⟩ := he.made_up ht hb
    obtain ⟨v, hv, hvtask, hvname⟩ := hd'.made_up ht' hb'
    cases h.name_unique hu (List.mem_append_right _ (.tail _ hv)) huname hvname
    exact he.creates_once ht hb hd (hvtask.symm.trans hutask) ht' hb'
  cases c with
  | createPurchase n id =>
    constructor
    · have := hnew (.ticket n.ticketId) ⟨n, id, rfl, .inl rfl⟩
      simpa [Has] using this
    · have := hnew (.payment id) ⟨n, id, rfl, .inr rfl⟩
      intro _
      simpa [Has] using this
  | _ => trivial

theorem coherent_traced (h : Lawful log) :
    (storeAfter log).Coherent ∧ Traced (storeAfter log) log := by
  induction h with
  | nil =>
    refine ⟨coherent_empty, fun name hn => ?_⟩
    cases name <;> simp [storeAfter, Store.empty, Has] at hn
  | @cons e log h he ih =>
    have hs := he.before.coherent ih.1
    have htraced : Traced e.before log := fun name hn => ih.2 name (he.before.has hn)
    rcases e.call_or_kept with ⟨c, x, ht⟩ | ⟨hkept, -⟩
    · have houtcome := he.outcome hs ht
      refine ⟨houtcome.coherent hs (fresh_call h he htraced ht), fun name hn => ?_⟩
      rcases houtcome.has hn with hn | hn
      · obtain ⟨d, hd, hbrings⟩ := htraced name hn
        exact ⟨d, .tail _ hd, hbrings⟩
      · exact ⟨e, List.mem_cons_self, c, x, ht, hn⟩
    · rw [Traced, storeAfter, hkept]
      refine ⟨hs, fun name hn => ?_⟩
      obtain ⟨d, hd, hbrings⟩ := htraced name hn
      exact ⟨d, .tail _ hd, hbrings⟩

theorem coherent (h : Lawful log) : (storeAfter log).Coherent := h.coherent_traced.1

theorem coherent_before (h : Lawful log) {e : Entry} (he : e.Lawful log) : e.before.Coherent :=
  he.before.coherent h.coherent

/-- What a call made of the store that it found. -/
theorem outcome (h : Lawful log) {e : Entry} (he : e.Lawful log) {c : Call}
    {x : Except StoreError c.Reply} (ht : e.turn = .call c x) : Outcome e.before c x e.after :=
  he.outcome (h.coherent_before he) ht

theorem fresh (h : Lawful log) {e : Entry} (he : e.Lawful log) {c : Call}
    {x : Except StoreError c.Reply} (ht : e.turn = .call c x) : c.Fresh e.before :=
  fresh_call h he (fun name hn => h.coherent_traced.2 name (he.before.has hn)) ht

end Lawful

end BoxOffice
