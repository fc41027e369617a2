import BoxOffice.Proofs.Store.Coherence
import BoxOffice.Proofs.Text.Numeral
import BoxOffice.Rehearsal.Processor
import Mathlib.Data.List.Nodup

/-! What the stand-in processor gives over any calls. Every name that it makes carries the number
of names before it, so nothing that it gives falls on anything given before, and every row that
it holds stays as it is. -/

namespace BoxOffice.Rehearsal.Processor

variable {p p' : Processor}

/-! ### Numbers in names -/

theorem separator_not_mem {c : Char} (hc : c.isDigit = false) (width n : Nat) :
    c ∉ Text.filled 10 width n := fun hmem => by
  simp [Text.isDigit_of_mem_filled hmem] at hc

/-- The name of the `n`-th thing of a kind. -/
def nameOf (kind : String) (n : Nat) : String := "mock-" ++ kind ++ "-" ++ n.repr

/-- A kind without a hyphen ends at the hyphen before the number. -/
theorem nameOf_inj {kind kind' : String} {n m : Nat} (hkind : '-' ∉ kind.toList)
    (h : nameOf kind n = nameOf kind' m) : n = m := by
  have hlist := congrArg String.toList h
  simp only [nameOf, String.toList_append, Text.repr_eq_ofList_filled, String.toList_ofList,
    List.append_assoc, List.append_cancel_left_eq] at hlist
  obtain ⟨-, -, hnumber⟩ :=
    (List.append_cons_inj_of_notMem hkind (separator_not_mem (by decide) 0 n)).1 hlist
  exact (Text.filled_inj (by decide) (by decide)).1 hnumber

theorem numbered_id (n : Nat) (a : Sats) : (numbered n a).id = nameOf "inv" n := rfl

theorem numbered_id_inj {n m : Nat} {a b : Sats} (h : (numbered n a).id = (numbered m b).id) :
    n = m := by
  rw [numbered_id, numbered_id] at h
  exact nameOf_inj (by decide) h

theorem numbered_paymentHash_inj {n m : Nat} {a b : Sats}
    (h : (numbered n a).paymentHash = (numbered m b).paymentHash) : n = m :=
  (Text.filled_inj (by decide) (by decide)).1 (String.ofList_injective h)

/-- The amount ends at the first `n` behind it, so that requests with one text have one number,
whatever their amounts are. -/
theorem numbered_encoded_inj {n m : Nat} {a b : Sats}
    (h : (numbered n a).encoded = (numbered m b).encoded) : n = m := by
  have hlist := congrArg String.toList h
  simp only [numbered, String.toList_append, Text.padded, Text.repr_eq_ofList_filled,
    String.toList_ofList, List.append_assoc, List.append_cancel_left_eq] at hlist
  have hbehind : 'n' ∉ "1pmock".toList ++ Text.filled 10 10 n :=
    List.not_mem_append (by decide) (separator_not_mem (by decide) 10 n)
  obtain ⟨-, -, hnumber⟩ :=
    (List.append_cons_inj_of_notMem (separator_not_mem (by decide) 0 _) hbehind).1 hlist
  exact (Text.filled_inj (by decide) (by decide)).1 (List.append_cancel_left hnumber)

/-! ### Numbering -/

section Serial

variable {α β : Type} {made : Nat → α → Prop} {l : List α}

/-- The entries are made with 1, 2 and so on; the latest stands first. -/
inductive Serial (made : Nat → α → Prop) : List α → Prop where
  | nil : Serial made []
  | cons {x : α} {l : List α} : made (l.length + 1) x → Serial made l → Serial made (x :: l)

theorem Serial.made_of_mem (h : Serial made l) {x : α} (hx : x ∈ l) :
    ∃ n ≤ l.length, made n x := by
  induction h with
  | nil => cases hx
  | cons hmade _ ih =>
    rcases List.mem_cons.1 hx with rfl | hx
    · exact ⟨_, Nat.le_refl _, hmade⟩
    · obtain ⟨n, hn, hmade⟩ := ih hx
      exact ⟨n, Nat.le_succ_of_le hn, hmade⟩

/-- Whatever tells the number that an entry was made with is different for all of them. -/
theorem Serial.nodup_map {f : α → β}
    (hf : ∀ {n m x y}, made n x → made m y → f x = f y → n = m) (h : Serial made l) :
    (l.map f).Nodup := by
  induction h with
  | nil => exact List.nodup_nil
  | @cons x l hmade hrest ih =>
    refine List.nodup_cons.2 ⟨fun hx => ?_, ih⟩
    obtain ⟨y, hy, hxy⟩ := List.mem_map.1 hx
    obtain ⟨n, hn, hy⟩ := hrest.made_of_mem hy
    have := hf hmade hy hxy.symm
    omega

end Serial

/-- The `n`-th invoice, of any amount. -/
def IsInvoice (n : Nat) (i : ProcessorInvoice) : Prop := ∃ a, i = numbered n a

/-- A name for the `n`-th entity, whichever way its money went. -/
def NamesEntity (n : Nat) (id : String) : Prop := ∃ kind, '-' ∉ kind.toList ∧ id = nameOf kind n

theorem NamesEntity.unique {n m : Nat} {id id' : String} (hn : NamesEntity n id)
    (hm : NamesEntity m id') (h : id = id') : n = m := by
  obtain ⟨kind, hkind, rfl⟩ := hn
  obtain ⟨kind', -, rfl⟩ := hm
  exact nameOf_inj hkind h

/-! ### Calls -/

/-- What is asked of the processor. Fetching changes nothing and is left out. -/
inductive Call where
  | createInvoice (spec : InvoiceSpec)
  | failNext
  | settleIncoming (encoded : String)
  | settleOutgoing (encoded : String)

/-- A call with what it gave. -/
inductive Turn where
  | created (answer : Except ProcessorError ProcessorInvoice)
  | failing
  | incoming (encoded : String) (id : Option String)
  | outgoing (encoded id : String)

/-- The invoice that was issued. -/
def Turn.invoice? : Turn → Option ProcessorInvoice
  | .created (.ok i) => some i
  | _ => none

/-- The name of the entity that was recorded. -/
def Turn.entity? : Turn → Option String
  | .incoming _ id => id
  | .outgoing _ id => some id
  | _ => none

def perform (p : Processor) : Call → Turn × Processor
  | .createInvoice spec => (p.createInvoice spec).map .created id
  | .failNext => (.failing, p.failNext)
  | .settleIncoming encoded => (p.settleIncoming encoded).map (.incoming encoded) id
  | .settleOutgoing encoded => (p.settleOutgoing encoded).map (.outgoing encoded) id

/-- The processor after calls from its beginning, the latest first. -/
def run : List Call → Processor
  | [] => fresh
  | call :: before => ((run before).perform call).2

def turns : List Call → List Turn
  | [] => []
  | call :: before => ((run before).perform call).1 :: turns before

def issuedBy (calls : List Call) : List ProcessorInvoice := (turns calls).filterMap Turn.invoice?

def namedBy (calls : List Call) : List String := (turns calls).filterMap Turn.entity?

/-- The last request that an invoice should fail came after the last request for one. -/
def Armed (calls : List Call) : Prop :=
  ∃ since before, calls = since ++ .failNext :: before ∧ ∀ spec, .createInvoice spec ∉ since

/-! ### Steps -/

/-- What one call does. -/
inductive Steps (p : Processor) : Turn → Processor → Prop where
  | failed : p.failsNext = true →
      Steps p (.created (.error (.unavailable "mock processor offline")))
        { p with failsNext := false }
  | issued (a : Sats) : p.failsNext = false →
      Steps p (.created (.ok (numbered (p.issued + 1) a)))
        { p with
          issued := p.issued + 1
          invoices := p.invoices.set (numbered (p.issued + 1) a).id (numbered (p.issued + 1) a) }
  | failing : Steps p .failing p.failNext
  | unknown {encoded : String} : Steps p (.incoming encoded none) p
  | incoming {encoded : String} {i : ProcessorInvoice} :
      p.invoices.values.find? (·.encoded == encoded) = some i →
      Steps p (.incoming encoded (some (p.nextEntity "in")))
        { p with entities := p.entities.set (p.nextEntity "in") (.incoming (p.nextEntity "in") i.id) }
  | outgoing {encoded : String} :
      Steps p (.outgoing encoded (p.nextEntity "out"))
        { p with
          entities := p.entities.set (p.nextEntity "out")
            (.outgoing (p.nextEntity "out") (some (.value encoded))) }

theorem perform_steps (p : Processor) (call : Call) :
    Steps p (p.perform call).1 (p.perform call).2 := by
  cases call with
  | createInvoice spec =>
    cases h : p.failsNext with
    | true => simpa [perform, createInvoice, h] using Steps.failed h
    | false => simpa [perform, createInvoice, h] using Steps.issued spec.amount h
  | failNext => exact .failing
  | settleIncoming encoded =>
    cases h : p.invoices.values.find? (·.encoded == encoded) with
    | none => simpa [perform, settleIncoming, h] using Steps.unknown
    | some i => simpa [perform, settleIncoming, h] using Steps.incoming h
  | settleOutgoing encoded => exact .outgoing

/-! ### What is held -/

/-- The processor holds what it gave: these invoices, and entities of these names. The latest
stand first. -/
structure Holds (p : Processor) (invoices : List ProcessorInvoice) (ids : List String) :
    Prop where
  invoicesSerial : Serial IsInvoice invoices
  idsSerial : Serial NamesEntity ids
  issued : p.issued = invoices.length
  size : p.entities.rows.length = ids.length
  invoice : ∀ {k i}, p.invoices.find? k = some i ↔ i ∈ invoices ∧ i.id = k
  entity : ∀ {k e}, p.entities.find? k = some e → k ∈ ids

/-- All rows of the one are rows of the other. -/
structure Grows (p p' : Processor) : Prop where
  invoices : ∀ {k i}, p.invoices.find? k = some i → p'.invoices.find? k = some i
  entities : ∀ {k e}, p.entities.find? k = some e → p'.entities.find? k = some e

theorem Grows.refl (p : Processor) : Grows p p := ⟨id, id⟩

theorem Grows.trans {p'' : Processor} (h : Grows p p') (h' : Grows p' p'') : Grows p p'' :=
  ⟨fun hi => h'.invoices (h.invoices hi), fun he => h'.entities (h.entities he)⟩

section Table

variable {κ ν : Type} [DecidableEq κ] {t : Table κ ν} {k k' : κ} {v v' : ν}

theorem find?_set_absent (hk : t.find? k = none) (hk' : t.find? k' = some v') :
    (t.set k v).find? k' = some v' := by
  have hne : k ≠ k' := fun e => by simp [← e, hk] at hk'
  rw [Table.find?_set_ne t hne, hk']

theorem length_rows_set_absent (hk : t.find? k = none) :
    (t.set k v).rows.length = t.rows.length + 1 := by
  simpa [Table.values, hk] using t.countP_set k v fun _ => true

end Table

namespace Holds

variable {invoices : List ProcessorInvoice} {ids : List String}

theorem empty : Holds fresh [] [] where
  invoicesSerial := .nil
  idsSerial := .nil
  issued := rfl
  size := rfl
  invoice := by simp [fresh]
  entity := by simp [fresh]

theorem absent_invoice (h : Holds p invoices ids) (a : Sats) :
    p.invoices.find? (numbered (p.issued + 1) a).id = none := by
  refine Option.eq_none_iff_forall_ne_some.2 fun i hi => ?_
  obtain ⟨hmem, hid⟩ := h.invoice.1 hi
  obtain ⟨n, hn, b, rfl⟩ := h.invoicesSerial.made_of_mem hmem
  have := numbered_id_inj hid
  have := h.issued
  omega

theorem absent_entity (h : Holds p invoices ids) {id : String}
    (hid : NamesEntity (p.entities.rows.length + 1) id) : p.entities.find? id = none := by
  refine Option.eq_none_iff_forall_ne_some.2 fun e he => ?_
  obtain ⟨n, hn, hname⟩ := h.idsSerial.made_of_mem (h.entity he)
  have := hname.unique hid rfl
  have := h.size
  omega

theorem issue (h : Holds p invoices ids) (a : Sats) :
    Holds
      { p with
        issued := p.issued + 1
        invoices := p.invoices.set (numbered (p.issued + 1) a).id (numbered (p.issued + 1) a) }
      (numbered (p.issued + 1) a :: invoices) ids where
  invoicesSerial := .cons ⟨a, by rw [h.issued]⟩ h.invoicesSerial
  idsSerial := h.idsSerial
  issued := congrArg (· + 1) h.issued
  size := h.size
  invoice := by
    intro k i
    have habsent := h.absent_invoice a
    rw [Table.find?_set]
    split
    · next hk =>
      have hother : ¬ (i ∈ invoices ∧ i.id = k) := fun hi => by
        simp [← h.invoice, ← hk, habsent] at hi
      grind
    · next hk =>
      rw [h.invoice]
      grind
  entity := h.entity

theorem record (h : Holds p invoices ids) {id : String}
    (hid : NamesEntity (p.entities.rows.length + 1) id) (e : SettlementEntity) :
    Holds { p with entities := p.entities.set id e } invoices (id :: ids) where
  invoicesSerial := h.invoicesSerial
  idsSerial := .cons (h.size ▸ hid) h.idsSerial
  issued := h.issued
  size := by
    rw [length_rows_set_absent (h.absent_entity hid), h.size]
    rfl
  invoice := h.invoice
  entity := by
    intro k e' he
    rw [Table.find?_set] at he
    split at he
    · next hk => exact hk ▸ List.mem_cons_self
    · exact List.mem_cons_of_mem _ (h.entity he)

end Holds

theorem nextEntity_incoming (p : Processor) :
    NamesEntity (p.entities.rows.length + 1) (p.nextEntity "in") := ⟨"in", by decide, rfl⟩

theorem nextEntity_outgoing (p : Processor) :
    NamesEntity (p.entities.rows.length + 1) (p.nextEntity "out") := ⟨"out", by decide, rfl⟩

theorem Steps.holds {t : Turn} {ts : List Turn} (hs : Steps p t p')
    (h : Holds p (ts.filterMap Turn.invoice?) (ts.filterMap Turn.entity?)) :
    Holds p' ((t :: ts).filterMap Turn.invoice?) ((t :: ts).filterMap Turn.entity?) := by
  cases hs with
  | failed => exact { h with }
  | issued a => exact h.issue a
  | failing => exact { h with }
  | unknown => exact h
  | incoming => exact h.record (nextEntity_incoming p) _
  | outgoing => exact h.record (nextEntity_outgoing p) _

theorem Steps.grows {t : Turn} {invoices : List ProcessorInvoice} {ids : List String}
    (hs : Steps p t p') (h : Holds p invoices ids) : Grows p p' := by
  cases hs with
  | failed => exact ⟨id, id⟩
  | issued a => exact ⟨find?_set_absent (h.absent_invoice a), id⟩
  | failing => exact ⟨id, id⟩
  | unknown => exact .refl p
  | incoming => exact ⟨id, find?_set_absent (h.absent_entity (nextEntity_incoming p))⟩
  | outgoing => exact ⟨id, find?_set_absent (h.absent_entity (nextEntity_outgoing p))⟩

/-! ### Runs -/

theorem holds_run (calls : List Call) : Holds (run calls) (issuedBy calls) (namedBy calls) := by
  induction calls with
  | nil => exact .empty
  | cons call before ih => exact (perform_steps (run before) call).holds ih

theorem grows_run (later calls : List Call) : Grows (run calls) (run (later ++ calls)) := by
  induction later with
  | nil => exact .refl _
  | cons call later ih => exact ih.trans ((perform_steps _ call).grows (holds_run _))

theorem armed_cons {call : Call} {calls : List Call} : Armed (call :: calls) ↔
    call = .failNext ∨ (∀ spec, call ≠ .createInvoice spec) ∧ Armed calls := by
  constructor
  · rintro ⟨since, before, h, hsince⟩
    cases since with
    | nil => exact .inl (List.cons.inj h).1
    | cons c since =>
      obtain ⟨rfl, rfl⟩ := List.cons.inj h
      exact .inr ⟨fun spec hc => hsince spec (hc ▸ List.mem_cons_self), since, before, rfl,
        fun spec hm => hsince spec (List.mem_cons_of_mem _ hm)⟩
  · rintro (rfl | ⟨hcall, since, before, rfl, hsince⟩)
    · exact ⟨[], calls, rfl, fun _ => List.not_mem_nil⟩
    · refine ⟨call :: since, before, rfl, fun spec hm => ?_⟩
      rcases List.mem_cons.1 hm with h | hm
      · exact hcall spec h.symm
      · exact hsince spec hm

theorem failsNext_perform (p : Processor) (call : Call) : (p.perform call).2.failsNext = true ↔
    call = .failNext ∨ (∀ spec, call ≠ .createInvoice spec) ∧ p.failsNext = true := by
  cases call with
  | createInvoice spec => cases h : p.failsNext <;> simp [perform, createInvoice, h]
  | failNext => simp [perform, failNext]
  | settleIncoming encoded =>
    cases h : p.invoices.values.find? (·.encoded == encoded) <;> simp [perform, settleIncoming, h]
  | settleOutgoing encoded => simp [perform, settleOutgoing]

theorem failsNext_run (calls : List Call) : (run calls).failsNext = true ↔ Armed calls := by
  induction calls with
  | nil => simp [run, fresh, Armed]
  | cons call before ih => rw [run, failsNext_perform, armed_cons, ih]

/-! ### Invoices and entities again -/

theorem fetchSettlement_eq_ok {id : String} {e : SettlementEntity} :
    p.fetchSettlement id = .ok e ↔ p.entities.find? id = some e := by
  unfold fetchSettlement
  split <;> simp_all

theorem fetchInvoice_eq_ok {id : String} {i : ProcessorInvoice} :
    p.fetchInvoice id = .ok i ↔ p.invoices.find? id = some i := by
  unfold fetchInvoice
  split <;> simp_all

/-- Whatever tells the number of an invoice is different for all that were issued. -/
theorem nodup_issuedBy {β : Type} {f : ProcessorInvoice → β}
    (hf : ∀ {n m a b}, f (numbered n a) = f (numbered m b) → n = m) (calls : List Call) :
    ((issuedBy calls).map f).Nodup := by
  refine (holds_run calls).invoicesSerial.nodup_map fun hx hy h => ?_
  obtain ⟨a, rfl⟩ := hx
  obtain ⟨b, rfl⟩ := hy
  exact hf h

theorem nodup_namedBy (calls : List Call) : (namedBy calls).Nodup := by
  simpa using (holds_run calls).idsSerial.nodup_map (f := id) fun hx hy h => hx.unique hy h

theorem mem_values_run {calls : List Call} {i : ProcessorInvoice} :
    i ∈ (run calls).invoices.values ↔ i ∈ issuedBy calls := by
  simp [Table.mem_values, (holds_run calls).invoice]

/-- What is found by its text, in whatever order the invoices are looked through, is the one that
was issued with it. -/
theorem find?_encoded_eq_some {calls : List Call} {listed : List ProcessorInvoice}
    (h : listed.Perm (run calls).invoices.values) {encoded : String} {i : ProcessorInvoice} :
    listed.find? (·.encoded == encoded) = some i ↔ i ∈ issuedBy calls ∧ i.encoded = encoded := by
  have hmem : ∀ j, j ∈ listed ↔ j ∈ issuedBy calls := fun _ => h.mem_iff.trans mem_values_run
  constructor
  · intro hi
    exact ⟨(hmem i).1 (List.mem_of_find?_eq_some hi), by simpa using List.find?_some hi⟩
  · rintro ⟨hi, rfl⟩
    have hfound : (listed.find? (·.encoded == i.encoded)).isSome :=
      List.find?_isSome.2 ⟨i, (hmem i).2 hi, beq_self_eq_true _⟩
    obtain ⟨j, hj⟩ := Option.isSome_iff_exists.1 hfound
    have hsame : j.encoded = i.encoded := by simpa using List.find?_some hj
    rw [hj, List.inj_on_of_nodup_map (nodup_issuedBy numbered_encoded_inj calls)
      ((hmem j).1 (List.mem_of_find?_eq_some hj)) hi hsame]

theorem find?_encoded_of_perm {calls : List Call} {listed : List ProcessorInvoice}
    (h : listed.Perm (run calls).invoices.values) (encoded : String) :
    listed.find? (·.encoded == encoded) =
      (run calls).invoices.values.find? (·.encoded == encoded) := by
  ext i
  rw [find?_encoded_eq_some h, find?_encoded_eq_some (.refl _)]

theorem settleIncoming_isSome {calls : List Call} {encoded : String} :
    ((run calls).settleIncoming encoded).1.isSome = true ↔
      ∃ i ∈ issuedBy calls, i.encoded = encoded := by
  have hfst : ((run calls).settleIncoming encoded).1 =
      ((run calls).invoices.values.find? (·.encoded == encoded)).map
        fun _ => (run calls).nextEntity "in" := by
    cases hfind : (run calls).invoices.values.find? (·.encoded == encoded) <;>
      simp [settleIncoming, hfind]
  simp only [hfst, Option.isSome_map, Option.isSome_iff_exists, find?_encoded_eq_some (.refl _)]

/-- A payment of an invoice that was issued leads to the invoice, then and later. -/
theorem settleIncoming_leads {calls : List Call} {encoded id : String}
    (h : ((run calls).settleIncoming encoded).1 = some id) (later : List Call) :
    ∃ i, (run (later ++ .settleIncoming encoded :: calls)).fetchSettlement id =
        .ok (.incoming id i.id) ∧
      (run (later ++ .settleIncoming encoded :: calls)).fetchInvoice i.id = .ok i ∧
      i.encoded = encoded := by
  have hgrows := grows_run later (.settleIncoming encoded :: calls)
  cases hfind : (run calls).invoices.values.find? (·.encoded == encoded) with
  | none => simp [settleIncoming, hfind] at h
  | some i =>
    obtain ⟨hmem, hencoded⟩ := (find?_encoded_eq_some (.refl _)).1 hfind
    have hrun : run (.settleIncoming encoded :: calls) = { run calls with
        entities := (run calls).entities.set id (.incoming id i.id) } := by
      simp_all [run, perform, settleIncoming]
    refine ⟨i, fetchSettlement_eq_ok.2 (hgrows.entities ?_),
      fetchInvoice_eq_ok.2 (hgrows.invoices ?_), hencoded⟩
    · rw [hrun, Table.find?_set_self]
    · rw [hrun]
      exact (holds_run calls).invoice.2 ⟨hmem, rfl⟩

/-- A payment of somebody's invoice has its text in place, then and later. -/
theorem settleOutgoing_embeds (calls : List Call) (encoded : String) (later : List Call) :
    (run (later ++ .settleOutgoing encoded :: calls)).fetchSettlement
        ((run calls).settleOutgoing encoded).1 =
      .ok (.outgoing ((run calls).settleOutgoing encoded).1 (some (.value encoded))) :=
  fetchSettlement_eq_ok.2 <| (grows_run later _).entities (Table.find?_set_self _ _ _)

theorem createInvoice_armed {calls : List Call} (h : Armed calls) (spec : InvoiceSpec) :
    (run calls).createInvoice spec =
      (.error (.unavailable "mock processor offline"), { run calls with failsNext := false }) := by
  simp [createInvoice, (failsNext_run calls).2 h]

theorem createInvoice_unarmed {calls : List Call} (h : ¬ Armed calls) (spec : InvoiceSpec) :
    ∃ i, ((run calls).createInvoice spec).1 = .ok i ∧
      issuedBy (.createInvoice spec :: calls) = i :: issuedBy calls := by
  have hrun : (run calls).failsNext = false :=
    Bool.eq_false_iff.2 fun hfails => h ((failsNext_run calls).1 hfails)
  exact ⟨numbered ((run calls).issued + 1) spec.amount, by simp [createInvoice, hrun],
    by simp [issuedBy, turns, perform, createInvoice, hrun, Turn.invoice?]⟩

/-- What anybody who makes calls may rely on after any of them. -/
structure Reliable (calls : List Call) : Prop where
  ids : ((issuedBy calls).map (·.id)).Nodup
  hashes : ((issuedBy calls).map (·.paymentHash)).Nodup
  requests : ((issuedBy calls).map (·.encoded)).Nodup
  names : (namedBy calls).Nodup
  kept : ∀ later, Grows (run calls) (run (later ++ calls))
  anyOrder : ∀ listed : List ProcessorInvoice, listed.Perm (run calls).invoices.values →
    ∀ encoded, listed.find? (·.encoded == encoded) =
      (run calls).invoices.values.find? (·.encoded == encoded)
  settles : ∀ encoded, ((run calls).settleIncoming encoded).1.isSome = true ↔
    ∃ i ∈ issuedBy calls, i.encoded = encoded
  leads : ∀ encoded id, ((run calls).settleIncoming encoded).1 = some id → ∀ later,
    ∃ i, (run (later ++ .settleIncoming encoded :: calls)).fetchSettlement id =
        .ok (.incoming id i.id) ∧
      (run (later ++ .settleIncoming encoded :: calls)).fetchInvoice i.id = .ok i ∧
      i.encoded = encoded
  embeds : ∀ encoded later,
    (run (later ++ .settleOutgoing encoded :: calls)).fetchSettlement
        ((run calls).settleOutgoing encoded).1 =
      .ok (.outgoing ((run calls).settleOutgoing encoded).1 (some (.value encoded)))
  fails : Armed calls → ∀ spec, (run calls).createInvoice spec =
    (.error (.unavailable "mock processor offline"), { run calls with failsNext := false })
  issues : ¬ Armed calls → ∀ spec, ∃ i, ((run calls).createInvoice spec).1 = .ok i ∧
    issuedBy (.createInvoice spec :: calls) = i :: issuedBy calls

theorem reliable (calls : List Call) : Reliable calls where
  ids := nodup_issuedBy numbered_id_inj calls
  hashes := nodup_issuedBy numbered_paymentHash_inj calls
  requests := nodup_issuedBy numbered_encoded_inj calls
  names := nodup_namedBy calls
  kept later := grows_run later calls
  anyOrder _ h encoded := find?_encoded_of_perm h encoded
  settles _ := settleIncoming_isSome
  leads _ _ h later := settleIncoming_leads h later
  embeds encoded later := settleOutgoing_embeds calls encoded later
  fails h spec := createInvoice_armed h spec
  issues h spec := createInvoice_unarmed h spec

example : namedBy [.settleOutgoing "lnbc1", .settleIncoming "lnbcrt500n1pmock0000000001",
    .createInvoice ⟨⟨500⟩, "Ticket", 60⟩, .createInvoice ⟨⟨500⟩, "Ticket", 60⟩, .failNext] =
      ["mock-out-2", "mock-in-1"] := by decide +kernel

end BoxOffice.Rehearsal.Processor
