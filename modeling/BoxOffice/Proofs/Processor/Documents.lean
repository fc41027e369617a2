import BoxOffice.Client.Processor

/-! What the processor's documents on finished payments are read as. A payment to us names an
invoice; a payment by us may have the encoded request in it, in one of several forms. Other members
may stand beside, in any order. -/

namespace BoxOffice

namespace Json

/-- The object has one member of the name, with the value, or none. -/
def MemberIs (members : List (String × Json)) (name : String) (value : Option Json) : Prop :=
  members.filter (·.1 == name) = (value.map (name, ·)).toList

variable {members : List (String × Json)} {name : String} {value : Option Json}

theorem MemberIs.lookup (h : MemberIs members name value) : members.lookup name = value := by
  unfold MemberIs at h
  induction members with
  | nil =>
    cases value with
    | none => rfl
    | some j => cases h
  | cons m rest ih =>
    obtain ⟨k, j⟩ := m
    by_cases hk : k = name
    · subst hk
      cases value with
      | none => simp at h
      | some j' =>
        simp only [List.filter_cons, beq_self_eq_true, if_true, Option.map_some,
          Option.toList_some, List.cons.injEq, Prod.mk.injEq, true_and] at h
        rw [List.lookup_cons_self, h.1]
    · have hskip : (k == name) = false := beq_false_of_ne hk
      rw [List.filter_cons, hskip] at h
      rw [List.lookup_cons, beq_false_of_ne (Ne.symm hk)]
      exact ih h

/-- Other members may be taken out. -/
theorem MemberIs.except (h : MemberIs members name value) (other : String) (hne : name ≠ other) :
    MemberIs (members.filter (·.1 != other)) name value := by
  rw [MemberIs, List.filter_filter, ← h]
  refine List.filter_congr fun m _ => ?_
  by_cases hm : m.1 = name
  · simp [hm, hne]
  · simp [hm]

/-- An object is read as a record if none of the record's names is repeated. -/
theorem Record.ofObject_eq {names : List String}
    (h : ∀ n ∈ names, ∃ value, MemberIs members n value) :
    Record.ofObject names members = .ok ⟨members, false⟩ := by
  have hrepeats : repeatsName names members = false := by
    refine List.any_eq_false.2 fun n hn => ?_
    obtain ⟨value, hvalue⟩ := h n hn
    rw [hvalue]
    cases value <;> simp
  rw [ofObject, hrepeats]
  rfl

/-- The object has no text of the name. -/
def LacksText (members : List (String × Json)) (name : String) : Prop :=
  ∃ value, MemberIs members name value ∧ ∀ text, value ≠ some (.string text)

end Json

open Json

/-! ### Embedded requests -/

variable {members : List (String × Json)} {text : String}

namespace EmbeddedRequest

theorem dataOfJson_eq (h : MemberIs members "encoded_payment_request" (some (.string text))) :
    dataOfJson (.object members) = .ok text := by
  have hrecord : Record.ofObject ["encoded_payment_request"] members = .ok ⟨members, false⟩ :=
    Record.ofObject_eq (by simpa using ⟨_, h⟩)
  simp only [dataOfJson, Record.ofJson, hrecord, Bind.bind, Except.bind, Record.required,
    Record.field?, h.lookup, asString]

theorem dataOfJson_error (h : LacksText members "encoded_payment_request") :
    ∃ e, dataOfJson (.object members) = .error e := by
  obtain ⟨value, hvalue, hne⟩ := h
  have hrecord : Record.ofObject ["encoded_payment_request"] members = .ok ⟨members, false⟩ :=
    Record.ofObject_eq (by simpa using ⟨_, hvalue⟩)
  simp only [dataOfJson, Record.ofJson, hrecord, Bind.bind, Except.bind, Record.required,
    Record.field?, hvalue.lookup]
  cases value with
  | none => exact ⟨_, rfl⟩
  | some j =>
    cases j with
    | string text => exact absurd rfl (hne text)
    | _ => exact ⟨_, rfl⟩

theorem referenceOfJson_eq {inner : List (String × Json)}
    (hdata : MemberIs members "data" (some (.object inner)))
    (h : MemberIs inner "encoded_payment_request" (some (.string text))) :
    referenceOfJson (.object members) = .ok (some text) := by
  have hrecord : Record.ofObject ["data"] members = .ok ⟨members, false⟩ :=
    Record.ofObject_eq (by simpa using ⟨_, hdata⟩)
  simp only [referenceOfJson, hrecord, Bind.bind, Except.bind, Record.optional, Record.field?,
    hdata.lookup, nullable, dataOfJson_eq h, Except.map]

theorem referenceOfJson_unfilled {data : Option Json} (hdata : MemberIs members "data" data)
    (h : data = none ∨ data = some .null) : referenceOfJson (.object members) = .ok none := by
  have hrecord : Record.ofObject ["data"] members = .ok ⟨members, false⟩ :=
    Record.ofObject_eq (by simpa using ⟨_, hdata⟩)
  simp only [referenceOfJson, hrecord, Bind.bind, Except.bind, Record.optional, Record.field?,
    hdata.lookup]
  rcases h with rfl | rfl <;> rfl

/-- What a value in the place of an embedded request carries: the encoded text in place, behind a
wrapper or alone, or no text. -/
inductive Carries : Option Json → Option String → Prop
  | absent : Carries none none
  | null : Carries (some .null) none
  | inline {members : List (String × Json)} {text : String}
      (own : MemberIs members "encoded_payment_request" (some (.string text))) :
      Carries (some (.object members)) (some text)
  | wrapped {members inner : List (String × Json)} {text : String}
      (own : LacksText members "encoded_payment_request")
      (data : MemberIs members "data" (some (.object inner)))
      (encoded : MemberIs inner "encoded_payment_request" (some (.string text))) :
      Carries (some (.object members)) (some text)
  | unfilled {members : List (String × Json)} {data : Option Json}
      (own : LacksText members "encoded_payment_request") (member : MemberIs members "data" data)
      (empty : data = none ∨ data = some .null) : Carries (some (.object members)) none
  | bare (text : String) : Carries (some (.string text)) (some text)

/-- The text is found in each of the forms, unless it is empty. -/
theorem Carries.read {r : Record} {name : String} {text? : Option String}
    (h : Carries (r.field? name) text?) :
    ∃ request, r.defaulted name none (nullable ofKeptJson) = .ok request ∧
      request.bind (·.encoded?) = text?.filter (!·.isEmpty) := by
  unfold Record.defaulted
  generalize r.field? name = value at h ⊢
  cases h with
  | absent => exact ⟨_, rfl, rfl⟩
  | null => exact ⟨_, rfl, rfl⟩
  | @inline members text hown =>
    refine ⟨some (.value text), ?_, rfl⟩
    simp only [nullable, ofKeptJson, firstOf, dataOfJson_eq hown, Functor.map, Except.map]
  | @wrapped members inner text hown hdata hencoded =>
    obtain ⟨e, he⟩ := dataOfJson_error hown
    refine ⟨some (.reference (some text)), ?_, rfl⟩
    simp only [nullable, ofKeptJson, firstOf, he, referenceOfJson_eq hdata hencoded, Functor.map,
      Except.map]
  | @unfilled members data hown hdata hempty =>
    obtain ⟨e, he⟩ := dataOfJson_error hown
    refine ⟨some (.reference none), ?_, rfl⟩
    simp only [nullable, ofKeptJson, firstOf, he, referenceOfJson_unfilled hdata hempty,
      Functor.map, Except.map]
  | bare text => exact ⟨some (.encoded text), rfl, rfl⟩

end EmbeddedRequest

/-! ### Documents -/

namespace SettlementEntity

/-- The document is an object with the tag, and can be read whole. -/
structure Tagged (tag id : String) (members : List (String × Json)) : Prop where
  type : MemberIs members "type" (some (.string tag))
  id : MemberIs members "id" (some (.string id))
  readable : (Json.object members).canBeKept

/-- A document on a payment to us, for an invoice. -/
structure IsIncoming (id invoiceId : String) (members : List (String × Json)) : Prop extends
    Tagged "incoming_payment" id members where
  invoice : MemberIs members "invoice_id" (some (.string invoiceId))

/-- A document on a payment by us, which may carry a text. -/
structure IsOutgoing (id : String) (text? : Option String) (members : List (String × Json)) :
    Prop extends Tagged "outgoing_payment" id members where
  request : ∃ value, MemberIs members "payment_request_data" value ∧
    EmbeddedRequest.Carries value text?

theorem Tagged.kept_eq {tag id : String} (h : Tagged tag id members) :
    kept (.object members) = .ok (.object members) := by
  rw [kept, h.readable]
  rfl

theorem Tagged.untag_eq {tag id : String} (h : Tagged tag id members) :
    untag (.object members) = .ok (tag, .object (members.filter (·.1 != "type"))) := by
  have hrecord : Record.ofObject ["type"] members = .ok ⟨members, false⟩ :=
    Record.ofObject_eq (by simpa using ⟨_, h.type⟩)
  simp only [untag, hrecord, Bind.bind, Except.bind, Record.required, Record.field?,
    h.type.lookup, asString, Pure.pure, Except.pure]

theorem IsIncoming.read {id invoiceId : String} (h : IsIncoming id invoiceId members) :
    ofJson (.object members) = .ok (.incoming id invoiceId) := by
  have hid := h.id.except "type" (by decide)
  have hinvoice := h.invoice.except "type" (by decide)
  have hrecord : Record.ofObject ["id", "invoice_id"] (members.filter (·.1 != "type")) =
      .ok ⟨members.filter (·.1 != "type"), false⟩ :=
    Record.ofObject_eq (by simpa using ⟨⟨_, hid⟩, ⟨_, hinvoice⟩⟩)
  simp only [ofJson, h.kept_eq, h.untag_eq, Bind.bind, Except.bind, incomingOfJson, Record.ofJson,
    hrecord, Record.required, Record.field?, hid.lookup, hinvoice.lookup, asString, Pure.pure,
    Except.pure]

/-- An outgoing payment is read with what stands in the place of the embedded request. -/
theorem Tagged.read_outgoing {id : String} {value : Option Json}
    (h : Tagged "outgoing_payment" id members)
    (hvalue : MemberIs members "payment_request_data" value) :
    ofJson (.object members) = ((⟨members, false⟩ : Record).defaulted "payment_request_data" none
      (nullable EmbeddedRequest.ofKeptJson)).map (.outgoing id) := by
  have hid := h.id.except "type" (by decide)
  have hrest := hvalue.except "type" (by decide)
  have hrecord : Record.ofObject ["id", "payment_request_data"]
      (members.filter (·.1 != "type")) = .ok ⟨members.filter (·.1 != "type"), false⟩ :=
    Record.ofObject_eq (by simpa using ⟨⟨_, hid⟩, ⟨_, hrest⟩⟩)
  simp only [ofJson, h.kept_eq, h.untag_eq, Bind.bind, Except.bind, outgoingOfJson, Record.ofJson,
    hrecord, Record.required, Record.field?, hid.lookup, asString, Record.defaulted, hrest.lookup,
    hvalue.lookup, Pure.pure, Except.pure]
  rfl

theorem IsOutgoing.read {id : String} {text? : Option String} (h : IsOutgoing id text? members) :
    ∃ request, ofJson (.object members) = .ok (.outgoing id request) ∧
      request.bind (·.encoded?) = text?.filter (!·.isEmpty) := by
  obtain ⟨value, hvalue, hcarries⟩ := h.request
  rw [← hvalue.lookup] at hcarries
  obtain ⟨request, hrequest, hencoded⟩ := hcarries.read (r := ⟨members, false⟩)
  refine ⟨request, ?_, hencoded⟩
  rw [h.read_outgoing hvalue, hrequest]
  rfl

end SettlementEntity

/-- An invoice has the encoded text of its document. -/
theorem ProcessorInvoice.encoded_eq {invoice : ProcessorInvoice}
    (h : MemberIs members "encoded_payment_request" (some (.string text)))
    (hread : ofJson (.object members) = .ok invoice) : invoice.encoded = text := by
  simp only [ofJson, Record.ofJson, Record.ofObject, Bind.bind, Except.bind] at hread
  split at hread
  · cases hread
  · next r hr =>
    split at hr
    · cases hr
    · cases hr
      -- the fields are read in order, and the encoded text is the third
      simp only [Record.required, Record.field?, h.lookup, asString] at hread
      repeat' split at hread
      all_goals cases hread
      rfl

end BoxOffice
