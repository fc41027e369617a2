import BoxOffice.Proofs.Json.Reader
import BoxOffice.Proofs.Processor.Documents

/-! What is written for an entity of the processor is read back, and the forms of an embedded
request are told apart. The forms overlap, since any object may be a wrapper with nothing in it: an
object is a wrapper only if it is not the data in place, which is tried first. -/

namespace BoxOffice

namespace Json

mutual

/-- Whether there is no array in the value, and no object in it repeats a name. -/
def isPlain : Json → Bool
  | .array _ => false
  | .object members | .misnamed members => plainMembers members
  | _ => true
termination_by structural j => j

def plainMembers : List (String × Json) → Bool
  | [] => true
  | (k, j) :: rest => !rest.any (·.1 == k) && j.isPlain && plainMembers rest
termination_by structural ms => ms

end

/-- The value is an object with the member. -/
def HasMember (j : Json) (name : String) (value : Json) : Prop :=
  ∃ members, j = .object members ∧ (name, value) ∈ members

variable {members : List (String × Json)} {name : String} {value : Option Json}

theorem hasMember_object {j : Json} :
    HasMember (.object members) name j ↔ (name, j) ∈ members := by
  simp [HasMember]

theorem MemberIs.hasMember (h : MemberIs members name value) {j : Json} :
    HasMember (.object members) name j ↔ value = some j := by
  calc HasMember (.object members) name j
      ↔ (name, j) ∈ members.filter (·.1 == name) := by simp [hasMember_object]
    _ ↔ (name, j) ∈ (value.map (name, ·)).toList := by rw [h]
    _ ↔ value = some j := by simp

/-- Without repetitions a name has one member or none. -/
theorem exists_memberIs (h : plainMembers members) (name : String) :
    ∃ value, MemberIs members name value := by
  induction members with
  | nil => exact ⟨none, rfl⟩
  | cons m rest ih =>
    obtain ⟨k, j⟩ := m
    obtain ⟨hhead, hrest⟩ := Bool.and_eq_true_iff.1 h
    have hnew : rest.any (·.1 == k) = false := by
      simpa using (Bool.and_eq_true_iff.1 hhead).1
    by_cases hk : k = name
    · subst hk
      refine ⟨some j, ?_⟩
      have hnone : rest.filter (·.1 == k) = [] :=
        List.filter_eq_nil_iff.2 fun m hm => List.any_eq_false.1 hnew m hm
      rw [MemberIs, List.filter_cons, beq_self_eq_true, if_pos rfl, hnone]
      rfl
    · obtain ⟨value, hvalue⟩ := ih hrest
      refine ⟨value, ?_⟩
      rw [MemberIs, List.filter_cons, beq_false_of_ne hk]
      exact hvalue

theorem isPlain_of_mem (h : plainMembers members) {m : String × Json} (hm : m ∈ members) :
    m.2.isPlain := by
  induction members with
  | nil => cases hm
  | cons first rest ih =>
    obtain ⟨hhead, hrest⟩ := Bool.and_eq_true_iff.1 h
    rcases List.mem_cons.1 hm with rfl | hm
    · exact (Bool.and_eq_true_iff.1 hhead).2
    · exact ih hrest hm

theorem nullable_of_ne {α : Type} {f : Json → Decoded α} {j : Json} (h : j ≠ .null) :
    nullable f j = (f j).map some := by
  cases j with
  | null => exact absurd rfl h
  | _ => rfl

end Json

open Json

/-! ### The forms of an embedded request -/

namespace EmbeddedRequest

/-- The value is the data in place: its encoded request is a text. -/
def IsData (j : Json) (text : String) : Prop :=
  j.HasMember "encoded_payment_request" (.string text)

/-- The value is any other object. -/
def IsWrapper (j : Json) : Prop := (∃ members, j = .object members) ∧ ∀ text, ¬ IsData j text

/-- The value has the form of the request. -/
def Fits (j : Json) : EmbeddedRequest → Prop
  | .value text => IsData j text
  | .reference none =>
    IsWrapper j ∧ ((∀ data, ¬ j.HasMember "data" data) ∨ j.HasMember "data" .null)
  | .reference (some text) => IsWrapper j ∧ ∃ data, j.HasMember "data" data ∧ IsData data text
  | .encoded text => j = .string text

/-- Whether the value is a string, or an object without arrays and repeated names. -/
def canBeEmbedded : Json → Bool
  | .string _ => true
  | .object members => plainMembers members
  | _ => false

variable {members : List (String × Json)} {j : Json}

theorem lacksText (h : plainMembers members) (hno : ∀ text, ¬ IsData (.object members) text) :
    LacksText members "encoded_payment_request" := by
  obtain ⟨value, hvalue⟩ := exists_memberIs h "encoded_payment_request"
  exact ⟨value, hvalue, fun text htext => hno text (hvalue.hasMember.2 htext)⟩

theorem dataOfJson_isData {text : String} (hj : j.isPlain) (h : IsData j text) :
    dataOfJson j = .ok text := by
  obtain ⟨members, rfl, hm⟩ := h
  obtain ⟨value, hvalue⟩ := exists_memberIs hj "encoded_payment_request"
  obtain rfl := hvalue.hasMember.1 (hasMember_object.2 hm)
  exact dataOfJson_eq hvalue

theorem dataOfJson_refused (hj : j.isPlain) (h : ∀ text, ¬ IsData j text) :
    ∃ e, dataOfJson j = .error e := by
  cases j with
  | object members => exact dataOfJson_error (lacksText hj h)
  | array items => cases hj
  | _ => exact ⟨_, rfl⟩

/-- A wrapper is refused if there is something in it other than data. -/
theorem referenceOfJson_refused {data : Json} (hdata : MemberIs members "data" (some data))
    (hplain : data.isPlain) (hnull : data ≠ .null) (h : ∀ text, ¬ IsData data text) :
    ∃ e, referenceOfJson (.object members) = .error e := by
  obtain ⟨e, he⟩ := dataOfJson_refused hplain h
  have hrecord : Record.ofObject ["data"] members = .ok ⟨members, false⟩ :=
    Record.ofObject_eq (by simpa using ⟨_, hdata⟩)
  have hread : referenceOfJson (.object members) = nullable dataOfJson data := by
    simp only [referenceOfJson, hrecord, Bind.bind, Except.bind, Record.optional, Record.field?,
      hdata.lookup]
  exact ⟨e, by rw [hread, nullable_of_ne hnull, he]; rfl⟩

theorem ofKeptJson_wrapper {e : Fault} (h : dataOfJson (.object members) = .error e) :
    ofKeptJson (.object members) = match referenceOfJson (.object members) with
      | .ok text? => .ok (.reference text?)
      | .error _ => .error .mismatch := by
  simp only [ofKeptJson, firstOf, h, Functor.map, Except.map]
  cases referenceOfJson (.object members) <;> rfl

/-- A value of a form is read as the request. -/
theorem Fits.read {r : EmbeddedRequest} (h : Fits j r) (hj : canBeEmbedded j) :
    ofKeptJson j = .ok r := by
  cases r with
  | encoded text =>
    obtain rfl : j = .string text := h
    rfl
  | value text =>
    obtain ⟨members, rfl, -⟩ := id h
    have hdata : dataOfJson (.object members) = .ok text := dataOfJson_isData hj h
    simp only [ofKeptJson, firstOf, hdata, Functor.map, Except.map]
  | reference text? =>
    obtain ⟨⟨members, rfl⟩, hno⟩ : IsWrapper j := by cases text? <;> exact h.1
    obtain ⟨e, he⟩ := dataOfJson_error (lacksText hj hno)
    obtain ⟨value, hvalue⟩ := exists_memberIs hj "data"
    have hread : referenceOfJson (.object members) = .ok text? := by
      cases text? with
      | none =>
        refine referenceOfJson_unfilled hvalue (h.2.imp (fun habsent => ?_) hvalue.hasMember.1)
        exact Option.eq_none_iff_forall_ne_some.2 fun data hdata =>
          habsent data (hvalue.hasMember.2 hdata)
      | some text =>
        obtain ⟨data, hmem, inner, rfl, hinner⟩ := h.2
        have hplain : plainMembers inner := isPlain_of_mem hj (hasMember_object.1 hmem)
        obtain rfl := hvalue.hasMember.1 hmem
        obtain ⟨value, hencoded⟩ := exists_memberIs hplain "encoded_payment_request"
        obtain rfl := hencoded.hasMember.1 (hasMember_object.2 hinner)
        exact referenceOfJson_eq hvalue hencoded
    rw [ofKeptJson_wrapper he, hread]

/-- A value of no form is refused. -/
theorem ofKeptJson_refused (hj : canBeEmbedded j) (h : ∀ r, ¬ Fits j r) :
    ∃ e, ofKeptJson j = .error e := by
  cases j with
  | string text => exact absurd rfl (h (.encoded text))
  | object members =>
    have hwrapper : IsWrapper (.object members) := ⟨⟨_, rfl⟩, fun text => h (.value text)⟩
    obtain ⟨e, he⟩ := dataOfJson_error (lacksText hj hwrapper.2)
    obtain ⟨value, hvalue⟩ := exists_memberIs hj "data"
    rw [ofKeptJson_wrapper he]
    cases value with
    | none =>
      refine absurd ⟨hwrapper, Or.inl fun data hdata => ?_⟩ (h (.reference none))
      cases hvalue.hasMember.1 hdata
    | some data =>
      have hmem : HasMember (.object members) "data" data := hvalue.hasMember.2 rfl
      have hnull : data ≠ .null := fun hdata =>
        h (.reference none) ⟨hwrapper, Or.inr (hdata ▸ hmem)⟩
      have hdata : ∀ text, ¬ IsData data text := fun text hdata =>
        h (.reference (some text)) ⟨hwrapper, data, hmem, hdata⟩
      have hplain : data.isPlain := isPlain_of_mem hj (hasMember_object.1 hmem)
      obtain ⟨e, he⟩ := referenceOfJson_refused hvalue hplain hnull hdata
      rw [he]
      exact ⟨_, rfl⟩
  | _ => cases hj

theorem ofKeptJson_iff (hj : canBeEmbedded j) (r : EmbeddedRequest) :
    ofKeptJson j = .ok r ↔ Fits j r := by
  refine ⟨fun h => ?_, fun h => h.read hj⟩
  by_cases hfits : ∃ r', Fits j r'
  · obtain ⟨r', hr'⟩ := hfits
    have hread := hr'.read hj
    rw [h] at hread
    cases hread
    exact hr'
  · obtain ⟨e, he⟩ := ofKeptJson_refused hj (not_exists.1 hfits)
    rw [h] at he
    cases he

/-- Data in place is found first, whatever stands beside it. -/
example : ofKeptJson (.object [("data", .null), ("encoded_payment_request", .string "lnbc1")]) =
    .ok (.value "lnbc1") := rfl

theorem ofKeptJson_error_iff (hj : canBeEmbedded j) :
    (∃ e, ofKeptJson j = .error e) ↔ ∀ r, ¬ Fits j r := by
  refine ⟨fun ⟨e, he⟩ r hr => ?_, ofKeptJson_refused hj⟩
  rw [hr.read hj] at he
  cases he

theorem encoded?_iff {r : EmbeddedRequest} {text : String} : r.encoded? = some text ↔
    text ≠ "" ∧ (r = .value text ∨ r = .reference (some text) ∨ r = .encoded text) := by
  rcases r with e | (_ | e) | e <;> simp [encoded?, and_comm]

theorem fits_toJson (r : EmbeddedRequest) : Fits r.toJson r := by
  have hempty (data : Json) : IsWrapper (.object [("data", data)]) :=
    ⟨⟨_, rfl⟩, fun text h => by simp [IsData, hasMember_object] at h⟩
  match r with
  | .value text => exact ⟨_, rfl, List.mem_singleton_self _⟩
  | .reference none => exact ⟨hempty _, Or.inr ⟨_, rfl, List.mem_singleton_self _⟩⟩
  | .reference (some text) =>
    exact ⟨hempty _, _, ⟨_, rfl, List.mem_singleton_self _⟩, _, rfl, List.mem_singleton_self _⟩
  | .encoded text => rfl

theorem canBeEmbedded_toJson (r : EmbeddedRequest) : canBeEmbedded r.toJson := by
  rcases r with e | (_ | e) | e <;> rfl

end EmbeddedRequest

/-! ### Entities -/

namespace SettlementEntity

open EmbeddedRequest

variable {members : List (String × Json)}

/-- An embedded value is read in an outgoing payment as it is read alone. -/
theorem Tagged.read_embedded {id : String} {j : Json}
    (h : Tagged "outgoing_payment" id members)
    (hvalue : MemberIs members "payment_request_data" (some j)) (hj : canBeEmbedded j) :
    ofJson (.object members) = (ofKeptJson j).map fun r => .outgoing id (some r) := by
  have hnull : j ≠ .null := by
    rintro rfl
    cases hj
  rw [h.read_outgoing hvalue, Record.defaulted, Record.field?, hvalue.lookup]
  dsimp only
  rw [nullable_of_ne hnull]
  cases ofKeptJson j <;> rfl

theorem isVerbal_toJson (e : SettlementEntity) : e.toJson.isVerbal := by
  rcases e with _ | ⟨_, _ | e | (_ | e) | e⟩ <;> rfl

theorem canBeKept_toJson (e : SettlementEntity) : e.toJson.canBeKept := by
  rcases e with _ | ⟨_, _ | e | (_ | e) | e⟩ <;> rfl

theorem written_incoming (id invoiceId : String) : ∃ members,
    toJson (.incoming id invoiceId) = .object members ∧ IsIncoming id invoiceId members :=
  ⟨_, rfl, ⟨rfl, rfl, canBeKept_toJson (.incoming id invoiceId)⟩, rfl⟩

theorem written_outgoing (id : String) (request : Option EmbeddedRequest) : ∃ members,
    toJson (.outgoing id request) = .object members ∧ Tagged "outgoing_payment" id members ∧
      MemberIs members "payment_request_data" (some (.ofOption EmbeddedRequest.toJson request)) :=
  ⟨_, rfl, ⟨rfl, rfl, canBeKept_toJson (.outgoing id request)⟩, rfl⟩

theorem ofJson_toJson (e : SettlementEntity) : ofJson e.toJson = .ok e := by
  cases e with
  | incoming id invoiceId =>
    obtain ⟨members, hwritten, hincoming⟩ := written_incoming id invoiceId
    rw [hwritten, hincoming.read]
  | outgoing id request =>
    obtain ⟨members, hwritten, htagged, hvalue⟩ := written_outgoing id request
    cases request with
    | none =>
      rw [hwritten, htagged.read_outgoing hvalue, Record.defaulted, Record.field?, hvalue.lookup]
      rfl
    | some r =>
      have hj := canBeEmbedded_toJson r
      have hread : ofKeptJson (.ofOption EmbeddedRequest.toJson (some r)) = .ok r :=
        (fits_toJson r).read hj
      rw [hwritten, htagged.read_embedded hvalue hj, hread]
      rfl

/-- An entity is read back from its text. An embedded value that is a string, or an object without
arrays and repeated names, is read in the one form that it has and refused if it has none, and its
text is found unless it is empty. -/
theorem forms_survive :
    (∀ e : SettlementEntity, parseText e.toJson.compress = some e.toJson ∧
      ofJson e.toJson = .ok e) ∧
    ∀ j : Json, canBeEmbedded j →
      (∀ r, ofKeptJson j = .ok r ↔ Fits j r) ∧
      ((∃ fault, ofKeptJson j = .error fault) ↔ ∀ r, ¬ Fits j r) ∧
      (∀ text, (∃ r, ofKeptJson j = .ok r ∧ r.encoded? = some text) ↔ text ≠ "" ∧
        (Fits j (.value text) ∨ Fits j (.reference (some text)) ∨ Fits j (.encoded text))) ∧
      ∀ id members, Tagged "outgoing_payment" id members →
        MemberIs members "payment_request_data" (some j) →
        ofJson (.object members) = (ofKeptJson j).map fun r => .outgoing id (some r) := by
  refine ⟨fun e => ⟨parseText_compress (isVerbal_toJson e), ofJson_toJson e⟩, fun j hj =>
    ⟨ofKeptJson_iff hj, ofKeptJson_error_iff hj, fun text => ?_, fun id members h hvalue =>
      h.read_embedded hvalue hj⟩⟩
  simp only [ofKeptJson_iff hj, encoded?_iff]
  constructor
  · rintro ⟨r, hr, hne, rfl | rfl | rfl⟩
    · exact ⟨hne, .inl hr⟩
    · exact ⟨hne, .inr (.inl hr)⟩
    · exact ⟨hne, .inr (.inr hr)⟩
  · rintro ⟨hne, hr | hr | hr⟩
    · exact ⟨_, hr, hne, .inl rfl⟩
    · exact ⟨_, hr, hne, .inr (.inl rfl)⟩
    · exact ⟨_, hr, hne, .inr (.inr rfl)⟩

theorem forms_survive_wrapped :
    ofKeptJson (.object [("encoded_payment_request", .null), ("data", .object
      [("encoded_payment_request", .string "lnbc1abc"), ("memo", .object [])])]) =
        .ok (.reference (some "lnbc1abc")) := by
  refine ((forms_survive.2 _ rfl).1 _).2
    ⟨⟨⟨_, rfl⟩, fun text h => ?_⟩, _, ⟨_, rfl, .tail _ (.head _)⟩, _, rfl, .head _⟩
  simp [IsData, hasMember_object] at h

end SettlementEntity

end BoxOffice
