import BoxOffice.Proofs.Alone.HandingOut
import BoxOffice.Proofs.Api.Pulling
import BoxOffice.Proofs.Processor.Forms

/-! What the body of a pull is taken for. The full form is tried first, and the bare one when it
does not fit, so a body that nearly fits the full form counts as a bare amount, and its callback is
lost. Which of the two an object fits is told by its members of four names; it makes no difference
where they stand, or what stands beside them. -/

namespace BoxOffice

open Program Protocol

namespace Json

variable {α β : Type}

/-! ### Values -/

theorem bind_eq_ok {x : Decoded α} {f : α → Decoded β} {b : β} :
    x >>= f = .ok b ↔ ∃ a, x = .ok a ∧ f a = .ok b := by
  cases x with
  | ok a =>
    constructor
    · exact fun h => ⟨a, rfl, h⟩
    · rintro ⟨_, ⟨⟩, h⟩
      exact h
  | error e =>
    constructor
    · exact nofun
    · rintro ⟨_, h, -⟩
      cases h

theorem map_eq_ok {x : Decoded α} {f : α → β} {b : β} :
    x.map f = .ok b ↔ ∃ a, x = .ok a ∧ f a = b := by
  cases x <;> simp [Except.map]

theorem asString_eq_ok {j : Json} {s : String} : asString j = .ok s ↔ j = .string s := by
  cases j <;> simp [asString, refuse]

theorem asInt_eq_ok {low high n : Int} {j : Json} :
    asInt low high j = .ok n ↔ j = .integer n ∧ low ≤ n ∧ n ≤ high := by
  cases j with
  | integer m =>
    simp only [asInt, Json.integer.injEq]
    split
    · next hm =>
      constructor
      · rintro ⟨⟩
        exact ⟨rfl, hm⟩
      · rintro ⟨rfl, -⟩
        rfl
    · next hm =>
      constructor
      · exact nofun
      · rintro ⟨rfl, hn⟩
        exact absurd hn hm
  | _ => simp [asInt, refuse]

/-- Numbers of a fixed width are the integers up to a limit. -/
theorem map_asInt_eq_ok {high : Int} {ofInt : Int → β} {toNat : β → Nat}
    (hnumber : ∀ n, 0 ≤ n → n ≤ high → (toNat (ofInt n) : Int) = n)
    (hback : ∀ b, ofInt (toNat b) = b ∧ (toNat b : Int) ≤ high) {j : Json} {b : β} :
    (asInt 0 high j).map ofInt = .ok b ↔ j = .integer (toNat b) := by
  simp only [map_eq_ok, asInt_eq_ok]
  constructor
  · rintro ⟨n, ⟨rfl, hlow, hhigh⟩, rfl⟩
    rw [hnumber n hlow hhigh]
  · rintro rfl
    exact ⟨toNat b, ⟨rfl, Int.natCast_nonneg _, (hback b).2⟩, (hback b).1⟩

theorem asU64_eq_ok {j : Json} {n : UInt64} : asU64 j = .ok n ↔ j = .integer n.toNat := by
  refine map_asInt_eq_ok (fun m hlow hhigh => ?_) fun b => ⟨?_, ?_⟩
  · have hsize : m.toNat < UInt64.size := by omega
    rw [UInt64.toNat_ofNat_of_lt' hsize]
    omega
  · rw [Int.toNat_natCast, UInt64.ofNat_toNat]
  · have hsize := b.toNat_lt_size
    omega

theorem asU32_eq_ok {j : Json} {n : UInt32} : asU32 j = .ok n ↔ j = .integer n.toNat := by
  refine map_asInt_eq_ok (fun m hlow hhigh => ?_) fun b => ⟨?_, ?_⟩
  · have hsize : m.toNat < UInt32.size := by omega
    rw [UInt32.toNat_ofNat_of_lt' hsize]
    omega
  · rw [Int.toNat_natCast, UInt32.ofNat_toNat]
  · have hsize := b.toNat_lt_size
    omega

/-- A text of blanks holds no value. The form feed is a blank of the body, but not one of JSON. -/
theorem parse_of_blank {body : Bytes} (h : body.all Api.isAsciiBlank) : parse body = none := by
  have hread : ∀ fuel, value (fuel + 1) body = .broken none := by
    intro fuel
    rw [value]
    cases hskip : skipSpace body with
    | nil => rfl
    | cons b rest =>
      have hmem : b ∈ body := (List.dropWhile_sublist _).subset (hskip ▸ List.mem_cons_self)
      have hblank := List.all_eq_true.1 h b hmem
      have hspace : isSpace b = false := by
        have hhead := List.head?_dropWhile_not isSpace body
        rw [skipSpace] at hskip
        rwa [hskip] at hhead
      have hfeed : b = 0x0C := by
        simp only [Api.isAsciiBlank, isSpace, Bool.or_eq_true, Bool.or_eq_false_iff, beq_iff_eq,
          beq_eq_false_iff_ne] at hblank hspace
        obtain ⟨⟨⟨hblank20, hblank0A⟩, hblank0D⟩, hblank09⟩ := hspace
        simpa only [hblank20, hblank0A, hblank0D, hblank09, false_or, or_false] using hblank
      subst hfeed
      rfl
  rw [parse, Json.read, hread]

/-! ### Members -/

/-- The member is absent or null, or it is the number. -/
def HasNumber (j : Json) (name : String) : Option Nat → Prop
  | none => (∀ value, ¬ j.HasMember name value) ∨ j.HasMember name .null
  | some n => j.HasMember name (.integer n)

/-- The last of the members with the name. -/
def IsLast (members : List (String × Json)) (name : String) (j : Json) : Prop :=
  ∃ before after, members = before ++ (name, j) :: after ∧ ∀ m ∈ after, m.1 ≠ name

theorem member?_eq_some {members : List (String × Json)} {name : String} {j : Json} :
    member? members name = some j ↔ IsLast members name j := by
  simp only [member?, Option.map_eq_some_iff, List.find?_eq_some_iff_append, Prod.exists,
    exists_eq_right]
  constructor
  · rintro ⟨k, hk, after, before, hmembers, hafter⟩
    obtain rfl := beq_iff_eq.1 hk
    refine ⟨before.reverse, after.reverse, ?_, ?_⟩
    · rw [← List.reverse_reverse members, hmembers]
      simp
    · simpa using hafter
  · rintro ⟨before, after, rfl, hafter⟩
    refine ⟨name, beq_self_eq_true name, after.reverse, before.reverse, by simp, ?_⟩
    simpa using hafter

variable {members : List (String × Json)} {name : String} {value : Option Json}

theorem exists_memberIs_of_length (h : (members.filter (·.1 == name)).length ≤ 1) :
    ∃ value, MemberIs members name value := by
  unfold MemberIs
  cases hfilter : members.filter (·.1 == name) with
  | nil => exact ⟨none, rfl⟩
  | cons m rest =>
    rw [hfilter] at h
    have hm : m ∈ members.filter (·.1 == name) := hfilter ▸ List.mem_cons_self
    obtain rfl : rest = [] := List.eq_nil_of_length_eq_zero (by simpa using h)
    obtain rfl : m.1 = name := beq_iff_eq.1 (List.mem_filter.1 hm).2
    exact ⟨some m.2, rfl⟩

theorem MemberIs.required_eq_ok (h : MemberIs members name value) {f : Json → Decoded α} {a : α} :
    (⟨members, false⟩ : Record).required name f = .ok a ↔
      ∃ j, (Json.object members).HasMember name j ∧ f j = .ok a := by
  simp only [Record.required, Record.field?, h.lookup, h.hasMember]
  cases value with
  | none => simp
  | some j => simp

/-- A number that may be null or left out. -/
theorem MemberIs.defaulted_eq_ok (h : MemberIs members name value) {f : Json → Decoded α}
    {number : α → Nat} (hf : ∀ j a, f j = .ok a ↔ j = .integer (number a)) {a? : Option α} :
    (⟨members, false⟩ : Record).defaulted name none (nullable f) = .ok a? ↔
      (Json.object members).HasNumber name (a?.map number) := by
  simp only [Record.defaulted, Record.field?, h.lookup]
  cases value with
  | none =>
    cases a? with
    | none => simp [HasNumber, h.hasMember]
    | some a => simp [HasNumber, h.hasMember]
  | some j =>
    by_cases hnull : j = .null
    · subst hnull
      cases a? with
      | none => simp [HasNumber, h.hasMember, nullable]
      | some a => simp [HasNumber, h.hasMember, nullable]
    · dsimp only
      rw [nullable_of_ne hnull, map_eq_ok]
      cases a? with
      | none => simp [HasNumber, h.hasMember, hnull]
      | some a => simp [HasNumber, h.hasMember, hf]

end Json

open Json

namespace Protocol

/-! ### The two forms -/

/-- The names that a form knows. -/
def pullNames : List String := ["amount", "receivingCurrencyCode", "payerData", "umaMajorVersion"]

/-- The value has the full form of the request. -/
structure IsFull (j : Json) (r : FullRequest) : Prop where
  amount : j.HasMember "amount" (.integer r.amount.toNat)
  currency : j.HasMember "receivingCurrencyCode" (.string r.currencyCode)
  payer : j.HasMember "payerData" r.payerData
  version : j.HasNumber "umaMajorVersion" (r.version.map (·.toNat))

/-- The value has the form of the bare query. -/
def IsAmount (j : Json) (q : AmountQuery) : Prop := j.HasNumber "amount" (q.amount.map (·.toNat))

/-- The values have the same members of the names that a form knows. -/
def SameKnown (j j' : Json) : Prop :=
  ∀ name ∈ pullNames, ∀ value, j.HasMember name value ↔ j'.HasMember name value

theorem SameKnown.hasNumber {j j' : Json} (h : SameKnown j j') {name : String}
    (hname : name ∈ pullNames) (n? : Option Nat) : j.HasNumber name n? ↔ j'.HasNumber name n? := by
  cases n? <;> simp only [HasNumber, h name hname]

theorem SameKnown.symm {j j' : Json} (h : SameKnown j j') : SameKnown j' j :=
  fun name hname value => (h name hname value).symm

theorem IsFull.of_same {j j' : Json} {r : FullRequest} (h : IsFull j r) (hsame : SameKnown j j') :
    IsFull j' r where
  amount := (hsame _ (by decide) _).1 h.amount
  currency := (hsame _ (by decide) _).1 h.currency
  payer := (hsame _ (by decide) _).1 h.payer
  version := (hsame.hasNumber (by decide) _).1 h.version

theorem SameKnown.isFull {j j' : Json} (h : SameKnown j j') (r : FullRequest) :
    IsFull j r ↔ IsFull j' r :=
  ⟨fun hfull => hfull.of_same h, fun hfull => hfull.of_same h.symm⟩

theorem SameKnown.isAmount {j j' : Json} (h : SameKnown j j') (q : AmountQuery) :
    IsAmount j q ↔ IsAmount j' q :=
  h.hasNumber (by decide) _

/-- The amount of a full request is one of a bare query. -/
theorem IsFull.isAmount {j : Json} {r : FullRequest} (h : IsFull j r) :
    IsAmount j ⟨some r.amount⟩ :=
  h.amount

variable {members : List (String × Json)}

/-- No name that a form knows is repeated. -/
def Unrepeated (members : List (String × Json)) : Prop :=
  ∀ name ∈ pullNames, (members.filter (·.1 == name)).length ≤ 1

instance (members : List (String × Json)) : Decidable (Unrepeated members) :=
  inferInstanceAs (Decidable (∀ name ∈ pullNames, _))

theorem Unrepeated.memberIs (h : Unrepeated members) :
    ∀ name ∈ pullNames, ∃ value, MemberIs members name value :=
  fun name hname => exists_memberIs_of_length (h name hname)

theorem ofJson_eq_ok_iff_isFull (h : Unrepeated members) {r : FullRequest} :
    FullRequest.ofJson (.object members) = .ok r ↔ IsFull (.object members) r := by
  have hrecord : Record.ofObject ["amount", "receivingCurrencyCode", "payerData",
      "umaMajorVersion"] members = .ok ⟨members, false⟩ := Record.ofObject_eq h.memberIs
  obtain ⟨_, hamount⟩ := h.memberIs "amount" (by decide)
  obtain ⟨_, hcurrency⟩ := h.memberIs "receivingCurrencyCode" (by decide)
  obtain ⟨_, hpayer⟩ := h.memberIs "payerData" (by decide)
  obtain ⟨_, hversion⟩ := h.memberIs "umaMajorVersion" (by decide)
  simp only [FullRequest.ofJson, Record.ofJson, hrecord, bind_eq_ok, hamount.required_eq_ok,
    hcurrency.required_eq_ok, hpayer.required_eq_ok,
    hversion.defaulted_eq_ok fun _ _ => asU32_eq_ok, asU64_eq_ok, asString_eq_ok,
    Except.ok.injEq, exists_eq_left', exists_eq_right, Pure.pure, Except.pure]
  constructor
  · rintro ⟨amount, hasAmount, code, hasCode, payer, hasPayer, version, hasVersion, rfl⟩
    exact ⟨hasAmount, hasCode, hasPayer, hasVersion⟩
  · rintro ⟨hasAmount, hasCode, hasPayer, hasVersion⟩
    exact ⟨_, hasAmount, _, hasCode, _, hasPayer, _, hasVersion, rfl⟩

theorem ofJson_eq_ok_iff_isAmount (h : Unrepeated members) {q : AmountQuery} :
    AmountQuery.ofJson (.object members) = .ok q ↔ IsAmount (.object members) q := by
  obtain ⟨_, hamount⟩ := h.memberIs "amount" (by decide)
  have hrecord : Record.ofObject ["amount"] members = .ok ⟨members, false⟩ :=
    Record.ofObject_eq (by simpa using ⟨_, hamount⟩)
  simp only [AmountQuery.ofJson, Record.ofJson, hrecord, bind_eq_ok,
    hamount.defaulted_eq_ok fun _ _ => asU64_eq_ok, Except.ok.injEq, exists_eq_left', Pure.pure,
    Except.pure]
  constructor
  · rintro ⟨amount, hasAmount, rfl⟩
    exact hasAmount
  · exact fun hasAmount => ⟨_, hasAmount, rfl⟩

/-- A text at compliance.utxoCallback, where the last member of a name counts. -/
def HasCallback (payer : Json) (url : String) : Prop :=
  ∃ members compliance, payer = .object members ∧
    IsLast members "compliance" (.object compliance) ∧
    IsLast compliance "utxoCallback" (.string url)

theorem callback?_eq_some_iff {r : FullRequest} {url : String} :
    r.callback? = some url ↔ url ≠ "" ∧ HasCallback r.payerData url := by
  rw [FullRequest.callback?_eq_some]
  simp only [PayRequest.Carries, HasCallback, member?_eq_some, PayRequest.full.injEq,
    ← exists_and_left]
  constructor
  · rintro ⟨_, members, compliance, hne, rfl, hlast⟩
    exact ⟨members, compliance, hne, hlast⟩
  · rintro ⟨members, compliance, hne, hlast⟩
    exact ⟨r, members, compliance, hne, rfl, hlast⟩

end Protocol

namespace Api

open Protocol

variable {body : Bytes} {members : List (String × Json)}

/-! ### Bodies -/

/-- The body is the text of an object that can be read to its end, with no known name repeated. -/
structure IsObject (body : Bytes) (members : List (String × Json)) : Prop where
  text : Json.parse body = some (.object members)
  readable : (Json.object members).canBeKept
  unrepeated : Unrepeated members

/-- The full form comes before the bare one. -/
theorem IsObject.payRequestOf?_eq (h : IsObject body members) : payRequestOf? body =
    match FullRequest.ofJson (.object members), AmountQuery.ofJson (.object members) with
    | .ok f, _ => some (.full f)
    | .error _, .ok q => some (.amount q)
    | .error _, .error _ => none := by
  have hblank : body.all isAsciiBlank = false := by
    rw [← Bool.not_eq_true]
    intro hblank
    cases h.text.symm.trans (parse_of_blank hblank)
  simp only [payRequestOf?, hblank, Bool.false_eq_true, if_false, h.text, Option.bind_some,
    PayRequest.ofJson, kept, h.readable, if_true, Bind.bind, Except.bind, PayRequest.ofKeptJson,
    firstOf]
  cases FullRequest.ofJson (.object members) <;> cases AmountQuery.ofJson (.object members) <;> rfl

theorem IsObject.full_iff (h : IsObject body members) {f : FullRequest} :
    payRequestOf? body = some (.full f) ↔ IsFull (.object members) f := by
  rw [h.payRequestOf?_eq, ← ofJson_eq_ok_iff_isFull h.unrepeated]
  cases FullRequest.ofJson (.object members) <;> cases AmountQuery.ofJson (.object members) <;> simp

theorem IsObject.amount_iff (h : IsObject body members) {q : AmountQuery} :
    payRequestOf? body = some (.amount q) ↔
      (∀ f, ¬ IsFull (.object members) f) ∧ IsAmount (.object members) q := by
  simp only [h.payRequestOf?_eq, ← ofJson_eq_ok_iff_isFull h.unrepeated,
    ← ofJson_eq_ok_iff_isAmount h.unrepeated]
  cases FullRequest.ofJson (.object members) <;> cases AmountQuery.ofJson (.object members) <;> simp

theorem IsObject.none_iff (h : IsObject body members) :
    payRequestOf? body = none ↔
      (∀ f, ¬ IsFull (.object members) f) ∧ ∀ q, ¬ IsAmount (.object members) q := by
  simp only [h.payRequestOf?_eq, ← ofJson_eq_ok_iff_isFull h.unrepeated,
    ← ofJson_eq_ok_iff_isAmount h.unrepeated]
  cases FullRequest.ofJson (.object members) <;> cases AmountQuery.ofJson (.object members) <;> simp

/-- Members of other names make no difference, and neither does the order. -/
theorem IsObject.congr {body' : Bytes} {members' : List (String × Json)}
    (h : IsObject body members) (h' : IsObject body' members')
    (hsame : SameKnown (.object members) (.object members')) :
    payRequestOf? body' = payRequestOf? body := by
  cases hbody : payRequestOf? body with
  | none =>
    obtain ⟨hfull, hamount⟩ := h.none_iff.1 hbody
    exact h'.none_iff.2 ⟨fun f hf => hfull f ((hsame.isFull f).2 hf),
      fun q hq => hamount q ((hsame.isAmount q).2 hq)⟩
  | some request =>
    cases request with
    | full f => exact h'.full_iff.2 ((hsame.isFull f).1 (h.full_iff.1 hbody))
    | amount q =>
      obtain ⟨hfull, hamount⟩ := h.amount_iff.1 hbody
      exact h'.amount_iff.2 ⟨fun f hf => hfull f ((hsame.isFull f).2 hf),
        (hsame.isAmount q).1 hamount⟩

/-! ### Pulls with a body -/

/-- The request pulls the invoice of a ticket with a body. -/
structure HttpRequest.PullsBy (r : HttpRequest) (ticket : TicketId) (body : Bytes) : Prop where
  path : ∃ segment, Route.ofPath? r.path = some (.payRequest segment) ∧
    pathUuid segment = .ok ticket.uuid
  method : r.method = "POST"
  body : r.body = body

/-- The envelope for a body in neither form. -/
def malformed : Response :=
  ⟨200, .json (.object [("status", .string "ERROR"), ("reason", .string "malformed pay request")])⟩

theorem HttpRequest.PullsBy.handle_eq {r : HttpRequest} {ticket : TicketId}
    (h : r.PullsBy ticket body) (setup : Setup) : handle setup r =
      if body.length ≤ bodyLimit then
        match payRequestOf? body with
        | some request => answeringCounterparty (Service.payRequest setup ticket request)
        | none => .pure malformed
      else .pure (.refusal 413) := by
  obtain ⟨⟨segment, hpath, hticket⟩, hmethod, rfl⟩ := h
  have hpost : Method.ofName? r.method = some .post := by
    rw [hmethod]
    rfl
  rw [handle_of_route hpath hpost rfl nofun]
  split
  · next hsize =>
    have hbody : r.limitedBody = .ok r.body := if_pos hsize
    simp only [serve, if_true, hticket, hbody, Bind.bind, Except.bind, Pure.pure, Except.pure,
      extracting]
    cases payRequestOf? r.body <;> rfl
  · next hsize =>
    have hbody : r.limitedBody = .error (.refusal 413) := if_neg hsize
    simp only [serve, if_true, hticket, hbody, Bind.bind, Except.bind, extracting]

/-- What the body of a pull is taken for, and what comes of it. -/
structure TakenFor (body : Bytes) (j : Json) : Prop where
  full (f : FullRequest) : payRequestOf? body = some (.full f) ↔ IsFull j f
  amount (q : AmountQuery) : payRequestOf? body = some (.amount q) ↔
    (∀ f, ¬ IsFull j f) ∧ IsAmount j q
  neither : payRequestOf? body = none ↔ (∀ f, ¬ IsFull j f) ∧ ∀ q, ¬ IsAmount j q
  /-- Whatever other members there are, and in whatever order. -/
  same {body' : Bytes} {members' : List (String × Json)} : IsObject body' members' →
    SameKnown j (.object members') → payRequestOf? body' = payRequestOf? body
  /-- A full request would do as a bare query. -/
  bare {f : FullRequest} : payRequestOf? body = some (.full f) →
    AmountQuery.ofJson j = .ok ⟨some f.amount⟩
  callback {f : FullRequest} (url : String) : payRequestOf? body = some (.full f) →
    (f.callback? = some url ↔ url ≠ "" ∧ HasCallback f.payerData url)
  /-- A body that is too large is not looked at. -/
  answered {r : HttpRequest} {ticket : TicketId} (setup : Setup) : r.PullsBy ticket body →
    handle setup r = if body.length ≤ HttpRequest.bodyLimit then
        match payRequestOf? body with
        | some request => answeringCounterparty (Service.payRequest setup ticket request)
        | none => .pure malformed
      else .pure (.refusal 413)

/-- An object is a full request if it has the members of one, or else a bare query if its amount
allows; what is neither is answered as malformed. -/
theorem pullBody_takenFor (h : IsObject body members) : TakenFor body (.object members) where
  full _ := h.full_iff
  amount _ := h.amount_iff
  neither := h.none_iff
  same h' hsame := h.congr h' hsame
  bare hfull := (ofJson_eq_ok_iff_isAmount h.unrepeated).2 (h.full_iff.1 hfull).isAmount
  callback _ _ := callback?_eq_some_iff
  answered setup hr := hr.handle_eq setup

/-- A full request that has a callback, and a member that nobody knows. -/
def sampleBody : Bytes := Text.encodeUtf8 ("\x7b\"amount\":5000,\"memo\":[true]," ++
  "\"payerData\":\x7b\"compliance\":\x7b\"utxoCallback\":\"u\"\x7d\x7d," ++
  "\"receivingCurrencyCode\":\"SAT\"\x7d")

theorem pullBody_takenFor_sample : ∃ (members : List (String × Json)) (f : FullRequest),
    IsObject sampleBody members ∧ TakenFor sampleBody (.object members) ∧
    payRequestOf? sampleBody = some (.full f) ∧ f.amount = 5000 ∧ f.callback? = some "u" := by
  let payer : Json := .object [("compliance", .object [("utxoCallback", .string "u")])]
  let members : List (String × Json) := [("amount", .integer 5000),
    ("memo", .array [.bool true]), ("payerData", payer),
    ("receivingCurrencyCode", .string "SAT")]
  have hobject : IsObject sampleBody members := ⟨by rfl, by rfl, by decide⟩
  have htaken := pullBody_takenFor hobject
  have hfull : IsFull (.object members) ⟨5000, "SAT", payer, none⟩ := by
    refine ⟨?_, ?_, ?_, .inl ?_⟩ <;> simp [hasMember_object, members]
  exact ⟨members, _, hobject, htaken, (htaken.full _).2 hfull, rfl, rfl⟩

end Api

end BoxOffice
