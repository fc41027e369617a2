import BoxOffice.Program
import BoxOffice.Proofs.Store.Coherence

/-! What a program asks for, turn by turn. Each request is judged by the turns before it, for every
answer that may come, so the judgement holds whatever else changes the store between two turns. -/

namespace BoxOffice

/-- A request and its answer. -/
structure Turn where
  request : Request
  answer : request.Answer

/-- A call of the store with its reply. -/
abbrev Turn.call (c : Store.Call) (x : Except StoreError c.Reply) : Turn := ⟨.store c, x⟩

/-- The store answers as one whose records agree, and the others as they like. -/
def Request.Fits : (r : Request) → r.Answer → Prop
  | .store c, x => ∃ s : Store, s.Coherent ∧ (s.perform c).1 = x
  | _, _ => True

theorem Request.Fits.ticket_id {k : TicketId} {t : Ticket}
    (hx : Request.Fits (.store (.ticket k)) (.ok (some t))) : t.id = k := by
  obtain ⟨s, hs, hx⟩ := hx
  exact hs.ticket_key (Except.ok.inj hx)

/-- The second history comes from the first by turns with requests of a kind. Histories have the
latest turn first. -/
def Since (kind : Request → Prop) (h h' : List Turn) : Prop :=
  ∃ new, h' = new ++ h ∧ ∀ t ∈ new, kind t.request

namespace Since

variable {kind : Request → Prop} {h h' h'' : List Turn}

theorem refl (h : List Turn) : Since kind h h := ⟨[], rfl, by simp⟩

theorem cons (hs : Since kind h h') {t : Turn} (ht : kind t.request) : Since kind h (t :: h') := by
  obtain ⟨new, rfl, hnew⟩ := hs
  exact ⟨t :: new, rfl, by simpa using ⟨ht, hnew⟩⟩

theorem trans (hs : Since kind h h') (hs' : Since kind h' h'') : Since kind h h'' := by
  obtain ⟨new, rfl, hnew⟩ := hs
  obtain ⟨new', rfl, hnew'⟩ := hs'
  refine ⟨new' ++ new, (List.append_assoc ..).symm, fun t ht => ?_⟩
  rcases List.mem_append.1 ht with ht | ht
  · exact hnew' t ht
  · exact hnew t ht

theorem mono {kind' : Request → Prop} (hs : Since kind h h') (hk : ∀ r, kind r → kind' r) :
    Since kind' h h' := by
  obtain ⟨new, rfl, hnew⟩ := hs
  exact ⟨new, rfl, fun t ht => hk _ (hnew t ht)⟩

theorem mem (hs : Since kind h h') {t : Turn} (ht : t ∈ h) : t ∈ h' := by
  obtain ⟨new, rfl, -⟩ := hs
  exact List.mem_append_right _ ht

theorem of_mem (hs : Since kind h h') {t : Turn} (ht : t ∈ h') : t ∈ h ∨ kind t.request := by
  obtain ⟨new, rfl, hnew⟩ := hs
  rcases List.mem_append.1 ht with ht | ht
  · exact .inr (hnew t ht)
  · exact .inl ht

end Since

/-- Requests that nothing depends on later: they change no payment and tell nobody of one. -/
def Request.isPlain : Request → Bool
  | .store (.createPurchase _ _) => false
  | .store (.applyTransition _ _) => false
  | .store (.reissue _ _) => false
  | .store (.paymentByInvoice _) => false
  | .notify _ _ => false
  | .dispatch _ => false
  | _ => true

/-- Only plain requests come between the two histories. -/
abbrev Quiet (h h' : List Turn) : Prop := Since (fun r => r.isPlain) h h'

theorem Since.request_ne {h : List Turn} (hq : Quiet [] h) {r : Request} (hr : r.isPlain = false) :
    ∀ t ∈ h, t.request ≠ r := by
  rintro t ht rfl
  rcases hq.of_mem ht with ht | ht
  · cases ht
  · rw [hr] at ht
    cases ht

/-- The request is to put an invoice into a payment. -/
def Request.puts : Request → Bool
  | .store (.createPurchase _ _) => true
  | .store (.reissue _ _) => true
  | _ => false

theorem Since.puts_eq_false {h : List Turn} (hq : Quiet [] h) : ∀ t ∈ h, t.request.puts = false := by
  intro t ht
  rcases hq.of_mem ht with ht | ht
  · cases ht
  · generalize t.request = r at ht
    unfold Request.puts
    split
    · cases ht
    · cases ht
    · rfl

/-- The requests that may be made after a history. -/
abbrev Rule := List Turn → Request → Prop

namespace Program

variable {α β ε ε' : Type} {rule rule' : Rule} {kind : Request → Prop} {h : List Turn}

/-- From a history on, the program makes requests that the rule allows, and its result is as
described. -/
def Conforms (rule : Rule) (done : List Turn → α → Prop) : Program α → List Turn → Prop
  | .pure a, h => done h a
  | .ask r next, h => rule h r ∧ ∀ x, r.Fits x → Conforms rule done (next x) (⟨r, x⟩ :: h)
  | .abort, _ => True

theorem conforms_bind {done : List Turn → β → Prop} {p : Program α} {f : α → Program β} :
    Conforms rule done (p.bind f) h ↔
      Conforms rule (fun h a => Conforms rule done (f a) h) p h := by
  induction p generalizing h with
  | pure a => rfl
  | ask r next ih => simp only [bind, Conforms, ih]
  | abort => rfl

theorem Conforms.mono {done done' : List Turn → α → Prop} {p : Program α}
    (hp : Conforms rule done p h) (hrule : ∀ h r, rule h r → rule' h r)
    (hdone : ∀ h a, done h a → done' h a) : Conforms rule' done' p h := by
  induction p generalizing h with
  | pure a => exact hdone h a hp
  | ask r next ih => exact ⟨hrule h r hp.1, fun x hx => ih x (hp.2 x hx)⟩
  | abort => trivial

/-- A program that makes requests of a kind only adds turns of that kind. -/
theorem Conforms.since {done : List Turn → α → Prop} {p : Program α}
    (hp : Conforms (fun h r => rule h r ∧ kind r) done p h) :
    Conforms rule (fun h' a => Since kind h h' ∧ done h' a) p h := by
  suffices H : ∀ h₀, Since kind h₀ h →
      Conforms rule (fun h' a => Since kind h₀ h' ∧ done h' a) p h from H h (.refl h)
  intro h₀ h₀h
  induction p generalizing h with
  | pure a => exact ⟨h₀h, hp⟩
  | ask r next ih => exact ⟨hp.1.1, fun x hx => ih x (hp.2 x hx) (h₀h.cons hp.1.2)⟩
  | abort => trivial

theorem Conforms.bind {mid : List Turn → α → Prop} {done : List Turn → β → Prop}
    {p : Program α} {f : α → Program β} (hp : Conforms rule mid p h)
    (hf : ∀ h' a, mid h' a → Conforms rule done (f a) h') : Conforms rule done (p.bind f) h :=
  conforms_bind.2 (hp.mono (fun _ _ => id) hf)

/-- A program only adds turns. -/
theorem Conforms.extends {done : List Turn → α → Prop} {p : Program α}
    (hp : Conforms rule done p h) :
    Conforms rule (fun h' a => (∀ t ∈ h, t ∈ h') ∧ done h' a) p h := by
  have hall : Conforms (fun h r => rule h r ∧ True) done p h :=
    hp.mono (fun _ _ hr => ⟨hr, trivial⟩) fun _ _ => id
  have hsince : Conforms rule (fun h' a => Since (fun _ => True) h h' ∧ done h' a) p h := hall.since
  exact hsince.mono (fun _ _ => id) fun _ _ hx => ⟨fun _ => hx.1.mem, hx.2⟩

/-! ### Programs with errors -/

/-- As `Conforms`, with nothing said of a result that is an error. -/
def Follows (rule : Rule) (done : List Turn → α → Prop) (p : ExceptT ε Program α)
    (h : List Turn) : Prop :=
  Conforms rule (fun h x => ∀ a, x = .ok a → done h a) p.run h

theorem follows_pure {done : List Turn → α → Prop} {a : α} (ha : done h a) :
    Follows rule done (Pure.pure a : ExceptT ε Program α) h := by
  rintro _ ⟨⟩
  exact ha

theorem follows_throw {done : List Turn → α → Prop} (e : ε) :
    Follows rule done (throw e : ExceptT ε Program α) h := by
  rintro _ ⟨⟩

theorem Follows.bind {mid : List Turn → α → Prop} {done : List Turn → β → Prop}
    {p : ExceptT ε Program α} {f : α → ExceptT ε Program β} (hp : Follows rule mid p h)
    (hf : ∀ h' a, mid h' a → Follows rule done (f a) h') : Follows rule done (p >>= f) h := by
  refine Conforms.bind hp fun h' x hx => ?_
  cases x with
  | ok a => exact hf h' a (hx a rfl)
  | error e => exact follows_throw e

/-- As `Follows.bind`, where something is said of errors as well. -/
theorem Conforms.andThen {mid : List Turn → Except ε α → Prop}
    {done : List Turn → Except ε β → Prop} {p : ExceptT ε Program α} {f : α → ExceptT ε Program β}
    (hp : Conforms rule mid p.run h) (hok : ∀ h' a, mid h' (.ok a) → Conforms rule done (f a).run h')
    (herror : ∀ h' e, mid h' (.error e) → done h' (.error e)) :
    Conforms rule done (p >>= f).run h := by
  refine Conforms.bind hp fun h' x hx => ?_
  cases x with
  | ok a => exact hok h' a hx
  | error e => exact herror h' e hx

/-- A part without errors is always gone on from. -/
theorem Conforms.lift {mid : List Turn → α → Prop} {done : List Turn → Except ε β → Prop}
    {p : Program α} {f : α → ExceptT ε Program β} (hp : Conforms rule mid p h)
    (hf : ∀ h' a, mid h' a → Conforms rule done (f a).run h') :
    Conforms rule done ((liftM p : ExceptT ε Program α) >>= f).run h := by
  have hlift : Conforms rule (fun h' x => ∃ a, x = .ok a ∧ mid h' a)
      (liftM p : ExceptT ε Program α).run h :=
    Conforms.bind hp fun _ a ha => ⟨a, rfl, ha⟩
  refine Conforms.bind hlift fun h' x hx => ?_
  obtain ⟨a, rfl, ha⟩ := hx
  exact hf h' a ha

theorem Conforms.within {done : List Turn → Except ε α → Prop} {p : ExceptT ε Program α}
    (hp : Conforms rule done p.run h) (f : ε → ε') :
    Conforms rule (fun h' x => ∃ y, x = y.mapError f ∧ done h' y) (Program.within f p).run h :=
  Conforms.bind hp fun _ y hy => ⟨y, rfl, hy⟩

theorem Follows.within {done : List Turn → α → Prop} {p : ExceptT ε Program α} {f : ε → ε'}
    (hp : Follows rule done p h) : Follows rule done (Program.within f p) h := by
  refine Conforms.bind hp fun h' x hx => ?_
  cases x with
  | ok a =>
    rintro _ ⟨⟩
    exact hx a rfl
  | error e => exact follows_throw (f e)

theorem follows_orThrow (e : ε) (o : Option α) :
    Follows rule (fun h' a => h' = h ∧ o = some a) (Program.orThrow e o) h := by
  cases o with
  | none => exact follows_throw e
  | some a => exact follows_pure ⟨rfl, rfl⟩

theorem follows_store {c : Store.Call} (hc : rule h (.store c)) :
    Follows rule (fun h' a => h' = .call c (.ok a) :: h ∧ Request.Fits (.store c) (.ok a))
      (Program.store c) h := by
  refine ⟨hc, fun x hx => ?_⟩
  rintro a rfl
  exact ⟨rfl, hx⟩

/-- A request whose answer is no error of the program. -/
theorem follows_request {r : Request} (hr : rule h r) :
    Follows rule (fun h' x => h' = ⟨r, x⟩ :: h ∧ r.Fits x)
      (liftM (Program.request r) : ExceptT ε Program r.Answer) h := by
  refine ⟨hr, fun x hx => ?_⟩
  rintro _ ⟨⟩
  exact ⟨rfl, hx⟩

theorem follows_lift {done : List Turn → α → Prop} {p : Program α} (hp : Conforms rule done p h) :
    Follows rule done (liftM p : ExceptT ε Program α) h := by
  refine Conforms.bind hp fun h' a ha => ?_
  rintro _ ⟨⟩
  exact ha

/-! ### Requests of one kind -/

/-- The program makes requests of a kind only, whatever it is answered. -/
def Only (kind : Request → Prop) (p : ExceptT ε Program α) : Prop :=
  ∀ h, Conforms (fun _ r => kind r) (fun _ _ => True) p.run h

theorem only_pure (a : α) : Only kind (Pure.pure a : ExceptT ε Program α) := fun _ => trivial

theorem only_throw (e : ε) : Only kind (throw e : ExceptT ε Program α) := fun _ => trivial

theorem Only.bind {p : ExceptT ε Program α} {f : α → ExceptT ε Program β} (hp : Only kind p)
    (hf : ∀ a, Only kind (f a)) : Only kind (p >>= f) := by
  refine fun h => Conforms.bind (hp h) fun h' x _ => ?_
  cases x with
  | ok a => exact hf a h'
  | error e => trivial

/-- Nothing follows an error. -/
theorem only_throw_bind (e : ε) (f : α → ExceptT ε Program β) : Only kind (throw e >>= f) :=
  fun _ => trivial

theorem Only.within {p : ExceptT ε Program α} {f : ε → ε'} (hp : Only kind p) :
    Only kind (Program.within f p) :=
  fun h => Conforms.bind (hp h) fun _ _ _ => trivial

theorem only_orThrow (e : ε) (o : Option α) : Only kind (Program.orThrow e o) := by
  intro h
  cases o <;> trivial

theorem only_store {c : Store.Call} (hc : kind (.store c)) : Only kind (Program.store c) :=
  fun _ => ⟨hc, fun _ _ => trivial⟩

theorem only_request {r : Request} (hr : kind r) :
    Only kind (liftM (Program.request r) : ExceptT ε Program r.Answer) :=
  fun _ => ⟨hr, fun _ _ => trivial⟩

theorem Only.mono {kind' : Request → Prop} {p : ExceptT ε Program α} (hp : Only kind p)
    (hk : ∀ r, kind r → kind' r) : Only kind' p :=
  fun h => (hp h).mono (fun _ r => hk r) fun _ _ => id

theorem Only.follows {p : ExceptT ε Program α} (hp : Only kind p) :
    Follows (fun _ r => kind r) (fun _ _ => True) p h :=
  (hp h).mono (fun _ _ => id) fun _ _ _ _ _ => trivial

/-! ### Plain programs -/

theorem Conforms.of_plain {gives : α → Prop} {p : Program α}
    (hp : Conforms (fun _ r => r.isPlain) (fun _ => gives) p h)
    (hrule : ∀ h r, r.isPlain → rule h r) :
    Conforms rule (fun h' a => Quiet h h' ∧ gives a) p h :=
  Conforms.since (hp.mono (fun h r hr => ⟨hrule h r hr, hr⟩) fun _ _ => id)

/-- The program makes plain requests only, whatever it is answered. -/
abbrev Plain (p : ExceptT ε Program α) : Prop := Only (fun r => r.isPlain) p

theorem plain_count (c : Counter) : Plain (liftM (Program.count c) : ExceptT ε Program Unit) :=
  only_request rfl

theorem plain_now : Plain (liftM Program.now : ExceptT ε Program Time.Instant) := only_request rfl

theorem Plain.follows {p : ExceptT ε Program α} (hp : Plain p)
    (hrule : ∀ h r, r.isPlain → rule h r) : Follows rule (fun h' _ => Quiet h h') p h := by
  have hx : Conforms rule (fun h' _ => Quiet h h' ∧ True) p.run h := Conforms.of_plain (hp h) hrule
  exact hx.mono (fun _ _ => id) fun _ _ hx _ _ => hx.1

end Program

end BoxOffice
