import BoxOffice.Proofs.Program.Alone

/-! Idle requests leave the store and the books as they are: they read, ask others, or count what
became of an errand. Most of what a service asks for is idle, so what it comes to when it runs alone
is told by the few requests that are not. -/

namespace BoxOffice

/-- The call only reads. -/
def Store.Call.reads : Store.Call → Bool
  | .putEvent _ | .createPurchase _ _ | .applyTransition _ _ | .reissue _ _ | .recordCallback _ _
  | .putCredential _ => false
  | _ => true

/-- Sales, changes of status and notifications are on the books; what became of errands is not. -/
def Counter.onBooks : Counter → Bool
  | .dispatches _ _ => false
  | _ => true

/-- Requests that change neither the store nor the books. -/
def Request.isIdle : Request → Bool
  | .store c => c.reads
  | .count c => !c.onBooks
  | _ => true

/-- Idle requests that are plain as well. -/
def Request.isLight (r : Request) : Bool := r.isPlain && r.isIdle

variable {r : Request}

theorem Request.isPlain_of_isLight (hr : r.isLight) : r.isPlain := (Bool.and_eq_true_iff.1 hr).1

theorem Request.isIdle_of_isLight (hr : r.isLight) : r.isIdle := (Bool.and_eq_true_iff.1 hr).2

theorem Store.perform_of_reads {c : Store.Call} (hc : c.reads) (s : Store) :
    (s.perform c).2 = s := by
  cases c <;> first | rfl | cases hc

/-- A call that gives an error leaves the store as it was. -/
theorem Store.perform_error {c : Store.Call} {s s' : Store} {e : StoreError}
    (h : s.perform c = (.error e, s')) : s' = s := by
  have hchanged : ∀ {α : Type} {x : Except StoreError (α × Store)},
      Store.changed s x = (.error e, s') → s' = s := by
    intro α x hx
    cases x <;> cases hx
    rfl
  cases c <;> first | exact hchanged h | cases h

theorem Request.after_of_isIdle (hr : r.isIdle) (s : Store) : r.after s = s := by
  cases r with
  | store c => exact Store.perform_of_reads hr s
  | _ => rfl

/-! ### The books -/

def Request.counter? : Request → Option Counter
  | .count c => some c
  | _ => none

/-- The counters that were counted up, latest first. -/
def counters (h : List Turn) : List Counter := h.filterMap (·.request.counter?)

/-- As `counters`, for those on the books. -/
def booked (h : List Turn) : List Counter := (counters h).filter (·.onBooks)

theorem booked_append (h h' : List Turn) : booked (h ++ h') = booked h ++ booked h' := by
  rw [booked, counters, List.filterMap_append, List.filter_append]
  rfl

theorem booked_cons_idle {t : Turn} (ht : t.request.isIdle) (h : List Turn) :
    booked (t :: h) = booked h := by
  obtain ⟨r, x⟩ := t
  cases r with
  | count c =>
    have hc : c.onBooks = false := by simpa [Request.isIdle] using ht
    simp [booked, counters, Request.counter?, hc]
  | _ => rfl

theorem booked_cons_count {c : Counter} (hc : c.onBooks) (h : List Turn) :
    booked (⟨.count c, ()⟩ :: h) = c :: booked h := by
  simp [booked, counters, Request.counter?, hc]

/-- Only idle requests come between the two histories. -/
abbrev Idle (h h' : List Turn) : Prop := Since (fun r => r.isIdle) h h'

theorem Since.booked_eq {h h' : List Turn} (hi : Idle h h') : booked h' = booked h := by
  obtain ⟨new, rfl, hnew⟩ := hi
  induction new with
  | nil => rfl
  | cons t new ih =>
    obtain ⟨ht, hnew⟩ := List.forall_mem_cons.1 hnew
    rw [List.cons_append, booked_cons_idle ht, ih hnew]

namespace Program

variable {α β ε ε' : Type} {kind kind' : Request → Prop} {w : Surroundings} {s : Store}
  {h h₀ : List Turn}

/-! ### Light programs -/

/-- The program makes light requests only, whatever it is answered. -/
abbrev Light (p : ExceptT ε Program α) : Prop := Only (fun r => r.isLight) p

theorem light_now : Light (liftM Program.now : ExceptT ε Program Time.Instant) := only_request rfl

theorem Light.plain {p : ExceptT ε Program α} (hp : Light p) : Plain p :=
  hp.mono fun _ => Request.isPlain_of_isLight

theorem Light.follows {rule : Rule} {p : ExceptT ε Program α} (hp : Light p)
    (hrule : ∀ h r, r.isLight → rule h r) : Follows rule (fun h' _ => Quiet h h') p h := by
  have hx : Conforms rule (fun h' _ => Since (fun r => r.isLight) h h' ∧ True) p.run h :=
    Conforms.since ((hp h).mono (fun h r hr => ⟨hrule h r hr, hr⟩) fun _ _ => id)
  exact hx.mono (fun _ _ => id) fun _ _ hx _ _ => hx.1.mono fun _ => Request.isPlain_of_isLight

theorem Light.idle {p : ExceptT ε Program α} (hp : Light p) : Only (fun r => r.isIdle) p :=
  hp.mono fun _ => Request.isIdle_of_isLight

/-! ### Programs that do not break off -/

/-- The program makes requests of a kind only and has a result as described, whatever it is
answered. -/
def Gives (kind : Request → Prop) (done : α → Prop) : Program α → Prop
  | .pure a => done a
  | .ask r next => kind r ∧ ∀ x, (next x).Gives kind done
  | .abort => False

theorem Gives.mono {done done' : α → Prop} {p : Program α} (hp : p.Gives kind done)
    (hk : ∀ r, kind r → kind' r) (hdone : ∀ a, done a → done' a) : p.Gives kind' done' := by
  induction p with
  | pure a => exact hdone a hp
  | ask r next ih => exact ⟨hk r hp.1, fun x => ih x (hp.2 x)⟩
  | abort => exact hp

theorem Gives.bind {mid : α → Prop} {done : β → Prop} {p : Program α} {f : α → Program β}
    (hp : p.Gives kind mid) (hf : ∀ a, mid a → (f a).Gives kind done) :
    (p.bind f).Gives kind done := by
  induction p with
  | pure a => exact hf a hp
  | ask r next ih => exact ⟨hp.1, fun x => ih x (hp.2 x)⟩
  | abort => exact hp.elim

theorem Gives.conforms {done : α → Prop} {p : Program α} (hp : p.Gives kind done) :
    Conforms (fun _ r => kind r) (fun _ => done) p h := by
  induction p generalizing h with
  | pure a => exact hp
  | ask r next ih => exact ⟨hp.1, fun x _ => ih x (hp.2 x)⟩
  | abort => trivial

/-- A program with errors goes on from a result that is none. -/
theorem Gives.andThen {mid : Except ε α → Prop} {done : Except ε β → Prop}
    {p : ExceptT ε Program α} {f : α → ExceptT ε Program β} (hp : p.run.Gives kind mid)
    (hok : ∀ a, mid (.ok a) → (f a).run.Gives kind done)
    (herror : ∀ e, mid (.error e) → done (.error e)) : (p >>= f).run.Gives kind done := by
  refine Gives.bind hp fun x hx => ?_
  cases x with
  | ok a => exact hok a hx
  | error e => exact herror e hx

/-- A part without errors is always gone on from. -/
theorem Gives.lift {mid : α → Prop} {done : Except ε β → Prop} {p : Program α}
    {f : α → ExceptT ε Program β} (hp : p.Gives kind mid)
    (hf : ∀ a, mid a → (f a).run.Gives kind done) :
    ((liftM p : ExceptT ε Program α) >>= f).run.Gives kind done := by
  have hlift : (liftM p : ExceptT ε Program α).run.Gives kind fun x => ∃ a, x = .ok a ∧ mid a :=
    Gives.bind hp fun a ha => ⟨a, rfl, ha⟩
  refine Gives.bind hlift fun x hx => ?_
  obtain ⟨a, rfl, ha⟩ := hx
  exact hf a ha

theorem gives_orThrow {done : Except ε α → Prop} {e : ε} {o : Option α} (herror : done (.error e))
    (hok : ∀ a, o = some a → done (.ok a)) : (Program.orThrow e o).run.Gives kind done := by
  cases o with
  | none => exact herror
  | some a => exact hok a rfl

theorem now_gives : Program.now.Gives (fun r => r.isLight) fun _ => True := ⟨rfl, fun _ => trivial⟩

/-! ### Failures -/

/-- The program has a result, and its failures are as described, whatever it is answered. -/
def FailsWith (failure : ε → Prop) (p : ExceptT ε Program α) : Prop :=
  p.run.Gives (fun _ => True) fun x => ∀ e, x = .error e → failure e

section FailsWith

variable {failure : ε → Prop} {failure' : ε' → Prop} {p : ExceptT ε Program α}
  {f : α → ExceptT ε Program β}

theorem failsWith_pure (a : α) : FailsWith failure (Pure.pure a : ExceptT ε Program α) := nofun

theorem failsWith_throw {e : ε} (he : failure e) :
    FailsWith failure (throw e : ExceptT ε Program α) := by
  rintro _ ⟨⟩
  exact he

/-- Nothing follows a failure. -/
theorem failsWith_throw_bind {e : ε} (he : failure e) : FailsWith failure (throw e >>= f) :=
  failsWith_throw (α := β) he

theorem FailsWith.bind (hp : FailsWith failure p) (hf : ∀ a, FailsWith failure (f a)) :
    FailsWith failure (p >>= f) :=
  Gives.andThen hp (fun a _ => hf a) fun e he _ hx => Except.error.inj hx ▸ he e rfl

theorem FailsWith.within {g : ε → ε'} (hp : FailsWith failure p)
    (hg : ∀ e, failure e → failure' (g e)) : FailsWith failure' (Program.within g p) := by
  refine Gives.bind hp fun x hx => ?_
  cases x with
  | ok a => exact failsWith_pure a
  | error e => exact failsWith_throw (hg e (hx e rfl))

theorem failsWith_orThrow {e : ε} (he : failure e) (o : Option α) :
    FailsWith failure (Program.orThrow e o) :=
  gives_orThrow (fun _ hx => Except.error.inj hx ▸ he) fun _ _ => nofun

theorem Gives.fails {done : Except ε α → Prop} (hp : p.run.Gives kind done) :
    FailsWith (fun _ => True) p :=
  hp.mono (fun _ _ => trivial) fun _ _ _ _ => trivial

/-- A part without errors does not fail. -/
theorem Gives.failsWith {done : α → Prop} {p : Program α} (hp : p.Gives kind done) :
    FailsWith failure (liftM p : ExceptT ε Program α) :=
  Gives.bind (hp.mono (fun _ _ => trivial) fun _ => id) fun _ _ => nofun

end FailsWith

theorem Gives.light {done : α → Prop} {p : Program α} (hp : p.Gives (fun r => r.isLight) done) :
    Light (liftM p : ExceptT ε Program α) :=
  fun _ => Conforms.bind hp.conforms fun _ _ _ => trivial

theorem Gives.idle {done : α → Prop} {p : Program α} (hp : p.Gives (fun r => r.isLight) done) :
    p.Gives (fun r => r.isIdle) done :=
  hp.mono (fun _ => Request.isIdle_of_isLight) fun _ => id

theorem Gives.quiet {rule : Rule} {done : α → Prop} {p : Program α}
    (hp : p.Gives (fun r => r.isLight) done) (hplain : ∀ h r, r.isPlain → rule h r) :
    Conforms rule (fun h' a => Quiet h h' ∧ done a) p h :=
  (hp.mono (fun _ => Request.isPlain_of_isLight) fun _ => id).conforms.of_plain hplain

/-- It has a result when it runs alone, from any store. -/
theorem Gives.alone {done : α → Prop} {p : Program α} (hp : p.Gives kind done)
    (w : Surroundings) (s : Store) (h : List Turn) :
    Ends w (fun a _ h' => done a ∧ Since kind h h') p s h := by
  suffices H : ∀ h₀, Since kind h₀ h →
      Ends w (fun a _ h' => done a ∧ Since kind h₀ h') p s h from H h (.refl h)
  intro h₀ hh
  induction p generalizing s h with
  | pure a => exact ⟨a, s, h, rfl, hp, hh⟩
  | ask r next ih => exact ih _ (hp.2 _) _ _ (hh.cons (t := ⟨r, r.answer w s h⟩) hp.1)
  | abort => exact hp.elim

/-- It leaves the store as it was if all its requests are idle. -/
theorem Gives.keeps {done : α → Prop} {p : Program α} (hp : p.Gives (fun r => r.isIdle) done)
    (w : Surroundings) (s : Store) (h : List Turn) :
    Keeps w (fun a h' => done a ∧ Idle h h') p s h := by
  suffices H : ∀ h₀, Idle h₀ h → Keeps w (fun a h' => done a ∧ Idle h₀ h') p s h from
    H h (.refl h)
  intro h₀ hh
  induction p generalizing h with
  | pure a => exact ⟨a, h, rfl, hp, hh⟩
  | ask r next ih =>
    have hnext := ih (r.answer w s h) (hp.2 _) _ (hh.cons (t := ⟨r, r.answer w s h⟩) hp.1)
    rw [Keeps, Program.alone, Request.after_of_isIdle hp.1]
    exact hnext
  | abort => exact hp.elim

theorem Gives.ends {mid : α → Prop} {done : α → Store → List Turn → Prop} {p : Program α}
    (hp : p.Gives (fun r => r.isIdle) mid) (hdone : ∀ a h', mid a → Idle h h' → done a s h') :
    Ends w done p s h := by
  obtain ⟨a, h', hrun, ha, hi⟩ := hp.keeps w s h
  exact ⟨a, s, h', hrun, hdone a h' ha hi⟩

/-! ### Idle parts of programs that run alone -/

/-- An idle program leaves the store as it was. -/
theorem Conforms.comes {done : List Turn → α → Prop} {p : Program α}
    (hp : p.Conforms (fun _ r => r.isIdle) done h) (hs : s.Coherent) (w : Surroundings) :
    Comes w (fun x s' h' => s' = s ∧ Idle h h' ∧ ∀ a, x = some a → done h' a) p s h := by
  suffices H : ∀ h₀, Idle h₀ h → Comes w (fun x s' h' =>
      s' = s ∧ Idle h₀ h' ∧ ∀ a, x = some a → done h' a) p s h from H h (.refl h)
  intro h₀ hh
  induction p generalizing h with
  | pure a =>
    refine ⟨rfl, hh, fun b hb => ?_⟩
    cases hb
    exact hp
  | ask r next ih =>
    have hnext := ih _ (hp.2 _ (r.answer_fits hs)) (hh.cons (t := ⟨r, r.answer w s h⟩) hp.1)
    rw [Comes, alone, Request.after_of_isIdle hp.1]
    exact hnext
  | abort =>
    refine ⟨rfl, hh, fun b hb => ?_⟩
    cases hb

/-- After an idle part the store is as it was. Whatever stops the program there is an error, or
breaks it off. -/
theorem Comes.idle {mid : List Turn → α → Prop}
    {done : Option (Except ε β) → Store → List Turn → Prop} {p : ExceptT ε Program α}
    {f : α → ExceptT ε Program β} (hs : s.Coherent) (hh : Idle h₀ h)
    (hp : Follows (fun _ r => r.isIdle) mid p h)
    (hstop : ∀ x h', Idle h₀ h' → (∀ b, x ≠ some (.ok b)) → done x s h')
    (hf : ∀ a h', Idle h h' → mid h' a → Comes w done (f a).run s h') :
    Comes w done (p >>= f).run s h := by
  refine Comes.bind (Conforms.comes hp hs w) ?_ ?_
  · rintro x s' h' ⟨rfl, hidle, hx⟩
    cases x with
    | ok a => exact hf a h' hidle (hx _ rfl a rfl)
    | error e => exact hstop _ h' (hh.trans hidle) (fun b hb => by cases hb)
  · rintro s' h' ⟨rfl, hidle, -⟩
    exact hstop none h' (hh.trans hidle) (fun b hb => by cases hb)

/-- A call to the store, and then what its reply makes of the rest. -/
theorem Comes.call {done : Option (Except ε' β) → Store → List Turn → Prop} {c : Store.Call}
    {x : Except StoreError c.Reply} {s' : Store} {g : StoreError → ε'}
    {f : c.Reply → ExceptT ε' Program β} (hc : s.perform c = (x, s'))
    (herror : ∀ e, x = .error e → done (some (.error (g e))) s' (.call c x :: h))
    (hok : ∀ a, x = .ok a → Comes w done (f a).run s' (.call c x :: h)) :
    Comes w done (Program.within g (Program.store c) >>= f).run s h := by
  have hfirst := alone_within (alone_store (w := w) (h := h) hc) g
  cases x with
  | error e => exact .error hfirst (herror e rfl)
  | ok a => exact .ok hfirst (hok a rfl)

theorem Comes.orThrow {done : Option (Except ε β) → Store → List Turn → Prop} {e : ε}
    {o : Option α} {f : α → ExceptT ε Program β} (herror : o = none → done (some (.error e)) s h)
    (hok : ∀ a, o = some a → Comes w done (f a).run s h) :
    Comes w done (Program.orThrow e o >>= f).run s h := by
  cases o with
  | none => exact herror rfl
  | some a => exact hok a rfl

end Program

end BoxOffice
