import BoxOffice.Proofs.Program.Conduct

/-! Programs that run alone. Nobody else takes a turn between theirs, so the store answers a call as
their calls before have left it; what the others answer may depend on all the turns before. Such a
run always ends, with a result unless the program breaks off. -/

namespace BoxOffice

/-- What everybody but the store answers after some turns. -/
abbrev Surroundings := List Turn → (r : Request) → r.Answer

/-- The answer to a request: the store's own, or that of the surroundings. -/
def Request.answer (w : Surroundings) (s : Store) (h : List Turn) : (r : Request) → r.Answer
  | .store c => (s.perform c).1
  | r => w h r

theorem Request.answer_fits {w : Surroundings} {s : Store} {h : List Turn} (hs : s.Coherent)
    (r : Request) : r.Fits (r.answer w s h) := by
  cases r with
  | store c => exact ⟨s, hs, rfl⟩
  | _ => trivial

/-- The store after a request. -/
def Request.after (s : Store) : Request → Store
  | .store c => (s.perform c).2
  | _ => s

/-- The request asks nobody outside the box office. -/
def Request.isInner : Request → Bool
  | .now | .store _ | .count _ => true
  | _ => false

/-- What a program that ran alone came to. -/
structure Ran (α : Type) where
  /-- There is none if the program broke off. -/
  result : Option α
  store : Store
  /-- The turns up to the end, latest first. -/
  turns : List Turn

namespace Program

variable {α β ε ε' : Type} {w : Surroundings} {s s' : Store} {h h' : List Turn}

theorem run_bind (p : ExceptT ε Program α) (f : α → ExceptT ε Program β) :
    (p >>= f).run = p.run.bind fun
      | .ok a => (f a).run
      | .error e => .pure (.error e) := by
  have hcont : ∀ x, (ExceptT.bindCont f x : Program (Except ε β)) = match x with
      | .ok a => (f a).run
      | .error e => .pure (.error e) := by
    intro x
    cases x <;> rfl
  exact congrArg p.run.bind (funext hcont)

theorem run_lift_bind (p : Program α) (f : α → ExceptT ε Program β) :
    ((liftM p : ExceptT ε Program α) >>= f).run = p.bind fun a => (f a).run :=
  bind_bind p _ _

/-- The run of a program from a store, after some turns. -/
def alone (w : Surroundings) : Program α → Store → List Turn → Ran α
  | .pure a, s, h => ⟨some a, s, h⟩
  | .ask r next, s, h => (next (r.answer w s h)).alone w (r.after s) (⟨r, r.answer w s h⟩ :: h)
  | .abort, s, h => ⟨none, s, h⟩

/-- A program goes on from where its first part ended. -/
theorem alone_bind {p : Program α} {a : α} (hp : p.alone w s h = ⟨some a, s', h'⟩)
    (f : α → Program β) : (p.bind f).alone w s h = (f a).alone w s' h' := by
  induction p generalizing s h with
  | pure b =>
    cases hp
    rfl
  | ask r next ih => exact ih _ hp
  | abort => cases hp

theorem alone_within {p : ExceptT ε Program α} {x : Except ε α}
    (hp : p.run.alone w s h = ⟨some x, s', h'⟩) (f : ε → ε') :
    (within f p).run.alone w s h = ⟨some (x.mapError f), s', h'⟩ :=
  alone_bind hp _

theorem alone_lift {p : Program α} {a : α} (hp : p.alone w s h = ⟨some a, s', h'⟩) :
    (liftM p : ExceptT ε Program α).run.alone w s h = ⟨some (.ok a), s', h'⟩ :=
  alone_bind hp _

theorem alone_store {c : Store.Call} {x : Except StoreError c.Reply}
    (hc : s.perform c = (x, s')) :
    (Program.store c).run.alone w s h = ⟨some x, s', .call c x :: h⟩ := by
  obtain ⟨rfl, rfl⟩ := Prod.mk.inj hc
  rfl

/-- A run only adds turns. -/
theorem alone_turns (w : Surroundings) (p : Program α) (s : Store) (h : List Turn) :
    ∃ new, (p.alone w s h).turns = new ++ h := by
  induction p generalizing s h with
  | pure a => exact ⟨[], rfl⟩
  | ask r next ih =>
    obtain ⟨new, hnew⟩ := ih (r.answer w s h) (r.after s) (⟨r, r.answer w s h⟩ :: h)
    exact ⟨new ++ [⟨r, r.answer w s h⟩], by rw [alone, hnew, List.append_assoc]; rfl⟩
  | abort => exact ⟨[], rfl⟩

theorem mem_of_alone {p : Program α} {x : Option α} (hp : p.alone w s h = ⟨x, s', h'⟩) {t : Turn}
    (ht : t ∈ h) : t ∈ h' := by
  obtain ⟨new, hnew⟩ := alone_turns w p s h
  have hturns : h' = new ++ h := (congrArg Ran.turns hp).symm.trans hnew
  rw [hturns]
  exact List.mem_append_right _ ht

theorem alone_bind_none {p : Program α} (hp : p.alone w s h = ⟨none, s', h'⟩) (f : α → Program β) :
    (p.bind f).alone w s h = ⟨none, s', h'⟩ := by
  induction p generalizing s h with
  | pure a => cases hp
  | ask r next ih => exact ih _ hp
  | abort =>
    cases hp
    rfl

/-- The program, run alone, comes to an end as described. There is no result if it breaks off. -/
def Comes (w : Surroundings) (done : Option α → Store → List Turn → Prop) (p : Program α)
    (s : Store) (h : List Turn) : Prop :=
  done (p.alone w s h).result (p.alone w s h).store (p.alone w s h).turns

theorem comes_of_alone {done : Option α → Store → List Turn → Prop} {p : Program α} {x : Option α}
    (hp : p.alone w s h = ⟨x, s', h'⟩) (hx : done x s' h') : Comes w done p s h := by
  rw [Comes, hp]
  exact hx

theorem Comes.mono {done done' : Option α → Store → List Turn → Prop} {p : Program α}
    (hp : Comes w done p s h) (hdone : ∀ x s' h', done x s' h' → done' x s' h') :
    Comes w done' p s h :=
  hdone _ _ _ hp

theorem Comes.bind {mid : Option α → Store → List Turn → Prop}
    {done : Option β → Store → List Turn → Prop} {p : Program α} {f : α → Program β}
    (hp : Comes w mid p s h) (hf : ∀ a s' h', mid (some a) s' h' → Comes w done (f a) s' h')
    (hnone : ∀ s' h', mid none s' h' → done none s' h') : Comes w done (p.bind f) s h := by
  rw [Comes] at hp
  cases hrun : p.alone w s h with
  | mk x s' h' =>
    rw [hrun] at hp
    cases x with
    | none => exact comes_of_alone (alone_bind_none hrun f) (hnone s' h' hp)
    | some a =>
      rw [Comes, alone_bind hrun]
      exact hf a s' h' hp

theorem Comes.seq {done : Option β → Store → List Turn → Prop} {p : Program α}
    {f : α → Program β} {a : α} (hp : p.alone w s h = ⟨some a, s', h'⟩)
    (hf : Comes w done (f a) s' h') : Comes w done (p.bind f) s h := by
  rw [Comes, alone_bind hp]
  exact hf

theorem Comes.ok {done : Option (Except ε β) → Store → List Turn → Prop}
    {p : ExceptT ε Program α} {f : α → ExceptT ε Program β} {a : α}
    (hp : p.run.alone w s h = ⟨some (.ok a), s', h'⟩) (hf : Comes w done (f a).run s' h') :
    Comes w done (p >>= f).run s h :=
  .seq hp hf

theorem Comes.error {done : Option (Except ε β) → Store → List Turn → Prop}
    {p : ExceptT ε Program α} {f : α → ExceptT ε Program β} {e : ε}
    (hp : p.run.alone w s h = ⟨some (.error e), s', h'⟩) (hdone : done (some (.error e)) s' h') :
    Comes w done (p >>= f).run s h :=
  .seq hp hdone

/-- As `Comes.bind`, for a first part whose errors are told as others. -/
theorem Comes.within {mid : Option (Except ε α) → Store → List Turn → Prop}
    {done : Option (Except ε' β) → Store → List Turn → Prop} {p : ExceptT ε Program α}
    {g : ε → ε'} {f : α → ExceptT ε' Program β} (hp : Comes w mid p.run s h)
    (hok : ∀ a s' h', mid (some (.ok a)) s' h' → Comes w done (f a).run s' h')
    (herror : ∀ e s' h', mid (some (.error e)) s' h' → done (some (.error (g e))) s' h')
    (hnone : ∀ s' h', mid none s' h' → done none s' h') :
    Comes w done (Program.within g p >>= f).run s h := by
  have hwithin : (Program.within g p >>= f).run = p.run.bind fun x =>
      match x.mapError g with
      | .ok a => (f a).run
      | .error e => .pure (.error e) := by
    rw [run_bind]
    exact bind_bind ..
  rw [hwithin]
  refine Comes.bind hp (fun x s' h' hx => ?_) hnone
  cases x with
  | ok a => exact hok a s' h' hx
  | error e => exact herror e s' h' hx

/-! ### Ends -/

/-- The program, run alone, ends with a result, and as described. -/
def Ends (w : Surroundings) (done : α → Store → List Turn → Prop) (p : Program α) (s : Store)
    (h : List Turn) : Prop :=
  ∃ a s' h', p.alone w s h = ⟨some a, s', h'⟩ ∧ done a s' h'

/-- As `Ends`, for a program that leaves the store as it was. -/
def Keeps (w : Surroundings) (done : α → List Turn → Prop) (p : Program α) (s : Store)
    (h : List Turn) : Prop :=
  ∃ a h', p.alone w s h = ⟨some a, s, h'⟩ ∧ done a h'

theorem Ends.keeps {done : α → List Turn → Prop} {p : Program α}
    (hp : Ends w (fun a s' h' => s' = s ∧ done a h') p s h) : Keeps w done p s h := by
  obtain ⟨a, _, h', hrun, rfl, hdone⟩ := hp
  exact ⟨a, h', hrun, hdone⟩

theorem Ends.mono {done done' : α → Store → List Turn → Prop} {p : Program α}
    (hp : Ends w done p s h)
    (hdone : ∀ a s' h', (∀ t ∈ h, t ∈ h') → done a s' h' → done' a s' h') : Ends w done' p s h := by
  obtain ⟨a, s', h', hrun, ha⟩ := hp
  exact ⟨a, s', h', hrun, hdone a s' h' (fun _ ht => mem_of_alone hrun ht) ha⟩

theorem Ends.seq {done : β → Store → List Turn → Prop} {p : Program α} {f : α → Program β} {a : α}
    (hp : p.alone w s h = ⟨some a, s', h'⟩) (hf : Ends w done (f a) s' h') :
    Ends w done (p.bind f) s h := by
  rw [Ends, alone_bind hp]
  exact hf

theorem Ends.ok {done : Except ε β → Store → List Turn → Prop} {p : ExceptT ε Program α}
    {f : α → ExceptT ε Program β} {a : α} (hp : p.run.alone w s h = ⟨some (.ok a), s', h'⟩)
    (hf : Ends w done (f a).run s' h') : Ends w done (p >>= f).run s h :=
  .seq hp hf

theorem Ends.error {done : Except ε β → Store → List Turn → Prop} {p : ExceptT ε Program α}
    {f : α → ExceptT ε Program β} {e : ε} (hp : p.run.alone w s h = ⟨some (.error e), s', h'⟩)
    (hdone : done (.error e) s' h') : Ends w done (p >>= f).run s h :=
  .seq hp ⟨_, _, _, rfl, hdone⟩

end Program

end BoxOffice
