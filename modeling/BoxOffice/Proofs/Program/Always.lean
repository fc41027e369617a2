import BoxOffice.Proofs.Program.Alone

/-! What holds of a program whatever it is answered, by the store as well. It comes to a result, and
the turns that it takes, the first one first, and the result are as described. -/

namespace BoxOffice.Program

variable {α β ε : Type}

/-- Whatever it is answered, the program comes to a result, and `done` holds of its turns and its
result. -/
def Always : Program α → (List Turn → α → Prop) → Prop
  | .pure a, done => done [] a
  | .ask r next, done => ∀ x, (next x).Always fun turns a => done (⟨r, x⟩ :: turns) a
  | .abort, _ => False

theorem Always.mono {p : Program α} {done done' : List Turn → α → Prop} (hp : p.Always done)
    (hdone : ∀ turns a, done turns a → done' turns a) : p.Always done' := by
  induction p generalizing done done' with
  | pure a => exact hdone [] a hp
  | ask r next ih => exact fun x => ih x (hp x) fun turns a => hdone (⟨r, x⟩ :: turns) a
  | abort => exact hp

/-- The turns of the second part come after those of the first. -/
theorem always_bind {p : Program α} {f : α → Program β} {done : List Turn → β → Prop} :
    (p.bind f).Always done ↔
      p.Always fun turns a => (f a).Always fun turns' b => done (turns ++ turns') b := by
  induction p generalizing done with
  | pure a => rfl
  | ask r next ih => simp only [bind, Always, ih, List.cons_append]
  | abort => rfl

theorem Always.bind {p : Program α} {f : α → Program β} {mid : List Turn → α → Prop}
    {done : List Turn → β → Prop} (hp : p.Always mid)
    (hf : ∀ turns a, mid turns a → (f a).Always fun turns' b => done (turns ++ turns') b) :
    (p.bind f).Always done :=
  always_bind.2 (hp.mono hf)

/-- A program with errors goes on from a result that is none. -/
theorem Always.andThen {p : ExceptT ε Program α} {f : α → ExceptT ε Program β}
    {mid : List Turn → Except ε α → Prop} {done : List Turn → Except ε β → Prop}
    (hp : p.run.Always mid)
    (hok : ∀ turns a, mid turns (.ok a) →
      (f a).run.Always fun turns' b => done (turns ++ turns') b)
    (herror : ∀ turns e, mid turns (.error e) → done turns (.error e)) :
    (p >>= f).run.Always done := by
  apply Always.bind hp
  intro turns x hx
  cases x with
  | ok a => exact hok turns a hx
  | error e =>
    have hdone := herror turns e hx
    rw [← List.append_nil turns] at hdone
    exact hdone

/-- A rest that makes nothing of any result is left out. -/
theorem Always.bind_eq {p : Program α} {f : α → Program α}
    (hp : p.Always fun _ a => f a = .pure a) : p.bind f = p := by
  induction p with
  | pure a => exact hp
  | ask r next ih =>
    rw [Program.bind]
    congr 1
    exact funext fun x => ih x (hp x)
  | abort => rfl

/-- In particular when it runs alone. -/
theorem Always.ends {p : Program α} {done : List Turn → α → Prop} (hp : p.Always done)
    (w : Surroundings) (s : Store) (h : List Turn) :
    Ends w (fun a _ h' => ∃ turns, h' = turns.reverse ++ h ∧ done turns a) p s h := by
  induction p generalizing done s h with
  | pure a => exact ⟨a, s, h, rfl, [], rfl, hp⟩
  | ask r next ih =>
    obtain ⟨a, s', h', hrun, turns, hturns, hdone⟩ :=
      ih _ (hp (r.answer w s h)) (r.after s) (⟨r, r.answer w s h⟩ :: h)
    refine ⟨a, s', h', hrun, ⟨r, r.answer w s h⟩ :: turns, ?_, hdone⟩
    rw [hturns, List.reverse_cons, List.append_assoc]
    rfl
  | abort => exact hp.elim

end BoxOffice.Program
