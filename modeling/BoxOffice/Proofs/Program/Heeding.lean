import BoxOffice.Proofs.Program.Idle

/-! Programs that heed nobody but the store and the clock. They may ask others for something, but do
the same whatever the answer is; so two runs from one store at one time come to the same. -/

namespace BoxOffice

variable {w w' : Surroundings} {s : Store} {h h' : List Turn} {now : Time.Instant}

/-- The clock stands still. -/
def Surroundings.At (w : Surroundings) (now : Time.Instant) : Prop := ∀ h, w h .now = now

theorem Request.answer_eq_of_isInner {r : Request} (hr : r.isInner) (hw : w.At now)
    (hw' : w'.At now) : r.answer w s h = r.answer w' s h' := by
  cases r with
  | now => exact (hw h).trans (hw' h').symm
  | store c => rfl
  | count c => rfl
  | _ => cases hr

namespace Program

variable {α β ε ε' : Type}

/-- The program ends with a result, and nobody else's answers make a difference to it. -/
def Heedless : Program α → Prop
  | .pure _ => True
  | .ask r next => (r.isInner ∨ ∀ x y, next x = next y) ∧ ∀ x, (next x).Heedless
  | .abort => False

theorem Heedless.gives {p : Program α} (hp : p.Heedless) :
    p.Gives (fun _ => True) fun _ => True := by
  induction p with
  | pure a => trivial
  | ask r next ih => exact ⟨trivial, fun x => ih x (hp.2 x)⟩
  | abort => exact hp

/-- A program that asks nobody outside heeds nobody outside. -/
theorem Gives.heedless {done : α → Prop} {p : Program α} (hp : p.Gives (fun r => r.isInner) done) :
    p.Heedless := by
  induction p with
  | pure a => trivial
  | ask r next ih => exact ⟨.inl hp.1, fun x => ih x (hp.2 x)⟩
  | abort => exact hp

/-- At the same time, and from the same store, the program makes the same requests and comes to the
same. -/
theorem Heedless.agree {p : Program α} (hp : p.Heedless) (hw : w.At now) (hw' : w'.At now)
    (s : Store) (h h' : List Turn) :
    ∃ a s' new new', p.alone w s h = ⟨some a, s', new ++ h⟩ ∧
      p.alone w' s h' = ⟨some a, s', new' ++ h'⟩ ∧
      new.map (·.request) = new'.map (·.request) := by
  induction p generalizing s h h' with
  | pure a => exact ⟨a, s, [], [], rfl, rfl, rfl⟩
  | ask r next ih =>
    have hnext : next (r.answer w s h) = next (r.answer w' s h') := by
      rcases hp.1 with hr | hsame
      · rw [Request.answer_eq_of_isInner hr hw hw']
      · exact hsame _ _
    obtain ⟨a, s', new, new', hrun, hrun', hrequests⟩ := ih _ (hp.2 _) (r.after s)
      (⟨r, r.answer w s h⟩ :: h) (⟨r, r.answer w' s h'⟩ :: h')
    refine ⟨a, s', new ++ [⟨r, r.answer w s h⟩], new' ++ [⟨r, r.answer w' s h'⟩], ?_, ?_, ?_⟩
    · rw [alone, hrun, List.append_assoc]
      rfl
    · rw [alone, ← hnext, hrun', List.append_assoc]
      rfl
    · rw [List.map_append, List.map_append, hrequests]
      rfl
  | abort => exact hp.elim

theorem Heedless.bind {p : Program α} {f : α → Program β} (hp : p.Heedless)
    (hf : ∀ a, (f a).Heedless) : (p.bind f).Heedless := by
  induction p with
  | pure a => exact hf a
  | ask r next ih =>
    refine ⟨hp.1.imp_right fun hsame x y => ?_, fun x => ih x (hp.2 x)⟩
    exact congrArg (fun q => q.bind f) (hsame x y)
  | abort => exact hp.elim

theorem Heedless.andThen {p : ExceptT ε Program α} {f : α → ExceptT ε Program β}
    (hp : p.run.Heedless) (hf : ∀ a, (f a).run.Heedless) : (p >>= f).run.Heedless := by
  refine Heedless.bind hp fun x => ?_
  cases x with
  | ok a => exact hf a
  | error e => trivial

theorem Heedless.lift {p : Program α} (hp : p.Heedless) :
    (liftM p : ExceptT ε Program α).run.Heedless :=
  Heedless.bind hp fun _ => trivial

theorem Heedless.within {p : ExceptT ε Program α} {f : ε → ε'} (hp : p.run.Heedless) :
    (Program.within f p).run.Heedless :=
  Heedless.bind hp fun _ => trivial

theorem now_heedless : Program.now.Heedless := ⟨.inl rfl, fun _ => trivial⟩

theorem store_heedless (c : Store.Call) : (Program.store c).run.Heedless :=
  ⟨.inl rfl, fun _ => trivial⟩

end Program

end BoxOffice
