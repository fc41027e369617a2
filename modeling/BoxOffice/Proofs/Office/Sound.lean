import BoxOffice.Proofs.Office.Lawful

/-! The log of every office that moves lead to is lawful. -/

namespace BoxOffice

namespace Office

variable {setup : Setup} {o : Office}

structure Sound (o : Office) : Prop where
  lawful : Lawful o.log
  store : (storeAfter o.log).SameRows o.store
  /-- What is left of a task goes on as its job may, after the turns that it took. -/
  conforms {i : Nat} {t : Task} : o.tasks[i]? = some t →
    t.program.Conforms t.job.Allowed t.job.Done (turnsOf i o.log)
  dispatched {t : Task} {c : DispatchContext} : t ∈ o.tasks → t.job = .route c →
    ∃ d ∈ o.log, d.turn.request = .dispatch c
  task_lt {e : Entry} : e ∈ o.log → e.task < o.tasks.length

/-- Something is true of every task and the turns that it took. -/
def Tracks (o : Office) (P : (job : Job) → Program job.Result → List Turn → Prop) : Prop :=
  ∀ i t, o.tasks[i]? = some t → P t.job t.program (turnsOf i o.log)

section Tracks

variable {P : (job : Job) → Program job.Result → List Turn → Prop}

theorem Tracks.beginning (hP : o.Tracks P) (hlt : ∀ e ∈ o.log, e.task < o.tasks.length)
    (hstart : ∀ job, P job (job.program setup) []) (jobs : List Job) :
    (o.beginning setup jobs).Tracks P := by
  intro i t ht
  simp only [Office.beginning] at ht ⊢
  rcases Nat.lt_or_ge i o.tasks.length with hi | hi
  · rw [List.getElem?_append_left hi] at ht
    exact hP i t ht
  · -- a task that begins has taken no turn
    have hnil : turnsOf i o.log = [] :=
      turnsOf_eq_nil fun e he => Nat.ne_of_lt (Nat.lt_of_lt_of_le (hlt e he) hi)
    rw [List.getElem?_append_right hi] at ht
    obtain ⟨job, -, rfl⟩ := List.mem_map.1 (List.mem_of_getElem? ht)
    rw [hnil]
    exact hstart job

theorem Tracks.advanced (hP : o.Tracks P) {i : Nat} {job : Job} {r : Request}
    {next : r.Answer → Program job.Result} {x : r.Answer}
    (ht : o.tasks[i]? = some ⟨job, .ask r next⟩)
    (hnext : P job (next x) (⟨r, x⟩ :: turnsOf i o.log)) :
    (o.advanced ⟨i, job, o.store, ⟨r, x⟩⟩ ⟨job, next x⟩).Tracks P := by
  obtain ⟨hi, -⟩ := List.getElem?_eq_some_iff.1 ht
  intro j t htj
  simp only [Office.advanced] at htj ⊢
  by_cases hij : i = j
  · subst hij
    rw [List.getElem?_set_self hi] at htj
    cases htj
    exact turnsOf_cons_self ⟨i, job, o.store, ⟨r, x⟩⟩ o.log ▸ hnext
  · rw [List.getElem?_set_ne hij] at htj
    rw [turnsOf_cons_ne hij]
    exact hP j t htj

end Tracks

theorem sound_empty : empty.Sound := by
  constructor
  case lawful => exact .nil
  case store => exact .refl _
  case conforms => simp [empty]
  case dispatched => simp [empty]
  case task_lt => simp [empty]

/-- Tasks may begin, those that route a payment when they were asked for. -/
theorem Sound.beginning (ho : o.Sound) (setup : Setup) {jobs : List Job}
    (hjobs : ∀ c, .route c ∈ jobs → ∃ d ∈ o.log, d.turn.request = .dispatch c) :
    (o.beginning setup jobs).Sound := by
  constructor
  case lawful => exact ho.lawful
  case store => exact ho.store
  case conforms =>
    have htracks : o.Tracks fun job p h => p.Conforms job.Allowed job.Done h :=
      fun _ _ ht => ho.conforms ht
    exact htracks.beginning (fun _ he => ho.task_lt he) (Job.conforms setup) jobs
  case dispatched =>
    intro t c ht hc
    rcases List.mem_append.1 ht with ht | ht
    · exact ho.dispatched ht hc
    · obtain ⟨job, hm, rfl⟩ := List.mem_map.1 ht
      cases hc
      exact hjobs c hm
  case task_lt =>
    intro e he
    have := ho.task_lt he
    simp only [Office.beginning, List.length_append]
    omega

theorem answer?_reply {outside : (r : Request) → r.Answer} {r : Request} {x : r.Answer}
    (hx : o.answer? outside r = some x) {c : Store.Call} {y : Except StoreError c.Reply}
    (ht : (⟨r, x⟩ : Turn) = .call c y) : y = (o.store.perform c).1 := by
  cases ht
  have hx : some (o.store.perform c).1 = some y := hx
  exact (Option.some.inj hx).symm

theorem answer?_fresh {outside : (r : Request) → r.Answer} {r : Request} {x : r.Answer}
    (hx : o.answer? outside r = some x) {n : Name} (hn : Turn.name? ⟨r, x⟩ = some n) :
    ∀ d ∈ o.log, d.turn.name? ≠ some n := by
  unfold answer? at hx
  dsimp only at hx
  split at hx
  · next n' hn' =>
    split at hx
    · cases hx
    · next hnone =>
      cases hx
      cases hn.symm.trans hn'
      simpa using hnone
  · next hn' =>
    cases hx
    cases hn.symm.trans hn'

theorem Sound.entry_lawful (ho : o.Sound) {outside : (r : Request) → r.Answer} {i : Nat} {job : Job}
    {r : Request} {next : r.Answer → Program job.Result}
    (ht : o.tasks[i]? = some ⟨job, .ask r next⟩) {x : r.Answer}
    (hx : o.answer? outside r = some x) : Entry.Lawful ⟨i, job, o.store, ⟨r, x⟩⟩ o.log := by
  constructor
  case before => exact ho.store
  case reply => exact answer?_reply hx
  case fresh => exact answer?_fresh hx
  case allowed => exact (ho.conforms ht).1
  case dispatched => exact ho.dispatched (List.mem_of_getElem? ht)

theorem Sound.coherent (ho : o.Sound) : o.store.Coherent := ho.store.coherent ho.lawful.coherent

/-- The answer fits the request, for the records of the store agree. -/
theorem Sound.fits (ho : o.Sound) {outside : (r : Request) → r.Answer} {r : Request} {x : r.Answer}
    (hx : o.answer? outside r = some x) : r.Fits x := by
  cases r with
  | store c => exact ⟨o.store, ho.coherent, (answer?_reply hx rfl).symm⟩
  | _ => trivial

theorem Sound.advanced (ho : o.Sound) {outside : (r : Request) → r.Answer} {i : Nat} {job : Job}
    {r : Request} {next : r.Answer → Program job.Result}
    (ht : o.tasks[i]? = some ⟨job, .ask r next⟩) {x : r.Answer}
    (hx : o.answer? outside r = some x) :
    (o.advanced ⟨i, job, o.store, ⟨r, x⟩⟩ ⟨job, next x⟩).Sound := by
  obtain ⟨hi, -⟩ := List.getElem?_eq_some_iff.1 ht
  constructor
  case lawful => exact .cons ho.lawful (ho.entry_lawful ht hx)
  case store => exact .refl _
  case conforms =>
    have htracks : o.Tracks fun job p h => p.Conforms job.Allowed job.Done h :=
      fun _ _ ht => ho.conforms ht
    exact htracks.advanced ht ((ho.conforms ht).2 x (ho.fits hx))
  case dispatched =>
    intro t c htm hc
    rcases List.mem_or_eq_of_mem_set htm with htm | rfl
    · obtain ⟨d, hd, hdc⟩ := ho.dispatched htm hc
      exact ⟨d, .tail _ hd, hdc⟩
    · obtain ⟨d, hd, hdc⟩ := ho.dispatched (List.mem_of_getElem? ht) hc
      exact ⟨d, .tail _ hd, hdc⟩
  case task_lt =>
    intro d hd
    simp only [Office.advanced, List.length_set]
    rcases List.mem_cons.1 hd with rfl | hd
    · exact hi
    · exact ho.task_lt hd

theorem Sound.turned (ho : o.Sound) {outside : (r : Request) → r.Answer} {i : Nat} {job : Job}
    {r : Request} {next : r.Answer → Program job.Result}
    (ht : o.tasks[i]? = some ⟨job, .ask r next⟩) {x : r.Answer}
    (hx : o.answer? outside r = some x) :
    ((o.advanced ⟨i, job, o.store, ⟨r, x⟩⟩ ⟨job, next x⟩).beginning setup (spawned r)).Sound := by
  refine (ho.advanced ht hx).beginning setup fun c hc => ?_
  cases r with
  | dispatch c' =>
    cases List.mem_singleton.1 hc
    exact ⟨_, List.mem_cons_self, rfl⟩
  | _ => cases hc

theorem Sound.step (ho : o.Sound) (m : Move) : (o.step setup m).Sound := by
  cases m with
  | begin job =>
    cases job with
    | route c => exact ho
    | _ => exact ho.beginning setup fun c hc => nomatch List.mem_singleton.1 hc
  | go i outside =>
    simp only [Office.step]
    split
    · next job r next ht =>
      split
      · next x hx => exact ho.turned ht hx
      · exact ho
    · exact ho
  | reorder order =>
    have hstore := ho.store.trans (o.store.sameRows_reordered order)
    exact ⟨ho.lawful, hstore, ho.conforms, ho.dispatched, ho.task_lt⟩

theorem sound_run (setup : Setup) (moves : List Move) : (run setup moves).Sound := by
  suffices H : ∀ o : Office, o.Sound → (moves.foldl (Office.step setup) o).Sound from
    H empty sound_empty
  induction moves with
  | nil => exact fun o ho => ho
  | cons m moves ih => exact fun o ho => ih _ (ho.step m)

/-- What is true of every job at its start, and stays so in every turn that a store with records
that agree replies to, is true of every task. -/
theorem tracks_run {P : (job : Job) → Program job.Result → List Turn → Prop}
    (hstart : ∀ job, P job (job.program setup) [])
    (hturn : ∀ {job : Job} {r : Request} {next : r.Answer → Program job.Result} {h : List Turn}
      {x : r.Answer}, P job (.ask r next) h → r.Fits x → P job (next x) (⟨r, x⟩ :: h))
    (moves : List Move) : (run setup moves).Tracks P := by
  have hbegin : ∀ o : Office, o.Sound → o.Tracks P → ∀ jobs, (o.beginning setup jobs).Tracks P :=
    fun o ho hP jobs => hP.beginning (fun _ he => ho.task_lt he) hstart jobs
  suffices H : ∀ o : Office, o.Sound → o.Tracks P →
      (moves.foldl (Office.step setup) o).Tracks P from
    H empty sound_empty (by simp [Tracks, empty])
  induction moves with
  | nil => exact fun o _ hP => hP
  | cons m moves ih =>
    refine fun o ho hP => ih _ (ho.step m) ?_
    cases m with
    | begin job =>
      cases job with
      | route c => exact hP
      | _ => exact hbegin o ho hP _
    | go i outside =>
      simp only [Office.step]
      split
      · next job r next ht =>
        split
        · next x hx =>
          exact hbegin _ (ho.advanced ht hx) (hP.advanced ht (hturn (hP i _ ht) (ho.fits hx))) _
        · exact hP
      · exact hP
    | reorder => exact hP

end Office

end BoxOffice
