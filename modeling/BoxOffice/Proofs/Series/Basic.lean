import BoxOffice.Proofs.Office.Lawful
import BoxOffice.Proofs.Program.Alone

/-! Service calls one after another, over one store. Each runs alone until it ends, and what anybody
but the store answers it is open; so is the order of the rows that it finds. Their log is lawful
like that of calls at the same time, as long as names that are made up are new. -/

namespace BoxOffice

/-- The store after some turns, latest first. -/
def Store.afterTurns (s : Store) : List Turn → Store
  | [] => s
  | t :: h => t.request.after (s.afterTurns h)

/-- The turns of a task that starts from a store, as they are logged. -/
def entries (i : Nat) (job : Job) (s : Store) : List Turn → List Entry
  | [] => []
  | t :: h => ⟨i, job, s.afterTurns h, t⟩ :: entries i job s h

/-- The run of a job that finds a store. -/
def Job.served (setup : Setup) (w : Surroundings) (s : Store) (job : Job) : Ran job.Result :=
  (job.program setup).alone w s []

/-- The log after a job has run. -/
def Job.logged (setup : Setup) (w : Surroundings) (s : Store) (log : List Entry) (job : Job) :
    List Entry :=
  entries log.length job s (job.served setup w s).turns ++ log

/-- The log after jobs that run one after another and get the same answers. -/
def loggedAll (setup : Setup) (w : Surroundings) (log : List Entry) (jobs : List Job) :
    List Entry :=
  jobs.foldl (fun log job => job.logged setup w (storeAfter log) log) log

/-- From a log on, jobs run one after another. A payment is routed only when that was begun. -/
inductive Series (setup : Setup) (start : List Entry) : List Entry → Prop
  | nil : Series setup start start
  | serve {log : List Entry} (h : Series setup start log) (w : Surroundings) {s : Store}
      (found : (storeAfter log).SameRows s) (job : Job)
      (begun : ∀ c, job = .route c → ∃ d ∈ log, d.turn.request = .dispatch c) :
      Series setup start (job.logged setup w s log)

def namesOf (log : List Entry) : List Name := log.filterMap (·.turn.name?)

theorem not_mem_namesOf {e : Entry} {log : List Entry} (h : (namesOf (e :: log)).Nodup) {n : Name}
    (hn : e.turn.name? = some n) : ∀ d ∈ log, d.turn.name? ≠ some n := by
  intro d hd hdn
  simp only [namesOf, List.filterMap_cons, hn] at h
  exact (List.nodup_cons.1 h).1 (List.mem_filterMap.2 ⟨d, hd, hdn⟩)

theorem nodup_namesOf_suffix {later log : List Entry} (h : (namesOf (later ++ log)).Nodup) :
    (namesOf log).Nodup := by
  rw [namesOf, List.filterMap_append] at h
  exact h.sublist (List.sublist_append_right ..)

/-! ### Entries -/

section Entries

variable {i : Nat} {job : Job} {s : Store} {log : List Entry}

theorem entries_append (i : Nat) (job : Job) (s : Store) (new h : List Turn) :
    ∃ later, entries i job s (new ++ h) = later ++ entries i job s h := by
  induction new with
  | nil => exact ⟨[], rfl⟩
  | cons t new ih =>
    obtain ⟨later, hlater⟩ := ih
    exact ⟨_ :: later, by rw [List.cons_append, entries, hlater]; rfl⟩

theorem task_of_mem_entries {h : List Turn} {e : Entry} (he : e ∈ entries i job s h) :
    e.task = i := by
  induction h with
  | nil => cases he
  | cons t h ih =>
    rcases List.mem_cons.1 he with rfl | he
    · rfl
    · exact ih he

theorem job_of_mem_entries {h : List Turn} {e : Entry} (he : e ∈ entries i job s h) :
    e.job = job := by
  induction h with
  | nil => cases he
  | cons t h ih =>
    rcases List.mem_cons.1 he with rfl | he
    · rfl
    · exact ih he

theorem map_turn_entries (i : Nat) (job : Job) (s : Store) (h : List Turn) :
    (entries i job s h).map (·.turn) = h := by
  induction h with
  | nil => rfl
  | cons t h ih => rw [entries, List.map_cons, ih]

theorem turnsOf_entries (hlog : ∀ e ∈ log, e.task ≠ i) (h : List Turn) :
    turnsOf i (entries i job s h ++ log) = h := by
  induction h with
  | nil => exact turnsOf_eq_nil hlog
  | cons t h ih =>
    exact (turnsOf_cons_self ⟨i, job, s.afterTurns h, t⟩ _).trans (congrArg (t :: ·) ih)

theorem sameRows_entries (hs : (storeAfter log).SameRows s) (h : List Turn) :
    (storeAfter (entries i job s h ++ log)).SameRows (s.afterTurns h) := by
  cases h with
  | nil => exact hs
  | cons t h =>
    obtain ⟨r, x⟩ := t
    cases r <;> exact .refl _

end Entries

/-! ### Runs -/

namespace Program

variable {α : Type}

/-- The turns tell what became of the store. -/
theorem alone_afterTurns (w : Surroundings) (p : Program α) (s : Store) (h : List Turn) :
    (p.alone w (s.afterTurns h) h).store = s.afterTurns (p.alone w (s.afterTurns h) h).turns := by
  induction p generalizing h with
  | pure a => rfl
  | ask r next ih => exact ih _ (⟨r, r.answer w (s.afterTurns h) h⟩ :: h)
  | abort => rfl

end Program

section Served

variable {job : Job} {log : List Entry} {s : Store} {i : Nat} (hi : ∀ e ∈ log, e.task ≠ i)
  (hs : (storeAfter log).SameRows s)
  (hbegun : ∀ c, job = .route c → ∃ d ∈ log, d.turn.request = .dispatch c)

include hi hs hbegun

/-- The entry of the next turn follows, if a name that is made up in it is new. -/
theorem entry_lawful {h : List Turn} {r : Request} (hallowed : job.Allowed h r) (w : Surroundings)
    (hnames : (namesOf (entries i job s (⟨r, r.answer w (s.afterTurns h) h⟩ :: h) ++ log)).Nodup) :
    Entry.Lawful ⟨i, job, s.afterTurns h, ⟨r, r.answer w (s.afterTurns h) h⟩⟩
      (entries i job s h ++ log) := by
  constructor
  case before => exact sameRows_entries hs h
  case reply =>
    intro c x ht
    cases ht
    rfl
  case fresh => exact fun hn => not_mem_namesOf hnames hn
  case allowed =>
    show job.Allowed (turnsOf i (entries i job s h ++ log)) r
    rw [turnsOf_entries hi]
    exact hallowed
  case dispatched =>
    intro c hc
    obtain ⟨d, hd, hdc⟩ := hbegun c hc
    exact ⟨d, List.mem_append_right _ hd, hdc⟩

/-- A program that asks for what its job may ask for adds lawful entries when it runs alone. -/
theorem Program.Conforms.lawful {α : Type} {done : List Turn → α → Prop} {p : Program α}
    {h : List Turn} (hp : p.Conforms job.Allowed done h) (w : Surroundings)
    (hlog : Lawful (entries i job s h ++ log))
    (hnames : (namesOf (entries i job s (p.alone w (s.afterTurns h) h).turns ++ log)).Nodup) :
    Lawful (entries i job s (p.alone w (s.afterTurns h) h).turns ++ log) := by
  induction p generalizing h with
  | pure a => exact hlog
  | abort => exact hlog
  | ask r next ih =>
    have hcoherent := (sameRows_entries hs h).coherent hlog.coherent
    refine ih _ (hp.2 _ (r.answer_fits hcoherent)) (.cons hlog ?_) hnames
    refine entry_lawful hi hs hbegun hp.1 w ?_
    obtain ⟨new, hnew⟩ := Program.alone_turns w (next (r.answer w (s.afterTurns h) h))
      (r.after (s.afterTurns h)) (⟨r, r.answer w (s.afterTurns h) h⟩ :: h)
    rw [alone, hnew] at hnames
    obtain ⟨later, hlater⟩ := entries_append i job s new (⟨r, r.answer w (s.afterTurns h) h⟩ :: h)
    rw [hlater, List.append_assoc] at hnames
    exact nodup_namesOf_suffix hnames

end Served

/-! ### Series -/

namespace Series

variable {setup : Setup} {start log log' : List Entry}

theorem trans (h : Series setup start log) (h' : Series setup log log') :
    Series setup start log' := by
  induction h' with
  | nil => exact h
  | serve _ w hs job hbegun ih => exact ih.serve w hs job hbegun

/-- Jobs that begin no routing may always be served. -/
theorem serveAll (h : Series setup start log) (w : Surroundings) {jobs : List Job}
    (hjobs : ∀ c, .route c ∉ jobs) :
    Series setup start (loggedAll setup w log jobs) := by
  induction jobs generalizing log with
  | nil => exact h
  | cons job jobs ih =>
    refine ih (h.serve w (.refl _) job ?_) fun c hc => hjobs c (.tail _ hc)
    rintro c rfl
    exact absurd List.mem_cons_self (hjobs c)

theorem append (h : Series setup start log) : ∃ new, log = new ++ start := by
  induction h with
  | nil => exact ⟨[], rfl⟩
  | serve _ w _ job _ ih =>
    obtain ⟨new, rfl⟩ := ih
    exact ⟨_ ++ new, (List.append_assoc ..).symm⟩

theorem task_lt (h : Series setup [] log) {e : Entry} (he : e ∈ log) : e.task < log.length := by
  induction h with
  | nil => cases he
  | @serve log h w _ _ job _ ih =>
    rw [Job.logged, List.length_append]
    rcases List.mem_append.1 he with he | he
    · have := List.length_pos_of_mem he
      rw [task_of_mem_entries he]
      omega
    · have := ih he
      omega

/-- The log of a series is lawful if names that are made up are new. -/
theorem lawful (h : Series setup [] log) (hnames : (namesOf log).Nodup) : Lawful log := by
  induction h with
  | nil => exact .nil
  | @serve log h w s hs job hbegun ih =>
    have hlog := ih (nodup_namesOf_suffix hnames)
    have hi : ∀ e ∈ log, e.task ≠ log.length := fun e he => Nat.ne_of_lt (h.task_lt he)
    exact Program.Conforms.lawful hi hs hbegun (Job.conforms setup job) w hlog hnames

end Series

theorem Job.sameRows_logged {s : Store} {log : List Entry} (hs : (storeAfter log).SameRows s)
    (setup : Setup) (w : Surroundings) (job : Job) :
    (storeAfter (job.logged setup w s log)).SameRows (job.served setup w s).store := by
  have hturns := Program.alone_afterTurns w (job.program setup) s []
  have hstore : (job.served setup w s).store = s.afterTurns (job.served setup w s).turns := hturns
  rw [hstore]
  exact sameRows_entries hs _

end BoxOffice
