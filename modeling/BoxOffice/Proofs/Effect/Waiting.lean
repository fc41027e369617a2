import BoxOffice.Effect.Execution

/-! Waiting for an effect. What an execution under way is to give, and how many waits are to end
before that, is settled from the start: whichever of the waits in flight ends next, there is one
less of them and what is to be given stays the same. So the order in which waits end does not show
in the result. Parts of a parallel effect go on each by itself, and may end in any order. -/

namespace BoxOffice

namespace Execution

open Effect

variable {φ α : Type} {out : φ → Option α} {x : Execution φ α} {p q : List α} {n : Nat}

mutual

/-- The execution is to give the actions, after so many waits. What has ended is not under way. -/
inductive Owes (out : φ → Option α) : Execution φ α → List α → Nat → Prop
  | finished (p : List α) : Owes out (.finished p) p 0
  | timer (d : Time.Duration) (a : α) : Owes out (.timer d a) [a] 1
  | task (t : φ) : Owes out (.task t) (out t).toList 1
  | joined {parts : List (Execution φ α)} {p : List α} {n : Nat} (waits : 0 < n)
      (parts_owe : OwesAll out parts p n) : Owes out (.joined parts) p n
  | chained {x : Execution φ α} {q : List α} {n : Nat} (p : List α) (rest : List (Effect φ α))
      (waits : 0 < n) (current_owes : Owes out x q n) :
      Owes out (.chained p x rest) (p ++ q ++ leavesOfList out rest) (n + waitsOfList rest)

/-- Parts that go on beside each other owe what each of them does, in their order. -/
inductive OwesAll (out : φ → Option α) : List (Execution φ α) → List α → Nat → Prop
  | nil : OwesAll out [] [] 0
  | cons {x : Execution φ α} {xs : List (Execution φ α)} {p q : List α} {n m : Nat}
      (head : Owes out x p n) (tail : OwesAll out xs q m) :
      OwesAll out (x :: xs) (p ++ q) (n + m)

end

/-- An execution is finished just when it waits for nothing more. -/
theorem Owes.result?_eq (h : Owes out x p n) : x.result? = if n = 0 then some p else none := by
  cases h with
  | finished p => rfl
  | timer d a => rfl
  | task t => rfl
  | joined hn hparts => exact (if_neg (Nat.ne_of_gt hn)).symm
  | chained p rest hn hx => exact (if_neg (Nat.ne_of_gt (Nat.add_pos_left hn _))).symm

theorem Owes.eq_finished (h : Owes out x p 0) : x = .finished p := by
  have hresult := h.result?_eq
  cases x <;> simp_all [result?]

/-! ### Beginning -/

theorem OwesAll.collect?_eq {parts : List (Execution φ α)} (h : OwesAll out parts p n) :
    collect? parts = if n = 0 then some p else none := by
  induction parts generalizing p n with
  | nil =>
    cases h
    rfl
  | cons x xs ih =>
    cases h with
    | cons hx hxs =>
      have hrest := ih hxs
      cases hx with
      | @finished p => split at hrest <;> simp_all [collect?]
      | timer d a => simp [collect?]
      | task t => simp [collect?]
      | joined hn hparts => simp [collect?, Nat.ne_of_gt hn]
      | chained p rest hn hx => simp [collect?, Nat.ne_of_gt hn]

theorem OwesAll.join {parts : List (Execution φ α)} (h : OwesAll out parts p n) :
    Owes out (join parts) p n := by
  rw [Execution.join, h.collect?_eq]
  by_cases hn : n = 0
  · subst hn
    exact .finished p
  · rw [if_neg hn]
    exact .joined (Nat.pos_of_ne_zero hn) h

/-- What comes after the current part of a chain, given how it is with that part. -/
def follow (p : List α) (rest : List (Effect φ α)) : Execution φ α → Execution φ α
  | .finished q => startChain (p ++ q) rest
  | x => .chained p x rest

theorem startChain_cons (p : List α) (e : Effect φ α) (rest : List (Effect φ α)) :
    startChain p (e :: rest) = follow p rest (start e) := rfl

theorem complete_chained (i : Nat) (p : List α) (x : Execution φ α) (rest : List (Effect φ α)) :
    complete out i (.chained p x rest) = follow p rest (complete out i x) := rfl

/-- The part after a part that has ended is begun at once. -/
theorem Owes.follow (h : Owes out x q n) (p : List α) {rest : List (Effect φ α)}
    (hrest : ∀ p, Owes out (startChain p rest) (p ++ leavesOfList out rest) (waitsOfList rest)) :
    Owes out (follow p rest x) (p ++ q ++ leavesOfList out rest) (n + waitsOfList rest) := by
  cases h with
  | finished q =>
    rw [Nat.zero_add]
    exact hrest (p ++ q)
  | timer d a => exact .chained p rest Nat.one_pos (.timer d a)
  | task t => exact .chained p rest Nat.one_pos (.task t)
  | joined hn hparts => exact .chained p rest hn (.joined hn hparts)
  | chained q later hn hx => exact .chained p rest (Nat.add_pos_left hn _) (.chained q later hn hx)

mutual

/-- An effect that begins is to give the actions of its leaves. -/
theorem start_owes (out : φ → Option α) :
    (e : Effect φ α) → Owes out (start e) (e.leaves out) e.waits
  | .idle => .finished []
  | .parallel es => (startAll_owes out es).join
  | .sequential es => startChain_owes out es []
  | .delay d a => .timer d a
  | .future t => .task t
termination_by structural e => e

theorem startAll_owes (out : φ → Option α) :
    (es : List (Effect φ α)) → OwesAll out (startAll es) (leavesOfList out es) (waitsOfList es)
  | [] => .nil
  | e :: rest => .cons (start_owes out e) (startAll_owes out rest)
termination_by structural es => es

theorem startChain_owes (out : φ → Option α) : (es : List (Effect φ α)) → (p : List α) →
    Owes out (startChain p es) (p ++ leavesOfList out es) (waitsOfList es)
  | [], p => by
    rw [leavesOfList, List.append_nil]
    exact .finished p
  | e :: rest, p => by
    rw [leavesOfList, ← List.append_assoc, startChain_cons]
    exact (start_owes out e).follow p (startChain_owes out rest)
termination_by structural es => es

end

/-! ### Going on -/

mutual

/-- Something is in flight as long as there is anything to wait for. -/
theorem inFlight_pos : (x : Execution φ α) → {p : List α} → {n : Nat} → Owes out x p n → 0 < n →
    0 < x.inFlight
  | .finished _, _, _, .finished _, hn => hn
  | .timer _ _, _, _, _, _ => Nat.one_pos
  | .task _, _, _, _, _ => Nat.one_pos
  | .joined parts, _, _, .joined hn hparts, _ => inFlightOfList_pos parts hparts hn
  | .chained _ x _, _, _, .chained _ _ hn hx, _ => inFlight_pos x hx hn
termination_by structural x => x

theorem inFlightOfList_pos : (xs : List (Execution φ α)) → {p : List α} → {n : Nat} →
    OwesAll out xs p n → 0 < n → 0 < inFlightOfList xs
  | [], _, _, .nil, hn => hn
  | x :: xs, _, _, .cons (n := n) (m := m) hx hxs, hn => by
    rw [inFlightOfList]
    rcases Nat.add_pos_iff_pos_or_pos.1 hn with hn | hm
    · exact Nat.add_pos_left (inFlight_pos x hx hn) _
    · exact Nat.add_pos_right _ (inFlightOfList_pos xs hxs hm)
termination_by structural xs => xs

end

mutual

/-- The end of a wait in flight is one wait less, and nothing else. -/
theorem complete_owes (i : Nat) : (x : Execution φ α) → {p : List α} → {n : Nat} →
    Owes out x p n → i < x.inFlight → ∃ m, n = m + 1 ∧ Owes out (complete out i x) p m
  | .finished _, _, _, _, hi => absurd hi (Nat.not_lt_zero i)
  | .timer d a, _, _, .timer _ _, hi => by
    rw [complete, if_pos (Nat.lt_one_iff.1 hi)]
    exact ⟨0, rfl, .finished [a]⟩
  | .task t, _, _, .task _, hi => by
    rw [complete, if_pos (Nat.lt_one_iff.1 hi)]
    exact ⟨0, rfl, .finished _⟩
  | .joined parts, _, _, .joined _ hparts, hi => by
    obtain ⟨m, hm, hnext⟩ := completeIn_owes i parts hparts hi
    exact ⟨m, hm, hnext.join⟩
  | .chained p x rest, _, _, .chained _ _ _ hx, hi => by
    obtain ⟨m, rfl, hnext⟩ := complete_owes i x hx hi
    rw [complete_chained]
    exact ⟨m + waitsOfList rest, Nat.add_right_comm .., hnext.follow p (startChain_owes out rest)⟩
termination_by structural x => x

theorem completeIn_owes (i : Nat) : (xs : List (Execution φ α)) → {p : List α} → {n : Nat} →
    OwesAll out xs p n → i < inFlightOfList xs →
      ∃ m, n = m + 1 ∧ OwesAll out (completeIn out i xs) p m
  | [], _, _, _, hi => absurd hi (Nat.not_lt_zero i)
  | x :: xs, _, _, .cons (n := n) (m := k) hx hxs, hi => by
    rw [inFlightOfList] at hi
    rw [completeIn]
    split
    · next hhere =>
      obtain ⟨m, rfl, hnext⟩ := complete_owes i x hx hhere
      exact ⟨m + k, Nat.add_right_comm .., .cons hnext hxs⟩
    · next hlater =>
      obtain ⟨m, rfl, hnext⟩ := completeIn_owes (i - x.inFlight) xs hxs (by omega)
      exact ⟨n + m, rfl, .cons hx hnext⟩
termination_by structural xs => xs

end

/-! ### Orders in which the waits end -/

/-- The waits may end in this order: each place is that of a wait that is then in flight. -/
def Admits (out : φ → Option α) : Execution φ α → List Nat → Prop
  | _, [] => True
  | x, i :: order => i < x.inFlight ∧ Admits out (x.complete out i) order

instance decidableAdmits (out : φ → Option α) :
    (order : List Nat) → (x : Execution φ α) → Decidable (x.Admits out order)
  | [], _ => .isTrue trivial
  | i :: order, x =>
    have := decidableAdmits out order (x.complete out i)
    inferInstanceAs (Decidable (i < x.inFlight ∧ Admits out (x.complete out i) order))

theorem run_cons (i : Nat) (order : List Nat) (x : Execution φ α) :
    x.run out (i :: order) = (x.complete out i).run out order := rfl

namespace Owes

theorem run {order : List Nat} (h : Owes out x p n) (hadmits : x.Admits out order) :
    ∃ m, n = order.length + m ∧ Owes out (x.run out order) p m := by
  induction order generalizing x n with
  | nil => exact ⟨n, (Nat.zero_add n).symm, h⟩
  | cons i order ih =>
    obtain ⟨hi, hadmits⟩ := hadmits
    obtain ⟨k, rfl, hnext⟩ := complete_owes i x h hi
    obtain ⟨m, rfl, hlast⟩ := ih hnext hadmits
    exact ⟨m, Nat.add_right_comm .., hlast⟩

/-- The first wait in flight may always be the one to end. -/
theorem admits_replicate (h : Owes out x p n) : x.Admits out (List.replicate n 0) := by
  induction n generalizing x with
  | zero => trivial
  | succ n ih =>
    have hpos := inFlight_pos x h n.succ_pos
    obtain ⟨_, ⟨⟩, hnext⟩ := complete_owes 0 x h hpos
    exact ⟨hpos, ih hnext⟩

theorem run_replicate (h : Owes out x p n) : x.run out (List.replicate n 0) = .finished p := by
  obtain ⟨m, hm, hlast⟩ := h.run h.admits_replicate
  rw [List.length_replicate] at hm
  obtain rfl : m = 0 := Nat.add_eq_left.1 hm.symm
  exact hlast.eq_finished

end Owes

/-! ### Parts that go on beside each other -/

section Beside

variable (before after : List (Execution φ α))

theorem inFlightOfList_append (xs ys : List (Execution φ α)) :
    inFlightOfList (xs ++ ys) = inFlightOfList xs + inFlightOfList ys := by
  induction xs with
  | nil => exact (Nat.zero_add _).symm
  | cons x xs ih => rw [List.cons_append, inFlightOfList, inFlightOfList, ih, Nat.add_assoc]

/-- Parts that are all finished have nothing in flight. -/
theorem inFlightOfList_eq_zero {parts : List (Execution φ α)} (h : (collect? parts).isSome) :
    inFlightOfList parts = 0 := by
  induction parts with
  | nil => rfl
  | cons x xs ih =>
    cases x with
    | finished p =>
      rw [collect?, Option.isSome_map] at h
      rw [inFlightOfList, inFlight, ih h]
    | _ => cases h

theorem join_eq_joined {parts : List (Execution φ α)} (h : 0 < inFlightOfList parts) :
    join parts = .joined parts := by
  have hnone : collect? parts = none := by
    rw [← Option.not_isSome_iff_eq_none]
    exact fun hsome => Nat.ne_of_gt h (inFlightOfList_eq_zero hsome)
  rw [join, hnone]

theorem completeIn_append {i : Nat} (hi : i < x.inFlight) :
    completeIn out (inFlightOfList before + i) (before ++ x :: after) =
      before ++ x.complete out i :: after := by
  induction before with
  | nil =>
    rw [inFlightOfList, Nat.zero_add, List.nil_append, List.nil_append, completeIn, if_pos hi]
  | cons y before ih =>
    have hbehind : ¬ y.inFlight + inFlightOfList before + i < y.inFlight := by omega
    rw [List.cons_append, completeIn, inFlightOfList, if_neg hbehind, Nat.add_assoc,
      Nat.add_sub_cancel_left, ih, List.cons_append]

/-- A part goes on as it would alone, whatever has come of the others. -/
theorem run_beside {order : List Nat} (h : x.Admits out order) :
    (join (before ++ x :: after)).Admits out (order.map (inFlightOfList before + ·)) ∧
      (join (before ++ x :: after)).run out (order.map (inFlightOfList before + ·)) =
        join (before ++ x.run out order :: after) := by
  induction order generalizing x with
  | nil => exact ⟨trivial, rfl⟩
  | cons i order ih =>
    obtain ⟨hi, hadmits⟩ := h
    have hplace : inFlightOfList before + i < inFlightOfList (before ++ x :: after) := by
      rw [inFlightOfList_append, inFlightOfList]
      omega
    have hjoined := join_eq_joined (Nat.lt_of_le_of_lt (Nat.zero_le _) hplace)
    have hnext : (join (before ++ x :: after)).complete out (inFlightOfList before + i) =
        join (before ++ x.complete out i :: after) := by
      rw [hjoined, complete, completeIn_append before after hi]
    obtain ⟨hrest, hlast⟩ := ih hadmits
    rw [List.map_cons, run_cons, run_cons, hnext]
    refine ⟨⟨?_, ?_⟩, hlast⟩
    · rw [hjoined]
      exact hplace
    · rw [hnext]
      exact hrest

theorem Owes.ends_beside (h : Owes out x p n) : ∃ order,
    (join (before ++ x :: after)).Admits out order ∧
      (join (before ++ x :: after)).run out order = join (before ++ .finished p :: after) := by
  obtain ⟨hadmits, hlast⟩ := run_beside before after h.admits_replicate
  rw [h.run_replicate] at hlast
  exact ⟨_, hadmits, hlast⟩

end Beside

theorem startAll_eq_map (es : List (Effect φ α)) : startAll es = es.map start := by
  induction es with
  | nil => rfl
  | cons e es ih => rw [startAll, ih, List.map_cons]

/-- A parallel effect of which the parts that are marked have ended. The others have only begun. -/
def partway (out : φ → Option α) (parts : List (Effect φ α × Bool)) : Execution φ α :=
  join (parts.map fun (e, ended) => if ended then .finished (e.leaves out) else start e)

/-- All parts of a parallel effect are begun, and whichever of them have ended, any other may be the
next to end. -/
structure PartsEndFreely (out : φ → Option α) : Prop where
  begun (es : List (Effect φ α)) : start (.parallel es) = partway out (es.map fun e => (e, false))
  next (before after : List (Effect φ α × Bool)) (e : Effect φ α) : ∃ order,
    (partway out (before ++ (e, false) :: after)).Admits out order ∧
      (partway out (before ++ (e, false) :: after)).run out order =
        partway out (before ++ (e, true) :: after)

theorem partsEndFreely (out : φ → Option α) : PartsEndFreely out where
  begun es := by
    rw [start, startAll_eq_map, partway, List.map_map]
    rfl
  next before after e := by
    simp only [partway, List.map_append, List.map_cons]
    exact (start_owes out e).ends_beside _ _

end Execution

namespace Effect

open Execution

variable {φ α : Type}

/-- The effect comes to an end and gives the actions, in whatever order its waits end. -/
structure Produces (out : φ → Option α) (e : Effect φ α) (produced : List α) : Prop where
  /-- No wait ends twice. -/
  bounded {order : List Nat} : (start e).Admits out order → order.length ≤ e.waits
  /-- Before all of them have ended there is one in flight, and nothing is given yet. -/
  goesOn {order : List Nat} : (start e).Admits out order → order.length < e.waits →
    0 < ((start e).run out order).inFlight ∧ ((start e).run out order).result? = none
  ends {order : List Nat} : (start e).Admits out order → order.length = e.waits →
    ((start e).run out order).result? = some produced
  execute : e.execute out = produced

theorem produces_leaves (out : φ → Option α) (e : Effect φ α) :
    Produces out e (e.leaves out) where
  bounded hadmits := by
    obtain ⟨m, hm, -⟩ := (start_owes out e).run hadmits
    omega
  goesOn hadmits hless := by
    obtain ⟨m, hm, howes⟩ := (start_owes out e).run hadmits
    have hpos : 0 < m := by omega
    exact ⟨inFlight_pos _ howes hpos, by rw [howes.result?_eq, if_neg (Nat.ne_of_gt hpos)]⟩
  ends hadmits hall := by
    obtain ⟨m, hm, howes⟩ := (start_owes out e).run hadmits
    rw [howes.result?_eq, if_pos (by omega)]
  execute := by rw [Effect.execute, (start_owes out e).run_replicate, result?, Option.getD_some]

end Effect

end BoxOffice
