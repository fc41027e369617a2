import BoxOffice.Proofs.Effect.Waiting
import Mathlib.Logic.Relation

/-! Effects flattened. What is produced are the actions of the leaves in the order of their places,
each once. So the groups that the leaves stand in do not matter, nor do parts that give nothing. -/

namespace BoxOffice.Effect

variable {φ α : Type} {out : φ → Option α}

/-! ### Places -/

/-- The parts of an effect, if it is a group. -/
def parts : Effect φ α → List (Effect φ α)
  | .parallel es => es
  | .sequential es => es
  | _ => []

/-- The leaf at the place gives the action. A place says which part to go to, from the root on. -/
inductive GivesAt (out : φ → Option α) : Effect φ α → List Nat → α → Prop
  | delay (d : Time.Duration) (a : α) : GivesAt out (.delay d a) [] a
  | future {t : φ} {a : α} (gives : out t = some a) : GivesAt out (.future t) [] a
  | part {e part : Effect φ α} {i : Nat} {place : List Nat} {a : α}
      (here : e.parts[i]? = some part) (gives : GivesAt out part place a) :
      GivesAt out e (i :: place) a

mutual

/-- The actions with the places that they are given at. -/
def rows (out : φ → Option α) : Effect φ α → List (List Nat × α)
  | .idle => []
  | .parallel es => rowsFrom out 0 es
  | .sequential es => rowsFrom out 0 es
  | .delay _ a => [([], a)]
  | .future t => (out t).toList.map fun a => ([], a)
termination_by structural e => e

/-- The rows of parts that are counted from `i` on. -/
def rowsFrom (out : φ → Option α) (i : Nat) : List (Effect φ α) → List (List Nat × α)
  | [] => []
  | e :: rest => (e.rows out).map (fun r => (i :: r.1, r.2)) ++ rowsFrom out (i + 1) rest
termination_by structural es => es

end

mutual

theorem map_snd_rows (out : φ → Option α) :
    (e : Effect φ α) → (e.rows out).map Prod.snd = e.leaves out
  | .idle => rfl
  | .parallel es => map_snd_rowsFrom out 0 es
  | .sequential es => map_snd_rowsFrom out 0 es
  | .delay _ _ => rfl
  | .future t => by
    rw [rows, leaves, List.map_map]
    exact List.map_id _
termination_by structural e => e

theorem map_snd_rowsFrom (out : φ → Option α) (i : Nat) :
    (es : List (Effect φ α)) → (rowsFrom out i es).map Prod.snd = leavesOfList out es
  | [] => rfl
  | e :: rest => by
    have hhead : ((e.rows out).map fun r => (i :: r.1, r.2)).map Prod.snd = e.leaves out := by
      rw [List.map_map]
      exact map_snd_rows out e
    rw [rowsFrom, leavesOfList, List.map_append, hhead, map_snd_rowsFrom out (i + 1) rest]
termination_by structural es => es

end

theorem mem_rowsFrom {i : Nat} {es : List (Effect φ α)} {place : List Nat} {a : α} :
    (place, a) ∈ rowsFrom out i es ↔
      ∃ k e rest, es[k]? = some e ∧ place = (i + k) :: rest ∧ (rest, a) ∈ e.rows out := by
  induction es generalizing i with
  | nil => simp [rowsFrom]
  | cons e es ih =>
    rw [rowsFrom, List.mem_append, ih]
    constructor
    · rintro (hhead | ⟨k, e', rest, hk, rfl, hrow⟩)
      · obtain ⟨⟨rest, a⟩, hrow, ⟨⟩⟩ := List.mem_map.1 hhead
        exact ⟨0, e, rest, rfl, rfl, hrow⟩
      · exact ⟨k + 1, e', rest, hk, by rw [Nat.add_right_comm, Nat.add_assoc], hrow⟩
    · rintro ⟨k, e', rest, hk, rfl, hrow⟩
      cases k with
      | zero =>
        cases hk
        exact .inl (List.mem_map.2 ⟨_, hrow, rfl⟩)
      | succ k => exact .inr ⟨k, e', rest, hk, by rw [Nat.add_right_comm, Nat.add_assoc], hrow⟩

mutual

/-- Rows stand in the order of their places, so there is one for each. -/
theorem pairwise_rows (out : φ → Option α) :
    (e : Effect φ α) → (e.rows out).Pairwise fun r r' => r.1 < r'.1
  | .idle => .nil
  | .parallel es => pairwise_rowsFrom out 0 es
  | .sequential es => pairwise_rowsFrom out 0 es
  | .delay _ _ => List.pairwise_singleton _ _
  | .future t => by
    rw [rows]
    cases out t with
    | none => exact .nil
    | some a => exact List.pairwise_singleton _ _
termination_by structural e => e

theorem pairwise_rowsFrom (out : φ → Option α) (i : Nat) :
    (es : List (Effect φ α)) → (rowsFrom out i es).Pairwise fun r r' => r.1 < r'.1
  | [] => .nil
  | e :: rest => by
    rw [rowsFrom, List.pairwise_append]
    refine ⟨?_, pairwise_rowsFrom out (i + 1) rest, ?_⟩
    · rw [List.pairwise_map]
      exact (pairwise_rows out e).imp fun h => List.cons_lt_cons_iff.2 (.inr ⟨rfl, h⟩)
    · rintro r hr ⟨place, a⟩ hr'
      obtain ⟨r, -, rfl⟩ := List.mem_map.1 hr
      obtain ⟨k, _, _, _, rfl, -⟩ := mem_rowsFrom.1 hr'
      exact List.cons_lt_cons_iff.2 (.inl (by omega))
termination_by structural es => es

end

theorem mem_rows_nil {e : Effect φ α} {a : α} : ([], a) ∈ e.rows out ↔ GivesAt out e [] a := by
  constructor
  · intro h
    cases e with
    | idle => cases h
    | parallel es => obtain ⟨_, _, _, _, ⟨⟩, _⟩ := mem_rowsFrom.1 h
    | sequential es => obtain ⟨_, _, _, _, ⟨⟩, _⟩ := mem_rowsFrom.1 h
    | delay d b =>
      cases List.mem_singleton.1 h
      exact .delay d a
    | future t =>
      obtain ⟨b, hb, ⟨⟩⟩ := List.mem_map.1 h
      exact .future (Option.mem_toList.1 hb)
  · intro h
    cases h with
    | delay d => exact List.mem_singleton.2 rfl
    | future hgives => exact List.mem_map.2 ⟨_, Option.mem_toList.2 hgives, rfl⟩

theorem mem_rows_cons {e : Effect φ α} {i : Nat} {place : List Nat} {a : α} :
    (i :: place, a) ∈ e.rows out ↔
      ∃ part, e.parts[i]? = some part ∧ (place, a) ∈ part.rows out := by
  have hgroup : ∀ es : List (Effect φ α), (i :: place, a) ∈ rowsFrom out 0 es ↔
      ∃ part, es[i]? = some part ∧ (place, a) ∈ part.rows out := by
    intro es
    simp only [mem_rowsFrom, Nat.zero_add]
    constructor
    · rintro ⟨_, part, _, hi, ⟨⟩, hrow⟩
      exact ⟨part, hi, hrow⟩
    · rintro ⟨part, hi, hrow⟩
      exact ⟨i, part, place, hi, rfl, hrow⟩
  cases e with
  | parallel es => exact hgroup es
  | sequential es => exact hgroup es
  | _ => simp [rows, parts]

theorem mem_rows {e : Effect φ α} {place : List Nat} {a : α} :
    (place, a) ∈ e.rows out ↔ GivesAt out e place a := by
  induction place generalizing e with
  | nil => exact mem_rows_nil
  | cons i place ih =>
    simp only [mem_rows_cons, ih]
    constructor
    · rintro ⟨part, hpart, hgives⟩
      exact .part hpart hgives
    · rintro (_ | _ | ⟨hpart, hgives⟩)
      exact ⟨_, hpart, hgives⟩

/-- The actions are those of the leaves that give one, each once and from left to right: in the
lexicographic order of the places. -/
def ReadsOff (out : φ → Option α) (e : Effect φ α) (produced : List α) : Prop :=
  ∃ rows : List (List Nat × α), rows.map Prod.snd = produced ∧
    (rows.Pairwise fun r r' => r.1 < r'.1) ∧
    ∀ place a, (place, a) ∈ rows ↔ GivesAt out e place a

theorem readsOff_leaves (out : φ → Option α) (e : Effect φ α) : ReadsOff out e (e.leaves out) :=
  ⟨e.rows out, map_snd_rows out e, pairwise_rows out e, fun _ _ => mem_rows⟩

/-! ### Shapes -/

/-- How the parts of a group are carried out. -/
inductive Manner where
  | allAtOnce
  | inTurn

def group : Manner → List (Effect φ α) → Effect φ α
  | .allAtOnce, es => .parallel es
  | .inTurn, es => .sequential es

theorem leaves_group (m : Manner) (es : List (Effect φ α)) :
    (group m es).leaves out = leavesOfList out es := by
  cases m <;> rfl

theorem leavesOfList_append (es es' : List (Effect φ α)) :
    leavesOfList out (es ++ es') = leavesOfList out es ++ leavesOfList out es' := by
  induction es with
  | nil => rfl
  | cons e es ih => rw [List.cons_append, leavesOfList, leavesOfList, ih, List.append_assoc]

/-- One change to the shape of an effect, anywhere in it: a group is carried out in another manner,
a part that gives nothing is left out, or the parts of a group take its place among the others. -/
inductive Reshapes (out : φ → Option α) : Effect φ α → Effect φ α → Prop
  | exchange (m m' : Manner) (es : List (Effect φ α)) : Reshapes out (group m es) (group m' es)
  | dropIdle (m : Manner) (before after : List (Effect φ α)) :
      Reshapes out (group m (before ++ .idle :: after)) (group m (before ++ after))
  | dropSilent (m : Manner) (before after : List (Effect φ α)) {t : φ} (silent : out t = none) :
      Reshapes out (group m (before ++ .future t :: after)) (group m (before ++ after))
  | splice (m m' : Manner) (before es after : List (Effect φ α)) :
      Reshapes out (group m (before ++ group m' es :: after)) (group m (before ++ es ++ after))
  | within (m : Manner) (before after : List (Effect φ α)) {e e' : Effect φ α}
      (part : Reshapes out e e') :
      Reshapes out (group m (before ++ e :: after)) (group m (before ++ e' :: after))

theorem Reshapes.leaves_eq {e e' : Effect φ α} (h : Reshapes out e e') :
    e.leaves out = e'.leaves out := by
  induction h with
  | exchange m m' es => rw [leaves_group, leaves_group]
  | dropIdle m before after =>
    simp only [leaves_group, leavesOfList_append, leavesOfList, leaves, List.nil_append]
  | dropSilent m before after silent =>
    simp only [leaves_group, leavesOfList_append, leavesOfList, leaves, silent, Option.toList_none,
      List.nil_append]
  | splice m m' before es after =>
    simp only [leaves_group, leavesOfList_append, leavesOfList, List.append_assoc]
  | within m before after part ih =>
    simp only [leaves_group, leavesOfList_append, leavesOfList, ih]

theorem leaves_eq_of_eqvGen {e e' : Effect φ α} (h : Relation.EqvGen (Reshapes out) e e') :
    e.leaves out = e'.leaves out := by
  induction h with
  | rel e e' h => exact h.leaves_eq
  | refl e => rfl
  | symm e e' _ ih => exact ih.symm
  | trans e e' e'' _ _ ih ih' => exact ih.trans ih'

/-- In whatever order its waits end, an effect gives the actions of its leaves, each once and from
left to right, where `out` says what came of each piece of work. The parts of a parallel effect may
indeed end in any order. What the shape of the effect can be changed into gives the same, with waits
that end in an order of their own. -/
theorem flattens (out : φ → Option α) (e : Effect φ α) :
    ReadsOff out e (e.leaves out) ∧ Produces out e (e.leaves out) ∧
      Execution.PartsEndFreely out ∧
      ∀ e', Relation.EqvGen (Reshapes out) e e' → Produces out e' (e.leaves out) := by
  refine ⟨readsOff_leaves out e, produces_leaves out e, Execution.partsEndFreely out, ?_⟩
  intro e' hshape
  rw [leaves_eq_of_eqvGen hshape]
  exact produces_leaves out e'

def sampleTree : Effect (Option Nat) Nat :=
  .parallel [.delay ⟨2⟩ 1,
    .sequential [.future none, .parallel [.future (some 2), .delay ⟨1⟩ 3]], .future (some 4)]

def sampleChain : Effect (Option Nat) Nat :=
  .sequential [.delay ⟨2⟩ 1, .future (some 2), .delay ⟨1⟩ 3, .future (some 4)]

theorem reshapes_sampleTree : Relation.EqvGen (Reshapes id) sampleTree sampleChain := by
  have hsilent : Reshapes id sampleTree (.parallel [.delay ⟨2⟩ 1,
      .sequential [.parallel [.future (some 2), .delay ⟨1⟩ 3]], .future (some 4)]) :=
    .within .allAtOnce [_] [_] (.dropSilent .inTurn [] _ rfl)
  have houter : Reshapes id
      (.parallel [.delay ⟨2⟩ 1,
        .sequential [.parallel [.future (some 2), .delay ⟨1⟩ 3]], .future (some 4)])
      (.parallel [.delay ⟨2⟩ 1, .parallel [.future (some 2), .delay ⟨1⟩ 3], .future (some 4)]) :=
    .splice .allAtOnce .inTurn [_] [_] [_]
  have hinner : Reshapes id
      (.parallel [.delay ⟨2⟩ 1, .parallel [.future (some 2), .delay ⟨1⟩ 3], .future (some 4)])
      (.parallel [.delay ⟨2⟩ 1, .future (some 2), .delay ⟨1⟩ 3, .future (some 4)]) :=
    .splice .allAtOnce .allAtOnce [_] [_, _] [_]
  have hmanner : Reshapes id
      (.parallel [.delay ⟨2⟩ 1, .future (some 2), .delay ⟨1⟩ 3, .future (some 4)]) sampleChain :=
    .exchange .allAtOnce .inTurn _
  exact .trans _ _ _ (.rel _ _ hsilent) <| .trans _ _ _ (.rel _ _ houter) <|
    .trans _ _ _ (.rel _ _ hinner) (.rel _ _ hmanner)

/-- The last part is the first to end here, and the first part the last. -/
theorem flattens_sampleTree :
    (Execution.start sampleTree).Admits id [2, 1, 2, 1, 0] ∧
    ((Execution.start sampleTree).run id [2, 1, 2, 1, 0]).result? = some [1, 2, 3, 4] ∧
    Relation.EqvGen (Reshapes id) sampleTree sampleChain ∧
    (Execution.start sampleChain).Admits id [0, 0, 0, 0] ∧
    ((Execution.start sampleChain).run id [0, 0, 0, 0]).result? = some [1, 2, 3, 4] := by
  have htree : (Execution.start sampleTree).Admits id [2, 1, 2, 1, 0] := by decide
  have hchain : (Execution.start sampleChain).Admits id [0, 0, 0, 0] := by decide
  obtain ⟨-, hproduces, -, hreshaped⟩ := flattens id sampleTree
  exact ⟨htree, hproduces.ends htree rfl, reshapes_sampleTree, hchain,
    (hreshaped _ reshapes_sampleTree).ends hchain rfl⟩

end BoxOffice.Effect
