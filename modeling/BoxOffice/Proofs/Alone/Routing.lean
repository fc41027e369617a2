import BoxOffice.Proofs.Alone.Running
import BoxOffice.Proofs.Office.Sound
import BoxOffice.Proofs.Store.Invoices

/-! One payment that is routed alone. What decides is the status of the payment when it is loaded,
not its invoice: a payment that is pending is routed as the context says, any other is left
alone. -/

namespace BoxOffice

open Program

/-- The request tries to get the invoice of the context paid, by the wallet or by the provider. -/
def Request.actsFor (c : DispatchContext) : Request → Bool
  | .payInvoice _ invoice => invoice = c.invoice
  | .discover _ | .push _ _ => true
  | _ => false

/-- The request is one of a routing as the context says. -/
def Request.Serves (setup : Setup) (c : DispatchContext) : Request → Prop
  | .payInvoice credential invoice => c.credential = some credential ∧ invoice = c.invoice
  | .discover domain => domain = c.buyer.domain
  | .push _ request => request = Lifecycle.paymentRequest setup.receiver c
  | r => r.isInner

def Errand.Serves (setup : Setup) (c : DispatchContext) : Errand → Prop
  | .payInvoice credential invoice => c.credential = some credential ∧ invoice = c.invoice
  | .pushRequest domain request _ =>
    domain = c.buyer.domain ∧ request = Lifecycle.paymentRequest setup.receiver c

/-- The action tells what became of an errand. -/
def LifecycleAction.isReport : LifecycleAction → Bool
  | .walletPaid | .walletFailed _ | .pushDelivered | .pushFailed _ => true
  | _ => false

variable {setup : Setup} {c : DispatchContext} {w : Surroundings}

/-- Only requests of the routing come between the two histories. -/
abbrev Serving (setup : Setup) (c : DispatchContext) (h h' : List Turn) : Prop :=
  Since (Request.Serves setup c) h h'

theorem Request.Serves.of_inner {r : Request} (hr : r.isInner) : r.Serves setup c := by
  cases r <;> first | exact hr | cases hr

theorem Since.serving {h h' : List Turn} (hi : Since (fun r => r.isInner) h h') :
    Serving setup c h h' :=
  hi.mono fun _ => .of_inner

/-! ### Errands -/

/-- Somebody was asked to get the invoice of the context paid. -/
def Acted (c : DispatchContext) (h : List Turn) : Prop := ∃ t ∈ h, t.request.actsFor c

theorem Acted.mono {h h' : List Turn} (ha : Acted c h) (hh : ∀ t ∈ h, t ∈ h') : Acted c h' := by
  obtain ⟨t, ht, hacts⟩ := ha
  exact ⟨t, hh t ht, hacts⟩

theorem Errand.push_alone (setup : Setup) (c : DispatchContext) (versions : List UInt32)
    (w : Surroundings) (s : Store) (h : List Turn) :
    Keeps w (fun _ h' => Serving setup c h h' ∧ Acted c h')
      (push c.buyer.domain (Lifecycle.paymentRequest setup.receiver c) versions).run s h := by
  have hdiscover : (ExceptT.mk (request (.discover c.buyer.domain)) :
      ExceptT ProviderError Program ProviderConfiguration).run.alone w s h =
      ⟨some (w h (.discover c.buyer.domain)), s,
        ⟨.discover c.buyer.domain, w h (.discover c.buyer.domain)⟩ :: h⟩ := rfl
  have hserving : Serving setup c h
      (⟨.discover c.buyer.domain, w h (.discover c.buyer.domain)⟩ :: h) := (Since.refl h).cons rfl
  have hacted : Acted c (⟨.discover c.buyer.domain, w h (.discover c.buyer.domain)⟩ :: h) :=
    ⟨_, List.mem_cons_self, rfl⟩
  refine Ends.keeps ?_
  unfold push
  generalize w h (.discover c.buyer.domain) = x at hdiscover hserving hacted
  cases x with
  | error e => exact .error hdiscover ⟨rfl, hserving, hacted⟩
  | ok configuration =>
    refine .ok hdiscover ?_
    split
    · exact .error rfl ⟨rfl, hserving, hacted⟩
    · cases configuration.requestEndpoint with
      | none => exact .error rfl ⟨rfl, hserving, hacted⟩
      | some endpoint =>
        exact .ok rfl ⟨_, _, _, rfl, rfl, hserving.cons rfl, hacted.mono fun _ => .tail _⟩

/-- An errand that serves the routing is done by requests that do. -/
theorem Errand.perform_alone {errand : Errand} (he : errand.Serves setup c) (w : Surroundings)
    (s : Store) (h : List Turn) :
    Keeps w (fun a h' => a.isReport ∧ Serving setup c h h' ∧ Acted c h') errand.perform s h := by
  cases errand with
  | payInvoice credential invoice =>
    obtain ⟨hcredential, rfl⟩ := he
    have hpay : (request (.payInvoice credential c.invoice)).alone w s h =
        ⟨some (w h (.payInvoice credential c.invoice)), s,
          ⟨.payInvoice credential c.invoice, w h (.payInvoice credential c.invoice)⟩ :: h⟩ := rfl
    have hserving : Serving setup c h
        (⟨.payInvoice credential c.invoice, w h (.payInvoice credential c.invoice)⟩ :: h) :=
      (Since.refl h).cons ⟨hcredential, rfl⟩
    have hacted : Acted c
        (⟨.payInvoice credential c.invoice, w h (.payInvoice credential c.invoice)⟩ :: h) :=
      ⟨_, List.mem_cons_self, decide_eq_true rfl⟩
    refine Ends.keeps ?_
    unfold perform
    generalize w h (.payInvoice credential c.invoice) = x at hpay hserving hacted
    refine .seq hpay ?_
    cases x <;> exact ⟨_, _, _, rfl, rfl, rfl, hserving, hacted⟩
  | pushRequest domain request versions =>
    obtain ⟨rfl, rfl⟩ := he
    obtain ⟨x, h', hpush, hserving, hacted⟩ := push_alone setup c versions w s h
    refine Ends.keeps ?_
    unfold perform
    refine .seq hpush ?_
    cases x <;> exact ⟨_, _, _, rfl, rfl, rfl, hserving, hacted⟩

namespace Lifecycle

theorem performAll_alone {effects : Effects}
    (he : ∀ e ∈ effects, ∃ errand, e = .future errand ∧ errand.Serves setup c) (w : Surroundings)
    (s : Store) (h : List Turn) :
    Keeps w (fun as h' => (∀ a ∈ as, a.isReport) ∧ Serving setup c h h' ∧
      (effects ≠ [] → Acted c h')) (performAll effects) s h := by
  induction effects generalizing h with
  | nil => exact ⟨[], h, rfl, nofun, .refl h, fun hne => absurd rfl hne⟩
  | cons e rest ih =>
    obtain ⟨errand, rfl, hserves⟩ := he _ List.mem_cons_self
    obtain ⟨a, h₁, hperform, ha, hserving, hacted⟩ := errand.perform_alone hserves w s h
    obtain ⟨as, h₂, hrest, has, hserving', -⟩ := ih (fun e hm => he e (.tail _ hm)) h₁
    refine Ends.keeps ?_
    simp only [performAll, perform, bind_bind, Program.bind]
    refine .seq hperform (.seq hrest ⟨_, _, _, rfl, rfl, ?_, hserving.trans hserving', fun _ => ?_⟩)
    · exact List.forall_mem_cons.2 ⟨ha, has⟩
    · exact hacted.mono fun _ ht => mem_of_alone hrest ht

/-! ### Decisions -/

/-- What a decision on the way of a routing does. -/
structure Routes (setup : Setup) (c : DispatchContext) (st st' : Lifecycle) (effects : Effects) :
    Prop where
  ticketId : st'.ticketId = st.ticketId
  context : st'.context = some c
  status : st'.paymentStatus = st.paymentStatus ∨
    st.paymentStatus = .pending ∧ st'.paymentStatus = .failed
  errands : ∀ e ∈ effects, ∃ errand, e = .future errand ∧ errand.Serves setup c

variable {now : Time.Instant} {st st' : Lifecycle} {action : LifecycleAction}

theorem Routes.of_nil (hk : st'.ticketId = st.ticketId) (hc : st'.context = some c)
    (hstatus : st'.paymentStatus = st.paymentStatus ∨
      st.paymentStatus = .pending ∧ st'.paymentStatus = .failed) : Routes setup c st st' [] :=
  ⟨hk, hc, hstatus, fun _ he => absurd he List.not_mem_nil⟩

theorem Routes.of_errand {errand : Errand} (hk : st'.ticketId = st.ticketId)
    (hc : st'.context = some c) (hstatus : st'.paymentStatus = st.paymentStatus)
    (he : errand.Serves setup c) : Routes setup c st st' [.future errand] :=
  ⟨hk, hc, .inl hstatus, fun _ hm => ⟨errand, List.mem_singleton.1 hm, he⟩⟩

theorem pushErrand_serves :
    (pushErrand ⟨now, setup.receiver, setup.versions⟩ c).Serves setup c := ⟨rfl, rfl⟩

theorem reduce_report (ha : action.isReport) (hc : st.context = some c) :
    let r := reduce ⟨now, setup.receiver, setup.versions⟩ st action
    Routes setup c st r.1 r.2 := by
  cases action with
  | walletPaid => exact .of_nil rfl hc (.inl rfl)
  | pushDelivered => exact .of_nil rfl hc (.inl rfl)
  | walletFailed reason =>
    simp only [reduce, hc]
    split
    · exact .of_nil rfl hc (.inl rfl)
    · exact .of_errand rfl rfl rfl pushErrand_serves
  | pushFailed reason =>
    simp only [reduce]
    split
    · exact .of_nil rfl hc (.inl rfl)
    · next hpending => exact .of_nil rfl hc (.inr ⟨Decidable.not_not.1 hpending, rfl⟩)
  | _ => cases ha

theorem reduce_dispatch (hstatus : st.paymentStatus = .pending) (hstage : st.stage = .notStarted) :
    let r := reduce ⟨now, setup.receiver, setup.versions⟩ st (.dispatch c)
    Routes setup c st r.1 r.2 ∧ r.2 ≠ [] := by
  simp only [reduce, hstatus, hstage, ne_eq, not_true, or_self, if_false]
  cases hcredential : c.credential.filter (·.isUsable now) with
  | none => exact ⟨.of_errand rfl rfl hstatus.symm pushErrand_serves, List.cons_ne_nil _ _⟩
  | some credential =>
    have hmine : c.credential = some credential := (Option.filter_eq_some_iff.1 hcredential).1
    exact ⟨.of_errand rfl rfl hstatus.symm ⟨hmine, rfl⟩, List.cons_ne_nil _ _⟩

end Lifecycle

namespace Service

open Lifecycle

/-- How the store follows the state of a routing: it is as it was while the payment is open. -/
inductive Tracks (s₀ : Store) (p : Payment) (t : Ticket) (st : Lifecycle) : Store → Prop
  | opened (h : st.paymentStatus = .pending) : Tracks s₀ p t st s₀
  | failed {time : Time.Instant} (h : st.paymentStatus = .failed) :
      Tracks s₀ p t st (s₀.moving p t ⟨.pending, .failed, time⟩)

section Run

variable {s₀ : Store} (hs : s₀.Coherent) {p : Payment} {t : Ticket}
  (hp : s₀.paymentForTicket c.ticketId = some p) (ht : s₀.tickets.find? c.ticketId = some t)
  (hpending : p.status = .pending)

include hs hp ht hpending

theorem storeDecision_alone {st st' : Lifecycle} {effects : Effects} {s : Store} {h : List Turn}
    (hk : st.ticketId = c.ticketId) (hst : Tracks s₀ p t st s)
    (hroutes : Routes setup c st st' effects) (w : Surroundings) :
    Ends w (fun x s' h' => (∃ persisted, x = .ok ⟨st', persisted⟩) ∧ Tracks s₀ p t st' s' ∧
      Inner h h') (storeDecision st' st.paymentStatus).run s h := by
  have hid : st'.ticketId = c.ticketId := hroutes.ticketId.trans hk
  unfold storeDecision
  rcases hroutes.status with hsame | ⟨hopen, hfailed⟩
  · rw [if_neg (not_not_intro hsame)]
    refine ⟨_, s, h, rfl, ⟨false, rfl⟩, ?_, .refl h⟩
    cases hst with
    | opened hopen => exact .opened (hsame.trans hopen)
    | failed hfailed => exact .failed (hsame.trans hfailed)
  · rw [if_pos (by rw [hopen, hfailed]; decide)]
    cases hst with
    | failed hclosed => cases hopen.symm.trans hclosed
    | opened =>
      obtain ⟨_, s', h', hrun, rfl, hinner, time, rfl, -⟩ :=
        persist_alone hs (hid ▸ hp) (hid ▸ ht) w h
      rw [hpending] at hrun
      rw [hopen]
      refine ⟨_, _, h', hrun, ⟨true, rfl⟩, ?_, hinner⟩
      rw [hfailed]
      exact .failed hfailed

/-- One turn of the loop, for an action of the routing. -/
theorem drain_step {fuel : Nat} {o : Lifecycle.Outcome} {action : LifecycleAction}
    {rest : List LifecycleAction} {s : Store} {h : List Turn} (hk : o.state.ticketId = c.ticketId)
    (hst : Tracks s₀ p t o.state s)
    (hroutes : ∀ now, Routes setup c o.state
      (reduce ⟨now, setup.receiver, setup.versions⟩ o.state action).1
      (reduce ⟨now, setup.receiver, setup.versions⟩ o.state action).2)
    {done : Except StoreError Lifecycle.Outcome → Store → List Turn → Prop}
    (hdone : ∀ now o' produced s' h', o'.state.ticketId = c.ticketId → o'.state.context = some c →
      Tracks s₀ p t o'.state s' → (∀ a ∈ produced, a.isReport) → Serving setup c h h' →
      ((reduce ⟨now, setup.receiver, setup.versions⟩ o.state action).2 ≠ [] → Acted c h') →
      Ends w done (drain setup fuel o' (rest ++ produced)).run s' h') :
    Ends w done (drain setup (fuel + 1) o (action :: rest)).run s h := by
  obtain ⟨_, h₁, hcount, hinner⟩ := countErrand_alone w s h action
  have hroutes := hroutes (w h₁ .now)
  obtain ⟨_, s₂, h₂, hstored, ⟨persisted, rfl⟩, hst₂, hinner₂⟩ :=
    storeDecision_alone hs hp ht hpending (h := ⟨.now, w h₁ .now⟩ :: h₁) hk hst hroutes w
  obtain ⟨produced, h₃, hproduced, hreports, hserving, hacted⟩ :=
    performAll_alone hroutes.errands w s₂ h₂
  refine drain_cons_alone hcount hstored hproduced ?_
  refine hdone (w h₁ .now) _ produced s₂ h₃ (hroutes.ticketId.trans hk) hroutes.context ?_ hreports
    ?_ hacted
  · cases hst₂ with
    | opened hopen => exact .opened hopen
    | failed hfailed => exact .failed hfailed
  · exact ((hinner.cons rfl).trans hinner₂).serving.trans hserving

/-- What follows from an errand is served like it. -/
theorem drain_alone {fuel : Nat} {o : Lifecycle.Outcome} {actions : List LifecycleAction}
    {s : Store} {h : List Turn} (hk : o.state.ticketId = c.ticketId) (hc : o.state.context = some c)
    (hactions : ∀ a ∈ actions, a.isReport) (hst : Tracks s₀ p t o.state s) (w : Surroundings) :
    Ends w (fun x s' h' => (∃ o', x = .ok o' ∧ Tracks s₀ p t o'.state s') ∧ Serving setup c h h')
      (drain setup fuel o actions).run s h := by
  induction fuel generalizing o actions s h with
  | zero => exact ⟨_, s, h, rfl, ⟨o, rfl, hst⟩, .refl h⟩
  | succ fuel ih =>
    cases actions with
    | nil => exact ⟨_, s, h, rfl, ⟨o, rfl, hst⟩, .refl h⟩
    | cons action rest =>
      obtain ⟨haction, hrest⟩ := List.forall_mem_cons.1 hactions
      refine drain_step hs hp ht hpending hk hst (fun _ => reduce_report haction hc) ?_
      intro now o' produced s' h' hk' hc' hst' hreports hserving _
      refine (ih hk' hc' ?_ hst').mono fun x s'' h'' _ hx => ⟨hx.1, hserving.trans hx.2⟩
      exact fun a ha => (List.mem_append.1 ha).elim (hrest a) (hreports a)

/-- A pending payment is routed. -/
theorem run_dispatch (setup : Setup) (w : Surroundings) (h : List Turn) :
    Ends w (fun x s' h' => (∃ o, x = .ok o ∧ Tracks s₀ p t o.state s') ∧ Serving setup c h h' ∧
      Acted c h') (run setup (.ofRecords t p) (.dispatch c)).run s₀ h := by
  have hopen : (ofRecords t p).paymentStatus = .pending := hpending
  have hstage : (ofRecords t p).stage = .notStarted := congrArg Stage.ofStatus hpending
  refine drain_step (o := ⟨ofRecords t p, false⟩) hs hp ht hpending (hs.ticket_key ht)
    (.opened hopen) (fun _ => (reduce_dispatch hopen hstage).1) ?_
  intro now o' produced s' h' hk hc hst hreports hserving hacted
  have hacted := hacted (reduce_dispatch hopen hstage).2
  refine (drain_alone hs hp ht hpending hk hc hreports hst w).mono fun x s'' h'' hh hx => ?_
  exact ⟨hx.1, hserving.trans hx.2, hacted.mono hh⟩

theorem apply_dispatch (setup : Setup) (w : Surroundings) (h : List Turn) :
    Ends w (fun x s' h' => (∃ o, x = .ok o ∧ Tracks s₀ p t o.state s') ∧ Serving setup c h h' ∧
      Acted c h') (apply setup c.ticketId (.dispatch c)).run s₀ h := by
  refine apply_alone hp ht fun h₁ hloaded => ?_
  refine (run_dispatch hs hp ht hpending setup w h₁).mono fun x s' h' _ hx => ?_
  exact ⟨hx.1, hloaded.serving.trans hx.2.1, hx.2.2⟩

end Run

end Service

/-- What is to be told of a payment that was routed alone from a store. -/
structure Routed (setup : Setup) (c : DispatchContext) (s : Store) (r : Ran (Option Lifecycle)) :
    Prop where
  ends : r.result.isSome
  /-- Somebody is asked to get the invoice of the context paid if the payment of the ticket is
  pending, and only then. -/
  acts : (∃ t ∈ r.turns, t.request.actsFor c) ↔
    ∃ p, s.paymentForTicket c.ticketId = some p ∧ p.status = .pending
  serves : ∀ t ∈ r.turns, t.request.Serves setup c
  /-- All that is changed is a pending payment, which fails with its ticket. -/
  store : r.store = s ∨ ∃ p t, s.paymentForTicket c.ticketId = some p ∧ p.status = .pending ∧
    s.tickets.find? c.ticketId = some t ∧ r.store = { s with
      payments := s.payments.set p.id { p with status := .failed, paidAt := none }
      tickets := s.tickets.set c.ticketId { t with status := .failed, paidAt := none } }

theorem Request.not_acts_of_inner {r : Request} (hr : r.isInner) : ¬ r.actsFor c := by
  cases r <;> first | exact Bool.false_ne_true | cases hr

variable {s : Store}

theorem Routed.of_kept
    (hclosed : ∀ p, s.paymentForTicket c.ticketId = some p → p.status ≠ .pending)
    (x : Option Lifecycle) {h : List Turn} (hinner : Service.Inner [] h) :
    Routed setup c s ⟨some x, s, h⟩ := by
  have hall : ∀ t ∈ h, t.request.isInner := fun t ht => (hinner.of_mem ht).resolve_left nofun
  constructor
  case ends => rfl
  case acts =>
    constructor
    · rintro ⟨t, ht, hacts⟩
      exact absurd hacts (Request.not_acts_of_inner (hall t ht))
    · rintro ⟨p, hp, hpending⟩
      exact absurd hpending (hclosed p hp)
  case serves => exact fun t ht => .of_inner (hall t ht)
  case store => exact .inl rfl

theorem Routed.of_acted {p : Payment} {t : Ticket} (hp : s.paymentForTicket c.ticketId = some p)
    (ht : s.tickets.find? c.ticketId = some t) (hk : p.ticketId = c.ticketId)
    (hpending : p.status = .pending) {s' : Store} {st : Lifecycle}
    (hst : Service.Tracks s p t st s') {h : List Turn} (hserving : Serving setup c [] h)
    (hacted : Acted c h) (x : Option Lifecycle) : Routed setup c s ⟨some x, s', h⟩ := by
  constructor
  case ends => rfl
  case acts => exact ⟨fun _ => ⟨p, hp, hpending⟩, fun _ => hacted⟩
  case serves => exact fun t ht => (hserving.of_mem ht).resolve_left nofun
  case store =>
    cases hst with
    | opened => exact .inl rfl
    | failed =>
      refine .inr ⟨p, t, hp, hpending, ht, ?_⟩
      rw [← hk]
      rfl

theorem Store.Reachable.routed (hs : s.Reachable) (setup : Setup) (c : DispatchContext)
    (w : Surroundings) : Routed setup c s ((Service.route setup c).alone w s []) := by
  have hcoherent := hs.coherent
  obtain ⟨x, s', h, hrun, hrouted⟩ : Program.Ends w (fun x s' h => Routed setup c s ⟨some x, s', h⟩)
      (Service.route setup c) s [] := by
    unfold Service.route
    cases hp : s.paymentForTicket c.ticketId with
    | none =>
      obtain ⟨_, h, hrun, ⟨e, rfl⟩, hinner⟩ := Service.apply_missing hp setup (.dispatch c) w []
      refine .seq hrun ⟨_, _, _, rfl, .of_kept (fun p hp' => ?_) none hinner⟩
      cases hp.symm.trans hp'
    | some p =>
      obtain ⟨hfind, hk⟩ := hcoherent.paymentForTicket_iff.1 hp
      obtain ⟨t, _, ht, -⟩ := hcoherent.records hfind
      rw [hk] at ht
      by_cases hpending : p.status = .pending
      · obtain ⟨_, s', h, hrun, ⟨o, rfl, hst⟩, hserving, hacted⟩ :=
          Service.apply_dispatch hcoherent hp ht hpending setup w []
        exact .seq hrun ⟨_, s', h, rfl, .of_acted hp ht hk hpending hst hserving hacted _⟩
      · have hreduce : ∀ env, ∃ error, Lifecycle.reduce env (.ofRecords t p) (.dispatch c) =
            ({ Lifecycle.ofRecords t p with lastError := error }, []) :=
          fun env => ⟨_, if_pos (.inl hpending)⟩
        obtain ⟨_, h, hrun, rfl, hinner⟩ := Service.apply_kept hp ht hreduce setup w []
        refine .seq hrun ⟨_, s, h, rfl, .of_kept (fun q hq => ?_) _ hinner⟩
        cases hp.symm.trans hq
        exact hpending
  rw [hrun]
  exact hrouted

/-- A payment is routed as another invoice says, and fails for that. -/
theorem routed_twoSales :
    let c : DispatchContext := ⟨⟨⟨2⟩⟩, ⟨"a", "b"⟩, "before", ⟨5⟩, default, "", "", none⟩
    let w : Surroundings := fun _ => Office.Outside.answer { delivers := false }
    let r := (Service.route Office.sampleSetup c).alone w Store.twoSales []
    Store.twoSales.Reachable ∧ (r.store.payments.values.map fun p => (p.status, p.invoice)) =
        [(.failed, "a"), (.failed, "b")] ∧
      Routed Office.sampleSetup c Store.twoSales r :=
  ⟨Store.twoSales_reachable.reachable, by decide +kernel,
    Store.twoSales_reachable.reachable.routed _ _ _⟩

namespace Office

/-- The payments that were begun to be routed. -/
def dispatched (o : Office) : List DispatchContext :=
  o.log.filterMap fun e => match e.turn.request with
    | .dispatch c => some c
    | _ => none

/-- A sale to somebody with a wallet expires and is retried, before its payment is routed. -/
def sampleSuperseded : List Move :=
  .begin (.putEvent sampleEvent) :: Move.turns 1 0 {} ++
  .begin (.putCredential ⟨default, "wallet", none, default⟩) :: Move.turns 1 1 {} ++
  samplePurchase :: Move.turns 11 2 { invoice := "a" } ++
  .begin .sweep :: Move.turns 8 4 {} ++
  .begin (.retry ⟨⟨0⟩⟩) :: Move.turns 9 5 { invoice := "b", expiresAt := .ofSeconds 1 }

/-- A payment that was begun to be routed is routed for an invoice that it no longer has. -/
theorem routed_superseded :
    ¬ ∀ (setup : Setup) (moves : List Move) (c : DispatchContext) (p : Payment) (w : Surroundings),
      c ∈ (run setup moves).dispatched →
      (run setup moves).store.paymentForTicket c.ticketId = some p → p.invoice ≠ c.invoice →
      (∀ t ∈ ((Service.route setup c).alone w (run setup moves).store []).turns,
        ¬ t.request.actsFor c) ∧
      ((Service.route setup c).alone w (run setup moves).store []).store.paymentForTicket
        c.ticketId = some p := by
  intro hclaim
  let w : Surroundings := fun _ => Outside.answer {}
  have hacts : ∃ c ∈ (run sampleSetup sampleSuperseded).dispatched,
      ((run sampleSetup sampleSuperseded).store.paymentForTicket c.ticketId).any
        (·.invoice ≠ c.invoice) ∧
      ((Service.route sampleSetup c).alone w (run sampleSetup sampleSuperseded).store []).turns.any
        (·.request.actsFor c) := by
    decide +kernel
  obtain ⟨c, hc, hp, hturns⟩ := hacts
  obtain ⟨p, hp, hne⟩ := (Option.any_eq_true ..).1 hp
  obtain ⟨t, ht, hacts⟩ := List.any_eq_true.1 hturns
  exact (hclaim _ _ c p w hc hp (by simpa using hne)).1 t ht hacts

end Office

end BoxOffice
