import BoxOffice.Proofs.Alone.Delivery

/-! Who is told at the end of a notification that is handled alone. The payment that it settles is
told of as it was found, with the time that is stored. Whether the notice is taken makes no
difference: nothing but a count comes after it. -/

namespace BoxOffice

open Program

/-- What those who are sent notices answer. -/
abbrev Notifier := (url : String) → (notice : SettlementNotice) → (Request.notify url notice).Answer

/-- The surroundings with somebody else to take the notices. -/
def Surroundings.notifying (w : Surroundings) (f : Notifier) : Surroundings
  | _, .notify url notice => f url notice
  | h, r => w h r

theorem Request.answer_notifying {r : Request} (hr : ∀ url n, r ≠ .notify url n) {f : Notifier}
    (w : Surroundings) (s : Store) (h : List Turn) :
    r.answer (w.notifying f) s h = r.answer w s h := by
  cases r with
  | notify url n => exact absurd rfl (hr url n)
  | _ => rfl

/-- The runs have the same end, whatever turns they took to it. -/
structure Ran.SameEnd {α : Type} (r r' : Ran α) : Prop where
  result : r'.result = r.result
  store : r'.store = r.store

namespace Program

variable {α β ε : Type} {f : Notifier} {p : Program α} {g : α → Program β}

/-- A run that tells nobody is the same run with any notifier. -/
theorem alone_notifying {w : Surroundings} {s : Store} {h : List Turn}
    (hsilent : Silent h (p.alone w s h).turns) :
    p.alone (w.notifying f) s h = p.alone w s h := by
  induction p generalizing s h with
  | pure a => rfl
  | abort => rfl
  | ask r next ih =>
    obtain ⟨later, hlater⟩ := alone_turns w (next (r.answer w s h)) (r.after s)
      (⟨r, r.answer w s h⟩ :: h)
    obtain ⟨new, hnew, hall⟩ := hsilent
    have hturns : new ++ h = later ++ [⟨r, r.answer w s h⟩] ++ h := by
      rw [← hnew, alone, hlater, List.append_assoc]
      rfl
    obtain rfl := List.append_cancel_right hturns
    have hanswer : r.answer (w.notifying f) s h = r.answer w s h :=
      r.answer_notifying (hall ⟨r, r.answer w s h⟩ (by simp)) w s h
    have hnext : Silent (⟨r, r.answer w s h⟩ :: h) (later ++ ⟨r, r.answer w s h⟩ :: h) :=
      ⟨later, rfl, fun t ht => hall t (List.mem_append_left _ ht)⟩
    rw [alone, alone, hanswer]
    apply ih
    rw [hlater]
    exact hnext

/-- From any store, the program has a result and tells nobody. -/
def Tacit (p : Program α) : Prop := ∀ w s h, Ends w (fun _ _ h' => Silent h h') p s h

/-- From any store, the program comes to the same end with another notifier. -/
def Indifferent (f : Notifier) (p : Program α) : Prop :=
  ∀ w s h, Ran.SameEnd (p.alone w s h) (p.alone (w.notifying f) s h)

theorem Gives.tacit {done : α → Prop} (hp : p.Gives (fun r => r.isInner) done) : p.Tacit := by
  intro w s h
  obtain ⟨a, s', h', hrun, -, hinner⟩ := hp.alone w s h
  exact ⟨a, s', h', hrun, Service.Inner.silent hinner⟩

theorem Tacit.within {ε' : Type} {p : ExceptT ε Program α} {e : ε → ε'} (hp : p.run.Tacit) :
    (Program.within e p).run.Tacit := by
  intro w s h
  obtain ⟨x, s', h', hrun, hsilent⟩ := hp w s h
  exact ⟨_, s', h', alone_within hrun e, hsilent⟩

theorem indifferent_pure (a : α) : (Program.pure a).Indifferent f := fun _ _ _ => ⟨rfl, rfl⟩

/-- The first part takes the same turns, and the rest goes on from there. -/
theorem Tacit.bind (hp : p.Tacit) (hg : ∀ a, (g a).Indifferent f) : (p.bind g).Indifferent f := by
  intro w s h
  obtain ⟨a, s', h', hrun, hsilent⟩ := hp w s h
  have hsame : p.alone (w.notifying f) s h = ⟨some a, s', h'⟩ := by
    rw [← hrun]
    apply alone_notifying
    rw [hrun]
    exact hsilent
  rw [alone_bind hrun, alone_bind hsame]
  exact hg a w s' h'

theorem Tacit.andThen {p : ExceptT ε Program α} {g : α → ExceptT ε Program β} (hp : p.run.Tacit)
    (hg : ∀ a, (g a).run.Indifferent f) : (p >>= g).run.Indifferent f := by
  apply Tacit.bind hp
  intro x
  cases x with
  | ok a => exact hg a
  | error e => exact indifferent_pure _

/-- The first part may have taken other turns, which the rest does not look at. -/
theorem Indifferent.bind (hp : p.Indifferent f)
    (hg : ∀ a w s h h', Ran.SameEnd ((g a).alone w s h) ((g a).alone (w.notifying f) s h')) :
    (p.bind g).Indifferent f := by
  intro w s h
  have hsame := hp w s h
  cases hrun : p.alone w s h with
  | mk x s' h₁ =>
    cases hrun' : p.alone (w.notifying f) s h with
    | mk x' s'' h₂ =>
      rw [hrun, hrun'] at hsame
      obtain ⟨rfl, rfl⟩ := hsame
      cases x' with
      | none =>
        rw [alone_bind_none hrun, alone_bind_none hrun']
        exact ⟨rfl, rfl⟩
      | some a =>
        rw [alone_bind hrun, alone_bind hrun']
        exact hg a w s'' h₁ h₂

theorem Indifferent.lift (hp : p.Indifferent f) :
    (liftM p : ExceptT ε Program α).run.Indifferent f :=
  hp.bind fun _ _ _ _ _ => ⟨rfl, rfl⟩

theorem Indifferent.thenPure {p : ExceptT ε Program α} (hp : p.run.Indifferent f) (b : β) :
    (p >>= fun _ => Pure.pure b).run.Indifferent f := by
  apply Indifferent.bind hp
  intro x w s h h'
  cases x <;> exact ⟨rfl, rfl⟩

end Program

namespace Service

open Lifecycle

variable {setup : Setup} {body : Bytes} {signature : Option String} {f : Notifier}

/-! ### Indifference -/

theorem notifyCounterparty_indifferent (setup : Setup) (p : Payment) (paidAt : Option Time.Instant) :
    (notifyCounterparty setup p paidAt).Indifferent f := by
  intro w s h
  unfold notifyCounterparty
  cases p.counterpartyCallback with
  | none => exact ⟨rfl, rfl⟩
  | some url => cases paidAt <;> exact ⟨rfl, rfl⟩

theorem settle_indifferent (setup : Setup) (p : Payment) : (settle setup p).run.Indifferent f := by
  have hnow : (liftM Program.now : ExceptT ReconcileError Program Time.Instant).run.Tacit :=
    fun w s h => ⟨_, _, _, rfl, (Since.refl h).cons nofun⟩
  unfold settle
  apply hnow.andThen
  intro now
  have happly := (apply_inner setup p.ticketId (.settlementMatched now) nofun).tacit
  apply happly.within.andThen
  intro o
  split
  · exact (notifyCounterparty_indifferent setup p o.state.paidAt).lift.thenPure _
  · split <;> exact indifferent_pure _

theorem settleInvoice_indifferent (setup : Setup) (encoded : String) :
    (settleInvoice setup encoded).run.Indifferent f := by
  have hlookup : (Program.store (.paymentByInvoice encoded)).run.Tacit :=
    fun w s h => ⟨_, _, _, rfl, (Since.refl h).cons nofun⟩
  unfold settleInvoice
  apply hlookup.within.andThen
  intro found
  cases found with
  | none => exact indifferent_pure _
  | some p => exact settle_indifferent setup p

theorem reconcileEvent_indifferent (setup : Setup) (event : WebhookEvent) :
    (reconcileEvent setup event).run.Indifferent f := by
  have hfetch : (ExceptT.mk (request (.fetchSettlement event.entityId))).run.Tacit :=
    fun w s h => ⟨_, _, _, rfl, (Since.refl h).cons nofun⟩
  unfold reconcileEvent
  split
  · exact indifferent_pure _
  · apply hfetch.within.andThen
    intro entity
    have hinvoice : (settledInvoice entity).run.Tacit := by
      intro w s h
      obtain ⟨x, h', hrun, -, hsilent, -⟩ := settledInvoice_alone w s h entity
      exact ⟨x, s, h', hrun, hsilent⟩
    exact hinvoice.andThen (settleInvoice_indifferent setup)

/-- A notification comes to the same whether its notice is taken or not. -/
theorem onNotification_indifferent (setup : Setup) (body : Bytes) (signature : Option String) :
    (onNotification setup body signature).run.Indifferent f := by
  have hreconcile : (reconcile setup body signature).run.Indifferent f := by
    by_cases hgenuine : isGenuine setup body signature
    · rw [reconcile_genuine hgenuine]
      cases WebhookEvent.ofBody? body with
      | none => exact indifferent_pure _
      | some event => exact reconcileEvent_indifferent setup event
    · rw [reconcile_forged hgenuine]
      exact indifferent_pure _
  exact hreconcile.bind fun _ _ _ _ _ => ⟨rfl, rfl⟩

/-! ### The notice -/

variable {w : Surroundings} {s : Store} {k : TicketId}

/-- A notification that settles a payment tells whoever asked for that, and nobody else. -/
theorem onNotification_settles (hs : s.Coherent)
    (hsettled : ((onNotification setup body signature).run.alone w s []).result =
      some (.ok (.settled k))) :
    ∃ p t now, s.payments.find? p.id = some p ∧ p.ticketId = k ∧ p.status = .pending ∧
      ((onNotification setup body signature).run.alone w s []).store =
        s.moving p t ⟨.pending, .paid, now⟩ ∧
      told ((onNotification setup body signature).run.alone w s []).turns = p.notices setup now := by
  obtain ⟨x, s', h', hrun, hx⟩ := onNotification_alone hs setup w body signature
  rw [hrun] at hsettled ⊢
  cases hsettled
  obtain ⟨entity, p, hannounced, hresolve, hfound, hpending, rfl⟩ :=
    answerTo_settled hx.answer.symm
  obtain ⟨⟨id, hp⟩, -⟩ := Store.find?_of_paymentByInvoice hfound
  obtain rfl := hs.payment_key hp
  obtain ⟨t, _, ht, -⟩ := hs.records hp
  have hlookup : s.perform (.paymentByInvoice p.invoice) = (.ok (some p), s) := by
    rw [← hfound]
    rfl
  have hends : Ends w (fun _ s' h' => ∃ now, s' = s.moving p t ⟨.pending, .paid, now⟩ ∧
      told h' = p.notices setup now) (onNotification setup body signature).run s [] := by
    apply Ends.counted _ fun _ _ _ _ hx => hx
    rw [reconcile_eq hannounced]
    refine Ends.of_resolve (fun e _ he => ?_) fun encoded h₁ he hsilent _ => ?_
    · cases he.symm.trans hresolve
    · cases he.symm.trans hresolve
      obtain ⟨_, s₁, h₂, hrun₁, -, now, -, hs₁, htold⟩ := settle_pending hs hp ht hpending setup w
        (.call (.paymentByInvoice p.invoice) (.ok (some p)) :: h₁)
      have hnone : told h₁ = [] := hsilent.told_eq
      unfold settleInvoice
      refine .ok (alone_within (alone_store hlookup) _) ⟨_, s₁, h₂, hrun₁, now, hs₁, ?_⟩
      rw [htold]
      show _ ++ told h₁ = _
      rw [hnone, List.append_nil]
  obtain ⟨_, _, _, hrun', now, hs', htold⟩ := hends
  cases hrun.symm.trans hrun'
  exact ⟨p, t, now, hp, rfl, hpending, hs', htold⟩

end Service

end BoxOffice
