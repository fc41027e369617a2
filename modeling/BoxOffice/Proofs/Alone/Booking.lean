import Mathlib.Algebra.GroupWithZero.Nat
import BoxOffice.Proofs.Alone.Closing
import BoxOffice.Proofs.Alone.Selling
import BoxOffice.Proofs.Alone.Settling
import BoxOffice.Proofs.Store.Census

/-! What a service that runs alone enters in the books. Each of its changes to the store has its
entry, and each entry its change; a notification is entered once more, by what it came to. -/

namespace BoxOffice

open Program

variable {w : Surroundings} {s s' s'' : Store} {h h' h'' : List Turn} {cs cs' : List Counter}

/-- From one moment to another the entries were made, and the store has become what they tell. -/
structure Enters (cs : List Counter) (s : Store) (h : List Turn) (s' : Store) (h' : List Turn) :
    Prop where
  coherent : s'.Coherent
  posted : Store.Posted cs s s'
  entered : booked h' = cs ++ booked h

namespace Enters

theorem idle (hs : s.Coherent) (hi : Idle h h') : Enters [] s h s h' :=
  ⟨hs, .refl s, hi.booked_eq⟩

theorem trans (he : Enters cs s h s' h') (he' : Enters cs' s' h' s'' h'') :
    Enters (cs' ++ cs) s h s'' h'' :=
  ⟨he'.coherent, he.posted.trans he'.posted, by
    rw [he'.entered, he.entered, List.append_assoc]⟩

theorem afterIdle (hi : Idle h h') (he : Enters cs s h' s' h'') : Enters cs s h s' h'' :=
  ⟨he.coherent, he.posted, he.entered.trans (congrArg _ hi.booked_eq)⟩

theorem andIdle (he : Enters cs s h s' h') (hi : Idle h' h'') : Enters cs s h s' h'' :=
  he.trans (.idle he.coherent hi)

theorem count {c : Counter} (he : Enters cs s h s' h') (hc : c.tells = false) (hbooks : c.onBooks) :
    Enters (c :: cs) s h s' (⟨.count c, ()⟩ :: h') :=
  ⟨he.coherent, he.posted.cons hc, (booked_cons_count hbooks h').trans (congrArg _ he.entered)⟩

end Enters

/-- A call to the store is entered. -/
theorem Enters.call (hs : s.Coherent) {c : Store.Call} {x : Except StoreError c.Reply}
    (hc : s.perform c = (x, s')) (hfresh : c.Fresh s) (hguard : c.Guarded)
    (hbooked : booked h' = c.entries x ++ booked h) : Enters (c.entries x) s h s' h' := by
  have hout := Store.perform_outcome hs c
  rw [hc] at hout
  exact ⟨hout.coherent hs hfresh, hout.posted hs hfresh hguard, hbooked⟩

/-! ### Whole calls -/

/-- All that a notification may be counted as. -/
def webhookResults : List WebhookResult :=
  [.settled, .duplicate, .rejectedState, .unmatched, .ignored, .rejected, .error]

example (r : WebhookResult) : r ∈ webhookResults := by
  cases r <;> decide

/-- The number of notifications among the entries. -/
def notices (cs : List Counter) : Nat := (webhookResults.map fun r => cs.count (.webhooks r)).sum

theorem notices_append (cs cs' : List Counter) :
    notices (cs ++ cs') = notices cs + notices cs' := by
  simp only [notices, webhookResults, List.count_append, List.map_cons, List.map_nil,
    List.sum_cons, List.sum_nil]
  omega

/-- What a call from the outside did to store and books; it brought `n` notifications. -/
structure Entered (n : Nat) (s s' : Store) (h : List Turn) : Prop where
  coherent : s'.Coherent
  posted : Store.Posted (booked h) s s'
  settled : (booked h).count (.payments .paid) = (booked h).count (.webhooks .settled)
  notified : notices (booked h) = n

theorem Entered.trans {n n' : Nat} (he : Entered n s s' h) (he' : Entered n' s' s'' h') :
    Entered (n' + n) s s'' (h' ++ h) := by
  constructor
  case coherent => exact he'.coherent
  case posted =>
    rw [booked_append]
    exact he.posted.trans he'.posted
  case settled =>
    rw [booked_append, List.count_append, List.count_append, he'.settled, he.settled]
  case notified => rw [booked_append, notices_append, he'.notified, he.notified]

/-- The order of rows is not entered. -/
theorem Entered.reordered {n : Nat} (he : Entered n s s' h) (hsame : s'.SameRows s'') :
    Entered n s s'' h :=
  ⟨hsame.coherent he.coherent, he.posted.trans (.of_sameRows hsame), he.settled, he.notified⟩

/-- Entries that come of settling payments. -/
def Counter.ofSettling : Counter → Bool
  | .payments .paid | .webhooks _ => true
  | _ => false

/-- A call that has nothing to do with settling. -/
theorem Entered.of_enters (he : Enters cs s [] s' h) (hcs : ∀ c ∈ cs, c.ofSettling = false) :
    Entered 0 s s' h := by
  have hbooked : booked h = cs := he.entered.trans (List.append_nil cs)
  have hnone : ∀ {c : Counter}, c.ofSettling → cs.count c = 0 := by
    intro c hc
    refine List.count_eq_zero_of_not_mem fun hm => ?_
    rw [hcs c hm] at hc
    cases hc
  constructor
  case coherent => exact he.coherent
  case posted =>
    rw [hbooked]
    exact he.posted
  case settled =>
    rw [hbooked, hnone rfl, hnone rfl]
  case notified =>
    have hwebhook : ∀ r, cs.count (.webhooks r) = 0 := fun _ => hnone rfl
    simp [hbooked, notices, webhookResults, hwebhook]

theorem Entered.of_entry {c : Counter} (he : Enters [c] s [] s' h) (hc : c.ofSettling = false) :
    Entered 0 s s' h := by
  refine .of_enters he fun c' hc' => ?_
  cases List.mem_singleton.1 hc'
  exact hc

/-- Nothing was entered. -/
theorem Entered.of_kept (hs : s.Coherent) (hbooked : booked h = []) : Entered 0 s s h := by
  have hkept : Enters [] s [] s h := ⟨hs, .refl s, hbooked⟩
  exact .of_enters hkept nofun

/-- A call to the store that is not counted. -/
theorem Entered.of_call (hs : s.Coherent) {c : Store.Call} {x : Except StoreError c.Reply}
    (hc : s.perform c = (x, s')) (hposts : c.posts = []) (hfresh : c.Fresh s) (hguard : c.Guarded)
    (hbooked : booked h = []) : Entered 0 s s' (.call c x :: h) := by
  have hentries : c.entries x = [] := by rw [Store.Call.entries, hposts, ite_self]
  have hcalled : Enters (c.entries x) s [] s' (.call c x :: h) :=
    .call hs hc hfresh hguard (by rw [hentries]; exact hbooked)
  refine .of_enters hcalled ?_
  intro kind hkind
  rw [hentries] at hkind
  cases hkind

/-! ### Names -/

/-- The name is that of a record. -/
def Store.uses (s : Store) : Name → Bool
  | .ticket k => (s.tickets.find? k).isSome
  | .payment id => (s.payments.find? id).isSome

/-- The names that are made up in the turns are those of no record. -/
def NewNames (s : Store) (h : List Turn) : Prop := ∀ t ∈ h, ∀ n ∈ t.name?, s.uses n = false

instance (s : Store) (h : List Turn) : Decidable (NewNames s h) :=
  inferInstanceAs (Decidable (∀ t ∈ h, ∀ n ∈ t.name?, s.uses n = false))

theorem NewNames.unused (hnew : NewNames s h) {n : NewPurchase} {id : PaymentId}
    (hticket : ⟨.freshTicket, n.ticketId⟩ ∈ h) (hpayment : ⟨.freshPayment, id⟩ ∈ h) :
    s.Unused n id := by
  constructor
  case ticket =>
    exact Option.not_isSome_iff_eq_none.1 (ne_true_of_eq_false (hnew _ hticket _ rfl))
  case payment =>
    exact fun _ => Option.not_isSome_iff_eq_none.1 (ne_true_of_eq_false (hnew _ hpayment _ rfl))

namespace Service

open Lifecycle

variable {setup : Setup} {k : TicketId} {target : PaymentStatus} {action : LifecycleAction}

/-! ### Changes of status -/

/-- The entries of an action that closes a payment, by what it came to. -/
def closingEntries (target : PaymentStatus) : Except StoreError Lifecycle.Outcome → List Counter
  | .ok o => if o.persisted then [.payments target] else []
  | .error _ => []

theorem Closing.enters (hs : s.Coherent) (hopen : target ≠ .pending)
    {x : Except StoreError Lifecycle.Outcome} (hc : Closing k target s (booked h) x s' h') :
    Enters (closingEntries target x) s h s' h' := by
  cases hc with
  | kept hkept hbooked =>
    have hentries : closingEntries target x = [] := by
      cases x with
      | ok o => rw [closingEntries, hkept o rfl]; rfl
      | error e => rfl
    rw [hentries]
    exact ⟨hs, .refl s, hbooked⟩
  | closed hperformed hpersisted hbooked =>
    rw [closingEntries, hpersisted]
    exact .call hs hperformed trivial ⟨rfl, hopen⟩ hbooked

theorem apply_enters (hs : s.Coherent) (setup : Setup) (k : TicketId) (action : LifecycleAction)
    (hopen : action.target ≠ .pending) (w : Surroundings) (h : List Turn) :
    Ends w (fun x s' h' => Enters (closingEntries action.target x) s h s' h')
      (apply setup k action).run s h :=
  (apply_closing hs hopen setup w h).mono fun _ _ _ _ => Closing.enters hs hopen

/-- As many payments expire as are counted. -/
theorem expireAll_enters (hs : s.Coherent) (setup : Setup) (now : Time.Instant) (ps : List Payment)
    (w : Surroundings) (h : List Turn) :
    Ends w (fun n s' h' => Enters (List.replicate n (.payments .expired)) s h s' h')
      (expireAll setup now ps) s h := by
  induction ps generalizing s h with
  | nil => exact ⟨_, _, _, rfl, .idle hs (.refl h)⟩
  | cons p rest ih =>
    obtain ⟨x, s₁, h₁, hrun, hx⟩ :=
      apply_enters hs setup p.ticketId (.invoiceExpired now) nofun w h
    obtain ⟨n, s₂, h₂, hrest, hn⟩ := ih hx.coherent h₁
    have hboth := hx.trans hn
    refine .seq hrun (.seq hrest ⟨_, _, _, rfl, ?_⟩)
    cases x with
    | error e =>
      rw [closingEntries, List.append_nil] at hboth
      rw [Nat.zero_add]
      exact hboth
    | ok o =>
      dsimp only [closingEntries, LifecycleAction.target] at hboth ⊢
      split
      · next hp =>
        rw [if_pos hp, ← List.replicate_succ'] at hboth
        rw [Nat.add_comm]
        exact hboth
      · next hp =>
        rw [if_neg hp, List.append_nil] at hboth
        rw [Nat.zero_add]
        exact hboth

theorem sweep_enters (hs : s.Coherent) (setup : Setup) (w : Surroundings) (h : List Turn) :
    Ends w (fun _ s' h' => ∃ n, Enters (List.replicate n (.payments .expired)) s h s' h')
      (sweep setup).run s h := by
  have hlisted : ∀ now, s.perform (.expiredPending now) = (.ok (s.expiredPending now), s) :=
    fun _ => rfl
  unfold sweep
  refine .ok (alone_lift rfl) (.ok (alone_store (hlisted _)) ?_)
  generalize Request.answer w s h .now = now
  have hi : Idle h (.call (.expiredPending now) (.ok (s.expiredPending now)) :: ⟨.now, now⟩ :: h) :=
    ((.refl h : Idle h h).cons rfl).cons rfl
  obtain ⟨n, s', h', hrun, hn⟩ := expireAll_enters hs setup now (s.expiredPending now) w
    (.call (.expiredPending now) (.ok (s.expiredPending now)) :: ⟨.now, now⟩ :: h)
  exact .seq hrun ⟨_, _, _, rfl, n, hn.afterIdle hi⟩

/-! ### Notifications -/

/-- The entries of a notification that is not yet counted. -/
def settlingEntries : Except ReconcileError ReconcileOutcome → List Counter
  | .ok (.settled _) => [.payments .paid]
  | _ => []

theorem notifyCounterparty_gives (setup : Setup) (p : Payment) (paidAt : Option Time.Instant) :
    (notifyCounterparty setup p paidAt).Gives (fun r => r.isIdle) fun _ => True := by
  unfold notifyCounterparty
  cases p.counterpartyCallback with
  | none => trivial
  | some url =>
    cases paidAt with
    | none => exact ⟨rfl, fun _ => ⟨rfl, fun _ => trivial⟩⟩
    | some t => exact ⟨rfl, fun _ => trivial⟩

theorem settle_enters (hs : s.Coherent) (setup : Setup) (p : Payment) (w : Surroundings)
    (h : List Turn) :
    Ends w (fun x s' h' => Enters (settlingEntries x) s h s' h') (settle setup p).run s h := by
  have hi : Idle h (⟨.now, w h .now⟩ :: h) := (Since.refl h).cons rfl
  obtain ⟨x, s', h', hrun, hx⟩ := apply_enters hs setup p.ticketId
    (.settlementMatched (w h .now)) nofun w (⟨.now, w h .now⟩ :: h)
  have hx := hx.afterIdle hi
  unfold settle
  refine .ok (alone_lift rfl) ?_
  cases x with
  | error e => exact .error (alone_within hrun _) hx
  | ok o =>
    refine .ok (alone_within hrun _) ?_
    dsimp only [closingEntries] at hx ⊢
    split
    · next hp =>
      rw [if_pos hp] at hx
      obtain ⟨_, h'', hnotify, -, hi'⟩ :=
        (notifyCounterparty_gives setup p o.state.paidAt).keeps w s' h'
      exact .ok (alone_lift hnotify) ⟨_, _, _, rfl, hx.andIdle hi'⟩
    · next hp =>
      rw [if_neg hp] at hx
      split <;> exact ⟨_, _, _, rfl, hx⟩

/-- The entries of a notification that is not counted yet, unless it broke off. -/
theorem reconcile_enters (hs : s.Coherent) (setup : Setup) (w : Surroundings) (body : Bytes)
    (signature : Option String) :
    Comes w (fun x s' h' => ∀ y, x = some y → Enters (settlingEntries y) s [] s' h')
      (reconcile setup body signature).run s [] := by
  have hstop : ∀ (x : Option (Except ReconcileError ReconcileOutcome)) h', Idle [] h' →
      (∀ o, x ≠ some (.ok o)) → ∀ y, x = some y → Enters (settlingEntries y) s [] s h' := by
    rintro x h' hi hx y rfl
    cases y with
    | error e => exact .idle hs hi
    | ok o => exact absurd rfl (hx o)
  unfold reconcile
  refine .idle hs (.refl []) (only_orThrow _ _).follows hstop fun text h₁ hi₁ _ => ?_
  dsimp only
  split
  · exact hstop _ h₁ hi₁ nofun
  · refine .idle hs hi₁ (only_orThrow _ _).follows hstop fun event h₂ hi₂ _ => ?_
    have hi := hi₁.trans hi₂
    unfold reconcileEvent
    split
    · rintro y ⟨⟩
      exact .idle hs hi
    · have hfetch : Light (within ReconcileError.processor
          (ExceptT.mk (request (.fetchSettlement event.entityId)))) :=
        Only.within fun _ => ⟨rfl, fun _ _ => trivial⟩
      refine .idle hs hi hfetch.idle.follows hstop fun entity h₃ hi₃ _ => ?_
      have hi := hi.trans hi₃
      refine .idle hs hi (settledInvoice_light entity).idle.follows hstop
        fun encoded h₄ hi₄ _ => ?_
      have hi := hi.trans hi₄
      refine .call (c := .paymentByInvoice encoded) rfl nofun fun found hfound => ?_
      have hi₅ : Idle [] (.call (.paymentByInvoice encoded)
        (s.perform (.paymentByInvoice encoded)).1 :: h₄) := hi.cons rfl
      cases found with
      | none =>
        rintro y ⟨⟩
        exact .idle hs hi₅
      | some p =>
        obtain ⟨x, s', h', hrun, hx⟩ := settle_enters hs setup p w
          (.call (.paymentByInvoice encoded) (s.perform (.paymentByInvoice encoded)).1 :: h₄)
        refine comes_of_alone hrun fun y hy => ?_
        cases hy
        exact hx.afterIdle hi₅

theorem onNotification_enters (hs : s.Coherent) (setup : Setup) (w : Surroundings) (body : Bytes)
    (signature : Option String) :
    Ends w (fun x s' h' => Enters (.webhooks (.of x) :: settlingEntries x) s [] s' h')
      (onNotification setup body signature).run s [] := by
  obtain ⟨x, s', h', hrun, -⟩ := reconcile_alone hs setup w body signature
  have hx := reconcile_enters hs setup w body signature
  rw [Comes, hrun] at hx
  exact .seq hrun ⟨_, _, _, rfl, (hx x rfl).count rfl rfl⟩

/-! ### Purchases and retries -/

theorem purchase_entered (hs : s.Coherent) (setup : Setup) (event : EventId) (user : UserId)
    (address : Option String) (w : Surroundings) :
    Comes w (fun _ s' h' => NewNames s h' → Entered 0 s s' h')
      (purchase setup event user address).run s [] := by
  refine Comes.bind (tryPurchase_comes hs setup event user address w) ?_ ?_
  · intro x s' h' hsale hnew
    cases hsale with
    | refused hrefused hbooked =>
      cases x with
      | ok receipt => exact absurd rfl (hrefused receipt)
      | error e =>
        have hkept : Enters [] s [] s h' := ⟨hs, .refl s, hbooked⟩
        exact .of_entry (hkept.count (c := .purchases .rejected) rfl rfl) rfl
    | @sold n id y receipt _ _ hcreated hticket hpayment hpriced hbooked =>
      have hkind : (if receipt.paymentRequired then .priced else .free : PurchaseKind) =
          n.kind := by
        rw [hpriced, NewPurchase.kind]
      have hunused : s.Unused n id :=
        NewNames.unused hnew (.tail _ hticket) (.tail _ hpayment)
      have hsold : Enters [.purchases n.kind] s [] s' (⟨.count (.purchases n.kind), ()⟩ :: h') :=
        .call (c := .createPurchase n id) hs hcreated hunused trivial
          ((booked_cons_count rfl h').trans (congrArg _ hbooked))
      rw [← hkind] at hsold
      exact .of_entry hsold rfl
  · intro s' h' hsale _
    cases hsale with
    | refused _ hbooked => exact .of_kept hs hbooked

theorem retry_entered (hs : s.Coherent) (setup : Setup) (payment : PaymentId) (w : Surroundings) :
    Comes w (fun _ s' h' => Entered 0 s s' h') (retry setup payment).run s [] := by
  refine (retry_comes hs setup payment w).mono fun x s' h' hreopening => ?_
  cases hreopening with
  | refused _ hbooked => exact .of_kept hs hbooked
  | @reopened id i p receipt _ _ hreissued hbooked =>
    have hreopened : Enters [.payments .pending] s [] s' h' :=
      .call (c := .reissue id i) hs hreissued trivial trivial hbooked
    exact .of_entry hreopened rfl

/-! ### Other calls -/

theorem route_entered (hs : s.Coherent) (setup : Setup) (c : DispatchContext) (w : Surroundings) :
    Comes w (fun _ s' h' => Entered 0 s s' h') (route setup c) s [] := by
  obtain ⟨x, s', h', hrun, hx⟩ := apply_enters hs setup c.ticketId (.dispatch c) nofun w []
  have hcs : ∀ a ∈ closingEntries .failed x, a.ofSettling = false := by
    intro a ha
    unfold closingEntries at ha
    repeat' split at ha
    · cases List.mem_singleton.1 ha
      rfl
    all_goals cases ha
  rw [Comes, route, alone_bind hrun]
  cases x <;> exact .of_enters hx hcs

theorem sweep_entered (hs : s.Coherent) (setup : Setup) (w : Surroundings) :
    Comes w (fun _ s' h' => Entered 0 s s' h') (sweep setup).run s [] := by
  obtain ⟨x, s', h', hrun, n, hn⟩ := sweep_enters hs setup w []
  refine comes_of_alone hrun (.of_enters hn fun c hc => ?_)
  cases List.eq_of_mem_replicate hc
  rfl

theorem notification_entered (hs : s.Coherent) (setup : Setup) (body : Bytes)
    (signature : Option String) (w : Surroundings) :
    Comes w (fun _ s' h' => Entered 1 s s' h') (onNotification setup body signature).run s [] := by
  obtain ⟨x, s', h', hrun, hx⟩ := onNotification_enters hs setup w body signature
  have hbooked : booked h' = .webhooks (.of x) :: settlingEntries x :=
    hx.entered.trans (List.append_nil _)
  refine comes_of_alone hrun ⟨hx.coherent, hbooked ▸ hx.posted, ?_, ?_⟩
  -- a notification is counted once, and as settled if it was
  all_goals
    rw [hbooked]
    cases x with
    | error e => cases e <;> rfl
    | ok o => cases o <;> rfl

/-- What is idle enters nothing. -/
theorem idle_entered {ε α : Type} {p : ExceptT ε Program α} (hs : s.Coherent)
    (hp : Only (fun r => r.isIdle) p) (w : Surroundings) :
    Comes w (fun _ s' h' => Entered 0 s s' h') p.run s [] := by
  refine (Conforms.comes (hp []) hs w).mono fun x s' h' hx => ?_
  obtain ⟨rfl, hi, -⟩ := hx
  exact .of_kept hs hi.booked_eq

/-- The callback that comes with a request is recorded, and nothing else. -/
theorem payRequest_entered (hs : s.Coherent) (setup : Setup) (ticket : TicketId)
    (body : Protocol.PayRequest) (w : Surroundings) :
    Comes w (fun _ s' h' => Entered 0 s s' h') (payRequest setup ticket body).run s [] := by
  refine (payRequest_comes hs setup ticket body w).mono fun x s' h' hquoting => ?_
  cases hquoting with
  | kept hbooked => exact .of_kept hs hbooked
  | recorded hperformed hbooked => exact .of_call hs hperformed rfl trivial trivial hbooked

end Service

end BoxOffice
