import BoxOffice.Proofs.Office.Basic
import BoxOffice.Proofs.Service.Chain

/-! A routing comes to rest, however the wallet and the provider behave. What is asked of them lies
on one path: the wallet is told to pay, then the provider is asked where it takes requests, then a
request is pushed there. Where the path is left depends on their answers alone. -/

namespace BoxOffice

open Program Lifecycle

/-! ### What is done in some turns -/

/-- What others than the store are asked, in order. -/
def outward (turns : List Turn) : List Request := (turns.map (·.request)).filter (!·.isInner)

/-- Something that is done in a routing, with the answer of the wallet or the provider. -/
inductive Deed where
  | pays (credential : WalletCredential) (invoice : String)
      (answer : Except WalletError WalletReceipt)
  | discovers (domain : String) (answer : Except ProviderError ProviderConfiguration)
  | pushes (endpoint : String) (request : PaymentRequest) (answer : Except ProviderError Unit)
  /-- The store is asked for a change of status. -/
  | changes (ticketId : TicketId) (transition : Transition)

def Turn.deed? : Turn → Option Deed
  | ⟨.payInvoice credential invoice, x⟩ => some (.pays credential invoice x)
  | ⟨.discover domain, x⟩ => some (.discovers domain x)
  | ⟨.push endpoint request, x⟩ => some (.pushes endpoint request x)
  | ⟨.store (.applyTransition k tr), _⟩ => some (.changes k tr)
  | _ => none

def deeds (turns : List Turn) : List Deed := turns.filterMap (·.deed?)

theorem outward_append (turns turns' : List Turn) :
    outward (turns ++ turns') = outward turns ++ outward turns' := by
  simp only [outward, List.map_append, List.filter_append]

theorem deeds_append (turns turns' : List Turn) :
    deeds (turns ++ turns') = deeds turns ++ deeds turns' :=
  List.filterMap_append

/-- Asides are addressed to nobody outside. -/
theorem outward_gist (turns : List Turn) : outward (gist turns) = outward turns := by
  have haside : ∀ r : Request, (!r.isInner && !r.isAside) = !r.isInner := by
    intro r
    cases r <;> simp [Request.isInner, Request.isAside]
  simp only [outward, gist, List.filter_map, List.filter_filter, Function.comp_def, haside]

/-- Nothing is done by asides. -/
theorem deeds_gist (turns : List Turn) : deeds (gist turns) = deeds turns := by
  have haside : ∀ t : Turn, (if !t.request.isAside then t.deed? else none) = t.deed? := by
    rintro ⟨r, x⟩
    cases r with
    | store c => cases c <;> rfl
    | _ => rfl
  simp only [deeds, gist, List.filterMap_filter, haside]

namespace Service

variable {setup : Setup} {s : Lifecycle} {action : LifecycleAction} {c : DispatchContext}
  {k : TicketId} {turns : List Turn} {steps : List (Setting × LifecycleAction)}
  {asked : List Request} {done : List Deed} {taken : List LifecycleAction}

/-! ### After the last errand -/

theorem Asks.outward_eq {before : PaymentStatus} (h : Asks s before turns) :
    outward turns = [] := by
  cases h <;> rfl

theorem Asks.deeds_eq {before : PaymentStatus} (h : Asks s before turns)
    (hchange : s.paymentStatus ≠ before) :
    ∃ time, deeds turns = [.changes s.ticketId ⟨before, s.paymentStatus, time⟩] := by
  cases h with
  | nothing same => exact absurd same hchange
  | settled => exact ⟨_, rfl⟩
  | closed => exact ⟨_, rfl⟩

/-- Nothing is done after an action that changes nothing. -/
theorem Chain.of_kept (h : Chain setup s action turns steps)
    (hkept : ∀ env, reduce env s action = (s, [])) :
    outward turns = [] ∧ deeds turns = [] ∧ steps.map (·.2) = [action] := by
  cases h with
  | last decided stored =>
    cases (hkept _).symm.trans decided
    cases stored with
    | nothing => exact ⟨rfl, rfl, rfl⟩
    | settled change => exact absurd rfl change
    | closed change => exact absurd rfl change
  | more decided => cases (hkept _).symm.trans decided

/-- A push that failed makes a pending payment fail. -/
theorem Chain.of_pushFailed {reason : String} (h : Chain setup s (.pushFailed reason) turns steps)
    (hs : s.paymentStatus = .pending) : outward turns = [] ∧
      (∃ time, deeds turns = [.changes s.ticketId ⟨.pending, .failed, time⟩]) ∧
      steps.map (·.2) = [.pushFailed reason] := by
  have hreduce : ∀ env, reduce env s (.pushFailed reason) =
      ({ s.setStatus .failed with stage := .failed, failureReason := some reason }, []) :=
    fun env => if_neg (not_not_intro hs)
  cases h with
  | last decided stored =>
    cases (hreduce _).symm.trans decided
    rw [hs] at stored
    exact ⟨stored.outward_eq, stored.deeds_eq (by simp [setStatus]), rfl⟩
  | more decided => cases (hreduce _).symm.trans decided

/-! ### From the provider on -/

/-- The discovery failed, the provider shares no version or names no endpoint, or the push
failed. -/
def PushFails (setup : Setup) (c : DispatchContext) (done : List Deed) : Prop :=
  ∃ x, .discovers c.buyer.domain x ∈ done ∧ ((∃ e, x = .error e) ∨
    (∃ configuration, x = .ok configuration ∧
      (Protocol.negotiate setup.versions configuration.versions = none ∨
        configuration.requestEndpoint = none)) ∨
    ∃ endpoint e, .pushes endpoint (paymentRequest setup.receiver c) (.error e) ∈ done)

/-- The request is pushed where the provider says, if it can be, and what fails makes the payment
fail. -/
structure Heeds (setup : Setup) (c : DispatchContext) (k : TicketId) (done : List Deed)
    (taken : List LifecycleAction) : Prop where
  pushed : ∀ endpoint, (∃ x, .pushes endpoint (paymentRequest setup.receiver c) x ∈ done) ↔
    ∃ configuration, .discovers c.buyer.domain (.ok configuration) ∈ done ∧
      (Protocol.negotiate setup.versions configuration.versions).isSome ∧
      configuration.requestEndpoint = some endpoint
  failed : (∃ reason, .pushFailed reason ∈ taken) ↔ PushFails setup c done
  stored : (∃ reason, .pushFailed reason ∈ taken) ↔
    ∃ time, .changes k ⟨.pending, .failed, time⟩ ∈ done

theorem Heeds.pays (h : Heeds setup c k done taken) (credential : WalletCredential)
    (invoice : String) (x : Except WalletError WalletReceipt) :
    Heeds setup c k (.pays credential invoice x :: done) taken := by
  constructor
  case pushed => simpa using h.pushed
  case failed => simpa [PushFails] using h.failed
  case stored => simpa using h.stored

theorem Heeds.takes (h : Heeds setup c k done taken) (ha : ∀ reason, action ≠ .pushFailed reason) :
    Heeds setup c k done (action :: taken) := by
  have htaken : (∃ reason, .pushFailed reason ∈ action :: taken) ↔
      ∃ reason, .pushFailed reason ∈ taken := by
    simp [fun reason => (ha reason).symm]
  exact ⟨h.pushed, htaken.trans h.failed, htaken.trans h.stored⟩

/-- What is done from the discovery on. -/
structure Pushing (setup : Setup) (c : DispatchContext) (k : TicketId) (asked : List Request)
    (done : List Deed) (taken : List LifecycleAction) : Prop where
  path : ∃ endpoint, asked.Sublist
    [.discover c.buyer.domain, .push endpoint (paymentRequest setup.receiver c)]
  discovered : ∃ x, .discovers c.buyer.domain x ∈ done
  unpaid : ∀ credential invoice x, .pays credential invoice x ∉ done
  heeds : Heeds setup c k done taken

/-- Nothing is pushed if the provider does not say where, in a version that is shared. -/
theorem pushing_unaddressed {x : Except ProviderError ProviderConfiguration}
    (hx : ∀ configuration, .ok configuration = x →
      Protocol.negotiate setup.versions configuration.versions = none ∨
        configuration.requestEndpoint = none)
    (reason : String) (time : Time.Instant) :
    Pushing setup c k [.discover c.buyer.domain]
      [.discovers c.buyer.domain x, .changes k ⟨.pending, .failed, time⟩]
      [.pushFailed reason] := by
  have hnone : ∀ endpoint configuration, .ok configuration = x →
      (Protocol.negotiate setup.versions configuration.versions).isSome →
      configuration.requestEndpoint ≠ some endpoint := by
    intro endpoint configuration hok
    rcases hx configuration hok with hshared | haddress
    · simp [hshared]
    · simp [haddress]
  have hfails : PushFails setup c
      [.discovers c.buyer.domain x, .changes k ⟨.pending, .failed, time⟩] := by
    cases x <;> simp_all [PushFails]
  exact ⟨⟨"", by simp⟩, by simp, by simp, ⟨by simpa using hnone, by simp [hfails], by simp⟩⟩

section Addressed

variable {configuration : ProviderConfiguration} {version : UInt32} {endpoint : String}
  (shared : Protocol.negotiate setup.versions configuration.versions = some version)
  (address : configuration.requestEndpoint = some endpoint)

include shared address

theorem pushing_refused (e : ProviderError) (reason : String) (time : Time.Instant) :
    Pushing setup c k
      [.discover c.buyer.domain, .push endpoint (paymentRequest setup.receiver c)]
      [.discovers c.buyer.domain (.ok configuration),
        .pushes endpoint (paymentRequest setup.receiver c) (.error e),
        .changes k ⟨.pending, .failed, time⟩] [.pushFailed reason] := by
  have hpushed : ∀ endpoint', endpoint' = endpoint ↔ endpoint = endpoint' := fun _ => eq_comm
  exact ⟨⟨endpoint, .refl _⟩, by simp, by simp,
    ⟨by simpa [shared, address] using hpushed, by simp [PushFails], by simp⟩⟩

theorem pushing_delivered :
    Pushing setup c k
      [.discover c.buyer.domain, .push endpoint (paymentRequest setup.receiver c)]
      [.discovers c.buyer.domain (.ok configuration),
        .pushes endpoint (paymentRequest setup.receiver c) (.ok ())] [.pushDelivered] := by
  have hpushed : ∀ endpoint', endpoint' = endpoint ↔ endpoint = endpoint' := fun _ => eq_comm
  exact ⟨⟨endpoint, .refl _⟩, by simp, by simp,
    ⟨by simpa [shared, address] using hpushed, by simp [PushFails, shared, address], by simp⟩⟩

end Addressed

/-- A push that is asked for is done, and the payment fails if it does. -/
theorem Chain.pushing {now : Time.Instant} {errands turns : List Turn} {report : LifecycleAction}
    (h : Chain setup s report turns steps) (hs : s.paymentStatus = .pending)
    (hgoes : (pushErrand (setting setup now) c).Goes errands report) :
    Pushing setup c s.ticketId (outward (errands ++ turns)) (deeds (errands ++ turns))
      (steps.map (·.2)) := by
  have hreport : report = .pushDelivered ∨ ∃ reason, report = .pushFailed reason := by
    cases hgoes <;> simp
  rw [outward_append, deeds_append]
  rcases hreport with rfl | ⟨reason, rfl⟩
  · obtain ⟨houtward, hdeeds, htaken⟩ := h.of_kept fun _ => rfl
    rw [houtward, hdeeds, htaken]
    cases hgoes with
    | delivered shared address => exact pushing_delivered shared address
  · obtain ⟨houtward, ⟨time, hdeeds⟩, htaken⟩ := h.of_pushFailed hs
    rw [houtward, hdeeds, htaken]
    cases hgoes with
    | undiscovered => exact pushing_unaddressed (by simp) _ time
    | unshared shared => exact pushing_unaddressed (by simp_all) _ time
    | unaddressed _ address => exact pushing_unaddressed (by simp_all) _ time
    | refused shared address e => exact pushing_refused shared address e _ time

/-- After a wallet that failed. -/
theorem Chain.fellBack {reason : String} (h : Chain setup s (.walletFailed reason) turns steps)
    (hpending : s.paymentStatus = .pending) (hrouting : s.stage = .walletAttempted)
    (hcontext : s.context = some c) :
    Pushing setup c s.ticketId (outward turns) (deeds turns) (steps.map (·.2)) := by
  have hreduce : ∀ env, reduce env s (.walletFailed reason) =
      ({ s with stage := .requestPushed, lastError := some reason },
        [.future (pushErrand env c)]) := by
    intro env
    simp [reduce, hpending, hrouting, hcontext]
  cases h with
  | last decided => cases (hreduce _).symm.trans decided
  | more decided done rest =>
    cases (hreduce _).symm.trans decided
    have hpushing := rest.pushing hpending done
    exact { hpushing with heeds := hpushing.heeds.takes (by simp) }

/-! ### Any action -/

/-- What an action on a lifecycle is routed by. -/
def routedBy (s : Lifecycle) : LifecycleAction → Option DispatchContext
  | .dispatch c => some c
  | _ => s.context

/-- Others are asked along one path, at most once each. -/
structure OnPath (setup : Setup) (c : DispatchContext) (asked : List Request) (done : List Deed) :
    Prop where
  path : ∃ endpoint, asked.Sublist (c.credential.toList.map (.payInvoice · c.invoice) ++
    [.discover c.buyer.domain, .push endpoint (paymentRequest setup.receiver c)])
  address : ∀ endpoint x, .pushes endpoint (paymentRequest setup.receiver c) x ∈ done →
    ∃ configuration, .discovers c.buyer.domain (.ok configuration) ∈ done ∧
      configuration.requestEndpoint = some endpoint

/-- How a payment is routed that was not routed before. -/
structure Dispatched (setup : Setup) (c : DispatchContext) (k : TicketId) (now : Time.Instant)
    (asked : List Request) (done : List Deed) (taken : List LifecycleAction) : Prop where
  wallet : ∀ credential, c.credential.filter (·.isUsable now) = some credential →
    asked.head? = some (.payInvoice credential c.invoice)
  unusable : c.credential.filter (·.isUsable now) = none →
    ∀ credential invoice, .payInvoice credential invoice ∉ asked
  paid : ∀ credential invoice receipt, .pays credential invoice (.ok receipt) ∈ done →
    asked = [.payInvoice credential invoice]
  fellBack : c.credential.filter (·.isUsable now) = none ∨
      (∃ credential invoice e, .pays credential invoice (.error e) ∈ done) →
    ∃ x, .discovers c.buyer.domain x ∈ done
  heeds : Heeds setup c k done taken

theorem Pushing.onPath (h : Pushing setup c k asked done taken) : OnPath setup c asked done := by
  obtain ⟨endpoint, hpath⟩ := h.path
  constructor
  case path => exact ⟨endpoint, hpath.trans (List.sublist_append_right ..)⟩
  case address =>
    intro endpoint x hpushes
    obtain ⟨configuration, hdiscovered, -, haddress⟩ := (h.heeds.pushed endpoint).1 ⟨x, hpushes⟩
    exact ⟨configuration, hdiscovered, haddress⟩

/-- The wallet is told before. -/
theorem Pushing.onPath_pays (h : Pushing setup c k asked done taken)
    {credential : WalletCredential} (hcredential : c.credential = some credential)
    (x : Except WalletError WalletReceipt) :
    OnPath setup c (.payInvoice credential c.invoice :: asked)
      (.pays credential c.invoice x :: done) := by
  obtain ⟨endpoint, hpath⟩ := h.path
  constructor
  case path => exact ⟨endpoint, by simpa [hcredential] using hpath⟩
  case address =>
    intro endpoint x hpushes
    have haddress := h.onPath.address endpoint x (by simpa using hpushes)
    simpa using haddress

theorem onPath_paid {credential : WalletCredential} (hcredential : c.credential = some credential)
    (x : Except WalletError WalletReceipt) :
    OnPath setup c [.payInvoice credential c.invoice] [.pays credential c.invoice x] := by
  constructor
  case path => exact ⟨"", by simp [hcredential]⟩
  case address => simp

theorem credential_of_usable {now : Time.Instant} {credential : WalletCredential}
    (h : c.credential.filter (·.isUsable now) = some credential) :
    c.credential = some credential :=
  (Option.filter_eq_some_iff.1 h).1

theorem Chain.onPath (h : Chain setup s action turns steps) :
    outward turns = [] ∨
      ∃ c, routedBy s action = some c ∧ OnPath setup c (outward turns) (deeds turns) := by
  cases h with
  | last _ stored => exact .inl stored.outward_eq
  | more decided done rest =>
    obtain ⟨hpending, hsends⟩ := sends_of_reduce decided
    cases hsends with
    | @wallet c credential fresh usable =>
      have hcredential := credential_of_usable usable
      refine .inr ⟨c, rfl, ?_⟩
      rw [outward_append, deeds_append]
      cases done with
      | paid receipt =>
        obtain ⟨houtward, hdeeds, -⟩ := rest.of_kept fun _ => rfl
        rw [houtward, hdeeds]
        exact onPath_paid hcredential (.ok receipt)
      | unpaid e =>
        have hpushing := rest.fellBack hpending rfl rfl
        exact hpushing.onPath_pays hcredential (.error e)
    | push fresh unusable =>
      have hpushing := rest.pushing hpending done
      exact .inr ⟨_, rfl, hpushing.onPath⟩
    | fallBack routing context =>
      have hpushing := rest.pushing hpending done
      exact .inr ⟨_, context, hpushing.onPath⟩

theorem Pushing.dispatched {now : Time.Instant} (h : Pushing setup c k asked done taken)
    (hunusable : c.credential.filter (·.isUsable now) = none) :
    Dispatched setup c k now asked done (.dispatch c :: taken) := by
  obtain ⟨endpoint, hpath⟩ := h.path
  constructor
  case wallet => simp [hunusable]
  case unusable =>
    intro _ credential invoice hm
    simpa using hpath.subset hm
  case paid =>
    intro credential invoice receipt hm
    exact (h.unpaid _ _ _ hm).elim
  case fellBack => exact fun _ => h.discovered
  case heeds => exact h.heeds.takes (by simp)

theorem Pushing.dispatched_pays {now : Time.Instant} {credential : WalletCredential}
    (h : Pushing setup c k asked done taken)
    (husable : c.credential.filter (·.isUsable now) = some credential) (e : WalletError) :
    Dispatched setup c k now (.payInvoice credential c.invoice :: asked)
      (.pays credential c.invoice (.error e) :: done) (.dispatch c :: taken) := by
  constructor
  case wallet => simp [husable]
  case unusable => simp [husable]
  case paid =>
    intro credential invoice receipt hm
    have hm : .pays credential invoice (.ok receipt) ∈ done := by simpa using hm
    exact (h.unpaid _ _ _ hm).elim
  case fellBack =>
    intro _
    simpa using h.discovered
  case heeds => exact (h.heeds.pays ..).takes (by simp)

theorem dispatched_paid {now : Time.Instant} {credential : WalletCredential}
    (husable : c.credential.filter (·.isUsable now) = some credential) (receipt : WalletReceipt) :
    Dispatched setup c k now [.payInvoice credential c.invoice]
      [.pays credential c.invoice (.ok receipt)] [.dispatch c, .walletPaid] := by
  constructor
  case wallet => simp [husable]
  case unusable => simp [husable]
  case paid =>
    intro _ _ _ hm
    simp only [List.mem_singleton, Deed.pays.injEq] at hm
    rw [hm.1, hm.2.1]
  case fellBack => simp [husable]
  case heeds => exact ⟨by simp, by simp [PushFails], by simp⟩

theorem Chain.dispatched (h : Chain setup s (.dispatch c) turns steps)
    (hpending : s.paymentStatus = .pending) (hfresh : s.stage = .notStarted) :
    ∃ now, turns.head? = some ⟨.now, now⟩ ∧ Dispatched setup c s.ticketId now (outward turns)
      (deeds turns) (steps.map (·.2)) := by
  cases h with
  | last decided =>
    simp only [reduce, hpending, hfresh] at decided
    split at decided
    · simp_all
    · split at decided <;> cases decided
  | @more _ _ _ _ now _ _ _ _ decided done rest =>
    refine ⟨now, rfl, ?_⟩
    obtain ⟨-, hsends⟩ := sends_of_reduce decided
    cases hsends with
    | wallet fresh usable =>
      rw [outward_append, deeds_append]
      cases done with
      | paid receipt =>
        obtain ⟨houtward, hdeeds, htaken⟩ := rest.of_kept fun _ => rfl
        rw [houtward, hdeeds, List.map_cons, htaken]
        exact dispatched_paid usable receipt
      | unpaid e => exact (rest.fellBack hpending rfl rfl).dispatched_pays usable e
    | push fresh unusable => exact (rest.pushing hpending done).dispatched unusable

/-- What is to be told of an action on a lifecycle once nothing is left to do. -/
structure AtRest (setup : Setup) (s : Lifecycle) (action : LifecycleAction) (turns : List Turn)
    (v : Watched) : Prop where
  queue : v.queue = []
  taken : v.taken.length ≤ 3
  path : outward turns = [] ∨
    ∃ c, routedBy s action = some c ∧ OnPath setup c (outward turns) (deeds turns)
  dispatched : s.paymentStatus = .pending → s.stage = .notStarted → ∀ c, action = .dispatch c →
    ∃ now, (gist turns).head? = some ⟨.now, now⟩ ∧ Dispatched setup c s.ticketId now
      (outward turns) (deeds turns) (v.taken.map (·.2))

/-- Whatever the wallet, the provider and the store answer, two actions at most follow from one, and
then nothing is left to do. The wallet is told to pay the invoice once at most, then the provider is
asked once at most where it takes requests, then one request at most is pushed there. Nobody else is
asked. A payment that was not routed before is routed as `Dispatched` says. -/
theorem run_quiesces (setup : Setup) (s : Lifecycle) (action : LifecycleAction) (n : Nat) :
    (run setup s action).run =
        ((watch setup (n + 3) ⟨.ok ⟨s, false⟩, [], [action]⟩).bind fun v => .pure v.result) ∧
      (watch setup (n + 3) ⟨.ok ⟨s, false⟩, [], [action]⟩).Always (AtRest setup s action) := by
  have hlength : chainLength action ≤ 3 := by cases action <;> simp [chainLength]
  have hlength' : chainLength action ≤ n + 3 := Nat.le_trans hlength (Nat.le_add_left 3 n)
  refine ⟨run_eq_watch hlength' s, (watch_chain hlength' _ _).mono ?_⟩
  rintro turns v ⟨hqueue, steps, htaken, hchain⟩
  rw [List.nil_append] at htaken
  subst htaken
  have hpath := hchain.onPath
  rw [outward_gist, deeds_gist] at hpath
  refine ⟨hqueue, Nat.le_trans hchain.length_le hlength, hpath, ?_⟩
  rintro hpending hfresh c rfl
  obtain ⟨now, hnow, hdispatched⟩ := hchain.dispatched hpending hfresh
  rw [outward_gist, deeds_gist] at hdispatched
  exact ⟨now, hnow, hdispatched⟩

/-- The wallet refuses, and the provider does not take the request where it said that it would. -/
theorem run_quiesces_unreachable :
    let w : Surroundings := fun _ => Office.Outside.answer { delivers := false }
    let start : Watched := ⟨.ok ⟨.pending ⟨⟨1⟩⟩, false⟩, [], [.dispatch sampleDispatch]⟩
    ∃ v s turns, (watch Office.sampleSetup 3 start).alone w .empty [] =
        ⟨some v, s, turns.reverse⟩ ∧
      AtRest Office.sampleSetup (.pending ⟨⟨1⟩⟩) (.dispatch sampleDispatch) turns v ∧
      v.taken.length = 3 ∧ (outward turns).length = 3 := by
  intro w start
  obtain ⟨v, s, _, hrun, turns, rfl, hrest⟩ := (run_quiesces Office.sampleSetup
    (.pending ⟨⟨1⟩⟩) (.dispatch sampleDispatch) 0).2.ends w .empty []
  rw [List.append_nil] at hrun
  have htaken : ((watch Office.sampleSetup 3 start).alone w .empty []).result.map
      (·.taken.length) = some 3 := by
    decide +kernel
  have hasked : (outward ((watch Office.sampleSetup 3 start).alone w .empty
      []).turns.reverse).length = 3 := by
    decide +kernel
  have hrun : (watch Office.sampleSetup 3 start).alone w .empty [] =
      ⟨some v, s, turns.reverse⟩ := hrun
  rw [hrun] at htaken hasked
  exact ⟨v, s, turns, hrun, hrest, Option.some.inj htaken, by simpa using hasked⟩

end Service

end BoxOffice
