import BoxOffice.Proofs.Lifecycle.Decisions
import BoxOffice.Proofs.Service.Watching

/-! What follows from an action. A decision that asks for an errand leaves the status as it was, and
the report on the errand is the only action that comes of it; a decision that asks for none is
stored, and nothing comes of it. Less follows from the report than from the action before, so a
chain of actions ends by itself, however the errands go. -/

namespace BoxOffice

open Program

/-! ### Errands and what is reported of them -/

/-- The request only reads the store, or counts. -/
def Request.isAside : Request → Bool
  | .store c => c.reads
  | .count _ => true
  | _ => false

/-- The turns that are not asides. -/
def gist (turns : List Turn) : List Turn := turns.filter (!·.request.isAside)

theorem gist_append (turns turns' : List Turn) :
    gist (turns ++ turns') = gist turns ++ gist turns' :=
  List.filter_append ..

namespace Errand

/-- How an errand may go, and what is reported of it. -/
inductive Goes : Errand → List Turn → LifecycleAction → Prop
  | paid {credential : WalletCredential} {invoice : String} (receipt : WalletReceipt) :
      Goes (.payInvoice credential invoice)
        [⟨.payInvoice credential invoice, .ok receipt⟩] .walletPaid
  | unpaid {credential : WalletCredential} {invoice : String} (e : WalletError) :
      Goes (.payInvoice credential invoice)
        [⟨.payInvoice credential invoice, .error e⟩] (.walletFailed e.message)
  | undiscovered {domain : String} {request : PaymentRequest} {versions : List UInt32}
      (e : ProviderError) :
      Goes (.pushRequest domain request versions)
        [⟨.discover domain, .error e⟩] (.pushFailed e.message)
  | unshared {domain : String} {request : PaymentRequest} {versions : List UInt32}
      {configuration : ProviderConfiguration}
      (shared : Protocol.negotiate versions configuration.versions = none) :
      Goes (.pushRequest domain request versions) [⟨.discover domain, .ok configuration⟩]
        (.pushFailed (ProviderError.unsupportedVersion configuration.versions).message)
  | unaddressed {domain : String} {request : PaymentRequest} {versions : List UInt32}
      {configuration : ProviderConfiguration} {version : UInt32}
      (shared : Protocol.negotiate versions configuration.versions = some version)
      (address : configuration.requestEndpoint = none) :
      Goes (.pushRequest domain request versions) [⟨.discover domain, .ok configuration⟩]
        (.pushFailed (ProviderError.noRequestEndpoint domain).message)
  | refused {domain : String} {request : PaymentRequest} {versions : List UInt32}
      {configuration : ProviderConfiguration} {version : UInt32} {endpoint : String}
      (shared : Protocol.negotiate versions configuration.versions = some version)
      (address : configuration.requestEndpoint = some endpoint) (e : ProviderError) :
      Goes (.pushRequest domain request versions)
        [⟨.discover domain, .ok configuration⟩, ⟨.push endpoint request, .error e⟩]
        (.pushFailed e.message)
  | delivered {domain : String} {request : PaymentRequest} {versions : List UInt32}
      {configuration : ProviderConfiguration} {version : UInt32} {endpoint : String}
      (shared : Protocol.negotiate versions configuration.versions = some version)
      (address : configuration.requestEndpoint = some endpoint) :
      Goes (.pushRequest domain request versions)
        [⟨.discover domain, .ok configuration⟩, ⟨.push endpoint request, .ok ()⟩] .pushDelivered

/-- How many actions may follow from an errand. -/
def chainLength : Errand → Nat
  | .payInvoice _ _ => 2
  | .pushRequest _ _ _ => 1

theorem Goes.chainLength_le {errand : Errand} {turns : List Turn} {report : LifecycleAction}
    (hgoes : errand.Goes turns report) : Lifecycle.chainLength report ≤ errand.chainLength := by
  cases hgoes <;> simp [Lifecycle.chainLength, chainLength]

/-- What is reported of a push. -/
def reported : Except ProviderError Unit → LifecycleAction
  | .ok () => .pushDelivered
  | .error e => .pushFailed e.message

theorem push_goes (domain : String) (request : PaymentRequest) (versions : List UInt32) :
    (push domain request versions).run.Always fun turns x =>
      (pushRequest domain request versions).Goes (gist turns) (reported x) := by
  have hdiscover : (Program.request (.discover domain)).Always fun turns x =>
      turns = [⟨.discover domain, x⟩] := fun x => rfl
  unfold push
  apply Always.andThen hdiscover
  case herror =>
    rintro _ e rfl
    exact .undiscovered e
  case hok =>
    rintro _ configuration rfl
    cases hshared : Protocol.negotiate versions configuration.versions with
    | none => exact Goes.unshared hshared
    | some version =>
      cases haddress : configuration.requestEndpoint with
      | none => exact Goes.unaddressed hshared haddress
      | some endpoint =>
        intro x
        cases x with
        | error e => exact Goes.refused hshared haddress e
        | ok _ => exact Goes.delivered hshared haddress

theorem perform_goes (errand : Errand) :
    errand.perform.Always fun turns report => errand.Goes (gist turns) report := by
  cases errand with
  | payInvoice credential invoice =>
    intro x
    cases x with
    | ok receipt => exact .paid receipt
    | error e => exact .unpaid e
  | pushRequest domain request versions =>
    apply Always.bind (push_goes domain request versions)
    intro turns x hgoes
    cases x <;> simpa only [Always, List.append_nil, reported] using hgoes

end Errand

/-! ### Chains of actions -/

namespace Service

open Lifecycle

/-- What storing a decision asks for: nothing if the status is as before. -/
inductive Asks (s : Lifecycle) (before : PaymentStatus) : List Turn → Prop
  | nothing (same : s.paymentStatus = before) : Asks s before []
  | settled {time : Time.Instant} (change : s.paymentStatus ≠ before)
      (paid : s.paidAt = some time) (x : Except StoreError Bool) :
      Asks s before [.call (.applyTransition s.ticketId ⟨before, s.paymentStatus, time⟩) x]
  | closed {time : Time.Instant} (change : s.paymentStatus ≠ before) (unpaid : s.paidAt = none)
      (x : Except StoreError Bool) :
      Asks s before [⟨.now, time⟩,
        .call (.applyTransition s.ticketId ⟨before, s.paymentStatus, time⟩) x]

theorem persist_asks {s : Lifecycle} {before : PaymentStatus} (hchange : s.paymentStatus ≠ before) :
    (persist s before).run.Always fun turns _ => Asks s before (gist turns) := by
  have htime : (changeTime s).Always fun turns time => ∀ x, Asks s before (gist turns ++
      [.call (.applyTransition s.ticketId ⟨before, s.paymentStatus, time⟩) x]) := by
    unfold changeTime
    split
    · next hpaid => exact fun x => .settled hchange hpaid x
    · next hunpaid => exact fun time x => .closed hchange hunpaid x
  unfold persist
  rw [run_lift_bind]
  apply Always.bind htime
  intro clock time hstores x
  -- whatever is answered, nothing but an aside follows
  have hlast : ∀ asides, gist asides = [] → Asks s before (gist (clock ++
      .call (.applyTransition s.ticketId ⟨before, s.paymentStatus, time⟩) x :: asides)) := by
    intro asides hasides
    rw [List.append_cons, gist_append, gist_append, hasides, List.append_nil]
    exact hstores x
  cases x with
  | error e => exact hlast [] rfl
  | ok stored =>
    cases stored with
    | true => exact fun _ => hlast _ rfl
    | false =>
      intro found
      cases found with
      | error e => exact hlast _ rfl
      | ok p? => cases p? <;> exact hlast _ rfl

theorem storeDecision_asks (s : Lifecycle) (before : PaymentStatus) :
    (storeDecision s before).run.Always fun turns _ => Asks s before (gist turns) := by
  unfold storeDecision
  split
  · next hchange => exact persist_asks hchange
  · next hsame => exact .nothing (Decidable.of_not_not hsame)

/-- What follows from an action on a lifecycle: the turns that it takes, but for asides, and the
actions. Each of them but the first reports on the errand that the one before it asked for. -/
inductive Chain (setup : Setup) :
    Lifecycle → LifecycleAction → List Turn → List (Setting × LifecycleAction) → Prop
  | last {s s' : Lifecycle} {action : LifecycleAction} {now : Time.Instant} {turns : List Turn}
      (decided : reduce (setting setup now) s action = (s', []))
      (stored : Asks s' s.paymentStatus turns) :
      Chain setup s action (⟨.now, now⟩ :: turns)
        [(setting setup now, action)]
  | more {s s' : Lifecycle} {action report : LifecycleAction} {now : Time.Instant} {errand : Errand}
      {turns turns' : List Turn} {taken : List (Setting × LifecycleAction)}
      (decided : reduce (setting setup now) s action = (s', [.future errand]))
      (done : errand.Goes turns report)
      (rest : Chain setup s'.withoutError report turns' taken) :
      Chain setup s action (⟨.now, now⟩ :: turns ++ turns')
        ((setting setup now, action) :: taken)

/-- A decision asks for one errand at most. -/
theorem reduce_errands (env : Setting) (s : Lifecycle) (action : LifecycleAction) :
    ∃ s', reduce env s action = (s', []) ∨
      ∃ errand, reduce env s action = (s', [.future errand]) := by
  have hd := decides env s action
  generalize reduce env s action = decision at hd ⊢
  obtain ⟨s', effects⟩ := decision
  refine ⟨s', ?_⟩
  cases hd with
  | wallet => exact .inr ⟨_, rfl⟩
  | push => exact .inr ⟨_, rfl⟩
  | fallBack => exact .inr ⟨_, rfl⟩
  | _ => exact .inl rfl

/-- An action on a pending payment asks for an errand. -/
inductive Sends (env : Setting) (s : Lifecycle) : LifecycleAction → Lifecycle → Errand → Prop
  | wallet {c : DispatchContext} {credential : WalletCredential} (fresh : s.stage = .notStarted)
      (usable : c.credential.filter (·.isUsable env.now) = some credential) :
      Sends env s (.dispatch c) { s with stage := .walletAttempted, context := some c }
        (.payInvoice credential c.invoice)
  | push {c : DispatchContext} (fresh : s.stage = .notStarted)
      (unusable : c.credential.filter (·.isUsable env.now) = none) :
      Sends env s (.dispatch c) { s with stage := .requestPushed, context := some c }
        (pushErrand env c)
  | fallBack {reason : String} {c : DispatchContext} (routing : s.stage = .walletAttempted)
      (context : s.context = some c) :
      Sends env s (.walletFailed reason)
        { s with stage := .requestPushed, lastError := some reason } (pushErrand env c)

theorem sends_of_reduce {env : Setting} {s s' : Lifecycle} {action : LifecycleAction}
    {errand : Errand} (hreduce : reduce env s action = (s', [.future errand])) :
    s.paymentStatus = .pending ∧ Sends env s action s' errand := by
  have hd := decides env s action
  rw [hreduce] at hd
  generalize hdecision : [Effect.future errand] = effects at hd
  cases hd with
  | wallet hpending hfresh husable =>
    cases hdecision
    exact ⟨hpending, .wallet hfresh husable⟩
  | push hpending hfresh hunusable =>
    cases hdecision
    exact ⟨hpending, .push hfresh hunusable⟩
  | fallBack hpending hrouting hcontext =>
    cases hdecision
    exact ⟨hpending, .fallBack hrouting hcontext⟩
  | _ => cases hdecision

namespace Sends

variable {env : Setting} {s s' : Lifecycle} {action : LifecycleAction} {errand : Errand}

theorem paymentStatus (h : Sends env s action s' errand) :
    s'.paymentStatus = s.paymentStatus := by
  cases h <;> rfl

theorem ticketId (h : Sends env s action s' errand) : s'.ticketId = s.ticketId := by
  cases h <;> rfl

/-- Less follows from the errand than from the action. -/
theorem chainLength_lt (h : Sends env s action s' errand) :
    errand.chainLength < chainLength action := by
  cases h <;> simp [Errand.chainLength, chainLength, pushErrand]

end Sends

theorem Chain.length_le {setup : Setup} {s : Lifecycle} {action : LifecycleAction}
    {turns : List Turn} {taken : List (Setting × LifecycleAction)}
    (hchain : Chain setup s action turns taken) : taken.length ≤ chainLength action := by
  induction hchain with
  | @last _ _ action => cases action <;> simp [chainLength]
  | more decided done _ ih =>
    have hreport := done.chainLength_le
    have hless := (sends_of_reduce decided).2.chainLength_lt
    rw [List.length_cons]
    omega

theorem performAll_errand (errand : Errand) :
    (performAll [.future errand]).Always fun turns produced =>
      ∃ report, produced = [report] ∧ errand.Goes (gist turns) report := by
  have hperform : performAll [.future errand] =
      errand.perform.bind fun report => .pure [report] := by
    simp only [performAll, perform, bind_bind, Program.bind, List.append_nil]
  rw [hperform]
  apply Always.bind errand.perform_goes
  intro turns report hgoes
  refine ⟨report, rfl, ?_⟩
  rwa [List.append_nil]

theorem countErrand_asks (action : LifecycleAction) :
    (countErrand action).Always fun turns _ => gist turns = [] := by
  unfold countErrand
  split
  · exact fun _ => rfl
  · rfl

/-- What taking one action does, but for asides. -/
inductive TakesOne (setup : Setup) (o : Lifecycle.Outcome) (action : LifecycleAction)
    (taken : List (Setting × LifecycleAction)) : List Turn → Watched → Prop
  | last {s : Lifecycle} {now : Time.Instant} {turns : List Turn}
      (decided : reduce (setting setup now) o.state action = (s, []))
      (stored : Asks s o.state.paymentStatus turns)
      (result : Except StoreError Lifecycle.Outcome) :
      TakesOne setup o action taken (⟨.now, now⟩ :: turns)
        ⟨result, taken ++ [(setting setup now, action)], []⟩
  | more {s : Lifecycle} {report : LifecycleAction} {now : Time.Instant} {errand : Errand}
      {turns : List Turn}
      (decided : reduce (setting setup now) o.state action =
        (s, [.future errand]))
      (done : errand.Goes turns report) :
      TakesOne setup o action taken (⟨.now, now⟩ :: turns)
        ⟨.ok ⟨s.withoutError, o.persisted⟩,
          taken ++ [(setting setup now, action)], [report]⟩

theorem takeOne_takes (setup : Setup) (o : Lifecycle.Outcome) (action : LifecycleAction)
    (taken : List (Setting × LifecycleAction)) :
    (takeOne setup ⟨.ok o, taken, [action]⟩).Always fun turns v =>
      TakesOne setup o action taken (gist turns) v := by
  rw [takeOne]
  apply Always.bind (countErrand_asks action)
  intro counts _ hcounts (now : Time.Instant)
  have hgist : ∀ turns, gist (counts ++ ⟨.now, now⟩ :: turns) = ⟨.now, now⟩ :: gist turns := by
    intro turns
    rw [gist_append, hcounts]
    rfl
  simp only [Program.bind]
  obtain ⟨s, hlast | ⟨errand, hmore⟩⟩ :=
    reduce_errands (setting setup now) o.state action
  · rw [hlast]
    apply Always.bind (storeDecision_asks s o.state.paymentStatus)
    intro turns x hstores
    have hlast : ∀ result, TakesOne setup o action taken (gist (counts ++ ⟨.now, now⟩ :: turns))
        ⟨result, taken ++ [(setting setup now, action)], []⟩ := by
      intro result
      rw [hgist]
      exact .last hlast hstores result
    cases x <;> simpa only [Always, performAll, Program.bind, List.append_nil] using hlast _
  · have hsame := (sends_of_reduce hmore).2.paymentStatus
    rw [hmore]
    have hkept : storeDecision s o.state.paymentStatus = Pure.pure ⟨s, false⟩ :=
      if_neg (not_not_intro hsame)
    rw [hkept]
    apply Always.bind (p := performAll [.future errand]) (performAll_errand errand)
    rintro turns _ ⟨report, rfl, hgoes⟩
    change TakesOne _ _ _ _ _ _
    rw [List.append_nil, hgist, Bool.or_false, List.nil_append]
    exact .more hmore hgoes

/-- The loop goes on until the queue is empty, along a chain. -/
theorem watch_chain {setup : Setup} {n : Nat} {action : LifecycleAction}
    (hn : chainLength action ≤ n) (o : Lifecycle.Outcome)
    (taken : List (Setting × LifecycleAction)) :
    (watch setup n ⟨.ok o, taken, [action]⟩).Always fun turns v => v.queue = [] ∧
      ∃ more, v.taken = taken ++ more ∧ Chain setup o.state action (gist turns) more := by
  induction n generalizing action o taken with
  | zero => cases action <;> simp [chainLength] at hn
  | succ n ih =>
    apply Always.bind (takeOne_takes setup o action taken)
    intro turns v hv
    generalize hgist : gist turns = essence at hv
    cases hv with
    | last decided stored result =>
      rw [watch_of_takeOne (takeOne_nil ..)]
      refine ⟨rfl, _, rfl, ?_⟩
      rw [List.append_nil, hgist]
      exact .last decided stored
    | more decided done =>
      have hreport := done.chainLength_le
      have hless := (sends_of_reduce decided).2.chainLength_lt
      refine (ih (by omega) _ _).mono ?_
      rintro turns' v ⟨hqueue, more, htaken, hchain⟩
      refine ⟨hqueue, _ :: more, by rw [htaken, List.append_assoc]; rfl, ?_⟩
      rw [gist_append, hgist]
      exact .more decided done hchain

/-- No bound on the number of actions matters that lets a whole chain be taken. -/
theorem run_eq_watch {setup : Setup} {n : Nat} {action : LifecycleAction}
    (hn : chainLength action ≤ n) (s : Lifecycle) :
    (run setup s action).run =
      (watch setup n ⟨.ok ⟨s, false⟩, [], [action]⟩).bind fun v => .pure v.result := by
  obtain ⟨m, rfl⟩ := Nat.exists_eq_add_of_le hn
  have hstop : (watch setup (chainLength action) ⟨.ok ⟨s, false⟩, [], [action]⟩).Always
      fun _ v => watch setup m v = .pure v := by
    refine (watch_chain (Nat.le_refl _) ⟨s, false⟩ []).mono ?_
    rintro _ ⟨result, taken, _⟩ ⟨rfl, -⟩
    exact watch_of_takeOne (takeOne_nil result taken) m
  rw [watch_add, hstop.bind_eq, run, drain_eq_watch _ _ []]

end Service

end BoxOffice
