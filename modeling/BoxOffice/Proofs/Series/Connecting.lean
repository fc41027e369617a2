import BoxOffice.Api.Handler
import BoxOffice.Proofs.Alone.Matching
import BoxOffice.Proofs.Alone.Sweeping
import BoxOffice.Proofs.Api.Concealment
import BoxOffice.Proofs.Api.Failure
import BoxOffice.Proofs.Series.Ledger

/-! Wallet connections, as one call leaves them. Only a request to connect a wallet writes one, and
it writes that of its own user. It is refused unless the connection has a text that is not blank and
expires later than now, if at all; so what it writes may be used at once. -/

namespace BoxOffice

open Program

variable {setup : Setup} {w : Surroundings} {s s' : Store}

/-! ### Calls that leave the connections alone -/

theorem Store.credentials_of_perform (hs : s.Coherent) {c : Store.Call}
    {x : Except StoreError c.Reply} (hperform : s.perform c = (x, s'))
    (hc : ∀ k, c ≠ .putCredential k) : s'.credentials = s.credentials := by
  have hout := Store.perform_outcome hs c
  rw [hperform] at hout
  cases hout with
  | credentialPut k => exact absurd rfl (hc k)
  | _ => rfl

namespace Service

variable (hs : s.Coherent) (setup : Setup) (w : Surroundings)

include hs

theorem purchase_credentials (event : EventId) (user : UserId) (address : Option String) :
    Comes w (fun _ s' _ => s'.credentials = s.credentials)
      (purchase setup event user address).run s [] := by
  refine Comes.bind (tryPurchase_comes hs setup event user address w) ?_ ?_
  · intro x s' h' hsale
    cases hsale with
    | refused => rfl
    | sold hcreated => exact Store.credentials_of_perform hs hcreated fun _ => nofun
  · intro s' h' hsale
    cases hsale
    rfl

theorem retry_credentials (payment : PaymentId) :
    Comes w (fun _ s' _ => s'.credentials = s.credentials) (retry setup payment).run s [] := by
  refine (retry_comes hs setup payment w).mono fun x s' h' hreopening => ?_
  cases hreopening with
  | refused => rfl
  | reopened hreissued => exact Store.credentials_of_perform hs hreissued fun _ => nofun

theorem route_credentials (c : DispatchContext) :
    Comes w (fun _ s' _ => s'.credentials = s.credentials) (route setup c) s [] := by
  have hopen : (LifecycleAction.dispatch c).target ≠ .pending := nofun
  obtain ⟨x, s', h', hrun, hclosing⟩ := apply_closing (k := c.ticketId) hs hopen setup w []
  have hkept : s'.credentials = s.credentials := by
    cases hclosing with
    | kept => rfl
    | closed hperformed => exact Store.credentials_of_perform hs hperformed fun _ => nofun
  rw [Comes, route, alone_bind hrun]
  cases x <;> exact hkept

theorem sweep_credentials :
    Comes w (fun _ s' _ => s'.credentials = s.credentials) (sweep setup).run s [] := by
  obtain ⟨_, hexpire⟩ := expireAll_due hs (.refl (s.expiredPending (w [] .now))) setup w _
  obtain ⟨_, hrun⟩ := sweep_of_expireAll hexpire
  exact comes_of_alone hrun rfl

theorem notification_credentials (body : Bytes) (signature : Option String) :
    Comes w (fun _ s' _ => s'.credentials = s.credentials)
      (onNotification setup body signature).run s [] := by
  obtain ⟨x, s', h', hrun, hx⟩ := onNotification_alone hs setup w body signature
  refine comes_of_alone hrun ?_
  by_cases hsettled : ∃ k, x = .ok (.settled k)
  · obtain ⟨k, hk⟩ := hsettled
    obtain ⟨p, t, now, -, -, -, -, -, rfl⟩ := hx.handling.settled hk
    rfl
  · rw [(hx.handling.kept (not_exists.1 hsettled)).1]

theorem payRequest_credentials (ticket : TicketId) (body : Protocol.PayRequest) :
    Comes w (fun _ s' _ => s'.credentials = s.credentials)
      (payRequest setup ticket body).run s [] := by
  refine (payRequest_comes hs setup ticket body w).mono fun x s' h' hquoting => ?_
  cases hquoting with
  | kept => rfl
  | recorded hperformed => exact Store.credentials_of_perform hs hperformed fun _ => nofun

theorem light_credentials {α ε : Type} {p : ExceptT ε Program α} (hp : Light p) :
    Comes w (fun _ s' _ => s'.credentials = s.credentials) p.run s [] :=
  (Conforms.comes (hp.idle []) hs w).mono fun _ _ _ hx => by rw [hx.1]

end Service

theorem Visit.credentials_eq (hs : s.Coherent) {v : Visit} (hv : ∀ k, v ≠ .job (.putCredential k))
    (setup : Setup) (w : Surroundings) :
    ((v.program setup).alone w s []).store.credentials = s.credentials := by
  cases v with
  | pull amountMsats => exact Service.light_credentials hs w (Service.payByAmount_light amountMsats)
  | job job =>
    cases job with
    | purchase event user address =>
      exact Service.purchase_credentials hs setup w event user address
    | retry payment => exact Service.retry_credentials hs setup w payment
    | route c => exact Service.route_credentials hs setup w c
    | sweep => exact Service.sweep_credentials hs setup w
    | notification body signature =>
      exact Service.notification_credentials hs setup w body signature
    | payRequest ticket body => exact Service.payRequest_credentials hs setup w ticket body
    | putEvent event => rfl
    | putCredential k => exact absurd rfl (hv k)

/-! ### Requests to connect a wallet -/

namespace Api

/-- The user and the connection in a request to connect a wallet. -/
def HttpRequest.connection? (r : HttpRequest) : Option (UserId × WalletConnection) :=
  match Route.ofPath? r.path with
  | some (.wallet user) =>
    match pathUuid user, jsonBody WalletConnection.fields WalletConnection.ofJson r with
    | .ok id, .ok connection => some (⟨id⟩, connection)
    | _, _ => none
  | _ => none

/-- What a request to connect a wallet comes to. -/
inductive Putting (r : HttpRequest) (w : Surroundings) (s : Store) :
    Option Response → Store → Prop
  | rejected {response : Response} (status : response.status ≠ 204) :
      Putting r w s (some response) s
  | accepted {user : UserId} {k : WalletConnection} {now : Time.Instant}
      (asks : r.connection? = some (user, k)) (clock : w [] .now = now) (written : k.uri ≠ "")
      (lasting : ∀ t, k.expiresAt = some t → now < t) :
      Putting r w s (some (.nothing 204)) { s with
        credentials := s.credentials.set user ⟨user, k.uri, k.expiresAt, now⟩ }

theorem connectWallet_putting {r : HttpRequest} {user : UserId} {k : WalletConnection}
    (hasks : r.connection? = some (user, k)) (w : Surroundings) (s : Store) :
    Comes w (fun x s' _ => Putting r w s x s') (connectWallet user k) s [] := by
  unfold connectWallet
  split
  · exact .rejected (by decide)
  · next hblank =>
    have hwritten : k.uri ≠ "" := by
      intro hempty
      rw [hempty] at hblank
      exact hblank rfl
    obtain ⟨now, hnow⟩ : ∃ now : Time.Instant, w [] .now = now := ⟨_, rfl⟩
    have hclock : Program.now.alone w s [] = ⟨some now, s, [⟨.now, now⟩]⟩ := by
      subst hnow
      rfl
    refine .seq hclock ?_
    split
    · exact .rejected (by decide)
    · next hlasting =>
      refine .accepted hasks hnow hwritten fun t ht => Time.Instant.not_le.1 fun hover => ?_
      refine hlasting ?_
      rw [ht]
      exact decide_eq_true hover

theorem handle_putting {r : HttpRequest} {segment : List Char}
    (hroute : Route.ofPath? r.path = some (.wallet segment)) (setup : Setup) (w : Surroundings)
    (s : Store) : Comes w (fun x s' _ => Putting r w s x s') (handle setup r) s [] := by
  have hserve : ∀ method, Comes w (fun x s' _ => Putting r w s x s')
      (serve setup method r (.wallet segment)) s [] := by
    intro method
    show Comes w _ (extracting (do return (← pathUuid segment,
        ← jsonBody WalletConnection.fields WalletConnection.ofJson r))
      fun asked => connectWallet ⟨asked.1⟩ asked.2) s []
    cases hid : pathUuid segment with
    | error response =>
      have hstatus := pathUuid_refuses segment response hid
      exact .rejected (by omega)
    | ok id =>
      cases hk : jsonBody WalletConnection.fields WalletConnection.ofJson r with
      | error response =>
        have hstatus := jsonBody_refuses _ _ r response hk
        exact .rejected (by omega)
      | ok k =>
        have hasks : r.connection? = some (⟨id⟩, k) := by
          simp only [HttpRequest.connection?, hroute, hid, hk]
        exact connectWallet_putting hasks w s
  unfold handle
  rw [hroute]
  dsimp only
  split
  · exact .rejected (by decide)
  · next hhead =>
    cases (Option.filter_eq_some_iff.1 hhead).2
  · exact hserve _

end Api

end BoxOffice
