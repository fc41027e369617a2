import BoxOffice.Proofs.Office.Basic
import BoxOffice.Service.Responding

/-! The bounds of a discovery document. They are written twice: in millisatoshis for the document,
and in satoshis for its only currency. On the way to satoshis both ends are rounded down, which is
right for the upper one only. Where the lower bound is not whole, the amount just below it is
quoted in satoshis and not taken in millisatoshis; otherwise the two agree. -/

namespace BoxOffice

namespace Protocol

/-- An amount, in the smallest unit of the currency, lies within the bounds quoted for it. -/
def Currency.Takes (c : Currency) (amount : Nat) : Prop :=
  c.minSendable.toNat ≤ amount ∧ amount ≤ c.maxSendable.toNat

instance (c : Currency) (amount : Nat) : Decidable (c.Takes amount) :=
  inferInstanceAs (Decidable (_ ∧ _))

namespace PayableParameters

/-- An amount in millisatoshis lies within the bounds of the document. -/
def Takes (p : PayableParameters) (msats : Nat) : Prop :=
  p.minSendable.toNat ≤ msats ∧ msats ≤ p.maxSendable.toNat

instance (p : PayableParameters) (msats : Nat) : Decidable (p.Takes msats) :=
  inferInstanceAs (Decidable (_ ∧ _))

/-- The lower bound lies between this many satoshis and one more, and is neither. -/
def Misses (p : PayableParameters) (sats : Nat) : Prop :=
  1000 * sats < p.minSendable.toNat ∧ p.minSendable.toNat < 1000 * (sats + 1) ∧
    1000 * sats ≤ p.maxSendable.toNat

/-- How the bounds that a currency quotes in satoshis stand to those of the document. -/
structure Quotes (p : PayableParameters) (c : Currency) : Prop where
  upper : ∀ sats, sats ≤ c.maxSendable.toNat ↔ 1000 * sats ≤ p.maxSendable.toNat
  lower : ∀ sats, c.minSendable.toNat ≤ sats ↔ p.minSendable.toNat < 1000 * (sats + 1)
  takes : ∀ sats, c.Takes sats ↔ p.Takes (1000 * sats) ∨ p.Misses sats
  agrees : (∀ sats, c.Takes sats ↔ p.Takes (1000 * sats)) ↔
    1000 ∣ p.minSendable.toNat ∨ p.maxSendable.toNat < 1000 * (p.minSendable.toNat / 1000)

variable {p : PayableParameters} {c : Currency}

/-- Nothing is missed but the satoshis of the lower bound, rounded down. -/
theorem Misses.eq {sats : Nat} (h : p.Misses sats) : sats = p.minSendable.toNat / 1000 := by
  obtain ⟨habove, hbelow, -⟩ := h
  omega

theorem misses_iff :
    (∃ sats, p.Misses sats) ↔ ¬ 1000 ∣ p.minSendable.toNat ∧
      1000 * (p.minSendable.toNat / 1000) ≤ p.maxSendable.toNat := by
  constructor
  · rintro ⟨sats, h⟩
    obtain rfl := h.eq
    obtain ⟨habove, -, hmax⟩ := h
    exact ⟨by omega, hmax⟩
  · rintro ⟨hpart, hmax⟩
    exact ⟨p.minSendable.toNat / 1000, by omega, by omega, hmax⟩

/-- Both ends are rounded down. -/
theorem Quotes.of_div (hmin : c.minSendable.toNat = p.minSendable.toNat / 1000)
    (hmax : c.maxSendable.toNat = p.maxSendable.toNat / 1000) : p.Quotes c := by
  have hupper : ∀ sats, sats ≤ c.maxSendable.toNat ↔ 1000 * sats ≤ p.maxSendable.toNat := by
    intro sats
    omega
  have hlower : ∀ sats, c.minSendable.toNat ≤ sats ↔
      p.minSendable.toNat < 1000 * (sats + 1) := by
    intro sats
    omega
  have htakes : ∀ sats, c.Takes sats ↔ p.Takes (1000 * sats) ∨ p.Misses sats := by
    intro sats
    have h := hlower sats
    have h' := hupper sats
    unfold Currency.Takes Takes Misses
    omega
  refine ⟨hupper, hlower, htakes, ?_⟩
  have hmissed : (∀ sats, c.Takes sats ↔ p.Takes (1000 * sats)) ↔ ¬ ∃ sats, p.Misses sats := by
    constructor
    · rintro hagree ⟨sats, hmiss⟩
      have htaken := (hagree sats).mp ((htakes sats).mpr (.inr hmiss))
      exact Nat.lt_irrefl _ (Nat.lt_of_lt_of_le hmiss.1 htaken.1)
    · intro hnone sats
      rw [htakes sats, or_iff_left fun hmiss => hnone ⟨sats, hmiss⟩]
  rw [hmissed, misses_iff]
  omega

end PayableParameters

end Protocol

namespace Service

open Protocol

variable {setup : Setup} {username : String} {p : PayableParameters}

/-- The only currency of a document quotes the bounds in satoshis, each rounded down. -/
theorem payableParameters_quotes (hp : payableParameters setup username = some p) :
    ∃ c, p.currencies = [c] ∧ c.code = "SAT" ∧ c.multiplier = msatsPerSat ∧ c.decimals = 0 ∧
      p.minSendable = setup.minSendableMsats ∧ p.maxSendable = setup.maxSendableMsats ∧
      p.Quotes c := by
  simp only [payableParameters] at hp
  split at hp
  · obtain rfl := Option.some.inj hp
    exact ⟨satCurrency setup, rfl, rfl, rfl, rfl, rfl, rfl,
      .of_div (UInt64.toNat_div _ _) (UInt64.toNat_div _ _)⟩
  · cases hp

/-- Amounts from 1500 millisatoshis on. -/
def unevenSetup : Setup :=
  { Office.sampleSetup with minSendableMsats := 1500, maxSendableMsats := 10000 }

theorem payableParameters_quotes_uneven :
    ∃ p, payableParameters unevenSetup "A" = some p ∧ ∃ c, p.currencies = [c] ∧ c.code = "SAT" ∧
      c.multiplier = msatsPerSat ∧ c.decimals = 0 ∧
      p.minSendable = unevenSetup.minSendableMsats ∧
      p.maxSendable = unevenSetup.maxSendableMsats ∧ p.Quotes c := by
  obtain ⟨p, hp⟩ : ∃ p, payableParameters unevenSetup "A" = some p := ⟨_, rfl⟩
  exact ⟨p, hp, payableParameters_quotes hp⟩

/-- One satoshi is quoted as the least amount where the document takes no less than one and a
half. -/
theorem payableParameters_underquotes :
    ∃ p c, payableParameters unevenSetup "a" = some p ∧ p.currencies = [c] ∧ c.code = "SAT" ∧
      c.Takes 1 ∧ ¬ p.Takes (1000 * 1) :=
  ⟨_, _, rfl, rfl, rfl, by decide +kernel, by decide +kernel⟩

end Service

end BoxOffice
