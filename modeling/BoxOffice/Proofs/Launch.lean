import BoxOffice.Launch
import BoxOffice.Proofs.Signature
import BoxOffice.Proofs.Text.Utf8

/-! The key of a box office that starts. Against a real processor it is a secret that somebody has
set, and not the one that stands in while none is set; but an empty secret counts as set. -/

namespace BoxOffice

/-! ### Keys that digests do not tell apart -/

namespace Digest

theorem length_digest (message : Bytes) : (Sha256.digest message).length = 32 := rfl

theorem keyBlock_of_short {key : Bytes} (h : key.length ≤ 64) :
    keyBlock key = key ++ List.replicate (64 - key.length) 0 := by
  simp [keyBlock, Nat.not_lt.2 h]

theorem keyBlock_of_long {key : Bytes} (h : 64 < key.length) :
    keyBlock key = Sha256.digest key ++ List.replicate 32 0 := by
  simp [keyBlock, h, length_digest]

/-- A key without zeros ends where its block has the first one. -/
theorem takeWhile_keyBlock {key : Bytes} (h : key.length ≤ 64) (hzero : 0 ∉ key) :
    (keyBlock key).takeWhile (· != 0) = key := by
  have hall : ∀ b ∈ key, (b != 0) = true := fun b hb => bne_iff_ne.2 fun e => hzero (e ▸ hb)
  rw [keyBlock_of_short h, List.takeWhile_append_of_pos hall]
  simp

/-- No other key without zeros works as one that is longer than a digest and fits a block. -/
theorem keyBlock_inj {key other : Bytes} (hlong : 32 < key.length) (hfits : key.length ≤ 64)
    (hkey : 0 ∉ key) (hother : 0 ∉ other) : keyBlock other = keyBlock key ↔ other = key := by
  refine ⟨fun h => ?_, fun h => h ▸ rfl⟩
  by_cases hshort : other.length ≤ 64
  · rw [← takeWhile_keyBlock hshort hother, h, takeWhile_keyBlock hfits hkey]
  · -- The digest of a long key is followed by zeros, where the shorter key still goes on.
    have hat : (keyBlock other)[32]? = some 0 := by
      rw [keyBlock_of_long (Nat.lt_of_not_le hshort), List.getElem?_append_right (Nat.le_refl 32)]
      rfl
    rw [h, keyBlock_of_short hfits, List.getElem?_append_left hlong] at hat
    exact absurd (List.mem_of_getElem? hat) hkey

end Digest

/-! ### What the environment names -/

section Environment

variable {env : Environment}

/-- The processor is a real one unless the environment names the stand-in, in any case. So it is
one too where nothing is named, or what there is not. -/
theorem backend_eq_http : (Config.ofEnvironment env).lightning.backend = .http ↔
    ∀ raw, env "LIGHTNING_BACKEND" = some raw →
      String.ofList (Text.lowerAscii raw.toList) ≠ "mock" := by
  cases hset : env "LIGHTNING_BACKEND" with
  | none => simp [Config.ofEnvironment, hset]
  | some raw =>
    simp only [Config.ofEnvironment, hset, Option.bind_some, LightningBackend.parse]
    split
    · next h => simp [Except.toOption, h]
    · next h => split <;> simp [Except.toOption, h]

theorem checkSecret_eq_ok {c : LightningConfig} (h : c.backend = .http) :
    c.checkSecret = .ok () ↔ c.webhookSecret ≠ LightningConfig.developmentSecret := by
  unfold LightningConfig.checkSecret
  split <;> simp_all

/-- A secret passes if it is set, to any text but the one that stands in. -/
theorem checkSecret_ofEnvironment (h : (Config.ofEnvironment env).lightning.backend = .http) :
    (Config.ofEnvironment env).lightning.checkSecret = .ok () ↔
      ∃ secret, env "LIGHTNING_WEBHOOK_SECRET" = some secret ∧
        secret ≠ LightningConfig.developmentSecret := by
  rw [checkSecret_eq_ok h]
  cases hset : env "LIGHTNING_WEBHOOK_SECRET" <;> simp [Config.ofEnvironment, hset]

end Environment

/-! ### Starting -/

theorem checkSecret_of_prepareWith {reach : Reach} {c : Config}
    (h : c.prepareWith reach = .ok ()) : c.lightning.checkSecret = .ok () := by
  unfold Config.prepareWith at h
  cases hcheck : c.lightning.checkSecret with
  | ok => rfl
  | error message =>
    rw [hcheck] at h
    cases h

theorem secret_ofConfig {c : Config} {setup : Setup} (h : Setup.ofConfig c = .ok setup) :
    setup.secret = Text.encodeUtf8 c.lightning.webhookSecret := by
  unfold Setup.ofConfig at h
  split at h
  · cases h
  · obtain rfl := Except.ok.inj h
    rfl

/-- An environment is enough to start on, with what is in reach. -/
structure Starts (reach : Reach) (env : Environment) (setup : Setup) : Prop where
  prepared : (Config.ofEnvironment env).prepareWith reach = .ok ()
  built : Setup.ofConfig (.ofEnvironment env) = .ok setup

/-- Notices are checked with a secret that is set in the environment. It is not the one that stands
in and does not work like it; it is empty if it is set to nothing. -/
structure OwnSecret (env : Environment) (key : Bytes) (secret : String) : Prop where
  set : env "LIGHTNING_WEBHOOK_SECRET" = some secret
  key_eq : key = Text.encodeUtf8 secret
  ne : key ≠ Text.encodeUtf8 LightningConfig.developmentSecret
  /-- No variable can hold a zero character. -/
  block_ne : '\x00' ∉ secret.toList →
    Digest.keyBlock key ≠ Digest.keyBlock (Text.encodeUtf8 LightningConfig.developmentSecret)
  empty : key = [] ↔ secret = ""

/-- Whatever else is set and in reach, a box office that starts against a real processor checks its
notices with a secret of its own. -/
theorem Starts.ownSecret {reach : Reach} {env : Environment} {setup : Setup}
    (h : Starts reach env setup) (hhttp : (Config.ofEnvironment env).lightning.backend = .http) :
    ∃ secret, OwnSecret env setup.secret secret := by
  obtain ⟨secret, hset, hne⟩ :=
    (checkSecret_ofEnvironment hhttp).1 (checkSecret_of_prepareWith h.prepared)
  have hkey : setup.secret = Text.encodeUtf8 secret := by
    rw [secret_ofConfig h.built]
    simp [Config.ofEnvironment, hset]
  have hbytes := hkey ▸ mt Text.encodeUtf8_inj.1 hne
  refine ⟨secret, hset, hkey, hbytes, fun hzero => ?_, ?_⟩
  · have hother : 0 ∉ setup.secret := fun hmem => hzero (Text.zero_mem_encodeUtf8 (hkey ▸ hmem))
    exact mt (Digest.keyBlock_inj (by decide +kernel) (by decide +kernel) (by decide +kernel)
      hother).1 hbytes
  · rw [hkey, ← Text.encodeUtf8_inj]
    rfl

/-- An environment with a secret, and the memory of the process for storage. -/
def secretOnly (secret : String) : Environment := fun name =>
  if name = "LIGHTNING_WEBHOOK_SECRET" then some secret
  else if name = "STORAGE_BACKEND" then some "memory"
  else none

theorem secretOnly_http (secret : String) :
    (Config.ofEnvironment (secretOnly secret)).lightning.backend = .http :=
  backend_eq_http.2 nofun

theorem secretOnly_starts {secret : String} (h : secret ≠ LightningConfig.developmentSecret) :
    ∃ setup, Starts .bare (secretOnly secret) setup := by
  have hcheck : (Config.ofEnvironment (secretOnly secret)).lightning.checkSecret = .ok () :=
    (checkSecret_ofEnvironment (secretOnly_http secret)).2 ⟨secret, rfl, h⟩
  have hstorage : (Config.ofEnvironment (secretOnly secret)).server.storage = .memory := by
    change ((StorageBackend.parse "memory").toOption).getD .postgres = .memory
    decide +kernel
  have hprepared : (Config.ofEnvironment (secretOnly secret)).prepareWith .bare = .ok () := by
    unfold Config.prepareWith
    rw [hcheck, hstorage, secretOnly_http]
    rfl
  cases hbuilt : Setup.ofConfig (.ofEnvironment (secretOnly secret)) with
  | ok setup => exact ⟨setup, hprepared, hbuilt⟩
  | error e =>
    have hreceiver : (Address.parse "$tickets@localhost").toBool = true := by decide +kernel
    unfold Setup.ofConfig at hbuilt
    split at hbuilt
    · next hparse =>
      change Address.parse "$tickets@localhost" = _ at hparse
      rw [hparse] at hreceiver
      cases hreceiver
    · cases hbuilt

theorem Starts.ownSecret_secretOnly : ∃ setup, Starts .bare (secretOnly "s3cret") setup ∧
    (Config.ofEnvironment (secretOnly "s3cret")).lightning.backend = .http ∧
    ∃ secret, OwnSecret (secretOnly "s3cret") setup.secret secret := by
  obtain ⟨setup, hstarts⟩ := secretOnly_starts (by decide : "s3cret" ≠ _)
  exact ⟨setup, hstarts, secretOnly_http _, Starts.ownSecret hstarts (secretOnly_http _)⟩

/-- A secret that is set to nothing passes, and then anybody can sign. -/
theorem starts_unsecured : ∃ setup, Starts .bare (secretOnly "") setup ∧
    (Config.ofEnvironment (secretOnly "")).lightning.backend = .http ∧ setup.secret = [] ∧
    ∀ body, Signature.verify setup.secret body (Signature.sign [] body) := by
  obtain ⟨setup, hstarts⟩ := secretOnly_starts (by decide : "" ≠ _)
  have hsecret : setup.secret = [] := secret_ofConfig hstarts.built
  refine ⟨setup, hstarts, secretOnly_http "", hsecret, fun body => ?_⟩
  rw [hsecret]
  exact Signature.verify_sign [] body

end BoxOffice
