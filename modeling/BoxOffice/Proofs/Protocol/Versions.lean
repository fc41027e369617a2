import BoxOffice.Launch
import BoxOffice.Proofs.Alone.HandingOut
import BoxOffice.Proofs.Api.Pulling
import BoxOffice.Proofs.Signature
import Mathlib.Data.List.Sort
import Mathlib.Data.Nat.Digits.Defs

/-! The versions that the box office is configured to speak. A raw list is a text of entries between
commas, and is read if every entry is a numeral between blanks. What is read is a falling list of
the numbers named, so it depends on the set of the entries alone. Two places rely on the order: the
version of a quote that nobody chose is the first of the list, and the one that two sides agree on
is the highest of those they share. In a falling list these come to the same. -/

namespace BoxOffice

open Program Protocol

/-! ### Numerals -/

namespace Text

/-- The text is one digit or more, after a plus sign perhaps, and names the number. -/
def Numeral (cs : List Char) (n : Nat) : Prop :=
  ∃ digits, (cs = digits ∨ cs = '+' :: digits) ∧ digits ≠ [] ∧
    (∀ c ∈ digits, '0' ≤ c ∧ c ≤ '9') ∧ n = Nat.ofDigits 10 (digits.reverse.map digitValue)

theorem digitsValue_eq_ofDigits (cs : List Char) :
    digitsValue cs = Nat.ofDigits 10 (cs.reverse.map digitValue) := by
  rw [Nat.ofDigits_eq_foldr, List.foldr_map, List.foldr_reverse, digitsValue]
  congr 1
  funext n c
  exact Nat.add_comm ..

theorem readNatural_eq_some {cs : List Char} {n : Nat} : readNatural cs = some n ↔
    cs ≠ [] ∧ (∀ c ∈ cs, '0' ≤ c ∧ c ≤ '9') ∧ n = Nat.ofDigits 10 (cs.reverse.map digitValue) := by
  rw [readNatural, ← digitsValue_eq_ofDigits]
  simp only [isDigit, Option.ite_none_right_eq_some, Option.some.injEq, Bool.and_eq_true,
    Bool.not_eq_true', List.isEmpty_eq_false_iff, List.all_eq_true, decide_eq_true_eq,
    and_assoc, eq_comm (a := n)]

/-- A plus sign is no digit, so what follows it is what is read. -/
theorem readBelow_eq_some {bound : Nat} {cs : List Char} {n : Nat} :
    readBelow bound cs = some n ↔ Numeral cs n ∧ n < bound := by
  simp only [readBelow, Option.filter_eq_some_iff, readNatural_eq_some, decide_eq_true_eq]
  refine and_congr_left fun _ => ?_
  constructor
  · intro h
    split at h
    · exact ⟨_, .inr rfl, h⟩
    · exact ⟨_, .inl rfl, h⟩
  · rintro ⟨digits, hcs, hne, hdigits, hn⟩
    split
    · next rest hnotsign =>
      rcases hcs with rfl | hcs
      · exact absurd (hdigits '+' List.mem_cons_self) (by decide)
      · cases hcs
        exact ⟨hne, hdigits, hn⟩
    · next hunsigned =>
      rcases hcs with rfl | rfl
      · exact ⟨hne, hdigits, hn⟩
      · exact absurd rfl (hunsigned digits)

theorem readU32_eq_some {cs : List Char} {v : UInt32} :
    readU32 cs = some v ↔ Numeral cs v.toNat := by
  simp only [readU32, Option.map_eq_some_iff, readBelow_eq_some]
  constructor
  · rintro ⟨n, ⟨hn, hlt⟩, rfl⟩
    rwa [UInt32.toNat_ofNat_of_lt' hlt]
  · intro hv
    exact ⟨v.toNat, ⟨hv, v.toNat_lt_size⟩, UInt32.ofNat_toNat⟩

end Text

namespace Protocol

/-! ### Entries -/

/-- The text consists of the entries with commas between them. -/
structure Lists (cs : List Char) (entries : List (List Char)) : Prop where
  nonempty : entries ≠ []
  apart : ∀ e ∈ entries, ',' ∉ e
  text : [','].intercalate entries = cs

theorem splitCommas_ne_nil (cs : List Char) : splitCommas cs ≠ [] := by
  cases cs with
  | nil => nofun
  | cons c cs =>
    rw [splitCommas, List.foldr_cons]
    split <;> nofun

theorem splitCommas_cons (c : Char) (cs : List Char) : splitCommas (c :: cs) =
    if c = ',' then [] :: splitCommas cs else (splitCommas cs).modifyHead (c :: ·) := by
  obtain ⟨part, rest, hparts⟩ := List.exists_cons_of_ne_nil (splitCommas_ne_nil cs)
  rw [hparts]
  rw [splitCommas] at hparts ⊢
  rw [List.foldr_cons, hparts]
  split
  · rw [if_pos rfl]
  · next hnil => cases hnil
  · next hcomma hcons =>
    cases hcons
    rw [if_neg fun hc => hcomma hc, List.modifyHead_cons]

theorem splitCommas_eq_splitOn (cs : List Char) : splitCommas cs = cs.splitOn ',' := by
  induction cs with
  | nil => rfl
  | cons c cs ih =>
    rw [splitCommas_cons, ih, List.splitOn, List.splitOn, List.splitOnP_cons_eq_if_modifyHead]
    simp only [beq_iff_eq]

theorem comma_not_mem_of_mem_splitCommas {cs e : List Char} (he : e ∈ splitCommas cs) :
    ',' ∉ e := by
  induction cs generalizing e with
  | nil =>
    rw [List.mem_singleton.1 he]
    nofun
  | cons c cs ih =>
    rw [splitCommas_cons] at he
    split at he
    · rcases List.mem_cons.1 he with rfl | he
      · nofun
      · exact ih he
    · next hc =>
      obtain ⟨part, rest, hparts⟩ := List.exists_cons_of_ne_nil (splitCommas_ne_nil cs)
      rw [hparts, List.modifyHead_cons] at he
      rw [hparts] at ih
      rcases List.mem_cons.1 he with rfl | he
      · rintro (_ | ⟨_, hmem⟩)
        · exact hc rfl
        · exact ih List.mem_cons_self hmem
      · exact ih (List.mem_cons_of_mem _ he)

/-- A text is a list of entries in one way. -/
theorem lists_iff {cs : List Char} {entries : List (List Char)} :
    Lists cs entries ↔ entries = splitCommas cs := by
  constructor
  · rintro ⟨hne, hapart, rfl⟩
    rw [splitCommas_eq_splitOn, List.splitOn_intercalate _ hapart hne]
  · rintro rfl
    refine ⟨splitCommas_ne_nil cs, fun _ => comma_not_mem_of_mem_splitCommas, ?_⟩
    rw [splitCommas_eq_splitOn, List.intercalate_splitOn]

/-- The entry is a numeral of the version, with blanks around it perhaps. -/
def Reads (entry : List Char) (v : UInt32) : Prop :=
  ∃ core, Text.Trims entry core ∧ Text.Numeral core v.toNat

theorem reads_iff {entry : List Char} {v : UInt32} :
    Reads entry v ↔ Text.readU32 (Text.trim entry) = some v := by
  rw [Text.readU32_eq_some]
  constructor
  · rintro ⟨core, hcore, hnumeral⟩
    rwa [← hcore.eq]
  · exact fun hnumeral => ⟨_, Text.trims_trim entry, hnumeral⟩

/-! ### Falling lists -/

/-- Each version is above those that follow it. -/
abbrev Falling (vs : List UInt32) : Prop := vs.Pairwise (· > ·)

theorem mem_insertVersion {u v : UInt32} {vs : List UInt32} :
    u ∈ insertVersion v vs ↔ u = v ∨ u ∈ vs := by
  induction vs with
  | nil => rw [insertVersion, List.mem_singleton, or_iff_left List.not_mem_nil]
  | cons w rest ih =>
    rw [insertVersion]
    split
    · next heq =>
      subst heq
      simp
    · split
      · exact List.mem_cons
      · rw [List.mem_cons, ih, List.mem_cons]
        exact or_left_comm

theorem Falling.insertVersion {vs : List UInt32} (h : Falling vs) (v : UInt32) :
    Falling (insertVersion v vs) := by
  induction vs with
  | nil => exact List.pairwise_singleton _ _
  | cons w rest ih =>
    obtain ⟨hbelow, hrest⟩ := List.pairwise_cons.1 h
    rw [Protocol.insertVersion]
    split
    · exact h
    · next hne =>
      split
      · next hlt =>
        refine List.pairwise_cons.2 ⟨fun u hu => ?_, h⟩
        rcases List.mem_cons.1 hu with rfl | hu
        · exact hlt
        · exact UInt32.lt_trans (hbelow u hu) hlt
      · next hnot =>
        refine List.pairwise_cons.2 ⟨fun u hu => ?_, ih hrest⟩
        rcases mem_insertVersion.1 hu with rfl | hu
        · exact UInt32.lt_of_le_of_ne (UInt32.not_lt.1 hnot) hne
        · exact hbelow u hu

theorem mem_sortVersions {v : UInt32} {vs : List UInt32} : v ∈ sortVersions vs ↔ v ∈ vs := by
  induction vs with
  | nil => rfl
  | cons w rest ih =>
    have hstep : sortVersions (w :: rest) = insertVersion w (sortVersions rest) := rfl
    rw [hstep, mem_insertVersion, ih, List.mem_cons]

theorem sortVersions_falling (vs : List UInt32) : Falling (sortVersions vs) := by
  induction vs with
  | nil => exact .nil
  | cons w rest ih => exact ih.insertVersion w

/-- A falling list is known by its members. -/
theorem Falling.eq {us vs : List UInt32} (hus : Falling us) (hvs : Falling vs)
    (h : ∀ v, v ∈ us ↔ v ∈ vs) : us = vs :=
  hus.eq_of_mem_iff hvs h

/-- The first version of a falling list is the highest. -/
theorem Falling.le_head {vs : List UInt32} (h : Falling vs) {top : UInt32}
    (htop : vs.head? = some top) : top ∈ vs ∧ ∀ v ∈ vs, v ≤ top := by
  cases vs with
  | nil => cases htop
  | cons w rest =>
    cases htop
    refine ⟨List.mem_cons_self, fun v hv => ?_⟩
    rcases List.mem_cons.1 hv with rfl | hv
    · exact UInt32.le_refl v
    · exact UInt32.le_of_lt ((List.pairwise_cons.1 h).1 v hv)

/-- Looking for the highest version gets no further than the first. -/
theorem negotiate_of_falling {ours : List UInt32} (h : Falling ours) (theirs : List UInt32) :
    negotiate ours theirs = ours.find? theirs.contains := by
  have hkept : ∀ (f : Option UInt32 → UInt32 → Option UInt32) (top : UInt32) (vs : List UInt32),
      (∀ v ∈ vs, f (some top) v = some top) → vs.foldl f (some top) = some top := by
    intro f top vs hf
    induction vs with
    | nil => rfl
    | cons v rest ih =>
      obtain ⟨hv, hrest⟩ := List.forall_mem_cons.1 hf
      rw [List.foldl_cons, hv, ih hrest]
  rw [← List.head?_filter, negotiate]
  have hshared : Falling (ours.filter theirs.contains) := h.filter _
  cases hfilter : ours.filter theirs.contains with
  | nil => rfl
  | cons top rest =>
    rw [hfilter] at hshared
    rw [List.foldl_cons, List.head?_cons]
    refine hkept _ top rest fun v hv => ?_
    have hlt : v < top := (List.pairwise_cons.1 hshared).1 v hv
    dsimp only
    rw [if_neg (UInt32.not_le.2 hlt)]

/-! ### Lists that are read -/

theorem mapM_eq_some {α β : Type} {f : α → Option β} {as : List α} {bs : List β} :
    as.mapM f = some bs ↔ as.map f = bs.map some := by
  induction as generalizing bs with
  | nil => cases bs <;> simp
  | cons a as ih =>
    rw [List.mapM_cons, Option.bind_eq_bind, Option.bind_eq_some_iff]
    simp only [Option.bind_eq_bind, Option.bind_eq_some_iff, ih, Option.pure_def,
      Option.some.injEq]
    constructor
    · rintro ⟨b, hb, rest, hrest, rfl⟩
      rw [List.map_cons, List.map_cons, hb, hrest]
    · intro h
      cases bs with
      | nil => cases h
      | cons b rest =>
        obtain ⟨hb, hrest⟩ := List.cons.inj h
        exact ⟨b, hb, rest, hrest, rfl⟩

/-- The versions that the entries name, each once and the highest first. -/
structure Names (entries : List (List Char)) (vs : List UInt32) : Prop where
  nonempty : vs ≠ []
  falling : Falling vs
  mem (v : UInt32) : v ∈ vs ↔ ∃ e ∈ entries, Reads e v

/-- What is read are the versions that the entries name, and each of them names one. -/
theorem names_of_parseVersions {raw : String} {vs : List UInt32} (h : parseVersions raw = some vs) :
    (∀ e ∈ splitCommas raw.toList, ∃ v, Reads e v) ∧ Names (splitCommas raw.toList) vs := by
  obtain ⟨us, hus, rfl⟩ := Option.map_eq_some_iff.1 h
  have hmap := mapM_eq_some.1 hus
  have hmem : ∀ v, v ∈ us ↔ ∃ e ∈ splitCommas raw.toList, Reads e v := by
    intro v
    have hmapped : some v ∈ us.map some ↔ v ∈ us := by simp
    rw [← hmapped, ← hmap, List.mem_map]
    simp only [reads_iff]
  have hall : ∀ e ∈ splitCommas raw.toList, ∃ v, Reads e v := by
    intro e he
    have hvalue : Text.readU32 (Text.trim e) ∈ us.map some := by
      rw [← hmap]
      exact List.mem_map_of_mem he
    obtain ⟨v, -, hv⟩ := List.mem_map.1 hvalue
    exact ⟨v, reads_iff.2 hv.symm⟩
  refine ⟨hall, ?_, sortVersions_falling us, fun v => mem_sortVersions.trans (hmem v)⟩
  obtain ⟨e, he⟩ := List.exists_mem_of_ne_nil _ (splitCommas_ne_nil raw.toList)
  obtain ⟨v, hv⟩ := hall e he
  exact List.ne_nil_of_mem (mem_sortVersions.2 ((hmem v).2 ⟨e, he, hv⟩))

theorem exists_parseVersions {raw : String} (h : ∀ e ∈ splitCommas raw.toList, ∃ v, Reads e v) :
    ∃ vs, parseVersions raw = some vs := by
  choose! value hvalue using h
  have hmap : (splitCommas raw.toList).map (fun e => Text.readU32 (Text.trim e)) =
      ((splitCommas raw.toList).map value).map some := by
    rw [List.map_map]
    exact List.map_congr_left fun e he => reads_iff.1 (hvalue e he)
  exact ⟨_, by rw [parseVersions, mapM_eq_some.2 hmap, Option.map_some]⟩

/-- A list is read if each of its entries is; what it is read as is known by that. -/
theorem parseVersions_eq_some {raw : String} {vs : List UInt32} :
    parseVersions raw = some vs ↔
      (∀ e ∈ splitCommas raw.toList, ∃ v, Reads e v) ∧ Names (splitCommas raw.toList) vs := by
  constructor
  · exact names_of_parseVersions
  · rintro ⟨hall, hvs⟩
    obtain ⟨us, hus⟩ := exists_parseVersions hall
    obtain ⟨-, hnames⟩ := names_of_parseVersions hus
    rw [hus, hnames.falling.eq hvs.falling fun v => (hnames.mem v).trans (hvs.mem v).symm]

/-- Neither the order of the entries nor how often each is named makes a difference. -/
theorem parseVersions_congr {raw raw' : String}
    (h : ∀ e, e ∈ splitCommas raw'.toList ↔ e ∈ splitCommas raw.toList) :
    parseVersions raw' = parseVersions raw := by
  have hnames : ∀ vs, Names (splitCommas raw'.toList) vs ↔ Names (splitCommas raw.toList) vs := by
    intro vs
    constructor
    · rintro ⟨hne, hfalling, hmem⟩
      exact ⟨hne, hfalling, by simpa only [h] using hmem⟩
    · rintro ⟨hne, hfalling, hmem⟩
      exact ⟨hne, hfalling, by simpa only [h] using hmem⟩
  refine Option.ext fun vs => ?_
  rw [parseVersions_eq_some, parseVersions_eq_some, hnames]
  simp only [h]

/-! ### Quotes without a version -/

/-- The response carries a quote in the highest version of a list. -/
def PayResponse.InHighest (vs : List UInt32) (response : PayResponse) : Prop :=
  ∃ e, response.envelope = some e ∧ e.version ∈ vs ∧ ∀ v ∈ vs, v ≤ e.version

end Protocol

namespace Service

variable {setup : Setup} {s : Store} {w : Surroundings} {h : List Turn} {now : Time.Instant}
  {k : TicketId} {p : Payment} {i : Invoice} {r : FullRequest} {body : PayRequest}

/-- A quote that is asked for in satoshis, and in no version, is in the first of ours. -/
theorem quoted_inHighest (hfalling : Falling setup.versions) (hne : setup.versions ≠ [])
    (hsats : r.AsksSats) (hversion : r.version = none) (encoded : String) :
    (quoted setup r p encoded).InHighest setup.versions := by
  obtain ⟨top, rest, htop⟩ := List.exists_cons_of_ne_nil hne
  have hhead : setup.versions.head? = some top := by rw [htop, List.head?_cons]
  obtain ⟨hmem, hle⟩ := hfalling.le_head hhead
  have hanswered : AnsweredIn setup r top := ⟨hmem, by rw [hversion, Option.none_or, hhead]⟩
  refine ⟨satEnvelope setup p top, ?_, hmem, hle⟩
  rw [quoted, envelope_eq_ok.2 ⟨hsats, top, hanswered, rfl⟩]

/-- Whatever is answered meanwhile, no other response is given. -/
theorem payRequest_inHighest (hfalling : Falling setup.versions) (hne : setup.versions ≠ [])
    (hsats : r.AsksSats) (hversion : r.version = none) (k : TicketId) :
    (payRequest setup k (.full r)).run.Gives (fun _ => True) fun x =>
      ∀ response, x = .ok response → response.InHighest setup.versions := by
  rw [payRequest_eq]
  refine Gives.andThen (responderStore_explains _) (fun found _ => ?_) fun _ _ => nofun
  refine Gives.andThen (explains_orThrow _ found) (fun payment _ => ?_) fun _ _ => nofun
  dsimp only
  split
  · exact nofun
  · refine Gives.andThen (currentInvoice_explains payment) (fun encoded _ => ?_) fun _ _ => nofun
    have hquoted : (quoted setup r payment encoded).InHighest setup.versions :=
      quoted_inHighest hfalling hne hsats hversion encoded
    unfold respond
    dsimp only
    split
    · refine ⟨trivial, fun _ => ?_⟩
      rintro _ ⟨⟩
      exact hquoted
    · rintro _ ⟨⟩
      exact hquoted

/-- A payment that is pending, with an invoice that can still be paid, is quoted. -/
theorem payRequest_responds (hs : s.Coherent) (hp : s.paymentForTicket k = some p)
    (hpending : p.status = .pending) (hi : s.invoices.find? k = some i)
    (hpayable : ¬ i.expiresAt ≤ now) (hclock : ∀ h, w h .now = now) :
    Ends w (fun x _ _ => ∃ response, x = .ok response) (payRequest setup k body).run s h := by
  have hread : s.perform (.paymentForTicket k) = (.ok (some p), s) := by
    rw [← hp]
    rfl
  obtain ⟨hfind, rfl⟩ := hs.paymentForTicket_iff.1 hp
  rw [payRequest_eq]
  refine .ok (responderStore_alone hread) (.ok rfl ?_)
  dsimp only
  rw [if_neg (not_not.2 hpending)]
  obtain ⟨_, h', hrun, rfl⟩ := currentInvoice_alone hi hclock
    (.call (.paymentForTicket p.ticketId) (.ok (some p)) :: h)
  rw [if_neg hpayable] at hrun
  refine .ok hrun ((respond_alone hfind setup body i w h').mono ?_)
  rintro _ _ _ - ⟨response, rfl, -⟩
  exact ⟨response, rfl⟩

end Service

/-! ### The configured list -/

/-- The services speak the versions of a list: they quote in the highest where the payer's side
leaves the version open. -/
structure Setup.Speaks (setup : Setup) (vs : List UInt32) : Prop where
  versions : setup.versions = vs
  /-- Whatever the store and the others answer. -/
  highest {k : TicketId} {r : FullRequest} : r.AsksSats → r.version = none →
    (Service.payRequest setup k (.full r)).run.Gives (fun _ => True) fun x =>
      ∀ response, x = .ok response → response.InHighest vs
  /-- There is a response for a pending payment with an invoice that can still be paid. -/
  responds {s : Store} {k : TicketId} {p : Payment} {i : Invoice} {now : Time.Instant}
    {r : FullRequest} {w : Surroundings} {h : List Turn} : s.Coherent →
    s.paymentForTicket k = some p → p.status = .pending → s.invoices.find? k = some i →
    ¬ i.expiresAt ≤ now → (∀ h, w h .now = now) →
    Ends w (fun x _ _ => ∃ response, x = .ok response)
      (Service.payRequest setup k (.full r)).run s h

theorem Setup.speaks {setup : Setup} (hfalling : Falling setup.versions)
    (hne : setup.versions ≠ []) : setup.Speaks setup.versions where
  versions := rfl
  highest hsats hversion := Service.payRequest_inHighest hfalling hne hsats hversion _
  responds := Service.payRequest_responds

/-- The list in the environment is what the services speak, if it can be read. -/
theorem Setup.versions_of_environment {env : Environment} {setup : Setup} {raw : String}
    {vs : List UInt32} (hraw : env "UMA_SUPPORTED_VERSIONS" = some raw)
    (hsetup : Setup.ofConfig (.ofEnvironment env) = .ok setup)
    (hvs : parseVersions raw = some vs) : setup.versions = vs := by
  unfold Setup.ofConfig at hsetup
  split at hsetup
  · cases hsetup
  · obtain rfl := Except.ok.inj hsetup
    simp only [Config.ofEnvironment, hraw, Option.bind_some, hvs, Option.getD_some]

/-- A raw list of versions is read if each entry between its commas is a numeral, and as the numbers
named, the highest first. In a list that is read, the first version that the others speak as well is
the one agreed on. A box office that is configured with it speaks its highest version by default. -/
theorem Protocol.parseVersions_reads (raw : String) : ∃ entries,
    (∀ es, Lists raw.toList es ↔ es = entries) ∧
    ((∃ vs, parseVersions raw = some vs) ↔ ∀ e ∈ entries, ∃ v, Reads e v) ∧
    (∀ raw' es, Lists raw'.toList es → (∀ e, e ∈ es ↔ e ∈ entries) →
      parseVersions raw' = parseVersions raw) ∧
    ∀ vs, parseVersions raw = some vs → Names entries vs ∧
      (∀ theirs, negotiate vs theirs = vs.find? theirs.contains) ∧
      ∀ env setup, env "UMA_SUPPORTED_VERSIONS" = some raw →
        Setup.ofConfig (.ofEnvironment env) = .ok setup → setup.Speaks vs := by
  refine ⟨splitCommas raw.toList, fun es => lists_iff, ?_, ?_, ?_⟩
  · constructor
    · rintro ⟨vs, hvs⟩
      exact (names_of_parseVersions hvs).1
    · exact exists_parseVersions
  · intro raw' es hes hsame
    rw [lists_iff.1 hes] at hsame
    exact parseVersions_congr hsame
  · intro vs hvs
    obtain ⟨-, hnames⟩ := names_of_parseVersions hvs
    refine ⟨hnames, negotiate_of_falling hnames.falling, fun env setup hraw hsetup => ?_⟩
    obtain rfl := Setup.versions_of_environment hraw hsetup hvs
    exact Setup.speaks hnames.falling hnames.nonempty

/-- An environment with a list that is out of order, and nothing else. -/
def sampleEnvironment : Environment := fun name =>
  if name = "UMA_SUPPORTED_VERSIONS" then some "0, +12 ,3,0" else none

/-- The list is read, and configured. -/
theorem Protocol.parseVersions_reads_unordered : ∃ setup,
    Setup.ofConfig (.ofEnvironment sampleEnvironment) = .ok setup ∧
    parseVersions "0, +12 ,3,0" = some [12, 3, 0] ∧
    negotiate [12, 3, 0] [0, 3, 7] = some 3 ∧ setup.Speaks [12, 3, 0] := by
  obtain ⟨_, -, -, -, hread⟩ := parseVersions_reads "0, +12 ,3,0"
  have hvs : parseVersions "0, +12 ,3,0" = some [12, 3, 0] := by decide +kernel
  obtain ⟨-, hnegotiate, hspeaks⟩ := hread _ hvs
  cases hsetup : Setup.ofConfig (.ofEnvironment sampleEnvironment) with
  | ok setup =>
    exact ⟨setup, rfl, hvs, hnegotiate [0, 3, 7], hspeaks sampleEnvironment setup rfl hsetup⟩
  | error e =>
    have hok : (Setup.ofConfig (.ofEnvironment sampleEnvironment)).toBool = true := by
      decide +kernel
    rw [hsetup] at hok
    cases hok

end BoxOffice
