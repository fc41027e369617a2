import Mathlib
import BoxOffice.Address

/-! Addresses in their written form. What can be read is a dollar sign and two parts of allowed
letters around an at sign. An address is written with its domain in small letters, and reads as
itself. A text that is not an address has one fault that is reported. -/

namespace BoxOffice

namespace Address

theorem isDomainChar_toLower {c : Char} (h : isDomainChar c) : isDomainChar c.toLower := by
  by_cases hupper : c.isUpper
  · have halpha : c.isAlpha := Bool.or_eq_true_iff.2 (.inl hupper)
    simp [isDomainChar, Char.isAlphanum, halpha]
  · rwa [Char.toLower_eq_of_not_isUpper hupper]

/-- The at sign is the only one. -/
theorem splitAtSign_eq_some {cs before after : List Char} :
    splitAtSign cs = some (before, after) ↔
      cs = before ++ '@' :: after ∧ '@' ∉ before ∧ '@' ∉ after := by
  rw [splitAtSign, List.span_eq_takeWhile_dropWhile]
  constructor
  · intro h
    have hcut := List.takeWhile_append_dropWhile (p := (· != '@')) (l := cs)
    have hkept : '@' ∉ cs.takeWhile (· != '@') := by
      intro hm
      simpa using List.all_eq_true.1 (List.all_takeWhile (p := (· != '@')) (l := cs)) _ hm
    cases hrest : cs.dropWhile (· != '@') with
    | nil =>
      rw [hrest] at h
      cases h
    | cons c rest =>
      have hc : c = '@' := by
        simpa [hrest] using List.head_dropWhile_not (p := (· != '@')) (l := cs) (by simp [hrest])
      rw [hrest] at h hcut
      subst hc
      dsimp only at h
      split at h
      · cases h
      · next hafter =>
        cases h
        exact ⟨hcut.symm, hkept, by simpa using hafter⟩
  · rintro ⟨rfl, hbefore, hafter⟩
    have hkept : ∀ c ∈ before, (c != '@') = true := by
      intro c hc
      exact bne_iff_ne.2 fun he => hbefore (he ▸ hc)
    rw [List.takeWhile_append_of_pos hkept, List.dropWhile_append_of_pos hkept]
    simp [hafter]

theorem parse_eq_ok {s : String} {a : Address} : parse s = .ok a ↔
    ∃ before after, s.toList = '$' :: (before ++ '@' :: after) ∧ before ≠ [] ∧ after ≠ [] ∧
      (∀ c ∈ before, isLocalChar c) ∧ (∀ c ∈ after, isDomainChar c) ∧
      a = ⟨String.ofList before, String.ofList (Text.lowerAscii after)⟩ := by
  have hallowed : ∀ {p : Char → Bool} {cs : List Char},
      cs.find? (!p ·) = none ↔ ∀ c ∈ cs, p c := by simp
  constructor
  · intro h
    unfold parse at h
    split at h
    · next rest hrest =>
      split at h
      · cases h
      · next before after hsplit =>
        obtain ⟨rfl, -, -⟩ := splitAtSign_eq_some.1 hsplit
        split at h
        · cases h
        · next hbefore =>
          split at h
          · cases h
          · next hafter =>
            split at h
            · cases h
            · cases h
            · next hlocal hdomain =>
              cases h
              exact ⟨before, after, hrest, by simpa using hbefore, by simpa using hafter,
                hallowed.1 hlocal, hallowed.1 hdomain, rfl⟩
    · cases h
  · rintro ⟨before, after, hs, hbefore, hafter, hlocal, hdomain, rfl⟩
    have hsplit : splitAtSign (before ++ '@' :: after) = some (before, after) :=
      splitAtSign_eq_some.2 ⟨rfl, fun hm => absurd (hlocal _ hm) (by decide),
        fun hm => absurd (hdomain _ hm) (by decide)⟩
    simp only [parse, hs, hsplit, List.isEmpty_iff, hbefore, hafter, if_false,
      hallowed.2 hlocal, hallowed.2 hdomain]

/-- What an address is written as reads as the address. -/
theorem parse_toString {s : String} {a : Address} (h : parse s = .ok a) :
    parse a.toString = .ok a := by
  obtain ⟨before, after, -, hbefore, hafter, hlocal, hdomain, rfl⟩ := parse_eq_ok.1 h
  refine parse_eq_ok.2 ⟨before, Text.lowerAscii after, ?_, hbefore, ?_, hlocal, ?_, ?_⟩
  · simp [Address.toString]
  · simpa [Text.lowerAscii] using hafter
  · intro c hc
    obtain ⟨d, hd, rfl⟩ := List.mem_map.1 hc
    exact isDomainChar_toLower (hdomain d hd)
  · simp [Text.lowerAscii, Function.comp_def, Char.toLower_toLower_eq_toLower]

/-! ### Letters -/

/-- A letter of the Latin alphabet or a digit. -/
def Alphanumeric (c : Char) : Prop :=
  ('A' ≤ c ∧ c ≤ 'Z') ∨ ('a' ≤ c ∧ c ≤ 'z') ∨ ('0' ≤ c ∧ c ≤ '9')

def LocalLetter (c : Char) : Prop := Alphanumeric c ∨ c ∈ ['.', '_', '+', '-']

def DomainLetter (c : Char) : Prop := Alphanumeric c ∨ c ∈ ['.', ':', '-']

/-- The second is the first as a small letter: a capital of the Latin alphabet is moved on by 32,
and all else stays. -/
def Lowers (c d : Char) : Prop := if 'A' ≤ c ∧ c ≤ 'Z' then d.toNat = c.toNat + 32 else d = c

theorem alphanumeric_iff {c : Char} : Alphanumeric c ↔ c.isAlphanum := by
  simp only [Alphanumeric, Char.isAlphanum, Char.isAlpha, Char.isUpper, Char.isLower,
    Char.isDigit, Bool.or_eq_true, Bool.and_eq_true, decide_eq_true_eq, Char.le_def, ge_iff_le,
    or_assoc]

theorem localLetter_iff {c : Char} : LocalLetter c ↔ isLocalChar c := by
  simp only [LocalLetter, alphanumeric_iff, isLocalChar, List.mem_cons, List.not_mem_nil, or_false,
    Bool.or_eq_true, beq_iff_eq]
  tauto

theorem domainLetter_iff {c : Char} : DomainLetter c ↔ isDomainChar c := by
  simp only [DomainLetter, alphanumeric_iff, isDomainChar, List.mem_cons, List.not_mem_nil,
    or_false, Bool.or_eq_true, beq_iff_eq]
  tauto

theorem lowers_iff {c d : Char} : Lowers c d ↔ d = c.toLower := by
  have hgap : ('a'.val - 'A'.val).toNat = 32 := rfl
  have hZ : 'Z'.val.toNat = 90 := rfl
  unfold Lowers Char.toLower
  simp only [ge_iff_le, Char.le_def]
  split
  · next h =>
    have hle := UInt32.le_iff_toNat_le.1 h.2
    simp only [Char.ext_iff, Char.toNat, ← UInt32.toNat_inj, UInt32.toNat_add]
    omega
  · rfl

/-- Small letters throughout. -/
theorem forall₂_lowers {cs ds : List Char} :
    List.Forall₂ Lowers cs ds ↔ ds = Text.lowerAscii cs := by
  rw [Text.lowerAscii]
  induction cs generalizing ds with
  | nil => simp
  | cons c cs ih =>
    cases ds with
    | nil => simp
    | cons d ds => simp [lowers_iff, ih]

/-! ### Parts -/

/-- The text is a dollar sign, and two parts around its only at sign. -/
structure Parts (s : String) (before after : List Char) : Prop where
  written : s.toList = '$' :: (before ++ '@' :: after)
  before : '@' ∉ before
  after : '@' ∉ after

/-- The text is an address: both parts have letters, and only such as they may have. -/
structure Spells (s : String) (before after : List Char) : Prop where
  written : s.toList = '$' :: (before ++ '@' :: after)
  before : before ≠ [] ∧ ∀ c ∈ before, LocalLetter c
  after : after ≠ [] ∧ ∀ c ∈ after, DomainLetter c

/-- The fault that is reported of a text. Each is looked for when those above it are ruled out. -/
inductive Faulty (s : String) : AddressError → Prop
  | missingDollar (h : s.toList.head? ≠ some '$') : Faulty s .missingDollar
  | badSeparator {rest : List Char} (written : s.toList = '$' :: rest)
      (h : rest.count '@' ≠ 1) : Faulty s .badSeparator
  | emptyLocalPart {after : List Char} (parts : Parts s [] after) : Faulty s .emptyLocalPart
  | emptyDomain {before : List Char} (parts : Parts s before []) (hbefore : before ≠ []) :
      Faulty s .emptyDomain
  | inLocalPart {good rest after : List Char} {c : Char} (parts : Parts s (good ++ c :: rest) after)
      (hafter : after ≠ []) (hgood : ∀ b ∈ good, LocalLetter b) (hc : ¬ LocalLetter c) :
      Faulty s (.invalidCharacter c)
  | inDomain {before good rest : List Char} {c : Char} (parts : Parts s before (good ++ c :: rest))
      (hbefore : before ≠ []) (hlocal : ∀ b ∈ before, LocalLetter b)
      (hgood : ∀ b ∈ good, DomainLetter b) (hc : ¬ DomainLetter c) : Faulty s (.invalidCharacter c)

theorem splitAtSign_eq_none {cs : List Char} : splitAtSign cs = none ↔ cs.count '@' ≠ 1 := by
  constructor
  · intro hnone hone
    have hmem : '@' ∈ cs := List.count_pos_iff.1 (by omega)
    obtain ⟨before, after, rfl, hbefore⟩ := List.eq_append_cons_of_mem hmem
    have hafter : '@' ∉ after := by
      rw [← List.count_eq_zero]
      rw [List.count_append, List.count_cons_self] at hone
      omega
    cases hnone.symm.trans (splitAtSign_eq_some.2 ⟨rfl, hbefore, hafter⟩)
  · intro hcount
    cases hsplit : splitAtSign cs with
    | none => rfl
    | some parts =>
      obtain ⟨rfl, hbefore, hafter⟩ := splitAtSign_eq_some.1 hsplit
      simp [List.count_eq_zero.2 hbefore, List.count_eq_zero.2 hafter] at hcount

theorem Parts.split {s : String} {before after : List Char} (h : Parts s before after) :
    splitAtSign (before ++ '@' :: after) = some (before, after) :=
  splitAtSign_eq_some.2 ⟨rfl, h.before, h.after⟩

/-- The first letter that is not allowed. -/
theorem find?_not_eq_some {p : Char → Bool} {cs : List Char} {c : Char} :
    cs.find? (!p ·) = some c ↔
      ∃ good rest, cs = good ++ c :: rest ∧ (∀ b ∈ good, p b) ∧ ¬ p c := by
  rw [List.find?_eq_some_iff_append]
  constructor
  · rintro ⟨hc, good, rest, rfl, hgood⟩
    exact ⟨good, rest, rfl, by simpa using hgood, by simpa using hc⟩
  · rintro ⟨good, rest, rfl, hgood, hc⟩
    exact ⟨by simpa using hc, good, rest, rfl, by simpa using hgood⟩

theorem find?_not_eq_none {p : Char → Bool} {cs : List Char} :
    cs.find? (!p ·) = none ↔ ∀ c ∈ cs, p c := by
  simp

theorem faulty_of_parse {s : String} {e : AddressError} (h : parse s = .error e) : Faulty s e := by
  unfold parse at h
  split at h
  · next rest hrest =>
    split at h
    · next hnone =>
      cases h
      exact .badSeparator hrest (splitAtSign_eq_none.1 hnone)
    · next before after hsplit =>
      obtain ⟨rfl, hbefore, hafter⟩ := splitAtSign_eq_some.1 hsplit
      have hparts : Parts s before after := ⟨hrest, hbefore, hafter⟩
      split at h
      · next hempty =>
        cases h
        cases List.isEmpty_iff.1 hempty
        exact .emptyLocalPart hparts
      · next hne =>
        split at h
        · next hempty =>
          cases h
          cases List.isEmpty_iff.1 hempty
          exact .emptyDomain hparts (mt List.isEmpty_iff.2 hne)
        · next hne' =>
          split at h
          · next hc =>
            cases h
            obtain ⟨good, rest, rfl, hgood, hc⟩ := find?_not_eq_some.1 hc
            simp only [← localLetter_iff] at hgood hc
            exact .inLocalPart hparts (mt List.isEmpty_iff.2 hne') hgood hc
          · next hlocal hc =>
            cases h
            obtain ⟨good, rest, rfl, hgood, hc⟩ := find?_not_eq_some.1 hc
            have hlocal := find?_not_eq_none.1 hlocal
            simp only [← localLetter_iff] at hlocal
            simp only [← domainLetter_iff] at hgood hc
            exact .inDomain hparts (mt List.isEmpty_iff.2 hne) hlocal hgood hc
          · cases h
  · next hrest =>
    cases h
    refine .missingDollar fun hhead => ?_
    obtain ⟨rest, hs⟩ := List.head?_eq_some_iff.1 hhead
    exact hrest rest hs

theorem Faulty.parse {s : String} {e : AddressError} (h : Faulty s e) : parse s = .error e := by
  cases h with
  | missingDollar h =>
    unfold Address.parse
    split
    · next hs =>
      rw [hs] at h
      exact absurd rfl h
    · rfl
  | badSeparator hs hcount => simp only [Address.parse, hs, splitAtSign_eq_none.2 hcount]
  | emptyLocalPart parts =>
    have hs := parts.written
    have hsplit := parts.split
    simp only [Address.parse, hs, hsplit, List.isEmpty_nil, if_true]
  | emptyDomain parts hbefore =>
    have hs := parts.written
    have hsplit := parts.split
    simp only [Address.parse, hs, hsplit, List.isEmpty_iff, hbefore, if_true, if_false]
  | @inLocalPart good rest _ c parts hafter hgood hc =>
    simp only [localLetter_iff] at hgood hc
    have hfound : (good ++ c :: rest).find? (!isLocalChar ·) = some c :=
      find?_not_eq_some.2 ⟨good, rest, rfl, hgood, hc⟩
    have hne : good ++ c :: rest ≠ [] := by simp
    simp only [Address.parse, parts.written, parts.split, List.isEmpty_iff, hne, hafter, if_false,
      hfound]
  | @inDomain before good rest c parts hbefore hlocal hgood hc =>
    simp only [localLetter_iff] at hlocal
    simp only [domainLetter_iff] at hgood hc
    have hfound : (good ++ c :: rest).find? (!isDomainChar ·) = some c :=
      find?_not_eq_some.2 ⟨good, rest, rfl, hgood, hc⟩
    have hne : good ++ c :: rest ≠ [] := by simp
    simp only [Address.parse, parts.written, parts.split, List.isEmpty_iff, hbefore, hne, if_false,
      find?_not_eq_none.2 hlocal, hfound]

theorem parse_eq_error {s : String} {e : AddressError} : parse s = .error e ↔ Faulty s e :=
  ⟨faulty_of_parse, Faulty.parse⟩

/-- An address is read exactly from the texts that spell one. -/
theorem parse_eq_ok_iff_spells {s : String} {a : Address} : parse s = .ok a ↔
    ∃ before after, Spells s before after ∧
      a = ⟨String.ofList before, String.ofList (Text.lowerAscii after)⟩ := by
  rw [parse_eq_ok]
  simp only [← localLetter_iff, ← domainLetter_iff]
  constructor
  · rintro ⟨before, after, hs, hbefore, hafter, hlocal, hdomain, rfl⟩
    exact ⟨before, after, ⟨hs, ⟨hbefore, hlocal⟩, hafter, hdomain⟩, rfl⟩
  · rintro ⟨before, after, ⟨hs, ⟨hbefore, hlocal⟩, hafter, hdomain⟩, rfl⟩
    exact ⟨before, after, hs, hbefore, hafter, hlocal, hdomain, rfl⟩

theorem Spells.parse {s : String} {before after : List Char} (h : Spells s before after) :
    parse s = .ok ⟨String.ofList before, String.ofList (Text.lowerAscii after)⟩ :=
  parse_eq_ok_iff_spells.2 ⟨before, after, h, rfl⟩

/-! ### Reading and writing -/

/-- What reading a text as an address comes to. -/
structure Reading (s : String) : Prop where
  accepted : (∃ a, parse s = .ok a) ↔ ∃ before after, Spells s before after
  kept {a : Address} {before after : List Char} : parse s = .ok a → Spells s before after →
    a.localPart.toList = before ∧ List.Forall₂ Lowers after a.domain.toList
  /-- What an address is written as reads as the address. -/
  canonical {a : Address} : parse s = .ok a → parse a.toString = .ok a
  idempotent {t : String} : (parse s).map toString = .ok t → (parse t).map toString = .ok t
  /-- Two spellings of one address differ in the case of letters of the domain only. -/
  alike {s' : String} {before after before' after' : List Char} : Spells s before after →
    Spells s' before' after' → (parse s = parse s' ↔ before = before' ∧
      ∃ small, List.Forall₂ Lowers after small ∧ List.Forall₂ Lowers after' small)
  fault {e : AddressError} : parse s = .error e ↔ Faulty s e

theorem parse_reading (s : String) : Reading s := by
  constructor
  case accepted =>
    constructor
    · rintro ⟨a, ha⟩
      obtain ⟨before, after, h, -⟩ := parse_eq_ok_iff_spells.1 ha
      exact ⟨before, after, h⟩
    · rintro ⟨before, after, h⟩
      exact ⟨_, h.parse⟩
  case kept =>
    intro a before after ha h
    cases ha.symm.trans h.parse
    exact ⟨String.toList_ofList, forall₂_lowers.2 String.toList_ofList⟩
  case canonical => exact parse_toString
  case idempotent =>
    intro t ht
    cases hs : parse s with
    | error e => simp [hs, Except.map] at ht
    | ok a =>
      simp only [hs, Except.map, Except.ok.injEq] at ht
      rw [← ht, parse_toString hs]
      rfl
  case alike =>
    intro s' before after before' after' h h'
    rw [h.parse, h'.parse]
    simp [forall₂_lowers, String.ofList_inj]
  case fault => exact parse_eq_error

example : parse "$bob@LOCALHOST:8080" = .ok ⟨"bob", "localhost:8080"⟩ := by rfl

end Address

end BoxOffice
