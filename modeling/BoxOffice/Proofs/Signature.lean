import BoxOffice.Signature

/-! A body that was signed with the secret is taken for genuine: what is written in hexadecimal is
read back, and there is nothing around it to trim. Nothing else is taken for its signature than
what was written, with capitals for some letters perhaps and with blanks around it. -/

namespace BoxOffice

namespace Text

theorem hexValue_hexDigit : ∀ n < 16, hexValue (hexDigit n) = some n := by decide

theorem isBlank_hexDigit : ∀ n < 16, isBlank (hexDigit n) = false := by decide

theorem isBlank_of_mem_hexBytes {bs : Bytes} {c : Char} (hc : c ∈ hexBytes bs) :
    isBlank c = false := by
  obtain ⟨b, -, hb⟩ := List.mem_flatMap.1 hc
  rcases List.mem_cons.1 hb with rfl | hb
  · exact isBlank_hexDigit _ (by have := b.toNat_lt; omega)
  · rw [List.mem_singleton.1 hb]
    exact isBlank_hexDigit _ (Nat.mod_lt _ (by decide))

theorem dropWhile_of_head {p : Char → Bool} {cs : List Char} (h : ∀ c ∈ cs.head?, p c = false) :
    cs.dropWhile p = cs := by
  cases cs with
  | nil => rfl
  | cons c cs => rw [List.dropWhile_cons, h c rfl]; rfl

theorem dropWhile_eq_self {p : Char → Bool} {cs : List Char} (h : ∀ c ∈ cs, p c = false) :
    cs.dropWhile p = cs :=
  dropWhile_of_head fun c hc => h c (List.mem_of_mem_head? hc)

theorem trimBy_eq_self {p : Char → Bool} {cs : List Char} (h : ∀ c ∈ cs, p c = false) :
    trimBy p cs = cs := by
  rw [trimBy, dropWhile_eq_self h, dropWhile_eq_self fun c hc => h c (List.mem_reverse.1 hc),
    List.reverse_reverse]

/-! ### Letters -/

/-- A hexadecimal letter in lower case; every other character stays. -/
def lowerHexLetter (c : Char) : Char := if 'A' ≤ c ∧ c ≤ 'F' then c.toLower else c

/-- The texts are the same up to the case of hexadecimal letters. -/
def SameHex (cs ds : List Char) : Prop := cs.map lowerHexLetter = ds.map lowerHexLetter

theorem hexValue_capital {c : Char} (h : 'A' ≤ c ∧ c ≤ 'F') :
    ∃ n < 16, hexValue c = some n ∧ lowerHexLetter c = hexDigit n := by
  have hlow : 65 ≤ c.toNat := h.1
  have hhigh : c.toNat ≤ 70 := h.2
  have hcases : c.toNat = 65 ∨ c.toNat = 66 ∨ c.toNat = 67 ∨ c.toNat = 68 ∨ c.toNat = 69 ∨
      c.toNat = 70 := by omega
  rw [← Char.ofNat_toNat c]
  rcases hcases with hc | hc | hc | hc | hc | hc <;> rw [hc] <;> decide

theorem lowerHexLetter_hexDigit : ∀ n < 16, lowerHexLetter (hexDigit n) = hexDigit n := by decide

theorem hexValue_lowerHexLetter (c : Char) : hexValue (lowerHexLetter c) = hexValue c := by
  by_cases h : 'A' ≤ c ∧ c ≤ 'F'
  · obtain ⟨n, hn, hvalue, hlower⟩ := hexValue_capital h
    rw [hlower, hexValue_hexDigit n hn, hvalue]
  · rw [lowerHexLetter, if_neg h]

theorem hexDigit_of_hexValue {c : Char} {n : Nat} (hcapital : ¬ ('A' ≤ c ∧ c ≤ 'F'))
    (h : hexValue c = some n) : n < 16 ∧ c = hexDigit n := by
  unfold hexValue at h
  unfold hexDigit
  split at h
  · next hdigit =>
    have hlow : 48 ≤ c.toNat := hdigit.1
    have hhigh : c.toNat ≤ 57 := hdigit.2
    obtain rfl := Option.some.inj h
    rw [if_pos (by omega), Nat.add_sub_cancel' hlow, Char.ofNat_toNat]
    exact ⟨by omega, rfl⟩
  · split at h
    · next hletter =>
      have hlow : 97 ≤ c.toNat := hletter.1
      have hhigh : c.toNat ≤ 102 := hletter.2
      obtain rfl := Option.some.inj h
      rw [if_neg (by omega), Nat.add_sub_cancel' (by omega), Char.ofNat_toNat]
      exact ⟨by omega, rfl⟩
    · cases h

theorem hexValue_eq_some {c : Char} {n : Nat} :
    hexValue c = some n ↔ n < 16 ∧ lowerHexLetter c = hexDigit n := by
  constructor
  · intro h
    by_cases hcapital : 'A' ≤ c ∧ c ≤ 'F'
    · obtain ⟨m, hm, hvalue, hlower⟩ := hexValue_capital hcapital
      cases h.symm.trans hvalue
      exact ⟨hm, hlower⟩
    · rw [lowerHexLetter, if_neg hcapital]
      exact hexDigit_of_hexValue hcapital h
  · rintro ⟨hn, hc⟩
    rw [← hexValue_lowerHexLetter, hc, hexValue_hexDigit n hn]

theorem hexBytes_cons (b : UInt8) (bs : Bytes) :
    hexBytes (b :: bs) = hexDigit (b.toNat / 16) :: hexDigit (b.toNat % 16) :: hexBytes bs := rfl

theorem map_lowerHexLetter_hexBytes (bs : Bytes) :
    (hexBytes bs).map lowerHexLetter = hexBytes bs := by
  induction bs with
  | nil => rfl
  | cons b bs ih =>
    rw [hexBytes_cons, List.map_cons, List.map_cons, ih,
      lowerHexLetter_hexDigit _ (by have := b.toNat_lt; omega),
      lowerHexLetter_hexDigit _ (Nat.mod_lt _ (by decide))]

/-- What is read as bytes is what they are written as, in any case of the letters. -/
theorem readHexBytes_eq_some {cs : List Char} {bs : Bytes} :
    readHexBytes cs = some bs ↔ SameHex cs (hexBytes bs) := by
  rw [SameHex, map_lowerHexLetter_hexBytes]
  induction cs using readHexBytes.induct generalizing bs with
  | case1 => cases bs <;> simp [readHexBytes, hexBytes]
  | case2 c => cases bs <;> simp [readHexBytes, hexBytes]
  | case3 a b rest ih =>
    cases bs with
    | nil => simp [readHexBytes, hexBytes, Option.bind_eq_some_iff]
    | cons byte bs =>
      simp only [readHexBytes, Option.bind_eq_bind, Option.bind_eq_some_iff, Option.pure_def,
        Option.some.injEq, List.cons.injEq, hexValue_eq_some, ih, hexBytes_cons, List.map_cons]
      constructor
      · rintro ⟨high, ⟨hhigh, ha⟩, low, ⟨hlow, hb⟩, bytes, hrest, hbyte, rfl⟩
        have hnumber : byte.toNat = 16 * high + low := by
          rw [← hbyte, UInt8.toNat_ofNat']
          omega
        have hdiv : byte.toNat / 16 = high := by omega
        have hmod : byte.toNat % 16 = low := by omega
        exact ⟨by rw [ha, hdiv], by rw [hb, hmod], hrest⟩
      · rintro ⟨ha, hb, hrest⟩
        refine ⟨_, ⟨by have := byte.toNat_lt; omega, ha⟩, _, ⟨Nat.mod_lt _ (by decide), hb⟩, bs,
          hrest, ?_, rfl⟩
        rw [Nat.div_add_mod, UInt8.ofNat_toNat]

theorem readHexBytes_hexBytes (bs : Bytes) : readHexBytes (hexBytes bs) = some bs :=
  readHexBytes_eq_some.2 rfl

/-! ### Ends -/

/-- The second text is the first without the blanks at its ends. -/
structure Trims (cs core : List Char) : Prop where
  parts : ∃ front back, cs = front ++ core ++ back ∧ (∀ c ∈ front, isBlank c) ∧
    ∀ c ∈ back, isBlank c
  head : ∀ c ∈ core.head?, isBlank c = false
  last : ∀ c ∈ core.getLast?, isBlank c = false

theorem dropWhile_append_of_all {p : Char → Bool} {front : List Char} (h : ∀ c ∈ front, p c)
    (rest : List Char) : (front ++ rest).dropWhile p = rest.dropWhile p := by
  induction front with
  | nil => rfl
  | cons c front ih =>
    rw [List.cons_append, List.dropWhile_cons, if_pos (h c List.mem_cons_self)]
    exact ih fun d hd => h d (List.mem_cons_of_mem _ hd)

theorem isBlank_of_head?_dropWhile (cs : List Char) :
    ∀ c ∈ (cs.dropWhile isBlank).head?, isBlank c = false := by
  intro c hc
  have hhead := List.head?_dropWhile_not isBlank cs
  rwa [Option.mem_def.1 hc] at hhead

theorem Trims.eq {cs core : List Char} (h : Trims cs core) : core = trim cs := by
  obtain ⟨⟨front, back, rfl, hfront, hback⟩, hhead, hlast⟩ := h
  rw [trim, trimBy, List.append_assoc, dropWhile_append_of_all hfront]
  cases core with
  | nil =>
    have hnone := dropWhile_append_of_all hback []
    rw [List.append_nil, List.dropWhile_nil] at hnone
    rw [List.nil_append, hnone]
    rfl
  | cons c core =>
    have hkept : (c :: core ++ back).dropWhile isBlank = c :: core ++ back :=
      dropWhile_of_head hhead
    rw [hkept, List.reverse_append,
      dropWhile_append_of_all (by simpa using hback),
      dropWhile_of_head fun d hd => hlast d (by rwa [List.head?_reverse] at hd),
      List.reverse_reverse]

theorem trims_trim (cs : List Char) : Trims cs (trim cs) := by
  have hfront := List.takeWhile_append_dropWhile (p := isBlank) (l := cs)
  have hback := List.takeWhile_append_dropWhile (p := isBlank) (l := (cs.dropWhile isBlank).reverse)
  have hrest : trim cs ++ ((cs.dropWhile isBlank).reverse.takeWhile isBlank).reverse =
      cs.dropWhile isBlank := by
    rw [trim, trimBy, ← List.reverse_append, hback, List.reverse_reverse]
  refine ⟨⟨_, _, by rw [List.append_assoc, hrest, hfront], ?_, ?_⟩, ?_, ?_⟩
  · exact List.all_eq_true.1 List.all_takeWhile
  · intro c hc
    exact List.all_eq_true.1 List.all_takeWhile c (List.mem_reverse.1 hc)
  · intro c hc
    refine isBlank_of_head?_dropWhile cs c ?_
    rw [← hrest, Option.mem_def, List.head?_append, Option.mem_def.1 hc]
    rfl
  · intro c hc
    rw [trim, trimBy, List.getLast?_reverse] at hc
    exact isBlank_of_head?_dropWhile _ c hc

end Text

namespace Signature

theorem verifyWith_signWith (mac : Mac) (secret body : Bytes) :
    verifyWith mac secret body (signWith mac secret body) := by
  have htrim : Text.trim (Text.hexBytes (mac secret body)) = Text.hexBytes (mac secret body) :=
    Text.trimBy_eq_self fun _ => Text.isBlank_of_mem_hexBytes
  rw [verifyWith, signWith, String.toList_ofList, htrim, Text.readHexBytes_hexBytes]
  exact beq_self_eq_true _

theorem verify_sign (secret body : Bytes) : verify secret body (sign secret body) :=
  verifyWith_signWith _ secret body

theorem verifyWith_iff {mac : Mac} {secret body : Bytes} {text : String} :
    verifyWith mac secret body text ↔ ∃ core, Text.Trims text.toList core ∧
      Text.SameHex core (signWith mac secret body).toList := by
  rw [verifyWith, beq_iff_eq, Text.readHexBytes_eq_some, signWith, String.toList_ofList]
  constructor
  · exact fun h => ⟨_, Text.trims_trim _, h⟩
  · rintro ⟨core, hcore, h⟩
    rwa [hcore.eq] at h

theorem mac_eq_of_verifyWith {mac : Mac} {secret body other : Bytes} {text : String}
    (hbody : verifyWith mac secret body text) (hother : verifyWith mac secret other text) :
    mac secret body = mac secret other := by
  rw [verifyWith, beq_iff_eq] at hbody hother
  exact Option.some.inj (hbody.symm.trans hother)

/-- What a check of signatures by a digest takes for genuine. -/
structure Genuine (mac : Mac) (sign : (secret body : Bytes) → String)
    (verify : (secret body : Bytes) → String → Bool) : Prop where
  /-- A text is accepted if it is the signature, blanks at its ends and the case of its letters
  aside. -/
  exactly (secret body : Bytes) (text : String) : verify secret body text ↔
    ∃ core, Text.Trims text.toList core ∧ Text.SameHex core (sign secret body).toList
  signed (secret body : Bytes) : verify secret body (sign secret body)
  /-- No text stands for two digests. -/
  single {secret body other : Bytes} : mac secret body ≠ mac secret other →
    ∀ text, ¬ (verify secret body text ∧ verify secret other text)

theorem genuine_with (mac : Mac) : Genuine mac (signWith mac) (verifyWith mac) := by
  constructor
  case exactly => exact fun _ _ _ => verifyWith_iff
  case signed => exact verifyWith_signWith mac
  case single =>
    rintro secret body other hne text ⟨hbody, hother⟩
    exact hne (mac_eq_of_verifyWith hbody hother)

/-- Whatever the digest, and so for the one that notifications are signed by: a text is taken for
the signature if it is that, blanks at its ends and the case of its letters aside. What was signed
is accepted, and no text stands for two digests. -/
theorem verifyWith_accepts : (∀ mac, Genuine mac (signWith mac) (verifyWith mac)) ∧
    Genuine Digest.hmacSha256 sign verify :=
  ⟨genuine_with, genuine_with Digest.hmacSha256⟩

/-- A digest that is the body itself, written with a capital and with blanks around it. -/
theorem verifyWith_accepts_raised :
    verifyWith (fun _ body => body) [] [0xAB] " aB\n" ∧
      ¬ verifyWith (fun _ body => body) [] [0xCD] " aB\n" := by
  have hgenuine := verifyWith_accepts.1 fun _ body => body
  have htrims : Text.Trims " aB\n".toList ['a', 'B'] :=
    ⟨⟨[' '], ['\n'], rfl, List.forall_mem_singleton.2 rfl, List.forall_mem_singleton.2 rfl⟩,
      by rintro _ ⟨⟩; rfl, by rintro _ ⟨⟩; rfl⟩
  have hraised : verifyWith (fun _ body => body) [] [0xAB] " aB\n" :=
    (hgenuine.exactly [] [0xAB] " aB\n").2 ⟨_, htrims, rfl⟩
  exact ⟨hraised, fun hother => hgenuine.single (by decide) _ ⟨hraised, hother⟩⟩

end Signature

end BoxOffice
