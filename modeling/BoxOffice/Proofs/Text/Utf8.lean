import BoxOffice.Text.Utf8

/-! Text written as UTF-8 is read back. A character takes one byte to four, by its number; the
bounds of the second byte hold for each, since a character is no surrogate. -/

namespace BoxOffice.Text

/-! ### One character -/

theorem isTail_iff {b : UInt8} : isTail b ↔ 128 ≤ b.toNat ∧ b.toNat ≤ 191 := by
  simp [isTail, UInt8.le_iff_toNat_le]

theorem secondWithin_of {a b : UInt8} (hb : isTail b) (hlow : a.toNat = 0xE0 → 0xA0 ≤ b.toNat)
    (hlow' : a.toNat = 0xF0 → 0x90 ≤ b.toNat) (hhigh : a.toNat = 0xED → b.toNat ≤ 0x9F)
    (hhigh' : a.toNat = 0xF4 → b.toNat ≤ 0x8F) : secondWithin a b := by
  rw [isTail_iff] at hb
  simp only [secondWithin, beq_iff_eq, ← UInt8.toNat_inj, Bool.and_eq_true, decide_eq_true_eq,
    UInt8.le_iff_toNat_le, apply_ite UInt8.toNat, UInt8.reduceToNat]
  constructor
  · split
    · omega
    · split <;> omega
  · split
    · omega
    · split <;> omega

variable {a b c d : UInt8} (rest : Bytes)

theorem lead_one (ha : a.toNat < 0x80) : lead a rest = .char (Char.ofNat a.toNat) 1 := by
  have hone : a < 0x80 := UInt8.lt_iff_toNat_lt.2 ha
  simp only [lead, hone, if_true]

theorem lead_two (ha : 0xC2 ≤ a.toNat ∧ a.toNat < 0xE0) (hb : isTail b) :
    lead a (b :: rest) = .char (Char.ofNat (a.toNat % 32 * 64 + tailBits b)) 2 := by
  have hone : ¬ a.toNat < 0x80 := by omega
  have hbroken : ¬ a.toNat < 0xC2 := by omega
  simp [lead, UInt8.lt_iff_toNat_lt, hone, hbroken, ha.2, hb]

theorem lead_three (ha : 0xE0 ≤ a.toNat ∧ a.toNat < 0xF0) (hb : secondWithin a b) (hc : isTail c) :
    lead a (b :: c :: rest) =
      .char (Char.ofNat ((a.toNat % 16 * 64 + tailBits b) * 64 + tailBits c)) 3 := by
  have hone : ¬ a.toNat < 0x80 := by omega
  have hbroken : ¬ a.toNat < 0xC2 := by omega
  have htwo : ¬ a.toNat < 0xE0 := by omega
  simp [lead, UInt8.lt_iff_toNat_lt, hone, hbroken, htwo, ha.2, hb, hc]

theorem lead_four (ha : 0xF0 ≤ a.toNat ∧ a.toNat < 0xF5) (hb : secondWithin a b) (hc : isTail c)
    (hd : isTail d) : lead a (b :: c :: d :: rest) =
      .char (Char.ofNat (((a.toNat % 8 * 64 + tailBits b) * 64 + tailBits c) * 64 + tailBits d))
        4 := by
  have hone : ¬ a.toNat < 0x80 := by omega
  have hbroken : ¬ a.toNat < 0xC2 := by omega
  have htwo : ¬ a.toNat < 0xE0 := by omega
  have hthree : ¬ a.toNat < 0xF0 := by omega
  simp [lead, UInt8.lt_iff_toNat_lt, hone, hbroken, htwo, hthree, ha.2, hb, hc, hd]

theorem toNat_ofNat_of_lt {n : Nat} (hn : n < 256) : (UInt8.ofNat n).toNat = n := by
  rw [UInt8.toNat_ofNat']
  exact Nat.mod_eq_of_lt hn

theorem toNat_tail (n : Nat) : (UInt8.ofNat (n % 64 + 128)).toNat = n % 64 + 128 :=
  toNat_ofNat_of_lt (by omega)

theorem isTail_tail (n : Nat) : isTail (UInt8.ofNat (n % 64 + 128)) := by
  rw [isTail_iff, toNat_tail]
  omega

theorem tailBits_tail (n : Nat) : tailBits (UInt8.ofNat (n % 64 + 128)) = n % 64 := by
  rw [tailBits, toNat_tail]
  omega

/-- One byte begins a character, and all others continue it. -/
theorem utf8EncodeChar_eq (c : Char) : ∃ a tail, String.utf8EncodeChar c = a :: tail ∧
    isTail a = false ∧ ∀ b ∈ tail, isTail b := by
  have hfirst : ∀ n < 256, n < 128 ∨ 191 < n → isTail (UInt8.ofNat n) = false := by
    intro n hn h
    rw [Bool.eq_false_iff, Ne, isTail_iff, toNat_ofNat_of_lt hn]
    omega
  have htail : ∀ ns : List Nat, ∀ b ∈ ns.map fun n => UInt8.ofNat (n % 64 + 128), isTail b := by
    intro ns b hb
    obtain ⟨n, -, rfl⟩ := List.mem_map.1 hb
    exact isTail_tail n
  unfold String.utf8EncodeChar
  dsimp only
  generalize c.val.toNat = v
  split
  · exact ⟨_, [], rfl, hfirst _ (by omega) (by omega), nofun⟩
  · split
    · exact ⟨_, _, rfl, hfirst _ (by omega) (by omega), htail [v]⟩
    · split
      · exact ⟨_, _, rfl, hfirst _ (by omega) (by omega), htail [v / 64, v]⟩
      · exact ⟨_, _, rfl, hfirst _ (by omega) (by omega), htail [v / 4096, v / 64, v]⟩

/-- The bytes begin with one that tells how many belong to the character. -/
theorem lead_utf8EncodeChar (c : Char) (rest : Bytes) : ∃ a tail,
    String.utf8EncodeChar c = a :: tail ∧ lead a (tail ++ rest) = .char c (tail.length + 1) := by
  have hvalid : c.toNat < 0xD800 ∨ 0xDFFF < c.toNat ∧ c.toNat < 0x110000 := c.valid
  have hchar : ∀ n, n = c.toNat → Char.ofNat n = c := by
    rintro _ rfl
    exact Char.ofNat_toNat c
  have hv : c.val.toNat = c.toNat := rfl
  unfold String.utf8EncodeChar
  simp only [hv]
  generalize c.toNat = v at hvalid hchar
  split
  · refine ⟨_, _, rfl, ?_⟩
    have ha : (UInt8.ofNat v).toNat = v := toNat_ofNat_of_lt (by omega)
    rw [List.nil_append, lead_one rest (by omega), hchar _ ha]
    rfl
  · split
    · refine ⟨_, _, rfl, ?_⟩
      have ha : (UInt8.ofNat (v / 64 % 32 + 192)).toNat = v / 64 + 192 := by
        rw [toNat_ofNat_of_lt (by omega)]
        omega
      rw [List.singleton_append, lead_two rest (by omega) (isTail_tail v), hchar]
      · rfl
      · rw [tailBits_tail, ha]
        omega
    · split
      · refine ⟨_, _, rfl, ?_⟩
        have ha : (UInt8.ofNat (v / 4096 % 16 + 224)).toNat = v / 4096 + 224 := by
          rw [toNat_ofNat_of_lt (by omega)]
          omega
        have hwithin : secondWithin (UInt8.ofNat (v / 4096 % 16 + 224))
            (UInt8.ofNat (v / 64 % 64 + 128)) := by
          apply secondWithin_of (isTail_tail _) <;> rw [ha, toNat_tail] <;> omega
        rw [List.cons_append, List.singleton_append,
          lead_three rest (by omega) hwithin (isTail_tail v), hchar]
        · rfl
        · rw [tailBits_tail, tailBits_tail, ha]
          omega
      · refine ⟨_, _, rfl, ?_⟩
        have ha : (UInt8.ofNat (v / 262144 % 8 + 240)).toNat = v / 262144 + 240 := by
          rw [toNat_ofNat_of_lt (by omega)]
          omega
        have hwithin : secondWithin (UInt8.ofNat (v / 262144 % 8 + 240))
            (UInt8.ofNat (v / 4096 % 64 + 128)) := by
          apply secondWithin_of (isTail_tail _) <;> rw [ha, toNat_tail] <;> omega
        rw [List.cons_append, List.cons_append, List.singleton_append,
          lead_four rest (by omega) hwithin (isTail_tail _) (isTail_tail v), hchar]
        · rfl
        · rw [tailBits_tail, tailBits_tail, tailBits_tail, ha]
          omega

/-! ### Texts -/

/-- The bytes of a text, character by character. -/
def encodeChars (cs : List Char) : Bytes := cs.flatMap String.utf8EncodeChar

theorem encodeUtf8_eq (s : String) : encodeUtf8 s = encodeChars s.toList := by
  rw [encodeUtf8, String.toUTF8, ← String.utf8Encode_toList, List.utf8Encode, encodeChars]
  simp

theorem encodeChars_cons (c : Char) (cs : List Char) :
    encodeChars (c :: cs) = String.utf8EncodeChar c ++ encodeChars cs := List.flatMap_cons

theorem encodeChars_append (cs ds : List Char) :
    encodeChars (cs ++ ds) = encodeChars cs ++ encodeChars ds := List.flatMap_append

theorem encodeUtf8_append (s t : String) : encodeUtf8 (s ++ t) = encodeUtf8 s ++ encodeUtf8 t := by
  simp only [encodeUtf8_eq, String.toList_append, encodeChars_append]

theorem decodeFrom_encodeChars (broken : Option Char) (cs : List Char) {fuel : Nat}
    (hfuel : (encodeChars cs).length ≤ fuel) :
    decodeFrom broken fuel (encodeChars cs) = some cs := by
  induction cs generalizing fuel with
  | nil => cases fuel <;> rfl
  | cons c cs ih =>
    obtain ⟨a, tail, hbytes, hlead⟩ := lead_utf8EncodeChar c (encodeChars cs)
    have hcons : encodeChars (c :: cs) = a :: (tail ++ encodeChars cs) := by
      rw [encodeChars, List.flatMap_cons, hbytes, List.cons_append, encodeChars]
    rw [hcons] at hfuel ⊢
    cases fuel with
    | zero => simp at hfuel
    | succ fuel =>
      rw [List.length_cons, List.length_append] at hfuel
      simp only [decodeFrom, hlead, Nat.add_sub_cancel, List.drop_left]
      rw [ih (by omega)]
      rfl

/-- A text is read back from its bytes. -/
theorem decodeUtf8_encodeUtf8 (s : String) : decodeUtf8 (encodeUtf8 s) = some s.toList := by
  rw [encodeUtf8_eq]
  exact decodeFrom_encodeChars none s.toList (Nat.le_refl _)

theorem encodeUtf8_inj {s t : String} : encodeUtf8 s = encodeUtf8 t ↔ s = t := by
  refine ⟨fun h => ?_, fun h => h ▸ rfl⟩
  have hdecoded := congrArg decodeUtf8 h
  rw [decodeUtf8_encodeUtf8, decodeUtf8_encodeUtf8, Option.some.injEq] at hdecoded
  exact String.toList_injective hdecoded

/-- A zero byte stands for the zero character only. -/
theorem zero_mem_encodeUtf8 {s : String} (h : 0 ∈ encodeUtf8 s) : '\x00' ∈ s.toList := by
  rw [encodeUtf8_eq, encodeChars, List.mem_flatMap] at h
  obtain ⟨c, hc, hzero⟩ := h
  obtain ⟨a, tail, hbytes, -, htail⟩ := utf8EncodeChar_eq c
  rw [hbytes] at hzero
  rcases List.mem_cons.1 hzero with rfl | hzero
  · obtain ⟨a, tail', hbytes', hlead⟩ := lead_utf8EncodeChar c []
    obtain ⟨rfl, rfl⟩ := List.cons.inj (hbytes.symm.trans hbytes')
    rw [lead_one _ (by decide)] at hlead
    obtain ⟨rfl, -⟩ := Lead.char.inj hlead
    exact hc
  · cases htail 0 hzero

end BoxOffice.Text
