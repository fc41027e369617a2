import BoxOffice.Client.Exchange
import BoxOffice.Proofs.Text.Utf8

/-! Excerpts. The boundaries in the bytes of a text are the lengths of its beginnings, so the search
for one ends at the longest beginning that fits. A character has four bytes at the most, and so no
more than three bytes are given away. -/

namespace BoxOffice

namespace Text

/-! ### Boundaries -/

theorem isBoundary_iff {bs : Bytes} {n : Nat} :
    isBoundary bs n ↔ n = 0 ∨ n ≤ bs.length ∧ ∀ b ∈ bs[n]?, isTail b = false := by
  unfold isBoundary
  cases h : bs[n]? with
  | none =>
    have hn := List.getElem?_eq_none_iff.1 h
    simp
    omega
  | some b =>
    have hn := (List.getElem?_eq_some_iff.1 h).1
    simp [Nat.le_of_lt hn]

theorem isBoundary_zero (bs : Bytes) : isBoundary bs 0 := rfl

/-- A text does not begin with a byte that continues a character. -/
theorem isTail_head_encodeChars (cs : List Char) :
    ∀ b ∈ (encodeChars cs)[0]?, isTail b = false := by
  intro b hb
  cases cs with
  | nil => cases hb
  | cons c cs =>
    obtain ⟨a, tail, hc, ha, -⟩ := utf8EncodeChar_eq c
    rw [encodeChars_cons, hc] at hb
    cases hb
    exact ha

/-- There is no boundary within a character. -/
theorem not_isBoundary_within {c : Char} {n : Nat} (hpos : 0 < n)
    (hn : n < (String.utf8EncodeChar c).length) (rest : Bytes) :
    ¬ isBoundary (String.utf8EncodeChar c ++ rest) n := by
  obtain ⟨a, tail, hc, -, htail⟩ := utf8EncodeChar_eq c
  obtain ⟨k, rfl⟩ := Nat.exists_eq_succ_of_ne_zero (Nat.ne_of_gt hpos)
  rw [hc, List.length_cons] at hn
  have hk : k < tail.length := Nat.lt_of_succ_lt_succ hn
  have hbyte : (String.utf8EncodeChar c ++ rest)[k + 1]? = some tail[k] := by
    rw [hc, List.cons_append, List.getElem?_cons_succ, List.getElem?_append_left hk,
      List.getElem?_eq_getElem hk]
  intro hboundary
  rcases isBoundary_iff.1 hboundary with hzero | ⟨-, hhead⟩
  · cases hzero
  · exact absurd (htail _ (List.getElem_mem hk)) (by rw [hhead _ hbyte]; decide)

/-- Behind a character are the boundaries of the rest. -/
theorem isBoundary_behind (c : Char) (cs : List Char) (n : Nat) :
    isBoundary (String.utf8EncodeChar c ++ encodeChars cs) ((String.utf8EncodeChar c).length + n) ↔
      isBoundary (encodeChars cs) n := by
  have hpos : (String.utf8EncodeChar c).length ≠ 0 := by
    obtain ⟨a, tail, hc, -⟩ := utf8EncodeChar_eq c
    rw [hc]
    exact Nat.succ_ne_zero _
  rw [isBoundary_iff, isBoundary_iff, List.length_append, Nat.add_le_add_iff_left,
    List.getElem?_append_right (Nat.le_add_right _ _), Nat.add_sub_cancel_left]
  constructor
  · rintro (hzero | hrest)
    · exact absurd (Nat.add_eq_zero_iff.1 hzero).1 hpos
    · exact .inr hrest
  · rintro (rfl | hrest)
    · exact .inr ⟨Nat.zero_le _, isTail_head_encodeChars cs⟩
    · exact .inr hrest

/-- The boundaries of a text are the lengths of its beginnings. -/
theorem isBoundary_encodeChars {cs : List Char} {n : Nat} :
    isBoundary (encodeChars cs) n ↔ ∃ front, front <+: cs ∧ (encodeChars front).length = n := by
  induction cs generalizing n with
  | nil =>
    have hnil : isBoundary (encodeChars []) n ↔ n = 0 := by
      rw [isBoundary_iff]
      simp [encodeChars]
    rw [hnil]
    constructor
    · rintro rfl
      exact ⟨[], List.prefix_rfl, rfl⟩
    · rintro ⟨front, hfront, rfl⟩
      rw [List.prefix_nil.1 hfront]
      rfl
  | cons c cs ih =>
    rw [encodeChars_cons]
    constructor
    · intro h
      by_cases hzero : n = 0
      · exact ⟨[], List.nil_prefix, hzero ▸ rfl⟩
      · have hbehind : (String.utf8EncodeChar c).length ≤ n := Nat.not_lt.1 fun hwithin =>
          not_isBoundary_within (Nat.pos_of_ne_zero hzero) hwithin _ h
        obtain ⟨m, rfl⟩ := Nat.exists_eq_add_of_le hbehind
        obtain ⟨front, hfront, rfl⟩ := ih.1 ((isBoundary_behind c cs m).1 h)
        refine ⟨c :: front, List.cons_prefix_cons.2 ⟨rfl, hfront⟩, ?_⟩
        rw [encodeChars_cons, List.length_append]
    · rintro ⟨front, hfront, rfl⟩
      cases front with
      | nil => exact isBoundary_zero _
      | cons d front =>
        obtain ⟨rfl, hrest⟩ := List.cons_prefix_cons.1 hfront
        rw [encodeChars_cons, List.length_append, isBoundary_behind]
        exact ih.2 ⟨front, hrest, rfl⟩

/-! ### The search -/

/-- The search ends, at zero if not before, and it ends at the last boundary. -/
theorem boundaryBelow_eq (bs : Bytes) (n : Nat) : ∃ m, boundaryBelow bs n = some m ∧ m ≤ n ∧
    isBoundary bs m ∧ ∀ k, k ≤ n → isBoundary bs k → k ≤ m := by
  induction n with
  | zero => exact ⟨0, rfl, Nat.le_refl 0, isBoundary_zero bs, fun k hk _ => hk⟩
  | succ n ih =>
    by_cases h : isBoundary bs (n + 1)
    · exact ⟨n + 1, by rw [boundaryBelow, if_pos h], Nat.le_refl _, h, fun k hk _ => hk⟩
    · obtain ⟨m, hm, hle, hboundary, hlast⟩ := ih
      refine ⟨m, by rw [boundaryBelow, if_neg h]; exact hm, Nat.le_succ_of_le hle, hboundary, ?_⟩
      intro k hk hk'
      rcases Nat.le_succ_iff.1 hk with hk | rfl
      · exact hlast k hk hk'
      · exact absurd hk' h

/-! ### Excerpts -/

theorem length_encodeUtf8 (s : String) : (encodeUtf8 s).length = s.utf8ByteSize := by
  rw [encodeUtf8, Array.length_toList]
  rfl

theorem encodeChars_eq_nil {cs : List Char} (h : (encodeChars cs).length = 0) : cs = [] := by
  cases cs with
  | nil => rfl
  | cons c cs =>
    obtain ⟨a, tail, hc, -⟩ := utf8EncodeChar_eq c
    rw [encodeChars_cons, hc] at h
    cases h

/-- Of two beginnings of a text, the one with no more bytes begins the other. -/
theorem prefix_of_length_le {cs front other : List Char} (hfront : front <+: cs)
    (hother : other <+: cs) (hle : (encodeChars other).length ≤ (encodeChars front).length) :
    other <+: front := by
  rcases List.prefix_or_prefix_of_prefix hother hfront with h | ⟨more, rfl⟩
  · exact h
  · rw [encodeChars_append, List.length_append] at hle
    have hnil : more = [] := encodeChars_eq_nil (by omega)
    simp only [hnil, List.append_nil, List.prefix_rfl]

/-- The second text is the longest beginning of the first that has no more than `limit` bytes. -/
structure Excerpts (limit : Nat) (s e : String) : Prop where
  front : e.toList <+: s.toList
  fits : e.utf8ByteSize ≤ limit
  longest : ∀ other : String, other.toList <+: s.toList → other.utf8ByteSize ≤ limit →
    other.toList <+: e.toList

namespace Excerpts

variable {limit : Nat} {s e : String}

theorem whole (h : Excerpts limit s e) (hs : s.utf8ByteSize ≤ limit) : e = s :=
  String.toList_inj.1 (h.front.eq_of_length_le (h.longest s List.prefix_rfl hs).length_le)

/-- One more character would not have fitted, and it has four bytes at the most. -/
theorem nearly (h : Excerpts limit s e) (hs : limit < s.utf8ByteSize) :
    limit ≤ e.utf8ByteSize + 3 := by
  obtain ⟨rest, hrest⟩ := h.front
  cases rest with
  | nil =>
    rw [List.append_nil] at hrest
    rw [String.toList_inj.1 hrest] at h
    exact absurd h.fits (Nat.not_le.2 hs)
  | cons c rest =>
    have hsize : (e ++ String.singleton c).utf8ByteSize = e.utf8ByteSize + c.utf8Size := by
      rw [String.utf8ByteSize_append, String.utf8ByteSize_singleton]
    have hfour := c.utf8Size_le_four
    have hlonger : ¬ (e ++ String.singleton c).utf8ByteSize ≤ limit := by
      intro hfits
      have hshorter := (h.longest _ ⟨rest, by simp [hrest]⟩ hfits).length_le
      rw [String.toList_append, List.length_append, String.toList_singleton] at hshorter
      exact Nat.not_succ_le_self _ hshorter
    omega

end Excerpts

/-- Cutting never fails: it is done at the last boundary that the search comes to. -/
theorem cut_excerpts (limit : Nat) (s : String) : ∃ e, cut limit s = some e ∧ Excerpts limit s e ∧
    (limit < s.utf8ByteSize → ∃ n, boundaryBelow (encodeUtf8 s) limit = some n ∧
      truncate (encodeUtf8 s) n = some (encodeUtf8 e)) := by
  by_cases hfits : s.utf8ByteSize ≤ limit
  · refine ⟨s, ?_, ⟨List.prefix_rfl, hfits, fun other hother _ => hother⟩,
      fun h => absurd hfits (Nat.not_le.2 h)⟩
    rw [cut, if_pos (by rwa [length_encodeUtf8])]
  · obtain ⟨n, hn, hle, hboundary, hlast⟩ := boundaryBelow_eq (encodeUtf8 s) limit
    rw [encodeUtf8_eq] at hboundary
    obtain ⟨front, hfront, hlength⟩ := isBoundary_encodeChars.1 hboundary
    have hbytes : encodeUtf8 (String.ofList front) = encodeChars front := by
      rw [encodeUtf8_eq, String.toList_ofList]
    have htruncate : truncate (encodeUtf8 s) n = some (encodeUtf8 (String.ofList front)) := by
      have hshort : ¬ (encodeUtf8 s).length < n := by
        rw [length_encodeUtf8]
        omega
      rw [truncate, if_neg hshort, if_pos (encodeUtf8_eq s ▸ hboundary), hbytes]
      obtain ⟨rest, hrest⟩ := hfront
      rw [encodeUtf8_eq, ← hrest, encodeChars_append, ← hlength, List.take_left]
    refine ⟨String.ofList front, ?_, ⟨?_, ?_, ?_⟩, fun _ => ⟨n, hn, htruncate⟩⟩
    · simp only [cut, length_encodeUtf8, if_neg hfits, hn, htruncate, decodeUtf8_encodeUtf8,
        Option.bind_eq_bind, Option.bind_some, Option.pure_def, String.toList_ofList]
    · rwa [String.toList_ofList]
    · rw [← length_encodeUtf8, hbytes, hlength]
      exact hle
    · intro other hother hsize
      rw [String.toList_ofList]
      rw [← length_encodeUtf8, encodeUtf8_eq] at hsize
      refine prefix_of_length_le hfront hother ?_
      rw [hlength]
      exact hlast _ hsize (encodeUtf8_eq s ▸ isBoundary_encodeChars.2 ⟨_, hother, rfl⟩)

example : cut 5 "aé€b" = some "aé" := by decide +kernel

end Text

namespace Client.Reply

/-- An excerpt of a text is its longest beginning of at most 512 bytes. There always is one, of a
reply as well: the search for a boundary does not pass zero, and no character is cut. -/
theorem excerptOf_longest :
    (∀ body : String, ∃ e, excerptOf body = some e ∧ Text.Excerpts 512 body e ∧
      (body.utf8ByteSize ≤ 512 → e = body) ∧
      (512 < body.utf8ByteSize → 509 ≤ e.utf8ByteSize ∧ ∃ n,
        Text.boundaryBelow (Text.encodeUtf8 body) 512 = some n ∧
        Text.truncate (Text.encodeUtf8 body) n = some (Text.encodeUtf8 e))) ∧
    ∀ r : Reply, Text.Excerpts 512 r.text r.excerpt := by
  constructor
  · intro body
    obtain ⟨e, hcut, he, hsearch⟩ := Text.cut_excerpts 512 body
    refine ⟨e, hcut, he, he.whole, fun hlong => ⟨?_, hsearch hlong⟩⟩
    have hnearly := he.nearly hlong
    omega
  · intro r
    obtain ⟨e, hcut, he, -⟩ := Text.cut_excerpts excerptLimit r.text
    rwa [excerpt, excerptOf, hcut]

end Client.Reply

end BoxOffice
