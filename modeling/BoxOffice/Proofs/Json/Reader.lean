import BoxOffice.Json.Printer
import BoxOffice.Json.Reader
import BoxOffice.Proofs.Text.Utf8

/-! JSON text that was written is read back, for values without numbers. An escape stands for the
bytes of its character, and every other byte of a string for itself. A reading takes no more steps
than there are bytes, so the fuel lasts. -/

namespace BoxOffice.Json

open Text

/-! ### Pieces of a string -/

theorem mem_utf8EncodeChar {c : Char} {b : UInt8} (hb : b ∈ String.utf8EncodeChar c) :
    b.toNat = c.toNat ∨ 128 ≤ b.toNat := by
  have hv : c.val.toNat = c.toNat := rfl
  unfold String.utf8EncodeChar at hb
  simp only [hv] at hb
  generalize c.toNat = v at hb
  split at hb
  · rw [List.mem_singleton.1 hb]
    exact .inl (toNat_ofNat_of_lt (by omega))
  · refine .inr ?_
    split at hb
    · simp only [List.mem_cons, List.not_mem_nil, or_false] at hb
      rcases hb with rfl | rfl <;> rw [toNat_ofNat_of_lt (by omega)] <;> omega
    · split at hb
      · simp only [List.mem_cons, List.not_mem_nil, or_false] at hb
        rcases hb with rfl | rfl | rfl <;> rw [toNat_ofNat_of_lt (by omega)] <;> omega
      · simp only [List.mem_cons, List.not_mem_nil, or_false] at hb
        rcases hb with rfl | rfl | rfl | rfl <;> rw [toNat_ofNat_of_lt (by omega)] <;> omega

/-- The byte stands for itself in a string. -/
def isPlainByte (b : UInt8) : Bool := b != byte '"' && b != byte '\\' && 0x20 ≤ b

/-- From the bytes, reading a string takes no more steps than there are bytes and comes by the
content. -/
def Reads (bs content : Bytes) : Prop :=
  ∃ n ≤ bs.length, ∀ fuel acc rest, collect (n + fuel) none ⟨acc, true⟩ (bs ++ rest) =
    collect fuel none ⟨content.reverse ++ acc, true⟩ rest

theorem reads_nil : Reads [] [] := ⟨0, Nat.le_refl 0, fun _ _ _ => by rw [Nat.zero_add]; rfl⟩

theorem Reads.append {bs bs' content content' : Bytes} (h : Reads bs content)
    (h' : Reads bs' content') : Reads (bs ++ bs') (content ++ content') := by
  obtain ⟨n, hn, hreads⟩ := h
  obtain ⟨n', hn', hreads'⟩ := h'
  refine ⟨n + n', by rw [List.length_append]; omega, fun fuel acc rest => ?_⟩
  rw [Nat.add_assoc, List.append_assoc, hreads, hreads', List.reverse_append, List.append_assoc]

theorem reads_plain {b : UInt8} (hb : isPlainByte b) : Reads [b] [b] := by
  simp only [isPlainByte, Bool.and_eq_true, bne_iff_ne, ne_eq, decide_eq_true_eq] at hb
  obtain ⟨⟨hquote, hbackslash⟩, hcontrol⟩ := hb
  refine ⟨1, Nat.le_refl 1, fun fuel acc rest => ?_⟩
  have hpiece : piece (b :: rest) = some (.plain b rest) := by
    simp [piece, hquote, hbackslash, UInt8.not_lt.2 hcontrol]
  rw [Nat.add_comm, List.singleton_append, collect]
  simp [hpiece]

theorem reads_plains {bs : Bytes} (hbs : ∀ b ∈ bs, isPlainByte b) : Reads bs bs := by
  induction bs with
  | nil => exact reads_nil
  | cons b bs ih =>
    obtain ⟨hb, hbs⟩ := List.forall_mem_cons.1 hbs
    exact (reads_plain hb).append (ih hbs)

/-- The escapes with a letter, and those of quote and backslash. -/
theorem reads_short {b content : UInt8} (h : ∀ rest, piece (byte '\\' :: b :: rest) =
    some (.plain content rest)) : Reads [byte '\\', b] [content] := by
  refine ⟨1, by simp, fun fuel acc rest => ?_⟩
  rw [Nat.add_comm, collect]
  simp [h]

theorem unicodeEscape_append {bs : Bytes} (hbs : bs.length = 4) (rest : Bytes) :
    unicodeEscape (bs ++ rest) =
      (hexNumber (bs.map fun b => Char.ofNat b.toNat)).map (·, rest) := by
  match bs, hbs with
  | [a, b, c, d], _ =>
    simp only [List.cons_append, List.nil_append, unicodeEscape, List.map_cons, List.map_nil]
    cases hexNumber _ <;> rfl

theorem encodeChars_control : ∀ n < 32, encodeChars [Char.ofNat n] = [UInt8.ofNat n] := by decide

theorem reads_numbered {n : Nat} (hn : n < 32) :
    Reads (encodeChars (['\\', 'u', '0', '0'] ++ hexOf 2 n)) [UInt8.ofNat n] := by
  have hdigits : ∀ n < 32, (encodeChars (['0', '0'] ++ hexOf 2 n)).length = 4 ∧
      hexNumber ((encodeChars (['0', '0'] ++ hexOf 2 n)).map fun b => Char.ofNat b.toNat) =
        some n := by decide
  obtain ⟨hlength, hnumber⟩ := hdigits n hn
  have hbytes : encodeChars (['\\', 'u', '0', '0'] ++ hexOf 2 n) =
      byte '\\' :: byte 'u' :: encodeChars (['0', '0'] ++ hexOf 2 n) := rfl
  have hpiece : ∀ rest, piece (byte '\\' :: byte 'u' ::
      (encodeChars (['0', '0'] ++ hexOf 2 n) ++ rest)) = some (.unit n rest) := by
    intro rest
    have hunit : ∀ bs, piece (byte '\\' :: byte 'u' :: bs) =
        (unicodeEscape bs).map fun r => .unit r.1 r.2 := fun _ => rfl
    rw [hunit, unicodeEscape_append hlength, hnumber]
    rfl
  have hpush : ∀ acc, Content.push ⟨acc, true⟩ n = ⟨UInt8.ofNat n :: acc, true⟩ := by
    intro acc
    rw [Content.push, encodeUtf8_eq, String.toList_ofList, encodeChars_control n hn]
    rfl
  rw [hbytes]
  refine ⟨1, by simp, fun fuel acc rest => ?_⟩
  have hhigh : ¬ (0xD800 ≤ n ∧ n ≤ 0xDBFF) := by omega
  have hlow : ¬ (0xDC00 ≤ n ∧ n ≤ 0xDFFF) := by omega
  rw [Nat.add_comm, collect, List.cons_append, List.cons_append, hpiece]
  simp [hhigh, hlow, hpush]

theorem reads_escaped (c : Char) : Reads (encodeChars (escaped c)) (encodeChars [c]) := by
  have hnumbered : ∀ {n}, c.toNat = n → c = Char.ofNat n := by
    rintro _ rfl
    exact (Char.ofNat_toNat c).symm
  unfold escaped
  iterate 5
    split
    next h =>
      subst h
      exact reads_short fun _ => rfl
  iterate 2
    split
    next h =>
      rw [hnumbered h]
      exact reads_short fun _ => rfl
  split
  · next h =>
    have hbytes := encodeChars_control c.toNat h
    rw [Char.ofNat_toNat] at hbytes
    exact hbytes ▸ reads_numbered h
  · next hquote hbackslash _ _ _ _ _ hcontrol =>
    refine reads_plains fun b hb => ?_
    rw [encodeChars, List.flatMap_singleton] at hb
    have hbyte := mem_utf8EncodeChar hb
    have hne : ∀ d : Char, d.toNat < 128 → c ≠ d → b ≠ byte d := by
      rintro d hd hcd rfl
      rw [byte, toNat_ofNat_of_lt (by omega)] at hbyte
      rcases hbyte with hbyte | hbyte
      · exact hcd (Char.toNat_inj.1 hbyte.symm)
      · omega
    have hcontrol : 0x20 ≤ b := UInt8.le_iff_toNat_le.2 (by
      show 32 ≤ b.toNat
      omega)
    simp only [isPlainByte, Bool.and_eq_true, bne_iff_ne, ne_eq, decide_eq_true_eq]
    exact ⟨⟨hne _ (by decide) hquote, hne _ (by decide) hbackslash⟩, hcontrol⟩

/-- A string is read from its bytes between the quotes. -/
theorem readString_quoted (s : String) {fuel : Nat} (rest : Bytes)
    (hfuel : (encodeChars (s.toList.flatMap escaped)).length < fuel) :
    readString fuel (encodeChars (s.toList.flatMap escaped) ++ byte '"' :: rest) =
      some (some s, rest) := by
  have hreads : ∀ cs : List Char, Reads (encodeChars (cs.flatMap escaped)) (encodeChars cs) := by
    intro cs
    induction cs with
    | nil => exact reads_nil
    | cons c cs ih =>
      rw [List.flatMap_cons, encodeChars_append]
      have hcons : encodeChars (c :: cs) = encodeChars [c] ++ encodeChars cs :=
        encodeChars_append [c] cs
      rw [hcons]
      exact (reads_escaped c).append ih
  obtain ⟨n, hn, hcollect⟩ := hreads s.toList
  obtain ⟨left, rfl⟩ : ∃ left, fuel = n + (left + 1) := ⟨fuel - n - 1, by omega⟩
  have hclose : ∀ acc, collect (left + 1) none ⟨acc, true⟩ (byte '"' :: rest) =
      some (⟨acc, true⟩, rest) := fun _ => rfl
  have htext : decodeUtf8 (encodeChars s.toList) = some s.toList := by
    rw [← encodeUtf8_eq, decodeUtf8_encodeUtf8]
  rw [readString, hcollect, hclose, List.append_nil]
  simp [htext]

/-! ### Values -/

mutual

/-- No number stands in the value, and all of it can be taken in. -/
def isVerbal : Json → Bool
  | .integer _ | .real _ | .unreadable | .misnamed _ => false
  | .array items => verbalItems items
  | .object members => verbalMembers members
  | _ => true
termination_by structural j => j

def verbalItems : List Json → Bool
  | [] => true
  | j :: rest => j.isVerbal && verbalItems rest
termination_by structural js => js

def verbalMembers : List (String × Json) → Bool
  | [] => true
  | (_, j) :: rest => j.isVerbal && verbalMembers rest
termination_by structural ms => ms

end

theorem skipSpace_cons {b : UInt8} (hb : isSpace b = false) (rest : Bytes) :
    skipSpace (b :: rest) = b :: rest := by
  rw [skipSpace, List.dropWhile_cons, hb]
  rfl

theorem encodeUtf8_quoted (s : String) : encodeUtf8 (quoted s) =
    byte '"' :: (encodeChars (s.toList.flatMap escaped) ++ [byte '"']) := by
  have hquote : encodeChars ['"'] = [byte '"'] := rfl
  have hcons : ∀ cs, encodeChars ('"' :: cs) = byte '"' :: encodeChars cs := fun _ => rfl
  rw [encodeUtf8_eq, quoted, String.toList_ofList, List.cons_append, hcons, encodeChars_append,
    hquote]

theorem value_quoted (s : String) {fuel : Nat} (rest : Bytes)
    (hfuel : (encodeUtf8 (quoted s)).length ≤ fuel) :
    value fuel (encodeUtf8 (quoted s) ++ rest) = .whole (.string s) rest := by
  rw [encodeUtf8_quoted] at hfuel ⊢
  simp only [List.length_cons, List.length_append, List.length_nil] at hfuel
  obtain ⟨left, rfl⟩ : ∃ left, fuel = left + 1 := ⟨fuel - 1, by omega⟩
  have hvalue : ∀ bs after, readString (left + 1) bs = some (some s, after) →
      value (left + 1) (byte '"' :: bs) = .whole (.string s) after := by
    intro bs after h
    rw [value, skipSpace_cons (by decide)]
    simp [h, byte]
  rw [List.cons_append, List.append_assoc, List.singleton_append]
  exact hvalue _ _ (readString_quoted s rest (by omega))

/-- The bytes of the value are read, whatever follows them. -/
def IsRead (j : Json) (bs : Bytes) : Prop :=
  ∀ fuel rest, 2 * bs.length ≤ fuel → value fuel (bs ++ rest) = .whole j rest

theorem isRead_string (s : String) : IsRead (.string s) (encodeUtf8 (quoted s)) :=
  fun _ rest hfuel => value_quoted s rest (by omega)

theorem isRead_word {w : String} {j : Json} (hw : encodeUtf8 w ≠ [])
    (hvalue : ∀ fuel rest, value (fuel + 1) (encodeUtf8 w ++ rest) = .whole j rest) :
    IsRead j (encodeUtf8 w) := by
  intro fuel rest hfuel
  have hlength := List.length_pos_iff.2 hw
  obtain ⟨left, rfl⟩ : ∃ left, fuel = left + 1 := ⟨fuel - 1, by omega⟩
  exact hvalue left rest

theorem isRead_null : IsRead .null (encodeUtf8 "null") :=
  isRead_word (by decide) fun _ _ => rfl

theorem isRead_bool (b : Bool) : IsRead (.bool b) (encodeUtf8 (compress (.bool b))) := by
  cases b with
  | true => exact isRead_word (w := "true") (by decide) fun _ _ => rfl
  | false => exact isRead_word (w := "false") (by decide) fun _ _ => rfl

/-! ### Containers -/

theorem items_compress {js : List Json} (hne : js ≠ [])
    (hjs : ∀ j ∈ js, IsRead j (encodeUtf8 j.compress)) {fuel : Nat} (done : List Json)
    (rest : Bytes) (hfuel : 2 * (encodeUtf8 (compressItems js)).length + 1 ≤ fuel) :
    items fuel done (encodeUtf8 (compressItems js) ++ byte ']' :: rest) =
      .whole (.array (done.reverse ++ js)) rest := by
  obtain ⟨left, rfl⟩ : ∃ left, fuel = left + 1 := ⟨fuel - 1, by omega⟩
  induction js generalizing done left with
  | nil => exact absurd rfl hne
  | cons j js ih =>
    obtain ⟨hj, hjs⟩ := List.forall_mem_cons.1 hjs
    cases js with
    | nil =>
      rw [compressItems] at hfuel ⊢
      rw [items, hj left _ (by omega), ← List.reverse_cons]
      rfl
    | cons k js =>
      have htext : encodeUtf8 (compressItems (j :: k :: js)) =
          encodeUtf8 j.compress ++ byte ',' :: encodeUtf8 (compressItems (k :: js)) := by
        have hitems : compressItems (j :: k :: js) =
            compress j ++ "," ++ compressItems (k :: js) := rfl
        rw [hitems, encodeUtf8_append, encodeUtf8_append, List.append_assoc]
        rfl
      rw [htext, List.length_append, List.length_cons] at hfuel
      rw [htext, List.append_assoc, List.cons_append, items, hj left _ (by omega)]
      obtain ⟨left', rfl⟩ : ∃ left', left = left' + 1 := ⟨left - 1, by omega⟩
      have hlater := ih (by simp) hjs (j :: done) left' (by omega)
      rw [List.reverse_cons, List.append_assoc, List.singleton_append] at hlater
      exact hlater

/-- A member is read, and the next one or the end of the object. -/
theorem members_member {k : String} {j : Json} (hj : IsRead j (encodeUtf8 j.compress)) {left : Nat}
    (hfuel : (encodeUtf8 (quoted k)).length + 2 * (encodeUtf8 j.compress).length ≤ left)
    (done : List (Option String × Json)) (rest : Bytes) :
    members (left + 1) done (encodeUtf8 (quoted k) ++ byte ':' :: (encodeUtf8 j.compress ++
        byte ',' :: rest)) = members left ((some k, j) :: done) rest ∧
      members (left + 1) done (encodeUtf8 (quoted k) ++ byte ':' :: (encodeUtf8 j.compress ++
        byte '\x7d' :: rest)) = .whole (closeObject ((some k, j) :: done)) rest := by
  rw [encodeUtf8_quoted, List.length_cons, List.length_append] at hfuel
  have hname : ∀ bs, readString (left + 1) (encodeChars (k.toList.flatMap escaped) ++
      byte '"' :: bs) = some (some k, bs) := fun bs => readString_quoted k bs (by omega)
  rw [encodeUtf8_quoted]
  simp only [List.cons_append, List.append_assoc]
  constructor
  all_goals
    rw [members, skipSpace_cons (by decide)]
    dsimp only
    rw [if_neg (by decide), List.nil_append, hname]
    dsimp only
    rw [skipSpace_cons (by decide)]
    dsimp only
    rw [if_neg (by decide), hj left _ (by omega)]
    rfl

/-- Members as they are read, latest first. -/
def named (ms : List (String × Json)) : List (Option String × Json) :=
  (ms.map fun m => (some m.1, m.2)).reverse

theorem named_cons (k : String) (j : Json) (ms : List (String × Json)) :
    named ((k, j) :: ms) = named ms ++ [(some k, j)] := List.reverse_cons

theorem closeObject_named (ms : List (String × Json)) : closeObject (named ms) = .object ms := by
  rw [closeObject, named, List.foldl_reverse]
  induction ms with
  | nil => rfl
  | cons m ms ih =>
    rw [List.map_cons, List.foldr_cons, ih]
    rfl

theorem members_compress {ms : List (String × Json)} (hne : ms ≠ [])
    (hms : ∀ m ∈ ms, IsRead m.2 (encodeUtf8 m.2.compress)) {fuel : Nat}
    (done : List (Option String × Json)) (rest : Bytes)
    (hfuel : 2 * (encodeUtf8 (compressMembers ms)).length + 1 ≤ fuel) :
    members fuel done (encodeUtf8 (compressMembers ms) ++ byte '\x7d' :: rest) =
      .whole (closeObject (named ms ++ done)) rest := by
  obtain ⟨left, rfl⟩ : ∃ left, fuel = left + 1 := ⟨fuel - 1, by omega⟩
  induction ms generalizing done left with
  | nil => exact absurd rfl hne
  | cons m ms ih =>
    obtain ⟨k, j⟩ := m
    obtain ⟨hj, hms⟩ := List.forall_mem_cons.1 hms
    replace hj : IsRead j (encodeUtf8 j.compress) := hj
    cases ms with
    | nil =>
      have htext : encodeUtf8 (compressMembers [(k, j)]) =
          encodeUtf8 (quoted k) ++ byte ':' :: encodeUtf8 j.compress := by
        have hmembers : compressMembers [(k, j)] = quoted k ++ ":" ++ compress j := rfl
        rw [hmembers, encodeUtf8_append, encodeUtf8_append, List.append_assoc]
        rfl
      rw [htext, List.length_append, List.length_cons] at hfuel
      rw [htext, List.append_assoc, List.cons_append]
      exact (members_member hj (by omega) done rest).2
    | cons m' ms =>
      have htext : encodeUtf8 (compressMembers ((k, j) :: m' :: ms)) =
          encodeUtf8 (quoted k) ++ byte ':' :: (encodeUtf8 j.compress ++
            byte ',' :: encodeUtf8 (compressMembers (m' :: ms))) := by
        have hmembers : compressMembers ((k, j) :: m' :: ms) =
            quoted k ++ ":" ++ compress j ++ "," ++ compressMembers (m' :: ms) := rfl
        simp only [hmembers, encodeUtf8_append, List.append_assoc]
        rfl
      rw [htext, List.length_append, List.length_cons, List.length_append,
        List.length_cons] at hfuel
      rw [htext, List.append_assoc, List.cons_append, List.append_assoc, List.cons_append,
        (members_member hj (by omega) done _).1]
      obtain ⟨left', rfl⟩ : ∃ left', left = left' + 1 := ⟨left - 1, by omega⟩
      have hlater := ih (by simp) hms ((some k, j) :: done) left' (by omega)
      rw [hlater, named_cons k j, List.append_assoc, List.singleton_append]

theorem encodeUtf8_array (js : List Json) : encodeUtf8 (compress (.array js)) =
    byte '[' :: (encodeUtf8 (compressItems js) ++ [byte ']']) := by
  have harray : compress (.array js) = "[" ++ compressItems js ++ "]" := rfl
  rw [harray, encodeUtf8_append, encodeUtf8_append, List.append_assoc]
  rfl

theorem encodeUtf8_object (ms : List (String × Json)) : encodeUtf8 (compress (.object ms)) =
    byte '\x7b' :: (encodeUtf8 (compressMembers ms) ++ [byte '\x7d']) := by
  have hobject : compress (.object ms) = "\x7b" ++ compressMembers ms ++ "\x7d" := rfl
  rw [hobject, encodeUtf8_append, encodeUtf8_append, List.append_assoc]
  rfl

/-- The bytes begin like a value: with neither a blank nor a bracket that closes. -/
def Begins (bs : Bytes) : Prop :=
  ∃ b rest, bs = b :: rest ∧ isSpace b = false ∧ (b == byte ']') = false

theorem begins_compress {j : Json} (hj : j.isVerbal) : Begins (encodeUtf8 j.compress) := by
  cases j with
  | null => exact ⟨_, _, rfl, by decide, by decide⟩
  | bool b => cases b <;> exact ⟨_, _, rfl, by decide, by decide⟩
  | string s => exact ⟨_, _, encodeUtf8_quoted s, by decide, by decide⟩
  | array js => exact ⟨_, _, encodeUtf8_array js, by decide, by decide⟩
  | object ms => exact ⟨_, _, encodeUtf8_object ms, by decide, by decide⟩
  | _ => cases hj

theorem Begins.append {bs : Bytes} (h : Begins bs) (rest : Bytes) : Begins (bs ++ rest) := by
  obtain ⟨b, tail, rfl, hb⟩ := h
  exact ⟨b, tail ++ rest, rfl, hb⟩

theorem begins_compressItems {js : List Json} (hne : js ≠ []) (hjs : verbalItems js) :
    Begins (encodeUtf8 (compressItems js)) := by
  cases js with
  | nil => exact absurd rfl hne
  | cons j js =>
    have hj : j.isVerbal := (Bool.and_eq_true_iff.1 hjs).1
    cases js with
    | nil => exact begins_compress hj
    | cons k js =>
      have hitems : compressItems (j :: k :: js) =
          compress j ++ ("," ++ compressItems (k :: js)) := String.append_assoc
      rw [hitems, encodeUtf8_append]
      exact (begins_compress hj).append _

theorem isRead_array {js : List Json} (hverbal : verbalItems js)
    (hjs : ∀ j ∈ js, IsRead j (encodeUtf8 j.compress)) :
    IsRead (.array js) (encodeUtf8 (compress (.array js))) := by
  intro fuel rest hfuel
  rw [encodeUtf8_array, List.length_cons, List.length_append, List.length_singleton] at hfuel
  obtain ⟨left, rfl⟩ : ∃ left, fuel = left + 1 := ⟨fuel - 1, by omega⟩
  rw [encodeUtf8_array, List.cons_append, List.append_assoc, List.singleton_append]
  by_cases hne : js = []
  · subst hne
    rfl
  · have hitems := items_compress hne hjs [] rest (show _ ≤ left by omega)
    obtain ⟨b, bs, hbs, hspace, hclose⟩ := begins_compressItems hne hverbal
    rw [hbs, List.cons_append] at hitems ⊢
    have hinner : b ≠ 0x5D := beq_eq_false_iff_ne.1 hclose
    have hvalue : value (left + 1) (byte '[' :: b :: (bs ++ byte ']' :: rest)) =
        items left [] (b :: (bs ++ byte ']' :: rest)) := by
      rw [value, skipSpace_cons (by decide)]
      simp [skipSpace_cons hspace, hinner, byte]
    rw [hvalue, hitems]
    rfl

theorem isRead_object {ms : List (String × Json)}
    (hms : ∀ m ∈ ms, IsRead m.2 (encodeUtf8 m.2.compress)) :
    IsRead (.object ms) (encodeUtf8 (compress (.object ms))) := by
  intro fuel rest hfuel
  rw [encodeUtf8_object, List.length_cons, List.length_append, List.length_singleton] at hfuel
  obtain ⟨left, rfl⟩ : ∃ left, fuel = left + 1 := ⟨fuel - 1, by omega⟩
  rw [encodeUtf8_object, List.cons_append, List.append_assoc, List.singleton_append]
  cases ms with
  | nil => rfl
  | cons m ms =>
    have hmembers := members_compress (by simp) hms [] rest (show _ ≤ left by omega)
    obtain ⟨k, j⟩ := m
    obtain ⟨bs, hbs⟩ : ∃ bs, encodeUtf8 (compressMembers ((k, j) :: ms)) = byte '"' :: bs := by
      have hhead : ∃ text, compressMembers ((k, j) :: ms) = quoted k ++ text := by
        cases ms with
        | nil => exact ⟨_, String.append_assoc⟩
        | cons m ms =>
          have hmembers : compressMembers ((k, j) :: m :: ms) =
              quoted k ++ ":" ++ compress j ++ "," ++ compressMembers (m :: ms) := rfl
          exact ⟨_, by rw [hmembers, String.append_assoc, String.append_assoc,
            String.append_assoc]⟩
      obtain ⟨text, htext⟩ := hhead
      rw [htext, encodeUtf8_append, encodeUtf8_quoted]
      exact ⟨_, rfl⟩
    rw [hbs, List.cons_append] at hmembers ⊢
    have hvalue : ∀ bs, value (left + 1) (byte '\x7b' :: byte '"' :: bs) =
        members left [] (byte '"' :: bs) := fun _ => rfl
    rw [hvalue, hmembers, List.append_nil, closeObject_named]

mutual

/-- A value without numbers is read from what is written for it. -/
theorem isRead_compress : (j : Json) → j.isVerbal → IsRead j (encodeUtf8 j.compress)
  | .null, _ => isRead_null
  | .bool b, _ => isRead_bool b
  | .string s, _ => isRead_string s
  | .array js, hj => isRead_array hj (isRead_items js hj)
  | .object ms, hj => isRead_object (isRead_members ms hj)
termination_by structural j => j

theorem isRead_items : (js : List Json) → verbalItems js →
    ∀ j ∈ js, IsRead j (encodeUtf8 j.compress)
  | [], _ => nofun
  | j :: js, hjs => by
    obtain ⟨hj, hjs⟩ := Bool.and_eq_true_iff.1 hjs
    exact List.forall_mem_cons.2 ⟨isRead_compress j hj, isRead_items js hjs⟩
termination_by structural js => js

theorem isRead_members : (ms : List (String × Json)) → verbalMembers ms →
    ∀ m ∈ ms, IsRead m.2 (encodeUtf8 m.2.compress)
  | [], _ => nofun
  | (_, j) :: ms, hms => by
    obtain ⟨hj, hms⟩ := Bool.and_eq_true_iff.1 hms
    exact List.forall_mem_cons.2 ⟨isRead_compress j hj, isRead_members ms hms⟩
termination_by structural ms => ms

end

/-- A text that was written for a value without numbers holds that value. -/
theorem parseText_compress {j : Json} (hj : j.isVerbal) : parseText j.compress = some j := by
  have hread := isRead_compress j hj (2 * (encodeUtf8 j.compress).length + 2) [] (by omega)
  rw [List.append_nil] at hread
  rw [parseText, parse, read, hread]
  rfl

end BoxOffice.Json
