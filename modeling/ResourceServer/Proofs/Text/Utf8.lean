/-
A text and its bytes.

- `decode?_encode_append`: decoding reads the bytes of a text back, whatever bytes follow them.
- `cutAtByte?_byteLength`: a text is cut in two at the byte length of its front; `cutAtByte?_eq_some_iff`: and nowhere
  else.
-/
import Mathlib.Tactic
import ResourceServer.Text.Utf8

namespace ResourceServer.Text

variable {t : Text} {bytes : List ℕ} {bad : Option Char}

/-! ## Encoding -/

theorem encode_append (t u : Text) : encode (t ++ u) = encode t ++ encode u := List.flatMap_append

theorem encode_cons (c : Char) (t : Text) : encode (c :: t) = encodeChar c ++ encode t := rfl

theorem encodeChar_length_pos (c : Char) : 0 < (encodeChar c).length := by
  rw [encodeChar]
  split_ifs <;> simp

theorem length_le_encode (t : Text) : t.length ≤ (encode t).length := by
  induction t with
  | nil => exact Nat.zero_le _
  | cons c t ih =>
    have := encodeChar_length_pos c
    rw [encode_cons, List.length_append, List.length_cons]
    omega

theorem byteLength_cons (c : Char) (t : Text) : byteLength (c :: t) = (encodeChar c).length + byteLength t := rfl

theorem byteLength_append (t u : Text) : byteLength (t ++ u) = byteLength t + byteLength u := by
  induction t with
  | nil => simp [byteLength]
  | cons c t ih => rw [List.cons_append, byteLength_cons, ih, byteLength_cons, Nat.add_assoc]

theorem byteLength_pos (h : t ≠ []) : 0 < byteLength t := by
  obtain ⟨c, t, rfl⟩ := List.exists_cons_of_ne_nil h
  rw [byteLength_cons]
  exact Nat.add_pos_left (encodeChar_length_pos c) _

/-- a text is cut at the byte length of its front -/
theorem cutAtByte?_byteLength (t u : Text) : cutAtByte? (byteLength t) (t ++ u) = some (t, u) := by
  induction t with
  | nil => rw [byteLength, List.foldr_nil, cutAtByte?, List.nil_append]
  | cons c t ih =>
    obtain ⟨n, hn⟩ := Nat.exists_eq_succ_of_ne_zero (byteLength_pos (List.cons_ne_nil c t)).ne'
    have hfits : (encodeChar c).length ≤ n + 1 := by
      rw [byteLength_cons] at hn; omega
    have hrest : n + 1 - (encodeChar c).length = byteLength t := by
      rw [byteLength_cons] at hn; omega
    rw [hn, List.cons_append, cutAtByte?, if_pos hfits, hrest, ih]
    rfl

/-- a cut is made between two characters, at the byte length of the front -/
theorem cutAtByte?_eq_some_iff {n : ℕ} {front back : Text} :
    cutAtByte? n t = some (front, back) ↔ t = front ++ back ∧ byteLength front = n := by
  constructor
  · intro h
    induction t generalizing n front with
    | nil =>
      cases n with
      | zero => cases h; exact ⟨rfl, rfl⟩
      | succ n => cases h
    | cons c t ih =>
      cases n with
      | zero => cases h; exact ⟨rfl, rfl⟩
      | succ n =>
        rw [cutAtByte?] at h
        split_ifs at h with hfits
        obtain ⟨⟨front', back'⟩, hcut, he⟩ := Option.map_eq_some_iff.1 h
        cases he
        obtain ⟨rfl, hlength⟩ := ih hcut
        refine ⟨rfl, ?_⟩
        rw [byteLength_cons, hlength, Nat.add_sub_cancel' hfits]
  · rintro ⟨rfl, rfl⟩
    exact cutAtByte?_byteLength front back

/-! ## The first character -/

section

variable {a b d e : ℕ}

theorem decodeFirst_one (h : a < 0x80) : decodeFirst a bytes = (some (Char.ofNat a), bytes) := by
  unfold decodeFirst
  rw [if_pos h]

theorem decodeFirst_two (h : 0xC2 ≤ a ∧ a ≤ 0xDF) (hb : continues b = true) :
    decodeFirst a (b :: bytes) = (some (Char.ofNat ((a - 0xC0) * 0x40 + (b - 0x80))), bytes) := by
  unfold decodeFirst
  rw [if_neg (by omega), if_pos (by simpa using h)]
  simp only [hb, if_true]

theorem decodeFirst_three (h : 0xE0 ≤ a ∧ a ≤ 0xEF) (hb : continuesAfter a b = true) (hd : continues d = true) :
    decodeFirst a (b :: d :: bytes) =
      (some (Char.ofNat ((a - 0xE0) * 0x1000 + (b - 0x80) * 0x40 + (d - 0x80))), bytes) := by
  unfold decodeFirst
  rw [if_neg (by omega), if_neg (by simp; omega), if_pos (by simpa using h)]
  simp only [hb, hd, if_true]

theorem decodeFirst_four (h : 0xF0 ≤ a ∧ a ≤ 0xF4) (hb : continuesAfter a b = true) (hd : continues d = true)
    (he : continues e = true) :
    decodeFirst a (b :: d :: e :: bytes) =
      (some (Char.ofNat ((a - 0xF0) * 0x40000 + (b - 0x80) * 0x1000 + (d - 0x80) * 0x40 + (e - 0x80))), bytes) := by
  unfold decodeFirst
  rw [if_neg (by omega), if_neg (by simp; omega), if_neg (by simp; omega), if_pos (by simpa using h)]
  simp only [hb, hd, he, if_true]

theorem continues_iff : continues b = true ↔ 0x80 ≤ b ∧ b ≤ 0xBF := by
  rw [continues, Bool.and_eq_true, decide_eq_true_iff, decide_eq_true_iff]

theorem continuesAfter_iff :
    continuesAfter a b = true ↔ 0x80 ≤ b ∧ b ≤ 0xBF ∧ (a = 0xE0 → 0xA0 ≤ b) ∧ (a = 0xED → b ≤ 0x9F) ∧
      (a = 0xF0 → 0x90 ≤ b) ∧ (a = 0xF4 → b ≤ 0x8F) := by
  rw [continuesAfter]
  split_ifs <;> simp only [continues_iff, Bool.and_eq_true, decide_eq_true_iff] <;> omega

end

/-- a character is no half of a pair and none beyond the last one -/
theorem toNat_valid (c : Char) : c.toNat < 0xD800 ∨ 0xDFFF < c.toNat ∧ c.toNat < 0x110000 := c.valid

/-- the bytes of a character are read as that character -/
theorem decodeFirst_encodeChar (c : Char) :
    ∃ first rest, encodeChar c = first :: rest ∧ ∀ bytes, decodeFirst first (rest ++ bytes) = (some c, bytes) := by
  have hvalid := toNat_valid c
  suffices h : ∃ first rest, encodeChar c = first :: rest ∧
      ∀ bytes, decodeFirst first (rest ++ bytes) = (some (Char.ofNat c.toNat), bytes) by
    rwa [Char.ofNat_toNat] at h
  rw [encodeChar]
  split_ifs with h₁ h₂ h₃
  · exact ⟨_, [], rfl, fun bytes => decodeFirst_one h₁⟩
  · refine ⟨_, [_], rfl, fun bytes => ?_⟩
    refine (decodeFirst_two (by omega) (continues_iff.2 (by omega))).trans ?_
    rw [show (0xC0 + c.toNat / 0x40 - 0xC0) * 0x40 + (0x80 + c.toNat % 0x40 - 0x80) = c.toNat by omega]
    rfl
  · refine ⟨_, [_, _], rfl, fun bytes => ?_⟩
    refine (decodeFirst_three (by omega) (continuesAfter_iff.2 (by omega)) (continues_iff.2 (by omega))).trans ?_
    rw [show (0xE0 + c.toNat / 0x1000 - 0xE0) * 0x1000 + (0x80 + c.toNat / 0x40 % 0x40 - 0x80) * 0x40
      + (0x80 + c.toNat % 0x40 - 0x80) = c.toNat by omega]
    rfl
  · refine ⟨_, [_, _, _], rfl, fun bytes => ?_⟩
    refine (decodeFirst_four (by omega) (continuesAfter_iff.2 (by omega)) (continues_iff.2 (by omega))
      (continues_iff.2 (by omega))).trans ?_
    rw [show (0xF0 + c.toNat / 0x40000 - 0xF0) * 0x40000 + (0x80 + c.toNat / 0x1000 % 0x40 - 0x80) * 0x1000
      + (0x80 + c.toNat / 0x40 % 0x40 - 0x80) * 0x40 + (0x80 + c.toNat % 0x40 - 0x80) = c.toNat by omega]
    rfl

/-- reading a character leaves no more bytes than there were behind its first one -/
theorem decodeFirst_length_le (first : ℕ) (rest : List ℕ) : (decodeFirst first rest).2.length ≤ rest.length := by
  unfold decodeFirst
  repeat' split
  all_goals simp only [List.length_cons, List.length_nil, le_refl]
  all_goals omega

/-! ## All characters -/

theorem decodeWithin_cons (bad : Option Char) (n first : ℕ) (rest : List ℕ) :
    decodeWithin bad (n + 1) (first :: rest) =
      match decodeFirst first rest with
      | (some c, more) => (decodeWithin bad n more).map (c :: ·)
      | (none, more) => bad.bind fun c => (decodeWithin bad n more).map (c :: ·) := rfl

/-- as many steps as there are bytes are enough, and more change nothing -/
theorem decodeWithin_of_le {m n : ℕ} (hm : bytes.length ≤ m) (hn : bytes.length ≤ n) :
    decodeWithin bad m bytes = decodeWithin bad n bytes := by
  induction m generalizing n bytes with
  | zero =>
    rw [List.length_eq_zero_iff.1 (Nat.le_zero.1 hm)]
    cases n <;> rfl
  | succ m ih =>
    cases bytes with
    | nil => cases n <;> rfl
    | cons first rest =>
      cases n with
      | zero => cases hn
      | succ n =>
        have hmore := decodeFirst_length_le first rest
        have hsame : decodeWithin bad m (decodeFirst first rest).2 = decodeWithin bad n (decodeFirst first rest).2 :=
          ih (hmore.trans (Nat.le_of_succ_le_succ hm)) (hmore.trans (Nat.le_of_succ_le_succ hn))
        rw [decodeWithin_cons, decodeWithin_cons]
        cases hfirst : decodeFirst first rest with
        | mk c? more =>
          rw [hfirst] at hsame
          cases c? <;> simp only [hsame]

/-- the characters of a text are read one after the other -/
theorem decodeWithin_encode_append (bad : Option Char) (n : ℕ) (t : Text) (bytes : List ℕ) :
    decodeWithin bad (n + t.length) (encode t ++ bytes) = (decodeWithin bad n bytes).map (t ++ ·) := by
  induction t with
  | nil => simp [encode]
  | cons c t ih =>
    obtain ⟨first, rest, henc, hfirst⟩ := decodeFirst_encodeChar c
    have hbytes : encode (c :: t) ++ bytes = first :: (rest ++ (encode t ++ bytes)) := by
      rw [encode_cons, henc, List.append_assoc, List.cons_append]
    rw [hbytes, List.length_cons, ← Nat.add_assoc, decodeWithin_cons, hfirst]
    dsimp only
    rw [ih, Option.map_map]
    rfl

/-- **Bytes of a text are read back**, and the bytes behind them as they would be alone -/
theorem decode?_encode_append (t : Text) (bytes : List ℕ) :
    decode? (encode t ++ bytes) = (decode? bytes).map (t ++ ·) := by
  have hlength := length_le_encode t
  obtain ⟨n, hn⟩ : ∃ n, (encode t ++ bytes).length = n + t.length :=
    ⟨(encode t ++ bytes).length - t.length, by rw [List.length_append]; omega⟩
  have hle : bytes.length ≤ n := by
    rw [List.length_append] at hn; omega
  rw [decode?, hn, decodeWithin_encode_append, decode?, decodeWithin_of_le hle le_rfl]

end ResourceServer.Text
