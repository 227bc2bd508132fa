import UmlPress.Proofs.Fallible
import UmlPress.Text.Utf8

/-!
# Bytes that are text

Bytes are decoded to a text if and only if they are its encoding: the encoding of each
character is taken for that character, and nothing else is taken for any.
-/
namespace UmlPress.Text.Utf8
variable {offset : Nat} {b : UInt8} {bytes r : List UInt8} {cs : List Char} {p : Pending}

/-! ## One byte at a time -/

theorem begin_two (h : 0xc2 ≤ b.toNat) (h' : b.toNat < 0xe0) :
    begin? b = some ⟨b, b.toNat - 0xc0, 1, 1, 0x80, 0xbf⟩ := by
  simp only [begin?]
  rw [if_neg (by omega), if_pos h']

theorem begin_three (h : 0xe0 ≤ b.toNat) (h' : b.toNat < 0xf0) :
    begin? b = some ⟨b, b.toNat - 0xe0, 1, 2, if b.toNat = 0xe0 then 0xa0 else 0x80,
      if b.toNat = 0xed then 0x9f else 0xbf⟩ := by
  simp only [begin?]
  rw [if_neg (by omega), if_neg (by omega), if_pos h']

theorem begin_four (h : 0xf0 ≤ b.toNat) (h' : b.toNat < 0xf5) :
    begin? b = some ⟨b, b.toNat - 0xf0, 1, 3, if b.toNat = 0xf0 then 0x90 else 0x80,
      if b.toNat = 0xf4 then 0x8f else 0xbf⟩ := by
  simp only [begin?]
  rw [if_neg (by omega), if_neg (by omega), if_neg (by omega), if_pos h']

theorem begin_eq_none (h : b.toNat < 0xc2 ∨ 0xf5 ≤ b.toNat) : begin? b = none := by
  simp only [begin?]
  rcases h with h | h
  · rw [if_pos h]
  · rw [if_neg (by omega), if_neg (by omega), if_neg (by omega), if_neg (by omega)]

def Pending.next (p : Pending) (b : UInt8) : Pending :=
  ⟨p.byte, p.code * 64 + (b.toNat - 0x80), p.seen + 1, p.missing - 1, 0x80, 0xbf⟩

theorem decodeFrom_ascii (h : b.toNat < 0x80) : decodeFrom offset none (b :: r) =
    (decodeFrom (offset + 1) none r).map (Char.ofNat b.toNat :: ·) := by
  rw [decodeFrom]
  exact if_pos h

theorem decodeFrom_begin (h : ¬b.toNat < 0x80) (hp : begin? b = some p) :
    decodeFrom offset none (b :: r) = decodeFrom (offset + 1) (some p) r := by
  rw [decodeFrom, if_neg h, hp]

theorem decodeFrom_last (h : p.low ≤ b.toNat ∧ b.toNat ≤ p.high) (hp : p.missing = 1) :
    decodeFrom offset (some p) (b :: r) =
      (decodeFrom (offset + 1) none r).map (Char.ofNat (p.next b).code :: ·) := by
  rw [decodeFrom]
  dsimp only
  rw [if_pos h, if_pos (Nat.le_of_eq hp)]
  rfl

theorem decodeFrom_next {m : Nat} (h : p.low ≤ b.toNat ∧ b.toNat ≤ p.high)
    (hp : p.missing = m + 2) : decodeFrom offset (some p) (b :: r) =
      decodeFrom (offset + 1) (some (p.next b)) r := by
  rw [decodeFrom]
  dsimp only
  rw [if_pos h, if_neg (by omega)]
  rfl

/-- A character that is begun goes on with a byte within its bounds. -/
theorem of_decodeFrom_some (h : decodeFrom offset (some p) bytes = .ok cs) :
    ∃ b r, bytes = b :: r ∧ p.low ≤ b.toNat ∧ b.toNat ≤ p.high := by
  cases bytes with
  | nil => cases h
  | cons b r =>
    by_cases hb : p.low ≤ b.toNat ∧ b.toNat ≤ p.high
    · exact ⟨b, r, rfl, hb⟩
    · rw [decodeFrom] at h
      dsimp only at h
      rw [if_neg hb] at h
      cases h

/-! ## One character at a time -/

inductive Spells : List UInt8 → Nat → Prop
  | one {a : UInt8} (ha : a.toNat < 0x80) : Spells [a] a.toNat
  | two {a b : UInt8} (ha : 0xc2 ≤ a.toNat) (ha' : a.toNat < 0xe0)
      (hb : 0x80 ≤ b.toNat) (hb' : b.toNat ≤ 0xbf) :
      Spells [a, b] ((a.toNat - 0xc0) * 64 + (b.toNat - 0x80))
  | three {a b d : UInt8} (ha : 0xe0 ≤ a.toNat) (ha' : a.toNat < 0xf0)
      (hb : (if a.toNat = 0xe0 then 0xa0 else 0x80) ≤ b.toNat)
      (hb' : b.toNat ≤ if a.toNat = 0xed then 0x9f else 0xbf)
      (hd : 0x80 ≤ d.toNat) (hd' : d.toNat ≤ 0xbf) :
      Spells [a, b, d]
        (((a.toNat - 0xe0) * 64 + (b.toNat - 0x80)) * 64 + (d.toNat - 0x80))
  | four {a b d e : UInt8} (ha : 0xf0 ≤ a.toNat) (ha' : a.toNat < 0xf5)
      (hb : (if a.toNat = 0xf0 then 0x90 else 0x80) ≤ b.toNat)
      (hb' : b.toNat ≤ if a.toNat = 0xf4 then 0x8f else 0xbf)
      (hd : 0x80 ≤ d.toNat) (hd' : d.toNat ≤ 0xbf) (he : 0x80 ≤ e.toNat) (he' : e.toNat ≤ 0xbf) :
      Spells [a, b, d, e] ((((a.toNat - 0xf0) * 64 + (b.toNat - 0x80)) * 64 +
        (d.toNat - 0x80)) * 64 + (e.toNat - 0x80))

theorem Spells.length_pos {k : Nat} (h : Spells bytes k) : 0 < bytes.length := by
  cases h <;> exact Nat.succ_pos _

/-- The bytes of a character are taken for it. -/
theorem Spells.decodeFrom {k : Nat} (h : Spells bytes k) (offset : Nat) (r : List UInt8) :
    decodeFrom offset none (bytes ++ r) =
      (decodeFrom (offset + bytes.length) none r).map (Char.ofNat k :: ·) := by
  cases h with
  | one ha => exact decodeFrom_ascii ha
  | two ha ha' hb hb' =>
    exact (decodeFrom_begin (by omega) (begin_two ha ha')).trans (decodeFrom_last ⟨hb, hb'⟩ rfl)
  | three ha ha' hb hb' hd hd' =>
    exact ((decodeFrom_begin (by omega) (begin_three ha ha')).trans
      (decodeFrom_next ⟨hb, hb'⟩ rfl)).trans (decodeFrom_last ⟨hd, hd'⟩ rfl)
  | four ha ha' hb hb' hd hd' he he' =>
    exact (((decodeFrom_begin (by omega) (begin_four ha ha')).trans
      (decodeFrom_next ⟨hb, hb'⟩ rfl)).trans
      (decodeFrom_next ⟨hd, hd'⟩ rfl)).trans (decodeFrom_last ⟨he, he'⟩ rfl)

/-- Bytes that are decoded begin with the bytes of a character. -/
theorem exists_spells (h : decodeFrom offset none (b :: r) = .ok cs) :
    ∃ bytes k r', b :: r = bytes ++ r' ∧ Spells bytes k := by
  by_cases h₁ : b.toNat < 0x80
  · exact ⟨[b], _, r, rfl, .one h₁⟩
  by_cases h₂ : b.toNat < 0xc2 ∨ 0xf5 ≤ b.toNat
  · rw [Utf8.decodeFrom, if_neg h₁, begin_eq_none h₂] at h
    cases h
  by_cases h₃ : b.toNat < 0xe0
  · rw [decodeFrom_begin h₁ (begin_two (by omega) h₃)] at h
    obtain ⟨d, r, rfl, hd, hd'⟩ := of_decodeFrom_some h
    exact ⟨[b, d], _, r, rfl, .two (by omega) h₃ hd hd'⟩
  by_cases h₄ : b.toNat < 0xf0
  · rw [decodeFrom_begin h₁ (begin_three (by omega) h₄)] at h
    obtain ⟨d, r, rfl, hd, hd'⟩ := of_decodeFrom_some h
    rw [decodeFrom_next ⟨hd, hd'⟩ rfl] at h
    obtain ⟨e, r, rfl, he, he'⟩ := of_decodeFrom_some h
    exact ⟨[b, d, e], _, r, rfl, .three (by omega) h₄ hd hd' he he'⟩
  · rw [decodeFrom_begin h₁ (begin_four (by omega) (by omega))] at h
    obtain ⟨d, r, rfl, hd, hd'⟩ := of_decodeFrom_some h
    rw [decodeFrom_next ⟨hd, hd'⟩ rfl] at h
    obtain ⟨e, r, rfl, he, he'⟩ := of_decodeFrom_some h
    rw [decodeFrom_next ⟨he, he'⟩ rfl] at h
    obtain ⟨g, r, rfl, hg, hg'⟩ := of_decodeFrom_some h
    exact ⟨[b, d, e, g], _, r, rfl, .four (by omega) (by omega) hd hd' he he' hg hg'⟩

theorem toNat_ofNat_byte {k : Nat} (h : k < 256) : (UInt8.ofNat k).toNat = k := by
  rw [UInt8.toNat_ofNat']
  exact Nat.mod_eq_of_lt h

/-- The encoding of a character is its bytes. -/
theorem spells_encode (c : Char) : Spells (String.utf8EncodeChar c) c.toNat := by
  have hvalid : c.val.toNat < 0xd800 ∨ 0xdfff < c.val.toNat ∧ c.val.toNat < 0x110000 := c.valid
  rw [String.utf8EncodeChar, Char.toNat]
  generalize c.val.toNat = v at *
  have htail (k : Nat) : (UInt8.ofNat (k % 64 + 128)).toNat = k % 64 + 128 :=
    toNat_ofNat_byte (by omega)
  split
  case isTrue h₁ =>
    have hlead := toNat_ofNat_byte (show v < 256 by omega)
    have := Spells.one (a := UInt8.ofNat v) (by omega)
    rwa [hlead] at this
  split
  case isTrue h₁ h₂ =>
    have hlead := toNat_ofNat_byte (show v / 64 % 32 + 192 < 256 by omega)
    have := Spells.two (a := UInt8.ofNat (v / 64 % 32 + 192)) (b := UInt8.ofNat (v % 64 + 128))
      (by omega) (by omega) (by rw [htail]; omega) (by rw [htail]; omega)
    rwa [hlead, htail, show (v / 64 % 32 + 192 - 0xc0) * 64 + (v % 64 + 128 - 0x80) = v by omega]
      at this
  split
  case isTrue h₁ h₂ h₃ =>
    have hlead := toNat_ofNat_byte (show v / 4096 % 16 + 224 < 256 by omega)
    have := Spells.three (a := UInt8.ofNat (v / 4096 % 16 + 224))
      (b := UInt8.ofNat (v / 64 % 64 + 128)) (d := UInt8.ofNat (v % 64 + 128))
      (by omega) (by omega) (by rw [htail]; split <;> omega) (by rw [htail]; split <;> omega)
      (by rw [htail]; omega) (by rw [htail]; omega)
    rwa [hlead, htail, htail, show ((v / 4096 % 16 + 224 - 0xe0) * 64 +
      (v / 64 % 64 + 128 - 0x80)) * 64 + (v % 64 + 128 - 0x80) = v by omega] at this
  · have hlead := toNat_ofNat_byte (show v / 262144 % 8 + 240 < 256 by omega)
    have := Spells.four (a := UInt8.ofNat (v / 262144 % 8 + 240))
      (b := UInt8.ofNat (v / 4096 % 64 + 128)) (d := UInt8.ofNat (v / 64 % 64 + 128))
      (e := UInt8.ofNat (v % 64 + 128))
      (by omega) (by omega) (by rw [htail]; split <;> omega) (by rw [htail]; split <;> omega)
      (by rw [htail]; omega) (by rw [htail]; omega) (by rw [htail]; omega) (by rw [htail]; omega)
    rwa [hlead, htail, htail, htail, show (((v / 262144 % 8 + 240 - 0xf0) * 64 +
      (v / 4096 % 64 + 128 - 0x80)) * 64 + (v / 64 % 64 + 128 - 0x80)) * 64 +
      (v % 64 + 128 - 0x80) = v by omega] at this

theorem Spells.isValidChar {k : Nat} (h : Spells bytes k) : k.isValidChar := by
  cases h with
  | one ha => exact .inl (by omega)
  | two ha ha' hb hb' => exact .inl (by omega)
  | three ha ha' hb hb' hd hd' =>
    rw [Nat.isValidChar]
    split at hb <;> split at hb' <;> omega
  | four ha ha' hb hb' hd hd' he he' =>
    rw [Nat.isValidChar]
    split at hb <;> split at hb' <;> omega

theorem ofNat_eq_of_toNat {k : Nat} (h : b.toNat = k) : UInt8.ofNat k = b := by
  rw [← h, UInt8.ofNat_toNat]

/-- The bytes of a character are its encoding. -/
theorem Spells.encode {k : Nat} (h : Spells bytes k) :
    String.utf8EncodeChar (Char.ofNat k) = bytes := by
  have hk : (Char.ofNat k).val.toNat = k := by
    rw [Char.ofNat, dif_pos h.isValidChar]
    rfl
  rw [String.utf8EncodeChar, hk]
  cases h with
  | one ha =>
    rw [if_pos (by omega), UInt8.ofNat_toNat]
  | @two a b ha ha' hb hb' =>
    rw [if_neg (by omega), if_pos (by omega), ofNat_eq_of_toNat (b := a) (by omega),
      ofNat_eq_of_toNat (b := b) (by omega)]
  | @three a b d ha ha' hb hb' hd hd' =>
    have hb₁ : 0x80 ≤ b.toNat ∧ b.toNat ≤ 0xbf := by split at hb <;> split at hb' <;> omega
    have hab : a.toNat = 0xe0 → 0xa0 ≤ b.toNat := fun ha => by rwa [if_pos ha] at hb
    rw [if_neg (by omega), if_neg (by omega), if_pos (by omega),
      ofNat_eq_of_toNat (b := a) (by omega), ofNat_eq_of_toNat (b := b) (by omega),
      ofNat_eq_of_toNat (b := d) (by omega)]
  | @four a b d e ha ha' hb hb' hd hd' he he' =>
    have hb₁ : 0x80 ≤ b.toNat ∧ b.toNat ≤ 0xbf := by split at hb <;> split at hb' <;> omega
    have hab : a.toNat = 0xf0 → 0x90 ≤ b.toNat := fun ha => by rwa [if_pos ha] at hb
    rw [if_neg (by omega), if_neg (by omega), if_neg (by omega),
      ofNat_eq_of_toNat (b := a) (by omega), ofNat_eq_of_toNat (b := b) (by omega),
      ofNat_eq_of_toNat (b := d) (by omega), ofNat_eq_of_toNat (b := e) (by omega)]

/-! ## The whole text -/

theorem decodeFrom_encode (cs : List Char) (offset : Nat) :
    decodeFrom offset none (cs.flatMap String.utf8EncodeChar) = .ok cs := by
  induction cs generalizing offset with
  | nil => rfl
  | cons c cs ih =>
    rw [List.flatMap_cons, (spells_encode c).decodeFrom, ih, Except.map, Char.ofNat_toNat]

theorem encode_of_decodeFrom (h : decodeFrom offset none bytes = .ok cs) :
    cs.flatMap String.utf8EncodeChar = bytes := by
  induction hn : bytes.length using Nat.strongRecOn generalizing bytes offset cs with
  | _ n ih =>
    cases bytes with
    | nil =>
      cases h
      rfl
    | cons b r =>
      obtain ⟨first, k, r', hbytes, hk⟩ := exists_spells h
      rw [hbytes, hk.decodeFrom] at h
      obtain ⟨cs', hr, rfl⟩ := map_eq_ok.1 h
      have hlen : r'.length < n := by
        have := congrArg List.length hbytes
        rw [List.length_append] at this
        have := hk.length_pos
        omega
      rw [List.flatMap_cons, hk.encode, ih _ hlen hr rfl, hbytes]

/-- What is decoded are the encodings of texts. -/
theorem decode_eq_ok : decode bytes = .ok cs ↔ cs.flatMap String.utf8EncodeChar = bytes :=
  ⟨encode_of_decodeFrom, fun h => h ▸ decodeFrom_encode cs 0⟩

end UmlPress.Text.Utf8
