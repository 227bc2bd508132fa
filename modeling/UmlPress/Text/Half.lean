import UmlPress.Text.Blank

/-!
# Halves of characters

A text is a list of codes. Besides those of characters there are codes of halves, two
of which make up a character in units of 16 bits. A half may stand in a text on its
own, but no bytes can be made of such a text.

The last characters of all hold the codes of halves, and their own codes are held by a
mark and a character before them. All other codes are held by their characters.
-/
namespace UmlPress.Text

def isHalfCode (n : Nat) : Bool := 0xd800 ≤ n && n < 0xe000

/-- The number of the first character that holds a half. -/
def firstHalf : Nat := 0x10f800

/-- The number of the mark in front of a character that stands for a later one. -/
def mark : Nat := 0x10f7ff

def isHalf (c : Char) : Bool := firstHalf ≤ c.toNat

/-- The characters that a code is held by. -/
def held (n : Nat) : List Char :=
  if isHalfCode n then [Char.ofNat (n - 0xd800 + firstHalf)]
  else if n < mark then [Char.ofNat n]
  else [Char.ofNat mark, Char.ofNat (n - 0x800)]

/-- A text of characters that stand for themselves. -/
def hold (s : List Char) : List Char := s.flatMap fun c => held c.toNat

/-- The code that a character holds on its own. -/
def codeOf (c : Char) : Nat := if isHalf c then c.toNat - firstHalf + 0xd800 else c.toNat

/-- Whether a character stands for a later one behind a mark. -/
def isMarked (c : Char) : Bool := mark - 0x800 ≤ c.toNat && c.toNat ≤ mark

def codes : List Char → List Nat
  | [] => []
  | [c] => [codeOf c]
  | c :: d :: r =>
    if c.toNat = mark && isMarked d then (d.toNat + 0x800) :: codes r
    else codeOf c :: codes (d :: r)

def hexDigit (n : Nat) : Char :=
  Char.ofNat (if n < 10 then 48 + n else 87 + n)

/-- The last `width` hexadecimal digits of a number, in lower case. -/
def hex (width n : Nat) : List Char :=
  (List.range width).reverse.map fun i => hexDigit (n / Nat.pow 16 i % 16)

/-- A code by its number. -/
def escapeNumber (n : Nat) : List Char :=
  if n ≤ 0xff then '\\' :: 'x' :: hex 2 n
  else if n ≤ 0xffff then '\\' :: 'u' :: hex 4 n
  else '\\' :: 'U' :: hex 8 n

/-! Bytes. -/

/-- `count` halves from position `start` on that no bytes can be made of, and the code of the
first one. -/
structure Unencodable where
  start : Nat
  count : Nat
  code : Nat
  deriving DecidableEq, Repr

def Unencodable.message (u : Unencodable) : String :=
  "'utf-8' codec can't encode " ++
    (if u.count = 1 then
      "character '" ++ String.ofList (escapeNumber u.code) ++ "' in position " ++ toString u.start
    else
      "characters in position " ++ toString u.start ++ "-" ++ toString (u.start + u.count - 1)) ++
    ": surrogates not allowed"

/-- The halves from the first code of a class on. -/
def firstRun? (fails : Nat → Bool) (s : List Char) : Option Unencodable :=
  let start := (codes s).findIdx fails
  match (codes s).drop start with
  | [] => none
  | n :: r => some ⟨start, (r.takeWhile isHalfCode).length + 1, n⟩

def unencodable? (s : List Char) : Option Unencodable := firstRun? isHalfCode s

def encode (s : List Char) : Except Unencodable (List UInt8) :=
  match unencodable? s with
  | some u => .error u
  | none => .ok ((codes s).flatMap fun n => String.utf8EncodeChar (Char.ofNat n))

/-- Whether a half stands for a byte in the name of a file. -/
def isByteCode (n : Nat) : Bool := 0xdc80 ≤ n && n < 0xdd00

def unspellable? (s : List Char) : Option Unencodable :=
  firstRun? (fun n => isHalfCode n && !isByteCode n) s

/-- The bytes that a name of a file is spelled in. -/
def nameBytes (s : List Char) : List UInt8 :=
  (codes s).flatMap fun n =>
    if isByteCode n then [UInt8.ofNat (n - 0xdc00)] else String.utf8EncodeChar (Char.ofNat n)

def nameSize (s : List Char) : Nat := (nameBytes s).length

/-! What is held is what was to be held. -/

theorem isHalfCode_iff {n : Nat} : isHalfCode n = true ↔ 0xd800 ≤ n ∧ n < 0xe000 := by
  rw [isHalfCode, Bool.and_eq_true, decide_eq_true_eq, decide_eq_true_eq]

theorem isHalf_iff {c : Char} : isHalf c = true ↔ 0x10f800 ≤ c.toNat := by
  rw [isHalf, decide_eq_true_eq, firstHalf]

theorem isMarked_iff {c : Char} : isMarked c = true ↔ 0x10efff ≤ c.toNat ∧ c.toNat ≤ 0x10f7ff := by
  unfold isMarked mark
  simp only [Bool.and_eq_true, decide_eq_true_eq]

theorem toNat_ofNat {n : Nat} (h : n < 0xd800 ∨ 0xe000 ≤ n ∧ n < 0x110000) :
    (Char.ofNat n).toNat = n := by
  have hvalid : n.isValidChar := by
    unfold Nat.isValidChar
    omega
  rw [Char.ofNat, dif_pos hvalid]
  rfl

theorem codes_cons {c : Char} (h : c.toNat ≠ 0x10f7ff) (r : List Char) :
    codes (c :: r) = codeOf c :: codes r := by
  cases r with
  | nil => rfl
  | cons d r =>
    rw [codes, if_neg]
    rw [Bool.and_eq_true, decide_eq_true_eq]
    exact fun hmark => h hmark.1

theorem codes_marked {c d : Char} (hc : c.toNat = 0x10f7ff) (hd : isMarked d = true)
    (r : List Char) : codes (c :: d :: r) = (d.toNat + 0x800) :: codes r := by
  rw [codes, if_pos]
  rw [Bool.and_eq_true, decide_eq_true_eq]
  exact ⟨hc, hd⟩

/-- All but the last characters hold their own codes. -/
theorem held_toNat {c : Char} (h : c.toNat < 0x10f7ff) : held c.toNat = [c] := by
  have hvalid : c.toNat < 0xd800 ∨ 0xdfff < c.toNat ∧ c.toNat < 0x110000 := c.valid
  have hhalf : isHalfCode c.toNat = false := by
    rw [Bool.eq_false_iff, ne_eq, isHalfCode_iff]
    omega
  rw [held, hhalf, if_neg Bool.false_ne_true, if_pos (by unfold mark; exact h), Char.ofNat_toNat]

theorem codes_held_append {n : Nat} (h : n < 0x110000) (r : List Char) :
    codes (held n ++ r) = n :: codes r := by
  unfold held
  split
  case isTrue hhalf =>
    obtain ⟨hlow, hhigh⟩ := isHalfCode_iff.1 hhalf
    have hnat : (Char.ofNat (n - 0xd800 + firstHalf)).toNat = n - 0xd800 + 0x10f800 :=
      toNat_ofNat (.inr (by unfold firstHalf; omega))
    rw [List.singleton_append, codes_cons (by omega), codeOf, if_pos (isHalf_iff.2 (by omega)), hnat]
    unfold firstHalf
    rw [Nat.add_sub_cancel, Nat.sub_add_cancel hlow]
  case isFalse hhalf =>
    have hvalid : n < 0xd800 ∨ 0xe000 ≤ n ∧ n < 0x110000 := by
      rw [isHalfCode_iff] at hhalf
      omega
    split
    case isTrue hlow =>
      unfold mark at hlow
      have hnat := toNat_ofNat hvalid
      rw [List.singleton_append, codes_cons (by omega), codeOf,
        if_neg (by rw [isHalf_iff]; omega), hnat]
    case isFalse hlow =>
      unfold mark at hlow
      have hnat : (Char.ofNat (n - 0x800)).toNat = n - 0x800 := toNat_ofNat (.inr (by omega))
      have hmarked : isMarked (Char.ofNat (n - 0x800)) = true := isMarked_iff.2 (by omega)
      change codes (Char.ofNat mark :: Char.ofNat (n - 0x800) :: r) = _
      rw [codes_marked rfl hmarked, hnat, Nat.sub_add_cancel (by omega)]

theorem codes_flatMap_held {ns : List Nat} (h : ∀ n ∈ ns, n < 0x110000) :
    codes (ns.flatMap held) = ns := by
  induction ns with
  | nil => rfl
  | cons n r ih =>
    obtain ⟨hn, hr⟩ := List.forall_mem_cons.1 h
    rw [List.flatMap_cons, codes_held_append hn, ih hr]

theorem isHalfCode_codeOf (c : Char) : isHalfCode (codeOf c) = isHalf c := by
  have hvalid : c.toNat < 0xd800 ∨ 0xdfff < c.toNat ∧ c.toNat < 0x110000 := c.valid
  rw [Bool.eq_iff_iff, isHalfCode_iff, codeOf]
  split
  case isTrue h =>
    rw [isHalf_iff] at h
    rw [iff_true_right (isHalf_iff.2 h)]
    unfold firstHalf
    omega
  case isFalse h =>
    rw [isHalf_iff] at h
    rw [isHalf_iff]
    omega

/-- No half stands in a text. -/
def Encodable (s : List Char) : Prop := ∀ c ∈ s, isHalf c = false

instance (s : List Char) : Decidable (Encodable s) := List.decidableBAll ..

@[simp]
theorem encodable_append {s t : List Char} : Encodable (s ++ t) ↔ Encodable s ∧ Encodable t :=
  List.forall_mem_append

@[simp]
theorem encodable_cons {c : Char} {s : List Char} :
    Encodable (c :: s) ↔ isHalf c = false ∧ Encodable s :=
  List.forall_mem_cons

theorem encodable_nil : Encodable [] := List.forall_mem_nil _

theorem encodable_singleton {c : Char} : Encodable [c] ↔ isHalf c = false :=
  List.forall_mem_singleton

/-- A text is encodable if all of its characters stand in one that is. -/
theorem Encodable.of_subset {s t : List Char} (h : Encodable t) (hsub : s ⊆ t) : Encodable s :=
  fun c hc => h c (hsub hc)

theorem Encodable.of_sublist {s t : List Char} (h : Encodable t) (hsub : s.Sublist t) :
    Encodable s :=
  h.of_subset hsub.subset

theorem Encodable.append {s t : List Char} (hs : Encodable s) (ht : Encodable t) :
    Encodable (s ++ t) :=
  encodable_append.2 ⟨hs, ht⟩

theorem encodable_replicate {c : Char} (h : isHalf c = false) (n : Nat) :
    Encodable (List.replicate n c) :=
  fun _ hd => by rwa [List.eq_of_mem_replicate hd]

theorem isHalf_of_lt {c : Char} (h : c.toNat < 0x10f800) : isHalf c = false := by
  rw [Bool.eq_false_iff, ne_eq, isHalf_iff]
  omega

/-- A class of halves has the codes that are held by single characters for halves. -/
theorem any_codes {p : Nat → Bool} (hp : ∀ n, p n = true → isHalfCode n = true) (s : List Char) :
    (codes s).any p = s.any fun c => p (codeOf c) := by
  have hno {n : Nat} (h : isHalfCode n = false) : p n = false := by
    rw [Bool.eq_false_iff]
    intro hn
    rw [hp n hn] at h
    cases h
  fun_induction codes s with
  | case1 => rfl
  | case2 c => rfl
  | case3 c d r h ih =>
    rw [Bool.and_eq_true, decide_eq_true_eq, isMarked_iff] at h
    obtain ⟨hc, hd⟩ := h
    unfold mark at hc
    have hcode : isHalfCode (d.toNat + 0x800) = false := by
      rw [Bool.eq_false_iff, ne_eq, isHalfCode_iff]
      omega
    have hplain (c : Char) (h : c.toNat ≤ 0x10f7ff) : isHalfCode (codeOf c) = false := by
      rw [isHalfCode_codeOf, Bool.eq_false_iff, ne_eq, isHalf_iff]
      omega
    rw [List.any_cons, ih, List.any_cons, List.any_cons, hno hcode, hno (hplain c (by omega)),
      hno (hplain d hd.2)]
    rfl
  | case4 c d r h ih => rw [List.any_cons, ih, List.any_cons, List.any_cons, List.any_cons]

theorem firstRun?_eq_none_iff {fails : Nat → Bool} {s : List Char} :
    firstRun? fails s = none ↔ ∀ n ∈ codes s, fails n = false := by
  unfold firstRun?
  have hsplit : (codes s).drop ((codes s).findIdx fails) = [] ↔
      (codes s).length ≤ (codes s).findIdx fails := List.drop_eq_nil_iff
  rw [← List.findIdx_eq_length]
  constructor
  · intro h
    dsimp only at h
    split at h
    · rename_i hnil
      exact Nat.le_antisymm List.findIdx_le_length (hsplit.1 hnil)
    · cases h
  · intro h
    dsimp only
    rw [hsplit.2 (Nat.le_of_eq h.symm)]

theorem firstRun?_eq_none {p : Nat → Bool} (hp : ∀ n, p n = true → isHalfCode n = true)
    {s : List Char} : firstRun? p s = none ↔ ∀ c ∈ s, p (codeOf c) = false := by
  have hany : (codes s).any p = false ↔ (s.any fun c => p (codeOf c)) = false := by
    rw [any_codes hp]
  rw [firstRun?_eq_none_iff]
  simpa [List.any_eq_false] using hany

/-- Bytes can be made of a text if there is no half in it. -/
theorem unencodable?_eq_none_iff {s : List Char} : unencodable? s = none ↔ Encodable s := by
  rw [unencodable?, firstRun?_eq_none fun _ h => h]
  simp only [isHalfCode_codeOf]
  rfl

/-- A name can be spelled if every half in it stands for a byte. -/
theorem unspellable?_eq_none_iff {s : List Char} :
    unspellable? s = none ↔ ∀ c ∈ s, isHalf c = true → isByteCode (codeOf c) = true := by
  rw [unspellable?, firstRun?_eq_none fun _ h => (Bool.and_eq_true_iff.1 h).1]
  simp only [isHalfCode_codeOf, Bool.and_eq_false_iff, Bool.not_eq_false']
  refine forall₂_congr fun c _ => ?_
  cases isHalf c <;> simp

end UmlPress.Text
