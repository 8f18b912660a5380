/-!
# Texts as bytes

`encode` writes a text as UTF-8 and `decode` reads it back. Bytes that are no UTF-8 are refused
with the place and the length of the first fault: `decode_encode` says that no written text is.
-/

namespace Stencil.Text

/-- The bytes of one character: one to four of them, the further ones each with six bits. -/
def encodeChar (c : Char) : List UInt8 :=
  let n := c.toNat
  if n < 0x80 then [n.toUInt8]
  else if n < 0x800 then [(0xC0 + n / 0x40).toUInt8, (0x80 + n % 0x40).toUInt8]
  else if n < 0x10000 then
    [(0xE0 + n / 0x1000).toUInt8, (0x80 + n / 0x40 % 0x40).toUInt8, (0x80 + n % 0x40).toUInt8]
  else
    [(0xF0 + n / 0x40000).toUInt8, (0x80 + n / 0x1000 % 0x40).toUInt8,
      (0x80 + n / 0x40 % 0x40).toUInt8, (0x80 + n % 0x40).toUInt8]

/-- A text as UTF-8. -/
def encode (s : List Char) : List UInt8 :=
  s.flatMap encodeChar

/-- `encode` for strings. -/
def bytesOf (s : String) : List UInt8 :=
  encode s.toList

/-- Why bytes are not a text: a sequence that no further byte can mend, or one that the end cuts
short. The index counts the bytes before it. -/
inductive Utf8Fault where
  | invalid (index length : Nat)
  | incomplete (index : Nat)
deriving Repr, DecidableEq

/-- The fault in words. -/
def Utf8Fault.message : Utf8Fault → String
  | .invalid index length => s!"invalid utf-8 sequence of {length} bytes from index {index}"
  | .incomplete index => s!"incomplete utf-8 byte sequence from index {index}"

/-- The bounds of the second byte after a leading byte. They are narrower than those of a later
byte where the leading byte alone would admit an overlong form, a surrogate, or a number beyond
the last code point. -/
def secondBounds (lead : Nat) : Nat × Nat :=
  if lead = 0xE0 then (0xA0, 0xBF)
  else if lead = 0xED then (0x80, 0x9F)
  else if lead = 0xF0 then (0x90, 0xBF)
  else if lead = 0xF4 then (0x80, 0x8F)
  else (0x80, 0xBF)

/-- Whether a byte may be the second one after `lead`. -/
def isSecond (lead : Nat) (b : UInt8) : Bool :=
  (secondBounds lead).1 ≤ b.toNat && b.toNat ≤ (secondBounds lead).2

/-- Whether a byte may be the third or fourth one of a sequence. -/
def isContinuation (b : UInt8) : Bool :=
  0x80 ≤ b.toNat && b.toNat ≤ 0xBF

/-- Reads bytes of which `index` stand before. -/
def decodeFrom (index : Nat) : List UInt8 → Except Utf8Fault (List Char)
  | [] => .ok []
  | lead :: rest =>
    let n := lead.toNat
    if n < 0x80 then (decodeFrom (index + 1) rest).map (Char.ofNat n :: ·)
    else if n < 0xC2 then .error (.invalid index 1)
    else if n < 0xE0 then
      match rest with
      | [] => .error (.incomplete index)
      | b :: rest =>
        if isSecond n b then
          (decodeFrom (index + 2) rest).map
            (Char.ofNat ((n - 0xC0) * 0x40 + (b.toNat - 0x80)) :: ·)
        else .error (.invalid index 1)
    else if n < 0xF0 then
      match rest with
      | [] => .error (.incomplete index)
      | [b] => .error (if isSecond n b then .incomplete index else .invalid index 1)
      | b :: c :: rest =>
        if !isSecond n b then .error (.invalid index 1)
        else if !isContinuation c then .error (.invalid index 2)
        else
          (decodeFrom (index + 3) rest).map
            (Char.ofNat ((n - 0xE0) * 0x1000 + (b.toNat - 0x80) * 0x40 + (c.toNat - 0x80)) :: ·)
    else if n < 0xF5 then
      match rest with
      | [] => .error (.incomplete index)
      | [b] => .error (if isSecond n b then .incomplete index else .invalid index 1)
      | [b, c] =>
        .error (if !isSecond n b then .invalid index 1
          else if isContinuation c then .incomplete index else .invalid index 2)
      | b :: c :: d :: rest =>
        if !isSecond n b then .error (.invalid index 1)
        else if !isContinuation c then .error (.invalid index 2)
        else if !isContinuation d then .error (.invalid index 3)
        else
          (decodeFrom (index + 4) rest).map
            (Char.ofNat ((n - 0xF0) * 0x40000 + (b.toNat - 0x80) * 0x1000 +
              (c.toNat - 0x80) * 0x40 + (d.toNat - 0x80)) :: ·)
    else .error (.invalid index 1)

/-- The text that bytes stand for, or the first fault in them. -/
def decode (bytes : List UInt8) : Except Utf8Fault (List Char) :=
  decodeFrom 0 bytes

/-! ### What is written is read back -/

private theorem toNat_byte {n : Nat} (h : n < 0x100) : n.toUInt8.toNat = n := by
  simp only [Nat.toUInt8, UInt8.toNat_ofNat']
  omega

/-- The six bits of a byte that is not the first one of its character. -/
private theorem toNat_later {m : Nat} (hm : m < 0x40) : (0x80 + m).toUInt8.toNat - 0x80 = m := by
  rw [toNat_byte (by omega)]
  omega

private theorem isContinuation_later {m : Nat} (hm : m < 0x40) :
    isContinuation (0x80 + m).toUInt8 = true := by
  unfold isContinuation
  rw [toNat_byte (by omega), Bool.and_eq_true, decide_eq_true_eq, decide_eq_true_eq]
  omega

/-- Which six bits may follow a first byte: those that keep it from an overlong form, a surrogate
and a number beyond the last code point. -/
private theorem isSecond_later {lead m : Nat} (hm : m < 0x40) (hoverlong : lead = 0xE0 → 0x20 ≤ m)
    (hsurrogate : lead = 0xED → m < 0x20) (hoverlong' : lead = 0xF0 → 0x10 ≤ m)
    (hbeyond : lead = 0xF4 → m < 0x10) : isSecond lead (0x80 + m).toUInt8 = true := by
  unfold isSecond secondBounds
  rw [toNat_byte (by omega), Bool.and_eq_true, decide_eq_true_eq, decide_eq_true_eq]
  -- each bound is for one of the first bytes that are singled out, or for all others
  repeat' split
  all_goals dsimp only; omega

section

variable {lead m₁ m₂ m₃ : Nat} (index : Nat) (rest : List UInt8)

private theorem decodeFrom_one (hlead : lead < 0x80) :
    decodeFrom index (lead.toUInt8 :: rest) =
      (decodeFrom (index + 1) rest).map (Char.ofNat lead :: ·) := by
  rw [decodeFrom.eq_def]
  dsimp only
  rw [toNat_byte (by omega), if_pos hlead]

private theorem decodeFrom_two (hlow : 0xC2 ≤ lead) (hhigh : lead < 0xE0) (h₁ : m₁ < 0x40) :
    decodeFrom index (lead.toUInt8 :: (0x80 + m₁).toUInt8 :: rest) =
      (decodeFrom (index + 2) rest).map (Char.ofNat ((lead - 0xC0) * 0x40 + m₁) :: ·) := by
  have hsecond : isSecond lead (0x80 + m₁).toUInt8 = true :=
    isSecond_later h₁ (by omega) (by omega) (by omega) (by omega)
  rw [decodeFrom, toNat_byte (by omega), if_neg (by omega), if_neg (by omega), if_pos hhigh,
    if_pos hsecond, toNat_later h₁]

private theorem decodeFrom_three (hlow : 0xE0 ≤ lead) (hhigh : lead < 0xF0) (h₁ : m₁ < 0x40)
    (h₂ : m₂ < 0x40) (hoverlong : lead = 0xE0 → 0x20 ≤ m₁) (hsurrogate : lead = 0xED → m₁ < 0x20) :
    decodeFrom index
        (lead.toUInt8 :: (0x80 + m₁).toUInt8 :: (0x80 + m₂).toUInt8 :: rest) =
      (decodeFrom (index + 3) rest).map
        (Char.ofNat ((lead - 0xE0) * 0x1000 + m₁ * 0x40 + m₂) :: ·) := by
  have hsecond : isSecond lead (0x80 + m₁).toUInt8 = true :=
    isSecond_later h₁ hoverlong hsurrogate (by omega) (by omega)
  rw [decodeFrom]
  dsimp only
  rw [toNat_byte (by omega), if_neg (by omega), if_neg (by omega), if_neg (by omega), if_pos hhigh,
    hsecond, isContinuation_later h₂, toNat_later h₁, toNat_later h₂]
  rfl

private theorem decodeFrom_four (hlow : 0xF0 ≤ lead) (hhigh : lead < 0xF5) (h₁ : m₁ < 0x40)
    (h₂ : m₂ < 0x40) (h₃ : m₃ < 0x40) (hoverlong : lead = 0xF0 → 0x10 ≤ m₁)
    (hbeyond : lead = 0xF4 → m₁ < 0x10) :
    decodeFrom index
        (lead.toUInt8 :: (0x80 + m₁).toUInt8 :: (0x80 + m₂).toUInt8 ::
          (0x80 + m₃).toUInt8 :: rest) =
      (decodeFrom (index + 4) rest).map
        (Char.ofNat ((lead - 0xF0) * 0x40000 + m₁ * 0x1000 + m₂ * 0x40 + m₃) :: ·) := by
  have hsecond : isSecond lead (0x80 + m₁).toUInt8 = true :=
    isSecond_later h₁ (by omega) (by omega) hoverlong hbeyond
  rw [decodeFrom]
  dsimp only
  rw [toNat_byte (by omega), if_neg (by omega), if_neg (by omega), if_neg (by omega),
    if_neg (by omega), if_pos hhigh, hsecond, isContinuation_later h₂, isContinuation_later h₃,
    toNat_later h₁, toNat_later h₂, toNat_later h₃]
  rfl

end

/-- A code point is not a surrogate, and there is a last one. -/
private theorem code_bounds (c : Char) :
    c.toNat < 0xD800 ∨ 0xDFFF < c.toNat ∧ c.toNat < 0x110000 := by
  have h : Nat.isValidChar c.val.toNat := c.valid
  simpa [Nat.isValidChar] using h

/-- The bytes of a character are read as this character. -/
private theorem decodeFrom_encodeChar (c : Char) (index : Nat) (rest : List UInt8) :
    ∃ width, decodeFrom index (encodeChar c ++ rest) =
      (decodeFrom (index + width) rest).map (c :: ·) := by
  have hbounds := code_bounds c
  have hchar : ∀ n, n = c.toNat → Char.ofNat n = c := fun n hn => by rw [hn, Char.ofNat_toNat]
  unfold encodeChar
  dsimp only
  -- in each case the code point is put together again from the digits that were written
  split
  · next hone => exact ⟨1, (decodeFrom_one index rest hone).trans (by rw [hchar _ rfl])⟩
  split
  · next htwo =>
    refine ⟨2, (decodeFrom_two index rest ?_ ?_ ?_).trans (by rw [hchar _ (by omega)])⟩
    all_goals omega
  split
  · next hthree =>
    refine ⟨3, (decodeFrom_three index rest ?_ ?_ ?_ ?_ ?_ ?_).trans (by rw [hchar _ (by omega)])⟩
    all_goals omega
  · refine ⟨4, (decodeFrom_four index rest ?_ ?_ ?_ ?_ ?_ ?_ ?_).trans
      (by rw [hchar _ (by omega)])⟩
    all_goals omega

/-- Reading what was written gives the text back, wherever it stands. -/
theorem decodeFrom_encode (s : List Char) (index : Nat) : decodeFrom index (encode s) = .ok s := by
  induction s generalizing index with
  | nil => rfl
  | cons c s ih =>
    obtain ⟨width, h⟩ := decodeFrom_encodeChar c index (encode s)
    rw [encode, List.flatMap_cons, ← encode, h, ih]
    rfl

/-- Reading what was written gives the text back. -/
@[simp] theorem decode_encode (s : List Char) : decode (encode s) = .ok s :=
  decodeFrom_encode s 0

end Stencil.Text
