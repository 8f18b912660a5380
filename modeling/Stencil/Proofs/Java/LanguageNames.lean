import Stencil.Proofs.Java.Grammar
import Stencil.Proofs.Text.Category

/-!
# Names of the language

The language says by general categories which characters a name may begin with (`MayStart`) and
which ones it may go on with (`MayFollow`). The checks go by other properties: a name begins with
what is alphabetic, and goes on with what is alphabetic or a number of some kind. The two do not
quite agree. Some marks and symbols are alphabetic, and some numbers are neither letters nor digits.

How the properties lie in the categories is settled by their tables (`category_of_isLetter`,
`category_of_isNumeral`), and with that it is known of every accepted character whether the language
allows it. So an accepted name is one of the language exactly if it does not begin with a mark, and
has no symbol and no such number in it (`isLanguageName_iff`).
-/

namespace Stencil.Java

open Text (Category category Within isLetter isNumeral)

/-! ### The rule of the language -/

/-- A name may begin with a letter, a letter that is a number, the sign of a currency or connecting
punctuation. -/
def MayStart (c : Char) : Prop :=
  category c ∈ [Category.letter, .letterNumber, .currency, .connector]

/-- A character that does not count in names: one that controls the format, or a control character
that is no white space. -/
def IsIgnorable (c : Char) : Prop :=
  category c = .format ∨
    category c = .control ∧ ¬ (0x9 ≤ c.toNat ∧ c.toNat ≤ 0xD) ∧ ¬ (0x1C ≤ c.toNat ∧ c.toNat ≤ 0x1F)

/-- A name may go on with what it may begin with, with digits and marks, and with characters that do
not count. -/
def MayFollow (c : Char) : Prop :=
  MayStart c ∨ category c ∈ [Category.decimalDigit, .mark] ∨ IsIgnorable c

/-- **A name as the language has them.** -/
def IsLanguageName (name : String) : Prop :=
  ∃ first rest, name.toList = first :: rest ∧ MayStart first ∧ ∀ c ∈ rest, MayFollow c

/-! ### Categories of what is accepted -/

theorem category_of_isLetter {c : Char} (h : isLetter c = true) :
    category c ∈ [Category.letter, .mark, .letterNumber, .otherSymbol] := by
  have hnone : Text.outside Text.letterRanges
      [Category.letter, .mark, .letterNumber, .otherSymbol] = [] := by decide +kernel
  exact Text.category_of_inRanges hnone rfl (fun _ hk => hk) h

theorem category_of_isNumeral {c : Char} (h : isNumeral c = true) :
    category c ∈ [Category.letter, .mark, .letterNumber, .otherSymbol, .decimalDigit,
      .otherNumber] := by
  have hnone : Text.outside Text.numeralRanges
      [Category.letterNumber, .decimalDigit, .otherNumber] = [] := by decide +kernel
  exact Text.category_of_inRanges hnone rfl (by decide) h

/-- The two characters that are accepted by themselves are connecting and of a currency. -/
theorem category_of_sign {c : Char} (h : c = '_' ∨ c = '$') :
    category c = .connector ∨ category c = .currency := by
  rcases h with rfl | rfl
  · left
    decide +kernel
  · right
    decide +kernel

theorem isStart_iff {c : Char} : isStart c = true ↔ isLetter c = true ∨ c = '_' ∨ c = '$' := by
  unfold isStart
  rw [Bool.or_eq_true, Bool.or_eq_true, beq_iff_eq, beq_iff_eq, or_assoc]

theorem isPart_iff {c : Char} :
    isPart c = true ↔ isLetter c = true ∨ isNumeral c = true ∨ c = '_' ∨ c = '$' := by
  unfold isPart Text.isLetterOrNumeral
  rw [Bool.or_eq_true, Bool.or_eq_true, Bool.or_eq_true, beq_iff_eq, beq_iff_eq, or_assoc, or_assoc]

theorem category_of_isStart {c : Char} (h : isStart c = true) :
    category c ∈ [Category.letter, .mark, .letterNumber, .otherSymbol, .connector, .currency] := by
  rcases isStart_iff.1 h with hletter | hsign
  · exact List.mem_append_left [Category.connector, .currency] (category_of_isLetter hletter)
  · rcases category_of_sign hsign with hc | hc <;> rw [hc] <;> decide

theorem category_of_isPart {c : Char} (h : isPart c = true) :
    category c ∈ [Category.letter, .mark, .letterNumber, .otherSymbol, .decimalDigit, .otherNumber,
      .connector, .currency] := by
  rcases isPart_iff.1 h with hletter | hnumeral | hsign
  · exact List.mem_append_left [Category.decimalDigit, .otherNumber, .connector, .currency]
      (category_of_isLetter hletter)
  · exact List.mem_append_left [Category.connector, .currency] (category_of_isNumeral hnumeral)
  · rcases category_of_sign hsign with hc | hc <;> rw [hc] <;> decide

/-! ### What the language allows of it -/

/-- **An accepted beginning** is one by the language unless it is a mark or a symbol. -/
theorem mayStart_iff {c : Char} (h : isStart c = true) :
    MayStart c ↔ category c ≠ .mark ∧ category c ≠ .otherSymbol := by
  have hcategory := category_of_isStart h
  unfold MayStart
  revert hcategory
  cases category c <;> decide

/-- **An accepted character** may go on a name by the language unless it is a symbol or a number that
is neither a letter nor a digit. -/
theorem mayFollow_iff {c : Char} (h : isPart c = true) :
    MayFollow c ↔ category c ≠ .otherNumber ∧ category c ≠ .otherSymbol := by
  have hcategory := category_of_isPart h
  unfold MayFollow MayStart IsIgnorable
  revert hcategory
  cases category c <;> simp

theorem isIdentifier_iff {name : String} : isIdentifier name = true ↔ IsName name := by
  unfold isIdentifier
  rw [Option.isNone_iff_eq_none, fault?_eq_none_iff]

/-- **An accepted name is one of the language exactly if** it does not begin with a mark, and has no
symbol in it and no number that is neither a letter nor a digit. -/
theorem isLanguageName_iff {name : String} (h : isIdentifier name = true) :
    IsLanguageName name ↔ (∀ c ∈ name.toList.head?, category c ≠ .mark) ∧
      ∀ c ∈ name.toList, category c ≠ .otherNumber ∧ category c ≠ .otherSymbol := by
  obtain ⟨first, rest, hname, hfirst, hrest⟩ := (isIdentifier_iff.1 h).spelt
  -- a number of the other kinds is no letter, so nothing begins with it anyway
  have hnumber : category first ≠ .otherNumber := by
    intro heq
    have hmem := category_of_isStart hfirst
    rw [heq] at hmem
    exact absurd hmem (by decide)
  have hlanguage : IsLanguageName name ↔ MayStart first ∧ ∀ c ∈ rest, MayFollow c := by
    -- a name has one first character, whatever way it is split
    constructor
    · rintro ⟨first', rest', hname', hstart, hfollow⟩
      obtain ⟨rfl, rfl⟩ := List.cons.inj (hname.symm.trans hname')
      exact ⟨hstart, hfollow⟩
    · rintro ⟨hstart, hfollow⟩
      exact ⟨first, rest, hname, hstart, hfollow⟩
  rw [hlanguage, mayStart_iff hfirst, forall₂_congr fun c hc => mayFollow_iff (hrest c hc), hname,
    List.head?_cons, List.forall_mem_cons]
  constructor
  · rintro ⟨⟨hmark, hsymbol⟩, hfollow⟩
    refine ⟨fun c hc => ?_, ⟨hnumber, hsymbol⟩, hfollow⟩
    rwa [← Option.some.inj hc]
  · rintro ⟨hmark, ⟨-, hsymbol⟩, hfollow⟩
    exact ⟨⟨hmark first rfl, hsymbol⟩, hfollow⟩

/-- A mark, a letter that is a number and a digit may stand inside of a name. -/
theorem isLanguageName_marked :
    isIdentifier "कः_Ⅷ٣$" = true ∧ IsLanguageName "कः_Ⅷ٣$" := by
  have haccepted : isIdentifier "कः_Ⅷ٣$" = true := by decide +kernel
  refine ⟨haccepted, (isLanguageName_iff haccepted).2 ⟨?_, ?_⟩⟩
  · intro c hc
    obtain rfl : 'क' = c := Option.some.inj hc
    decide +kernel
  · -- the categories of the characters are looked up, each of them in the tables
    have hcategories : ("कः_Ⅷ٣$".toList.all fun c =>
        category c != .otherNumber && category c != .otherSymbol) = true := by decide +kernel
    intro c hc
    have hcategory := List.all_eq_true.1 hcategories c hc
    rwa [Bool.and_eq_true, bne_iff_ne, bne_iff_ne] at hcategory

/-- **So not every accepted name is one of the language**: a superscript is a number of another
kind, which no name may have. -/
theorem not_isLanguageName_superscript :
    ¬ ∀ name, isIdentifier name = true → IsLanguageName name := by
  intro h
  have hchars : "x²".toList = ['x', '²'] := by decide
  obtain ⟨first, rest, hname, -, hfollow⟩ := h "x²" (by decide +kernel)
  obtain ⟨rfl, rfl⟩ := List.cons.inj (hchars.symm.trans hname)
  have hpart : isPart '²' = true := by decide +kernel
  have hcategory : category '²' = .otherNumber := by decide +kernel
  exact ((mayFollow_iff hpart).1 (hfollow '²' List.mem_cons_self)).1 hcategory

end Stencil.Java
