import Mathlib.Data.List.DropRight
import Mathlib.Data.List.Infix
import Mathlib.Data.Nat.Notation
import Mathlib.Tactic.Common

/-!
# Text as Python's `str` methods treat it

`strip`, `upper`, `lower`, `replace` and `split` on character lists, written by structural
recursion so that they evaluate on closed texts. Letter case is changed for the
ASCII letters only.
-/

namespace PyText

/-- The characters `str.strip()` removes. -/
def isSpace (c : Char) : Bool :=
  (9 ≤ c.toNat && c.toNat ≤ 13) || (28 ≤ c.toNat && c.toNat ≤ 32) || c.toNat == 0x85 ||
    c.toNat == 0xa0 || c.toNat == 0x1680 || (0x2000 ≤ c.toNat && c.toNat ≤ 0x200a) ||
    c.toNat == 0x2028 || c.toNat == 0x2029 || c.toNat == 0x202f || c.toNat == 0x205f ||
    c.toNat == 0x3000

theorem isSpace_of_isDigit {c : Char} (h : c.isDigit = true) : isSpace c = false := by
  rw [Char.isDigit, Bool.and_eq_true, decide_eq_true_iff, decide_eq_true_iff] at h
  have hlow : 48 ≤ c.toNat := h.1
  have hhigh : c.toNat ≤ 57 := h.2
  unfold isSpace
  simp only [Bool.or_eq_false_iff, Bool.and_eq_false_iff, decide_eq_false_iff_not, beq_eq_false_iff_ne]
  omega

/-- Drop the characters satisfying `p` at both ends. -/
def stripBy (p : Char → Bool) (s : String) : String :=
  String.ofList (((s.toList.dropWhile p).reverse.dropWhile p).reverse)

/-- `str.strip()`. -/
def strip (s : String) : String :=
  stripBy isSpace s

theorem stripBy_stripBy (p : Char → Bool) (s : String) :
    stripBy p (stripBy p s) = stripBy p s := by
  have hr : ∀ l : List Char, (l.reverse.dropWhile p).reverse = l.rdropWhile p := fun _ => rfl
  -- the stripped text starts where the text stripped on the left does
  have hl : ∀ l : List Char,
      ((l.dropWhile p).rdropWhile p).dropWhile p = (l.dropWhile p).rdropWhile p := by
    intro l
    rw [List.dropWhile_eq_self_iff]
    intro hpos
    have hpre := List.rdropWhile_prefix p (l.dropWhile p)
    rw [List.IsPrefix.getElem hpre hpos]
    exact List.dropWhile_get_zero_not p l (hpos.trans_le hpre.length_le)
  simp only [stripBy, String.toList_ofList, hr]
  rw [hl, List.rdropWhile_idempotent]

theorem stripBy_eq_empty {p : Char → Bool} {s : String} :
    stripBy p s = "" ↔ ∀ c ∈ s.toList, p c = true := by
  rw [stripBy, String.ofList_eq_empty_iff, List.reverse_eq_nil_iff, List.dropWhile_eq_nil_iff]
  constructor
  · intro h c hc
    by_contra hp
    have hmem : c ∈ s.toList.dropWhile p := by
      rw [← List.takeWhile_append_dropWhile (p := p) (l := s.toList)] at hc
      rcases List.mem_append.1 hc with hc | hc
      · exact absurd (List.mem_takeWhile_imp hc) hp
      · exact hc
    exact hp (h c (List.mem_reverse.2 hmem))
  · intro h c hc
    exact h c (List.dropWhile_subset p (List.mem_reverse.1 hc))

/-- `str.upper()`. -/
def upper (s : String) : String :=
  String.ofList (s.toList.map Char.toUpper)

/-- `str.lower()`. -/
def lower (s : String) : String :=
  String.ofList (s.toList.map Char.toLower)

theorem toNat_toLower (c : Char) :
    c.toLower.toNat = if 65 ≤ c.toNat ∧ c.toNat ≤ 90 then c.toNat + 32 else c.toNat := by
  unfold Char.toLower
  simp only [ge_iff_le, UInt32.le_iff_toNat_le, Char.toNat_val]
  split
  · rename_i h
    have hc : 65 ≤ c.toNat ∧ c.toNat ≤ 90 := h
    have hval : c.val.toNat = c.toNat := rfl
    have hshift : ('a'.val - 'A'.val).toNat = 32 := by decide
    rw [if_pos hc]
    show (c.val + ('a'.val - 'A'.val)).toNat = c.toNat + 32
    rw [UInt32.toNat_add]
    omega
  · rename_i h
    exact (if_neg h).symm

theorem isSpace_toLower (c : Char) : isSpace c.toLower = isSpace c := by
  rw [isSpace, isSpace, toNat_toLower]
  split
  · rename_i h
    rw [Bool.eq_iff_iff]
    simp only [Bool.or_eq_true, Bool.and_eq_true, decide_eq_true_eq, beq_iff_eq]
    omega
  · rfl

theorem toLower_toLower (c : Char) : c.toLower.toLower = c.toLower := by
  apply Char.toNat_inj.1
  rw [toNat_toLower c.toLower, if_neg]
  rw [toNat_toLower]
  split <;> omega

theorem lower_lower (s : String) : lower (lower s) = lower s := by
  rw [lower, lower, String.toList_ofList, List.map_map]
  congr 2
  funext c
  exact toLower_toLower c

theorem strip_lower (s : String) : strip (lower s) = lower (strip s) := by
  have hdrop : ∀ l : List Char, (l.map Char.toLower).dropWhile isSpace =
      (l.dropWhile isSpace).map Char.toLower := by
    intro l
    have hspace : isSpace ∘ Char.toLower = isSpace := funext isSpace_toLower
    rw [List.dropWhile_map, hspace]
  rw [strip, strip, stripBy, stripBy, lower, lower, String.toList_ofList, String.toList_ofList,
    hdrop, ← List.map_reverse, hdrop, ← List.map_reverse]

/-- `str.replace(a, b)` for single characters. -/
def replaceChar (a b : Char) (s : String) : String :=
  String.ofList (s.toList.map fun c => if c = a then b else c)

/-- Keep one of every run of equal `c`s, as the loop
`while "cc" in text: text = text.replace("cc", "c")` does. -/
def squeezeList (c : Char) : List Char → List Char
  | x :: y :: rest =>
    if x = c ∧ y = c then squeezeList c (y :: rest) else x :: squeezeList c (y :: rest)
  | rest => rest

/-- `squeezeList` on a text. -/
def squeeze (c : Char) (s : String) : String :=
  String.ofList (squeezeList c s.toList)

def isIn (needle s : String) : Bool :=
  s.toList.tails.any fun rest => needle.toList.isPrefixOf rest

/-- A needle is in a text when its characters stand together in it. -/
theorem isIn_iff (needle s : String) : isIn needle s = true ↔ needle.toList <:+: s.toList := by
  simp only [isIn, List.any_eq_true, List.mem_tails, List.isPrefixOf_iff_prefix]
  constructor
  · rintro ⟨rest, hsuffix, hstart⟩
    exact hstart.isInfix.trans hsuffix.isInfix
  · intro h
    obtain ⟨rest, hstart, hsuffix⟩ := List.infix_iff_prefix_suffix.1 h
    exact ⟨rest, hsuffix, hstart⟩

theorem isIn_intercalate {needle sep s : String} {texts : List String} (h : s ∈ texts)
    (hs : isIn needle s = true) : isIn needle (sep.intercalate texts) = true := by
  rw [isIn_iff] at hs ⊢
  refine hs.trans ?_
  induction texts with
  | nil => cases h
  | cons t rest ih =>
    cases rest with
    | nil =>
      obtain rfl := List.mem_singleton.1 h
      rw [String.intercalate_singleton]
    | cons u rest =>
      rw [String.intercalate_cons_cons]
      simp only [String.toList_append]
      rcases List.mem_cons.1 h with rfl | h
      · rw [List.append_assoc]
        exact (List.prefix_append _ _).isInfix
      · exact (ih h).trans (List.suffix_append _ _).isInfix

theorem stripBy_eq_self {p : Char → Bool} {s : String} (h : ∀ c ∈ s.toList, p c = false) :
    stripBy p s = s := by
  have hdrop : ∀ l : List Char, (∀ c ∈ l, p c = false) → l.dropWhile p = l := by
    intro l hl
    rw [List.dropWhile_eq_self_iff]
    intro hpos
    rw [hl _ (List.getElem_mem hpos)]
    decide
  rw [stripBy, hdrop _ h, hdrop _ fun c hc => h c (List.mem_reverse.1 hc),
    List.reverse_reverse, String.ofList_toList]

theorem strip_eq_self {s : String} (h : ∀ c ∈ s.toList, isSpace c = false) : strip s = s :=
  stripBy_eq_self h

/-- `str.startswith(start)`. -/
def startsWith (s start : String) : Bool := start.toList.isPrefixOf s.toList

/-- The value of a digit string read after the number `n`. -/
def digitsValue (n : ℕ) : List Char → ℕ
  | [] => n
  | c :: cs => digitsValue (10 * n + (c.toNat - '0'.toNat)) cs

theorem le_digitsValue (n : ℕ) (cs : List Char) : n ≤ digitsValue n cs := by
  induction cs generalizing n with
  | nil => exact Nat.le_refl n
  | cons c cs ih => exact Nat.le_trans (by omega) (ih _)

/-- Where a reader of a text stands with respect to a number. -/
inductive NumberPart where
  | outside
  | integer
  | fraction

/-- `re.sub(r"\d+(?:\.\d+)?", "#", text)`. -/
def maskNumbers : NumberPart → List Char → List Char
  | _, [] => []
  | .outside, c :: cs =>
    if c.isDigit then '#' :: maskNumbers .integer cs else c :: maskNumbers .outside cs
  | .integer, c :: cs =>
    if c.isDigit then maskNumbers .integer cs
    else if c = '.' ∧ cs.head?.any Char.isDigit then maskNumbers .fraction cs
    else c :: maskNumbers .outside cs
  | .fraction, c :: cs =>
    if c.isDigit then maskNumbers .fraction cs else c :: maskNumbers .outside cs

end PyText
