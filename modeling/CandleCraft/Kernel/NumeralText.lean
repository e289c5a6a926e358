import CandleCraft.Kernel.DecimalText
import CandleCraft.Kernel.Numeral

/-!
# Reading decimal numerals

`Decimal(text)` keeps the digits and the exponent of a text, not only the number it denotes, so the
text that `str` writes for a finite decimal is read as that decimal.
-/

namespace PyDecimal

open PyText

/-- What `Decimal(text)` makes of a text. -/
inductive Reading where
  | malformed
  | nonFinite
  | finite (d : Numeral)
  deriving DecidableEq

def readSigned (cs : List Char) : Option ℤ :=
  let (negative, digits) := splitSign cs
  if digits ≠ [] ∧ digits.all Char.isDigit then
    some (if negative then -(Nat.ofDigitChars 10 digits 0 : ℤ) else Nat.ofDigitChars 10 digits 0)
  else none

def readExponent : List Char → Option ℤ
  | [] => some 0
  | 'e' :: cs => readSigned cs
  | 'E' :: cs => readSigned cs
  | _ => none

def readUnsigned (negative : Bool) (cs : List Char) : Reading :=
  let integer := cs.takeWhile Char.isDigit
  let (fraction, rest) := splitFraction (cs.dropWhile Char.isDigit)
  if integer = [] ∧ fraction = [] then .malformed
  else
    match readExponent rest with
    | none => .malformed
    | some e => .finite ⟨negative, Nat.ofDigitChars 10 (integer ++ fraction) 0, e - fraction.length⟩

/-- `Decimal(text)`. -/
def read (text : String) : Reading :=
  let (negative, body) := splitSign ((strip text).toList.filter fun c => c != '_')
  if isSpecial (body.map Char.toLower) then .nonFinite else readUnsigned negative body

namespace Numeral

variable (d : Numeral)

theorem length_digits_pos : 0 < d.digits.length := Nat.length_toDigits_pos

theorem parts_spec :
    Nat.ofDigitChars 10 (d.parts.1 ++ d.parts.2) 0 = d.coefficient ∧
      d.leftDigits - d.dotPlace - d.parts.2.length = d.exponent := by
  have hdigits : Nat.ofDigitChars 10 d.digits 0 = d.coefficient :=
    Nat.ofDigitChars_toDigits (by omega) le_rfl
  have hlength := d.length_digits_pos
  have hleft : d.leftDigits = d.exponent + d.digits.length := rfl
  have hdot : d.dotPlace = d.leftDigits ∧ d.exponent ≤ 0 ∨ d.dotPlace = 1 := by
    unfold dotPlace
    split
    · next h => exact .inl ⟨rfl, h.1⟩
    · exact .inr rfl
  unfold parts
  split
  · next hsmall =>
    refine ⟨?_, ?_⟩
    · show Nat.ofDigitChars 10 (List.replicate 1 '0' ++ _) 0 = _
      rw [ofDigitChars_replicate_zero, ofDigitChars_replicate_zero, hdigits]
    · rw [List.length_append, List.length_replicate]
      omega
  · split
    · next hlarge =>
      -- the point never stands beyond the last digit
      have hnone : (d.dotPlace - d.digits.length).toNat = 0 := by omega
      rw [hnone, List.replicate_zero, List.append_nil, List.append_nil]
      exact ⟨hdigits, by rw [List.length_nil]; omega⟩
    · next hpos hmiddle =>
      rw [List.take_append_drop, List.length_drop]
      exact ⟨hdigits, by omega⟩

theorem isDigit_of_mem_parts {c : Char} (h : c ∈ d.parts.1 ++ d.parts.2) : c.isDigit = true := by
  have hdigits : c ∈ d.digits → c.isDigit = true := Nat.isDigit_of_mem_toDigits (by omega) le_rfl
  have hzero : ∀ k, c ∈ List.replicate k '0' → c.isDigit = true := by
    intro k hk
    rw [List.eq_of_mem_replicate hk]
    decide
  unfold parts at h
  split at h
  · rcases List.mem_append.1 h with h | h
    · exact hzero 1 h
    · rcases List.mem_append.1 h with h | h
      · exact hzero _ h
      · exact hdigits h
  · split at h
    · rw [List.append_nil] at h
      rcases List.mem_append.1 h with h | h
      · exact hdigits h
      · exact hzero _ h
    · rw [List.take_append_drop] at h
      exact hdigits h

theorem parts_ne_nil : d.parts.1 ≠ [] := by
  unfold parts
  split
  · exact List.cons_ne_nil _ _
  · split
    · exact List.append_ne_nil_of_left_ne_nil Nat.toDigits_ne_nil _
    · next hpos hmiddle =>
      have := d.length_digits_pos
      rw [← List.length_pos_iff, List.length_take]
      omega

/-- The exponent of the text. -/
def scale : List Char :=
  if d.leftDigits = d.dotPlace then [] else 'E' :: signedDigits (d.leftDigits - d.dotPlace)

theorem readSigned_signedDigits (n : ℤ) : readSigned (signedDigits n) = some n := by
  have hvalue := Nat.ofDigitChars_toDigits (b := 10) (n := n.natAbs) (by omega) le_rfl
  have hdigits : Nat.toDigits 10 n.natAbs ≠ [] ∧ (Nat.toDigits 10 n.natAbs).all Char.isDigit := by
    refine ⟨Nat.toDigits_ne_nil, List.all_eq_true.2 fun c hc => ?_⟩
    exact Nat.isDigit_of_mem_toDigits (by omega) le_rfl hc
  by_cases hneg : n < 0
  · rw [signedDigits, if_pos hneg, readSigned]
    simp only [splitSign]
    rw [if_pos hdigits, hvalue, if_pos trivial]
    congr 1
    omega
  · rw [signedDigits, if_neg hneg, readSigned]
    simp only [splitSign]
    rw [if_pos hdigits, hvalue, if_neg Bool.false_ne_true]
    congr 1
    omega

theorem readExponent_scale : readExponent d.scale = some (d.leftDigits - d.dotPlace) := by
  unfold scale
  split
  · next h => rw [h, sub_self]; rfl
  · rw [readExponent, readSigned_signedDigits]

theorem not_isDigit_head_scale : ∀ c ∈ d.scale.head?, c.isDigit = false := by
  intro c hc
  unfold scale at hc
  split at hc
  · cases hc
  · cases hc
    decide

theorem splitFraction_tail :
    splitFraction ((if d.parts.2 = [] then [] else '.' :: d.parts.2) ++ d.scale) =
      (d.parts.2, d.scale) := by
  split
  · next hnil =>
    rw [List.nil_append, hnil]
    unfold scale
    split <;> rfl
  · have hdigits : ∀ c ∈ d.parts.2, c.isDigit = true :=
      fun c hc => d.isDigit_of_mem_parts (List.mem_append_right _ hc)
    obtain ⟨htake, hdrop⟩ := span_append hdigits d.not_isDigit_head_scale
    rw [List.cons_append, splitFraction, htake, hdrop]

theorem readUnsigned_body (negative : Bool) :
    readUnsigned negative d.body = .finite ⟨negative, d.coefficient, d.exponent⟩ := by
  obtain ⟨hvalue, hexponent⟩ := d.parts_spec
  have hbody : d.body =
      d.parts.1 ++ ((if d.parts.2 = [] then [] else '.' :: d.parts.2) ++ d.scale) := by
    rw [body, List.append_assoc]
    rfl
  have hdigits : ∀ c ∈ d.parts.1, c.isDigit = true :=
    fun c hc => d.isDigit_of_mem_parts (List.mem_append_left _ hc)
  obtain ⟨htake, hdrop⟩ := span_append hdigits
    (r := (if d.parts.2 = [] then [] else '.' :: d.parts.2) ++ d.scale) (by
      intro c hc
      split at hc
      · exact d.not_isDigit_head_scale c hc
      · cases hc
        decide)
  unfold readUnsigned
  rw [hbody, htake, hdrop, d.splitFraction_tail]
  dsimp only
  rw [if_neg fun h => d.parts_ne_nil h.1, d.readExponent_scale, hvalue]
  dsimp only
  rw [hexponent]

theorem exists_body : ∃ c cs, d.body = c :: cs ∧ c.isDigit = true := by
  obtain ⟨c, cs, hcs⟩ := List.exists_cons_of_ne_nil d.parts_ne_nil
  refine ⟨c, _, by rw [body, hcs, List.append_assoc, List.cons_append], ?_⟩
  exact d.isDigit_of_mem_parts (by rw [hcs]; exact List.mem_cons_self)

theorem mem_str {c : Char} (h : c ∈ d.str.toList) : c.isDigit = true ∨ c ∈ ['-', '+', '.', 'E'] := by
  have hbody : c ∈ d.body → c.isDigit = true ∨ c ∈ ['-', '+', '.', 'E'] := by
    intro hc
    rcases List.mem_append.1 hc with hc | hc
    · rcases List.mem_append.1 hc with hc | hc
      · exact .inl (d.isDigit_of_mem_parts (List.mem_append_left _ hc))
      · split at hc
        · cases hc
        · rcases List.mem_cons.1 hc with rfl | hc
          · exact .inr (by decide)
          · exact .inl (d.isDigit_of_mem_parts (List.mem_append_right _ hc))
    · split at hc
      · cases hc
      · rcases List.mem_cons.1 hc with rfl | hc
        · exact .inr (by decide)
        · rcases List.mem_cons.1 hc with hsign | hdigit
          · right
            rw [hsign]
            split <;> decide
          · exact .inl (Nat.isDigit_of_mem_toDigits (by omega) le_rfl hdigit)
  rw [str, String.toList_ofList] at h
  split at h
  · rcases List.mem_cons.1 h with rfl | h
    · exact .inr (by decide)
    · exact hbody h
  · exact hbody h

theorem isSpecial_of_isDigit {c : Char} (cs : List Char) (h : c.isDigit = true) :
    isSpecial ((c :: cs).map Char.toLower) = false := by
  have hlow : 48 ≤ c.toNat ∧ c.toNat ≤ 57 := by
    rw [Char.isDigit, Bool.and_eq_true, decide_eq_true_iff, decide_eq_true_iff] at h
    exact h
  have hlower : c.toLower.toNat = c.toNat := by
    rw [toNat_toLower, if_neg (by omega)]
  have hne : ∀ letter : Char, 97 ≤ letter.toNat → c.toLower ≠ letter := by
    rintro letter hletter rfl
    omega
  have hi := hne 'i' (by decide)
  have hn := hne 'n' (by decide)
  have hs := hne 's' (by decide)
  rw [List.map_cons]
  simp [isSpecial, List.isPrefixOf, hi, Ne.symm hn, Ne.symm hs]

theorem read_str : read d.str = .finite d := by
  have hsigns : (['-', '+', '.', 'E'].any isSpace) = false := by decide
  have hspace : strip d.str = d.str := by
    refine strip_eq_self fun c hc => ?_
    rcases d.mem_str hc with h | h
    · exact isSpace_of_isDigit h
    · exact eq_false_of_ne_true (List.any_eq_false.1 hsigns c h)
  have hfilter : d.str.toList.filter (fun c => c != '_') = d.str.toList := by
    refine List.filter_eq_self.2 fun c hc => ?_
    rw [bne_iff_ne]
    rintro rfl
    rcases d.mem_str hc with h | h
    · exact absurd h (by decide)
    · exact absurd h (by decide)
  obtain ⟨c, cs, hbody, hdigit⟩ := d.exists_body
  have hsign : splitSign d.str.toList = (d.negative, d.body) := by
    rw [str, String.toList_ofList]
    cases d.negative with
    | true => rfl
    | false =>
      rw [if_neg Bool.false_ne_true, hbody]
      unfold splitSign
      split
      · next heq => cases heq; exact absurd hdigit (by decide)
      · next heq => cases heq; exact absurd hdigit (by decide)
      · rfl
  unfold read
  rw [hspace, hfilter, hsign]
  dsimp only
  rw [hbody, isSpecial_of_isDigit cs hdigit, if_neg Bool.false_ne_true, ← hbody,
    d.readUnsigned_body]

end Numeral

example : read " -1_0.50e3" = .finite ⟨true, 1050, 1⟩ := by decide +kernel

end PyDecimal
