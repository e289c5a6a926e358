import CandleCraft.Kernel.Text
import Mathlib.Algebra.Order.Ring.Int

/-!
# Splitting a message

`split_message` cuts a plain message into parts the messenger accepts: at the last line break or
space in reach, otherwise at the maximum length, with the whitespace at the cuts dropped. A
versioned rich message is never cut.
-/

namespace CandleCraft.Outbox

open PyText

section Model

/-- `RICH_MESSAGE_PREFIX`. -/
def richMessageStart : String := "CCI_RICH_MESSAGE_V1\n"

def maxRichPayloadLength : ℕ := 4096

/-- What `split_message` raises. -/
inductive SplitError where
  | maxLengthNotPositive
  | notRich
  | richPayload
  | richTooLong
  deriving DecidableEq

def isRichMessage (message : String) : Bool := startsWith message richMessageStart

def richMessageHtml (message : String) : Except SplitError String :=
  if isRichMessage message = false then .error .notRich
  else
    let html := String.ofList (message.toList.drop richMessageStart.toList.length)
    if strip html = "" ∨ maxRichPayloadLength < message.toList.length then .error .richPayload
    else .ok html

/-- `str.rfind` of a character: the last position, if there is one. -/
def rfind (c : Char) : List Char → Option ℕ
  | [] => none
  | d :: ds =>
    match rfind c ds with
    | some i => some (i + 1)
    | none => if d = c then some 0 else none

/-- The position `split_at`: the last line break in reach, or the last space, or the maximum
length. A position 0 does not count. -/
def splitAt (max : ℕ) (remaining : List Char) : ℕ :=
  match rfind '\n' (remaining.take (max + 1)) with
  | some (i + 1) => i + 1
  | _ =>
    match rfind ' ' (remaining.take (max + 1)) with
    | some (i + 1) => i + 1
    | _ => max

/-- One round of the loop: the part, and where the rest begins. -/
def nextChunk (max : ℕ) (remaining : List Char) : List Char × ℕ :=
  let chunk := (remaining.take (splitAt max remaining)).rdropWhile isSpace
  if chunk = [] then (remaining.take max, max) else (chunk, splitAt max remaining)

theorem rfind_lt {c : Char} {l : List Char} {i : ℕ} (h : rfind c l = some i) : i < l.length := by
  induction l generalizing i with
  | nil => cases h
  | cons d l ih =>
    rw [rfind] at h
    split at h
    next j hj =>
      obtain rfl := Option.some.inj h
      exact Nat.succ_lt_succ (ih hj)
    next =>
      split at h
      · obtain rfl := Option.some.inj h
        exact Nat.succ_pos _
      · cases h

theorem splitAt_bounds {max : ℕ} (hmax : 0 < max) (remaining : List Char) :
    0 < splitAt max remaining ∧ splitAt max remaining ≤ max := by
  have hreach : ∀ {c i}, rfind c (remaining.take (max + 1)) = some (i + 1) → i + 1 ≤ max := by
    intro c i h
    have hlt := rfind_lt h
    rw [List.length_take] at hlt
    omega
  unfold splitAt
  split
  next i hi => exact ⟨Nat.succ_pos i, hreach hi⟩
  next =>
    split
    next i hi => exact ⟨Nat.succ_pos i, hreach hi⟩
    next => exact ⟨hmax, le_rfl⟩

theorem nextChunk_bounds {max : ℕ} (hmax : 0 < max) (remaining : List Char) :
    0 < (nextChunk max remaining).2 ∧ (nextChunk max remaining).2 ≤ max := by
  unfold nextChunk
  dsimp only
  split
  · exact ⟨hmax, le_rfl⟩
  · exact splitAt_bounds hmax remaining

theorem nextChunk_progress {max : ℕ} (hmax : 0 < max) {remaining : List Char}
    (h : max < remaining.length) :
    ((remaining.drop (nextChunk max remaining).2).dropWhile isSpace).length < remaining.length := by
  have hle := (List.dropWhile_suffix isSpace (l := remaining.drop (nextChunk max remaining).2)).length_le
  have hpos := (nextChunk_bounds hmax remaining).1
  rw [List.length_drop] at hle
  omega

/-- The loop of `split_message`. -/
def splitLoop (max : ℕ) (hmax : 0 < max) (remaining : List Char) : List (List Char) :=
  if max < remaining.length then
    (nextChunk max remaining).1 ::
      splitLoop max hmax ((remaining.drop (nextChunk max remaining).2).dropWhile isSpace)
  else if remaining = [] then []
  else [remaining]
termination_by remaining.length
decreasing_by exact nextChunk_progress hmax (by assumption)

def splitMessage (message : String) (maxLength : ℤ) : Except SplitError (List String) :=
  if hmax : maxLength ≤ 0 then .error .maxLengthNotPositive
  else if isRichMessage message then
    match richMessageHtml message with
    | .error e => .error e
    | .ok _ =>
      if maxLength < message.toList.length then .error .richTooLong else .ok [message]
  else if message.toList.length ≤ maxLength then .ok [message]
  else .ok ((splitLoop maxLength.toNat (by omega) message.toList).map String.ofList)

end Model

section Parts

variable {max : ℕ} {remaining : List Char}

def visible (cs : List Char) : List Char := cs.filter fun c => !isSpace c

theorem visible_append (a b : List Char) : visible (a ++ b) = visible a ++ visible b :=
  List.filter_append a b

theorem visible_eq_nil_iff {cs : List Char} : visible cs = [] ↔ ∀ c ∈ cs, isSpace c = true := by
  simp [visible]

theorem visible_dropWhile (cs : List Char) : visible (cs.dropWhile isSpace) = visible cs := by
  have hnone : visible (cs.takeWhile isSpace) = [] :=
    visible_eq_nil_iff.2 fun c hc => List.mem_takeWhile_imp hc
  conv_rhs => rw [← List.takeWhile_append_dropWhile (p := isSpace) (l := cs)]
  rw [visible_append, hnone, List.nil_append]

theorem visible_rdropWhile (cs : List Char) : visible (cs.rdropWhile isSpace) = visible cs := by
  unfold List.rdropWhile visible
  rw [List.filter_reverse]
  have h := visible_dropWhile cs.reverse
  unfold visible at h
  rw [h, List.filter_reverse, List.reverse_reverse]

theorem visible_nextChunk (max : ℕ) (remaining : List Char) :
    visible (nextChunk max remaining).1 = visible (remaining.take (nextChunk max remaining).2) := by
  unfold nextChunk
  dsimp only
  split
  · rfl
  · exact visible_rdropWhile _

theorem length_nextChunk_le (hmax : 0 < max) (remaining : List Char) :
    (nextChunk max remaining).1.length ≤ max := by
  unfold nextChunk
  dsimp only
  split
  · exact (List.length_take_le _ _)
  · refine (List.rdropWhile_prefix isSpace _).length_le.trans ?_
    exact (List.length_take_le _ _).trans (splitAt_bounds hmax remaining).2

theorem visible_nextChunk_ne_nil (h : visible (remaining.take max) ≠ []) :
    visible (nextChunk max remaining).1 ≠ [] := by
  unfold nextChunk
  dsimp only
  split
  · exact h
  next hchunk =>
    intro hnone
    -- A part whose last character is whitespace would have lost it.
    rw [visible_rdropWhile, visible_eq_nil_iff] at hnone
    exact hchunk (List.rdropWhile_eq_nil_iff.2 hnone)

theorem visible_take_ne_nil (hmax : 0 < max) (hne : remaining ≠ [])
    (hhead : ∀ c ∈ remaining.head?, isSpace c = false) : visible (remaining.take max) ≠ [] := by
  cases remaining with
  | nil => exact absurd rfl hne
  | cons c cs =>
    obtain ⟨n, rfl⟩ := Nat.exists_eq_succ_of_ne_zero hmax.ne'
    rw [List.take_succ_cons, Ne, visible_eq_nil_iff]
    intro h
    have hc := h c List.mem_cons_self
    rw [hhead c rfl] at hc
    cases hc

theorem head_dropWhile (cs : List Char) :
    ∀ c ∈ (cs.dropWhile isSpace).head?, isSpace c = false := by
  intro c hc
  cases h : cs.dropWhile isSpace with
  | nil => rw [h] at hc; cases hc
  | cons d ds =>
    rw [h] at hc
    obtain rfl : d = c := by simpa using hc
    have hnot := List.dropWhile_get_zero_not (p := isSpace) cs (by rw [h]; exact Nat.succ_pos _)
    simpa [h] using hnot

/-- The parts of a rest: none is too long, and together they have its visible characters. If the
rest starts with a visible character, every part has one. -/
theorem splitLoop_spec (hmax : 0 < max) (remaining : List Char) :
    (∀ chunk ∈ splitLoop max hmax remaining, chunk.length ≤ max) ∧
    visible (splitLoop max hmax remaining).flatten = visible remaining ∧
    ((∀ c ∈ remaining.head?, isSpace c = false) →
      ∀ chunk ∈ splitLoop max hmax remaining, visible chunk ≠ []) := by
  induction remaining using splitLoop.induct max hmax with
  | case1 remaining hlong ih =>
    obtain ⟨hlength, hflat, hvisible⟩ := ih
    rw [splitLoop, if_pos hlong]
    refine ⟨?_, ?_, fun hhead => ?_⟩
    · rintro chunk (_ | ⟨_, hchunk⟩)
      · exact length_nextChunk_le hmax remaining
      · exact hlength chunk hchunk
    · rw [List.flatten_cons, visible_append, hflat, visible_dropWhile, visible_nextChunk,
        ← visible_append, List.take_append_drop]
    · have hne : remaining ≠ [] := by
        rintro rfl
        exact Nat.not_lt_zero _ hlong
      rintro chunk (_ | ⟨_, hchunk⟩)
      · exact visible_nextChunk_ne_nil (visible_take_ne_nil hmax hne hhead)
      · exact hvisible (head_dropWhile _) chunk hchunk
  | case2 hshort =>
    rw [splitLoop, if_neg hshort, if_pos rfl]
    exact ⟨fun _ h => absurd h List.not_mem_nil, rfl, fun _ _ h => absurd h List.not_mem_nil⟩
  | case3 remaining hshort hne =>
    rw [splitLoop, if_neg hshort, if_neg hne]
    refine ⟨?_, ?_, fun hhead => ?_⟩
    · rintro chunk hchunk
      rw [List.mem_singleton.1 hchunk]
      exact not_lt.1 hshort
    · rw [List.flatten_cons, List.flatten_nil, List.append_nil]
    · rintro chunk hchunk
      rw [List.mem_singleton.1 hchunk]
      have htake : remaining.take max = remaining := List.take_of_length_le (not_lt.1 hshort)
      exact htake ▸ visible_take_ne_nil hmax hne hhead

theorem visible_tail_splitLoop (hmax : 0 < max) (hlong : max < remaining.length) :
    ∀ chunk ∈ (splitLoop max hmax remaining).tail, visible chunk ≠ [] := by
  rw [splitLoop, if_pos hlong, List.tail_cons]
  exact (splitLoop_spec hmax _).2.2 (head_dropWhile _)

end Parts

section Messages

/-- A plain message is split into parts that fit and together have its visible characters. Every
part after the first has a visible character, and so has the first if there is one among the first
characters of the message, as many as a part may have. -/
theorem message_splits (message : String) {maxLength : ℤ} (hmax : 0 < maxLength)
    (hplain : isRichMessage message = false) :
    ∃ chunks, splitMessage message maxLength = .ok chunks ∧
      (∀ chunk ∈ chunks, (chunk.toList.length : ℤ) ≤ maxLength) ∧
      visible (chunks.map String.toList).flatten = visible message.toList ∧
      (∀ chunk ∈ chunks.tail, visible chunk.toList ≠ []) ∧
      (visible (message.toList.take maxLength.toNat) ≠ [] →
        ∀ chunk ∈ chunks, visible chunk.toList ≠ []) := by
  obtain ⟨max, rfl⟩ := Int.eq_ofNat_of_zero_le hmax.le
  have hpos : 0 < max := Int.natCast_pos.1 hmax
  unfold splitMessage
  rw [dif_neg (not_le.2 hmax), if_neg (by rw [hplain]; decide)]
  by_cases hshort : (message.toList.length : ℤ) ≤ max
  · rw [if_pos hshort]
    refine ⟨[message], rfl, ?_, ?_, fun _ h => absurd h List.not_mem_nil, fun hvisible => ?_⟩
    · rintro chunk hchunk
      rwa [List.mem_singleton.1 hchunk]
    · rw [List.map_singleton, List.flatten_cons, List.flatten_nil, List.append_nil]
    · rintro chunk hchunk
      rw [List.mem_singleton.1 hchunk]
      rwa [Int.toNat_natCast, List.take_of_length_le (by exact_mod_cast hshort)] at hvisible
  · have hlong : max < message.toList.length := by exact_mod_cast not_le.1 hshort
    rw [if_neg hshort]
    refine ⟨_, rfl, ?_, ?_, ?_, fun hvisible => ?_⟩
    · rintro chunk hchunk
      obtain ⟨cs, hcs, rfl⟩ := List.mem_map.1 hchunk
      rw [String.toList_ofList]
      exact_mod_cast (splitLoop_spec hpos message.toList).1 cs hcs
    · rw [List.map_map, show String.toList ∘ String.ofList = id from
        funext fun cs => String.toList_ofList, List.map_id]
      exact (splitLoop_spec hpos message.toList).2.1
    · rintro chunk hchunk
      rw [← List.map_tail] at hchunk
      obtain ⟨cs, hcs, rfl⟩ := List.mem_map.1 hchunk
      rw [String.toList_ofList]
      exact visible_tail_splitLoop hpos hlong cs hcs
    · rintro chunk hchunk
      obtain ⟨cs, hcs, rfl⟩ := List.mem_map.1 hchunk
      rw [String.toList_ofList]
      -- The first part, which takes what is in reach, or one of the later ones.
      change cs ∈ splitLoop max hpos message.toList at hcs
      have htail := visible_tail_splitLoop hpos hlong
      rw [splitLoop, if_pos hlong] at hcs htail
      rcases List.mem_cons.1 hcs with rfl | hcs
      · exact visible_nextChunk_ne_nil hvisible
      · exact htail cs hcs

/-- A message of three words in parts of at most ten characters. -/
theorem sample_message_splits :
    ∃ chunks, splitMessage "entry stop target" 10 = .ok chunks ∧
      ∀ chunk ∈ chunks, visible chunk.toList ≠ [] := by
  obtain ⟨chunks, hsplit, -, -, -, hvisible⟩ :=
    message_splits "entry stop target" (by decide : (0 : ℤ) < 10) (by decide)
  exact ⟨chunks, hsplit, hvisible (by decide)⟩

/-- Parts without a visible character: the empty message, and the indentation of a message that is
as long as a part. -/
theorem blank_part_is_sent :
    splitMessage "" 4096 = .ok [""] ∧ splitMessage "   a" 2 = .ok ["  ", "a"] := by
  refine ⟨by decide +kernel, ?_⟩
  have hloop : splitLoop 2 (by decide) "   a".toList = [[' ', ' '], ['a']] := by
    rw [splitLoop, if_pos (by decide), splitLoop, if_neg (by decide), if_neg (by decide)]
    decide
  unfold splitMessage
  rw [dif_neg (by decide), if_neg (by decide), if_neg (by decide)]
  exact congrArg (fun parts => Except.ok (parts.map String.ofList)) hloop

end Messages

end CandleCraft.Outbox
