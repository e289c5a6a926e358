import CandleCraft.Kernel.RankBounds
import CandleCraft.Kernel.Scan
import CandleCraft.Universe.Qualification

/-!
# The ranks of a cohort

Whether a withheld asset is genuine is open. The walk counts the genuine and the withheld assets it
has passed, and these counters bound the rank that a member of the cohort has among the genuine
assets, however the withheld ones turn out.
-/

namespace CandleCraft.Universe

open RankBounds

section Ranks

variable (registry : Registry)
variable {done : List (ℕ × AssetRow)} {walk walk' : Walk}

def standing (entry : ℕ × AssetRow) : Standing :=
  match (assetMembership registry entry.2).1 with
  | .genuine => .counted
  | .withheld => .undecided
  | .excluded => .excluded

/-- The rank of an asset with the given raw rank among the genuine assets, when a withheld asset is
genuine if the decision says so. -/
def trueRank (rows : List AssetRow) (decision : AssetRow → Bool) (rank : ℕ) : ℕ :=
  place (standing registry) (fun entry => decision entry.2)
    ((rankedAssets rows).filter fun entry => decide (entry.1 < rank))

/-- A member of the cohort, from the rows that the walk has passed: the asset at the given row, with
the bounds that follow from the rows before it. -/
structure Ranked (before : List (ℕ × AssetRow)) (entry : ℕ × AssetRow) (member : QualifiedAsset) :
    Prop where
  rawRank : member.rawRank = entry.1
  standing : standing registry entry = .counted
  lower : member.qualifiedRankLower = number (Universe.standing registry) before .counted + 1
  upper : member.qualifiedRankUpper = number (Universe.standing registry) before .counted +
    number (Universe.standing registry) before .undecided + 1
  qualified : member.qualifiedRank =
    if member.qualifiedRankLower = member.qualifiedRankUpper then some member.qualifiedRankLower
    else none

/-- The state of the walk after the given rows, none of which came after the end of the cohort. -/
structure Walked (cohortSize : ℕ) (done : List (ℕ × AssetRow)) (walk : Walk) : Prop where
  expected : walk.expectedRank = done.length + 1
  ranks : ∀ i entry, done[i]? = some entry → entry.1 = i + 1
  identified : ∀ entry ∈ done, providerId entry.2 ≠ none
  genuine : walk.genuineBefore = number (standing registry) done .counted
  unknown : walk.unknownBefore = number (standing registry) done .undecided
  potential : walk.potential = walk.genuineBefore + walk.unknownBefore
  members : ∀ member ∈ walk.cohort, ∃ before entry after,
    done = before ++ entry :: after ∧ Ranked registry before entry member
  bounded : ∀ member ∈ walk.cohort, member.qualifiedRankUpper ≤ cohortSize

variable {registry : Registry} {cohortSize : ℕ} {acquiredAt : Instant}

theorem walked_nil : Walked registry cohortSize [] {} where
  expected := rfl
  ranks _ _ h := by cases h
  identified _ h := absurd h List.not_mem_nil
  genuine := rfl
  unknown := rfl
  potential := rfl
  members _ h := absurd h List.not_mem_nil
  bounded _ h := absurd h List.not_mem_nil

theorem Walked.members_append {walk : Walk}
    (h : Walked registry cohortSize done walk) (entry : ℕ × AssetRow) :
    ∀ member ∈ walk.cohort, ∃ before e after,
      done ++ [entry] = before ++ e :: after ∧ Ranked registry before e member := by
  intro member hmember
  obtain ⟨before, e, after, rfl, hranked⟩ := h.members member hmember
  refine ⟨before, e, after ++ [entry], ?_, hranked⟩
  rw [List.append_assoc, List.cons_append]

theorem requireAsset_ok {rank : ℕ} {row : AssetRow} {data : String × String × ℚ × Instant}
    (h : requireAsset acquiredAt rank row = .ok data) :
    providerId row = some data.1 ∧ data.2.1 = providerSymbol row := by
  unfold requireAsset at h
  repeat' split at h
  all_goals cases h
  exact ⟨by assumption, rfl⟩

variable {entry : ℕ × AssetRow}

theorem walkAsset_ok (hopen : ¬ cohortSize ≤ walk.potential) :
    walkAsset registry cohortSize acquiredAt walk entry = .ok walk' ↔
      entry.1 = walk.expectedRank ∧
      ∃ id symbol cap updated, requireAsset acquiredAt entry.1 entry.2 = .ok (id, symbol, cap, updated) ∧
        walk' = walk.admitRow registry entry.1 entry.2 id symbol cap updated := by
  rw [walkAsset, if_neg hopen]
  constructor
  · intro h
    split at h
    · cases h
    next hge =>
    split at h
    · cases h
    next hle =>
    split at h
    · cases h
    next id symbol cap updated hrequired =>
      cases h
      exact ⟨by omega, id, symbol, cap, updated, hrequired, rfl⟩
  · rintro ⟨hrank, id, symbol, cap, updated, hrequired, rfl⟩
    rw [if_neg (by omega), if_neg (by omega), hrequired]

theorem admit_counters (registry : Registry) (walk : Walk) (rank : ℕ) (row : AssetRow)
    (id symbol : String) (cap : ℚ) (updated : Instant) :
    let walk' := walk.admitRow registry rank row id symbol cap updated
    walk'.expectedRank = walk.expectedRank + 1 ∧
    walk'.genuineBefore =
      walk.genuineBefore + number (standing registry) [(rank, row)] .counted ∧
    walk'.unknownBefore =
      walk.unknownBefore + number (standing registry) [(rank, row)] .undecided ∧
    (walk.potential = walk.genuineBefore + walk.unknownBefore →
      walk'.potential = walk'.genuineBefore + walk'.unknownBefore) := by
  rw [number_singleton, number_singleton]
  unfold Walk.admitRow standing
  obtain ⟨kind, category⟩ := assetMembership registry row
  cases kind with
  | genuine | withheld => exact ⟨rfl, rfl, rfl, fun h => by dsimp only; omega⟩
  | excluded => exact ⟨rfl, rfl, rfl, fun h => h⟩

theorem admit_cohort {walk : Walk} (h : Walked registry cohortSize done walk)
    (rank : ℕ) (row : AssetRow) (id symbol : String) (cap : ℚ) (updated : Instant) :
    ∀ member ∈ (walk.admitRow registry rank row id symbol cap updated).cohort,
      member ∈ walk.cohort ∨ Ranked registry done (rank, row) member := by
  intro member hmember
  unfold Walk.admitRow at hmember
  rcases hkind : assetMembership registry row with ⟨kind, category⟩
  rw [hkind] at hmember
  cases kind with
  | excluded | withheld => exact Or.inl hmember
  | genuine =>
    rcases List.mem_append.1 hmember with hold | hnew
    · exact Or.inl hold
    · obtain rfl := List.mem_singleton.1 hnew
      refine Or.inr ⟨rfl, ?_, ?_, ?_, rfl⟩
      · rw [standing, hkind]
      · exact congrArg (· + 1) h.genuine
      · dsimp only
        rw [h.genuine, h.unknown]

theorem Walked.step (h : Walked registry cohortSize done walk)
    (hopen : ¬ cohortSize ≤ walk.potential)
    (hstep : walkAsset registry cohortSize acquiredAt walk entry = .ok walk') :
    Walked registry cohortSize (done ++ [entry]) walk' := by
  obtain ⟨hrank, id, symbol, cap, updated, hrequired, rfl⟩ := (walkAsset_ok hopen).1 hstep
  obtain ⟨hexpected, hgenuine, hunknown, hpotential⟩ :=
    admit_counters registry walk entry.1 entry.2 id symbol cap updated
  refine ⟨?_, ?_, ?_, ?_, ?_, hpotential h.potential, ?_, ?_⟩
  · rw [hexpected, h.expected, List.length_append, List.length_singleton]
  · intro i e hi
    rcases Nat.lt_or_ge i done.length with hlt | hge
    · rw [List.getElem?_append_left hlt] at hi
      exact h.ranks i e hi
    · rw [List.getElem?_append_right hge] at hi
      obtain ⟨hzero, rfl⟩ : i - done.length = 0 ∧ entry = e := by
        have hlt := (List.getElem?_eq_some_iff.1 hi).1
        have hzero : i - done.length = 0 := by simpa using hlt
        rw [hzero] at hi
        exact ⟨hzero, Option.some.inj hi⟩
      rw [hrank, h.expected]
      omega
  · intro e he
    rcases List.mem_append.1 he with he | he
    · exact h.identified e he
    · rw [List.mem_singleton.1 he, (requireAsset_ok hrequired).1]
      exact Option.some_ne_none id
  · rw [hgenuine, h.genuine, number_append]
  · rw [hunknown, h.unknown, number_append]
  · intro member hmember
    rcases admit_cohort h _ _ _ _ _ _ member hmember with hold | hranked
    · exact h.members_append entry member hold
    · exact ⟨done, entry, [], rfl, hranked⟩
  · intro member hmember
    rcases admit_cohort h _ _ _ _ _ _ member hmember with hold | hranked
    · exact h.bounded member hold
    · rw [hranked.upper, ← h.genuine, ← h.unknown, ← h.potential]
      exact not_le.1 hopen

theorem foldlM_skip {walk : Walk} (h : cohortSize ≤ walk.potential)
    (entries : List (ℕ × AssetRow)) :
    ∃ n, entries.foldlM (walkAsset registry cohortSize acquiredAt) walk =
      .ok { walk with aboveCohort := n } := by
  induction entries generalizing walk with
  | nil => exact ⟨walk.aboveCohort, rfl⟩
  | cons entry entries ih =>
    rw [List.foldlM_cons, walkAsset, if_pos h]
    obtain ⟨n, hn⟩ : ∃ n, walk.skip registry entry.2 = { walk with aboveCohort := n } := by
      unfold Walk.skip
      split
      · exact ⟨_, rfl⟩
      · exact ⟨walk.aboveCohort, rfl⟩
    rw [hn]
    exact ih h

/-- A walk that returns has passed a first part of the rows and skipped the rest. -/
theorem walk_split {done entries : List (ℕ × AssetRow)} (h : Walked registry cohortSize done walk)
    (hrun : entries.foldlM (walkAsset registry cohortSize acquiredAt) walk = .ok walk') :
    ∃ passed rest mid, entries = passed ++ rest ∧
      passed.foldlM (walkAsset registry cohortSize acquiredAt) walk = .ok mid ∧
      Walked registry cohortSize (done ++ passed) mid ∧
      walk'.cohort = mid.cohort ∧ walk'.potential = mid.potential := by
  induction entries generalizing done walk with
  | nil =>
    cases hrun
    refine ⟨[], [], walk', rfl, rfl, ?_, rfl, rfl⟩
    rwa [List.append_nil]
  | cons entry entries ih =>
    by_cases hopen : cohortSize ≤ walk.potential
    · obtain ⟨n, hskip⟩ := foldlM_skip hopen (entry :: entries)
      rw [hskip] at hrun
      obtain rfl := Except.ok.inj hrun
      refine ⟨[], entry :: entries, walk, rfl, rfl, ?_, rfl, rfl⟩
      rwa [List.append_nil]
    · rw [List.foldlM_cons] at hrun
      obtain ⟨next, hstep, hrun⟩ := Scan.bind_ok hrun
      obtain ⟨passed, rest, mid, rfl, hpassed, hwalked, hcohort, hpotential⟩ :=
        ih (h.step hopen hstep) hrun
      refine ⟨entry :: passed, rest, mid, rfl, ?_, ?_, hcohort, hpotential⟩
      · rw [List.foldlM_cons, hstep]
        exact hpassed
      · rwa [List.append_assoc, List.singleton_append] at hwalked

end Ranks

section Order

variable {registry : Registry} {cohortSize : ℕ} {acquiredAt : Instant} {rows : List AssetRow}

variable {entry : ℕ × AssetRow} {seen : List String}

theorem nodup_of_rejectDuplicateProviderIds (h : rejectDuplicateProviderIds seen rows = .ok ()) :
    (rows.filterMap providerId).Nodup ∧ ∀ id ∈ seen, id ∉ rows.filterMap providerId := by
  induction rows generalizing seen with
  | nil => exact ⟨List.nodup_nil, fun id _ => List.not_mem_nil⟩
  | cons row rows ih =>
    rw [rejectDuplicateProviderIds] at h
    cases hid : providerId row with
    | none =>
      rw [hid] at h
      rw [List.filterMap_cons_none hid]
      exact ih h
    | some id =>
      rw [hid] at h
      dsimp only at h
      split at h
      · cases h
      · next hnew =>
        rw [List.filterMap_cons_some hid]
        obtain ⟨hnodup, hfresh⟩ := ih h
        refine ⟨List.nodup_cons.2 ⟨hfresh id List.mem_cons_self, hnodup⟩, fun other hother => ?_⟩
        rw [List.mem_cons, not_or]
        refine ⟨?_, hfresh other (List.mem_cons_of_mem id hother)⟩
        rintro rfl
        exact hnew hother

theorem rejectDuplicateProviderIds_of_nodup (hnodup : (rows.filterMap providerId).Nodup)
    (hfresh : ∀ id ∈ seen, id ∉ rows.filterMap providerId) :
    rejectDuplicateProviderIds seen rows = .ok () := by
  induction rows generalizing seen with
  | nil => rfl
  | cons row rows ih =>
    rw [rejectDuplicateProviderIds]
    cases hid : providerId row with
    | none =>
      rw [List.filterMap_cons_none hid] at hnodup hfresh
      exact ih hnodup hfresh
    | some id =>
      rw [List.filterMap_cons_some hid] at hnodup hfresh
      obtain ⟨hnotMem, hnodup'⟩ := List.nodup_cons.1 hnodup
      dsimp only
      rw [if_neg fun hseen => hfresh id hseen List.mem_cons_self]
      refine ih hnodup' (List.forall_mem_cons.2 ⟨hnotMem, fun other hother hmem => ?_⟩)
      exact hfresh other hother (List.mem_cons_of_mem id hmem)

def IdsDiffer (a b : ℕ × AssetRow) : Prop :=
  ∀ id, providerId a.2 = some id → providerId b.2 ≠ some id

theorem rankedAssets_perm (rows : List AssetRow) :
    (rankedAssets rows).Perm (rows.filterMap withRank) :=
  List.perm_insertionSort _ _

theorem rankedAssets_pairwise (rows : List AssetRow) :
    (rankedAssets rows).Pairwise fun a b => rankKey a ≤ rankKey b :=
  List.pairwise_insertionSort _ _

theorem withRank_snd {row : AssetRow} (h : withRank row = some entry) :
    entry.2 = row := by
  unfold withRank at h
  split at h
  · cases h
    rfl
  · cases h

theorem rankedAssets_idsDiffer (h : (rows.filterMap providerId).Nodup) :
    (rankedAssets rows).Pairwise IdsDiffer := by
  rw [(rankedAssets_perm rows).pairwise_iff fun hab id hb ha => hab id ha hb,
    List.pairwise_filterMap]
  rw [List.Nodup, List.pairwise_filterMap] at h
  refine h.imp fun hrows a ha b hb id hida hidb => ?_
  rw [withRank_snd ha] at hida
  rw [withRank_snd hb] at hidb
  exact hrows id hida id hidb rfl

theorem rankKey_lt {a b : ℕ × AssetRow} (hle : rankKey a ≤ rankKey b) (hdiffer : IdsDiffer a b)
    (hid : providerId a.2 ≠ none) : rankKey a < rankKey b := by
  refine lt_of_le_of_ne hle fun heq => ?_
  obtain ⟨id, hid⟩ := Option.ne_none_iff_exists'.1 hid
  have htext : (providerId a.2).getD "" = (providerId b.2).getD "" :=
    congrArg (fun key => (ofLex key).2) heq
  rw [hid, Option.getD_some] at htext
  cases hb : providerId b.2 with
  | some other =>
    rw [hb, Option.getD_some] at htext
    exact hdiffer id hid (htext ▸ hb)
  | none =>
    rw [hb, Option.getD_none] at htext
    -- An id is never empty.
    unfold providerId at hid
    split at hid
    · cases hid
    · split at hid
      · cases hid
      · next hne => exact hne ((Option.some.inj hid).trans htext)

theorem filter_before {before : List (ℕ × AssetRow)} (tail : List (ℕ × AssetRow))
    (hsplit : rankedAssets rows = before ++ entry :: tail) (hbefore : ∀ e ∈ before, e.1 < entry.1) :
    ((rankedAssets rows).filter fun e => decide (e.1 < entry.1)) = before := by
  have hsorted := rankedAssets_pairwise rows
  rw [hsplit] at hsorted ⊢
  have htail := (List.pairwise_cons.1 (List.pairwise_append.1 hsorted).2.1).1
  rw [List.filter_append, List.filter_eq_self.2 fun e he => decide_eq_true (hbefore e he),
    List.filter_eq_nil_iff.2, List.append_nil]
  intro e he hlt
  have hlt := of_decide_eq_true hlt
  rcases List.mem_cons.1 he with rfl | he
  · exact lt_irrefl _ hlt
  · have hle : entry.1 ≤ e.1 := Prod.Lex.monotone_fst (rankKey entry) (rankKey e) (htail e he)
    exact absurd hlt (not_lt.2 hle)

theorem qualifyCanonicalCohort_ok {result : CanonicalCohort}
    (h : qualifyCanonicalCohort registry rows cohortSize acquiredAt = .ok result) :
    1 ≤ cohortSize ∧ cohortSize ≤ 100 ∧ (rows.filterMap providerId).Nodup ∧
    ∃ walk, (rankedAssets rows).foldlM (walkAsset registry cohortSize acquiredAt) {} = .ok walk ∧
      cohortSize ≤ walk.potential ∧
      requireCompleteSymbolIdentities rows walk.cohort = .ok () ∧ result.cohort = walk.cohort := by
  unfold qualifyCanonicalCohort at h
  split at h
  · cases h
  · next hsize =>
    obtain ⟨_, hids, h⟩ := Scan.bind_ok h
    dsimp only at h
    split at h
    · cases h
    · obtain ⟨walk, hwalk, h⟩ := Scan.bind_ok h
      split at h
      · cases h
      · next hpotential =>
        obtain ⟨_, hcomplete, h⟩ := Scan.bind_ok h
        cases h
        exact ⟨by omega, by omega, (nodup_of_rejectDuplicateProviderIds hids).1, walk, hwalk,
          not_lt.1 hpotential, hcomplete, rfl⟩

theorem qualifyCanonicalCohort_of {walk : Walk} (hpos : 1 ≤ cohortSize) (hle : cohortSize ≤ 100)
    (hids : (rows.filterMap providerId).Nodup)
    (hwalk : (rankedAssets rows).foldlM (walkAsset registry cohortSize acquiredAt) {} = .ok walk)
    (hpotential : cohortSize ≤ walk.potential)
    (hcomplete : requireCompleteSymbolIdentities rows walk.cohort = .ok ()) :
    ∃ result, qualifyCanonicalCohort registry rows cohortSize acquiredAt = .ok result ∧
      result.cohort = walk.cohort := by
  unfold qualifyCanonicalCohort
  rw [if_neg (by omega), rejectDuplicateProviderIds_of_nodup hids fun id hid =>
    absurd hid List.not_mem_nil]
  dsimp only [bind, Except.bind]
  cases hlast : (rankedAssets rows).getLast? with
  | none =>
    rw [List.getLast?_eq_none_iff.1 hlast] at hwalk
    cases hwalk
    exact absurd hpotential (not_le.2 hpos)
  | some last =>
    rw [hwalk]
    dsimp only
    rw [if_neg (not_lt.2 hpotential), hcomplete]
    exact ⟨_, rfl, rfl⟩

end Order

section Cohort

variable {registry : Registry} {cohortSize : ℕ} {acquiredAt : Instant} {rows : List AssetRow}

/-- A member of the cohort has the rank that follows from the rows before it. -/
theorem trueRank_member {passed rest before after : List (ℕ × AssetRow)} {entry : ℕ × AssetRow}
    {mid : Walk} {member : QualifiedAsset} (hsplit : rankedAssets rows = passed ++ rest)
    (hwalked : Walked registry cohortSize passed mid)
    (hpassed : passed = before ++ entry :: after) (hranked : Ranked registry before entry member)
    (decision : AssetRow → Bool) :
    trueRank registry rows decision member.rawRank =
      place (standing registry) (fun e => decision e.2) before := by
  subst hpassed
  have hbefore : ∀ e ∈ before, e.1 < entry.1 := by
    have hentry : entry.1 = before.length + 1 := by
      refine hwalked.ranks before.length entry ?_
      rw [List.getElem?_append_right le_rfl, Nat.sub_self]
      rfl
    intro e he
    obtain ⟨i, hi, hei⟩ := List.mem_iff_getElem.1 he
    have he : e.1 = i + 1 := by
      refine hwalked.ranks i e ?_
      rw [List.getElem?_append_left hi, List.getElem?_eq_getElem hi, hei]
    omega
  rw [trueRank, hranked.rawRank, filter_before (after ++ rest) ?_ hbefore]
  rw [hsplit, List.append_assoc, List.cons_append]

variable {rows' : List AssetRow}

theorem rankedAssets_of_perm {passed rest : List (ℕ × AssetRow)} {mid : Walk}
    (hperm : rows'.Perm rows) (hids : (rows.filterMap providerId).Nodup)
    (hsplit : rankedAssets rows = passed ++ rest)
    (hwalked : Walked registry cohortSize passed mid) :
    ∃ rest', rankedAssets rows' = passed ++ rest' := by
  have hkeys := (rankedAssets_pairwise rows).and (rankedAssets_idsDiffer hids)
  rw [hsplit] at hkeys
  have hranked : (rankedAssets rows').Perm (passed ++ rest) := by
    rw [← hsplit]
    exact ((rankedAssets_perm rows').trans (hperm.filterMap withRank)).trans
      (rankedAssets_perm rows).symm
  obtain ⟨rest', hrest, -⟩ := perm_sorted
    (hkeys.imp fun hab ha => rankKey_lt hab.1 hab.2 (hwalked.identified _ ha))
    (rankedAssets_pairwise rows') hranked
  exact ⟨rest', hrest⟩

theorem qualify_of_perm {result : CanonicalCohort}
    (h : qualifyCanonicalCohort registry rows cohortSize acquiredAt = .ok result)
    (hperm : rows'.Perm rows) :
    ∃ result', qualifyCanonicalCohort registry rows' cohortSize acquiredAt = .ok result' ∧
      result'.cohort = result.cohort := by
  obtain ⟨hpos, hle, hids, walk, hwalk, hpotential, hcomplete, hcohort⟩ :=
    qualifyCanonicalCohort_ok h
  obtain ⟨passed, rest, mid, hsplit, hpassed, hwalked, hsame, hmid⟩ := walk_split walked_nil hwalk
  rw [List.nil_append] at hwalked
  obtain ⟨rest', hsplit'⟩ := rankedAssets_of_perm hperm hids hsplit hwalked
  obtain ⟨n, hskip⟩ := foldlM_skip (hmid ▸ hpotential) rest'
  have hwalk' : (rankedAssets rows').foldlM (walkAsset registry cohortSize acquiredAt) {} =
      .ok { mid with aboveCohort := n } := by
    rw [hsplit', List.foldlM_append, hpassed]
    exact hskip
  have hcomplete' : requireCompleteSymbolIdentities rows' mid.cohort = .ok () := by
    rw [← hsame]
    exact Scan.forM_ok_iff.2 fun row hrow =>
      Scan.forM_ok_iff.1 hcomplete row (hperm.mem_iff.1 hrow)
  obtain ⟨result', hresult', hcohort'⟩ := qualifyCanonicalCohort_of hpos hle
    ((hperm.filterMap providerId).nodup_iff.2 hids) hwalk' (hmid ▸ hpotential) hcomplete'
  exact ⟨result', hresult', by rw [hcohort', hcohort, hsame]⟩

/-- In a cohort that is returned, the recorded bounds hold for the rank of a member among the genuine
assets however the withheld ones are decided, both are reached, no rank exceeds the size of the
cohort, and a rank is recorded if it is that of every decision. The order of the rows does not
matter. -/
theorem cohort_ranks_are_conservative (registry : Registry) (rows : List AssetRow) (cohortSize : ℕ)
    (acquiredAt : Instant) (result : CanonicalCohort)
    (h : qualifyCanonicalCohort registry rows cohortSize acquiredAt = .ok result) :
    (∀ member ∈ result.cohort,
      (∀ decision,
        member.qualifiedRankLower ≤ trueRank registry rows decision member.rawRank ∧
        trueRank registry rows decision member.rawRank ≤ member.qualifiedRankUpper ∧
        trueRank registry rows decision member.rawRank ≤ cohortSize) ∧
      (∃ decision, trueRank registry rows decision member.rawRank = member.qualifiedRankLower) ∧
      (∃ decision, trueRank registry rows decision member.rawRank = member.qualifiedRankUpper) ∧
      ∀ rank, member.qualifiedRank = some rank ↔
        ∀ decision, trueRank registry rows decision member.rawRank = rank) ∧
    ∀ rows', rows'.Perm rows → ∃ result',
      qualifyCanonicalCohort registry rows' cohortSize acquiredAt = .ok result' ∧
      result'.cohort = result.cohort := by
  refine ⟨fun member hmember => ?_, fun rows' hperm => qualify_of_perm h hperm⟩
  obtain ⟨-, -, -, walk, hwalk, -, -, hcohort⟩ := qualifyCanonicalCohort_ok h
  obtain ⟨passed, rest, mid, hsplit, -, hwalked, hsame, -⟩ := walk_split walked_nil hwalk
  rw [List.nil_append] at hwalked
  rw [hcohort, hsame] at hmember
  obtain ⟨before, entry, after, hpassed, hranked⟩ := hwalked.members member hmember
  have hrank := trueRank_member hsplit hwalked hpassed hranked
  have hbounded := hwalked.bounded member hmember
  have hlower := hranked.lower
  have hupper := hranked.upper
  simp only [hrank]
  -- the bounds are reached when none of the withheld assets is genuine, and when all are
  refine ⟨fun decision => ?_, ⟨fun _ => false, ?_⟩, ⟨fun _ => true, ?_⟩, fun rank => ?_⟩
  · have hle := le_place (standing registry) (fun e => decision e.2) before
    have hge := place_le (standing registry) (fun e => decision e.2) before
    omega
  · rw [hlower]
    exact place_none _ _
  · rw [hupper]
    exact place_all _ _
  · rw [hranked.qualified]
    constructor
    · intro hset decision
      split at hset
      · have hle := le_place (standing registry) (fun e => decision e.2) before
        have hge := place_le (standing registry) (fun e => decision e.2) before
        have hlowerRank := Option.some.inj hset
        omega
      · cases hset
    · intro hconstant
      have hnone : _ = rank := (place_none (standing registry) before).symm.trans
        (hconstant fun _ => false)
      have hall : _ = rank := (place_all (standing registry) before).symm.trans
        (hconstant fun _ => true)
      rw [if_pos (by omega), hlower, hnone]

def sampleRow (id : String) (rank : ℤ) (tags : List TagItem) : AssetRow where
  id := some id
  symbol := some id
  name := none
  rank := .integer rank
  qualificationClass := none
  tags := .items tags
  marketCap := .number 1000000
  lastUpdated := some 0

/-- Two genuine assets and an unclassified one between them, out of order. -/
def sampleRows : List AssetRow :=
  [sampleRow "gamma" 3 [.text "cryptocurrency"], sampleRow "alpha" 1 [.text "cryptocurrency"],
    sampleRow "beta" 2 []]

/-- No reviewed ids. -/
def emptyRegistry : Registry := ⟨[], [], by decide, by decide⟩

/-- The last asset of the sample, the second or the third genuine one. -/
def sampleMember : QualifiedAsset := ⟨"gamma", "GAMMA", "", 3, none, 2, 3, 1000000, 0⟩

def sampleCohort : CanonicalCohort where
  cohort := [⟨"alpha", "ALPHA", "", 1, some 1, 1, 1, 1000000, 0⟩, sampleMember]
  exclusions := []
  eligibleSymbolCounts := [("GAMMA", 1), ("ALPHA", 1), ("BETA", 1)]
  providerAssetCount := 3
  validRankCount := 3
  providerMaxRank := some 3
  missingRankCount := 0
  invalidRankCount := 0
  invalidSymbolCount := 0
  qualifiedRankAboveCohortCount := 0
  withheld := [⟨"beta", "BETA", 2, "unclassified"⟩]
  potentialMemberCount := 3
  providerLastUpdatedMin := some 0
  providerLastUpdatedMax := some 0

theorem sample_cohort_ranks :
    qualifyCanonicalCohort emptyRegistry sampleRows 3 0 = .ok sampleCohort ∧
    ∀ decision, sampleMember.qualifiedRankLower ≤ trueRank emptyRegistry sampleRows decision 3 ∧
      trueRank emptyRegistry sampleRows decision 3 ≤ sampleMember.qualifiedRankUpper := by
  have hcohort : qualifyCanonicalCohort emptyRegistry sampleRows 3 0 = .ok sampleCohort := by
    decide +kernel
  have hmember : sampleMember ∈ sampleCohort.cohort := by decide +kernel
  have hranks := ((cohort_ranks_are_conservative _ _ _ _ _ hcohort).1 sampleMember hmember).1
  exact ⟨hcohort, fun decision => ⟨(hranks decision).1, (hranks decision).2.1⟩⟩

end Cohort

end CandleCraft.Universe
