import CandleCraft.Universe.CohortRanks

/-!
# Defects of the ranking at the boundary of the cohort

The walk compares the raw ranks with a running counter until the cohort is complete, and so has seen
each rank once up to the last slot. Of the ranks after that only that of the last slot can be a
repeated one.
-/

namespace CandleCraft.Universe

open RankBounds

section Slots

variable (registry : Registry)
variable {done : List (ℕ × AssetRow)}

def slots (entries : List (ℕ × AssetRow)) : List (ℕ × AssetRow) :=
  entries.filter fun entry => decide (standing registry entry ≠ .excluded)

def boundaryRank (rows : List AssetRow) (cohortSize : ℕ) : Option ℕ :=
  ((slots registry (rankedAssets rows))[cohortSize - 1]?).map Prod.fst

def memberKey (member : QualifiedAsset) : Option String × String × ℕ :=
  (some member.providerId, member.providerSymbol, member.rawRank)

def entryKey (entry : ℕ × AssetRow) : Option String × String × ℕ :=
  (providerId entry.2, providerSymbol entry.2, entry.1)

/-- The members of the cohort are the genuine rows, all of which have what the walk asks for. -/
structure Kept (acquiredAt : Instant) (done : List (ℕ × AssetRow)) (walk : Walk) : Prop where
  cohort : walk.cohort.map memberKey =
    (done.filter fun entry => decide (standing registry entry = .counted)).map entryKey
  required : ∀ entry ∈ done, ∃ data, requireAsset acquiredAt entry.1 entry.2 = .ok data

variable {registry : Registry} {cohortSize : ℕ} {acquiredAt : Instant}

theorem slots_append (l l' : List (ℕ × AssetRow)) :
    slots registry (l ++ l') = slots registry l ++ slots registry l' :=
  List.filter_append l l'

theorem slots_length (l : List (ℕ × AssetRow)) : (slots registry l).length =
    number (standing registry) l .counted + number (standing registry) l .undecided := by
  induction l with
  | nil => rfl
  | cons entry l ih =>
    have hsplit : entry :: l = [entry] ++ l := rfl
    rw [hsplit, slots_append, number_append, number_append, List.length_append, ih,
      number_singleton, number_singleton]
    have hone : (slots registry [entry]).length =
        (if standing registry entry = .counted then 1 else 0) +
          if standing registry entry = .undecided then 1 else 0 := by
      unfold slots
      rw [List.filter_singleton]
      cases standing registry entry <;> rfl
    omega

theorem Walked.potential_eq {walk : Walk} (h : Walked registry cohortSize done walk) :
    walk.potential = (slots registry done).length := by
  rw [h.potential, h.genuine, h.unknown, slots_length]

theorem kept_nil : Kept registry acquiredAt [] {} :=
  ⟨rfl, fun _ h => absurd h List.not_mem_nil⟩

theorem Kept.step {walk walk' : Walk} {entry : ℕ × AssetRow}
    (h : Kept registry acquiredAt done walk) (hopen : ¬ cohortSize ≤ walk.potential)
    (hstep : walkAsset registry cohortSize acquiredAt walk entry = .ok walk') :
    Kept registry acquiredAt (done ++ [entry]) walk' := by
  obtain ⟨-, id, symbol, cap, updated, hrequired, rfl⟩ := (walkAsset_ok hopen).1 hstep
  obtain ⟨hid, hsymbol⟩ := requireAsset_ok hrequired
  refine ⟨?_, fun e he => ?_⟩
  · rw [List.filter_append, List.map_append, ← h.cohort, List.filter_singleton]
    unfold Walk.admitRow standing
    rcases assetMembership registry entry.2 with ⟨kind, category⟩
    cases kind with
    | genuine =>
      show (walk.cohort ++ [_]).map memberKey = _ ++ [entryKey entry]
      rw [List.map_append, entryKey, hid, ← hsymbol]
      rfl
    | withheld | excluded => exact (List.append_nil _).symm
  · rcases List.mem_append.1 he with hold | hnew
    · exact h.required e hold
    · rw [List.mem_singleton.1 hnew]
      exact ⟨_, hrequired⟩

theorem Kept.member {walk : Walk} (h : Kept registry acquiredAt done walk)
    {entry : ℕ × AssetRow} (hentry : entry ∈ done) (hcounted : standing registry entry = .counted) :
    ∃ member ∈ walk.cohort, memberKey member = entryKey entry := by
  rw [← List.mem_map, h.cohort]
  exact List.mem_map_of_mem (List.mem_filter.2 ⟨hentry, decide_eq_true hcounted⟩)

theorem Kept.entry {walk : Walk} (h : Kept registry acquiredAt done walk)
    {member : QualifiedAsset} (hmember : member ∈ walk.cohort) :
    ∃ entry ∈ done, standing registry entry = .counted ∧ entryKey entry = memberKey member := by
  have hmem := List.mem_map_of_mem (f := memberKey) hmember
  rw [h.cohort] at hmem
  obtain ⟨entry, hentry, hsame⟩ := List.mem_map.1 hmem
  obtain ⟨hdone, hcounted⟩ := List.mem_filter.1 hentry
  exact ⟨entry, hdone, of_decide_eq_true hcounted, hsame⟩

/-- A row with the expected rank and all that the walk asks for is passed. -/
theorem walk_passes {walk : Walk} {entry : ℕ × AssetRow}
    (h : Walked registry cohortSize done walk) (hkept : Kept registry acquiredAt done walk)
    (hopen : (slots registry done).length < cohortSize) (hrank : entry.1 = done.length + 1)
    (hrequired : ∃ data, requireAsset acquiredAt entry.1 entry.2 = .ok data) :
    ∃ walk', walkAsset registry cohortSize acquiredAt walk entry = .ok walk' ∧
      Walked registry cohortSize (done ++ [entry]) walk' ∧
      Kept registry acquiredAt (done ++ [entry]) walk' := by
  obtain ⟨⟨id, symbol, cap, updated⟩, hdata⟩ := hrequired
  rw [← h.potential_eq, ← not_le] at hopen
  have hstep : walkAsset registry cohortSize acquiredAt walk entry = .ok _ := (walkAsset_ok hopen).2
    ⟨hrank.trans h.expected.symm, id, symbol, cap, updated, hdata, rfl⟩
  exact ⟨_, hstep, h.step hopen hstep, hkept.step hopen hstep⟩

theorem walks_pass {entries : List (ℕ × AssetRow)} {walk : Walk}
    (h : Walked registry cohortSize done walk) (hkept : Kept registry acquiredAt done walk)
    (hopen : (slots registry (done ++ entries)).length < cohortSize)
    (hranks : entries.map Prod.fst = List.range' (done.length + 1) entries.length)
    (hrequired : ∀ entry ∈ entries, ∃ data, requireAsset acquiredAt entry.1 entry.2 = .ok data) :
    ∃ walk', entries.foldlM (walkAsset registry cohortSize acquiredAt) walk = .ok walk' ∧
      Walked registry cohortSize (done ++ entries) walk' ∧
      Kept registry acquiredAt (done ++ entries) walk' := by
  induction entries generalizing done walk with
  | nil => exact ⟨walk, rfl, by rwa [List.append_nil], by rwa [List.append_nil]⟩
  | cons entry entries ih =>
    rw [List.map_cons, List.length_cons, List.range'_succ] at hranks
    obtain ⟨hrank, hranks⟩ := List.cons.inj hranks
    obtain ⟨hfirst, hrest⟩ := List.forall_mem_cons.1 hrequired
    have hearly : (slots registry done).length < cohortSize := by
      rw [slots_append, List.length_append] at hopen
      omega
    obtain ⟨next, hstep, hwalked, hnext⟩ := walk_passes h hkept hearly hrank hfirst
    rw [← List.singleton_append, ← List.append_assoc] at hopen ⊢
    obtain ⟨walk', hrun, hend⟩ := ih hwalked hnext hopen (by simpa using hranks) hrest
    refine ⟨walk', ?_, hend⟩
    rw [List.singleton_append, List.foldlM_cons, hstep]
    exact hrun

/-- A walk that completes the cohort ends its comparisons at the row that takes the last slot. -/
theorem walk_boundary {done entries : List (ℕ × AssetRow)} {walk walk' : Walk}
    (h : Walked registry cohortSize done walk) (hkept : Kept registry acquiredAt done walk)
    (hopen : ¬ cohortSize ≤ walk.potential)
    (hrun : entries.foldlM (walkAsset registry cohortSize acquiredAt) walk = .ok walk')
    (hfull : cohortSize ≤ walk'.potential) :
    ∃ before last rest mid, entries = before ++ last :: rest ∧
      Walked registry cohortSize (done ++ before ++ [last]) mid ∧
      Kept registry acquiredAt (done ++ before ++ [last]) mid ∧ walk'.cohort = mid.cohort ∧
      standing registry last ≠ .excluded ∧
      (slots registry (done ++ before)).length + 1 = cohortSize := by
  induction entries generalizing done walk with
  | nil =>
    cases hrun
    exact absurd hfull hopen
  | cons entry entries ih =>
    rw [List.foldlM_cons] at hrun
    obtain ⟨next, hstep, hrun⟩ := Scan.bind_ok hrun
    have hwalked := h.step hopen hstep
    have hkept := hkept.step hopen hstep
    by_cases hnext : cohortSize ≤ next.potential
    · -- the row takes the last slot, and the rest is skipped
      obtain ⟨n, hskip⟩ : ∃ n, entries.foldlM (walkAsset registry cohortSize acquiredAt) next =
          .ok { next with aboveCohort := n } := foldlM_skip hnext entries
      obtain rfl := Except.ok.inj (hskip.symm.trans hrun)
      rw [hwalked.potential_eq, slots_append, List.length_append] at hnext
      rw [h.potential_eq] at hopen
      have hslot : standing registry entry ≠ .excluded := by
        intro hexcluded
        have hnone : slots registry [entry] = [] := by
          simp [slots, hexcluded]
        rw [hnone, List.length_nil] at hnext
        exact hopen hnext
      have hone : (slots registry [entry]).length ≤ 1 := List.length_filter_le _ _
      refine ⟨[], entry, entries, next, rfl, ?_, ?_, rfl, hslot, ?_⟩
      · rwa [List.append_nil]
      · rwa [List.append_nil]
      · rw [List.append_nil]
        omega
    · obtain ⟨before, last, rest, mid, rfl, hmid, hmidKept, hcohort, hslot, hlength⟩ :=
        ih hwalked hkept hnext hrun
      refine ⟨entry :: before, last, rest, mid, rfl, ?_, ?_, hcohort, hslot, ?_⟩
      · rwa [List.append_assoc done] at hmid
      · rwa [List.append_assoc done] at hmidKept
      · rwa [List.append_assoc done] at hlength

end Slots

section Boundary

variable {registry : Registry} {cohortSize : ℕ} {acquiredAt : Instant} {rows : List AssetRow}

theorem Walked.map_fst {done : List (ℕ × AssetRow)} {walk : Walk}
    (h : Walked registry cohortSize done walk) :
    done.map Prod.fst = List.range' 1 done.length := by
  refine List.ext_getElem? fun i => ?_
  rw [List.getElem?_map]
  rcases Nat.lt_or_ge i done.length with hlt | hge
  · rw [List.getElem?_range' hlt, List.getElem?_eq_getElem hlt, Option.map_some,
      h.ranks i _ (List.getElem?_eq_getElem hlt)]
    congr 1
    omega
  · rw [List.getElem?_eq_none hge, List.getElem?_eq_none (by rwa [List.length_range'])]
    rfl

theorem rankStatusCount_valid (rows : List AssetRow) (rank : ℕ) :
    rankStatusCount rows (.valid rank) = ((rankedAssets rows).map Prod.fst).count rank := by
  rw [((rankedAssets_perm rows).map Prod.fst).count_eq, rankStatusCount]
  induction rows with
  | nil => rfl
  | cons row rows ih =>
    rw [List.countP_cons, ih]
    cases hrank : rawRank row with
    | valid r =>
      have hwith : withRank row = some (r, row) := by rw [withRank, hrank]
      rw [List.filterMap_cons_some hwith, List.map_cons, List.count_cons]
      simp
    | missing | invalid =>
      have hwith : withRank row = none := by rw [withRank, hrank]
      rw [List.filterMap_cons_none hwith]
      simp

/-- What an accepted snapshot has: the ranks up to the row that takes the last slot, each once, with
all that is asked for of a row, and no other row without an id under a symbol of the cohort. -/
structure Complete (registry : Registry) (rows : List AssetRow) (cohortSize : ℕ)
    (acquiredAt : Instant) (before : List (ℕ × AssetRow)) (last : ℕ × AssetRow)
    (rest : List (ℕ × AssetRow)) : Prop where
  size : 1 ≤ cohortSize ∧ cohortSize ≤ 100
  distinct : (rows.filterMap providerId).Nodup
  ranked : rankedAssets rows = before ++ last :: rest
  slot : standing registry last ≠ .excluded
  slots_before : (slots registry before).length + 1 = cohortSize
  ranks : (before ++ [last]).map Prod.fst = List.range' 1 (before.length + 1)
  required : ∀ entry ∈ before ++ [last], ∃ data, requireAsset acquiredAt entry.1 entry.2 = .ok data
  identified : ∀ entry ∈ before ++ [last], standing registry entry = .counted →
    ∀ row ∈ rows, providerId row = none → providerSymbol entry.2 ≠ providerSymbol row

variable {before rest : List (ℕ × AssetRow)} {last : ℕ × AssetRow}

theorem requireCompleteSymbolIdentities_ok {cohort : List QualifiedAsset} :
    requireCompleteSymbolIdentities rows cohort = .ok () ↔
      ∀ row ∈ rows, providerId row = none → ∀ member ∈ cohort,
        member.providerSymbol ≠ providerSymbol row := by
  unfold requireCompleteSymbolIdentities
  rw [Scan.forM_ok_iff]
  refine forall₂_congr fun row _ => ?_
  split
  next h =>
    obtain ⟨member, hmember, hsame⟩ := List.any_eq_true.1 h.1
    exact iff_of_false (fun h => by cases h) fun hall =>
      hall h.2 member hmember (of_decide_eq_true hsame)
  next h =>
    refine iff_of_true rfl fun hid member hmember hsame => h ⟨?_, hid⟩
    exact List.any_eq_true.2 ⟨member, hmember, decide_eq_true hsame⟩

/-- A snapshot is accepted with the genuine rows up to the last slot if it is complete. -/
theorem Complete.accepted (h : Complete registry rows cohortSize acquiredAt before last rest) :
    ∃ result, qualifyCanonicalCohort registry rows cohortSize acquiredAt = .ok result := by
  have hranks := h.ranks
  rw [List.map_append, List.range'_concat] at hranks
  obtain ⟨hbefore, hlast⟩ := List.append_inj' hranks rfl
  have hopen : (slots registry before).length < cohortSize := by have := h.slots_before; omega
  obtain ⟨walk, hrun, hwalked, hkept⟩ := walks_pass walked_nil kept_nil hopen hbefore
    fun entry hentry => h.required entry (List.mem_append_left _ hentry)
  have hrank : last.1 = before.length + 1 := by
    rw [(List.cons.inj hlast).1]
    omega
  obtain ⟨full, hstep, hfull, hfullKept⟩ := walk_passes hwalked hkept hopen hrank
    (h.required last (List.mem_append_right _ List.mem_cons_self))
  rw [List.nil_append] at hfull hfullKept
  have hpotential : cohortSize ≤ full.potential := by
    have hone : slots registry [last] = [last] := List.filter_cons_of_pos (decide_eq_true h.slot)
    rw [hfull.potential_eq, slots_append, List.length_append, hone, List.length_singleton,
      h.slots_before]
  obtain ⟨n, hskip⟩ : ∃ n, rest.foldlM (walkAsset registry cohortSize acquiredAt) full =
      .ok { full with aboveCohort := n } := foldlM_skip hpotential rest
  have hwalk : (rankedAssets rows).foldlM (walkAsset registry cohortSize acquiredAt) {} =
      .ok { full with aboveCohort := n } := by
    rw [h.ranked, List.foldlM_append, hrun]
    show (last :: rest).foldlM (walkAsset registry cohortSize acquiredAt) walk = _
    rw [List.foldlM_cons, hstep]
    exact hskip
  obtain ⟨result, hresult, -⟩ := qualifyCanonicalCohort_of h.size.1 h.size.2 h.distinct hwalk
    hpotential (requireCompleteSymbolIdentities_ok.2 fun row hrow hid member hmember => by
      obtain ⟨entry, hentry, hcounted, hkey⟩ := hfullKept.entry hmember
      have hsymbol := h.identified entry hentry hcounted row hrow hid
      rwa [(Prod.mk.inj (Prod.mk.inj hkey).2).1] at hsymbol)
  exact ⟨result, hresult⟩

theorem complete_of_accepted {result : CanonicalCohort}
    (h : qualifyCanonicalCohort registry rows cohortSize acquiredAt = .ok result) :
    ∃ before last rest, Complete registry rows cohortSize acquiredAt before last rest ∧
      ∀ entry ∈ before ++ [last], standing registry entry = .counted →
        ∃ member ∈ result.cohort,
          providerId entry.2 = some member.providerId ∧ member.rawRank = entry.1 := by
  obtain ⟨hpos, hle, hids, walk, hwalk, hpotential, hcomplete, hcohort⟩ := qualifyCanonicalCohort_ok h
  have hopen : ¬ cohortSize ≤ ({} : Walk).potential := not_le.2 hpos
  obtain ⟨before, last, rest, mid, hsplit, hwalked, hkept, hsame, hslot, hlength⟩ :=
    walk_boundary walked_nil kept_nil hopen hwalk hpotential
  rw [List.nil_append] at hwalked hkept hlength
  rw [hsame] at hcomplete hcohort
  have hranks := hwalked.map_fst
  rw [List.length_append, List.length_singleton] at hranks
  refine ⟨before, last, rest, ⟨⟨hpos, hle⟩, hids, hsplit, hslot, hlength, hranks, hkept.required, ?_⟩,
    fun entry hentry hcounted => ?_⟩
  · intro entry hentry hcounted row hrow hid
    obtain ⟨member, hmember, hkey⟩ := hkept.member hentry hcounted
    have hsymbol := requireCompleteSymbolIdentities_ok.1 hcomplete row hrow hid member hmember
    rwa [(Prod.mk.inj (Prod.mk.inj hkey).2).1] at hsymbol
  · obtain ⟨member, hmember, hkey⟩ := hkept.member hentry hcounted
    obtain ⟨hid, hrest⟩ := Prod.mk.inj hkey
    rw [hcohort]
    exact ⟨member, hmember, hid.symm, (Prod.mk.inj hrest).2⟩

namespace Complete

variable (h : Complete registry rows cohortSize acquiredAt before last rest)

include h

theorem last_rank : last.1 = before.length + 1 := by
  have hlast := congrArg List.getLast? h.ranks
  rw [List.map_append, List.map_singleton, List.getLast?_concat, List.range'_concat,
    List.getLast?_concat] at hlast
  have := Option.some.inj hlast
  omega

theorem boundaryRank_eq : boundaryRank registry rows cohortSize = some last.1 := by
  have hlast : slots registry (last :: rest) = last :: slots registry rest :=
    List.filter_cons_of_pos (decide_eq_true h.slot)
  have hindex : cohortSize - 1 = (slots registry before).length := by
    have := h.slots_before
    omega
  rw [boundaryRank, h.ranked, slots_append, hlast, hindex, List.getElem?_append_right le_rfl,
    Nat.sub_self]
  rfl

theorem le_of_rest {entry : ℕ × AssetRow} (hentry : entry ∈ rest) : last.1 ≤ entry.1 := by
  have hsorted := rankedAssets_pairwise rows
  rw [h.ranked] at hsorted
  have htail := (List.pairwise_cons.1 (List.pairwise_append.1 hsorted).2.1).1
  exact Prod.Lex.monotone_fst (rankKey last) (rankKey entry) (htail entry hentry)

/-- Up to the last slot each rank occurs once, and the boundary rank once more for each row of it
that is left. -/
theorem count_eq (rank : ℕ) : rankStatusCount rows (.valid rank) =
    (List.range' 1 last.1).count rank + (rest.map Prod.fst).count rank := by
  have hsplit : rankedAssets rows = before ++ [last] ++ rest := by
    rw [h.ranked, List.append_assoc, List.singleton_append]
  rw [rankStatusCount_valid, hsplit, List.map_append, List.count_append, h.ranks, h.last_rank]

end Complete

/-- A shared rank up to the boundary and a missing rank below it raise, and the genuine rows up to the
boundary are in the cohort of a snapshot that is accepted. -/
structure FailsClosed (registry : Registry) (rows : List AssetRow) (cohortSize : ℕ)
    (acquiredAt : Instant) : Prop where
  raises : ∀ boundary, boundaryRank registry rows cohortSize = some boundary →
    ((∃ rank ≤ boundary, 2 ≤ rankStatusCount rows (.valid rank)) ∨
      ∃ rank < boundary, 1 ≤ rank ∧ rankStatusCount rows (.valid rank) = 0) →
    ∃ error, qualifyCanonicalCohort registry rows cohortSize acquiredAt = .error error
  members : ∀ result, qualifyCanonicalCohort registry rows cohortSize acquiredAt = .ok result →
    ∃ boundary, boundaryRank registry rows cohortSize = some boundary ∧
      ∀ row ∈ rows, ∀ rank ≤ boundary, rawRank row = .valid rank →
        (assetMembership registry row).1 = .genuine →
        ∃ member ∈ result.cohort,
          providerId row = some member.providerId ∧ member.rawRank = rank

/-- The ranking fails closed if and only if no other row has the rank of the last slot in a snapshot
that is complete otherwise. -/
theorem boundary_defects_fail_closed (registry : Registry) (rows : List AssetRow) (cohortSize : ℕ)
    (acquiredAt : Instant) :
    FailsClosed registry rows cohortSize acquiredAt ↔
      ∀ before last rest, Complete registry rows cohortSize acquiredAt before last rest →
        rankStatusCount rows (.valid last.1) ≤ 1 := by
  constructor
  · intro hclosed before last rest h
    by_contra hshared
    obtain ⟨result, hresult⟩ := h.accepted
    obtain ⟨error, herror⟩ := hclosed.raises last.1 h.boundaryRank_eq
      (.inl ⟨last.1, le_rfl, not_le.1 hshared⟩)
    cases hresult.symm.trans herror
  · intro hunshared
    refine ⟨fun boundary hboundary hdefect => ?_, fun result hresult => ?_⟩
    · cases hresult : qualifyCanonicalCohort registry rows cohortSize acquiredAt with
      | error error => exact ⟨error, rfl⟩
      | ok result =>
        exfalso
        obtain ⟨before, last, rest, h, -⟩ := complete_of_accepted hresult
        obtain rfl := Option.some.inj (h.boundaryRank_eq.symm.trans hboundary)
        rcases hdefect with ⟨rank, hle, hshared⟩ | ⟨rank, hlt, hpos, hmissing⟩
        · rcases Nat.lt_or_eq_of_le hle with hlt | rfl
          · have hone : (List.range' 1 last.1).count rank ≤ 1 :=
              List.nodup_iff_count_le_one.1 List.nodup_range' rank
            have habsent : (rest.map Prod.fst).count rank = 0 := by
              refine List.count_eq_zero.2 fun hmem => ?_
              obtain ⟨entry, hentry, rfl⟩ := List.mem_map.1 hmem
              exact absurd hlt (not_lt.2 (h.le_of_rest hentry))
            have := h.count_eq rank
            omega
          · exact absurd (hunshared before last rest h) (by omega)
        · have hmem : 1 ≤ (List.range' 1 last.1).count rank := by
            rw [List.one_le_count_iff, List.mem_range'_1]
            omega
          have := h.count_eq rank
          omega
    · obtain ⟨before, last, rest, h, hkept⟩ := complete_of_accepted hresult
      refine ⟨last.1, h.boundaryRank_eq, fun row hrow rank hle hrank hgenuine => ?_⟩
      have hmem : (rank, row) ∈ before ++ [last] ++ rest := by
        rw [List.append_assoc, List.singleton_append, ← h.ranked, (rankedAssets_perm rows).mem_iff,
          List.mem_filterMap]
        exact ⟨row, hrow, by rw [withRank, hrank]⟩
      rcases List.mem_append.1 hmem with hpassed | hlater
      · exact hkept _ hpassed (by rw [standing, hgenuine])
      · -- the rank of the last slot would occur twice
        obtain rfl : rank = last.1 := le_antisymm hle (h.le_of_rest hlater)
        have hcount := hunshared before last rest h
        have hsecond : 1 ≤ (rest.map Prod.fst).count last.1 :=
          List.one_le_count_iff.2 (List.mem_map.2 ⟨_, hlater, rfl⟩)
        have hfirst : 1 ≤ (List.range' 1 last.1).count last.1 := by
          rw [List.one_le_count_iff, List.mem_range'_1]
          have := h.last_rank
          omega
        have := h.count_eq last.1
        omega

end Boundary

section Samples

/-- Two genuine assets of the first rank. -/
def tiedRows : List AssetRow :=
  [sampleRow "alpha" 1 [.text "cryptocurrency"], sampleRow "beta" 1 [.text "cryptocurrency"]]

/-- A cohort of one asset is accepted although both share its rank, and the second is left out. -/
theorem shared_boundary_rank_is_accepted :
    boundaryRank emptyRegistry tiedRows 1 = some 1 ∧ rankStatusCount tiedRows (.valid 1) = 2 ∧
    (tiedRows.all fun row =>
      decide ((assetMembership emptyRegistry row).1 = .genuine ∧ rawRank row = .valid 1)) = true ∧
    (qualifyCanonicalCohort emptyRegistry tiedRows 1 0).map
      (fun result => result.cohort.map QualifiedAsset.providerId) = .ok ["alpha"] := by
  decide +kernel

end Samples

end CandleCraft.Universe
