import CandleCraft.Lifecycle.PlanRun
import CandleCraft.Lifecycle.StoredGeometry

/-!
# The order of the milestones

The order of the targets rests on the plan: a candle that reaches a target reaches the nearer ones.
The strict order of entry and first target rests on the grid: a candle closes after the one before
it.
-/

namespace CandleCraft.Lifecycle

open Candles Plan Relational SetupLifecycleState

section Geometry

def StoredPlanGeometry.TargetsOrdered (g : StoredPlanGeometry) : Prop :=
  match g.direction with
  | .long => g.tp1 < g.tp2 ∧ g.tp2 < g.tp3
  | .short => g.tp2 < g.tp1 ∧ g.tp3 < g.tp2

theorem storedPlanGeometry_targetsOrdered {record : SetupLifecycleRecord} {g : StoredPlanGeometry}
    (h : storedPlanGeometry record = .ok g) : g.TargetsOrdered := by
  have hdirected : g.levels.Directed g.tp1 g.tp2 g.tp3 := (storedPlanGeometry_ordered h).directed
  unfold StoredPlanGeometry.TargetsOrdered
  unfold PlanLevels.Directed at hdirected
  rw [show g.levels.direction = g.direction from rfl] at hdirected
  cases hdirection : g.direction with
  | long | short =>
    rw [hdirection] at hdirected
    exact hdirected.2.2

end Geometry

section Order

variable {rel : Instant → Instant → Prop} {a b close : Option Stamp} {bar : Bar}
  {g : StoredPlanGeometry} {m : Milestones}

/-- Where the second time is set the first is set, and they are related. -/
def Precedes (rel : Instant → Instant → Prop) (a b : Option Stamp) : Prop :=
  ∀ s ∈ b, ∃ t u, a = some (.instant t) ∧ s = .instant u ∧ rel t u

theorem Precedes.none (rel : Instant → Instant → Prop) (a : Option Stamp) :
    Precedes rel a none := by
  intro s hs
  cases hs

theorem Precedes.eq_none (h : Precedes rel a b) (ha : a = Option.none) : b = Option.none := by
  refine Option.eq_none_iff_forall_not_mem.2 fun s hs => ?_
  obtain ⟨t, u, hset, -, -⟩ := h s hs
  rw [ha] at hset
  cases hset

/-- A candle that closes after the cursor. -/
def Later (close : Option Stamp) (bar : Bar) : Prop :=
  ∀ c, close = some (.instant c) → c < bar.closeTimestamp

/-- A time that is set when the candle closes, unless it is set already. -/
def credited (bar : Bar) (reached : Bool) (a : Option Stamp) : Option Stamp :=
  if a.isNone && reached then bar.closeStamp else a

theorem Precedes.later (h : Precedes (· ≥ ·) close a) (hlater : Later close bar) :
    Precedes (· ≥ ·) bar.closeStamp a := by
  intro s hs
  obtain ⟨c, t, hclose, rfl, hle⟩ := h s hs
  exact ⟨_, t, rfl, rfl, hle.trans (hlater c hclose).le⟩

theorem credited_dated (h : Precedes (· ≥ ·) close a) (hlater : Later close bar) (reached : Bool) :
    Precedes (· ≥ ·) bar.closeStamp (credited bar reached a) := by
  intro s hs
  unfold credited at hs
  split_ifs at hs with hnew
  · cases hs
    exact ⟨_, _, rfl, rfl, le_rfl⟩
  · exact h.later hlater s hs

/-- A candle that reaches the farther of two targets reaches the nearer one, so it cannot credit
them out of order. -/
theorem credited_precedes {reached reached' : Bool} (h : Precedes (· ≤ ·) a b)
    (hdated : Precedes (· ≥ ·) close a) (hlater : Later close bar)
    (hreached : reached' = true → reached = true) :
    Precedes (· ≤ ·) (credited bar reached a) (credited bar reached' b) := by
  intro s hs
  rw [credited] at hs
  split_ifs at hs with hnew
  · cases hs
    rw [Bool.and_eq_true] at hnew
    cases a with
    | none =>
      rw [credited, hreached hnew.2]
      exact ⟨_, _, rfl, rfl, le_rfl⟩
    | some earlier =>
      obtain ⟨c, t, hclose, rfl, hle⟩ := hdated earlier rfl
      exact ⟨t, _, rfl, rfl, hle.trans (hlater c hclose).le⟩
  · obtain ⟨t, u, rfl, rfl, hle⟩ := h s hs
    exact ⟨t, u, rfl, rfl, hle⟩

theorem credited_after {reached : Bool} (h : Precedes (· < ·) a b)
    (hdated : Precedes (· ≥ ·) close a) (hlater : Later close bar) (ha : a.isSome = true) :
    Precedes (· < ·) a (credited bar reached b) := by
  intro s hs
  rw [credited] at hs
  split_ifs at hs with hnew
  · cases hs
    obtain ⟨earlier, rfl⟩ := Option.isSome_iff_exists.1 ha
    obtain ⟨c, t, hclose, rfl, hle⟩ := hdated earlier rfl
    exact ⟨t, _, rfl, rfl, lt_of_le_of_lt hle (hlater c hclose)⟩
  · exact h s hs

theorem StoredPlanGeometry.TargetsOrdered.reached (hg : g.TargetsOrdered) (bar : Bar) :
    (targetReached bar g g.tp2 = true → targetReached bar g g.tp1 = true) ∧
    (targetReached bar g g.tp3 = true → targetReached bar g g.tp2 = true) := by
  unfold StoredPlanGeometry.TargetsOrdered at hg
  unfold targetReached
  cases hdirection : g.direction with
  | long =>
    rw [hdirection] at hg
    simp only [decide_eq_true_eq]
    exact ⟨hg.1.le.trans, hg.2.le.trans⟩
  | short =>
    rw [hdirection] at hg
    simp only [decide_eq_true_eq]
    exact ⟨fun h => h.trans hg.1.le, fun h => h.trans hg.2.le⟩

def candleOutcomes : List SetupLifecycleState := [tpHit, slHit, breakeven]

namespace Milestones

/-- The milestones of a plan are in order, and its outcome shows the third target and the stop. -/
structure Ordered (m : Milestones) : Prop where
  tp1 : Precedes (· < ·) m.entryAt m.tp1At
  tp2 : Precedes (· ≤ ·) m.tp1At m.tp2At
  tp3 : Precedes (· ≤ ·) m.tp2At m.tp3At
  tpHit : m.tp3At.isSome = true → m.terminalOutcome = some .tpHit
  stopped : m.stopAt.isSome = true → m.terminalOutcome ∈ [some slHit, some breakeven]

/-- A candle outcome of a plan rests on the milestone it names. -/
structure Shown (m : Milestones) : Prop where
  tp3At : m.terminalOutcome = some .tpHit → m.tp3At.isSome = true
  stopAt : m.terminalOutcome ∈ [some slHit, some breakeven] → m.stopAt.isSome = true

/-- The milestones that are set lie at or before the close of the cursor. -/
structure DatedBy (m : Milestones) (close : Option Stamp) : Prop where
  entry : Precedes (· ≥ ·) close m.entryAt
  tp1 : Precedes (· ≥ ·) close m.tp1At
  tp2 : Precedes (· ≥ ·) close m.tp2At

theorem ordered_empty : ({} : Milestones).Ordered :=
  ⟨.none _ _, .none _ _, .none _ _, nofun, nofun⟩

theorem datedBy_empty (close : Option Stamp) : ({} : Milestones).DatedBy close :=
  ⟨.none _ _, .none _ _, .none _ _⟩

theorem Ordered.tp3At_eq_none (h : m.Ordered) (hopen : m.terminalOutcome = none) :
    m.tp3At = none := by
  rw [← Option.not_isSome_iff_eq_none]
  intro hset
  cases hopen.symm.trans (h.tpHit hset)

theorem Ordered.stopAt_eq_none (h : m.Ordered) (hopen : m.terminalOutcome = none) :
    m.stopAt = none := by
  rw [← Option.not_isSome_iff_eq_none]
  intro hset
  exact absurd (h.stopped hset) (by rw [hopen]; decide)

theorem Ordered.exclusive (h : m.Ordered) : ¬ (m.tp3At.isSome = true ∧ m.stopAt.isSome = true) := by
  rintro ⟨htp3, hstop⟩
  exact absurd (h.stopped hstop) (by rw [h.tpHit htp3]; decide)

theorem Ordered.targets_eq_none (h : m.Ordered) (hentry : m.entryAt = none) :
    m.tp1At = none ∧ m.tp2At = none ∧ m.tp3At = none :=
  have htp1 := h.tp1.eq_none hentry
  have htp2 := h.tp2.eq_none htp1
  ⟨htp1, htp2, h.tp3.eq_none htp2⟩

theorem Ordered.ended (h : m.Ordered) (hopen : m.terminalOutcome = none)
    (outcome : SetupLifecycleState) (invalidatedAt outcomeAt : Option Stamp) :
    { m with
      invalidatedAt := invalidatedAt
      outcomeAt := outcomeAt
      terminalOutcome := some outcome }.Ordered where
  tp1 := h.tp1
  tp2 := h.tp2
  tp3 := h.tp3
  tpHit hset := by cases (h.tp3At_eq_none hopen).symm ▸ hset
  stopped hset := by cases (h.stopAt_eq_none hopen).symm ▸ hset

theorem Ordered.stop (h : m.Ordered) (hopen : m.terminalOutcome = none) (breakevenStop : Bool) :
    (m.stop bar (Pass.stopOutcome breakevenStop)).Ordered where
  tp1 := h.tp1
  tp2 := h.tp2
  tp3 := h.tp3
  tpHit hset := by cases (h.tp3At_eq_none hopen).symm ▸ hset
  stopped _ := by cases breakevenStop <;> exact of_decide_eq_true rfl

theorem Ordered.enter (h : m.Ordered) (hentry : m.entryAt = none) : (m.enter bar).Ordered := by
  obtain ⟨htp1, htp2, htp3⟩ := h.targets_eq_none hentry
  refine ⟨?_, h.tp2, h.tp3, h.tpHit, h.stopped⟩
  show Precedes (· < ·) _ m.tp1At
  rw [htp1]
  exact .none _ _

theorem Ordered.credit (h : m.Ordered) (hdated : m.DatedBy close) (hlater : Later close bar)
    (hg : g.TargetsOrdered) (hentry : m.entryAt.isSome = true) :
    Precedes (· < ·) (m.credit bar g).entryAt (m.credit bar g).tp1At ∧
    Precedes (· ≤ ·) (m.credit bar g).tp1At (m.credit bar g).tp2At ∧
    Precedes (· ≤ ·) (m.credit bar g).tp2At (m.credit bar g).tp3At :=
  ⟨credited_after h.tp1 hdated.entry hlater hentry,
    credited_precedes h.tp2 hdated.tp1 hlater (hg.reached bar).1,
    credited_precedes h.tp3 hdated.tp2 hlater (hg.reached bar).2⟩

theorem DatedBy.credit (h : m.DatedBy close) (hlater : Later close bar) (g : StoredPlanGeometry) :
    (m.credit bar g).DatedBy bar.closeStamp where
  entry := h.entry.later hlater
  tp1 := credited_dated h.tp1 hlater _
  tp2 := credited_dated h.tp2 hlater _

theorem next_eq (m : Milestones) (bar : Bar) (g : StoredPlanGeometry) (breakevenStop : Bool) :
    m.next bar g breakevenStop =
      if m.entryAt.isNone then
        if entryTouched bar g then
          if stopTouched bar g then (m.enter bar).stop bar slHit else m.enter bar
        else m
      else if activeStopTouched bar g breakevenStop then
        m.stop bar (Pass.stopOutcome breakevenStop)
      else if (m.credit bar g).tp3At.isSome then (m.credit bar g).conclude bar .tpHit
      else m.credit bar g := by
  unfold Milestones.next Position.next Pass.stopOutcome
  simp only [apply_ite Position.milestones]

theorem Ordered.next (h : m.Ordered) (hdated : m.DatedBy close) (hopen : m.terminalOutcome = none)
    (hlater : Later close bar) (hg : g.TargetsOrdered) (breakevenStop : Bool) :
    (m.next bar g breakevenStop).Ordered ∧ (m.next bar g breakevenStop).DatedBy bar.closeStamp := by
  have hkept : m.DatedBy bar.closeStamp :=
    ⟨hdated.entry.later hlater, hdated.tp1.later hlater, hdated.tp2.later hlater⟩
  have hfilled : (m.enter bar).DatedBy bar.closeStamp :=
    ⟨credited_dated (.none _ close) hlater true, hkept.tp1, hkept.tp2⟩
  rw [next_eq]
  split_ifs with hentry htouched hstop hactive hdone
  · have hentered : (m.enter bar).Ordered := h.enter (Option.isNone_iff_eq_none.1 hentry)
    exact ⟨hentered.stop hopen false, hfilled.entry, hfilled.tp1, hfilled.tp2⟩
  · exact ⟨h.enter (Option.isNone_iff_eq_none.1 hentry), hfilled⟩
  · exact ⟨h, hkept⟩
  · exact ⟨h.stop hopen breakevenStop, hkept.entry, hkept.tp1, hkept.tp2⟩
  all_goals
    have hset : m.entryAt.isSome = true := by
      rw [Option.isSome_iff_ne_none]
      exact fun hnone => hentry (Option.isNone_iff_eq_none.2 hnone)
    obtain ⟨htp1, htp2, htp3⟩ := h.credit hdated hlater hg hset
    have hcredited := hdated.credit hlater g
  · refine ⟨⟨htp1, htp2, htp3, fun _ => rfl, fun hset => ?_⟩, hcredited.entry, hcredited.tp1,
      hcredited.tp2⟩
    cases (h.stopAt_eq_none hopen).symm ▸ hset
  · exact ⟨⟨htp1, htp2, htp3, fun hset => absurd hset hdone, h.stopped⟩, hcredited⟩

theorem Shown.of_outcome (h : ∀ outcome ∈ m.terminalOutcome, outcome ∉ candleOutcomes) :
    m.Shown where
  tp3At hhit := absurd (by decide) (h _ hhit)
  stopAt hstopped := by
    rcases List.mem_pair.1 hstopped with houtcome | houtcome <;>
      exact absurd (by decide) (h _ houtcome)

theorem Shown.of_open (hopen : m.terminalOutcome = none) : m.Shown :=
  .of_outcome (by rw [hopen]; nofun)

/-- A candle ends an open plan only with an outcome that it dates. -/
theorem Shown.next (hopen : m.terminalOutcome = none) (bar : Bar) (g : StoredPlanGeometry)
    (breakevenStop : Bool) : (m.next bar g breakevenStop).Shown := by
  rw [next_eq]
  split_ifs with hentry htouched hstop hactive hdone
  · exact ⟨nofun, fun _ => rfl⟩
  · exact .of_open hopen
  · exact .of_open hopen
  · exact ⟨by cases breakevenStop <;> nofun, fun _ => rfl⟩
  · exact ⟨fun _ => hdone, nofun⟩
  · exact .of_open hopen

end Milestones

end Order

section Runs

variable {rounds rounds' : List Round} {p q w : OutcomeProgress} {g : StoredPlanGeometry}

structure OutcomeProgress.InOrder (p : OutcomeProgress) : Prop where
  ordered : p.toMilestones.Ordered
  dated : p.toMilestones.DatedBy p.evaluationCursorCloseAt

theorem OutcomeProgress.InOrder.congr (h : p.InOrder) (hq : p.SameOutcome q) : q.InOrder := by
  have hclose : q.evaluationCursorCloseAt = p.evaluationCursorCloseAt :=
    congrArg Cursor.evaluationCursorCloseAt hq.cursor
  refine ⟨?_, ?_⟩
  · rw [hq.milestones]
    exact h.ordered
  · rw [hq.milestones, hclose]
    exact h.dated

/-- On a grid each candle closes after the one before it, whatever the closes are within their
tolerance. -/
theorem Tracked.closes_pairwise (h : Tracked rounds p) :
    rounds.Pairwise fun r r' => r.bar.closeTimestamp < r'.bar.closeTimestamp := by
  rcases rounds.eq_nil_or_concat with rfl | ⟨rest, last, rfl⟩
  · exact .nil
  · have hstep := h.step_ge (by simp)
    refine (h.contiguous.pairwise_add_le (by linarith)).imp_of_mem fun {r r'} hr hr' hopen => ?_
    have hclose := (h.closes r hr).2
    have hclose' := (h.closes r' hr').1
    linarith

theorem Round.Sound.inOrder {r : Round} (h : r.Sound g) (hg : g.TargetsOrdered)
    (hlater : Later r.before.evaluationCursorCloseAt r.bar) (hbefore : r.before.InOrder) :
    r.after.InOrder := by
  have hclose : r.after.evaluationCursorCloseAt = r.bar.closeStamp :=
    congrArg Cursor.evaluationCursorCloseAt h.cursor
  obtain ⟨breakevenStop, -, hmilestones⟩ := h.milestones
  obtain ⟨hordered, hdated⟩ :=
    hbefore.ordered.next hbefore.dated h.running hlater hg breakevenStop
  refine ⟨?_, ?_⟩
  · rw [hmilestones]
    exact hordered
  · rw [hmilestones, hclose]
    exact hdated

/-- What every candle that closes after the cursor preserves holds after candles that follow one
another. -/
theorem Linked.along {P : OutcomeProgress → Prop} (h : Linked p rounds q)
    (hsound : ∀ r ∈ rounds, r.Sound g)
    (hcloses : rounds.Pairwise fun r r' => r.bar.closeTimestamp < r'.bar.closeTimestamp)
    (hfirst : ∀ r ∈ rounds.head?, Later p.evaluationCursorCloseAt r.bar)
    (hstep : ∀ r ∈ rounds, Later r.before.evaluationCursorCloseAt r.bar → P r.before → P r.after)
    (hp : P p) : P q := by
  induction h with
  | nil => exact hp
  | @cons r rest q h ih =>
    have hr := List.mem_cons_self (a := r) (l := rest)
    have hclose : r.after.evaluationCursorCloseAt = r.bar.closeStamp :=
      congrArg Cursor.evaluationCursorCloseAt (hsound r hr).cursor
    rw [List.pairwise_cons] at hcloses
    refine ih (fun r' hr' => hsound r' (List.mem_cons_of_mem _ hr')) hcloses.2 ?_
      (fun r' hr' => hstep r' (List.mem_cons_of_mem _ hr')) (hstep r hr (hfirst r rfl) hp)
    intro r' hr' c hc
    rw [hclose] at hc
    obtain rfl : r.bar.closeTimestamp = c := Stamp.instant.inj (Option.some.inj hc)
    exact hcloses.1 r' (List.mem_of_mem_head? hr')

theorem Processed.closes {started : OutcomeProgress} {decision : Instant} {bars pending : List Bar}
    (hp : Processed w rounds' q g started decision bars pending) (h : Tracked rounds w) :
    rounds'.Pairwise (fun r r' => r.bar.closeTimestamp < r'.bar.closeTimestamp) ∧
    ∀ r ∈ rounds'.head?, Later started.evaluationCursorCloseAt r.bar := by
  have hstarted := h.prepares hp.prepares
  have hcloses := List.pairwise_append.1 (h.processed hp).closes_pairwise
  refine ⟨hcloses.2.1, fun r hr c hc => ?_⟩
  rw [show started.evaluationCursorCloseAt = (lastCursor rounds).evaluationCursorCloseAt from
    congrArg Cursor.evaluationCursorCloseAt hstarted.cursor, lastCursor] at hc
  cases hlast : rounds.getLast? with
  | none =>
    rw [hlast] at hc
    cases hc
  | some last =>
    rw [hlast] at hc
    obtain rfl : last.bar.closeTimestamp = c := Stamp.instant.inj (Option.some.inj hc)
    exact hcloses.2.2 last (List.mem_of_getLast? hlast) r (List.mem_of_mem_head? hr)

variable {admits : SetupLifecycleRecord → Prop}

/-- Every step on an open row keeps it in order. -/
theorem RowStep.inOrder (hstep : RowStep admits w rounds' q) (htracked : Tracked rounds w)
    (hopen : w.terminalOutcome = none) (h : w.InOrder) : q.InOrder := by
  cases hstep with
  | closed _ _ =>
    exact ⟨h.ordered.ended hopen _ _ _, h.dated.entry, h.dated.tp1, h.dated.tp2⟩
  | noted hq => exact h.congr hq.toSameOutcome
  | @processed _ _ g started decision bars pending hp =>
    obtain ⟨record, hg⟩ := hp.geometry
    obtain ⟨hcloses, hfirst⟩ := hp.closes htracked
    exact hp.linked.along hp.sound hcloses hfirst
      (fun r hr hlater => (hp.sound r hr).inOrder (storedPlanGeometry_targetsOrdered hg) hlater)
      (h.congr hp.prepares.toSameOutcome)

/-- The outcome that a step writes is shown by the milestones, if no record that has a candle
outcome already is evaluated. -/
theorem RowStep.shown (hstep : RowStep admits w rounds' q) (hopen : w.terminalOutcome = none)
    (hadmits : ∀ record, admits record → record.currentState ∉ candleOutcomes) :
    q.toMilestones.Shown := by
  have hprepared {p : OutcomeProgress} (hp : w.Prepares p) : p.toMilestones.Shown :=
    hp.milestones ▸ .of_open hopen
  cases hstep with
  | closed hadmitted _ => exact .of_outcome (by rintro _ ⟨⟩; exact hadmits _ hadmitted)
  | noted hq => exact hprepared hq
  | processed hp =>
    rcases List.eq_nil_or_concat rounds' with rfl | ⟨rest, r, rfl⟩
    · rw [hp.linked.eq_of_nil rfl]
      exact hprepared hp.prepares
    · have hlast : r ∈ (rest.concat r).getLast? := by simp
      have hsound := hp.sound r (List.mem_of_getLast? hlast)
      obtain ⟨breakevenStop, -, hmilestones⟩ := hsound.milestones
      rw [hp.linked.after_last hlast, hmilestones]
      exact .next hsound.running _ _ _

variable {sha256 : String → String} {id : String} {identities : List String}
  {row row' : Option OutcomeProgress}

theorem PlanRun.inOrder (h : PlanRun sha256 admits id identities rounds row) :
    ∀ p ∈ row, p.InOrder := by
  have hinvariant := h.invariant (I := fun rounds p => Tracked rounds p ∧ p.InOrder)
    (fun w hw => ⟨.fresh hw, by rw [hw.milestones]; exact Milestones.ordered_empty,
      by rw [hw.milestones]; exact Milestones.datedBy_empty _⟩)
    (fun rounds w rounds' q hw hopen hstep =>
      ⟨hstep.tracked hw.1, hstep.inOrder hw.1 hopen hw.2⟩)
  exact fun p hp => (hinvariant.2 p hp).2

theorem PlanRun.shown (h : PlanRun sha256 admits id identities rounds row)
    (hadmits : ∀ record, admits record → record.currentState ∉ candleOutcomes) :
    ∀ p ∈ row, p.toMilestones.Shown :=
  (h.invariant (I := fun _ p => p.toMilestones.Shown)
    (fun _ hw => hw.milestones ▸ .of_open rfl)
    (fun _ _ _ _ _ hopen hstep => hstep.shown hopen hadmits)).2

theorem PlanStep.of_ended
    (h : PlanStep sha256 admits id identities (some p) rounds row')
    (hended : p.terminalOutcome.isSome = true) : row' = some p := by
  rcases h.cases with ⟨-, hsame⟩ | ⟨w, q, hw, hopen, -, -⟩
  · exact hsame
  · rcases hw with hw | ⟨hnone, -⟩
    · cases hw
      rw [hopen] at hended
      cases hended
    · cases hnone

def Milestones.targets (m : Milestones) : List (Option Stamp) := [m.tp1At, m.tp2At, m.tp3At]

/-- A candle credits no target if the plan is not filled before it, or if it touches the stop
that is active. -/
theorem Round.Sound.targets_kept {r : Round} (h : r.Sound g) :
    (r.before.entryAt = none → r.after.toMilestones.targets = r.before.toMilestones.targets) ∧
    ∀ breakevenStop, protectionActive r.before r.bar.openTimestamp = .ok breakevenStop →
      activeStopTouched r.bar g breakevenStop = true →
      r.after.toMilestones.targets = r.before.toMilestones.targets := by
  obtain ⟨breakevenStop, hactive, hmilestones⟩ := h.milestones
  rw [Milestones.next_eq] at hmilestones
  have hunfilled : r.before.entryAt = none →
      r.after.toMilestones.targets = r.before.toMilestones.targets := by
    intro hentry
    rw [hmilestones, if_pos (Option.isNone_iff_eq_none.2 hentry)]
    split_ifs <;> rfl
  refine ⟨hunfilled, fun breakevenStop' hactive' hstop => ?_⟩
  cases hentry : r.before.entryAt with
  | none => exact hunfilled hentry
  | some entryAt =>
    have hset : r.before.entryAt.isSome = true := by rw [hentry]; rfl
    obtain rfl : breakevenStop' = breakevenStop :=
      Except.ok.inj (hactive'.symm.trans (hactive hset))
    rw [hmilestones, if_neg (by rw [hentry]; exact Bool.false_ne_true), if_pos hstop]
    rfl

theorem evaluation_sound {record : SetupLifecycleRecord} {call : Call} {repo repo' : Repository}
    {candles : List RawCandle} {ev : LifecycleOutcomeEvaluation}
    (h : evaluateClosedCandleOutcomes sha256 record call repo candles = .ok (ev, repo'))
    (hg : storedPlanGeometry record = .ok g) : ∀ r ∈ ev.rounds, r.Sound g := by
  rcases evaluateWithIdentities_cases h with hunprocessed | ⟨g', started, bars, pending, s, rounds,
    hpending, hscanned, heq⟩
  · cases hunprocessed <;> exact fun r hr => by cases hr
  · cases heq
    obtain rfl : g' = g := Except.ok.inj (hpending.geometry.symm.trans hg)
    intro r hr
    exact hscanned.sound r (hscanned.startPass_rounds ▸ hr)

/-- Over every run of calls on a plan the milestones are in order, and the third target and the
stop exclude one another; if no record with a candle outcome is evaluated while the row is open,
the row has such an outcome exactly when its milestone is set. No candle credits a target if the
plan is not filled before it or if it touches the active stop. Once the row has ended no call
changes it. -/
theorem milestones_stay_in_order (h : PlanRun sha256 admits id identities rounds row) :
    (∀ p ∈ row, p.toMilestones.Ordered ∧ ¬ (p.tp3At.isSome = true ∧ p.stopAt.isSome = true)) ∧
    ((∀ record, admits record → record.currentState ∉ candleOutcomes) → ∀ p ∈ row,
      (p.terminalOutcome = some .tpHit ↔ p.tp3At.isSome = true) ∧
      (p.terminalOutcome ∈ [some slHit, some breakeven] ↔ p.stopAt.isSome = true)) ∧
    (∀ record call repo candles ev repo' g,
      evaluateClosedCandleOutcomes sha256 record call repo candles = .ok (ev, repo') →
      storedPlanGeometry record = .ok g → ∀ r ∈ ev.rounds,
        (r.before.entryAt = none → r.after.toMilestones.targets = r.before.toMilestones.targets) ∧
        ∀ breakevenStop, protectionActive r.before r.bar.openTimestamp = .ok breakevenStop →
          activeStopTouched r.bar g breakevenStop = true →
          r.after.toMilestones.targets = r.before.toMilestones.targets) ∧
    ∀ p ∈ row, p.terminalOutcome.isSome = true → ∀ row',
      Relation.ReflTransGen
        (fun row row' => ∃ rounds, PlanStep sha256 (fun _ => True) id identities row rounds row')
        row row' → row' = row := by
  have hordered (p) (hp : p ∈ row) := (h.inOrder p hp).ordered
  refine ⟨fun p hp => ⟨hordered p hp, (hordered p hp).exclusive⟩, fun hadmits p hp => ?_, ?_, ?_⟩
  · have hshown := h.shown hadmits p hp
    exact ⟨⟨hshown.tp3At, (hordered p hp).tpHit⟩, ⟨hshown.stopAt, (hordered p hp).stopped⟩⟩
  · intro record call repo candles ev repo' g hev hg r hr
    exact (evaluation_sound hev hg r hr).targets_kept
  · rintro p ⟨⟩ hended row' hrun
    induction hrun with
    | refl => rfl
    | tail _ hstep ih =>
      subst ih
      obtain ⟨rounds, hstep⟩ := hstep
      exact hstep.of_ended hended

end Runs

section Samples

/-- The sample record after an observation has moved it to its third target. -/
def sampleTpHit : SetupLifecycleRecord := { sampleConfirmed with currentState := .tpHit }

/-- A record that has reached its targets without candles gets a row with that outcome, but with
no target. -/
theorem observed_outcome_has_no_target :
    (evaluateClosedCandleOutcomes id sampleTpHit (sampleEvaluation 1) sampleRepository []).map
      (fun r => (r.2.findProgress sampleTpHit.lifecycleId
        (compatiblePlanIdentities id sampleTpHit)).map fun p => (p.terminalOutcome, p.tp3At)) =
      .ok (some (some .tpHit, none)) := by
  decide +kernel

/-- A sample evaluation over three candles: the second fills the plan and the third reaches two
targets. -/
def sampleCredited : Except String (LifecycleOutcomeEvaluation × Repository) :=
  evaluateClosedCandleOutcomes id sampleConfirmed (sampleEvaluation 3) sampleRepository
    [sampleCandle 0 105 103, sampleCandle 1 104 101, sampleCandle 2 121 103]

/-- The milestones of the sample plan are in order. -/
theorem sample_milestones_in_order :
    ∃ ev repo' p, sampleCredited = .ok (ev, repo') ∧
      repo'.findProgress sampleConfirmed.lifecycleId (compatiblePlanIdentities id sampleConfirmed) =
        some p ∧
      p.tp2At = some (.instant (quarter 3)) ∧ p.toMilestones.Ordered ∧
      (p.terminalOutcome = some .tpHit ↔ p.tp3At.isSome = true) := by
  have hcredited : sampleCredited.map (fun r => (r.2.findProgress sampleConfirmed.lifecycleId
      (compatiblePlanIdentities id sampleConfirmed)).map fun p => p.tp2At) =
        .ok (some (some (.instant (quarter 3)))) := by decide +kernel
  obtain ⟨r, hrun, hcredited⟩ := Scan.map_ok hcredited
  obtain ⟨p, hp, htp2⟩ := Option.map_eq_some_iff.1 hcredited
  have hordered := milestones_stay_in_order
    (@PlanRun.of_sample (fun r => r.currentState ∉ candleOutcomes) _ _ _ _ (by decide) hrun)
  exact ⟨r.1, r.2, p, hrun, hp, htp2, (hordered.1 p hp).1, (hordered.2.1 (fun _ h => h) p hp).1⟩

end Samples

end CandleCraft.Lifecycle
