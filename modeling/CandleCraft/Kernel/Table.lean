import Mathlib.Data.List.Sort

/-!
# Relational tables with a primary key

A `Table` is a list of rows whose primary keys are pairwise distinct. `fetch` is a
`SELECT … WHERE id = ?`, `select` a filtered and ordered `SELECT`, `update` an
`UPDATE … SET … WHERE …`, and `rowcount` counts the rows such a statement matches. A table is also a
dictionary in insertion order: `put` assigns a key in place or appends it, `remove` drops it,
`keepLast` evicts the oldest keys.
-/

namespace Relational

variable {ρ κ : Type*}

/-- Rows with pairwise distinct primary keys. -/
structure Table (ρ : Type*) {κ : Type*} (key : ρ → κ) where
  rows : List ρ
  nodup : (rows.map key).Nodup

namespace Table

variable {key : ρ → κ}

def fetch [DecidableEq κ] (t : Table ρ key) (k : κ) : Option ρ :=
  t.rows.find? fun r => decide (key r = k)

def select (t : Table ρ key) (p : ρ → Prop) [DecidablePred p]
    (le : ρ → ρ → Prop) [DecidableRel le] : List ρ :=
  (t.rows.filter fun r => decide (p r)).insertionSort le

/-- The number of rows matching `c`. -/
def rowcount (t : Table ρ key) (c : ρ → Prop) [DecidablePred c] : ℕ :=
  t.rows.countP fun r => decide (c r)

/-- Apply `f` to every row matching `c`. -/
def update (t : Table ρ key) (c : ρ → Prop) [DecidablePred c] (f : ρ → ρ)
    (hf : ∀ r, key (f r) = key r) : Table ρ key where
  rows := t.rows.map fun r => if c r then f r else r
  nodup := by
    have hkey : key ∘ (fun r => if c r then f r else r) = key := by
      funext r
      by_cases hr : c r <;> simp [hr, hf]
    rw [List.map_map, hkey]
    exact t.nodup

def insert (t : Table ρ key) (r : ρ) (h : key r ∉ t.rows.map key) : Table ρ key where
  rows := t.rows ++ [r]
  nodup := by
    rw [List.map_append, List.nodup_append]
    refine ⟨t.nodup, List.nodup_singleton _, ?_⟩
    intro a ha b hb hab
    rw [List.map_singleton, List.mem_singleton] at hb
    exact h (hb ▸ hab ▸ ha)

def empty : Table ρ key := ⟨[], List.nodup_nil⟩

/-- Replace the row under the key of `r`, or append `r`. -/
def put [DecidableEq κ] (t : Table ρ key) (r : ρ) : Table ρ key :=
  if h : key r ∈ t.rows.map key then
    t.update (fun s => key s = key r) (fun s => if key s = key r then r else s) fun s => by
      split
      · next hs => exact hs.symm
      · rfl
  else t.insert r h

def remove [DecidableEq κ] (t : Table ρ key) (k : κ) : Table ρ key where
  rows := t.rows.filter fun r => decide (key r ≠ k)
  nodup := t.nodup.sublist (List.filter_sublist.map key)

/-- The rows that were written last, `n` of them at most. -/
def keepLast (t : Table ρ key) (n : ℕ) : Table ρ key where
  rows := t.rows.drop (t.rows.length - n)
  nodup := t.nodup.sublist ((List.drop_sublist _ _).map key)

theorem mem_of_mem_keepLast {t : Table ρ key} {n : ℕ} {r : ρ} (h : r ∈ (t.keepLast n).rows) :
    r ∈ t.rows :=
  List.mem_of_mem_drop h

/-- The key an autoincrement column gives the next row. -/
def nextKey {key : ρ → ℕ} (t : Table ρ key) : ℕ :=
  (t.rows.map key).foldr max 0 + 1

theorem nextKey_notMem {key : ρ → ℕ} (t : Table ρ key) : t.nextKey ∉ t.rows.map key := by
  have hle : ∀ l : List ℕ, ∀ k ∈ l, k ≤ l.foldr max 0 := by
    intro l
    induction l with
    | nil => simp
    | cons a l ih =>
      intro k hk
      rcases List.mem_cons.1 hk with rfl | hk
      · exact le_max_left _ _
      · exact le_trans (ih k hk) (le_max_right _ _)
  intro h
  have := hle _ _ h
  rw [nextKey] at this
  omega

section Fetch

variable [DecidableEq κ] {t : Table ρ key} {k : κ} {r : ρ}
variable {t : Table ρ key}

theorem mem_of_fetch (h : t.fetch k = some r) : r ∈ t.rows :=
  List.mem_of_find?_eq_some h

theorem key_of_fetch (h : t.fetch k = some r) : key r = k := by
  simpa using List.find?_some h

/-- Distinct keys make `fetch` find every row under its own key. -/
theorem fetch_of_mem (h : r ∈ t.rows) : t.fetch (key r) = some r := by
  obtain ⟨r', hr'⟩ : ∃ r', t.fetch (key r) = some r' := by
    rw [← Option.isSome_iff_exists, fetch, List.find?_isSome]
    exact ⟨r, h, by simp⟩
  have hkey := key_of_fetch hr'
  rw [hr', List.inj_on_of_nodup_map t.nodup (mem_of_fetch hr') h hkey]

@[simp]
theorem fetch_update (t : Table ρ key) (c : ρ → Prop) [DecidablePred c] (f : ρ → ρ)
    (hf : ∀ r, key (f r) = key r) (k : κ) :
    (t.update c f hf).fetch k = (t.fetch k).map fun r => if c r then f r else r := by
  rw [fetch, update, List.find?_map]
  congr 2
  funext r
  by_cases hr : c r <;> simp [hr, hf]

theorem fetch_eq_none_iff : t.fetch k = none ↔ k ∉ t.rows.map key := by
  simp [fetch]

theorem fetch_put (t : Table ρ key) (r : ρ) (k : κ) :
    (t.put r).fetch k = if key r = k then some r else t.fetch k := by
  unfold put
  split
  · next hmem =>
    rw [fetch_update]
    by_cases hk : key r = k
    · subst hk
      obtain ⟨s, hs⟩ : ∃ s, t.fetch (key r) = some s := by
        rw [← Option.ne_none_iff_exists', ne_eq, fetch_eq_none_iff, not_not]
        exact hmem
      simp [hs, key_of_fetch hs]
    · rw [if_neg hk]
      cases hs : t.fetch k with
      | none => rfl
      | some s => simp [key_of_fetch hs, Ne.symm hk]
  · next hnew =>
    by_cases hk : key r = k
    · subst hk
      have hold := fetch_eq_none_iff.2 hnew
      unfold fetch at hold ⊢
      simp [insert, hold]
    · rw [if_neg hk]
      unfold fetch
      simp [insert, hk]

theorem fetch_remove (t : Table ρ key) (k' k : κ) :
    (t.remove k').fetch k = if k = k' then none else t.fetch k := by
  split
  · next hk =>
    rw [fetch_eq_none_iff, hk]
    simp [remove]
  · next hk =>
    unfold fetch remove
    rw [List.find?_filter]
    congr 1
    funext r
    by_cases hr : key r = k <;> simp [hr, hk]

theorem mem_put {r s : ρ} (h : s ∈ (t.put r).rows) : s = r ∨ s ∈ t.rows := by
  have hfetch := fetch_of_mem h
  rw [fetch_put] at hfetch
  split at hfetch
  · exact Or.inl (Option.some.inj hfetch).symm
  · exact Or.inr (mem_of_fetch hfetch)

theorem mem_put_self (t : Table ρ key) (r : ρ) : r ∈ (t.put r).rows :=
  mem_of_fetch (by rw [fetch_put, if_pos rfl])

theorem mem_put_of_ne {r s : ρ} (h : s ∈ t.rows) (hne : key r ≠ key s) : s ∈ (t.put r).rows := by
  refine mem_of_fetch (k := key s) ?_
  rw [fetch_put, if_neg hne, fetch_of_mem h]

theorem mem_keepLast_put {r : ρ} {n : ℕ} (hle : t.rows.length ≤ n) (hn : 0 < n) :
    r ∈ ((t.put r).keepLast n).rows := by
  change r ∈ (t.put r).rows.drop ((t.put r).rows.length - n)
  have hmem := mem_put_self t r
  unfold put at hmem ⊢
  split
  · next hold =>
    rw [dif_pos hold] at hmem
    rw [Nat.sub_eq_zero_of_le (by simpa [update] using hle), List.drop_zero]
    exact hmem
  · next hnew =>
    simp only [insert]
    rw [List.length_append, List.length_singleton, List.drop_append_of_le_length (by omega)]
    exact List.mem_append_right _ (List.mem_singleton_self r)

theorem mem_of_mem_remove {s : ρ} (h : s ∈ (t.remove k).rows) : s ∈ t.rows :=
  (List.mem_filter.1 h).1

theorem mem_foldl_remove {ks : List κ} {s : ρ} :
    s ∈ (ks.foldl remove t).rows ↔ s ∈ t.rows ∧ key s ∉ ks := by
  induction ks generalizing t with
  | nil => simp
  | cons k ks ih =>
    rw [List.foldl_cons, ih, remove, List.mem_filter, decide_eq_true_eq, List.mem_cons, not_or,
      and_assoc]

/-- A condition that pins the primary key matches one row exactly when the row
under that key satisfies it. -/
theorem rowcount_eq_one_iff {c : ρ → Prop} [DecidablePred c] (hc : ∀ r, c r → key r = k) :
    t.rowcount c = 1 ↔ ∃ r, t.fetch k = some r ∧ c r := by
  have hpos : 0 < t.rowcount c ↔ ∃ r, t.fetch k = some r ∧ c r := by
    rw [rowcount, List.countP_pos_iff]
    constructor
    · rintro ⟨r, hr, hcr⟩
      rw [decide_eq_true_eq] at hcr
      exact ⟨r, hc r hcr ▸ fetch_of_mem hr, hcr⟩
    · rintro ⟨r, hr, hcr⟩
      exact ⟨r, mem_of_fetch hr, decide_eq_true hcr⟩
  have hle : t.rowcount c ≤ 1 :=
    calc t.rowcount c ≤ t.rows.countP fun r => key r == k :=
          List.countP_mono_left fun r _ hr => by simpa using hc r (of_decide_eq_true hr)
      _ = (t.rows.map key).count k := by
          rw [List.count, List.countP_map]
          rfl
      _ ≤ 1 := List.nodup_iff_count_le_one.1 t.nodup k
  rw [← hpos]
  omega

theorem of_rowcount_eq_one {c : ρ → Prop} [DecidablePred c] {r : ρ} (hc : ∀ r, c r → key r = k)
    (hr : t.fetch k = some r) (h : t.rowcount c = 1) : c r := by
  obtain ⟨row, hrow, hcr⟩ := (rowcount_eq_one_iff hc).1 h
  rw [hr] at hrow
  cases hrow
  exact hcr

end Fetch

theorem rowcount_eq_zero_iff {t : Table ρ key} {c : ρ → Prop} [DecidablePred c] :
    t.rowcount c = 0 ↔ ∀ r ∈ t.rows, ¬ c r := by
  simp [rowcount, List.countP_eq_zero]

section Update

variable {t : Table ρ key} {c : ρ → Prop} [DecidablePred c] {f : ρ → ρ}
  {hf : ∀ r, key (f r) = key r}

theorem mem_select {p : ρ → Prop} [DecidablePred p] {le : ρ → ρ → Prop} [DecidableRel le] {r : ρ} :
    r ∈ t.select p le ↔ r ∈ t.rows ∧ p r := by
  rw [select, List.mem_insertionSort, List.mem_filter, decide_eq_true_eq]

theorem mem_rows_update {r : ρ} :
    r ∈ (t.update c f hf).rows ↔ ∃ r' ∈ t.rows, (if c r' then f r' else r') = r := by
  rw [update, List.mem_map]

theorem map_key_update : (t.update c f hf).rows.map key = t.rows.map key := by
  rw [update, List.map_map]
  refine List.map_congr_left fun r _ => ?_
  by_cases hr : c r <;> simp [hr, hf]

/-- An ordered read after an update is the updated read, when the update
changes neither the filter nor the order. -/
theorem select_update (hf : ∀ r, key (f r) = key r) (p : ρ → Prop) [DecidablePred p]
    (le : ρ → ρ → Prop) [DecidableRel le]
    (hp : ∀ r, p (f r) ↔ p r) (hle : ∀ r s, le (f r) s ↔ le r s)
    (hle' : ∀ r s, le r (f s) ↔ le r s) :
    (t.update c f hf).select p le = (t.select p le).map fun r => if c r then f r else r := by
  have hfilter : (t.rows.map fun r => if c r then f r else r).filter (fun r => decide (p r)) =
      (t.rows.filter fun r => decide (p r)).map fun r => if c r then f r else r := by
    rw [List.filter_map]
    congr 2
    funext r
    by_cases hr : c r <;> simp [hr, hp]
  rw [select, update, hfilter, select]
  refine (List.map_insertionSort le le _ _ fun a _ b _ => ?_).symm
  by_cases ha : c a <;> by_cases hb : c b <;> simp [ha, hb, hle, hle']

/-- An update that matches no row of a read leaves the read as it is. -/
theorem map_update_eq_self {l : List ρ} (h : ∀ r ∈ l, ¬ c r) :
    (l.map fun r => if c r then f r else r) = l := by
  conv_rhs => rw [← List.map_id l]
  exact List.map_congr_left fun r hr => if_neg (h r hr)

end Update

end Table

end Relational
