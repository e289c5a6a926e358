import CandleCraft.Outbox.Intent
import Mathlib.Data.List.Sort

/-!
# What is delivered

The parts that workers read, claim and hand to the transport are those the intent was committed
with, in every run: one for each chunk of the message, in order, with its text.
-/

namespace CandleCraft.Outbox

open Relational

/-- The parts that an intent asks for, numbered from `index` on. -/
def Intent.parts (digest : String → String) (intent : Intent) (partCount index : ℕ)
    (chunks : List String) : List PartIdentity :=
  (chunks.zipIdx index).map fun chunk => intent.part digest partCount chunk.2 chunk.1

section Commit

variable {digest : String → String} {intent : Intent} {now : Instant} {db : Database}
variable {partCount : ℕ}

theorem rows_insertPart {identity : PartIdentity} {delivery : PartDelivery}
    (hevent : identity.eventId ∈ db.events.rows.map Event.id)
    (hfree : ∀ p ∈ db.parts.rows, p.eventId = identity.eventId → p.partIndex ≠ identity.partIndex) :
    (db.insertPart identity delivery).parts.rows =
      db.parts.rows ++ [⟨identity, delivery, db.parts.nextKey⟩] := by
  unfold Database.insertPart
  rw [dif_neg]
  · rfl
  · rintro (⟨p, hp, heq, hindex⟩ | hmissing)
    · exact hfree p hp heq hindex
    · exact hmissing hevent

theorem identities_insertIntentParts {index : ℕ} {chunks : List String}
    (hevent : intent.eventId ∈ db.events.rows.map Event.id)
    (hbelow : ∀ p ∈ db.parts.rows, p.eventId = intent.eventId → p.partIndex < index) :
    ((insertIntentParts digest intent now partCount index chunks db).parts.rows.filter
        fun p => decide (p.eventId = intent.eventId)).map Part.toPartIdentity =
      (db.parts.rows.filter fun p => decide (p.eventId = intent.eventId)).map Part.toPartIdentity ++
        intent.parts digest partCount index chunks := by
  induction chunks generalizing index db with
  | nil => exact (List.append_nil _).symm
  | cons chunk chunks ih =>
    rw [insertIntentParts]
    have hrows : (db.insertPart (intent.part digest partCount index chunk) (.pending now)).parts.rows =
        _ := rows_insertPart hevent fun p hp heq => (hbelow p hp heq).ne
    rw [ih ((events_insertPart db _ _).1 ▸ hevent), hrows, List.filter_append,
      List.filter_singleton, decide_eq_true (by rfl)]
    · simp [Intent.parts]
    · intro p hp heq
      rw [hrows] at hp
      rcases List.mem_append.1 hp with hp | hp
      · exact Nat.lt_succ_of_lt (hbelow p hp heq)
      · rw [List.mem_singleton.1 hp]
        exact Nat.lt_succ_self index

theorem Intent.parts_pairwise (index : ℕ) (chunks : List String) :
    (intent.parts digest partCount index chunks).Pairwise fun a b => a.partIndex ≤ b.partIndex := by
  have hnumbers : ((chunks.zipIdx index).map Prod.snd).Pairwise (· ≤ ·) := by
    rw [List.zipIdx_map_snd]
    exact List.pairwise_le_range'
  exact List.pairwise_map.2 (List.pairwise_map.1 hnumbers)

theorem CommittedIntent.identities (h : CommittedIntent digest intent db) :
    ∃ chunks, splitMessage intent.messageText intent.maxMessageLength = .ok chunks ∧
      (db.partsOf intent.eventId).map Part.toPartIdentity =
        intent.parts digest chunks.length 1 chunks := by
  obtain ⟨chunks, now, before, partCount, hchunks, hreserved, rfl⟩ := h.inserted
  obtain ⟨ev, -, -, hev, -, -, -, -, -, hparts⟩ := hreserved
  generalize hstart : before.updateEvents (fun ev => ev.id = intent.eventId)
    (EventDelivery.intend intent chunks.length now) = start
  obtain ⟨row, hrow⟩ : ∃ row, start.events.fetch intent.eventId = some row := by
    rw [← hstart, Database.fetch_updateEvents, hev]
    exact ⟨_, rfl⟩
  -- the event has no parts before the intent, so that every index is free
  have hnone : ∀ p ∈ start.parts.rows, p.eventId ≠ intent.eventId := by
    rw [← hstart]
    exact fun p hp heq => List.not_mem_nil (hparts ▸ Database.mem_partsOf.2 ⟨hp, heq⟩)
  have hids := @identities_insertIntentParts digest intent now start chunks.length 1 chunks
    (List.mem_map.2 ⟨row, Table.mem_of_fetch hrow, Table.key_of_fetch hrow⟩)
    fun p hp heq => absurd heq (hnone p hp)
  have hfree : start.parts.rows.filter (fun p => decide (p.eventId = intent.eventId)) = [] :=
    List.filter_eq_nil_iff.2 fun p hp => by simpa using hnone p hp
  rw [hfree, List.map_nil, List.nil_append] at hids
  refine ⟨chunks, hchunks, ?_⟩
  rw [Database.partsOf, Table.select, List.Pairwise.insertionSort_eq]
  · exact hids
  · have hsorted := @Intent.parts_pairwise digest intent chunks.length 1 chunks
    rw [← hids, List.pairwise_map] at hsorted
    exact hsorted

end Commit

end CandleCraft.Outbox
